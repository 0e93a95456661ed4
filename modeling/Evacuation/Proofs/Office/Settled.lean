import Evacuation.Proofs.Office.History
import Evacuation.Proofs.Office.Play
/-!
# Settled offices

An office is settled when no clerk still owes the schedule the rest of a transaction: every timer
that was made has been started, every timer that was dropped has been cancelled, and every drain for
which a timer went off has begun or was dismissed. The main statement is that the tables are then in
full agreement with each other and with the timers that run, whatever the clerks did before and in
whatever order (`schedule_of_settled`).
-/
namespace Evacuation

variable {T : Type}

/-- The request is the rest of a transaction on the schedule. -/
def Control.Request.isOwed : Control.Request T → Bool
  | .arm _ _ | .start _ _ | .cancel _ | .transact (.launch _ _) => true
  | _ => false

/-- The clerk does not owe the schedule the rest of a transaction. -/
def Clerk.isSettled (clerk : Clerk T) : Bool :=
  match clerk.program with
  | .done _ => true
  | .ask request _ => !Control.Request.isOwed request

namespace Duty

/-- Nothing is owed to a timer that is still to run. -/
inductive IsSettled : Duty → Prop where
  | free : IsSettled free
  | execute (record : Nat) : IsSettled (execute record)
  | conclude (record : Nat) : IsSettled (conclude record)
  | dismissed : IsSettled dismissed
  | concluded : IsSettled concluded

theorem MaySpeak.isSettled {duty : Duty} (speaks : duty.MaySpeak) : duty.IsSettled := by
  cases speaks with
  | free => exact .free
  | execute record => exact .execute record
  | concluded => exact .concluded

/-- A settled clerk owes nothing to a timer that is still to run. -/
theorem isSettled_of_follows {clerk : Clerk T} {duty : Duty}
    (follows : Follows MayEnd clerk.program duty) (settled : clerk.isSettled = true) :
    duty.IsSettled := by
  obtain ⟨cause, program, away⟩ := clerk
  cases program with
  | done value =>
    cases follows with
    | speak speaks => exact speaks.isSettled
    | dismissed => exact .dismissed
  | ask request next =>
    obtain ⟨reply⟩ := Control.nonempty_reply request
    obtain ⟨later, allowed, _⟩ := follows reply
    cases allowed with
    | arm | start | cancel | launched | dismissed => cases settled
    | announce speaks => exact speaks.isSettled
    | drain record => exact .execute record
    | finish record => exact .conclude record
    | countDrain => exact .concluded
    | look | booked | unbooked | forget | clear | halt | cordon | countCordon | screen | release
    | complain => exact .free

end Duty

namespace Schedule.Agreed

variable {schedule : Schedule T} {roster : Roster}

/-- Where nothing is owed to timers, an armed timer runs. -/
theorem pending_of_armed (agreed : schedule.Agreed roster)
    (settled : ∀ duty, roster.Owes duty → duty.IsSettled) {node : String} {timer : Nat}
    (armed : schedule.armed.get? node = some timer) :
    ∃ found, schedule.timers[timer]? = some found ∧ found.state = .pending := by
  obtain ⟨found, stands, ⟨_, owes⟩ | pending | ⟨_, name, owes⟩⟩ := agreed.live armed
  · cases settled _ owes
  · exact ⟨found, stands, pending⟩
  · cases settled _ owes

/-- Where nothing is owed to timers, a timer that runs is armed. -/
theorem armed_of_pending (agreed : schedule.Agreed roster)
    (settled : ∀ duty, roster.Owes duty → duty.IsSettled) {timer : Nat} {found : Timer T}
    (stands : schedule.timers[timer]? = some found) (pending : found.state = .pending) :
    ∃ node, schedule.armed.get? node = some timer := by
  apply Classical.byContradiction
  intro unarmed
  obtain ⟨first, others, owes, _⟩ :=
    agreed.idle stands (.inr pending) fun node armed => unarmed ⟨node, armed⟩
  cases settled _ owes

end Schedule.Agreed

namespace Schedule

variable {schedule : Schedule T}

/-- A node has an armed timer exactly if its record waits for its drain. -/
theorem Consistent.contains_armed_iff (consistent : schedule.Consistent) {node : String} :
    schedule.armed.contains node = true ↔
      ∃ record, schedule.current? node = some record ∧ record.phase = .scheduled := by
  rw [Table.contains_iff]
  constructor
  · rintro ⟨timer, armed⟩
    obtain ⟨tracked, record, found, waits⟩ := consistent.armed.mp armed
    exact ⟨record, by simp [current?, tracked, found], waits⟩
  · rintro ⟨record, current, waits⟩
    obtain ⟨place, tracked, found⟩ := Option.bind_eq_some_iff.mp current
    exact ⟨place, consistent.armed.mpr ⟨tracked, record, found, waits⟩⟩

/-- An armed timer was made for the node and with the node's current record. -/
theorem Consistent.made_of_armed (consistent : schedule.Consistent) {node : String} {timer : Nat}
    (armed : schedule.armed.get? node = some timer) :
    ∃ found, schedule.timers[timer]? = some found ∧ found.node.name = node ∧
      schedule.tracked.get? node = some found.record := by
  have tracked := (consistent.armed.mp armed).1
  have inside := consistent.lt_of_armed armed
  have stands := List.getElem?_eq_getElem inside
  obtain ⟨same, record, at_place, named⟩ := consistent.own stands
  obtain ⟨also, there, rfl⟩ := consistent.tracked tracked
  rw [at_place] at there
  cases there
  exact ⟨_, stands, named.symm, by rw [same]; exact tracked⟩

/-- The history of a timer shows it running exactly if it was made and runs. -/
theorem Told.pending_iff {deeds : List (Deed T)} (told : schedule.Told deeds) {timer : Nat} :
    (∃ found, schedule.timers[timer]? = some found ∧ found.state = .pending) ↔
      (∃ deed ∈ deeds, deed.starts timer) ∧ (∀ deed ∈ deeds, deed.cancels timer = false) ∧
        ∀ deed ∈ deeds, deed.fires timer = false := by
  have history : TimerState.after deeds timer = .pending ↔
      (∃ deed ∈ deeds, deed.starts timer) ∧ (∀ deed ∈ deeds, deed.cancels timer = false) ∧
        ∀ deed ∈ deeds, deed.fires timer = false := by
    rw [TimerState.after, TimerState.ofHistory_eq_pending_iff]
    simp only [List.any_eq_true, List.any_eq_false, Bool.not_eq_true]
  rw [← history]
  constructor
  · rintro ⟨found, stands, pending⟩
    rw [← told.state stands, pending]
  · intro pending
    have made : timer < schedule.timers.length := by
      apply Classical.byContradiction
      intro beyond
      rw [told.unmade (by omega)] at pending
      cases pending
    have stands := List.getElem?_eq_getElem made
    exact ⟨_, stands, (told.state stands).trans pending⟩

end Schedule

namespace Office

/-- In a settled office no timer is about to be started, cancelled or answered. -/
theorem Sound.isSettled {office : Office T} {roster : Roster} (sound : office.Sound roster)
    (settled : ∀ clerk ∈ office.clerks, clerk.isSettled = true) {duty : Duty}
    (owes : roster.Owes duty) : duty.IsSettled := by
  obtain ⟨clerk, worker, found, _, follows⟩ := sound.of_owes owes
  exact Duty.isSettled_of_follows follows (settled worker (List.mem_of_getElem? found))

variable [TimeScale T]

/-- Whatever the clerks of a fresh office have done, once they are settled, a node has an armed
timer exactly if its record waits for its drain; the armed timer was made with just that record; no
record is left as it was made; the armed timers are those that were started and neither cancelled
nor gone off, and no node has two of them. -/
theorem schedule_of_settled {controller : Controller T} {buffer : DrainBuffer T}
    {deeds : List (Deed T)} {office : Office T}
    (run : Run controller (opened buffer) deeds office)
    (settled : ∀ clerk ∈ office.clerks, clerk.isSettled = true) :
    (∀ node, office.desk.schedule.armed.contains node = true ↔
      ∃ record, office.desk.schedule.current? node = some record ∧ record.phase = .scheduled) ∧
    (∀ node timer, office.desk.schedule.armed.get? node = some timer →
      ∃ found, office.desk.schedule.timers[timer]? = some found ∧ found.node.name = node ∧
        office.desk.schedule.tracked.get? node = some found.record) ∧
    (∀ record ∈ office.desk.schedule.current, record.phase ≠ .cordoned) ∧
    (∀ timer, timer ∈ office.desk.schedule.armed.values ↔
      (∃ deed ∈ deeds, deed.starts timer) ∧ (∀ deed ∈ deeds, deed.cancels timer = false) ∧
        ∀ deed ∈ deeds, deed.fires timer = false) ∧
    (∀ (timer other : Nat) (found also : Timer T),
      office.desk.schedule.timers[timer]? = some found →
        office.desk.schedule.timers[other]? = some also → found.state = .pending →
          also.state = .pending → found.node.name = also.node.name → timer = other) := by
  obtain ⟨roster, sound⟩ := run.sound
  have agreed := sound.agreed
  have consistent := agreed.consistent
  have nothing_owed : ∀ duty, roster.Owes duty → duty.IsSettled := fun _ => sound.isSettled settled
  refine ⟨fun node => consistent.contains_armed_iff, fun node timer => consistent.made_of_armed,
    ?_, ?_, ?_⟩
  · intro record listed
    obtain ⟨place, _, found⟩ := List.mem_filterMap.mp listed
    exact consistent.scheduled found
  · intro timer
    rw [← run.told.pending_iff, consistent.armed_proper.mem_values_iff]
    constructor
    · rintro ⟨node, armed⟩
      exact agreed.pending_of_armed nothing_owed armed
    · rintro ⟨found, stands, pending⟩
      exact agreed.armed_of_pending nothing_owed stands pending
  · intro timer other found also stands stood pending runs same
    obtain ⟨node, armed⟩ := agreed.armed_of_pending nothing_owed stands pending
    obtain ⟨name, also_armed⟩ := agreed.armed_of_pending nothing_owed stood runs
    obtain ⟨_, at_place, rfl, _⟩ := consistent.made_of_armed armed
    obtain ⟨_, also_at_place, rfl, _⟩ := consistent.made_of_armed also_armed
    rw [stands] at at_place
    rw [stood] at also_at_place
    cases at_place
    cases also_at_place
    rw [same, also_armed] at armed
    exact (Option.some.inj armed).symm

/-- A node leaves and comes back before the timer of its first drain is cancelled, and that timer
still goes off. -/
def comeback : List (Move Rat) :=
  [.command (.schedule { name := "n1" }), .ask 0 0, .ask 0 0, .ask 0 0,
    .command (.delete "n1"), .ask 1 1,
    .command (.schedule { name := "n1" }), .ask 2 2, .ask 2 2, .ask 2 2,
    .ask 1 3, .fire 0 7, .ask 3 7]

theorem isSome_comeback :
    (play? { drainer := .dryRun, chain := [] } comeback (opened ⟨60, none⟩)).isSome = true := by
  decide +kernel

/-- After a node has come back, the timer made for its new record is the one that runs. -/
theorem schedule_of_settled_comeback :
    ∃ (deeds : List (Deed Rat)) (office : Office Rat),
      Run { drainer := .dryRun, chain := [] } (opened ⟨60, none⟩) deeds office ∧
      (∀ clerk ∈ office.clerks, clerk.isSettled = true) ∧
      office.desk.schedule.armed.get? "n1" = some 1 ∧
      (∃ found, office.desk.schedule.timers[1]? = some found ∧ found.node.name = "n1" ∧
        office.desk.schedule.tracked.get? "n1" = some found.record) ∧
      (∃ deed ∈ deeds, deed.starts 1) ∧ (∀ deed ∈ deeds, deed.cancels 1 = false) ∧
        ∀ deed ∈ deeds, deed.fires 1 = false := by
  have run := Run.of_play? (Option.some_get isSome_comeback).symm
  have settled : ∀ clerk ∈ (Option.get _ isSome_comeback).2.clerks, clerk.isSettled = true := by
    decide +kernel
  have armed : (Option.get _ isSome_comeback).2.desk.schedule.armed.get? "n1" = some 1 := by
    decide +kernel
  obtain ⟨_, made, _, runs, _⟩ := schedule_of_settled run settled
  have listed : 1 ∈ (Option.get _ isSome_comeback).2.desk.schedule.armed.values := by
    decide +kernel
  exact ⟨_, _, run, settled, armed, made "n1" 1 armed, (runs 1).mp listed⟩

end Office

end Evacuation
