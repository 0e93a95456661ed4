import Evacuation.Proofs.Office.Confinement
import Evacuation.Proofs.Office.Play
import Evacuation.Proofs.Office.Trails
/-!
# Drains and their records

A record and the clerk for whom its timer goes off belong together for good, however often the node
is forgotten and booked again. The main statement is `drains_of_record`: a drain is carried out at
most once for a record, and only if the record was the current one of its node when the drain began;
once a record was dropped that still waited, its timer goes off without any effect; and whatever is
done for a record leaves the other records and their timers alone.
-/
namespace Evacuation

variable {T : Type}

/-- A drain is sent out on behalf of a record. -/
def Deed.drains (record : Nat) : Deed T → Bool
  | sent _ (.timer _ _ place) (.drain _) => place == record
  | _ => false

theorem Deed.drains_iff {record : Nat} {deed : Deed T} : deed.drains record = true ↔
    ∃ clerk timer node target, deed = .sent clerk (.timer timer node record) (.drain target) := by
  constructor
  · intro drains
    unfold Deed.drains at drains
    split at drains
    · rw [beq_iff_eq] at drains
      subst drains
      exact ⟨_, _, _, _, rfl⟩
    · cases drains
  · rintro ⟨clerk, timer, node, target, rfl⟩
    exact beq_self_eq_true record

namespace Office

variable [TimeScale T] {controller : Controller T} {office : Office T} {roster : Roster}

omit [TimeScale T] in
/-- The clerks who work for one record are one. -/
theorem Sound.alone (sound : office.Sound roster) {first second : Nat} {one two : Clerk T}
    {timer other record : Nat} {node name : Node} (here : office.clerks[first]? = some one)
    (there : office.clerks[second]? = some two) (cause : one.cause = .timer timer node record)
    (same : two.cause = .timer other name record) : first = second := by
  obtain ⟨duty, entry, _⟩ := sound.follows here
  obtain ⟨task, also, _⟩ := sound.follows there
  rw [cause] at entry
  rw [same] at also
  obtain rfl := sound.agreed.consistent.record_eq (sound.agreed.fits entry).wentOff
  obtain rfl := sound.agreed.consistent.record_eq (sound.agreed.fits also).wentOff
  exact sound.agreed.alone entry also

/-- A drain is sent out for the node of its timer, and only after it began while its record was the
current one of the node. -/
theorem Run.current_of_drain {buffer : DrainBuffer T} {deeds : List (Deed T)} {later : Office T}
    {place timer record : Nat} {node target : Node}
    (run : Run controller (opened buffer) deeds office)
    (step : Step controller office (.sent place (.timer timer node record) (.drain target)) later) :
    target = node ∧ ∃ before after start, deeds = before ++
        .asked place (.timer timer node record) ⟨.transact (.launch node.name record), true⟩ ::
          after ∧
      Run controller (opened buffer) before start ∧
        start.desk.schedule.tracked.get? node.name = some record := by
  cases step with
  | send found errand =>
  have reached := run.logged.reaches found
  obtain ⟨rfl, path⟩ := Control.path_of_drain reached
  refine ⟨rfl, ?_⟩
  have logged : Control.launching target record true ∈ Deed.log deeds place := by
    rw [path]
    exact List.mem_cons_self
  obtain ⟨before, after, start, now, same, earlier, begun⟩ := run.of_mem_log found rfl logged
  exact ⟨before, after, start, same, earlier, Schedule.launch_iff.mp begun⟩

/-- Who sends a drain out has not sent one out before. -/
theorem Run.drain_once {buffer : DrainBuffer T} {deeds : List (Deed T)} {deed other : Deed T}
    {later : Office T} {record : Nat} (run : Run controller (opened buffer) deeds office)
    (step : Step controller office deed later) (drains : deed.drains record = true)
    (earlier : other ∈ deeds) : other.drains record = false := by
  apply Bool.eq_false_iff.mpr
  intro also
  obtain ⟨clerk, timer, node, target, rfl⟩ := Deed.drains_iff.mp drains
  obtain ⟨place, mark, name, goal, rfl⟩ := Deed.drains_iff.mp also
  obtain ⟨roster, sound⟩ := run.sound
  obtain ⟨before, after, rfl⟩ := List.append_of_mem earlier
  obtain ⟨start, next, first, sending, onward⟩ := run.step_of_append
  obtain ⟨_, found, _⟩ := step.of_sent
  obtain ⟨_, stood, went⟩ := sending.of_sent
  obtain ⟨worker, there, cause⟩ := run.logged.known earlier
  obtain rfl : clerk = place := sound.alone found there rfl cause
  -- Both times the clerk has come equally far, so nothing came back to it in between.
  obtain ⟨_, path⟩ := Control.path_of_drain (run.logged.reaches found)
  obtain ⟨_, path_then⟩ := Control.path_of_drain (first.logged.reaches stood)
  have still : Deed.log after clerk = [] := by
    rw [List.append_cons, Deed.log_append, Deed.log_concat_of_none rfl, path_then] at path
    exact List.length_eq_zero_iff.mp (by simpa using congrArg List.length path)
  obtain ⟨_, stands, _, _, waits⟩ := onward.clerk went
  have away := waits rfl still
  rw [found] at stands
  cases stands
  cases away

/-- A drain is sent out at most once for a record. -/
theorem Run.countP_drains_le {buffer : DrainBuffer T} {deeds : List (Deed T)}
    (run : Run controller (opened buffer) deeds office) (record : Nat) :
    deeds.countP (·.drains record) ≤ 1 := by
  induction run with
  | here => exact Nat.zero_le _
  | @snoc deeds deed _ _ run step ih =>
    rw [List.countP_append, List.countP_singleton]
    split
    · rename_i drains
      have none_before : deeds.countP (·.drains record) = 0 := by
        rw [List.countP_eq_zero]
        intro other earlier
        rw [run.drain_once step drains earlier]
        exact Bool.false_ne_true
      omega
    · exact ih

/-- A record that waited and was dropped stays dropped for good. -/
theorem Run.dropped {buffer : DrainBuffer T} {deeds more : List (Deed T)} {later : Office T}
    {record : Nat} (run : Run controller (opened buffer) deeds office)
    (onward : Run controller office more later) (dropped : office.desk.schedule.Dropped record) :
    later.desk.schedule.Dropped record := by
  induction onward with
  | here => exact dropped
  | snoc onward step ih =>
    obtain ⟨roster, sound⟩ := (run.trans onward).sound
    exact sound.dropped step ih

/-- Forgetting the node of a record that waits, or halting, drops the record. -/
theorem Sound.dropped_of_asked {place : Nat} {cause : Cause} {transaction : Transaction}
    {reply : transaction.Reply T} {later : Office T} {name : String} {record : Nat}
    (sound : office.Sound roster)
    (step : Step controller office (.asked place cause ⟨.transact transaction, reply⟩) later)
    (removal : transaction = .forget name ∨ transaction = .halt)
    (tracked : office.desk.schedule.tracked.get? name = some record)
    (waits : office.desk.schedule.InPhase record .scheduled) :
    later.desk.schedule.Dropped record := by
  have consistent := sound.agreed.consistent
  cases step with
  | ask found here now =>
    obtain rfl | rfl := removal
    · exact consistent.dropped_forget tracked waits
    · exact consistent.dropped_halt tracked waits

/-- From a fresh desk on, the drain of a record is sent out at most once, and only after it began
while the record was the current one of its node. Once the record was dropped by forgetting its node
or by halting, while it waited for its timer, all that is still done for it is that the timer goes
off and the drain does not begin, which changes nothing on the desk but the state of that timer. What
is done for the record at any time leaves all other records, their timers and what is tracked and
armed for them as they are. -/
theorem drains_of_record {buffer : DrainBuffer T} {deeds : List (Deed T)}
    (run : Run controller (opened buffer) deeds office) (record : Nat) :
    deeds.countP (·.drains record) ≤ 1 ∧
    (∀ {place timer : Nat} {node target : Node} {later : Office T},
      Step controller office (.sent place (.timer timer node record) (.drain target)) later →
        target = node ∧ ∃ before after start, deeds = before ++
            .asked place (.timer timer node record) ⟨.transact (.launch node.name record), true⟩ ::
              after ∧
          Run controller (opened buffer) before start ∧
            start.desk.schedule.tracked.get? node.name = some record) ∧
    (∀ {place : Nat} {cause : Cause} {transaction : Transaction} {reply : transaction.Reply T}
      {removed : Office T} {name : String},
      Step controller office (.asked place cause ⟨.transact transaction, reply⟩) removed →
      transaction = .forget name ∨ transaction = .halt →
      office.desk.schedule.tracked.get? name = some record →
      office.desk.schedule.InPhase record .scheduled →
      ∀ {more : List (Deed T)} {before after : Office T} {deed : Deed T} {timer : Nat} {node : Node},
        Run controller removed more before → Step controller before deed after →
        deed.cause = .timer timer node record →
        (deed = .began deed.clerk deed.cause ∨ deed = .asked deed.clerk deed.cause
          ⟨.transact (.launch node.name record), false⟩) ∧
        after.desk = { before.desk with
          schedule := { before.desk.schedule with timers := after.desk.schedule.timers } } ∧
        ∀ other, other ≠ record →
          after.desk.schedule.timers[other]? = before.desk.schedule.timers[other]?) ∧
    (∀ {deed : Deed T} {later : Office T} {timer : Nat} {node : Node},
      Step controller office deed later → deed.cause = .timer timer node record →
        office.desk.schedule.SameBut record later.desk.schedule) := by
  obtain ⟨roster, sound⟩ := run.sound
  refine ⟨run.countP_drains_le record, fun step => run.current_of_drain step, ?_,
    fun step cause => sound.confined step cause⟩
  intro place cause transaction reply removed name step removal tracked waits more before after deed
    timer node onward later_step worked_for
  have dropped := sound.dropped_of_asked step removal tracked waits
  have still := (run.snoc step).dropped onward dropped
  obtain ⟨_, sound_before⟩ := ((run.snoc step).trans onward).sound
  obtain ⟨quiet, same⟩ := sound_before.quiet later_step worked_for still
  exact ⟨quiet, same, fun other elsewhere =>
    (sound_before.confined later_step worked_for).timers elsewhere⟩

/-- The timer of a dropped record goes off, and then the one of the node's new record, up to where its
drain is sent out. -/
def lateTimer : List (Move Rat) :=
  [.command (.schedule { name := "n1" }), .ask 0 0, .ask 0 0, .ask 0 0,
    .command (.delete "n1"), .ask 1 1,
    .command (.schedule { name := "n1" }), .ask 2 2, .ask 2 2, .ask 2 2,
    .fire 0 7, .ask 3 7,
    .fire 1 70, .ask 4 70, .send 4, .back 4 (.error (.refused ⟨some 500, none⟩))]

theorem isSome_lateTimer :
    (play? { drainer := .dryRun, chain := [] } lateTimer (opened ⟨60, none⟩)).isSome = true := by
  decide +kernel

theorem isSome_lateTimer_send : ((Option.get _ isSome_lateTimer).2.move?
    { drainer := .dryRun, chain := [] } (.send 4)).isSome = true := by
  decide +kernel

/-- Only the new record of a node that came back is drained. -/
theorem drains_of_record_lateTimer :
    ∃ (deeds : List (Deed Rat)) (office later : Office Rat) (node : Node),
      Run { drainer := .dryRun, chain := [] } (opened ⟨60, none⟩) deeds office ∧
      Step { drainer := .dryRun, chain := [] } office
        (.sent 4 (.timer 1 node 1) (.drain node)) later ∧
      deeds.countP (·.drains 1) ≤ 1 ∧
      ∃ before after start, deeds = before ++
          .asked 4 (.timer 1 node 1) ⟨.transact (.launch node.name 1), true⟩ :: after ∧
        Run { drainer := .dryRun, chain := [] } (opened ⟨60, none⟩) before start ∧
          start.desk.schedule.tracked.get? node.name = some 1 := by
  have run := Run.of_play? (Option.some_get isSome_lateTimer).symm
  have step : Step { drainer := .dryRun, chain := [] } _
      (.sent 4 (.timer 1 { name := "n1" } 1) (.drain { name := "n1" })) _ :=
    Step.of_move? (Option.some_get isSome_lateTimer_send).symm
  have all := drains_of_record run 1
  exact ⟨_, _, _, { name := "n1" }, run, step, all.1, (all.2.1 step).2⟩

end Office

end Evacuation
