import Evacuation.Proofs.Office.Agreement
/-!
# Sound offices

An office is sound with a roster that says what each of its clerks owes, if every clerk's program
keeps to the duty and the schedule on the desk agrees with the roster. Every step of the work keeps
an office sound, so every office that is reached from a fresh desk is sound (`Run.sound`).
-/
namespace Evacuation

variable {T : Type} [TimeScale T]

/-- The result that a request counts, and its series. -/
def Control.Request.counted? : Control.Request T → Option (Series × Success)
  | .count series success => some (series, success)
  | _ => none

namespace Controller

variable (controller : Controller T) (now : T) (desk : Desk T)

/-- A timer that was made goes off with its node and its record. -/
theorem atDesk_fire {timer : Nat} {found : Timer T}
    (stands : desk.schedule.timers[timer]? = some found) :
    controller.atDesk now (.fire timer) desk =
      (some (found.node, found.record),
        { desk with schedule := desk.schedule.turnTimer timer .fire }) := by
  simp only [atDesk, answer, id, stands]
  rfl

/-- Only a transaction changes the tables. -/
theorem tables_atDesk {request : Control.Request T} (here : request.isErrand = false)
    (other : ∀ transaction, request ≠ .transact transaction) :
    (controller.atDesk now request desk).2.schedule.tracked = desk.schedule.tracked ∧
      (controller.atDesk now request desk).2.schedule.armed = desk.schedule.armed := by
  cases request with
  | transact transaction => exact absurd rfl (other transaction)
  | fire timer =>
    cases there : desk.schedule.timers[timer]? with
    | none => simp only [atDesk, answer, id, there, and_self]
    | some found =>
      rw [atDesk_fire controller now desk there]
      exact ⟨rfl, rfl⟩
  | announce | cordon | drain => cases here
  | start | cancel | arm | count | screen | release | complain => exact ⟨rfl, rfl⟩

/-- Only a booking for a node makes it tracked. -/
theorem untracked_atDesk {request : Control.Request T} {name : String}
    (here : request.isErrand = false)
    (other : ∀ node, request = .transact (.book node) → node.name ≠ name)
    (untracked : desk.schedule.tracked.get? name = none) :
    (controller.atDesk now request desk).2.schedule.tracked.get? name = none := by
  by_cases transacts : ∃ transaction, request = .transact transaction
  · obtain ⟨transaction, rfl⟩ := transacts
    exact Schedule.untracked_transact now (fun node same => other node (congrArg _ same)) untracked
  · rw [(tables_atDesk controller now desk here (not_exists.mp transacts)).1]
    exact untracked

/-- Only a booking for a node arms a timer for it. -/
theorem unarmed_atDesk {request : Control.Request T} {name : String}
    (here : request.isErrand = false)
    (other : ∀ node, request = .transact (.book node) → node.name ≠ name)
    (unarmed : desk.schedule.armed.get? name = none) :
    (controller.atDesk now request desk).2.schedule.armed.get? name = none := by
  by_cases transacts : ∃ transaction, request = .transact transaction
  · obtain ⟨transaction, rfl⟩ := transacts
    exact Schedule.unarmed_transact now (fun node same => other node (congrArg _ same)) unarmed
  · rw [(tables_atDesk controller now desk here (not_exists.mp transacts)).2]
    exact unarmed

/-- A result is added to the counts exactly if that is asked for. -/
theorem count_atDesk {request : Control.Request T} (here : request.isErrand = false)
    (series : Series) (success : Success) :
    (controller.atDesk now request desk).2.metrics.count series success.label =
      desk.metrics.count series success.label + request.counted?.toList.count (series, success) := by
  cases request with
  | count other result =>
    show (desk.metrics.record other result.label).count _ _ = _
    rw [Metrics.count_record]
    cases series <;> cases other <;> cases success <;> cases result <;> rfl
  | fire timer =>
    cases there : desk.schedule.timers[timer]? with
    | none =>
      simp only [atDesk, answer, id, there]
      rfl
    | some found =>
      rw [atDesk_fire controller now desk there]
      rfl
  | announce | cordon | drain => cases here
  | transact | start | cancel | arm | screen | release | complain => rfl

end Controller

namespace Schedule

/-- Whatever the desk answers to a request that a duty allows, schedule and roster agree after it,
with the duty that is left. -/
theorem Agreed.answer {controller : Controller T} {now : T} {desk : Desk T} {roster : Roster}
    {clerk : Nat} {cause : Cause} {duty later : Duty} {request : Control.Request T}
    {reply : (Control T).Reply request} (agreed : desk.schedule.Agreed roster)
    (here : roster[clerk]? = some (cause, duty)) (at_desk : request.isErrand = false)
    (given : (controller.atDesk now request desk).1 = reply)
    (allowed : Duty.Allows duty request reply later) :
    (controller.atDesk now request desk).2.schedule.Agreed (roster.set clerk (cause, later)) := by
  cases allowed with
  | look node reply => exact agreed.stay here
  | booked node appointment => exact agreed.book here (Prod.ext given rfl)
  | unbooked node failure =>
    have unchanged : (desk.schedule.book now node).2 = desk.schedule :=
      book_eq_error (Prod.ext given rfl)
    show Agreed (desk.schedule.book now node).2 _
    rw [unchanged]
    exact agreed.stay here
  | arm timer interval => exact agreed.stay here
  | start timer label => exact agreed.start here
  | forget node reply =>
    rw [← given]
    exact agreed.forget here node
  | clear node reply => exact (agreed.clear node).stay here
  | halt reply =>
    rw [← given]
    exact agreed.halt here
  | cancel timer others => exact agreed.cancel here
  | launched node record => exact agreed.launched here now (launch_iff.mp given)
  | dismissed node record =>
    have gone : (desk.schedule.launch now node record).1 = false := given
    show Agreed (desk.schedule.launch now node record).2 _
    rw [(launch_dismissed gone).2]
    exact agreed.dismissed here (launch_dismissed gone).1
  | finish record retries error => exact agreed.finish here now retries error
  | drain | announce | cordon => cases at_desk
  | countCordon success => exact agreed.stay here
  | countDrain success => exact agreed.stay here
  | screen node reply => exact agreed.stay here
  | release node => exact agreed.stay here
  | complain message => exact agreed.stay here

end Schedule

namespace Office

/-- The roster says what each clerk owes, and the schedule agrees with it. -/
structure Sound (office : Office T) (roster : Roster) : Prop where
  length : roster.length = office.clerks.length
  follows {place : Nat} {clerk : Clerk T} : office.clerks[place]? = some clerk →
    ∃ duty, roster[place]? = some (clerk.cause, duty) ∧
      Duty.Follows Duty.MayEnd clerk.program duty
  /-- Who is away is on an errand. -/
  errand {clerk : Nat} {cause : Cause} {request : Control.Request T}
    {next : (Control T).Reply request → Controlling T (Except Failure Unit)} :
    office.clerks[clerk]? = some ⟨cause, .ask request next, true⟩ → request.isErrand = true
  agreed : office.desk.schedule.Agreed roster

namespace Sound

variable {office : Office T} {roster : Roster}

omit [TimeScale T] in
/-- One clerk goes on, with a duty that agrees with the desk. -/
theorem move {clerk : Nat} {cause : Cause} {before after : Controlling T (Except Failure Unit)}
    {was away : Bool} {duty : Duty} {desk : Desk T} (sound : office.Sound roster)
    (here : office.clerks[clerk]? = some ⟨cause, before, was⟩)
    (agreed : desk.schedule.Agreed (roster.set clerk (cause, duty)))
    (follows : Duty.Follows Duty.MayEnd after duty)
    (errand : away = true → ∀ {request next}, after = .ask request next → request.isErrand = true) :
    Sound { desk, clerks := office.clerks.set clerk ⟨cause, after, away⟩ }
      (roster.set clerk (cause, duty)) := by
  have inside := (List.getElem?_eq_some_iff.mp here).1
  have length := sound.length
  refine ⟨by simp [length], ?_, ?_, agreed⟩
  · intro place worker found
    rw [List.getElem?_set] at found ⊢
    split at found
    · rename_i same
      cases found
      exact ⟨duty, by rw [if_pos same, if_pos (by omega)], follows⟩
    · rename_i other
      obtain ⟨owed, entry, keeps⟩ := sound.follows found
      exact ⟨owed, by rwa [if_neg other], keeps⟩
  · intro place origin request next found
    rw [List.getElem?_set] at found
    split at found
    · cases found
      exact errand rfl rfl
    · exact sound.errand found

/-- One more clerk begins, with the duty of the cause. -/
theorem engage {desk : Desk T} {cause : Cause} (sound : office.Sound roster)
    (agreed : desk.schedule.Agreed (roster ++ [(cause, cause.duty)])) :
    Sound (({ office with desk } : Office T).engage cause) (roster ++ [(cause, cause.duty)]) := by
  have length := sound.length
  refine ⟨by simp [Office.engage, length], ?_, ?_, agreed⟩
  · intro place worker found
    simp only [Office.engage, List.getElem?_append, List.getElem?_singleton] at found ⊢
    split at found
    · rename_i inside
      rw [if_pos (by omega)]
      exact sound.follows found
    · split at found <;> cases found
      rw [if_neg (by omega), if_pos (by omega)]
      exact ⟨_, rfl, cause.follows_program⟩
  · intro place origin request next found
    simp only [Office.engage, List.getElem?_append, List.getElem?_singleton] at found
    split at found
    · exact sound.errand found
    · split at found
      · have away := congrArg Clerk.away (Option.some.inj found)
        cases away
      · cases found

omit [TimeScale T] in
/-- What is owed is owed by a clerk of the office, whose program keeps to the duty. -/
theorem of_owes {duty : Duty} (sound : office.Sound roster) (owes : roster.Owes duty) :
    ∃ (clerk : Nat) (worker : Clerk T), office.clerks[clerk]? = some worker ∧
      roster[clerk]? = some (worker.cause, duty) ∧
        Duty.Follows Duty.MayEnd worker.program duty := by
  obtain ⟨cause, member⟩ := owes
  obtain ⟨clerk, inside, entry⟩ := List.mem_iff_getElem.mp member
  have at_place : roster[clerk]? = some (cause, duty) := entry ▸ List.getElem?_eq_getElem inside
  have found := List.getElem?_eq_getElem (sound.length ▸ inside)
  obtain ⟨owed, also, follows⟩ := sound.follows found
  cases at_place.symm.trans also
  exact ⟨clerk, _, found, at_place, follows⟩

/-- Every step keeps an office sound. -/
theorem step {controller : Controller T} {deed : Deed T} {later : Office T}
    (sound : office.Sound roster) (step : Step controller office deed later) :
    ∃ roster, later.Sound roster := by
  cases step with
  | command given => exact ⟨_, sound.engage (sound.agreed.command given)⟩
  | fire stands ready now =>
    rw [Controller.atDesk_fire controller now office.desk stands]
    exact ⟨_, sound.engage (sound.agreed.fire stands ready)⟩
  | ask found here now =>
    obtain ⟨duty, entry, follows⟩ := sound.follows found
    obtain ⟨later, allowed, keeps⟩ := follows (controller.atDesk now _ office.desk).1
    exact ⟨_, sound.move found (sound.agreed.answer entry here rfl allowed) keeps nofun⟩
  | send found errand =>
    obtain ⟨duty, entry, follows⟩ := sound.follows found
    refine ⟨_, sound.move found (sound.agreed.stay entry) follows ?_⟩
    rintro _ request next ⟨⟩
    exact errand
  | back found outcome =>
    obtain ⟨duty, entry, follows⟩ := sound.follows found
    obtain ⟨later, allowed, keeps⟩ := follows (Control.settle _ outcome)
    exact ⟨_, sound.move found (sound.agreed.errand entry (sound.errand found) allowed) keeps nofun⟩

end Sound

/-- Every office that is reached from a fresh desk is sound. -/
theorem Run.sound {controller : Controller T} {buffer : DrainBuffer T} {deeds : List (Deed T)}
    {office : Office T} (run : Run controller (opened buffer) deeds office) :
    ∃ roster, office.Sound roster := by
  induction run with
  | here =>
    exact ⟨[], rfl, fun found => by simp [opened] at found, fun found => by simp [opened] at found,
      Schedule.agreed_opened buffer⟩
  | snoc _ step ih =>
    obtain ⟨roster, sound⟩ := ih
    exact sound.step step

end Office

end Evacuation
