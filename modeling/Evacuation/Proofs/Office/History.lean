import Evacuation.Proofs.Office.Sound
/-!
# The history of timers

What has been done with a timer shows in the deeds of a run: it was started, it was cancelled, it
went off. The main statement is that the state of every timer on the desk is what its history says
(`Run.told`), so what the schedule says about timers is a statement about the deeds.
-/
namespace Evacuation

variable {T : Type}

namespace Deed

/-- A timer is started. -/
def starts (timer : Nat) : Deed T → Bool
  | asked _ _ ⟨.start other _, _⟩ => other == timer
  | _ => false

/-- A timer is cancelled. -/
def cancels (timer : Nat) : Deed T → Bool
  | asked _ _ ⟨.cancel other, _⟩ => other == timer
  | _ => false

/-- A timer goes off. -/
def fires (timer : Nat) : Deed T → Bool
  | began _ (.timer other _ _) => other == timer
  | _ => false

end Deed

namespace TimerState

/-- The state of a timer that was or was not started, was or was not cancelled, and did or did not
go off. -/
def ofHistory : (started cancelled went : Bool) → TimerState
  | _, _, true => fired
  | _, true, false => cancelled
  | true, false, false => pending
  | false, false, false => fresh

theorem ofHistory_eq_pending_iff {started cancelled went : Bool} :
    ofHistory started cancelled went = pending ↔
      started = true ∧ cancelled = false ∧ went = false := by
  cases started <;> cases cancelled <;> cases went <;> simp [ofHistory]

/-- The state of a timer after deeds. -/
def after (deeds : List (Deed T)) (timer : Nat) : TimerState :=
  ofHistory (deeds.any (·.starts timer)) (deeds.any (·.cancels timer))
    (deeds.any (·.fires timer))

/-- A deed that concerns the timer moves its state on. -/
theorem after_concat (deeds : List (Deed T)) (deed : Deed T) (timer : Nat) :
    after (deeds ++ [deed]) timer =
      if deed.fires timer then (after deeds timer).fire
      else if deed.cancels timer then (after deeds timer).cancel
      else if deed.starts timer then (after deeds timer).start
      else after deeds timer := by
  simp only [after, List.any_append, List.any_cons, List.any_nil, Bool.or_false]
  generalize deeds.any (·.starts timer) = started
  generalize deeds.any (·.cancels timer) = cancelled
  generalize deeds.any (·.fires timer) = went
  cases deed.fires timer <;> cases deed.cancels timer <;> cases deed.starts timer <;>
    cases started <;> cases cancelled <;> cases went <;> rfl

end TimerState

namespace Schedule

/-- The state of every timer is what the deeds say, and no deed concerns a timer that was not
made. -/
structure Told (schedule : Schedule T) (deeds : List (Deed T)) : Prop where
  state {timer : Nat} {found : Timer T} : schedule.timers[timer]? = some found →
    found.state = .after deeds timer
  unmade {timer : Nat} : schedule.timers.length ≤ timer → TimerState.after deeds timer = .fresh

namespace Told

variable {schedule : Schedule T} {deeds : List (Deed T)}

/-- A deed that concerns no timer leaves the states as they are. -/
theorem quiet (told : schedule.Told deeds) {deed : Deed T}
    (quiet : ∀ timer, deed.starts timer = false ∧ deed.cancels timer = false ∧
      deed.fires timer = false) : schedule.Told (deeds ++ [deed]) := by
  have same (timer : Nat) : TimerState.after (deeds ++ [deed]) timer = .after deeds timer := by
    obtain ⟨no_start, no_cancel, no_fire⟩ := quiet timer
    simp [TimerState.after_concat, no_start, no_cancel, no_fire]
  refine ⟨fun stands => ?_, fun beyond => ?_⟩
  · rw [same]
    exact told.state stands
  · rw [same]
    exact told.unmade beyond

/-- A deed that turns one timer turns its state. -/
theorem turnTimer (told : schedule.Told deeds) {deed : Deed T} {timer : Nat}
    {turn : TimerState → TimerState} (made : timer < schedule.timers.length)
    (concerns : ∀ other, TimerState.after (deeds ++ [deed]) other =
      if timer = other then turn (.after deeds other) else .after deeds other) :
    (schedule.turnTimer timer turn).Told (deeds ++ [deed]) := by
  refine ⟨fun {other later} stands => ?_, fun {other} beyond => ?_⟩
  · rw [concerns]
    obtain ⟨found, stood, ⟨same, turned⟩ | ⟨elsewhere, same⟩⟩ := of_timers_turnTimer stands
    · rw [if_pos same, turned, told.state stood]
    · rw [if_neg elsewhere, same, told.state stood]
  · have unmade : schedule.timers.length ≤ other := by
      simpa [Schedule.turnTimer] using beyond
    rw [concerns, if_neg (by omega), told.unmade unmade]

/-- A transaction makes at most one timer, which is not yet started. -/
theorem transact [TimeScale T] (told : schedule.Told deeds) (now : T)
    (transaction : Transaction) : (schedule.transact now transaction).2.Told deeds := by
  have same {later : Schedule T} (timers : later.timers = schedule.timers) : later.Told deeds :=
    ⟨fun stands => told.state (timers ▸ stands), fun beyond => told.unmade (timers ▸ beyond)⟩
  cases transaction with
  | look node => exact told
  | book node =>
    generalize booked : schedule.book now node = outcome
    obtain ⟨_ | appointment, later⟩ := outcome
    · simp only [Schedule.transact, booked, book_eq_error booked]
      exact told
    · simp only [Schedule.transact, booked]
      obtain ⟨_, _, start, interval, buffer, rfl⟩ := book_eq_ok booked
      refine ⟨fun {timer found} stands => ?_, fun {timer} beyond => told.unmade ?_⟩
      · rw [List.getElem?_append, List.getElem?_singleton] at stands
        split at stands
        · exact told.state stands
        · split at stands <;> cases stands
          exact (told.unmade (by omega)).symm
      · rw [List.length_append] at beyond
        omega
  | launch node record =>
    by_cases current : schedule.tracked.get? node = some record
    · simp only [Schedule.transact, launch_current current]
      exact same rfl
    · simp only [Schedule.transact, launch_dropped current]
      exact told
  | finish record retries error => exact same rfl
  | forget node => exact same rfl
  | clear node =>
    simp only [Schedule.transact, Schedule.clear]
    split
    · exact same rfl
    · exact told
  | halt => exact same rfl

end Told

end Schedule

namespace Office

variable [TimeScale T] {controller : Controller T}

/-- Every step keeps the states of timers in line with the deeds. -/
theorem Sound.told {office later : Office T} {roster : Roster} {deeds : List (Deed T)}
    {deed : Deed T} (sound : office.Sound roster) (told : office.desk.schedule.Told deeds)
    (step : Step controller office deed later) : later.desk.schedule.Told (deeds ++ [deed]) := by
  cases step with
  | command given => exact told.quiet fun _ => ⟨rfl, rfl, rfl⟩
  | @fire timer found stands ready now =>
    have made := (List.getElem?_eq_some_iff.mp stands).1
    rw [Controller.atDesk_fire controller now office.desk stands]
    refine told.turnTimer made fun other => ?_
    simp [TimerState.after_concat, Deed.fires, Deed.cancels, Deed.starts]
  | send found errand => exact told.quiet fun _ => ⟨rfl, rfl, rfl⟩
  | back found outcome => exact told.quiet fun _ => ⟨rfl, rfl, rfl⟩
  | @ask clerk cause request next found here now =>
    obtain ⟨duty, entry, follows⟩ := sound.follows found
    obtain ⟨later, allowed, _⟩ := follows (controller.atDesk now _ office.desk).1
    have fits := sound.agreed.fits entry
    cases request with
    | transact transaction =>
      refine Schedule.Told.quiet (told.transact now transaction) fun _ => ⟨rfl, rfl, rfl⟩
    | start timer label =>
      cases allowed
      cases fits with
      | start command made =>
      refine told.turnTimer made fun other => ?_
      simp [TimerState.after_concat, Deed.fires, Deed.cancels, Deed.starts]
    | cancel timer =>
      cases allowed
      cases fits with
      | cancel command dropped =>
      refine told.turnTimer (dropped timer List.mem_cons_self).1 fun other => ?_
      simp [TimerState.after_concat, Deed.fires, Deed.cancels, Deed.starts]
    | fire timer => cases allowed
    | announce | cordon | drain => cases here
    | arm | count | screen | release | complain => exact told.quiet fun _ => ⟨rfl, rfl, rfl⟩

/-- The state of every timer is what its history says. -/
theorem Run.told {buffer : DrainBuffer T} {deeds : List (Deed T)} {office : Office T}
    (run : Run controller (opened buffer) deeds office) : office.desk.schedule.Told deeds := by
  induction run with
  | here => exact ⟨fun stands => by simp [opened] at stands, fun _ => rfl⟩
  | snoc run step ih =>
    obtain ⟨roster, sound⟩ := run.sound
    exact sound.told ih step

end Office

end Evacuation
