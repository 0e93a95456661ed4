import Mathlib.Data.List.Forall2
import Evacuation.Proofs.Office.Log
import Evacuation.Proofs.Office.Sound
/-!
# Trails

Every reply in a clerk's log was given by a deed of that clerk, at the desk or by an errand that came
back (`Deed.Answers`). The main statement is that these deeds follow one another in the run in the
order of the log, after the clerk began (`Run.trail`), so what a program must have been answered
before it asks for something was done in that order.
-/
namespace Evacuation

variable {T : Type}

namespace Deed

/-- The deed by which a clerk's program was given the reply of an exchange. -/
def Answers (clerk : Nat) (cause : Cause) (exchange : Exchange (Control T)) (deed : Deed T) : Prop :=
  exchange.request.isErrand = false ∧ deed = .asked clerk cause exchange ∨
    exchange.request.isErrand = true ∧ ∃ outcome, Control.settle exchange.request outcome =
      exchange.reply ∧ deed = .returned clerk cause ⟨exchange.request, outcome⟩

/-- A request that is no errand is answered at the desk. -/
theorem Answers.asked {clerk : Nat} {cause : Cause} {exchange : Exchange (Control T)}
    {deed : Deed T} (answers : Answers clerk cause exchange deed)
    (here : exchange.request.isErrand = false) : deed = .asked clerk cause exchange := by
  obtain ⟨_, same⟩ | ⟨errand, _⟩ := answers
  · exact same
  · cases here.symm.trans errand

/-- An errand comes back with an outcome that settles to the reply. -/
theorem Answers.returned {clerk : Nat} {cause : Cause} {exchange : Exchange (Control T)}
    {deed : Deed T} (answers : Answers clerk cause exchange deed)
    (errand : exchange.request.isErrand = true) :
    ∃ outcome, Control.settle exchange.request outcome = exchange.reply ∧
      deed = .returned clerk cause ⟨exchange.request, outcome⟩ := by
  obtain ⟨here, _⟩ | ⟨_, back⟩ := answers
  · cases here.symm.trans errand
  · exact back

end Deed

namespace Office

variable [TimeScale T] {controller : Controller T} {buffer : DrainBuffer T} {office : Office T}
  {deeds : List (Deed T)}

/-- Only errands come back, and only other requests are answered at the desk. -/
theorem Run.answers {deed : Deed T} {exchange : Exchange (Control T)}
    (run : Run controller (opened buffer) deeds office) (done : deed ∈ deeds)
    (moves : deed.exchange? = some exchange) : Deed.Answers deed.clerk deed.cause exchange deed := by
  obtain ⟨before, after, rfl⟩ := List.append_of_mem done
  obtain ⟨start, later, earlier, step, _⟩ := run.step_of_append
  cases step with
  | command | fire | send => cases moves
  | ask stands here now =>
    cases moves
    exact .inl ⟨here, rfl⟩
  | back stands outcome =>
    obtain ⟨_, sound⟩ := earlier.sound
    cases moves
    exact .inr ⟨sound.errand stands, outcome, rfl, rfl⟩

/-- What is in a log and no errand was asked at the desk. -/
theorem Run.of_mem_log {place : Nat} {worker : Clerk T} {request : Control.Request T}
    {reply : (Control T).Reply request} (run : Run controller (opened buffer) deeds office)
    (found : office.clerks[place]? = some worker) (here : request.isErrand = false)
    (logged : ⟨request, reply⟩ ∈ Deed.log deeds place) :
    ∃ before after start now, deeds = before ++
        .asked place worker.cause ⟨request, reply⟩ :: after ∧
      Run controller (opened buffer) before start ∧
        (controller.atDesk now request start.desk).1 = reply := by
  obtain ⟨deed, done, rfl, moves⟩ := Deed.mem_log.mp logged
  obtain ⟨also, there, cause⟩ := run.logged.known done
  rw [found] at there
  cases there
  have same := (run.answers done moves).asked here
  obtain ⟨before, after, rfl⟩ := List.append_of_mem done
  obtain ⟨start, later, earlier, step, _⟩ := run.step_of_append
  rw [same] at step
  refine ⟨before, after, start, ?_⟩
  cases step with
  | ask stands here now => exact ⟨now, by rw [cause, ← same], earlier, rfl⟩

/-- A clerk began before all that it was answered, and was answered in the order of its log. -/
theorem Run.trail {place : Nat} {worker : Clerk T}
    (run : Run controller (opened buffer) deeds office)
    (found : office.clerks[place]? = some worker) :
    ∃ done, (.began place worker.cause :: done).Sublist deeds ∧
      List.Forall₂ (Deed.Answers place worker.cause) (Deed.log deeds place) done := by
  induction run generalizing worker with
  | here => simp [opened] at found
  | @snoc deeds deed middle later run step ih =>
    have longer {trail : List (Deed T)} (part : trail.Sublist deeds) :
        trail.Sublist (deeds ++ [deed]) := part.trans (List.sublist_append_left deeds [deed])
    by_cases own : deed.clerk = place
    · subst own
      rw [Deed.log_concat]
      cases there : middle.clerks[deed.clerk]? with
      | none =>
        obtain ⟨stands, begins⟩ := step.clerk_new there
        rw [stands] at found
        cases found
        refine ⟨[], ?_, ?_⟩
        · rw [← begins]
          exact List.sublist_append_right deeds [deed]
        · rw [run.logged.log_eq_nil there, begins]
          exact .nil
      | some before =>
        obtain ⟨after, stands, cause, same, _⟩ := step.clerk there
        rw [stands] at found
        cases found
        obtain ⟨done, part, each⟩ := ih there
        rw [same, ← cause]
        cases moves : deed.exchange? with
        | none => exact ⟨done, longer part, by simpa using each⟩
        | some exchange =>
          have answers := (run.snoc step).answers (List.mem_append_right deeds (.head [])) moves
          refine ⟨done ++ [deed], part.append (List.Sublist.refl [deed]), ?_⟩
          exact List.rel_append each (.cons (cause ▸ answers) .nil)
    · rw [step.clerk_ne (Ne.symm own)] at found
      obtain ⟨done, part, each⟩ := ih found
      exact ⟨done, longer part, by rwa [Deed.log_concat_of_ne own]⟩

end Office

end Evacuation
