import Evacuation.Proofs.Office.Basic
/-!
# Logs

The log of a clerk is what its program was answered in the course of a run. Whatever the others do
meanwhile, a clerk's log leads its program from where it was to where it is (`Run.clerk`), and from
the program of its cause if the run goes back to a fresh desk (`Run.reaches`). A statement about the
paths of a program so becomes one about the deeds of every run.
-/
namespace Evacuation

variable {T : Type}

/-- The exchanges by which a clerk's program moved on. -/
def Deed.log (deeds : List (Deed T)) (clerk : Nat) : List (Exchange (Control T)) :=
  deeds.filterMap fun deed => if deed.clerk = clerk then deed.exchange? else none

namespace Deed

theorem log_append (first second : List (Deed T)) (clerk : Nat) :
    log (first ++ second) clerk = log first clerk ++ log second clerk :=
  List.filterMap_append

/-- The exchange of the first deed comes first in the log of its clerk. -/
theorem log_cons {deed : Deed T} {clerk : Nat} {exchange : Exchange (Control T)}
    (own : deed.clerk = clerk) (moves : deed.exchange? = some exchange) (deeds : List (Deed T)) :
    log (deed :: deeds) clerk = exchange :: log deeds clerk := by
  simp [log, own, moves]

/-- A deed of another clerk is not in the log. -/
theorem log_concat_of_ne {deeds : List (Deed T)} {deed : Deed T} {clerk : Nat}
    (other : deed.clerk ≠ clerk) : log (deeds ++ [deed]) clerk = log deeds clerk := by
  simp [log, other]

/-- The exchange of a deed is the last one in the log of its clerk. -/
theorem log_concat (deeds : List (Deed T)) (deed : Deed T) :
    log (deeds ++ [deed]) deed.clerk = log deeds deed.clerk ++ deed.exchange?.toList := by
  cases moves : deed.exchange? <;> simp [log, moves]

/-- A deed by which no program moves on is in no log. -/
theorem log_concat_of_none {deeds : List (Deed T)} {deed : Deed T} (rests : deed.exchange? = none)
    (clerk : Nat) : log (deeds ++ [deed]) clerk = log deeds clerk := by
  simp [log, rests]

/-- What is in a log was done by the clerk. -/
theorem mem_log {deeds : List (Deed T)} {clerk : Nat} {exchange : Exchange (Control T)} :
    exchange ∈ log deeds clerk ↔
      ∃ deed ∈ deeds, deed.clerk = clerk ∧ deed.exchange? = some exchange := by
  rw [log, List.mem_filterMap]
  constructor
  · rintro ⟨deed, done, moves⟩
    split at moves
    · rename_i own
      exact ⟨deed, done, own, moves⟩
    · cases moves
  · rintro ⟨deed, done, own, moves⟩
    exact ⟨deed, done, by rw [if_pos own, moves]⟩

end Deed

namespace Office

variable [TimeScale T] {controller : Controller T}

/-- A request is answered at the desk for a clerk that asks for it. -/
theorem Step.of_asked {office later : Office T} {clerk : Nat} {cause : Cause} {request : Control.Request T}
    {reply : (Control T).Reply request}
    (step : Step controller office (.asked clerk cause ⟨request, reply⟩) later) :
    ∃ now next, office.clerks[clerk]? = some ⟨cause, .ask request next, false⟩ ∧
      controller.atDesk now request office.desk = (reply, later.desk) := by
  cases step with
  | ask found here now => exact ⟨now, _, found, rfl⟩

/-- Who sends an errand out is away afterwards. -/
theorem Step.of_sent {office later : Office T} {clerk : Nat} {cause : Cause} {request : Control.Request T}
    (step : Step controller office (.sent clerk cause request) later) :
    ∃ next, office.clerks[clerk]? = some ⟨cause, .ask request next, false⟩ ∧
      later.clerks[clerk]? = some ⟨cause, .ask request next, true⟩ := by
  cases step with
  | send found errand =>
    exact ⟨_, found, List.getElem?_set_self (List.getElem?_eq_some_iff.mp found).1⟩

/-- A step is taken by one clerk and leaves the others where they are. -/
theorem Step.clerk_ne {office later : Office T} {deed : Deed T} {place : Nat}
    (step : Step controller office deed later) (other : place ≠ deed.clerk) :
    later.clerks[place]? = office.clerks[place]? := by
  have set_ne {clerks : List (Clerk T)} {moved : Nat} {clerk : Clerk T} (other : place ≠ moved) :
      (clerks.set moved clerk)[place]? = clerks[place]? :=
    List.getElem?_set_ne (Ne.symm other)
  have append_ne {clerks : List (Clerk T)} {clerk : Clerk T} (other : place ≠ clerks.length) :
      (clerks ++ [clerk])[place]? = clerks[place]? := by
    rw [List.getElem?_append]
    split
    · rfl
    · rw [List.getElem?_eq_none (by simp; omega), List.getElem?_eq_none (by omega)]
  cases step with
  | command | fire => exact append_ne other
  | ask | send | back => exact set_ne other

/-- The clerk who takes a step has the cause of the deed and moves on along the exchange, if there
is one; who is away moves on only along an exchange. -/
theorem Step.clerk {office later : Office T} {deed : Deed T} {clerk : Clerk T}
    (step : Step controller office deed later)
    (found : office.clerks[deed.clerk]? = some clerk) :
    ∃ after, later.clerks[deed.clerk]? = some after ∧ clerk.cause = deed.cause ∧
      after.cause = deed.cause ∧
      Program.Reaches clerk.program deed.exchange?.toList after.program ∧
      (clerk.away = true → deed.exchange? = none → after = clerk) := by
  have set_eq {clerks : List (Clerk T)} {place : Nat} {before after : Clerk T}
      (found : clerks[place]? = some before) : (clerks.set place after)[place]? = some after := by
    rw [List.getElem?_set_self (List.getElem?_eq_some_iff.mp found).1]
  cases step with
  | command | fire => simp [Deed.clerk] at found
  | ask stands here now =>
    cases stands.symm.trans found
    exact ⟨_, set_eq stands, rfl, rfl, .next _ (.here _), nofun⟩
  | send stands errand =>
    cases stands.symm.trans found
    exact ⟨_, set_eq stands, rfl, rfl, .here _, nofun⟩
  | back stands outcome =>
    cases stands.symm.trans found
    exact ⟨_, set_eq stands, rfl, rfl, .next _ (.here _), nofun⟩

/-- A step that no clerk of the office takes is the beginning of a new clerk. -/
theorem Step.clerk_new {office later : Office T} {deed : Deed T}
    (step : Step controller office deed later) (new : office.clerks[deed.clerk]? = none) :
    later.clerks[deed.clerk]? = some ⟨deed.cause, deed.cause.program, false⟩ ∧
      deed = .began deed.clerk deed.cause := by
  cases step with
  | command | fire => exact ⟨List.getElem?_concat_length, rfl⟩
  | ask stands | send stands | back stands => cases stands.symm.trans new

/-- Who is away does nothing before the errand comes back. -/
theorem Step.of_away {office later : Office T} {deed : Deed T} {clerk : Clerk T}
    (step : Step controller office deed later)
    (found : office.clerks[deed.clerk]? = some clerk) (away : clerk.away = true) :
    ∃ exchange, deed = .returned deed.clerk deed.cause exchange := by
  cases step with
  | command | fire => simp [Deed.clerk] at found
  | ask stands | send stands =>
    cases stands.symm.trans found
    cases away
  | back stands outcome => exact ⟨_, rfl⟩

/-- A clerk keeps its cause and goes on along its log, and stays away until something is in it. -/
theorem Run.clerk {start office : Office T} {deeds : List (Deed T)} {place : Nat} {clerk : Clerk T}
    (run : Run controller start deeds office) (found : start.clerks[place]? = some clerk) :
    ∃ later, office.clerks[place]? = some later ∧ later.cause = clerk.cause ∧
      Program.Reaches clerk.program (Deed.log deeds place) later.program ∧
      (clerk.away = true → Deed.log deeds place = [] → later = clerk) := by
  induction run with
  | here => exact ⟨clerk, found, rfl, .here _, fun _ _ => rfl⟩
  | @snoc deeds deed middle _ _ step ih =>
    obtain ⟨between, there, cause, reached, waits⟩ := ih
    by_cases own : deed.clerk = place
    · subst own
      obtain ⟨after, stands, origin, same, onward, stays⟩ := step.clerk there
      refine ⟨after, stands, same.trans (origin.symm.trans cause), ?_, fun away still => ?_⟩
      · rw [Deed.log_concat]
        exact reached.trans onward
      · rw [Deed.log_concat, List.append_eq_nil_iff] at still
        obtain rfl := waits away still.1
        exact stays away (Option.toList_eq_nil_iff.mp still.2)
    · rw [Deed.log_concat_of_ne own]
      exact ⟨between, (step.clerk_ne (Ne.symm own)).trans there, cause, reached, waits⟩

/-- What is known of the clerks of an office from the deeds that led to it. -/
structure Logged (deeds : List (Deed T)) (office : Office T) : Prop where
  /-- Every deed was done by a clerk of the office, and for the clerk's cause. -/
  known {deed : Deed T} : deed ∈ deeds →
    ∃ clerk, office.clerks[deed.clerk]? = some clerk ∧ clerk.cause = deed.cause
  /-- The log of a clerk leads from the program of its cause to where it is. -/
  reaches {place : Nat} {clerk : Clerk T} : office.clerks[place]? = some clerk →
    Program.Reaches clerk.cause.program (Deed.log deeds place) clerk.program

/-- Where no clerk works nothing was done. -/
theorem Logged.log_eq_nil {deeds : List (Deed T)} {office : Office T} {place : Nat}
    (logged : Logged deeds office) (new : office.clerks[place]? = none) : Deed.log deeds place = [] := by
  refine List.eq_nil_iff_forall_not_mem.mpr fun exchange entry => ?_
  obtain ⟨done, before, own, _⟩ := Deed.mem_log.mp entry
  obtain ⟨worker, stood, _⟩ := logged.known before
  rw [own, new] at stood
  cases stood

/-- From a fresh desk on, the clerks go along their logs. -/
theorem Run.logged {buffer : DrainBuffer T} {deeds : List (Deed T)} {office : Office T}
    (run : Run controller (opened buffer) deeds office) : Logged deeds office := by
  induction run with
  | here => exact ⟨nofun, fun found => by simp [opened] at found⟩
  | @snoc deeds deed middle later run step ih =>
    have old {place : Nat} {clerk : Clerk T} (stood : middle.clerks[place]? = some clerk) :
        ∃ after, later.clerks[place]? = some after ∧ after.cause = clerk.cause := by
      obtain ⟨after, stands, same, _⟩ := (Run.here.snoc step).clerk stood
      exact ⟨after, stands, same⟩
    refine ⟨fun {done} listed => ?_, fun {place worker} found => ?_⟩
    · obtain before | rfl := List.mem_append.mp listed |>.imp_right List.mem_singleton.mp
      · obtain ⟨worker, stood, cause⟩ := ih.known before
        obtain ⟨after, stands, same⟩ := old stood
        exact ⟨after, stands, same.trans cause⟩
      · cases there : middle.clerks[done.clerk]? with
        | none => exact ⟨_, (step.clerk_new there).1, rfl⟩
        | some worker =>
          obtain ⟨after, stands, _, same, _⟩ := step.clerk there
          exact ⟨after, stands, same⟩
    · by_cases own : deed.clerk = place
      · subst own
        rw [Deed.log_concat]
        cases there : middle.clerks[deed.clerk]? with
        | none =>
          obtain ⟨stands, begins⟩ := step.clerk_new there
          rw [stands] at found
          cases found
          rw [ih.log_eq_nil there, begins]
          exact .here _
        | some worker =>
          obtain ⟨after, stands, cause, same, onward, _⟩ := step.clerk there
          rw [stands] at found
          cases found
          rw [same, ← cause]
          exact (ih.reaches there).trans onward
      · rw [step.clerk_ne (Ne.symm own)] at found
        rw [Deed.log_concat_of_ne own]
        exact ih.reaches found

end Office

end Evacuation
