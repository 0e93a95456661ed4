import Evacuation.Proofs.Office.Basic
/-!
# Playing the work in an office

The steps of an office are a relation, since clerks go on in any order and errands come back with
any outcome. A move names the clerk, the time and the outcome, and then the step can be computed.
Whatever is played is a run (`Run.of_play?`).
-/
namespace Evacuation

variable {T : Type}

/-- What happens next in an office. -/
inductive Move (T : Type) where
  | command (given : Control.Command)
  | fire (timer : Nat) (now : T)
  | ask (clerk : Nat) (now : T)
  | send (clerk : Nat)
  | back (clerk : Nat) (outcome : Except Failure DrainReport)

/-- The outcome of an errand, which for all but a drain is only whether it failed. -/
def Control.outcome? :
    (request : Control.Request T) → Except Failure DrainReport → Option ((Control T).Reply request)
  | .announce _ _ _, outcome => some (outcome.map fun _ => ())
  | .cordon _, outcome => some (outcome.map fun _ => ())
  | .drain _, outcome => some outcome
  | _, _ => none

namespace Office

variable [TimeScale T]

/-- The office after a move, if the move is possible, and what was done. -/
def move? (controller : Controller T) (office : Office T) : Move T → Option (Deed T × Office T)
  | .command given =>
    some (.began office.clerks.length (.command given), office.engage (.command given))
  | .fire timer now =>
    match office.desk.schedule.timers[timer]? with
    | none => none
    | some found =>
      if found.state = .pending ∨ found.state = .cancelled then
        some (.began office.clerks.length (.timer timer found.node found.record),
          ({ office with desk := (controller.atDesk now (.fire timer) office.desk).2 } : Office T).engage
            (.timer timer found.node found.record))
      else none
  | .ask clerk now =>
    match office.clerks[clerk]? with
    | some ⟨cause, .ask request next, false⟩ =>
      if Control.Request.isErrand request then none
      else
        let answered := controller.atDesk now request office.desk
        some (.asked clerk cause ⟨request, answered.1⟩,
          ⟨answered.2, office.clerks.set clerk ⟨cause, next answered.1, false⟩⟩)
    | _ => none
  | .send clerk =>
    match office.clerks[clerk]? with
    | some ⟨cause, .ask request next, false⟩ =>
      if Control.Request.isErrand request then
        some (.sent clerk cause request,
          { office with clerks := office.clerks.set clerk ⟨cause, .ask request next, true⟩ })
      else none
    | _ => none
  | .back clerk outcome =>
    match office.clerks[clerk]? with
    | some ⟨cause, .ask request next, true⟩ =>
      (Control.outcome? request outcome).map fun reply =>
        (.returned clerk cause ⟨request, reply⟩,
          { office with
            clerks := office.clerks.set clerk ⟨cause, next (Control.settle request reply), false⟩ })
    | _ => none

/-- Moves one after another. -/
def play? (controller : Controller T) :
    List (Move T) → Office T → Option (List (Deed T) × Office T)
  | [], office => some ([], office)
  | move :: moves, office =>
    match office.move? controller move with
    | none => none
    | some (deed, later) =>
      (play? controller moves later).map fun played => (deed :: played.1, played.2)

variable {controller : Controller T} {office later : Office T}

/-- A move that is possible is a step. -/
theorem Step.of_move? {move : Move T} {deed : Deed T}
    (moved : office.move? controller move = some (deed, later)) :
    Step controller office deed later := by
  cases move with
  | command given =>
    cases moved
    exact .command office given
  | fire timer now =>
    simp only [move?] at moved
    split at moved
    · cases moved
    · rename_i found stands
      split at moved <;> cases moved
      rename_i ready
      exact .fire office stands ready now
  | ask clerk now =>
    simp only [move?] at moved
    split at moved
    · rename_i found
      split at moved <;> cases moved
      rename_i errand
      exact .ask office found (Bool.eq_false_iff.mpr errand) now
    · cases moved
  | send clerk =>
    simp only [move?] at moved
    split at moved
    · rename_i found
      split at moved <;> cases moved
      rename_i errand
      exact .send office found errand
    · cases moved
  | back clerk outcome =>
    simp only [move?] at moved
    split at moved
    · rename_i found
      obtain ⟨reply, _, same⟩ := Option.map_eq_some_iff.mp moved
      cases same
      exact .back office found reply
    · cases moved

/-- What is played is a run. -/
theorem Run.of_play? {moves : List (Move T)} {deeds : List (Deed T)}
    (played : play? controller moves office = some (deeds, later)) :
    Run controller office deeds later := by
  induction moves generalizing office deeds with
  | nil =>
    cases played
    exact .here
  | cons move moves ih =>
    simp only [play?] at played
    split at played
    · cases played
    · rename_i deed between moved
      obtain ⟨⟨done, reached⟩, onward, same⟩ := Option.map_eq_some_iff.mp played
      cases same
      exact (Run.here.snoc (.of_move? moved)).trans (ih onward)

end Office

end Evacuation
