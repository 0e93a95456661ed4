import Evacuation.Proofs.Office.Play
import Evacuation.Proofs.Session.Basic
/-!
# Playing sessions

The turns of a session are a relation, since the desk may answer at any time of the clock and errands
may come back with any outcome. Once a time is given for each turn, and outcomes for its errands, the
turn can be computed. Whatever is played is a session (`Session.of_play?`).
-/
namespace Evacuation

variable {T : Type}

/-- Outcomes are for errands. -/
theorem Control.isSome_outcome? (request : Request T) (outcome : Except Failure DrainReport) :
    (outcome? request outcome).isSome = request.isErrand := by
  cases request <;> rfl

variable [TimeScale T] {α : Type}

namespace Controller

/-- A program worked through at a time of the clock: its exchanges, its value, and the desk
afterwards. Its errands come back with the given outcomes, and those that are left without one
succeed. -/
def work (controller : Controller T) (now : T) :
    Controlling T α → List (Except Failure DrainReport) → Desk T →
      List (Exchange (Control T)) × α × Desk T
  | .done value, _, desk => ([], value, desk)
  | .ask request next, outcomes, desk =>
    match Control.outcome? request (outcomes.headD (.ok { node := "" })) with
    | some reply =>
      let rest := work controller now (next (Control.settle request reply)) outcomes.tail desk
      (⟨request, Control.settle request reply⟩ :: rest.1, rest.2)
    | none =>
      let answered := controller.atDesk now request desk
      let rest := work controller now (next answered.1) outcomes answered.2
      (⟨request, answered.1⟩ :: rest.1, rest.2)

variable (controller : Controller T) (now : T)

/-- The exchanges of a program that is worked through lead to its value. -/
theorem reaches_work (program : Controlling T α) (outcomes : List (Except Failure DrainReport))
    (desk : Desk T) : program.Reaches (controller.work now program outcomes desk).1
      (.done (controller.work now program outcomes desk).2.1) := by
  induction program generalizing outcomes desk with
  | done value => exact .here _
  | ask request next ih =>
    rw [work]
    split
    · exact .next _ (ih _ _ _)
    · exact .next _ (ih _ _ _)

/-- The exchanges of a program that is worked through are served at the desk. -/
theorem servesAll_work (program : Controlling T α) (outcomes : List (Except Failure DrainReport))
    (desk : Desk T) : controller.ServesAll desk (controller.work now program outcomes desk).1
      (controller.work now program outcomes desk).2.2 := by
  induction program generalizing outcomes desk with
  | done value => exact .nil desk
  | ask request next ih =>
    have errand := Control.isSome_outcome? request (outcomes.headD (.ok { node := "" }))
    rw [work]
    split
    · rename_i given
      rw [given] at errand
      exact .cons (.errand errand.symm _) (ih _ _ _)
    · rename_i given
      rw [given] at errand
      exact .cons (.atDesk errand.symm now) (ih _ _ _)

end Controller

namespace Session

/-- What comes up next in a session, at a time of the clock, with the outcomes of the errands. -/
inductive Move (T : Type) where
  | command (given : Control.Command) (now : T) (outcomes : List (Except Failure DrainReport))
  | fire (timer : Nat) (now : T) (outcomes : List (Except Failure DrainReport))

/-- What comes up in a move, if it is possible, and the desk when its program begins. -/
def Move.arises? (desk : Desk T) : Move T → Option (Cause × Desk T)
  | command given _ _ => some (.command given, desk)
  | fire timer _ _ =>
    match desk.schedule.timers[timer]? with
    | none => none
    | some found =>
      if found.state = .pending ∨ found.state = .cancelled then
        some (.timer timer found.node found.record,
          { desk with schedule := desk.schedule.turnTimer timer .fire })
      else none

/-- The time of a move. -/
def Move.now : Move T → T
  | command _ now _ | fire _ now _ => now

/-- The outcomes of the errands of a move. -/
def Move.outcomes : Move T → List (Except Failure DrainReport)
  | command _ _ outcomes | fire _ _ outcomes => outcomes

/-- Moves one after another, as the turns they are and the desk after them. -/
def play? (controller : Controller T) : List (Move T) → Desk T → Option (List (Turn T) × Desk T)
  | [], desk => some ([], desk)
  | move :: moves, desk =>
    match move.arises? desk with
    | none => none
    | some (cause, between) =>
      let worked := controller.work move.now cause.program move.outcomes between
      (play? controller moves worked.2.2).map fun played =>
        (⟨cause, worked.1⟩ :: played.1, played.2)

variable {controller : Controller T} {start middle desk later : Desk T}

omit [TimeScale T] in
theorem Move.arises_of_arises? {move : Move T} {cause : Cause}
    (arises : move.arises? desk = some (cause, later)) : cause.Arises desk later := by
  cases move with
  | command given now outcomes =>
    cases arises
    exact .command given desk
  | fire timer now outcomes =>
    simp only [arises?] at arises
    split at arises
    · cases arises
    · rename_i found stands
      split at arises <;> cases arises
      rename_i ready
      exact .timer desk stands ready

/-- A session goes on with a session. -/
theorem trans {first second : List (Turn T)} (session : Session controller start first middle)
    (onward : Session controller middle second later) :
    Session controller start (first ++ second) later := by
  induction onward with
  | here => rwa [List.append_nil]
  | snoc _ arises reached served ih =>
    rw [← List.append_assoc]
    exact ih.snoc arises reached served

/-- What is played is a session. -/
theorem of_play? {moves : List (Move T)} {turns : List (Turn T)}
    (played : play? controller moves desk = some (turns, later)) :
    Session controller desk turns later := by
  induction moves generalizing desk turns with
  | nil =>
    cases played
    exact .here
  | cons move moves ih =>
    simp only [play?] at played
    split at played
    · cases played
    · rename_i cause between arises
      obtain ⟨⟨rest, reached⟩, onward, same⟩ := Option.map_eq_some_iff.mp played
      cases same
      have first := Session.here.snoc (Move.arises_of_arises? arises)
        (controller.reaches_work move.now cause.program move.outcomes between)
        (controller.servesAll_work move.now cause.program move.outcomes between)
      exact first.trans (ih onward)

end Session

end Evacuation
