import Evacuation.Failure
/-!
# Lifecycles

Components run side by side until one of them ends or all are told to stop. The first end tells
the others to stop; the run is over when every component has ended, and it fails with the first
failure that was seen. A run is a sequence of changes in any order: a component ends, or a stop is
asked for from outside.
-/
namespace Evacuation

/-- How a component ends. -/
abbrev Ending := Except Failure Unit

/-- A change in a run of components. -/
inductive Lifecycle.Change where
  /-- A stop is asked for from outside. -/
  | stop
  /-- A component ends. -/
  | ended (component : Nat) (ending : Ending)

/-- The state of a run of components. -/
structure Lifecycle where
  /-- The end of each component that has ended. -/
  endings : List (Option Ending)
  stopped : Bool := false
  /-- The failures, in the order in which they were seen. -/
  failures : List Failure := []

namespace Lifecycle

/-- A run of a number of components. -/
def start (components : Nat) (stopped : Bool) : Lifecycle :=
  { endings := List.replicate components none, stopped }

/-- A component has not ended. -/
def isRunning (run : Lifecycle) (component : Nat) : Bool :=
  match run.endings[component]? with
  | some none => true
  | _ => false

/-- The run after a change. Only a component that runs can end. -/
def step (run : Lifecycle) : Change → Lifecycle
  | .stop => { run with stopped := true }
  | .ended component ending =>
    if run.isRunning component then
      { endings := run.endings.set component (some ending)
        stopped := true
        failures := run.failures ++ match ending with
          | .ok () => []
          | .error failure => [failure] }
    else run

/-- The run after changes. -/
def steps (run : Lifecycle) (changes : List Change) : Lifecycle := changes.foldl step run

/-- Every component has ended. -/
def isOver (run : Lifecycle) : Bool := run.endings.all Option.isSome

/-- How the run ends. -/
def outcome (run : Lifecycle) : Ending :=
  match run.failures with
  | [] => .ok ()
  | failure :: _ => .error failure

/-- A stop is never taken back. -/
theorem stopped_step {run : Lifecycle} (stopped : run.stopped = true) (change : Change) :
    (run.step change).stopped = true := by
  cases change with
  | stop => rfl
  | ended component ending =>
    unfold step
    dsimp only
    split
    · rfl
    · exact stopped

/-! ## Simple components -/

/-- What a simple component does. -/
inductive Conduct where
  /-- It ends when it is told to stop. -/
  | waits
  | returns
  | fails (failure : Failure)
  /-- It fails when it is told to stop. -/
  | failsOnceStopped (failure : Failure)

/-- How a component ends by itself. -/
def Conduct.atOnce? : Conduct → Option Ending
  | .waits => none
  | .returns => some (.ok ())
  | .fails failure => some (.error failure)
  | .failsOnceStopped _ => none

/-- How a component ends when it is told to stop. -/
def Conduct.onceStopped : Conduct → Ending
  | .failsOnceStopped failure => .error failure
  | _ => .ok ()

/-- The ends of simple components of themselves, from a number on. -/
def ownEnds : List Conduct → Nat → List Change
  | [], _ => []
  | conduct :: rest, component =>
    (conduct.atOnce?.map (Change.ended component)).toList ++ ownEnds rest (component + 1)

/-- The ends of simple components that are told to stop, from a number on. -/
def toldEnds : List Conduct → Nat → List Change
  | [], _ => []
  | conduct :: rest, component =>
    .ended component conduct.onceStopped :: toldEnds rest (component + 1)

/-- A run of simple components: those that end by themselves come first, and once a stop is known
the others follow. -/
def play (conducts : List Conduct) (stopped : Bool) : Lifecycle :=
  let run := (start conducts.length stopped).steps (ownEnds conducts 0)
  if run.stopped then run.steps (toldEnds conducts 0) else run

end Lifecycle

end Evacuation
