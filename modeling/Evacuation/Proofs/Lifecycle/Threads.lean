import Evacuation.Lifecycle
/-!
# Threads of components

In a lifecycle the end of a component is one change. In the program it takes several steps, and the
others may do anything between them. Every component has a thread of its own: its run comes to an end,
a failure is noted, all are told to stop, and only then the thread ends. The main thread starts these
threads, waits for one after the other, and then ends with the failure that was noted first. A crew is
the state of all threads, and its steps come in any order (`Crew.Step`).

What a crew has come to is seen as a lifecycle (`Crew.view`), in which a component has ended as soon as
a failure of it is noted. Each step of a crew is one change of its lifecycle or none, so a run of a crew
is a run of changes (`Crew.Run.view_eq`).
-/
namespace Evacuation.Lifecycle

theorem isRunning_iff {run : Lifecycle} {component : Nat} :
    run.isRunning component = true ↔ run.endings[component]? = some none := by
  unfold isRunning
  split
  · rename_i runs
    exact iff_of_true rfl runs
  · rename_i others
    exact ⟨nofun, fun runs => absurd runs others⟩

/-- The failure of an ending. -/
def failuresOf : Ending → List Failure
  | .ok () => []
  | .error failure => [failure]

/-- What the end of a component that runs changes. -/
theorem step_ended {run : Lifecycle} {component : Nat} (runs : run.isRunning component = true)
    (ending : Ending) : run.step (.ended component ending) =
      { endings := run.endings.set component (some ending)
        stopped := true
        failures := run.failures ++ failuresOf ending } := by
  obtain failure | ⟨⟩ := ending <;> exact if_pos runs

/-- A component, by what its end may be before a stop is known and after. Once a stop is known, it can
end. -/
structure Component where
  mayEnd : (stopped : Bool) → Ending → Prop
  heeds : ∃ ending, mayEnd true ending

/-- A simple component. The end that it has of its own is not changed by a stop. -/
def Conduct.component (conduct : Conduct) : Component where
  mayEnd stopped ending :=
    match conduct.atOnce? with
    | some own => ending = own
    | none => stopped = true ∧ ending = conduct.onceStopped
  heeds := by
    split
    · exact ⟨_, rfl⟩
    · exact ⟨_, rfl, rfl⟩

/-- The thread of a component. -/
inductive Thread where
  /-- It was not started. -/
  | waiting
  /-- The component runs. -/
  | running
  /-- The component failed, and the failure is not noted yet. -/
  | failing (failure : Failure)
  /-- The component has ended, and the others were not told to stop yet. -/
  | closing (ending : Ending)
  /-- The others were told to stop. -/
  | leaving (ending : Ending)
  | gone (ending : Ending)

namespace Thread

/-- How the component ended. -/
def ending? : Thread → Option Ending
  | waiting | running => none
  | failing failure => some (.error failure)
  | closing ending | leaving ending | gone ending => some ending

/-- How the component ended, as far as it is noted. -/
def noted? : Thread → Option Ending
  | waiting | running | failing _ => none
  | closing ending | leaving ending | gone ending => some ending

/-- The thread has told the others to stop. -/
def HasTold : Thread → Prop
  | waiting | running | failing _ | closing _ => False
  | leaving _ | gone _ => True

/-- The thread of a component that has just come to an end. -/
def atEnd : Ending → Thread
  | .ok () => closing (.ok ())
  | .error failure => failing failure

/-- How many steps the thread has before it. -/
def ahead : Thread → Nat
  | waiting => 5
  | running => 4
  | failing _ => 3
  | closing _ => 2
  | leaving _ => 1
  | gone _ => 0

theorem ending?_atEnd (ending : Ending) : (atEnd ending).ending? = some ending := by
  obtain _ | _ := ending <;> rfl

theorem ahead_atEnd_lt (ending : Ending) : (atEnd ending).ahead < running.ahead := by
  obtain _ | _ := ending <;> simp [atEnd, ahead]

theorem not_hasTold_atEnd (ending : Ending) : ¬ (atEnd ending).HasTold := by
  obtain _ | _ := ending <;> exact id

end Thread

/-- The state of the main thread and of the threads of all components. -/
structure Crew where
  threads : List Thread
  /-- How many threads were started. -/
  started : Nat := 0
  /-- How many threads the main thread has seen end. -/
  joined : Nat := 0
  stopped : Bool := false
  /-- The failures, in the order in which they were noted. -/
  failures : List Failure := []
  /-- How the main thread has ended. -/
  result : Option Ending := none

namespace Crew

/-- A crew that has not done anything. A stop may be known before. -/
def assembled (components : Nat) (stopped : Bool) : Crew :=
  { threads := List.replicate components .waiting, stopped }

/-- The crew with another state of one thread. -/
def put (crew : Crew) (component : Nat) (thread : Thread) : Crew :=
  { crew with threads := crew.threads.set component thread }

/-- The lifecycle that a crew has come to. -/
def view (crew : Crew) : Lifecycle :=
  { endings := crew.threads.map Thread.noted?
    stopped := crew.stopped || (crew.threads.map Thread.noted?).any Option.isSome
    failures := crew.failures }

/-- A step in a crew. -/
inductive Move where
  /-- A stop is asked for from outside. -/
  | stop
  /-- The main thread starts a thread. -/
  | started (component : Nat)
  /-- A component returns or fails. -/
  | ended (component : Nat) (ending : Ending)
  /-- A failure is noted. -/
  | noted (component : Nat) (failure : Failure)
  /-- A thread tells the others to stop. -/
  | told (component : Nat)
  /-- A thread ends. -/
  | left (component : Nat)
  /-- The main thread sees that a thread has ended. -/
  | joined (component : Nat)
  /-- The main thread ends. -/
  | concluded

namespace Move

/-- The step is taken by a thread. -/
def isInner : Move → Bool
  | stop => false
  | _ => true

/-- The failure that is noted. -/
def noted? : Move → Option Failure
  | noted _ failure => some failure
  | _ => none

/-- The changes of the lifecycle that a step amounts to. A failure counts when it is noted. -/
def changes : Move → List Change
  | stop => [.stop]
  | ended component (.ok ()) => [.ended component (.ok ())]
  | noted component failure => [.ended component (.error failure)]
  | _ => []

end Move

/-- One step in a crew. Threads are started and seen to end in their order. The main thread asks again and
again whether a thread has ended, and only the answer that it has is a step. -/
inductive Step (components : List Component) : Crew → Move → Crew → Prop where
  | stop (crew : Crew) : Step components crew .stop { crew with stopped := true }
  | start (crew : Crew) (found : crew.threads[crew.started]? = some .waiting) :
      Step components crew (.started crew.started)
        { crew.put crew.started .running with started := crew.started + 1 }
  | finish (crew : Crew) {place : Nat} {component : Component} {ending : Ending}
      (found : crew.threads[place]? = some .running) (at_place : components[place]? = some component)
      (mayEnd : component.mayEnd crew.stopped ending) :
      Step components crew (.ended place ending) (crew.put place (.atEnd ending))
  | note (crew : Crew) {place : Nat} {failure : Failure}
      (found : crew.threads[place]? = some (.failing failure)) :
      Step components crew (.noted place failure)
        { crew.put place (.closing (.error failure)) with failures := crew.failures ++ [failure] }
  | tell (crew : Crew) {place : Nat} {ending : Ending}
      (found : crew.threads[place]? = some (.closing ending)) :
      Step components crew (.told place) { crew.put place (.leaving ending) with stopped := true }
  | leave (crew : Crew) {place : Nat} {ending : Ending}
      (found : crew.threads[place]? = some (.leaving ending)) :
      Step components crew (.left place) (crew.put place (.gone ending))
  | join (crew : Crew) {ending : Ending} (all : crew.started = crew.threads.length)
      (found : crew.threads[crew.joined]? = some (.gone ending)) :
      Step components crew (.joined crew.joined) { crew with joined := crew.joined + 1 }
  | conclude (crew : Crew) (all : crew.started = crew.threads.length)
      (joined : crew.joined = crew.threads.length) (open_ : crew.result = none) :
      Step components crew .concluded { crew with result := some crew.view.outcome }

/-- Steps one after another, of a crew of components. -/
inductive Run (components : List Component) (stopped : Bool) : List Move → Crew → Prop where
  | here : Run components stopped [] (assembled components.length stopped)
  | snoc {moves : List Move} {move : Move} {crew later : Crew}
      (run : Run components stopped moves crew) (step : Step components crew move later) :
      Run components stopped (moves ++ [move]) later

/-! ## A crew seen as a lifecycle -/

section View

variable {crew : Crew} {place : Nat} {old : Thread} (new : Thread)

theorem getElem?_put (found : crew.threads[place]? = some old) (other : Nat) :
    (crew.put place new).threads[other]? = if place = other then some new else crew.threads[other]? := by
  rw [put, List.getElem?_set]
  split
  · rename_i same
    rw [if_pos (List.getElem?_eq_some_iff.mp found).1]
  · rfl

theorem endings_put : (crew.put place new).view.endings = crew.view.endings.set place new.noted? := by
  rw [view, put, List.map_set]
  rfl

theorem getElem?_endings (found : crew.threads[place]? = some old) :
    crew.view.endings[place]? = some old.noted? := by
  rw [view, List.getElem?_map, found]
  rfl

/-- Nothing is seen of a step of a thread that notes nothing. -/
theorem view_put (found : crew.threads[place]? = some old) (same : new.noted? = old.noted?) :
    (crew.put place new).view = crew.view := by
  have endings : (crew.put place new).view.endings = crew.view.endings := by
    have there := getElem?_endings found
    rw [endings_put, same]
    obtain ⟨inside, is⟩ := List.getElem?_eq_some_iff.mp there
    rw [← is, List.set_getElem_self]
  have others : (crew.put place new).view =
      { endings := (crew.put place new).view.endings
        stopped := crew.stopped || (crew.put place new).view.endings.any Option.isSome
        failures := crew.failures } := rfl
  rw [others, endings]
  rfl

/-- What is noted of a component that ended is one change. -/
theorem view_note {ending : Ending} (found : crew.threads[place]? = some old) (fresh : old.noted? = none)
    (noted : new.noted? = some ending) :
    ({ crew.put place new with failures := crew.failures ++ failuresOf ending } : Crew).view =
      crew.view.step (.ended place ending) := by
  have there := getElem?_endings found
  rw [fresh] at there
  have runs : crew.view.isRunning place = true := isRunning_iff.mpr there
  have inside := (List.getElem?_eq_some_iff.mp there).1
  have some_ended : (crew.view.endings.set place (some ending)).any Option.isSome = true :=
    List.any_eq_true.mpr ⟨_, List.mem_set inside _, rfl⟩
  have endings : (crew.put place new).view.endings = crew.view.endings.set place (some ending) :=
    noted ▸ endings_put new
  have others (failures : List Failure) : ({ crew.put place new with failures } : Crew).view =
      { endings := (crew.put place new).view.endings
        stopped := crew.stopped || (crew.put place new).view.endings.any Option.isSome
        failures } := rfl
  rw [others, endings, some_ended, Bool.or_true, step_ended runs]
  rfl

end View

variable {components : List Component} {stopped : Bool} {moves : List Move} {crew later : Crew}
  {move : Move}

/-- Each step of a crew is one change of its lifecycle, or none. -/
theorem Step.view_eq (step : Step components crew move later) :
    later.view = crew.view.steps move.changes := by
  cases step with
  | stop => rfl
  | start found => exact view_put _ found rfl
  | finish found at_place mayEnd =>
    rename_i place component ending
    obtain failure | ⟨⟩ := ending
    · exact view_put _ found rfl
    · have noted := view_note (.atEnd (.ok ())) found rfl rfl
      rwa [failuresOf, List.append_nil] at noted
  | note found => exact view_note (.closing (.error _)) found rfl rfl
  | tell found =>
    -- That the thread tells the others to stop was seen when its end was noted.
    rename_i place ending
    have noted : crew.view.endings.any Option.isSome = true :=
      List.any_eq_true.mpr ⟨_, List.mem_of_getElem? (getElem?_endings found), rfl⟩
    have seen : crew.view.stopped = true := Bool.or_eq_true_iff.mpr (.inr noted)
    have same := view_put (.leaving ending) found rfl
    calc ({ crew.put place (.leaving ending) with stopped := true } : Crew).view
        = { (crew.put place (.leaving ending)).view with stopped := true } := rfl
      _ = { crew.view with stopped := true } := by rw [same]
      _ = crew.view := by rw [← seen]
  | leave found => exact view_put _ found rfl
  | join | conclude => rfl

/-- A run of a crew is a run of changes. -/
theorem Run.view_eq (run : Run components stopped moves crew) :
    crew.view = (Lifecycle.start components.length stopped).steps (moves.flatMap Move.changes) := by
  induction run with
  | here =>
    have fresh : (List.replicate components.length (none : Option Ending)).any Option.isSome = false := by
      simp
    simp only [view, assembled, List.map_replicate, Thread.noted?, fresh, Bool.or_false]
    rfl
  | snoc _ step ih =>
    rw [step.view_eq, ih, List.flatMap_append, List.flatMap_singleton]
    exact (List.foldl_append ..).symm

end Crew

end Evacuation.Lifecycle
