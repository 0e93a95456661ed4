import Evacuation.Proofs.Lifecycle.Threads
/-!
# Changes that threads take

A crew can take the changes of a lifecycle one after the other, if each component may end as it does in
them: the crew comes to rest after each change (`Crew.atRest`), and when the lifecycle is over, the main
thread ends as the lifecycle does. In particular a play of simple components is seen in a run
(`Crew.exists_run_play`).
-/
namespace Evacuation.Lifecycle

/-! ## Plays of simple components -/

theorem steps_append (run : Lifecycle) (first second : List Change) :
    run.steps (first ++ second) = (run.steps first).steps second := List.foldl_append

/-- A component that runs after a change has run before it. -/
theorem isRunning_of_step {run : Lifecycle} {change : Change} {component : Nat}
    (runs : (run.step change).isRunning component = true) : run.isRunning component = true := by
  cases change with
  | stop => exact runs
  | ended other ending =>
    cases before : run.isRunning other with
    | false =>
      rwa [show run.step (.ended other ending) = run from if_neg (Bool.eq_false_iff.mp before)] at runs
    | true =>
      rw [isRunning_iff, step_ended before, List.getElem?_set] at runs
      split at runs
      · split at runs <;> cases runs
      · exact isRunning_iff.mpr runs

/-- The ends of their own come about in their places. -/
theorem endings_steps_ownEnds (conducts : List Conduct) (run : Lifecycle) (before : List (Option Ending))
    (fresh : run.endings = before ++ List.replicate conducts.length none) :
    (run.steps (ownEnds conducts before.length)).endings = before ++ conducts.map Conduct.atOnce? := by
  induction conducts generalizing run before with
  | nil => exact fresh
  | cons conduct rest ih =>
    have next : before.length + 1 = (before ++ [conduct.atOnce?]).length := by simp
    rw [ownEnds, steps_append, next, List.map_cons,
      List.append_cons before conduct.atOnce? (rest.map _)]
    refine ih _ _ ?_
    rw [List.length_cons, List.replicate_succ] at fresh
    cases own : conduct.atOnce? with
    | none =>
      show run.endings = _
      rw [fresh, List.append_cons]
    | some ending =>
      have runs : run.isRunning before.length = true := by
        rw [isRunning_iff, fresh, List.getElem?_append_right (Nat.le_refl _), Nat.sub_self]
        rfl
      show (run.step (.ended before.length ending)).endings = _
      rw [step_ended runs, fresh, List.set_append_right _ _ (Nat.le_refl _), Nat.sub_self]
      exact List.append_cons before (some ending) _

namespace Crew

variable {components : List Component} {stopped : Bool} {moves : List Move} {crew : Crew} {place : Nat}

/-! ## A crew at rest -/

/-- The thread of a component that runs or has ended. -/
def restOf : Option Ending → Thread
  | none => .running
  | some ending => .gone ending

/-- A crew in which all threads were started, and each of them runs or is gone. -/
def atRest (run : Lifecycle) : Crew :=
  { threads := run.endings.map restOf
    started := run.endings.length
    stopped := run.stopped
    failures := run.failures }

theorem getElem?_put_self (thread : Thread) {old : Thread} (found : crew.threads[place]? = some old) :
    (crew.put place thread).threads[place]? = some thread := by
  rw [getElem?_put thread found, if_pos rfl]

/-- A thread whose component has ended may go all the way while the others wait. -/
theorem Run.close (run : Run components stopped moves crew) {ending : Ending}
    (found : crew.threads[place]? = some (.closing ending)) :
    ∃ more, Run components stopped (moves ++ more)
      { crew.put place (.gone ending) with stopped := true } := by
  have told := run.snoc (.tell crew found)
  have left := told.snoc (.leave _ (getElem?_put_self (.leaving ending) found))
  have same : ({ crew.put place (.leaving ending) with stopped := true } : Crew).put place (.gone ending) =
      { crew.put place (.gone ending) with stopped := true } := by simp only [put, List.set_set]
  rw [same, List.append_assoc] at left
  exact ⟨_, left⟩

/-- A component may end, and its thread go all the way, while the others wait. -/
theorem Run.finish (run : Run components stopped moves crew) {component : Component} {ending : Ending}
    (found : crew.threads[place]? = some .running) (at_place : components[place]? = some component)
    (mayEnd : component.mayEnd crew.stopped ending) :
    ∃ more, Run components stopped (moves ++ more)
      { crew.put place (.gone ending) with
        stopped := true
        failures := crew.failures ++ failuresOf ending } := by
  have ended := run.snoc (.finish crew found at_place mayEnd)
  cases ending with
  | error failure =>
    have noted := ended.snoc (.note _ (getElem?_put_self (.failing failure) found))
    obtain ⟨more, closed⟩ := noted.close
      (getElem?_put_self (.closing _) (getElem?_put_self (.failing failure) found))
    refine ⟨.ended place (.error failure) :: .noted place failure :: more, ?_⟩
    simpa only [put, Thread.atEnd, List.set_set, List.append_assoc, List.cons_append, List.nil_append,
      failuresOf] using closed
  | ok done =>
    obtain ⟨more, closed⟩ := ended.close (getElem?_put_self (.closing (.ok ())) found)
    refine ⟨.ended place (.ok ()) :: more, ?_⟩
    simpa only [put, Thread.atEnd, List.set_set, List.append_assoc, List.singleton_append, failuresOf,
      List.append_nil] using closed

/-- The change may be taken by a crew at rest. -/
def Allowed (components : List Component) (run : Lifecycle) : Change → Prop
  | .stop => True
  | .ended place ending => run.isRunning place = true →
    ∃ component, components[place]? = some component ∧ component.mayEnd run.stopped ending

theorem Run.change {run : Lifecycle} (rests : Run components stopped moves (atRest run)) {change : Change}
    (allowed : Allowed components run change) :
    ∃ more, Run components stopped (moves ++ more) (atRest (run.step change)) := by
  cases change with
  | stop => exact ⟨_, rests.snoc (.stop _)⟩
  | ended place ending =>
    cases runs : run.isRunning place with
    | false =>
      rw [show run.step (.ended place ending) = run from if_neg (Bool.eq_false_iff.mp runs)]
      exact ⟨[], (List.append_nil moves).symm ▸ rests⟩
    | true =>
      obtain ⟨component, at_place, mayEnd⟩ := allowed runs
      have found : (atRest run).threads[place]? = some .running := by
        rw [atRest, List.getElem?_map, isRunning_iff.mp runs]
        rfl
      obtain ⟨more, finished⟩ := rests.finish found at_place mayEnd
      refine ⟨more, ?_⟩
      rw [step_ended runs]
      simpa only [atRest, put, List.map_set, List.length_set, restOf] using finished

/-- Changes that may be taken one after the other. -/
def AllowedAll (components : List Component) : Lifecycle → List Change → Prop
  | _, [] => True
  | run, change :: rest => Allowed components run change ∧ AllowedAll components (run.step change) rest

theorem Run.changes {run : Lifecycle} (rests : Run components stopped moves (atRest run))
    {changes : List Change} (allowed : AllowedAll components run changes) :
    ∃ more, Run components stopped (moves ++ more) (atRest (run.steps changes)) := by
  induction changes generalizing run moves with
  | nil => exact ⟨[], (List.append_nil moves).symm ▸ rests⟩
  | cons change rest ih =>
    obtain ⟨more, changed⟩ := rests.change allowed.1
    obtain ⟨others, rested⟩ := ih changed allowed.2
    exact ⟨more ++ others, List.append_assoc .. ▸ rested⟩

/-! ## From the start to the end -/

/-- The main thread may start all threads before any component ends. -/
theorem exists_run_start (components : List Component) (stopped : Bool) :
    ∃ moves, Run components stopped moves (atRest (Lifecycle.start components.length stopped)) := by
  have starts (count : Nat) (within : count ≤ components.length) : ∃ moves, Run components stopped moves
      { threads := List.replicate count .running ++ List.replicate (components.length - count) .waiting
        started := count
        stopped } := by
    induction count with
    | zero => exact ⟨[], .here⟩
    | succ count ih =>
      obtain ⟨moves, run⟩ := ih (Nat.le_of_succ_le within)
      have left : components.length - count = components.length - (count + 1) + 1 := by omega
      rw [left, List.replicate_succ] at run
      have next := run.snoc (.start _ (by simp))
      refine ⟨moves ++ [.started count], ?_⟩
      simpa [put, List.replicate_succ'] using next
  obtain ⟨moves, run⟩ := starts components.length (Nat.le_refl _)
  refine ⟨moves, ?_⟩
  simpa [atRest, Lifecycle.start, restOf] using run

/-- The main thread may see all threads end, when they have ended, and end itself. -/
theorem Run.conclude {run : Lifecycle} (rests : Run components stopped moves (atRest run))
    (finished : run.isOver = true) : ∃ more, Run components stopped (moves ++ more)
      { atRest run with joined := run.endings.length, result := some run.outcome } := by
  have joins (count : Nat) (within : count ≤ run.endings.length) : ∃ more,
      Run components stopped (moves ++ more) { atRest run with joined := count } := by
    induction count with
    | zero => exact ⟨[], (List.append_nil moves).symm ▸ rests⟩
    | succ count ih =>
      obtain ⟨more, joined⟩ := ih (Nat.le_of_succ_le within)
      obtain ⟨ending, ended⟩ := Option.isSome_iff_exists.mp
        (List.all_eq_true.mp finished _ (List.getElem_mem within))
      have gone : (atRest run).threads[count]? = some (.gone ending) := by
        rw [atRest, List.getElem?_map, List.getElem?_eq_getElem within, ended]
        rfl
      have all : (atRest run).started = (atRest run).threads.length := (List.length_map ..).symm
      refine ⟨more ++ [.joined count], ?_⟩
      rw [← List.append_assoc]
      exact joined.snoc (.join _ all gone)
  obtain ⟨more, joined⟩ := joins run.endings.length (Nat.le_refl _)
  have all : (atRest run).started = (atRest run).threads.length := (List.length_map ..).symm
  refine ⟨more ++ [.concluded], ?_⟩
  rw [← List.append_assoc]
  exact joined.snoc (.conclude _ all all rfl)

/-! ## Plays -/

section Conducts

variable {whole conducts : List Conduct} {conduct : Conduct} {run : Lifecycle} {first : Nat}

theorem mayEnd_of_atOnce {ending : Ending} (own : conduct.atOnce? = some ending) (stopped : Bool) :
    conduct.component.mayEnd stopped ending := by
  simp only [Conduct.component, own]

theorem mayEnd_onceStopped (waits : conduct.atOnce? = none) :
    conduct.component.mayEnd true conduct.onceStopped := by
  simp only [Conduct.component, waits, and_self]

theorem getElem?_components (found : whole[place]? = some conduct) :
    (whole.map Conduct.component)[place]? = some conduct.component := by
  rw [List.getElem?_map, found]
  rfl

/-- Simple components may end of their own at any time. -/
theorem allowedAll_ownEnds (parts : ∀ place conduct, conducts[place]? = some conduct →
    whole[first + place]? = some conduct) :
    AllowedAll (whole.map Conduct.component) run (ownEnds conducts first) := by
  induction conducts generalizing run first with
  | nil => trivial
  | cons conduct rest ih =>
    have others : ∀ place conduct, rest[place]? = some conduct →
        whole[first + 1 + place]? = some conduct := fun place conduct found => by
      rw [Nat.add_assoc, Nat.add_comm 1]
      exact parts (place + 1) conduct found
    rw [ownEnds]
    cases own : conduct.atOnce? with
    | none => exact ih others
    | some ending =>
      exact ⟨fun _ => ⟨_, getElem?_components (parts 0 conduct rfl), mayEnd_of_atOnce own _⟩, ih others⟩

/-- Simple components may end as they are told once a stop is known, if those that end of their own
have. -/
theorem allowedAll_toldEnds (parts : ∀ place conduct, conducts[place]? = some conduct →
      whole[first + place]? = some conduct)
    (known : run.stopped = true)
    (waits : ∀ place conduct, run.isRunning place = true → whole[place]? = some conduct →
      conduct.atOnce? = none) :
    AllowedAll (whole.map Conduct.component) run (toldEnds conducts first) := by
  induction conducts generalizing run first with
  | nil => trivial
  | cons conduct rest ih =>
    have others : ∀ place conduct, rest[place]? = some conduct →
        whole[first + 1 + place]? = some conduct := fun place conduct found => by
      rw [Nat.add_assoc, Nat.add_comm 1]
      exact parts (place + 1) conduct found
    have here : whole[first]? = some conduct := parts 0 conduct rfl
    refine ⟨fun runs => ⟨_, getElem?_components here, ?_⟩, ih others (stopped_step known _) ?_⟩
    · rw [known]
      exact mayEnd_onceStopped (waits first conduct runs here)
    · exact fun place conduct runs => waits place conduct (isRunning_of_step runs)

end Conducts

/-- What a crew shows of a lifecycle: who has ended and how, whether a stop is known, the failures, and, if
all have ended, how the main thread ended. -/
structure Shows (crew : Crew) (run : Lifecycle) : Prop where
  endings : crew.view.endings = run.endings
  stopped : crew.stopped = run.stopped
  failures : crew.failures = run.failures
  result : run.isOver = true → crew.result = some run.outcome

/-- A crew at rest shows its lifecycle, after the main thread has ended if it may. -/
theorem Run.exists_shows {run : Lifecycle} (rests : Run components stopped moves (atRest run)) :
    ∃ moves crew, Run components stopped moves crew ∧ crew.Shows run := by
  have shown : (atRest run).view.endings = run.endings := by
    have same : Thread.noted? ∘ restOf = id := funext fun ending => by cases ending <;> rfl
    rw [view, atRest, List.map_map, same, List.map_id]
  cases finished : run.isOver with
  | false =>
    have open_ : run.isOver ≠ true := Bool.eq_false_iff.mp finished
    exact ⟨moves, _, rests, shown, rfl, rfl, fun isOver => absurd isOver open_⟩
  | true =>
    obtain ⟨more, concluded⟩ := rests.conclude finished
    exact ⟨moves ++ more, _, concluded, shown, rfl, rfl, fun _ => rfl⟩

/-- A play of simple components is shown by a run of their threads. -/
theorem exists_run_play (conducts : List Conduct) (stopped : Bool) :
    ∃ moves crew, Run (conducts.map Conduct.component) stopped moves crew ∧
      crew.Shows (play conducts stopped) := by
  have length : (conducts.map Conduct.component).length = conducts.length := List.length_map ..
  obtain ⟨moves, started⟩ := exists_run_start (conducts.map Conduct.component) stopped
  rw [length] at started
  have parts : ∀ place conduct, conducts[place]? = some conduct →
      conducts[0 + place]? = some conduct := fun place conduct found => (Nat.zero_add place).symm ▸ found
  obtain ⟨more, own⟩ := started.changes (allowedAll_ownEnds parts)
  have endings : ((Lifecycle.start conducts.length stopped).steps (ownEnds conducts 0)).endings =
      conducts.map Conduct.atOnce? := endings_steps_ownEnds conducts _ [] rfl
  rw [play]
  split
  · rename_i known
    have waits (place : Nat) (conduct : Conduct)
        (runs : ((Lifecycle.start conducts.length stopped).steps (ownEnds conducts 0)).isRunning place = true)
        (found : conducts[place]? = some conduct) : conduct.atOnce? = none := by
      rw [isRunning_iff, endings, List.getElem?_map, found] at runs
      exact Option.some.inj runs
    obtain ⟨rest, told⟩ := own.changes (allowedAll_toldEnds parts known waits)
    exact told.exists_shows
  · exact own.exists_shows

end Crew

end Evacuation.Lifecycle
