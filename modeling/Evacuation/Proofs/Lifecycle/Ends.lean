import Mathlib.Algebra.Ring.Nat
import Mathlib.Tactic.ByContra
import Evacuation.Proofs.Lifecycle.Play
/-!
# How components end together

The main statement, `Crew.Run.settles`, is about every run of a crew, in any order of its steps. When
the main thread has ended, every other thread has ended before and all were told to stop; nobody is told
to stop unless a stop is asked for from outside or a component has ended of its own, and nobody is gone
before all are told; and the main thread ends with the failure that was noted first, if any component
failed. A run has so many steps of threads and no more (`Crew.Run.countP_isInner_le`), and it gets stuck
only when no stop is known and no component ends of its own (`Crew.Run.exists_step`), so that otherwise it
ends, whichever thread is next.
-/
namespace Evacuation.Lifecycle

namespace Crew

variable {components : List Component} {stopped : Bool} {moves : List Move} {crew later : Crew}
  {move : Move} {place : Nat} {old : Thread}

/-- A member of a list that is replaced by a smaller one makes the sum smaller. -/
theorem sum_map_set_lt {α : Type} {size : α → Nat} {list : List α} {place : Nat} {old new : α}
    (found : list[place]? = some old) (smaller : size new < size old) :
    ((list.set place new).map size).sum < (list.map size).sum := by
  induction list generalizing place with
  | nil => cases found
  | cons first rest ih =>
    cases place with
    | zero =>
      cases found
      simpa using smaller
    | succ place =>
      have less := ih found
      simpa using less

/-! ## What one thread's step leaves as it is -/

theorem length_put {new : Thread} : (crew.put place new).threads.length = crew.threads.length :=
  List.length_set

theorem lt_length (found : crew.threads[place]? = some old) : place < crew.threads.length :=
  (List.getElem?_eq_some_iff.mp found).1

/-- How the component at a place has ended. -/
def endingAt (crew : Crew) (place : Nat) : Option Ending := crew.threads[place]?.bind Thread.ending?

theorem endingAt_put (new : Thread) (found : crew.threads[place]? = some old) (other : Nat) :
    (crew.put place new).endingAt other = if place = other then new.ending? else crew.endingAt other := by
  rw [endingAt, getElem?_put new found]
  split <;> rfl

theorem endingAt_put_same (new : Thread) (found : crew.threads[place]? = some old)
    (same : new.ending? = old.ending?) : (crew.put place new).endingAt = crew.endingAt := by
  funext other
  rw [endingAt_put new found]
  split
  · rename_i here
    rw [← here, endingAt, found, same]
    rfl
  · rfl

theorem Step.length_eq (step : Step components crew move later) :
    later.threads.length = crew.threads.length := by
  cases step with
  | start | finish | note | tell | leave => exact length_put
  | stop | join | conclude => rfl

theorem Run.length_eq (run : Run components stopped moves crew) :
    crew.threads.length = components.length := by
  induction run with
  | here => exact List.length_replicate
  | snoc _ step ih => rw [step.length_eq, ih]

/-! ## Threads that wait and threads that are gone -/

theorem waiting_put {new : Thread} (found : crew.threads[place]? = some old) (was : old ≠ .waiting)
    (is : new ≠ .waiting) (other : Nat) :
    (crew.put place new).threads[other]? = some .waiting ↔ crew.threads[other]? = some .waiting := by
  rw [getElem?_put new found]
  split
  · rename_i here
    subst here
    rw [found]
    exact ⟨fun same => absurd (Option.some.inj same) is, fun same => absurd (Option.some.inj same) was⟩
  · rfl

theorem gone_put (new : Thread) (found : crew.threads[place]? = some old) {ending : Ending}
    (was : old ≠ .gone ending) {other : Nat} (gone : crew.threads[other]? = some (.gone ending)) :
    (crew.put place new).threads[other]? = some (.gone ending) := by
  rw [getElem?_put new found, if_neg]
  · exact gone
  · rintro rfl
    exact was (Option.some.inj (found.symm.trans gone))

theorem atEnd_ne_waiting (ending : Ending) : Thread.atEnd ending ≠ .waiting := by
  obtain _ | _ := ending <;> exact nofun

/-- The threads that wait are those that come next. -/
structure InTurn (crew : Crew) : Prop where
  waiting (place : Nat) :
    crew.threads[place]? = some .waiting ↔ crew.started ≤ place ∧ place < crew.threads.length
  within : crew.started ≤ crew.threads.length

theorem InTurn.put (inTurn : crew.InTurn) (new : Thread) (found : crew.threads[place]? = some old)
    (was : old ≠ .waiting) (is : new ≠ .waiting) : (crew.put place new).InTurn where
  waiting other := by
    rw [waiting_put found was is, length_put]
    exact inTurn.waiting other
  within := by
    rw [length_put]
    exact inTurn.within

theorem InTurn.start (inTurn : crew.InTurn) (found : crew.threads[crew.started]? = some .waiting) :
    ({ crew.put crew.started .running with started := crew.started + 1 } : Crew).InTurn where
  waiting other := by
    show (crew.put crew.started .running).threads[other]? = _ ↔ crew.started + 1 ≤ other ∧
      other < (crew.put crew.started .running).threads.length
    rw [getElem?_put .running found, length_put]
    split
    · rename_i here
      exact ⟨nofun, fun after => absurd after.1 (by omega)⟩
    · rename_i elsewhere
      rw [inTurn.waiting other]
      omega
  within := by
    show crew.started + 1 ≤ (crew.put crew.started .running).threads.length
    rw [length_put]
    exact lt_length found

theorem Step.inTurn (step : Step components crew move later) (inTurn : crew.InTurn) :
    later.InTurn := by
  cases step with
  | stop | join | conclude => exact ⟨inTurn.waiting, inTurn.within⟩
  | start found => exact inTurn.start found
  | finish found => exact inTurn.put _ found nofun (atEnd_ne_waiting _)
  | note found =>
    rename_i place failure
    have kept := inTurn.put (.closing (.error failure)) found nofun nofun
    exact ⟨kept.waiting, kept.within⟩
  | tell found =>
    rename_i place ending
    have kept := inTurn.put (.leaving ending) found nofun nofun
    exact ⟨kept.waiting, kept.within⟩
  | leave found => exact inTurn.put _ found nofun nofun

theorem Run.inTurn (run : Run components stopped moves crew) : crew.InTurn := by
  induction run with
  | here => exact ⟨fun place => by simp [assembled, List.getElem?_replicate], Nat.zero_le _⟩
  | snoc _ step ih => exact step.inTurn ih

/-- A thread that is gone stays gone. -/
theorem Step.gone (step : Step components crew move later) {ending : Ending}
    (gone : crew.threads[place]? = some (.gone ending)) :
    later.threads[place]? = some (.gone ending) := by
  cases step with
  | stop | join | conclude => exact gone
  | start found | finish found | note found | tell found | leave found => exact gone_put _ found nofun gone

/-- The main thread has seen those threads end that are gone. -/
theorem Run.gone_of_lt_joined (run : Run components stopped moves crew) :
    ∀ place < crew.joined, ∃ ending, crew.threads[place]? = some (.gone ending) := by
  induction run with
  | here => exact nofun
  | @snoc moves move crew later _ step ih =>
    have earlier (place : Nat) (before : place < crew.joined) :
        ∃ ending, later.threads[place]? = some (.gone ending) := by
      obtain ⟨ending, gone⟩ := ih place before
      exact ⟨ending, step.gone gone⟩
    cases step with
    | join all found =>
      intro place before
      obtain before | rfl := Nat.lt_succ_iff_lt_or_eq.mp before
      · exact earlier place before
      · exact ⟨_, found⟩
    | stop | conclude | start | finish | note | tell | leave => exact earlier

/-! ## When all are told to stop -/

theorem told_put {new : Thread} (told : ∀ thread ∈ crew.threads, thread.HasTold → crew.stopped = true)
    (found : crew.threads[place]? = some old) (before : new.HasTold → old.HasTold) :
    ∀ thread ∈ (crew.put place new).threads, thread.HasTold → crew.stopped = true := by
  intro thread listed hasTold
  obtain there | rfl := List.mem_or_eq_of_mem_set listed
  · exact told thread there hasTold
  · exact told old (List.mem_of_getElem? found) (before hasTold)

/-- A thread does not end before all are told to stop. -/
theorem Step.stopped_of_told (step : Step components crew move later)
    (told : ∀ thread ∈ crew.threads, thread.HasTold → crew.stopped = true) :
    ∀ thread ∈ later.threads, thread.HasTold → later.stopped = true := by
  cases step with
  | stop | tell => exact fun _ _ _ => rfl
  | join | conclude => exact told
  | start found => exact told_put told found False.elim
  | finish found => exact told_put told found fun hasTold => absurd hasTold (Thread.not_hasTold_atEnd _)
  | note found => exact told_put told found False.elim
  | leave found => exact told_put told found fun _ => trivial

theorem Run.stopped_of_told (run : Run components stopped moves crew) :
    ∀ thread ∈ crew.threads, thread.HasTold → crew.stopped = true := by
  induction run with
  | here =>
    intro thread listed told
    rw [List.eq_of_mem_replicate listed] at told
    exact told.elim
  | snoc _ step ih => exact step.stopped_of_told ih

/-- There is a reason for a stop: it was known before, it was asked for from outside, or a component has
ended of its own. -/
def Warranted (components : List Component) (stopped : Bool) (moves : List Move) : Prop :=
  stopped = true ∨ .stop ∈ moves ∨ ∃ place component ending, components[place]? = some component ∧
    component.mayEnd false ending ∧ .ended place ending ∈ moves

theorem Warranted.append (warranted : Warranted components stopped moves) (rest : List Move) :
    Warranted components stopped (moves ++ rest) := by
  obtain before | outside | ⟨place, component, ending, at_place, mayEnd, listed⟩ := warranted
  · exact .inl before
  · exact .inr (.inl (List.mem_append_left _ outside))
  · exact .inr (.inr ⟨place, component, ending, at_place, mayEnd, List.mem_append_left _ listed⟩)

/-- The only news of a step is the end of a component, if it is one. -/
theorem Step.endingAt_eq (step : Step components crew move later) :
    (later.endingAt = crew.endingAt ∧ ∀ place ending, move ≠ .ended place ending) ∨
      ∃ place component ending, move = .ended place ending ∧ components[place]? = some component ∧
        component.mayEnd crew.stopped ending ∧ crew.endingAt place = none ∧
        ∀ other, later.endingAt other = if place = other then some ending else crew.endingAt other := by
  cases step with
  | stop | join | conclude => exact .inl ⟨rfl, nofun⟩
  | start found => exact .inl ⟨endingAt_put_same .running found rfl, nofun⟩
  | note found => exact .inl ⟨endingAt_put_same (.closing _) found rfl, nofun⟩
  | tell found => exact .inl ⟨endingAt_put_same (.leaving _) found rfl, nofun⟩
  | leave found => exact .inl ⟨endingAt_put_same _ found rfl, nofun⟩
  | finish found at_place mayEnd =>
    refine .inr ⟨_, _, _, rfl, at_place, mayEnd, by rw [endingAt, found]; rfl, fun other => ?_⟩
    rw [endingAt_put _ found, Thread.ending?_atEnd]

/-- A stop becomes known from outside or after a component has ended. -/
theorem Step.of_stopped (step : Step components crew move later) (known : later.stopped = true) :
    crew.stopped = true ∨ move = .stop ∨ ∃ place ending, crew.endingAt place = some ending := by
  cases step with
  | stop => exact .inr (.inl rfl)
  | tell found => exact .inr (.inr ⟨_, _, by rw [endingAt, found]; rfl⟩)
  | start | finish | note | leave | join | conclude => exact .inl known

/-- A stop is known, or a component has ended. -/
def Stirred (crew : Crew) : Prop :=
  crew.stopped = true ∨ ∃ place ending, crew.endingAt place = some ending

/-- If a stop becomes known or a component ends, there is a reason for it. -/
theorem Step.warrants (step : Step components crew move later)
    (warranted : crew.Stirred → Warranted components stopped moves) (stirred : later.Stirred) :
    Warranted components stopped (moves ++ [move]) := by
  have last : move ∈ moves ++ [move] := List.mem_append_right _ List.mem_cons_self
  obtain ⟨same, -⟩ | ⟨place, component, ending, rfl, at_place, mayEnd, -⟩ := step.endingAt_eq
  · obtain known | ended := stirred
    · obtain before | rfl | ended := step.of_stopped known
      · exact (warranted (.inl before)).append _
      · exact .inr (.inl last)
      · exact (warranted (.inr ended)).append _
    · rw [same] at ended
      exact (warranted (.inr ended)).append _
  · cases known : crew.stopped with
    | true => exact (warranted (.inl known)).append _
    | false =>
      rw [known] at mayEnd
      exact .inr (.inr ⟨place, component, ending, at_place, mayEnd, last⟩)

theorem endingAt_assembled (count place : Nat) : (assembled count stopped).endingAt place = none := by
  simp only [endingAt, assembled, List.getElem?_replicate]
  split <;> rfl

theorem Run.warrants (run : Run components stopped moves crew) :
    crew.Stirred → Warranted components stopped moves := by
  induction run with
  | here =>
    rintro (known | ⟨place, ending, ended⟩)
    · exact .inl known
    · cases (endingAt_assembled _ place).symm.trans ended
  | snoc _ step ih => exact step.warrants ih

/-! ## What is noted -/

/-- How a component ended is a step of the run. -/
theorem Run.ended_iff (run : Run components stopped moves crew) (place : Nat) (ending : Ending) :
    .ended place ending ∈ moves ↔ crew.endingAt place = some ending := by
  induction run with
  | here => simp [endingAt_assembled]
  | snoc _ step ih =>
    rw [List.mem_append, List.mem_singleton, ih]
    obtain ⟨same, other⟩ | ⟨at_, component, as_, rfl, -, -, fresh, changed⟩ := step.endingAt_eq
    · rw [same]
      exact or_iff_left (other place ending).symm
    · rw [changed]
      split
      · rename_i here
        subst here
        simp [fresh, eq_comm]
      · rename_i elsewhere
        exact or_iff_left fun same => elsewhere (by cases same; rfl)

theorem Step.failures_eq (step : Step components crew move later) :
    later.failures = crew.failures ++ move.noted?.toList := by
  cases step with
  | note => rfl
  | stop | start | finish | tell | leave | join | conclude => exact (List.append_nil _).symm

/-- The failures stand in the order in which they were noted. -/
theorem Run.failures_eq (run : Run components stopped moves crew) :
    crew.failures = moves.filterMap Move.noted? := by
  induction run with
  | here => rfl
  | snoc _ step ih =>
    rw [step.failures_eq, ih, List.filterMap_append]
    congr 1

/-! ## How many steps there are -/

/-- How many steps of threads a crew has before it. -/
def ahead (crew : Crew) : Nat :=
  (crew.threads.map Thread.ahead).sum + (crew.threads.length - crew.joined) +
    if crew.result.isSome then 0 else 1

theorem ahead_put_lt (new : Thread) (found : crew.threads[place]? = some old)
    (fewer : new.ahead < old.ahead) : (crew.put place new).ahead < crew.ahead := by
  have less := sum_map_set_lt found fewer
  have sum : ((crew.put place new).threads.map Thread.ahead).sum <
      (crew.threads.map Thread.ahead).sum := less
  have same : (crew.put place new).joined = crew.joined ∧ (crew.put place new).result = crew.result :=
    ⟨rfl, rfl⟩
  rw [ahead, ahead, length_put, same.1, same.2]
  omega

/-- Each step of a thread brings the end nearer. -/
theorem Step.ahead_lt (step : Step components crew move later) (inner : move.isInner = true) :
    later.ahead < crew.ahead := by
  cases step with
  | stop => cases inner
  | start found => exact ahead_put_lt .running found (by decide)
  | finish found => exact ahead_put_lt _ found (Thread.ahead_atEnd_lt _)
  | note found => exact ahead_put_lt (.closing _) found (Nat.lt_succ_self 2)
  | tell found => exact ahead_put_lt (.leaving _) found (Nat.lt_succ_self 1)
  | leave found => exact ahead_put_lt _ found (Nat.lt_succ_self 0)
  | join all found =>
    have inside := lt_length found
    simp only [ahead]
    omega
  | conclude all joined open_ => simp [ahead, open_]

/-- A run has no more steps of threads than six for each component and one more. -/
theorem Run.countP_isInner_le (run : Run components stopped moves crew) :
    moves.countP Move.isInner + crew.ahead ≤ 6 * components.length + 1 := by
  induction run with
  | here =>
    simp [ahead, assembled, Thread.ahead]
    omega
  | @snoc moves move crew later _ step ih =>
    rw [List.countP_append, List.countP_singleton]
    split
    · rename_i inner
      have less := step.ahead_lt inner
      omega
    · rename_i outer
      cases step with
      | stop => exact ih
      | _ => exact absurd rfl outer

/-! ## How a run goes on -/

theorem Run.joined_le (run : Run components stopped moves crew) :
    crew.joined ≤ crew.threads.length := by
  by_contra beyond
  obtain ⟨ending, gone⟩ := run.gone_of_lt_joined crew.threads.length (by omega)
  exact absurd (lt_length gone) (Nat.lt_irrefl _)

/-- A run that is not over goes on if a stop is known, if some component may end of its own, or if there
is no component. -/
theorem Run.exists_step (run : Run components stopped moves crew) (open_ : crew.result = none)
    (stirs : components = [] ∨ crew.stopped = true ∨
      ∃ component ∈ components, ∃ ending, component.mayEnd false ending) :
    ∃ move later, move.isInner = true ∧ Step components crew move later := by
  by_contra stuck
  have no_step {move : Move} {later : Crew} (inner : move.isInner = true) :
      ¬ Step components crew move later := fun step => stuck ⟨move, later, inner, step⟩
  have inTurn := run.inTurn
  have not_waiting (place : Nat) : crew.threads[place]? ≠ some .waiting := fun waits => by
    have next := (inTurn.waiting crew.started).mpr
      ⟨Nat.le_refl _, Nat.lt_of_le_of_lt ((inTurn.waiting place).mp waits).1 (lt_length waits)⟩
    exact no_step rfl (.start crew next)
  have calm (place : Nat) (inside : place < crew.threads.length) :
      crew.threads[place]? = some .running ∨ ∃ ending, crew.threads[place]? = some (.gone ending) := by
    cases found : crew.threads[place]? with
    | none => exact absurd (List.getElem?_eq_none_iff.mp found) (Nat.not_le.mpr inside)
    | some thread =>
      cases thread with
      | waiting => exact absurd found (not_waiting place)
      | running => exact .inl rfl
      | failing failure => exact absurd (.note crew found) (no_step rfl)
      | closing ending => exact absurd (.tell crew found) (no_step rfl)
      | leaving ending => exact absurd (.leave crew found) (no_step rfl)
      | gone ending => exact .inr ⟨ending, rfl⟩
  have told {place : Nat} {ending : Ending} (gone : crew.threads[place]? = some (.gone ending)) :
      crew.stopped = true := run.stopped_of_told _ (List.mem_of_getElem? gone) trivial
  by_cases running : ∃ place : Nat, crew.threads[place]? = some .running
  · obtain ⟨place, runs⟩ := running
    have inside : place < components.length := run.length_eq ▸ lt_length runs
    cases known : crew.stopped with
    | true =>
      obtain ⟨ending, mayEnd⟩ := components[place].heeds
      exact no_step rfl (.finish crew runs (List.getElem?_eq_getElem inside) (known ▸ mayEnd))
    | false =>
      obtain rfl | stops | ⟨component, listed, ending, mayEnd⟩ := stirs
      · exact absurd inside (Nat.not_lt_zero place)
      · cases known.symm.trans stops
      · obtain ⟨other, at_other⟩ := List.mem_iff_getElem?.mp listed
        have within : other < crew.threads.length :=
          run.length_eq ▸ (List.getElem?_eq_some_iff.mp at_other).1
        obtain runs | ⟨ending, gone⟩ := calm other within
        · exact no_step rfl (.finish crew runs at_other (known ▸ mayEnd))
        · cases known.symm.trans (told gone)
  · have all_gone (place : Nat) (inside : place < crew.threads.length) :
        ∃ ending, crew.threads[place]? = some (.gone ending) :=
      (calm place inside).resolve_left fun runs => running ⟨place, runs⟩
    have all : crew.started = crew.threads.length := by
      by_contra fewer
      exact not_waiting crew.started
        ((inTurn.waiting crew.started).mpr ⟨Nat.le_refl _, Nat.lt_of_le_of_ne inTurn.within fewer⟩)
    obtain before | joined := Nat.lt_or_eq_of_le run.joined_le
    · obtain ⟨ending, gone⟩ := all_gone crew.joined before
      exact no_step rfl (.join crew all gone)
    · exact no_step rfl (.conclude crew all joined open_)

/-! ## What the main thread ends with -/

theorem Run.joined_eq (run : Run components stopped moves crew) {ending : Ending}
    (reported : crew.result = some ending) : crew.joined = crew.threads.length := by
  induction run with
  | here => cases reported
  | snoc run step ih =>
    cases step with
    | stop => exact ih reported
    | start | finish | note | tell | leave =>
      exact (ih reported).trans length_put.symm
    | join all found => exact absurd (ih reported) (Nat.ne_of_lt (lt_length found))
    | conclude all joined open_ => exact joined

/-- When the main thread has ended, every other thread has. -/
theorem Run.gone_of_result (run : Run components stopped moves crew) {ending : Ending}
    (reported : crew.result = some ending) :
    ∀ place < crew.threads.length, ∃ ending, crew.threads[place]? = some (.gone ending) := by
  have all := run.gone_of_lt_joined
  rwa [run.joined_eq reported] at all

/-- The main thread ends as its lifecycle does. -/
theorem Run.outcome_eq (run : Run components stopped moves crew) {ending : Ending}
    (reported : crew.result = some ending) : crew.view.outcome = ending := by
  induction run with
  | here => cases reported
  | snoc run step ih =>
    cases step with
    | stop | start | finish | tell | leave | join => exact ih reported
    | note found =>
      -- A failure is not noted any more, since all threads are gone.
      obtain ⟨ending, gone⟩ := run.gone_of_result reported _ (lt_length found)
      cases found.symm.trans gone
    | conclude all joined open_ => exact Option.some.inj reported

end Crew

/-- The failures of a lifecycle are those of its endings. -/
theorem mem_failures_step {run : Lifecycle} {failure : Failure}
    (agrees : failure ∈ run.failures ↔ some (.error failure) ∈ run.endings) (change : Change) :
    failure ∈ (run.step change).failures ↔ some (.error failure) ∈ (run.step change).endings := by
  cases change with
  | stop => exact agrees
  | ended component ending =>
    cases runs : run.isRunning component with
    | false =>
      have same : run.step (.ended component ending) = run :=
        if_neg (Bool.eq_false_iff.mp runs)
      rwa [same]
    | true =>
      obtain ⟨inside, is⟩ := List.getElem?_eq_some_iff.mp (isRunning_iff.mp runs)
      have set : some (.error failure) ∈ run.endings.set component (some ending) ↔
          some (.error failure) ∈ run.endings ∨ ending = .error failure := by
        constructor
        · intro listed
          obtain there | same := List.mem_or_eq_of_mem_set listed
          · exact .inl there
          · exact .inr (Option.some.inj same).symm
        · rintro (there | rfl)
          · obtain ⟨place, within, at_⟩ := List.getElem_of_mem there
            refine List.mem_iff_getElem?.mpr ⟨place, ?_⟩
            rw [List.getElem?_set_ne, List.getElem?_eq_getElem within, at_]
            rintro rfl
            cases is.symm.trans at_
          · exact List.mem_set inside _
      have noted : failure ∈ failuresOf ending ↔ ending = .error failure := by
        obtain other | ⟨⟩ := ending
        · simp [failuresOf, eq_comm]
        · simp [failuresOf]
      rw [step_ended runs, set, ← agrees, ← noted]
      exact List.mem_append

theorem mem_failures_steps {run : Lifecycle} {failure : Failure}
    (agrees : failure ∈ run.failures ↔ some (.error failure) ∈ run.endings) (changes : List Change) :
    failure ∈ (run.steps changes).failures ↔ some (.error failure) ∈ (run.steps changes).endings := by
  induction changes generalizing run with
  | nil => exact agrees
  | cons change rest ih => exact ih (mem_failures_step agrees change)

/-- A lifecycle ends with its first failure. -/
theorem outcome_eq_error_iff {run : Lifecycle} {failure : Failure} :
    run.outcome = .error failure ↔ run.failures.head? = some failure := by
  unfold outcome
  cases run.failures with
  | nil => exact ⟨nofun, nofun⟩
  | cons head rest => simp

namespace Crew

variable {components : List Component} {stopped : Bool} {moves : List Move} {crew : Crew}

/-- A failure is noted if a component has ended with it, once all threads are gone. -/
theorem Run.mem_failures_iff (run : Run components stopped moves crew)
    (gone : ∀ place < crew.threads.length, ∃ ending, crew.threads[place]? = some (.gone ending))
    (failure : Failure) :
    failure ∈ crew.view.failures ↔ ∃ place, .ended place (.error failure) ∈ moves := by
  have fresh : failure ∈ (Lifecycle.start components.length stopped).failures ↔
      some (.error failure) ∈ (Lifecycle.start components.length stopped).endings := by
    simp [Lifecycle.start]
  have noted := mem_failures_steps fresh (moves.flatMap Move.changes)
  rw [← run.view_eq] at noted
  rw [noted, List.mem_iff_getElem?]
  refine exists_congr fun place => ?_
  rw [run.ended_iff, view, List.getElem?_map, endingAt]
  cases found : crew.threads[place]? with
  | none => simp
  | some thread =>
    obtain ⟨ending, is⟩ := gone place (lt_length found)
    cases found.symm.trans is
    simp [Thread.noted?, Thread.ending?]

/-- What holds of a crew whose main thread has ended. -/
structure Over (components : List Component) (moves : List Move) (crew : Crew) (ending : Ending) :
    Prop where
  /-- Every component has ended, and so has its thread. -/
  gone : ∀ place < components.length, ∃ ending, crew.threads[place]? = some (.gone ending) ∧
    .ended place ending ∈ moves
  isOver : crew.view.isOver = true
  stopped : components ≠ [] → crew.stopped = true
  outcome : ending = crew.view.outcome
  /-- What is raised is the failure that was noted first. -/
  first (failure : Failure) :
    ending = .error failure ↔ (moves.filterMap Move.noted?).head? = some failure
  /-- Something is raised if a component failed. -/
  raises : (∃ failure, ending = .error failure) ↔
    ∃ place failure, .ended place (.error failure) ∈ moves

theorem Run.reports (run : Run components stopped moves crew) {ending : Ending}
    (reported : crew.result = some ending) : Over components moves crew ending := by
  have gone := run.gone_of_result reported
  have noted : crew.view.failures = moves.filterMap Move.noted? := run.failures_eq
  have first (failure : Failure) :
      ending = .error failure ↔ (moves.filterMap Move.noted?).head? = some failure := by
    rw [← run.outcome_eq reported, outcome_eq_error_iff, noted]
  refine
    { gone := fun place inside => ?_
      isOver := ?_
      stopped := fun some_component => ?_
      outcome := (run.outcome_eq reported).symm
      first
      raises := ?_ }
  · obtain ⟨ending, there⟩ := gone place (run.length_eq ▸ inside)
    exact ⟨ending, there, (run.ended_iff place ending).mpr (by rw [endingAt, there]; rfl)⟩
  · refine List.all_eq_true.mpr fun noted listed => ?_
    obtain ⟨thread, there, rfl⟩ := List.mem_map.mp listed
    obtain ⟨place, at_place⟩ := List.mem_iff_getElem?.mp there
    obtain ⟨ending, is⟩ := gone place (lt_length at_place)
    cases at_place.symm.trans is
    rfl
  · obtain ⟨ending, there⟩ := gone 0 (run.length_eq ▸ List.length_pos_iff.mpr some_component)
    exact run.stopped_of_told _ (List.mem_of_getElem? there) trivial
  · constructor
    · rintro ⟨failure, fails⟩
      have listed := List.mem_of_head? ((first failure).mp fails)
      rw [← noted, run.mem_failures_iff gone] at listed
      exact listed.imp fun place ended => ⟨failure, ended⟩
    · rintro ⟨place, failure, failed⟩
      have listed := (run.mem_failures_iff gone failure).mpr ⟨place, failed⟩
      rw [noted] at listed
      obtain ⟨head, isHead⟩ :=
        Option.isSome_iff_exists.mp (List.isSome_head?.mpr (List.ne_nil_of_mem listed))
      exact ⟨head, (first head).mpr isHead⟩

/-- Whatever the order in which the threads of a crew take their steps, the run is a run of changes of
its lifecycle. When the main thread has ended, all others have, and it raises the failure that was noted
first, if a component failed. No thread is gone before all are told to stop, and nobody is told without a
reason. The run has a bounded number of steps; and when no thread can go on, the main thread has ended, if
a stop is known or a component may end of its own. -/
theorem Run.settles (run : Run components stopped moves crew) :
    crew.view = (Lifecycle.start components.length stopped).steps (moves.flatMap Move.changes) ∧
    (∀ ending, crew.result = some ending → Over components moves crew ending) ∧
    (∀ ending, .gone ending ∈ crew.threads → crew.stopped = true) ∧
    (crew.stopped = true → Warranted components stopped moves) ∧
    moves.countP Move.isInner ≤ 6 * components.length + 1 ∧
    ((∀ move later, Step components crew move later → move = .stop) →
      (components = [] ∨ crew.stopped = true ∨
        ∃ component ∈ components, ∃ ending, component.mayEnd false ending) →
      ∃ ending, crew.result = some ending) := by
  refine ⟨run.view_eq, fun ending => run.reports, fun ending gone => run.stopped_of_told _ gone trivial,
    fun known => run.warrants (.inl known), ?_, fun stuck stirs => ?_⟩
  · exact Nat.le_of_add_right_le run.countP_isInner_le
  · by_contra open_
    obtain ⟨move, later, inner, step⟩ :=
      run.exists_step (Option.eq_none_iff_forall_ne_some.mpr fun ending is => open_ ⟨ending, is⟩) stirs
    rw [stuck move later step] at inner
    cases inner

/-- Three components, of which the second one fails of its own and the third when it is told to stop. -/
def troubled : List Conduct := [.waits, .fails .noWorkers, .failsOnceStopped .outOfTurns]

/-- The threads of the three components have a run in which all are told to stop, and which ends with the
failure of the second one. -/
theorem Run.settles_troubled : ∃ moves crew,
    Run (troubled.map Conduct.component) false moves crew ∧
      crew.result = some (.error .noWorkers) ∧ crew.stopped = true ∧
      Over (troubled.map Conduct.component) moves crew (.error .noWorkers) ∧
      Warranted (troubled.map Conduct.component) false moves := by
  obtain ⟨moves, crew, run, shows⟩ := exists_run_play troubled false
  have result : crew.result = some (.error .noWorkers) := shows.result rfl
  have known : crew.stopped = true := shows.stopped
  obtain ⟨-, reported, -, warranted, -⟩ := run.settles
  exact ⟨moves, crew, run, result, known, reported _ result, warranted known⟩

end Crew

end Evacuation.Lifecycle
