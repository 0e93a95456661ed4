import Evacuation.Proofs.Agency.Basic
import Evacuation.Proofs.Office.Play
/-!
# Playing the work in an agency

As in an office, a move names who goes on and what is answered, and then the step can be computed.
Whatever is played is a run (`Agency.Run.of_play?`).
-/
namespace Evacuation

variable {T : Type}

/-- An answer to the work of the controller. -/
inductive Response (T : Type) where
  | done
  | time (time : T)
  | node (node : Node)
  | pods (pods : List Pod)
  | pod (pod : Pod)
  | daemonSet (found : DaemonSet)
  | failure (failure : Failure)

/-- The answer as the outcome of a call, if it is of the right kind. -/
def Call.outcome? : (call : Call) → Response T → Option (Except Failure call.Answer)
  | _, .failure failure => some (.error failure)
  | .readNode _, .node node => some (.ok node)
  | .listPods _, .pods pods => some (.ok pods)
  | .readPod _ _, .pod pod => some (.ok pod)
  | .readDaemonSet _ _, .daemonSet found => some (.ok found)
  | .patchNode _, .done | .evict _ _, .done | .createEvent _ _, .done => some (.ok ())
  | _, _ => none

/-- The answer as a reply to a request, if it is of the right kind. -/
def World.reply? : (request : World.Request T) → Response T → Option ((World T).Reply request)
  | .call call, answer => call.outcome? answer
  | .clock, .time time => some time
  | .sleep _, .done | .openPool _ _, .done | .resume _ _, .done | .closePool _, .done
  | .tell _, .done => some ()
  | _, _ => none

/-- The outcome of an errand as the outcome of a request, if it is the same. -/
def Control.outcomeOf? [DecidableEq T] {errand : Control.Request T} (outcome : (Control T).Reply errand)
    (request : Control.Request T) : Option ((Control T).Reply request) :=
  if same : errand = request then some (same ▸ outcome) else none

theorem Errand.eq_of_outcomeOf? [DecidableEq T] {errand request : Control.Request T}
    {outcome : (Control T).Reply errand} {reply : (Control T).Reply request}
    (taken : Control.outcomeOf? outcome request = some reply) :
    (⟨errand, .done outcome⟩ : Errand T) = ⟨request, .done reply⟩ := by
  unfold Control.outcomeOf? at taken
  split at taken
  · rename_i same
    subst same
    cases taken
    rfl
  · cases taken

instance (office : Office T) : (cause : Cause) → Decidable (office.Admits cause)
  | .timer _ _ _ | .command .stop => .isTrue trivial
  | .command (.dispatch _) => inferInstanceAs (Decidable (∀ worker ∈ office.clerks,
      worker.cause.isDispatch = true → worker.isDone = true))
  | .command (.handle _) | .command (.schedule _) | .command (.delete _) | .command (.clear _) =>
    .isFalse False.elim

namespace Agency

/-- What happens next in an agency. -/
inductive Move (T : Type) where
  /-- Something is done in the office that concerns no errand. -/
  | inside (move : Evacuation.Move T)
  | send (clerk : Nat)
  | work (clerk : Nat) (answer : Response T)
  | back (clerk : Nat)

/-- The cause of a deed by which a clerk begins. -/
def begun? : Deed T → Option Cause
  | .began _ cause => some cause
  | _ => none

variable [TimeScale T] [DecidableEq T]

/-- The agency after a move, if the move is possible, and what happened. -/
def move? (controller : Controller T) (agency : Agency T) : Move T → Option (Event T × Agency T)
  | .inside move =>
    match agency.office.move? controller move with
    | none => none
    | some (deed, later) =>
      if deed.isAbroad = false ∧ ∀ cause ∈ begun? deed, agency.office.Admits cause then
        some (.deed deed, { agency with office := later })
      else none
  | .send clerk =>
    match agency.office.clerks[clerk]? with
    | some ⟨cause, .ask request next, false⟩ =>
      match controller.work? request with
      | none => none
      | some work =>
        if Control.Request.isErrand request then
          some (.deed (.sent clerk cause request),
            ⟨{ agency.office with
                clerks := agency.office.clerks.set clerk ⟨cause, .ask request next, true⟩ },
              Function.update agency.errands clerk (some ⟨request, work⟩)⟩)
        else none
    | _ => none
  | .work clerk answer =>
    match agency.office.clerks[clerk]?, agency.errands clerk with
    | some worker, some ⟨errand, .ask request next⟩ =>
      (World.reply? request answer).map fun reply =>
        (.worked clerk worker.cause errand ⟨request, reply⟩,
          { agency with
            errands := Function.update agency.errands clerk (some ⟨errand, next reply⟩) })
    | _, _ => none
  | .back clerk =>
    match agency.office.clerks[clerk]?, agency.errands clerk with
    | some ⟨cause, .ask request next, true⟩, some ⟨_, .done outcome⟩ =>
      (Control.outcomeOf? outcome request).map fun reply =>
        (.deed (.returned clerk cause ⟨request, reply⟩),
          ⟨{ agency.office with
              clerks := agency.office.clerks.set clerk
                ⟨cause, next (Control.settle request reply), false⟩ },
            Function.update agency.errands clerk none⟩)
    | _, _ => none

/-- Moves one after another. -/
def play? (controller : Controller T) :
    List (Move T) → Agency T → Option (List (Event T) × Agency T)
  | [], agency => some ([], agency)
  | move :: moves, agency =>
    match agency.move? controller move with
    | none => none
    | some (event, later) =>
      (play? controller moves later).map fun played => (event :: played.1, played.2)

variable {controller : Controller T} {start agency later : Agency T}

/-- A move that is possible is a step. -/
theorem Step.of_move? {move : Move T} {event : Event T}
    (moved : agency.move? controller move = some (event, later)) :
    Step controller agency event later := by
  cases move with
  | inside move =>
    simp only [move?] at moved
    split at moved
    · cases moved
    · rename_i deed between done
      split at moved <;> cases moved
      rename_i allowed
      refine .inside agency (.of_move? done) ?_ allowed.1
      rintro clerk cause rfl
      exact allowed.2 cause rfl
  | send clerk =>
    simp only [move?] at moved
    split at moved
    · rename_i found
      split at moved
      · cases moved
      · rename_i errand
        split at moved <;> cases moved
        rename_i away
        exact .send agency (.send agency.office found away) errand
    · cases moved
  | work clerk answer =>
    simp only [move?] at moved
    split at moved
    · rename_i stands found
      obtain ⟨reply, _, same⟩ := Option.map_eq_some_iff.mp moved
      cases same
      exact .work agency stands found reply
    · cases moved
  | back clerk =>
    simp only [move?] at moved
    split at moved
    · rename_i stands found
      obtain ⟨reply, taken, same⟩ := Option.map_eq_some_iff.mp moved
      cases same
      rw [Errand.eq_of_outcomeOf? taken] at found
      exact .back agency found (.back agency.office stands reply)
    · cases moved

/-- What is played is a run. -/
theorem Run.of_play? {moves : List (Move T)} {before events : List (Event T)}
    (run : Run controller start before agency)
    (played : play? controller moves agency = some (events, later)) :
    Run controller start (before ++ events) later := by
  induction moves generalizing agency before events with
  | nil =>
    cases played
    rw [List.append_nil]
    exact run
  | cons move moves ih =>
    simp only [play?] at played
    split at played
    · cases played
    · rename_i event between moved
      obtain ⟨⟨done, reached⟩, onward, same⟩ := Option.map_eq_some_iff.mp played
      cases same
      rw [List.append_cons]
      exact ih (run.snoc (.of_move? moved)) onward

end Agency

end Evacuation
