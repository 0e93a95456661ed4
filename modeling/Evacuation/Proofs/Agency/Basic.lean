import Mathlib.Logic.Function.Basic
import Evacuation.Proofs.Office.Watch
/-!
# Agencies

An agency is an office in which notifications are dispatched one after another, together with the
work by which its errands are carried out in the cluster. An errand that is sent out begins as the
work the controller has for it (`Controller.work?`); the cluster replies to one request of the work
after the other with any answer or failure, and the errand comes back with what the work comes to.
The main statement is that the work of every errand in hand has gone along the replies since it was
sent out (`Run.inHand`).
-/
namespace Evacuation

variable {T : Type} [TimeScale T]

/-- The work in the cluster that an errand is. -/
def Controller.work? (controller : Controller T) :
    (request : Control.Request T) → Option (Work T ((Control T).Reply request))
  | .announce stage node message =>
    some (Work.record controller.recorder (stage.event node message))
  | .cordon node => some (controller.drainer.cordon node)
  | .drain node => some (controller.drainer.drain node)
  | _ => none

/-- An errand is sent out or comes back. -/
def Deed.isAbroad : Deed T → Bool
  | sent _ _ _ | returned _ _ _ => true
  | began _ _ | asked _ _ _ => false

/-- An errand, and the work that is left of it. -/
structure Errand (T : Type) where
  request : Control.Request T
  work : Work T ((Control T).Reply request)

/-- An office and the errands of its clerks. -/
structure Agency (T : Type) where
  office : Office T
  errands : Nat → Option (Errand T) := fun _ => none

namespace Agency

/-- What happens in an agency. -/
inductive Event (T : Type) where
  | deed (deed : Deed T)
  /-- The cluster replies to a request of the work for a clerk's errand. -/
  | worked (clerk : Nat) (cause : Cause) (errand : Control.Request T) (exchange : Exchange (World T))

namespace Event

/-- What was done in the office. -/
def deeds (events : List (Event T)) : List (Deed T) :=
  events.filterMap fun
    | deed done => some done
    | worked _ _ _ _ => none

/-- What the cluster replied to the work for a clerk. -/
def work (events : List (Event T)) (clerk : Nat) : List (Exchange (World T)) :=
  events.filterMap fun
    | deed _ => none
    | worked place _ _ exchange => if place = clerk then some exchange else none

omit [TimeScale T]

theorem deeds_append (first second : List (Event T)) :
    deeds (first ++ second) = deeds first ++ deeds second := List.filterMap_append

theorem work_append (first second : List (Event T)) (clerk : Nat) :
    work (first ++ second) clerk = work first clerk ++ work second clerk := List.filterMap_append

end Event

/-- One step in an agency. -/
inductive Step (controller : Controller T) : Agency T → Event T → Agency T → Prop where
  /-- Something is done in the office that concerns no errand. -/
  | inside (agency : Agency T) {deed : Deed T} {later : Office T}
      (step : Office.Step controller agency.office deed later)
      (admitted : ∀ {clerk cause}, deed = .began clerk cause → agency.office.Admits cause)
      (home : deed.isAbroad = false) :
      Step controller agency (.deed deed) { agency with office := later }
  | send (agency : Agency T) {clerk : Nat} {cause : Cause} {request : Control.Request T}
      {work : Work T ((Control T).Reply request)} {later : Office T}
      (step : Office.Step controller agency.office (.sent clerk cause request) later)
      (errand : controller.work? request = some work) :
      Step controller agency (.deed (.sent clerk cause request))
        ⟨later, Function.update agency.errands clerk (some ⟨request, work⟩)⟩
  | work (agency : Agency T) {clerk : Nat} {worker : Clerk T} {errand : Control.Request T}
      {request : (World T).Request}
      {next : (World T).Reply request → Work T ((Control T).Reply errand)}
      (stands : agency.office.clerks[clerk]? = some worker)
      (found : agency.errands clerk = some ⟨errand, .ask request next⟩)
      (reply : (World T).Reply request) :
      Step controller agency (.worked clerk worker.cause errand ⟨request, reply⟩)
        { agency with errands := Function.update agency.errands clerk (some ⟨errand, next reply⟩) }
  | back (agency : Agency T) {clerk : Nat} {cause : Cause} {request : Control.Request T}
      {outcome : (Control T).Reply request} {later : Office T}
      (found : agency.errands clerk = some ⟨request, .done outcome⟩)
      (step : Office.Step controller agency.office (.returned clerk cause ⟨request, outcome⟩) later) :
      Step controller agency (.deed (.returned clerk cause ⟨request, outcome⟩))
        ⟨later, Function.update agency.errands clerk none⟩

/-- Steps one after another. -/
inductive Run (controller : Controller T) (start : Agency T) :
    List (Event T) → Agency T → Prop where
  | here : Run controller start [] start
  | snoc {events : List (Event T)} {event : Event T} {agency later : Agency T}
      (run : Run controller start events agency) (step : Step controller agency event later) :
      Run controller start (events ++ [event]) later

variable {controller : Controller T} {start agency later : Agency T} {events : List (Event T)}

/-- In the office of an agency goes on a watch. -/
theorem Run.watch (run : Run controller start events agency) :
    Office.Watch controller start.office (Event.deeds events) agency.office := by
  induction run with
  | here => exact .here
  | @snoc events event middle later run step ih =>
    rw [Event.deeds_append]
    cases step with
    | inside step admitted home => exact ih.snoc step admitted
    | send step errand => exact ih.snoc step nofun
    | work stands found reply => exact (List.append_nil _).symm ▸ ih
    | back found step => exact ih.snoc step nofun

/-- A clerk is away on an errand that was sent out and whose work has gone along what the cluster
replied since. -/
def InHand (controller : Controller T) (events : List (Event T)) (office : Office T) (clerk : Nat)
    (errand : Errand T) : Prop :=
  ∃ cause next before after work,
    office.clerks[clerk]? = some ⟨cause, .ask errand.request next, true⟩ ∧
    events = before ++ .deed (.sent clerk cause errand.request) :: after ∧
    controller.work? errand.request = some work ∧
    work.Reaches (Event.work after clerk) errand.work

/-- What happens elsewhere leaves an errand in hand as it is. -/
theorem InHand.append {office next : Office T} {clerk : Nat} {errand : Errand T} {event : Event T}
    (inHand : InHand controller events office clerk errand)
    (same : next.clerks[clerk]? = office.clerks[clerk]?) (rests : Event.work [event] clerk = []) :
    InHand controller (events ++ [event]) next clerk errand := by
  obtain ⟨cause, onward, before, after, work, stands, rfl, begun, reached⟩ := inHand
  refine ⟨cause, onward, before, after ++ [event], work, same.trans stands, by simp, begun, ?_⟩
  rw [Event.work_append, rests, List.append_nil]
  exact reached

/-- Every errand in hand was sent out, and its work has gone along the replies of the cluster. -/
theorem Run.inHand {desk : Desk T} (run : Run controller { office := { desk } } events agency)
    {clerk : Nat} {errand : Errand T} (found : agency.errands clerk = some errand) :
    InHand controller events agency.office clerk errand := by
  induction run generalizing clerk errand with
  | here => cases found
  | @snoc events event middle later run step ih =>
    cases step with
    | @inside deed later step admitted home =>
      refine (ih found).append ?_ rfl
      obtain ⟨cause, next, _, _, _, stands, _⟩ := ih found
      by_cases own : clerk = deed.clerk
      · subst own
        obtain ⟨exchange, back⟩ := step.of_away stands rfl
        rw [back] at home
        cases home
      · exact step.clerk_ne own
    | @send place cause request work later step begun =>
      by_cases own : clerk = place
      · subst own
        cases (Function.update_self clerk _ _).symm.trans found
        obtain ⟨next, _, stands⟩ := step.of_sent
        exact ⟨cause, next, events, [], work, stands, rfl, begun, .here work⟩
      · have kept := (Function.update_of_ne own _ _).symm.trans found
        exact (ih kept).append (step.clerk_ne own) rfl
    | @work place worker task request next stands there reply =>
      by_cases own : clerk = place
      · subst own
        cases (Function.update_self clerk _ _).symm.trans found
        obtain ⟨cause, onward, before, after, work, stands, rfl, begun, reached⟩ := ih there
        refine ⟨cause, onward, before, after ++ [.worked clerk worker.cause task ⟨request, reply⟩],
          work, stands, by simp, begun, ?_⟩
        rw [Event.work_append]
        simpa [Event.work] using reached.snoc reply
      · have kept := (Function.update_of_ne own _ _).symm.trans found
        exact (ih kept).append rfl (by simp [Event.work, Ne.symm own])
    | @back place cause request outcome later there step =>
      by_cases own : clerk = place
      · subst own
        cases (Function.update_self clerk _ _).symm.trans found
      · have kept := (Function.update_of_ne own _ _).symm.trans found
        exact (ih kept).append (step.clerk_ne own) rfl

end Agency

end Evacuation
