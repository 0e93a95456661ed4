import Evacuation.Proofs.Paths
import Evacuation.Schedule.Controller
/-!
# Offices

The controller is worked by many hands at once: those who call it and the timers that go off. An
office holds one desk and a clerk for every command given and every timer gone off so far; each
clerk works through a program of the control of drains, one request at a time, and the steps of the
clerks come in any order. A request that the desk answers is one step, since a transaction is never
interrupted. An errand, which is an announcement, a cordon or a drain, is two: it is sent out, and
later it comes back with any outcome at all. A timer goes off at most once; a cancelled one may
still go off.
-/
namespace Evacuation

/-- The commands that are given to the control of drains. -/
inductive Control.Command where
  | handle (node : Node)
  | schedule (node : Node)
  | delete (node : String)
  | clear (node : String)
  | stop
  | dispatch (notification : Notification)

namespace Control

variable {T : Type}

/-- The program of a command. -/
def Command.program [TimeScale T] : Command → Controlling T (Except Failure Unit)
  | handle node => handleNode node
  | schedule node => do return (← Control.schedule (T := T) node).map fun _ => ()
  | delete node => do
    deleteSchedule node
    return .ok ()
  | clear node => do
    let _ ← clearIfHealthy (T := T) node
    return .ok ()
  | stop => do
    Control.stop
    return .ok ()
  | dispatch notification => do
    Control.dispatch notification
    return .ok ()

/-- A request that is carried out in the cluster. -/
def Request.isErrand : Request T → Bool
  | .announce _ _ _ | .cordon _ | .drain _ => true
  | _ => false

/-- Some reply is possible to every request. -/
theorem nonempty_reply (request : (Control T).Request) : Nonempty ((Control T).Reply request) := by
  cases request with
  | transact transaction =>
    cases transaction with
    | look => exact ⟨(false, false)⟩
    | book => exact ⟨.error .outOfTurns⟩
    | launch => exact ⟨false⟩
    | finish => exact ⟨()⟩
    | forget => exact ⟨none⟩
    | clear => exact ⟨false⟩
    | halt => exact ⟨[]⟩
  | fire => exact ⟨none⟩
  | announce | cordon => exact ⟨.ok ()⟩
  | drain => exact ⟨.error .outOfTurns⟩
  | screen => exact ⟨none⟩
  | arm | start | cancel | count | release | complain => exact ⟨()⟩

/-- What a program is told of the outcome of an errand: the refusal of an announcement is let go. -/
def settle : (request : Request T) → (Control T).Reply request → (Control T).Reply request
  | .announce _ _ _, outcome => Work.letGo outcome
  | _, outcome => outcome

end Control

namespace Controller

variable {T : Type} [TimeScale T]

/-- A world in which nothing happens at a time of the clock, with the desk as its state. -/
def stillWorld (now : T) : Surroundings (World T) (Desk T)
  | .call _, desk => (.error .outOfTurns, desk)
  | .clock, desk => (now, desk)
  | .sleep _, desk | .openPool _ _, desk | .resume _ _, desk | .closePool _, desk
  | .tell _, desk => ((), desk)

/-- What the desk answers to a request at a time of the clock, and the desk afterwards. -/
def atDesk (controller : Controller T) (now : T) :
    (request : Control.Request T) → Desk T → (Control T).Reply request × Desk T :=
  controller.answer ⟨id, fun desk _ => desk⟩ (stillWorld now)

end Controller

/-- What a clerk works for. A timer comes with the node and the record it was made for. -/
inductive Cause where
  | command (command : Control.Command)
  | timer (timer : Nat) (node : Node) (record : Nat)

/-- The program a cause sets going. -/
def Cause.program {T : Type} [TimeScale T] : Cause → Controlling T (Except Failure Unit)
  | command given => given.program
  | timer _ node record => Control.runDrain node record

/-- One who works through a program. -/
structure Clerk (T : Type) where
  cause : Cause
  /-- What is left of the program. -/
  program : Controlling T (Except Failure Unit)
  /-- The next request is an errand that was sent out and is not back. -/
  away : Bool := false

/-- There is nothing left to do. -/
def Clerk.isDone {T : Type} (clerk : Clerk T) : Bool :=
  match clerk.program with
  | .done _ => true
  | .ask _ _ => false

/-- A desk and all who have worked at it. -/
structure Office (T : Type) where
  desk : Desk T
  clerks : List (Clerk T) := []

/-- One step of the work in an office. Clerks are known by their place. -/
inductive Deed (T : Type) where
  /-- A clerk begins. -/
  | began (clerk : Nat) (cause : Cause)
  /-- A request is answered at the desk. -/
  | asked (clerk : Nat) (cause : Cause) (exchange : Exchange (Control T))
  /-- An errand is sent out. -/
  | sent (clerk : Nat) (cause : Cause) (request : Control.Request T)
  /-- An errand comes back with its outcome. -/
  | returned (clerk : Nat) (cause : Cause) (exchange : Exchange (Control T))

namespace Deed

variable {T : Type}

/-- The clerk who does it. -/
def clerk : Deed T → Nat
  | began clerk _ | asked clerk _ _ | sent clerk _ _ | returned clerk _ _ => clerk

/-- What it is done for. -/
def cause : Deed T → Cause
  | began _ cause | asked _ cause _ | sent _ cause _ | returned _ cause _ => cause

/-- The exchange by which it moves its clerk's program on. -/
def exchange? : Deed T → Option (Exchange (Control T))
  | asked _ _ exchange => some exchange
  | returned _ _ exchange =>
    some ⟨exchange.request, Control.settle exchange.request exchange.reply⟩
  | _ => none

end Deed

namespace Office

variable {T : Type} [TimeScale T]

/-- An office with a fresh desk and a buffer. -/
def opened (buffer : DrainBuffer T) : Office T := { desk := { schedule := { buffer } } }

/-- The office with one more clerk. -/
def engage (office : Office T) (cause : Cause) : Office T :=
  { office with clerks := office.clerks ++ [{ cause, program := cause.program }] }

/-- One step of the work in an office. -/
inductive Step (controller : Controller T) : Office T → Deed T → Office T → Prop where
  | command (office : Office T) (command : Control.Command) :
      Step controller office (.began office.clerks.length (.command command))
        (office.engage (.command command))
  | fire (office : Office T) {timer : Nat} {found : Timer T}
      (stands : office.desk.schedule.timers[timer]? = some found)
      (ready : found.state = .pending ∨ found.state = .cancelled) (now : T) :
      Step controller office (.began office.clerks.length (.timer timer found.node found.record))
        ({ office with desk := (controller.atDesk now (.fire timer) office.desk).2 }.engage
          (.timer timer found.node found.record))
  | ask (office : Office T) {clerk : Nat} {cause : Cause} {request : Control.Request T}
      {next : (Control T).Reply request → Controlling T (Except Failure Unit)}
      (found : office.clerks[clerk]? = some ⟨cause, .ask request next, false⟩)
      (here : request.isErrand = false) (now : T) :
      Step controller office
        (.asked clerk cause ⟨request, (controller.atDesk now request office.desk).1⟩)
        { desk := (controller.atDesk now request office.desk).2
          clerks := office.clerks.set clerk
            ⟨cause, next (controller.atDesk now request office.desk).1, false⟩ }
  | send (office : Office T) {clerk : Nat} {cause : Cause} {request : Control.Request T}
      {next : (Control T).Reply request → Controlling T (Except Failure Unit)}
      (found : office.clerks[clerk]? = some ⟨cause, .ask request next, false⟩)
      (errand : request.isErrand = true) :
      Step controller office (.sent clerk cause request)
        { office with clerks := office.clerks.set clerk ⟨cause, .ask request next, true⟩ }
  | back (office : Office T) {clerk : Nat} {cause : Cause} {request : Control.Request T}
      {next : (Control T).Reply request → Controlling T (Except Failure Unit)}
      (found : office.clerks[clerk]? = some ⟨cause, .ask request next, true⟩)
      (outcome : (Control T).Reply request) :
      Step controller office (.returned clerk cause ⟨request, outcome⟩)
        { office with
          clerks := office.clerks.set clerk ⟨cause, next (Control.settle request outcome), false⟩ }

/-- Steps one after another. -/
inductive Run (controller : Controller T) (start : Office T) : List (Deed T) → Office T → Prop where
  | here : Run controller start [] start
  | snoc {deeds : List (Deed T)} {deed : Deed T} {office later : Office T}
      (run : Run controller start deeds office) (step : Step controller office deed later) :
      Run controller start (deeds ++ [deed]) later

namespace Run

variable {controller : Controller T} {start : Office T}

/-- A run goes on with a run. -/
theorem trans {middle office : Office T} {first second : List (Deed T)}
    (run : Run controller start first middle) (onward : Run controller middle second office) :
    Run controller start (first ++ second) office := by
  induction onward with
  | here => rwa [List.append_nil]
  | snoc _ step ih => exact List.append_assoc _ _ _ ▸ ih.snoc step

/-- A run of deeds in two parts passes through an office between them. -/
theorem split {first second : List (Deed T)} {office : Office T}
    (run : Run controller start (first ++ second) office) :
    ∃ middle, Run controller start first middle ∧ Run controller middle second office := by
  generalize all : first ++ second = deeds at run
  induction run generalizing second with
  | here =>
    obtain ⟨rfl, rfl⟩ := List.append_eq_nil_iff.mp all
    exact ⟨start, .here, .here⟩
  | snoc run step ih =>
    obtain rfl | ⟨rest, last, rfl⟩ := List.eq_nil_or_concat second
    · rw [List.append_nil] at all
      exact ⟨_, all ▸ run.snoc step, .here⟩
    · rw [List.concat_eq_append, ← List.append_assoc] at all
      obtain ⟨rfl, same⟩ := List.append_inj' all rfl
      cases same
      obtain ⟨middle, before, after⟩ := ih rfl
      exact ⟨middle, before, List.concat_eq_append ▸ after.snoc step⟩

/-- A run takes the step of each of its deeds. -/
theorem step_of_append {before after : List (Deed T)} {deed : Deed T} {office : Office T}
    (run : Run controller start (before ++ deed :: after) office) :
    ∃ middle later, Run controller start before middle ∧ Step controller middle deed later ∧
      Run controller later after office := by
  rw [← List.singleton_append, ← List.append_assoc] at run
  obtain ⟨later, first, onward⟩ := run.split
  generalize all : before ++ [deed] = deeds at first
  cases first with
  | here => cases List.append_ne_nil_of_right_ne_nil before (List.cons_ne_nil _ _) all
  | snoc earlier step =>
    obtain ⟨rfl, same⟩ := List.append_inj' all rfl
    cases same
    exact ⟨_, later, earlier, step, onward⟩

end Run

end Office

end Evacuation
