import Evacuation.DrainReport
import Evacuation.Event
import Evacuation.Metrics
import Evacuation.NodeFilter
import Evacuation.Program
import Evacuation.Schedule.Transaction
import Evacuation.Time.Calendar
/-!
# The control of drains

What the controller does about nodes, as programs over the transactions of the schedule, the
timers, the announcements and the two actions on the cluster, cordoning and draining. An unhealthy
node without a record is cordoned at once and its drain is given to a timer; the timer begins the
drain; a node that leaves is forgotten; a node that recovers gives up the record of a drain that
has ended. Every stage is announced, and every ending counted.
-/
namespace Evacuation

/-- What the control of drains asks of its surroundings. -/
inductive Control.Request (T : Type) where
  | transact (transaction : Transaction)
  /-- Set a timer up that goes off after an interval. -/
  | arm (timer : Nat) (interval : T)
  | start (timer : Nat) (label : String)
  | cancel (timer : Nat)
  /-- Take note that a timer goes off. -/
  | fire (timer : Nat)
  | announce (stage : Stage) (node : String) (message : String)
  | cordon (node : Node)
  | drain (node : Node)
  | count (series : Series) (success : Success)
  /-- Ask the chain of filters about a node. -/
  | screen (node : Node)
  /-- Let the chain of filters forget a node. -/
  | release (node : String)
  /-- Report a failure that is not passed on. -/
  | complain (message : String)
  deriving DecidableEq

/-- The interface of the control of drains. -/
def Control (T : Type) : Interface where
  Request := Control.Request T
  Reply
    | .transact transaction => transaction.Reply T
    | .arm _ _ => Unit
    | .start _ _ => Unit
    | .cancel _ => Unit
    | .fire _ => Option (Node × Nat)
    | .announce _ _ _ => Except Failure Unit
    | .cordon _ => Except Failure Unit
    | .drain _ => Except Failure DrainReport
    | .count _ _ => Unit
    | .screen _ => Option NodeFilter
    | .release _ => Unit
    | .complain _ => Unit

/-- A program of the control of drains. -/
abbrev Controlling (T α : Type) := Program (Control T) α

/-- A change of a node. -/
structure Notification where
  type : String
  node : Node
  deriving Repr

/-- The node has left the cluster. -/
def Notification.isDeparture (notification : Notification) : Bool := notification.type == "DELETED"

namespace Control

variable {T : Type} [TimeScale T]

/-- Ask the surroundings. -/
def ask (request : Request T) : Program (Control T) ((Control T).Reply request) :=
  Program.request (I := Control T) request

/-- Announce a stage of a node, and go on unless that fails. -/
def announcing {α : Type} (stage : Stage) (node message : String)
    (rest : Controlling T (Except Failure α)) : Controlling T (Except Failure α) := do
  match ← ask (T := T) (.announce stage node message) with
  | .error failure => return .error failure
  | .ok () => rest

/-- Give the drain of a node to a timer. The time at which it will begin. -/
def schedule (node : Node) : Controlling T (Except Failure T) := do
  match ← ask (T := T) (.transact (.book node)) with
  | .error failure => return .error failure
  | .ok appointment =>
    ask (.arm appointment.timer appointment.interval)
    ask (T := T) (.start appointment.timer s!"drain-{node.name}")
    match showInstant appointment.start with
    | .error error => return .error (.time error)
    | .ok text =>
      announcing .drainScheduled node.name s!"Will drain node after {text}"
        (return .ok appointment.start)

/-- Give the drain of a node to a timer, if no one has done so meanwhile. -/
def scheduleOnce (node : Node) : Controlling T (Except Failure Unit) := do
  match ← schedule (T := T) node with
  | .error (.alreadyScheduled _) => return .ok ()
  | result => return result.map fun _ => ()

/-- Cordon an unhealthy node and schedule its drain, unless it has a record. -/
def handleNode (node : Node) : Controlling T (Except Failure Unit) := do
  if (← ask (T := T) (.transact (.look node.name))).1 then return .ok ()
  announcing .cordonStarting node.name "Cordoning node" do
    match ← ask (T := T) (.cordon node) with
    | .error (.cordon name refusal) =>
      ask (T := T) (.count .cordoned .failed)
      let reason := (Failure.cordon name refusal).message
      announcing .cordonFailed node.name s!"Cordoning failed: {reason}" (return .ok ())
    | .error failure => return .error failure
    | .ok () =>
      ask (T := T) (.count .cordoned .succeeded)
      announcing .cordonSucceeded node.name "Cordoned node" (scheduleOnce node)

/-- The number of retries and the error text that a drain leaves in its record. -/
def ending : Except Failure DrainReport → Int × Option String
  | .ok report => (report.retries, report.errorText)
  | .error failure => (0, some failure.report)

/-- Write down how a drain went, count it and announce it. -/
def concludeDrain (node : Node) (record : Nat) (drained : Except Failure DrainReport) :
    Controlling T (Except Failure Unit) := do
  let (retries, error) := ending drained
  ask (T := T) (.transact (.finish record retries error))
  if DrainRecord.isFault error then
    ask (T := T) (.count .drained .failed)
    let text := error.getD ""
    announcing .drainFailed node.name s!"Draining failed: {text}" (return .ok ())
  else
    ask (T := T) (.count .drained .succeeded)
    announcing .drainSucceeded node.name "Drained node" (return .ok ())

/-- Drain a node for a record, unless the record has been replaced or dropped. -/
def runDrain (node : Node) (record : Nat) : Controlling T (Except Failure Unit) := do
  if !(← ask (T := T) (.transact (.launch node.name record))) then return .ok ()
  announcing .drainStarting node.name "Draining node" do
    concludeDrain node record (← ask (T := T) (.drain node))

/-- A timer goes off. -/
def fireTimer (timer : Nat) : Controlling T (Except Failure Unit) := do
  match ← ask (T := T) (.fire timer) with
  | none => return .ok ()
  | some (node, record) => runDrain node record

/-- Forget a node that has left. A drain that runs is left to end. -/
def deleteSchedule (node : String) : Controlling T Unit := do
  match ← ask (T := T) (.transact (.forget node)) with
  | none => return ()
  | some timer => ask (T := T) (.cancel timer)

/-- Give up the record of a node whose drain has ended. -/
def clearIfHealthy (node : String) : Controlling T Bool := ask (T := T) (.transact (.clear node))

/-- Cancel timers one after another. -/
def cancelAll : List Nat → Controlling T Unit
  | [] => return ()
  | timer :: rest => do
    ask (T := T) (.cancel timer)
    cancelAll rest

/-- Cancel the drains that have not begun. Those that run are left to end. -/
def stop : Controlling T Unit := do
  cancelAll (← ask (T := T) (.transact .halt))

/-- What a change of a node leads to. -/
def react (notification : Notification) : Controlling T (Except Failure Unit) := do
  let node := notification.node
  if notification.isDeparture then
    deleteSchedule node.name
    ask (T := T) (.release node.name)
    return .ok ()
  else
    match ← ask (T := T) (.screen node) with
    | none => handleNode node
    | some filter =>
      if filter.isCondition then
        let _ ← clearIfHealthy (T := T) node.name
        return .ok ()
      else return .ok ()

/-- React to a change of a node. A failure is reported and goes no further. -/
def dispatch (notification : Notification) : Controlling T Unit := do
  match ← react (T := T) notification with
  | .ok () => return ()
  | .error _ =>
    ask (T := T) (.complain
      s!"Failed to handle {notification.type} notification for node '{notification.node.name}'")

end Control

end Evacuation
