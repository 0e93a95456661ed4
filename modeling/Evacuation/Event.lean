/-!
# Node events

The stages a node goes through are announced as events on the node. A stage has a reason by which
it is known and is a warning exactly if something failed. Nodes belong to no namespace, so the
events about them are filed in a fixed one; the involved object is the node itself, which is also
its identity.
-/
namespace Evacuation

/-- The stages of a node that are announced. -/
inductive Stage where
  | cordonStarting
  | cordonSucceeded
  | cordonFailed
  | drainScheduled
  | drainStarting
  | drainSucceeded
  | drainFailed
  deriving DecidableEq, Repr

namespace Stage

/-- The name by which a stage is known. -/
def reason : Stage → String
  | .cordonStarting => "CordonStarting"
  | .cordonSucceeded => "CordonSucceeded"
  | .cordonFailed => "CordonFailed"
  | .drainScheduled => "DrainScheduled"
  | .drainStarting => "DrainStarting"
  | .drainSucceeded => "DrainSucceeded"
  | .drainFailed => "DrainFailed"

/-- Something failed. -/
def isWarning : Stage → Bool
  | .cordonFailed | .drainFailed => true
  | _ => false

end Stage

/-- What is told about a node. -/
structure NodeEvent where
  node : String
  type : String
  reason : String
  message : String
  deriving DecidableEq, Repr

/-- The event that announces a stage of a node. -/
def Stage.event (stage : Stage) (node message : String) : NodeEvent :=
  ⟨node, if stage.isWarning then "Warning" else "Normal", stage.reason, message⟩

/-- An event as it is filed in the cluster. Its name is the stem, a point and sixteen random
hexadecimal digits, and it is first and last seen at the time of filing. -/
structure FiledEvent where
  ns : String
  nameStem : String
  objectKind : String
  objectName : String
  objectUid : String
  type : String
  reason : String
  message : String
  source : String
  count : Nat
  deriving DecidableEq, Repr

/-- Where events are filed, and by whom. -/
structure EventRecorder where
  ns : String := "default"
  component : String := "node-drainer"
  deriving DecidableEq, Repr

/-- The filed form of an event. -/
def EventRecorder.file (recorder : EventRecorder) (event : NodeEvent) : FiledEvent :=
  { ns := recorder.ns
    nameStem := event.node
    objectKind := "Node"
    objectName := event.node
    objectUid := event.node
    type := event.type
    reason := event.reason
    message := event.message
    source := recorder.component
    count := 1 }

end Evacuation
