import Evacuation.KeyValue
/-!
# Nodes

A node as the cluster shows it. Labels, conditions, specification and status may be missing; a
missing part counts as empty, and a node without specification is schedulable.
-/
namespace Evacuation

/-- A condition reported for a node. -/
structure NodeCondition where
  type : String
  status : String
  deriving DecidableEq, Repr

/-- The wanted state of a node. -/
structure NodeSpec where
  unschedulable : Option Bool := none
  deriving DecidableEq, Repr

/-- The reported state of a node. -/
structure NodeStatus where
  conditions : Option (List NodeCondition) := none
  deriving DecidableEq, Repr

/-- A node as the cluster shows it. -/
structure Node where
  name : String
  labels : Option (Table String String) := none
  spec : Option NodeSpec := none
  status : Option NodeStatus := none
  resourceVersion : Option String := none
  deriving DecidableEq, Repr

namespace Node

/-- The value of a label. -/
def label? (node : Node) (key : String) : Option String := node.labels.bind (·.get? key)

/-- The reported conditions. -/
def conditions (node : Node) : List NodeCondition :=
  ((node.status.bind (·.conditions)).getD [])

/-- No new pods are placed on the node. -/
def isUnschedulable (node : Node) : Bool :=
  ((node.spec.bind (·.unschedulable)).getD false)

/-- The node with scheduling disabled. -/
def cordoned (node : Node) : Node :=
  { node with spec := some { node.spec.getD {} with unschedulable := some true } }

@[simp] theorem isUnschedulable_cordoned (node : Node) : node.cordoned.isUnschedulable = true := rfl

@[simp] theorem name_cordoned (node : Node) : node.cordoned.name = node.name := rfl

end Node

/-- A condition is the one a spec asks for. -/
def ConditionSpec.accepts (spec : ConditionSpec) (condition : NodeCondition) : Bool :=
  condition.type == spec.type && condition.status == spec.status

end Evacuation
