import Evacuation.Node
/-!
# Node filters

A chain of filters decides which notifications about nodes are acted on. The filters stand in a
fixed order: labels, conditions, schedulability and, in a dry run, a filter that keeps each node
once; the first one that drops a node is named and no later one is consulted. Only the last one
remembers anything: the nodes it has kept since they were last forgotten.
-/
namespace Evacuation

/-- The filters of a chain, by what they look at. -/
inductive NodeFilter where
  /-- Keeps nodes that carry every given label. -/
  | label (labels : Table String String)
  /-- Keeps nodes that show a condition asked for. -/
  | condition (specs : List ConditionSpec)
  /-- Drops nodes on which no new pods are placed. -/
  | schedulable
  /-- Keeps each node once, until it is forgotten. -/
  | processed

namespace NodeFilter

/-- The name of a filter. -/
def name : NodeFilter → String
  | .label _ => "label"
  | .condition _ => "condition"
  | .schedulable => "schedulable"
  | .processed => "processed"

/-- Dropping a node here means that it is healthy. -/
def isCondition : NodeFilter → Bool
  | .condition _ => true
  | _ => false

end NodeFilter

/-- The conditions of a node that some spec asks for. -/
def offendingConditions (specs : List ConditionSpec) (node : Node) : List NodeCondition :=
  node.conditions.filter fun condition => specs.any (·.accepts condition)

/-- A node carries every given label. -/
def carriesLabels (labels : Table String String) (node : Node) : Bool :=
  labels.entries.all fun entry => node.label? entry.1 == some entry.2

/-- The nodes that the last filter of a chain has kept and not forgotten. -/
abbrev Processed := List String

/-- The verdict of one filter on a node, and the nodes remembered afterwards. -/
def NodeFilter.keeps (filter : NodeFilter) (node : Node) (processed : Processed) :
    Bool × Processed :=
  match filter with
  | .label labels => (carriesLabels labels node, processed)
  | .condition specs => (!(offendingConditions specs node).isEmpty, processed)
  | .schedulable => (!node.isUnschedulable, processed)
  | .processed =>
    if processed.contains node.name then (false, processed) else (true, node.name :: processed)

/-- Filters in the order in which they are consulted. -/
abbrev FilterChain := List NodeFilter

namespace FilterChain

/-- The chain for given labels and conditions. -/
def build (labels : Table String String) (specs : List ConditionSpec) (dryRun : Bool) :
    FilterChain :=
  [.label labels, .condition specs, .schedulable] ++ if dryRun then [.processed] else []

/-- The first filter that drops a node, none if all keep it, and the nodes remembered afterwards. -/
def firstRejecting : FilterChain → Node → Processed → Option NodeFilter × Processed
  | [], _, processed => (none, processed)
  | filter :: rest, node, processed =>
    match filter.keeps node processed with
    | (true, processed) => firstRejecting rest node processed
    | (false, processed) => (some filter, processed)

/-- A node is kept if no filter drops it; and the nodes remembered afterwards. -/
def evaluate (chain : FilterChain) (node : Node) (processed : Processed) : Bool × Processed :=
  let (filter, processed) := chain.firstRejecting node processed
  (filter.isNone, processed)

/-- The verdict of each filter, every one of them consulted. -/
def verdicts : FilterChain → Node → Processed → List (String × Bool) × Processed
  | [], _, processed => ([], processed)
  | filter :: rest, node, processed =>
    let verdict := filter.keeps node processed
    let others := verdicts rest node verdict.2
    ((filter.name, verdict.1) :: others.1, others.2)

/-- Forget a node, if the chain remembers nodes at all. -/
def forget (name : String) (processed : Processed) : Processed :=
  processed.filter (· != name)

end FilterChain

end Evacuation
