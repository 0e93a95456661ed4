import Evacuation.Schedule.Controller
/-!
# Blueprints

From a blueprint the controller is built and its desk is laid out. What can be wrong with a
blueprint is a marker of protecting annotations that cannot be read, or a negative spacing of
drains.
-/
namespace Evacuation

/-- What is wrong with a blueprint. -/
inductive Flaw where
  | malformed (cause : Malformed)
  | negativeSpacing
  deriving DecidableEq, Repr

/-- The text that reports a flaw. -/
def Flaw.message : Flaw → String
  | .malformed cause => cause.message
  | .negativeSpacing => DrainBuffer.negativeSpacing

/-- How a controller is to be built. Times are in seconds. -/
structure Blueprint (T : Type) where
  dryRun : Bool := false
  /-- Which pods may be evicted; all of them if there are no rules. -/
  rules : Option EvictionRules
  maxGrace : T
  headroom : T
  retryInterval : T
  pollInterval : T
  cordonAttempts : Int
  maxConcurrent : Option Int := none
  turns : Nat
  /-- The time between the starts of two drains. -/
  spacing : T
  labels : Table String String := ∅
  conditions : List ConditionSpec
  recorder : EventRecorder := {}

namespace Blueprint

variable {T : Type} [TimeScale T]

/-- The blueprint with the usual intervals and attempts. -/
def usual (rules : EvictionRules) (maxGrace headroom spacing : T)
    (conditions : List ConditionSpec) : Blueprint T :=
  { rules := some rules, maxGrace, headroom, spacing, conditions
    retryInterval := Executor.usualRetryInterval
    pollInterval := Executor.usualPollInterval
    cordonAttempts := Executor.usualCordonAttempts
    turns := Executor.usualTurns }

/-- The executor of a blueprint with given filters. -/
def executor (plan : Blueprint T) (filters : List PodFilter) : Executor T :=
  { filters
    maxGrace := plan.maxGrace
    headroom := plan.headroom
    retryInterval := plan.retryInterval
    pollInterval := plan.pollInterval
    cordonAttempts := plan.cordonAttempts
    maxConcurrent := plan.maxConcurrent
    turns := plan.turns }

/-- The pod filters of a blueprint. -/
def podFilters (plan : Blueprint T) : Except Malformed (List PodFilter) :=
  match plan.rules with
  | none => .ok []
  | some rules => rules.filters

/-- The drainer of a blueprint. A dry run needs no pod filters, and reads no marker. -/
def drainer (plan : Blueprint T) : Except Malformed (Drainer T) :=
  if plan.dryRun then .ok .dryRun
  else plan.podFilters.map fun filters => .live (plan.executor filters)

/-- The chain of node filters. -/
def chain (plan : Blueprint T) : FilterChain :=
  FilterChain.build plan.labels plan.conditions plan.dryRun

/-- Build the controller and lay out its desk. -/
def build (plan : Blueprint T) : Except Flaw (Controller T × Desk T) :=
  match plan.drainer with
  | .error cause => .error (.malformed cause)
  | .ok drainer =>
    match DrainBuffer.ofSpacing? plan.spacing with
    | none => .error .negativeSpacing
    | some buffer =>
      .ok ({ drainer, chain := plan.chain, recorder := plan.recorder }, { schedule := { buffer } })

end Blueprint

end Evacuation
