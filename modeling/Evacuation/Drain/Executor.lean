import Evacuation.PodFilter
/-!
# Executors

The settings by which nodes are cordoned and drained: which pods may be evicted, how long pods get
to end, how often and how long a step is tried again, and how many pods are evicted side by side.
An eviction has the longest grace period plus the headroom to come to its end.
-/
namespace Evacuation

/-- How nodes are cordoned and drained. Times are in seconds. -/
structure Executor (T : Type) where
  /-- The filters that protect pods. -/
  filters : List PodFilter
  /-- The longest grace period that a pod is given. -/
  maxGrace : T
  /-- How much longer than its grace period a pod is waited for. -/
  headroom : T
  /-- The pause between two requests to evict the same pod. -/
  retryInterval : T
  /-- The pause between two looks at an evicted pod. -/
  pollInterval : T
  /-- How often cordoning a node is tried. -/
  cordonAttempts : Int
  /-- How many pods of a node are evicted side by side; all of them when missing or zero. -/
  maxConcurrent : Option Int := none
  /-- How often a loop that waits for the clock may turn. -/
  turns : Nat

namespace Executor

variable {T : Type} [TimeScale T]

/-- The turns given to loops unless something else is said; more than any clock will need. -/
def usualTurns : Nat := 1000000000

/-- The pause between two requests to evict the same pod, unless something else is said. -/
def usualRetryInterval : T := TimeScale.ofInt 5

/-- The pause between two looks at an evicted pod, unless something else is said. -/
def usualPollInterval : T := TimeScale.ofInt 1

/-- How often cordoning a node is tried, unless something else is said. -/
def usualCordonAttempts : Int := 5

/-- The longest grace period unless something else is said: eight minutes. -/
def usualMaxGrace : T := TimeScale.ofInt 480

/-- The headroom unless something else is said: half a minute. -/
def usualHeadroom : T := TimeScale.ofInt 30

/-- The time that an eviction has to come to its end. -/
def timeLimit (executor : Executor T) : T := executor.maxGrace + executor.headroom

/-- The grace period of a pod that asks for none, in seconds. -/
def usualGrace : Int := 30

/-- The grace period a pod is given: what it asks for, cut at the longest one. A cut period is
rounded up to whole seconds. -/
def graceFor (executor : Executor T) (pod : Pod) : Except TimeError Int :=
  let wanted := pod.grace.getD usualGrace
  if TimeScale.beforeInt executor.maxGrace wanted then TimeScale.ceil executor.maxGrace
  else .ok wanted

end Executor

end Evacuation
