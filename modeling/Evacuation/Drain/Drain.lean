import Evacuation.Drain.Eviction
import Evacuation.Drain.WorkerPool
/-!
# Drains

A drain lists the pods of a node, sets aside those that a filter protects and evicts the others
side by side. Its report names every listed pod once: first the pods set aside, in the order of
the list, then the evicted ones in the order in which they ended. If the list or a decision about
a pod cannot be had, nothing is evicted.
-/
namespace Evacuation

variable {T : Type} [TimeScale T]

namespace Drain

/-- The report of a pod that is set aside. -/
def asideReport (pod : Pod) (reason : String) : PodReport :=
  { ns := pod.ns, name := pod.name, outcome := .filteredOut, reason }

/-- Sort pods into reports of those set aside and those to evict. -/
def sortOut (filters : List PodFilter) :
    List Pod → Work T (Except Failure (List PodReport × List Pod))
  | [] => return .ok ([], [])
  | pod :: rest => do
    match ← PodFilter.judgeAll filters pod with
    | .error (.refused refusal) => return .error (.undecided pod.key refusal)
    | .error failure => return .error failure
    | .ok verdict =>
      match ← sortOut filters rest with
      | .error failure => return .error failure
      | .ok (aside, evictable) =>
        match verdict with
        | .keep => return .ok (aside, pod :: evictable)
        | .setAside reason => return .ok (asideReport pod reason :: aside, evictable)

/-- How many workers evict a number of pods. -/
def workers (maxConcurrent : Option Int) (pods : Nat) : Int :=
  match maxConcurrent with
  | none | some 0 => pods
  | some most => min most pods

/-- The results of all pieces of work, or the first failure among them. -/
def collect : List (Except Failure PodReport) → Except Failure (List PodReport) := List.mapM id

/-- Evict pods side by side. -/
def evictAll (executor : Executor T) (node : String) (pods : List Pod) :
    Work T (Except Failure (List PodReport)) := do
  if pods.isEmpty then return .ok []
  let count := workers executor.maxConcurrent pods.length
  if count < 1 then return .error .noWorkers
  let results ← WorkerPool.run count.toNat s!"evict-{node}" (pods.map executor.evict)
  return collect results

end Drain

/-- Drain a node. -/
def Executor.drain (executor : Executor T) (node : Node) : Work T (Except Failure DrainReport) := do
  match ← Work.podsOn node.name with
  | .error (.refused refusal) => return .error (.listing node.name refusal)
  | .error failure => return .error failure
  | .ok pods =>
    match ← Drain.sortOut executor.filters pods with
    | .error failure => return .error failure
    | .ok (aside, evictable) =>
      match ← Drain.evictAll executor node.name evictable with
      | .error failure => return .error failure
      | .ok evicted => return .ok ⟨node.name, aside ++ evicted⟩

end Evacuation
