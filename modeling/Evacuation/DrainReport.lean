import Evacuation.Pod
/-!
# Drain reports

The report of a drain lists what became of every pod that was on the node. Pods that failed or
timed out count against the drain; evicted pods and pods that were set aside do not. The summary,
the error text and the number of retries are read off the list.
-/
namespace Evacuation

/-- What became of a pod. -/
inductive Outcome where
  | evicted
  | filteredOut
  | failed
  | timedOut
  deriving DecidableEq, Repr

namespace Outcome

/-- All outcomes, in the order in which they are reported. -/
def all : List Outcome := [.evicted, .filteredOut, .failed, .timedOut]

/-- The name of an outcome. -/
def label : Outcome → String
  | .evicted => "evicted"
  | .filteredOut => "filtered-out"
  | .failed => "failed"
  | .timedOut => "timed-out"

/-- The pod is still on the node although it should not be. -/
def isFault : Outcome → Bool
  | .failed | .timedOut => true
  | .evicted | .filteredOut => false

/-- The outcome of a name. -/
def ofLabel? (name : String) : Option Outcome := all.find? (·.label == name)

end Outcome

/-- What became of one pod. -/
structure PodReport where
  ns : String
  name : String
  outcome : Outcome
  reason : String := ""
  /-- How often its eviction was requested. -/
  attempts : Int := 0
  deriving DecidableEq, Repr

/-- The full name of the pod. -/
def PodReport.key (report : PodReport) : String := report.ns ++ "/" ++ report.name

/-- Requests for its eviction beyond the first one. -/
def PodReport.retries (report : PodReport) : Int := max (report.attempts - 1) 0

/-- What became of the pods of one node. -/
structure DrainReport where
  node : String
  pods : List PodReport := []
  deriving DecidableEq, Repr

namespace DrainReport

/-- The pods with an outcome. -/
def withOutcome (report : DrainReport) (outcome : Outcome) : List PodReport :=
  report.pods.filter fun pod => pod.outcome == outcome

/-- The pods that count against the drain. -/
def unevicted (report : DrainReport) : List PodReport :=
  report.pods.filter fun pod => pod.outcome.isFault

/-- No pod counts against the drain. -/
def succeeded (report : DrainReport) : Bool := report.unevicted.isEmpty

/-- Requests for evictions beyond the first one of each pod. -/
def retries (report : DrainReport) : Int :=
  report.pods.foldr (fun pod total => pod.retries + total) 0

/-- The outcomes that occur, with their numbers of pods. -/
def counts (report : DrainReport) : List (Nat × Outcome) :=
  (Outcome.all.map fun outcome => ((report.withOutcome outcome).length, outcome)).filter
    fun count => count.1 != 0

/-- The outcomes that occur, in one line. -/
def summary (report : DrainReport) : String :=
  if report.counts.isEmpty then "no pods"
  else ", ".intercalate (report.counts.map fun count => s!"{count.1} {count.2.label}")

/-- One pod that counts against the drain, as it shows in the error text. -/
def faultText (pod : PodReport) : String := s!"{pod.key} {pod.outcome.label}: {pod.reason}"

/-- Why the drain did not succeed; nothing for a drain that did. -/
def errorText (report : DrainReport) : Option String :=
  if report.succeeded then none
  else
    let faults := "; ".intercalate (report.unevicted.map faultText)
    some s!"{report.unevicted.length} pod(s) not evicted: {faults}"

/-- A drain has an error text exactly if it did not succeed. -/
theorem errorText_eq_none_iff (report : DrainReport) :
    report.errorText = none ↔ report.succeeded = true := by
  unfold errorText
  split <;> simp_all

end DrainReport

end Evacuation
