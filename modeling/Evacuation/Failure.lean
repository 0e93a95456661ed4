import Evacuation.Text.Blank
import Evacuation.Time.Scale
/-!
# Failures

A refusal is an answer of the cluster that carries an error status; a refusal that may pass when
the request is sent again is transient. Every other way in which a step of the controller can
fail is a `Failure` with its own cause, and a failure that comes from outside is passed on with
the name of its kind and its text.
-/
namespace Evacuation

/-- A request that the cluster refused. -/
structure Refusal where
  status : Option Int
  reason : Option String
  deriving DecidableEq, Repr

namespace Refusal

/-- The object does not exist. -/
def isNotFound (refusal : Refusal) : Bool := refusal.status == some 404

/-- The request would break a disruption budget, or comes too early. -/
def isTooManyRequests (refusal : Refusal) : Bool := refusal.status == some 429

/-- The wanted position in the history of the cluster has expired. -/
def isGone (refusal : Refusal) : Bool := refusal.status == some 410

/-- The request is worth sending again: a conflict, throttling, or a failure of the server. -/
def isTransient (refusal : Refusal) : Bool :=
  let status := refusal.status.getD 0
  status == 409 || status == 429 || decide (500 ≤ status)

/-- The answer for an object that does not exist. -/
def notFound : Refusal := ⟨some 404, some "Not Found"⟩

/-- The status and reason in one line; a missing part shows as `None`. -/
def describe (refusal : Refusal) : String :=
  let status := (refusal.status.map toString).getD "None"
  String.ofList (Text.strip (status ++ " " ++ refusal.reason.getD "None").toList)

end Refusal

/-- Why a step of the controller failed. -/
inductive Failure where
  /-- The cluster refused a request. -/
  | refused (refusal : Refusal)
  /-- Something below the controller failed, with the name of the kind of failure. -/
  | broken (kind : String) (message : String)
  /-- A time has no counterpart where one is needed. -/
  | time (error : TimeError)
  /-- A pool of workers without workers. -/
  | noWorkers
  /-- The node could not be cordoned. -/
  | cordon (node : String) (refusal : Refusal)
  /-- The pods of a node could not be listed. -/
  | listing (node : String) (refusal : Refusal)
  /-- It could not be decided whether a pod may be evicted. -/
  | undecided (pod : String) (refusal : Refusal)
  /-- The node has a drain record already. -/
  | alreadyScheduled (node : String)
  /-- The turns given to a loop ran out before its clock reached the end. -/
  | outOfTurns
  deriving DecidableEq, Repr

namespace Failure

/-- The text of a failure. -/
def message : Failure → String
  | refused refusal => refusal.describe
  | broken _ text => text
  | time error => error.message
  | noWorkers => "max_workers must be greater than 0"
  | cordon node refusal => s!"cannot cordon node '{node}': {refusal.describe}"
  | listing node refusal => s!"cannot list pods on node '{node}': {refusal.describe}"
  | undecided pod refusal => s!"cannot decide whether to evict pod '{pod}': {refusal.describe}"
  | alreadyScheduled node => s!"drain already scheduled for node '{node}'"
  | outOfTurns => "out of turns"

/-- The text of a failure, or the name of its kind if it has none. -/
def report (failure : Failure) : String :=
  match failure with
  | broken kind "" => kind
  | _ => failure.message

end Failure

end Evacuation
