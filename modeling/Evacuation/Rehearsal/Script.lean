import Evacuation.Cluster
/-!
# Scripts of failures

A script says which requests of a rehearsal fail. Requests are known by the name of their method
and the object they are about. Failures, and successes between them, are lined up under a request
or under a method, and each is used once; the line of the request comes before the line of the
method. When both lines are used up, a standing failure of the request or of the method applies.
-/
namespace Evacuation

namespace Call

/-- The name of the method of a request. -/
def method : Call → String
  | .readNode _ => "read_node"
  | .patchNode _ => "patch_node"
  | .listPods _ => "list_pods"
  | .evict _ _ => "evict"
  | .readPod _ _ => "read_pod"
  | .readDaemonSet _ _ => "read_daemon_set"
  | .createEvent _ _ => "create_event"

/-- The selector of the pods on a node. -/
def nodeSelector (node : String) : String := s!"spec.nodeName={node}"

/-- What a request is about. -/
def subject : Call → String
  | .readNode name => name
  | .patchNode name => name
  | .listPods node => nodeSelector node
  | .evict pod _ => pod.key
  | .readPod name ns => ns ++ "/" ++ name
  | .readDaemonSet name ns => ns ++ "/" ++ name
  | .createEvent _ event => event.reason ++ ":" ++ event.objectName

/-- The name of a request in scripts. -/
def key (call : Call) : String := call.method ++ ":" ++ call.subject

end Call

namespace Rehearsal

/-- Which requests fail. -/
structure Script where
  /-- Failures and successes in line, by request or method. -/
  lines : Table String (List (Option Failure)) := ∅
  /-- Standing failures, by request or method. -/
  standing : Table String Failure := ∅

namespace Script

/-- Line failures up behind those that are there. -/
def append (script : Script) (key : String) (failures : List (Option Failure)) : Script :=
  let line := (script.lines.get? key).getD []
  { script with lines := script.lines.insert key (line ++ failures) }

/-- Set a standing failure, or lift it. -/
def stand (script : Script) (key : String) (failure : Option Failure) : Script :=
  match failure with
  | some failure => { script with standing := script.standing.insert key failure }
  | none => { script with standing := script.standing.erase key }

/-- The head of a line, and the script without it. -/
def take? (script : Script) (key : String) : Option (Option Failure × Script) :=
  match script.lines.get? key with
  | some (head :: rest) => some (head, { script with lines := script.lines.insert key rest })
  | _ => none

/-- The failure of a request, if it fails, and what is left of the script. -/
def next (script : Script) (call : Call) : Option Failure × Script :=
  match script.take? call.key with
  | some taken => taken
  | none =>
    match script.take? call.method with
    | some taken => taken
    | none =>
      match script.standing.get? call.key with
      | some failure => (some failure, script)
      | none => (script.standing.get? call.method, script)

end Script

end Rehearsal

end Evacuation
