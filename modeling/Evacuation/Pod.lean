import Evacuation.Table
/-!
# Pods

A pod as the cluster shows it. Owners, volumes, annotations and status may be missing; a missing
part counts as empty, and an owner manages the pod only if that is said of it.
-/
namespace Evacuation

/-- An object that owns a pod. -/
structure Owner where
  kind : String
  name : String
  /-- The owner manages the pod. -/
  controller : Option Bool := none
  deriving DecidableEq, Repr

/-- A volume of a pod. -/
structure Volume where
  name : String
  /-- The volume lives on the node and is lost with the pod. -/
  emptyDir : Bool := false
  deriving DecidableEq, Repr

/-- The reported state of a pod. -/
structure PodStatus where
  phase : Option String := none
  deriving DecidableEq, Repr

/-- A pod as the cluster shows it. -/
structure Pod where
  name : String
  ns : String
  node : String
  uid : String
  owners : Option (List Owner) := none
  volumes : Option (List Volume) := none
  annotations : Option (Table String String) := none
  /-- The grace period the pod asks for, in seconds. -/
  grace : Option Int := none
  status : Option PodStatus := none
  deriving Repr

/-- The owner manages the pod. -/
def Owner.manages (owner : Owner) : Bool := owner.controller.getD false

namespace Pod

/-- The full name of a pod. -/
def key (pod : Pod) : String := pod.ns ++ "/" ++ pod.name

/-- The owners, in the order in which they are listed. -/
def allOwners (pod : Pod) : List Owner := pod.owners.getD []

/-- The volumes, in the order in which they are listed. -/
def allVolumes (pod : Pod) : List Volume := pod.volumes.getD []

/-- The value of an annotation. -/
def annotation? (pod : Pod) (key : String) : Option String := pod.annotations.bind (·.get? key)

/-- The reported phase. -/
def phase? (pod : Pod) : Option String := pod.status.bind (·.phase)

/-- The first owner that manages the pod. -/
def controller? (pod : Pod) : Option Owner := pod.allOwners.find? (·.manages)

/-- A pod whose containers have all ended. -/
def isFinished (pod : Pod) : Bool :=
  pod.phase? == some "Succeeded" || pod.phase? == some "Failed"

end Pod

end Evacuation
