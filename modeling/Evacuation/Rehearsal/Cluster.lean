import Evacuation.Cluster
/-!
# A rehearsed cluster

A cluster held in memory, with nodes, pods and daemon sets. A request about an object that does
not exist is refused as not found, and a refused request changes nothing. An accepted eviction is
only remembered; whether and when the pod goes is the pod's fate: it may stay forever, for a time,
or for a number of looks, and another pod may take its name.
-/
namespace Evacuation.Rehearsal

/-- What becomes of a pod once its eviction was accepted. -/
structure Fate (T : Type) where
  neverGone : Bool := false
  /-- How long the pod stays. -/
  goneAfter : T
  /-- How many looks find the pod after that. -/
  looksUntilGone : Int := 0
  /-- Another pod takes the name. -/
  replaced : Bool := false

/-- A pod with its fate. -/
structure Actor (T : Type) where
  pod : Pod
  fate : Fate T
  evictedAt : Option T := none

/-- A cluster held in memory. -/
structure Cluster (T : Type) where
  nodes : Table String Node := ∅
  actors : Table String (Actor T) := ∅
  daemonSets : List DaemonSet := []

namespace Cluster

variable {T : Type} [TimeScale T]

/-- Put a node into the cluster. -/
def putNode (cluster : Cluster T) (node : Node) : Cluster T :=
  { cluster with nodes := cluster.nodes.insert node.name node }

/-- Take a node out of the cluster. -/
def deleteNode (cluster : Cluster T) (name : String) : Cluster T :=
  { cluster with nodes := cluster.nodes.erase name }

/-- Put a pod into the cluster, not evicted yet. -/
def putPod (cluster : Cluster T) (pod : Pod) (fate : Fate T) : Cluster T :=
  { cluster with actors := cluster.actors.insert pod.key { pod, fate } }

/-- Take a pod out of the cluster. -/
def deletePod (cluster : Cluster T) (key : String) : Cluster T :=
  { cluster with actors := cluster.actors.erase key }

/-- Put a daemon set into the cluster. -/
def putDaemonSet (cluster : Cluster T) (daemonSet : DaemonSet) : Cluster T :=
  { cluster with daemonSets := daemonSet :: cluster.daemonSets }

/-- Take a daemon set out of the cluster. -/
def deleteDaemonSet (cluster : Cluster T) (daemonSet : DaemonSet) : Cluster T :=
  { cluster with daemonSets := cluster.daemonSets.filter (· ≠ daemonSet) }

/-- The pods of a node, in the order in which they came. -/
def podsOn (cluster : Cluster T) (node : String) : List Pod :=
  (cluster.actors.values.map (·.pod)).filter (·.node == node)

/-- The refusal of a request about an object that does not exist. -/
def missing {α : Type} : Except Failure α := .error (.refused .notFound)

/-- What a look at an evicted pod finds, and what is left of the pod. -/
def look (now : T) (actor : Actor T) : Option Pod × Option (Actor T) :=
  match actor.evictedAt with
  | none => (some actor.pod, some actor)
  | some evictedAt =>
    let fate := actor.fate
    if fate.neverGone || TimeScale.before now (evictedAt + fate.goneAfter) then
      (some actor.pod, some actor)
    else if 0 < fate.looksUntilGone then
      (some actor.pod,
        some { actor with fate := { fate with looksUntilGone := fate.looksUntilGone - 1 } })
    else if fate.replaced then (some { actor.pod with uid := "replacement" }, some actor)
    else (none, none)

/-- The answer to a request at a time. -/
def answer (now : T) : (call : Call) → Cluster T → Except Failure call.Answer × Cluster T
  | .readNode name, cluster =>
    match cluster.nodes.get? name with
    | none => (missing, cluster)
    | some node => (.ok node, cluster)
  | .patchNode name, cluster =>
    match cluster.nodes.get? name with
    | none => (missing, cluster)
    | some node => (.ok (), { cluster with nodes := cluster.nodes.insert name node.cordoned })
  | .listPods node, cluster => (.ok (cluster.podsOn node), cluster)
  | .evict pod _, cluster =>
    match cluster.actors.get? pod.key with
    | none => (missing, cluster)
    | some actor =>
      (.ok (), { cluster with
        actors := cluster.actors.insert pod.key { actor with evictedAt := some now } })
  | .readPod name ns, cluster =>
    let key := ns ++ "/" ++ name
    match cluster.actors.get? key with
    | none => (missing, cluster)
    | some actor =>
      match look now actor with
      | (some pod, some left) =>
        (.ok pod, { cluster with actors := cluster.actors.insert key left })
      | (some pod, none) => (.ok pod, cluster.deletePod key)
      | (none, _) => (missing, cluster.deletePod key)
  | .readDaemonSet name ns, cluster =>
    if cluster.daemonSets.contains ⟨ns, name⟩ then (.ok ⟨ns, name⟩, cluster)
    else (missing, cluster)
  | .createEvent _ _, cluster => (.ok (), cluster)

end Cluster

end Evacuation.Rehearsal
