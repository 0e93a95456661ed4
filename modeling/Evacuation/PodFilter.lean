import Evacuation.Cluster
import Evacuation.KeyValue
/-!
# Pod filters

Filters decide which pods of a node may be evicted; a pod is evicted only if every filter keeps
it. The filters stand in a fixed order: static pods, pods with storage on the node, pods that
nothing would start again, pods of a daemon set that still exists, and pods with a protecting
annotation. The first filter that drops a pod gives the reason. Only the daemon set filter asks
the cluster, and only for pods that a daemon set manages.
-/
namespace Evacuation

/-- The filters, by what they protect. -/
inductive PodFilter where
  | staticPod
  | localStorage
  | unreplicated
  | daemonSet
  | marked (markers : List AnnotationMarker)

/-- A pod is kept for eviction, or set aside for a reason. -/
inductive Verdict where
  | keep
  | setAside (reason : String)
  deriving DecidableEq, Repr

/-- The annotation that marks the shadow of a static pod. -/
def mirrorAnnotation : String := "kubernetes.io/config.mirror"

/-- A pod carries the annotation of a marker, with its value if it has one. -/
def AnnotationMarker.matches (marker : AnnotationMarker) (pod : Pod) : Bool :=
  match pod.annotation? marker.key with
  | none => false
  | some actual => marker.value.all (· == actual)

namespace PodFilter

variable {T : Type} [TimeScale T]

/-- Set aside with the reason made from what was found, or kept if nothing was. -/
def setAsideIf {α : Type} (found : Option α) (reason : α → String) : Verdict :=
  match found with
  | none => .keep
  | some value => .setAside (reason value)

/-- The verdict of one filter on a pod. -/
def judge (filter : PodFilter) (pod : Pod) : Work T (Except Failure Verdict) :=
  match filter with
  | .staticPod =>
    return .ok (if (pod.annotation? mirrorAnnotation).isSome then
      .setAside "mirror pod of a static pod" else .keep)
  | .localStorage =>
    return .ok (setAsideIf (pod.allVolumes.find? (·.emptyDir)) fun volume =>
      s!"uses local storage volume '{volume.name}'")
  | .unreplicated =>
    return .ok (if pod.isFinished || pod.controller?.isSome then .keep
      else .setAside "not managed by a controller")
  | .daemonSet =>
    match pod.controller?.filter (·.kind == "DaemonSet") with
    | none => return .ok .keep
    | some owner => do
      match ← Work.getDaemonSet owner.name pod.ns with
      | .ok _ => return .ok (.setAside s!"managed by DaemonSet '{owner.name}'")
      | .error (.refused refusal) =>
        return if refusal.isNotFound then .ok .keep else .error (.refused refusal)
      | .error failure => return .error failure
  | .marked markers =>
    return .ok (setAsideIf (markers.find? (·.matches pod)) fun marker =>
      s!"protected by annotation '{marker.render}'")

/-- The verdict of a list of filters: the first reason to set the pod aside stands. -/
def judgeAll : List PodFilter → Pod → Work T (Except Failure Verdict)
  | [], _ => return .ok .keep
  | filter :: rest, pod => do
    match ← filter.judge pod with
    | .ok .keep => judgeAll rest pod
    | verdict => return verdict

end PodFilter

/-- Which pods may be evicted although they would be protected, and which annotations protect. -/
structure EvictionRules where
  evictDaemonSetPods : Bool := false
  evictLocalStoragePods : Bool := false
  evictUnreplicatedPods : Bool := false
  protectedAnnotations : List String := []
  deriving DecidableEq, Repr

/-- The filters for given rules, refused if an annotation marker is malformed. -/
def EvictionRules.filters (rules : EvictionRules) : Except Malformed (List PodFilter) := do
  let markers ← rules.protectedAnnotations.mapM AnnotationMarker.read
  return [.staticPod] ++
    (if rules.evictLocalStoragePods then [] else [.localStorage]) ++
    (if rules.evictUnreplicatedPods then [] else [.unreplicated]) ++
    (if rules.evictDaemonSetPods then [] else [.daemonSet]) ++
    (if markers.isEmpty then [] else [.marked markers])

end Evacuation
