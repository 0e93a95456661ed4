import Evacuation.PodFilter
import Evacuation.Proofs.KeyValue
import Evacuation.Proofs.Lists
/-!
# Rules of eviction

Flags and markers say which pods may be evicted (`EvictionRules.Evictable`). What hinders an eviction
is looked for in a fixed order, and the first thing found is the reason to set the pod aside
(`EvictionRules.Hinders`). Whether a daemon set still exists matters only for a pod that it manages and
that nothing else hinders so far (`EvictionRules.Consults`). The rules settle every pod
(`EvictionRules.exists_settles`).
-/
namespace Evacuation

/-! ## What the filters look at -/

namespace Pod

/-- The pod has an annotation with that value. -/
def Bears (pod : Pod) (key value : String) : Prop :=
  ∃ annotations, pod.annotations = some annotations ∧ annotations.get? key = some value

/-- The first volume that lives on the node. -/
def KeepsDataIn (pod : Pod) (volume : Volume) : Prop :=
  ∃ before after, pod.volumes = some (before ++ volume :: after) ∧ volume.emptyDir = true ∧
    ∀ other ∈ before, other.emptyDir = false

/-- No volume lives on the node. -/
def KeepsNoData (pod : Pod) : Prop :=
  ∀ volumes, pod.volumes = some volumes → ∀ volume ∈ volumes, volume.emptyDir = false

/-- The containers of the pod have all ended. -/
def HasEnded (pod : Pod) : Prop :=
  ∃ status, pod.status = some status ∧
    (status.phase = some "Succeeded" ∨ status.phase = some "Failed")

/-- The first owner of which it is said that it manages the pod. -/
def ManagedBy (pod : Pod) (owner : Owner) : Prop :=
  ∃ before after, pod.owners = some (before ++ owner :: after) ∧ owner.controller = some true ∧
    ∀ other ∈ before, other.controller ≠ some true

/-- Some owner manages the pod. -/
def IsManaged (pod : Pod) : Prop :=
  ∃ owners, pod.owners = some owners ∧ ∃ owner ∈ owners, owner.controller = some true

/-- The marker that is written in a text protects the pod. It is shown as it was understood. -/
inductive ProtectedBy (pod : Pod) (text : String) : String → Prop where
  | any {key value : String} (named : Named text key none) (bears : pod.Bears key value) :
      ProtectedBy pod text key
  | only {key value : String} (named : Named text key (some value)) (bears : pod.Bears key value) :
      ProtectedBy pod text (key ++ "=" ++ value)

variable {pod : Pod}

theorem annotation?_eq_some_iff {key value : String} :
    pod.annotation? key = some value ↔ pod.Bears key value :=
  Option.bind_eq_some_iff

theorem annotation?_eq_none_iff {key : String} :
    pod.annotation? key = none ↔ ∀ value, ¬ pod.Bears key value := by
  rw [Option.eq_none_iff_forall_ne_some]
  exact forall_congr' fun value => not_congr annotation?_eq_some_iff

theorem find?_volume_eq_some_iff {volume : Volume} :
    pod.allVolumes.find? (·.emptyDir) = some volume ↔ pod.KeepsDataIn volume := by
  unfold allVolumes KeepsDataIn
  cases pod.volumes with
  | none => simp
  | some volumes =>
    simp only [Option.getD_some, List.find?_eq_some_iff_append, Option.some.injEq,
      Bool.not_eq_true']
    constructor
    · rintro ⟨lost, before, after, parts, kept⟩
      exact ⟨before, after, parts, lost, kept⟩
    · rintro ⟨before, after, parts, lost, kept⟩
      exact ⟨lost, before, after, parts, kept⟩

theorem find?_volume_eq_none_iff :
    pod.allVolumes.find? (·.emptyDir) = none ↔ pod.KeepsNoData := by
  unfold allVolumes KeepsNoData
  cases pod.volumes <;> simp

theorem KeepsDataIn.not_keepsNoData {volume : Volume} (data : pod.KeepsDataIn volume) :
    ¬ pod.KeepsNoData := by
  rw [← find?_volume_eq_none_iff, find?_volume_eq_some_iff.mpr data]
  exact Option.some_ne_none volume

theorem keepsNoData_or (pod : Pod) : pod.KeepsNoData ∨ ∃ volume, pod.KeepsDataIn volume := by
  cases found : pod.allVolumes.find? (·.emptyDir) with
  | none => exact .inl (find?_volume_eq_none_iff.mp found)
  | some volume => exact .inr ⟨volume, find?_volume_eq_some_iff.mp found⟩

theorem isFinished_iff : pod.isFinished = true ↔ pod.HasEnded := by
  unfold isFinished phase? HasEnded
  cases pod.status <;> simp

theorem manages_iff {owner : Owner} : owner.manages = true ↔ owner.controller = some true := by
  unfold Owner.manages
  cases owner.controller <;> simp

theorem controller?_eq_some_iff {owner : Owner} :
    pod.controller? = some owner ↔ pod.ManagedBy owner := by
  unfold controller? allOwners ManagedBy
  cases pod.owners with
  | none => simp
  | some owners =>
    simp only [Option.getD_some, List.find?_eq_some_iff_append, Option.some.injEq,
      Bool.not_eq_true', ne_eq, ← manages_iff, Bool.not_eq_true]
    constructor
    · rintro ⟨manages, before, after, parts, others⟩
      exact ⟨before, after, parts, manages, others⟩
    · rintro ⟨before, after, parts, manages, others⟩
      exact ⟨manages, before, after, parts, others⟩

theorem ManagedBy.unique {owner other : Owner} (managed : pod.ManagedBy owner)
    (again : pod.ManagedBy other) : owner = other := by
  rw [← controller?_eq_some_iff] at managed again
  exact Option.some.inj (managed.symm.trans again)

theorem isSome_controller?_iff : pod.controller?.isSome = true ↔ pod.IsManaged := by
  unfold controller? allOwners IsManaged
  cases pod.owners <;> simp [manages_iff]

/-- A marker that was read from a text protects a pod exactly if the text does, and is shown as it was
read. -/
theorem protectedBy_iff {text shown : String} {marker : AnnotationMarker}
    (read : AnnotationMarker.read text = .ok marker) :
    pod.ProtectedBy text shown ↔ marker.matches pod = true ∧ shown = marker.render := by
  obtain ⟨key, value⟩ := marker
  obtain ⟨named, -⟩ := AnnotationMarker.read_iff.mp read
  constructor
  · intro guards
    cases guards with
    | any also bears =>
      obtain ⟨rfl, rfl⟩ := named.unique also
      have carried := annotation?_eq_some_iff.mpr bears
      exact ⟨by simp [AnnotationMarker.matches, carried], rfl⟩
    | only also bears =>
      obtain ⟨rfl, rfl⟩ := named.unique also
      have carried := annotation?_eq_some_iff.mpr bears
      exact ⟨by simp [AnnotationMarker.matches, carried], rfl⟩
  · rintro ⟨matching, rfl⟩
    unfold AnnotationMarker.matches at matching
    split at matching
    · cases matching
    · rename_i actual carried
      have bears := annotation?_eq_some_iff.mp carried
      cases value with
      | none => exact .any named bears
      | some wanted =>
        obtain rfl : wanted = actual := beq_iff_eq.mp matching
        exact .only named bears

end Pod

/-! ## Rules -/

namespace EvictionRules

section Rules

variable (rules : EvictionRules) (present : DaemonSet → Prop) (pod : Pod)

/-- Nothing about the pod itself hinders its eviction. -/
structure Clears : Prop where
  mirror : ∀ value, ¬ pod.Bears mirrorAnnotation value
  storage : rules.evictLocalStoragePods = true ∨ pod.KeepsNoData
  replicated : rules.evictUnreplicatedPods = true ∨ pod.HasEnded ∨ pod.IsManaged

/-- It matters for the pod whether a daemon set still exists: the one that manages the pod, if nothing
else hinders its eviction so far. -/
structure Consults (owner : Owner) : Prop extends rules.Clears pod where
  asks : rules.evictDaemonSetPods = false
  managed : pod.ManagedBy owner
  kind : owner.kind = "DaemonSet"

/-- No daemon set hinders the eviction of the pod. -/
def Released : Prop :=
  rules.evictDaemonSetPods = true ∨
    ∀ owner, pod.ManagedBy owner → owner.kind = "DaemonSet" → ¬ present ⟨pod.ns, owner.name⟩

/-- No marker protects the pod. -/
def Unmarked : Prop := ∀ text ∈ rules.protectedAnnotations, ∀ shown, ¬ pod.ProtectedBy text shown

/-- The rules let the pod go. -/
structure Evictable : Prop extends rules.Clears pod where
  released : rules.Released present pod
  unmarked : rules.Unmarked pod

/-- The first thing that hinders the eviction of the pod, as the reason to set it aside. -/
inductive Hinders : String → Prop where
  | mirror {value : String} (bears : pod.Bears mirrorAnnotation value) :
      Hinders "mirror pod of a static pod"
  | storage {volume : Volume} (mirror : ∀ value, ¬ pod.Bears mirrorAnnotation value)
      (keeps : rules.evictLocalStoragePods = false) (data : pod.KeepsDataIn volume) :
      Hinders s!"uses local storage volume '{volume.name}'"
  | unreplicated (mirror : ∀ value, ¬ pod.Bears mirrorAnnotation value)
      (storage : rules.evictLocalStoragePods = true ∨ pod.KeepsNoData)
      (keeps : rules.evictUnreplicatedPods = false) (runs : ¬ pod.HasEnded)
      (unmanaged : ¬ pod.IsManaged) : Hinders "not managed by a controller"
  | daemonSet {owner : Owner} (consults : rules.Consults pod owner)
      (exists_ : present ⟨pod.ns, owner.name⟩) : Hinders s!"managed by DaemonSet '{owner.name}'"
  | marked {before after : List String} {text shown : String} (clears : rules.Clears pod)
      (released : rules.Released present pod)
      (given : rules.protectedAnnotations = before ++ text :: after)
      (first : ∀ other ∈ before, ∀ shown, ¬ pod.ProtectedBy other shown)
      (protects : pod.ProtectedBy text shown) : Hinders s!"protected by annotation '{shown}'"

/-- The verdict that the rules give on a pod. -/
def Settles : Verdict → Prop
  | .keep => rules.Evictable present pod
  | .setAside reason => rules.Hinders present pod reason

end Rules

variable {rules : EvictionRules} {present : DaemonSet → Prop} {pod : Pod}

/-- The rules settle every pod. -/
theorem exists_settles (rules : EvictionRules) (present : DaemonSet → Prop) (pod : Pod) :
    ∃ verdict, rules.Settles present pod verdict := by
  by_cases mirror : ∀ value, ¬ pod.Bears mirrorAnnotation value
  swap
  · obtain ⟨value, bears⟩ := not_forall_not.mp mirror
    exact ⟨.setAside _, .mirror bears⟩
  by_cases storage : rules.evictLocalStoragePods = true ∨ pod.KeepsNoData
  swap
  · obtain ⟨keeps, data⟩ := not_or.mp storage
    obtain ⟨volume, data⟩ := pod.keepsNoData_or.resolve_left data
    exact ⟨.setAside _, .storage mirror (Bool.eq_false_iff.mpr keeps) data⟩
  by_cases replicated : rules.evictUnreplicatedPods = true ∨ pod.HasEnded ∨ pod.IsManaged
  swap
  · obtain ⟨keeps, runs, unmanaged⟩ := (not_or.mp replicated).imp_right not_or.mp
    exact ⟨.setAside _, .unreplicated mirror storage (Bool.eq_false_iff.mpr keeps) runs unmanaged⟩
  have clears : rules.Clears pod := ⟨mirror, storage, replicated⟩
  by_cases released : rules.Released present pod
  swap
  · obtain ⟨asks, held⟩ := not_or.mp released
    obtain ⟨owner, managed, kind, there⟩ : ∃ owner, pod.ManagedBy owner ∧
        owner.kind = "DaemonSet" ∧ present ⟨pod.ns, owner.name⟩ := by
      simpa using held
    have consults : rules.Consults pod owner := ⟨clears, Bool.eq_false_iff.mpr asks, managed, kind⟩
    exact ⟨.setAside _, .daemonSet consults there⟩
  obtain unmarked | ⟨before, text, after, given, ⟨shown, guards⟩, others⟩ :=
    exists_first (fun text => ∃ shown, pod.ProtectedBy text shown) rules.protectedAnnotations
  · exact ⟨.keep, clears, released, fun text listed => not_exists.mp (unmarked text listed)⟩
  · exact ⟨.setAside _, .marked clears released given
      (fun other listed => not_exists.mp (others other listed)) guards⟩

/-- Where nothing about the pod itself hinders its eviction, a daemon set or a marker does. -/
theorem Hinders.of_clears {reason : String} (hinders : rules.Hinders present pod reason)
    (clears : rules.Clears pod) :
    (∃ owner, rules.Consults pod owner ∧ present ⟨pod.ns, owner.name⟩ ∧
      reason = s!"managed by DaemonSet '{owner.name}'") ∨
    (rules.Released present pod ∧ ∃ before text after shown,
      rules.protectedAnnotations = before ++ text :: after ∧
      (∀ other ∈ before, ∀ shown, ¬ pod.ProtectedBy other shown) ∧ pod.ProtectedBy text shown ∧
      reason = s!"protected by annotation '{shown}'") := by
  cases hinders with
  | mirror bears => exact absurd bears (clears.mirror _)
  | storage mirror keeps data =>
    obtain evicts | clear := clears.storage
    · exact absurd evicts (Bool.eq_false_iff.mp keeps)
    · exact absurd clear data.not_keepsNoData
  | unreplicated mirror storage keeps runs unmanaged =>
    obtain evicts | ended | managed := clears.replicated
    · exact absurd evicts (Bool.eq_false_iff.mp keeps)
    · exact absurd ended runs
    · exact absurd managed unmanaged
  | daemonSet consults there => exact .inl ⟨_, consults, there, rfl⟩
  | marked clears released given first guards =>
    exact .inr ⟨released, _, _, _, _, given, first, guards, rfl⟩

/-- A pod of a daemon set that exists is set aside for it, if nothing about the pod itself hinders its
eviction. -/
theorem Settles.of_present {owner : Owner} {verdict : Verdict}
    (settles : rules.Settles present pod verdict) (consults : rules.Consults pod owner)
    (there : present ⟨pod.ns, owner.name⟩) :
    verdict = .setAside s!"managed by DaemonSet '{owner.name}'" := by
  have held : ¬ rules.Released present pod := by
    rintro (evicts | free)
    · exact Bool.eq_false_iff.mp consults.asks evicts
    · exact free owner consults.managed consults.kind there
  cases verdict with
  | keep => exact absurd settles.released held
  | setAside reason =>
    obtain ⟨other, also, -, rfl⟩ | ⟨released, -⟩ := Hinders.of_clears settles consults.toClears
    · rw [consults.managed.unique also.managed]
    · exact absurd released held

end EvictionRules

end Evacuation
