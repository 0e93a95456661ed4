import Evacuation.Proofs.Cluster.Reads
import Evacuation.Proofs.PodFilter.Rules
/-!
# Which pods may be evicted

The filters that are built from eviction rules judge every pod by the rules. What they do with a pod is
one of a few programs: something about the pod itself settles it (`judgeAll_of_unclear`), or it does
not matter whether a daemon set exists (`judgeAll_of_alone`), or the daemon set that manages the pod is
looked up (`judgeAll_of_consults`). The main statement, `EvictionRules.judges`, is read off these.
-/
namespace Evacuation

/-! ## The filters one by one -/

namespace PodFilter

variable {T : Type} [TimeScale T] {pod : Pod} {filter : PodFilter} {rest : List PodFilter}
  {reason : String}

/-- A filter that a flag leaves out. -/
def optional (left : Bool) (filter : PodFilter) : List PodFilter := if left then [] else [filter]

/-- A filter that keeps the pod leaves it to the others. -/
theorem judgeAll_cons_of_keep (keeps : filter.judge (T := T) pod = .done (.ok .keep)) :
    judgeAll (T := T) (filter :: rest) pod = judgeAll rest pod := by
  rw [judgeAll, keeps]
  rfl

/-- No filter after one that sets the pod aside is asked. -/
theorem judgeAll_cons_of_setAside
    (drops : filter.judge (T := T) pod = .done (.ok (.setAside reason))) :
    judgeAll (T := T) (filter :: rest) pod = .done (.ok (.setAside reason)) := by
  rw [judgeAll, drops]
  rfl

/-- A filter that is left out or keeps the pod leaves it to the others. -/
theorem judgeAll_optional_of_keep {left : Bool}
    (keeps : left = true ∨ filter.judge (T := T) pod = .done (.ok .keep)) :
    judgeAll (T := T) (optional left filter ++ rest) pod = judgeAll rest pod := by
  cases left with
  | true => rfl
  | false => exact judgeAll_cons_of_keep (keeps.resolve_left Bool.false_ne_true)

theorem judge_staticPod_of_clear (mirror : ∀ value, ¬ pod.Bears mirrorAnnotation value) :
    judge (T := T) .staticPod pod = .done (.ok .keep) := by
  rw [judge, Pod.annotation?_eq_none_iff.mpr mirror]
  rfl

theorem judge_localStorage_of_clear (data : pod.KeepsNoData) :
    judge (T := T) .localStorage pod = .done (.ok .keep) := by
  rw [judge, Pod.find?_volume_eq_none_iff.mpr data]
  rfl

theorem judge_unreplicated_of_clear (replicated : pod.HasEnded ∨ pod.IsManaged) :
    judge (T := T) .unreplicated pod = .done (.ok .keep) := by
  have keeps : (pod.isFinished || pod.controller?.isSome) = true := by
    rwa [Bool.or_eq_true, Pod.isFinished_iff, Pod.isSome_controller?_iff]
  rw [judge, if_pos keeps]
  rfl

/-- A pod that no daemon set manages is not looked up. -/
theorem judge_daemonSet_of_clear (free : ∀ owner, pod.ManagedBy owner → owner.kind ≠ "DaemonSet") :
    judge (T := T) .daemonSet pod = .done (.ok .keep) := by
  have none_managing : pod.controller?.filter (·.kind == "DaemonSet") = none := by
    rw [Option.filter_eq_none_iff]
    intro owner managing
    simpa using free owner (Pod.controller?_eq_some_iff.mp managing)
  rw [judge, none_managing]
  rfl

/-- The verdict once the daemon set of an owner was looked up: the verdict of the other filters, if the
daemon set is missing. -/
def heard (owner : Owner) (others : Verdict) : Except Failure DaemonSet → Except Failure Verdict
  | .ok _ => .ok (.setAside s!"managed by DaemonSet '{owner.name}'")
  | .error (.refused refusal) =>
    if refusal.isNotFound then .ok others else .error (.refused refusal)
  | .error failure => .error failure

/-- A pod that a daemon set manages is left to the other filters if the daemon set is missing. -/
theorem judgeAll_daemonSet {owner : Owner} {others : Verdict} (managed : pod.ManagedBy owner)
    (kind : owner.kind = "DaemonSet")
    (settled : judgeAll (T := T) rest pod = .done (.ok others)) :
    judgeAll (T := T) (.daemonSet :: rest) pod =
      (Work.getDaemonSet owner.name pod.ns).bind fun answer => .done (heard owner others answer) := by
  have managing : pod.controller?.filter (·.kind == "DaemonSet") = some owner := by
    rw [Option.filter_eq_some_iff]
    exact ⟨Pod.controller?_eq_some_iff.mpr managed, beq_iff_eq.mpr kind⟩
  rw [judgeAll, judge, managing, settled]
  show Program.bind (Program.bind _ _) _ = _
  rw [Program.bind_assoc]
  refine congrArg _ (funext fun answer => ?_)
  unfold heard
  cases answer with
  | ok found => rfl
  | error failure =>
    cases failure with
    | refused refusal => cases missing : refusal.isNotFound <;> simp [missing]
    | _ => rfl

end PodFilter

namespace EvictionRules

variable {T : Type} [TimeScale T] {rules : EvictionRules} {filters : List PodFilter}
  {present : DaemonSet → Prop} {pod : Pod} {verdict : Verdict} {reason : String}

/-- Filters that are built stand in a fixed order, and the flags leave some of them out. -/
theorem filters_eq (built : rules.filters = .ok filters) :
    ∃ markers, rules.protectedAnnotations.mapM AnnotationMarker.read = .ok markers ∧
      filters = .staticPod :: (PodFilter.optional rules.evictLocalStoragePods .localStorage ++
        (PodFilter.optional rules.evictUnreplicatedPods .unreplicated ++
        (PodFilter.optional rules.evictDaemonSetPods .daemonSet ++
        PodFilter.optional markers.isEmpty (.marked markers)))) := by
  unfold EvictionRules.filters at built
  cases read : rules.protectedAnnotations.mapM AnnotationMarker.read with
  | error cause =>
    rw [read] at built
    cases built
  | ok markers =>
    rw [read] at built
    cases built
    exact ⟨markers, rfl, by simp [PodFilter.optional]⟩

/-- The first text that protects a pod is the text of the first marker that does. -/
theorem find?_of_marked {texts before after : List String} {markers : List AnnotationMarker}
    {text shown : String} (read : texts.mapM AnnotationMarker.read = .ok markers)
    (given : texts = before ++ text :: after)
    (first : ∀ other ∈ before, ∀ shown, ¬ pod.ProtectedBy other shown)
    (guards : pod.ProtectedBy text shown) :
    ∃ marker, markers.find? (·.matches pod) = some marker ∧ shown = marker.render := by
  have along := forall₂_of_mapM read
  clear read
  induction before generalizing texts markers with
  | nil =>
    subst given
    cases along with
    | cons same _ =>
    obtain ⟨matching, rfl⟩ := (Pod.protectedBy_iff same).mp guards
    exact ⟨_, List.find?_cons_of_pos matching, rfl⟩
  | cons other before ih =>
    subst given
    cases along with
    | cons same others =>
    obtain ⟨unguarded, later⟩ := List.forall_mem_cons.mp first
    obtain ⟨marker, found, rfl⟩ := ih rfl later others
    refine ⟨marker, ?_, rfl⟩
    rw [List.find?_cons_of_neg, found]
    exact fun matching => unguarded _ ((Pod.protectedBy_iff same).mpr ⟨matching, rfl⟩)

theorem find?_of_unmarked {markers : List AnnotationMarker}
    (read : rules.protectedAnnotations.mapM AnnotationMarker.read = .ok markers)
    (unmarked : rules.Unmarked pod) : markers.find? (·.matches pod) = none := by
  refine List.find?_eq_none.mpr fun marker listed matching => ?_
  obtain ⟨text, given, same⟩ := exists_mem_of_forall₂ (forall₂_of_mapM read).flip listed
  exact unmarked text given _ ((Pod.protectedBy_iff same).mpr ⟨matching, rfl⟩)

/-- The markers are asked last. -/
theorem judgeAll_marked (markers : List AnnotationMarker) (pod : Pod) :
    PodFilter.judgeAll (T := T) (PodFilter.optional markers.isEmpty (.marked markers)) pod =
      .done (.ok (PodFilter.setAsideIf (markers.find? (·.matches pod)) fun marker =>
        s!"protected by annotation '{marker.render}'")) := by
  cases markers with
  | nil => rfl
  | cons marker others =>
    rw [List.isEmpty_cons]
    cases found : (marker :: others).find? (·.matches pod) with
    | none =>
      have keeps : PodFilter.judge (T := T) (.marked (marker :: others)) pod = .done (.ok .keep) := by
        rw [PodFilter.judge, found]
        rfl
      exact PodFilter.judgeAll_cons_of_keep keeps
    | some first =>
      have drops : PodFilter.judge (T := T) (.marked (marker :: others)) pod =
          .done (.ok (.setAside s!"protected by annotation '{first.render}'")) := by
        rw [PodFilter.judge, found]
        rfl
      exact PodFilter.judgeAll_cons_of_setAside drops

/-- Where neither the pod itself nor a daemon set hinders its eviction, the markers settle it. -/
theorem judgeAll_marked_of_settles {markers : List AnnotationMarker}
    (read : rules.protectedAnnotations.mapM AnnotationMarker.read = .ok markers)
    (clears : rules.Clears pod) (free : ∀ owner, rules.Consults pod owner → ¬ present ⟨pod.ns, owner.name⟩)
    (settles : rules.Settles present pod verdict) :
    PodFilter.judgeAll (T := T) (PodFilter.optional markers.isEmpty (.marked markers)) pod =
      .done (.ok verdict) := by
  rw [judgeAll_marked]
  cases verdict with
  | keep =>
    rw [find?_of_unmarked read settles.unmarked]
    rfl
  | setAside reason =>
    obtain ⟨owner, consults, there, -⟩ | ⟨-, before, text, after, shown, given, first, guards, rfl⟩ :=
      Hinders.of_clears settles clears
    · exact absurd there (free owner consults)
    · obtain ⟨marker, found, rfl⟩ := find?_of_marked read given first guards
      rw [found]
      rfl

/-- Where nothing about the pod itself hinders its eviction, a daemon set or a marker settles it. -/
theorem judgeAll_of_clears {markers : List AnnotationMarker} (clears : rules.Clears pod) :
    PodFilter.judgeAll (T := T) (.staticPod ::
        (PodFilter.optional rules.evictLocalStoragePods .localStorage ++
        (PodFilter.optional rules.evictUnreplicatedPods .unreplicated ++
        (PodFilter.optional rules.evictDaemonSetPods .daemonSet ++
        PodFilter.optional markers.isEmpty (.marked markers))))) pod =
      PodFilter.judgeAll (PodFilter.optional rules.evictDaemonSetPods .daemonSet ++
        PodFilter.optional markers.isEmpty (.marked markers)) pod := by
  rw [PodFilter.judgeAll_cons_of_keep (PodFilter.judge_staticPod_of_clear clears.mirror),
    PodFilter.judgeAll_optional_of_keep (clears.storage.imp_right
      PodFilter.judge_localStorage_of_clear),
    PodFilter.judgeAll_optional_of_keep (clears.replicated.imp_right
      PodFilter.judge_unreplicated_of_clear)]

/-- Where something about the pod itself hinders its eviction, the first such thing is the reason. -/
theorem judgeAll_of_unclear (built : rules.filters = .ok filters) (unclear : ¬ rules.Clears pod)
    (settles : rules.Settles present pod verdict) :
    PodFilter.judgeAll (T := T) filters pod = .done (.ok verdict) := by
  obtain ⟨markers, -, rfl⟩ := filters_eq built
  cases verdict with
  | keep => exact absurd settles.toClears unclear
  | setAside reason =>
    cases settles with
    | mirror bears =>
      have drops : PodFilter.judge (T := T) .staticPod pod =
          .done (.ok (.setAside "mirror pod of a static pod")) := by
        rw [PodFilter.judge, Pod.annotation?_eq_some_iff.mpr bears]
        rfl
      exact PodFilter.judgeAll_cons_of_setAside drops
    | @storage volume mirror keeps data =>
      have drops : PodFilter.judge (T := T) .localStorage pod =
          .done (.ok (.setAside s!"uses local storage volume '{volume.name}'")) := by
        rw [PodFilter.judge, Pod.find?_volume_eq_some_iff.mpr data]
        rfl
      rw [PodFilter.judgeAll_cons_of_keep (PodFilter.judge_staticPod_of_clear mirror), keeps]
      exact PodFilter.judgeAll_cons_of_setAside drops
    | unreplicated mirror storage keeps runs unmanaged =>
      have drops : PodFilter.judge (T := T) .unreplicated pod =
          .done (.ok (.setAside "not managed by a controller")) := by
        have fails : ¬ (pod.isFinished || pod.controller?.isSome) = true := by
          rw [Bool.or_eq_true, Pod.isFinished_iff, Pod.isSome_controller?_iff]
          exact not_or.mpr ⟨runs, unmanaged⟩
        rw [PodFilter.judge, if_neg fails]
        rfl
      rw [PodFilter.judgeAll_cons_of_keep (PodFilter.judge_staticPod_of_clear mirror),
        PodFilter.judgeAll_optional_of_keep (storage.imp_right
          PodFilter.judge_localStorage_of_clear), keeps]
      exact PodFilter.judgeAll_cons_of_setAside drops
    | daemonSet consults there => exact absurd consults.toClears unclear
    | marked clears released given first guards => exact absurd clears unclear

/-- If it does not matter whether a daemon set exists, the verdict is given at once. -/
theorem judgeAll_of_alone (built : rules.filters = .ok filters)
    (alone : ∀ owner, ¬ rules.Consults pod owner) (settles : rules.Settles present pod verdict) :
    PodFilter.judgeAll (T := T) filters pod = .done (.ok verdict) := by
  by_cases clears : rules.Clears pod
  swap
  · exact judgeAll_of_unclear built clears settles
  obtain ⟨markers, read, rfl⟩ := filters_eq built
  have free : rules.evictDaemonSetPods = true ∨
      PodFilter.judge (T := T) .daemonSet pod = .done (.ok .keep) := by
    cases asks : rules.evictDaemonSetPods with
    | true => exact .inl rfl
    | false =>
      refine .inr (PodFilter.judge_daemonSet_of_clear fun owner managed kind => ?_)
      exact alone owner ⟨clears, asks, managed, kind⟩
  rw [judgeAll_of_clears clears, PodFilter.judgeAll_optional_of_keep free]
  exact judgeAll_marked_of_settles read clears (fun owner consults => absurd consults (alone owner))
    settles

/-- If it matters whether a daemon set exists, that daemon set is looked up, and if it is missing, the
verdict is that of the other filters. -/
theorem judgeAll_of_consults {owner : Owner} (built : rules.filters = .ok filters)
    (consults : rules.Consults pod owner) (free : ¬ present ⟨pod.ns, owner.name⟩)
    (settles : rules.Settles present pod verdict) :
    PodFilter.judgeAll (T := T) filters pod = (Work.getDaemonSet owner.name pod.ns).bind
      fun answer => .done (PodFilter.heard owner verdict answer) := by
  obtain ⟨markers, read, rfl⟩ := filters_eq built
  rw [judgeAll_of_clears consults.toClears, consults.asks]
  refine PodFilter.judgeAll_daemonSet consults.managed consults.kind ?_
  refine judgeAll_marked_of_settles read consults.toClears (fun other also => ?_) settles
  obtain rfl : owner = other := consults.managed.unique also.managed
  exact free

end EvictionRules

/-! ## The filters together -/

/-- The answer says truly whether a daemon set exists, if one was asked for. -/
def World.Tells {T : Type} (present : DaemonSet → Prop) : Exchange (World T) → Prop
  | ⟨.call (.readDaemonSet name ns), .ok _⟩ => present ⟨ns, name⟩
  | ⟨.call (.readDaemonSet name ns), .error failure⟩ => ¬ present ⟨ns, name⟩ ∧
    ∃ refusal, failure = .refused refusal ∧ refusal.status = some 404
  | _ => True

namespace EvictionRules

variable {T : Type} [TimeScale T]

section Statement

variable (rules : EvictionRules) (filters : List PodFilter) (pod : Pod)

/-- What is asked to judge a pod: the daemon set that manages it is looked up, if it matters whether
that exists, and nothing else. -/
def Inquires (path : List (Exchange (World T))) : Prop :=
  ((∀ owner, ¬ rules.Consults pod owner) ∧ path = []) ∨ ∃ owner refusals answer,
    rules.Consults pod owner ∧
      World.Reading (.readDaemonSet owner.name pod.ns) path refusals answer

/-- The filters judge a pod by the rules. -/
structure Judges (T : Type) [TimeScale T] : Prop where
  asked : ∀ path, (∃ result, (PodFilter.judgeAll (T := T) filters pod).Reaches path (.done result)) ↔
    rules.Inquires pod path
  decided : ∀ (present : DaemonSet → Prop) (path : List (Exchange (World T))) result,
    (PodFilter.judgeAll filters pod).Reaches path (.done result) →
    (∀ last ∈ path.getLast?, World.Tells present last) →
      ∃ verdict, result = .ok verdict ∧ (verdict = .keep ↔ rules.Evictable present pod) ∧
        ∀ reason, verdict = .setAside reason ↔ rules.Hinders present pod reason

end Statement

variable {rules : EvictionRules} {filters : List PodFilter} {pod : Pod}
  {path : List (Exchange (World T))}

/-- If it matters whether a daemon set exists, the pod is judged once its lookup has an answer. -/
theorem reaches_judgeAll_iff {owner : Owner} {present : DaemonSet → Prop} {verdict : Verdict}
    {result : Except Failure Verdict} (built : rules.filters = .ok filters)
    (consults : rules.Consults pod owner) (free : ¬ present ⟨pod.ns, owner.name⟩)
    (settles : rules.Settles present pod verdict) :
    (PodFilter.judgeAll filters pod).Reaches path (.done result) ↔ ∃ refusals answer,
      World.Reading (.readDaemonSet owner.name pod.ns) path refusals answer ∧
        result = PodFilter.heard owner verdict answer := by
  rw [judgeAll_of_consults built consults free settles, Program.reaches_map_iff]
  constructor
  · rintro ⟨answer, looked, rfl⟩
    obtain ⟨refusals, reading⟩ := Work.reaches_readAgain_iff.mp looked
    exact ⟨refusals, answer, reading, rfl⟩
  · rintro ⟨refusals, answer, reading, rfl⟩
    exact ⟨answer, Work.reaches_readAgain_iff.mpr ⟨refusals, reading⟩, rfl⟩

/-- To judge a pod nothing is asked but whether the daemon set exists, if that matters. -/
theorem inquires_iff (built : rules.filters = .ok filters) :
    (∃ result, (PodFilter.judgeAll filters pod).Reaches path (.done result)) ↔
      rules.Inquires pod path := by
  obtain ⟨verdict, settles⟩ := rules.exists_settles (fun _ => False) pod
  by_cases alone : ∀ owner, ¬ rules.Consults pod owner
  · rw [judgeAll_of_alone built alone settles]
    constructor
    · rintro ⟨result, reached⟩
      exact .inl ⟨alone, (Program.reaches_done_iff.mp reached).1⟩
    · rintro (⟨-, rfl⟩ | ⟨owner, _, _, consults, -⟩)
      · exact ⟨_, .here _⟩
      · exact absurd consults (alone owner)
  · constructor
    · rintro ⟨result, reached⟩
      obtain ⟨owner, consults⟩ := not_forall_not.mp alone
      obtain ⟨refusals, answer, reading, -⟩ :=
        (reaches_judgeAll_iff built consults id settles).mp reached
      exact .inr ⟨owner, refusals, answer, consults, reading⟩
    · rintro (⟨free, -⟩ | ⟨owner, refusals, answer, consults, reading⟩)
      · exact absurd free alone
      · exact ⟨_, (reaches_judgeAll_iff built consults id settles).mpr ⟨refusals, answer, reading, rfl⟩⟩

/-- A pod is judged by the rules, if the answer about its daemon set is true. -/
theorem result_of_settles {present : DaemonSet → Prop} {verdict : Verdict}
    {result : Except Failure Verdict} (built : rules.filters = .ok filters)
    (reached : (PodFilter.judgeAll filters pod).Reaches path (.done result))
    (told : ∀ last ∈ path.getLast?, World.Tells present last)
    (settles : rules.Settles present pod verdict) : result = .ok verdict := by
  by_cases alone : ∀ owner, ¬ rules.Consults pod owner
  · rw [judgeAll_of_alone built alone settles] at reached
    obtain ⟨-, same⟩ := Program.reaches_done_iff.mp reached
    cases same
    rfl
  obtain ⟨owner, consults⟩ := not_forall_not.mp alone
  by_cases there : present ⟨pod.ns, owner.name⟩
  · obtain ⟨other, unheard⟩ := rules.exists_settles (fun _ => False) pod
    obtain ⟨refusals, answer, reading, rfl⟩ :=
      (reaches_judgeAll_iff built consults id unheard).mp reached
    rw [settles.of_present consults there]
    have tells := told _ reading.getLast?_eq
    cases answer with
    | ok found => rfl
    | error failure => exact absurd there tells.1
  · obtain ⟨refusals, answer, reading, rfl⟩ :=
      (reaches_judgeAll_iff built consults there settles).mp reached
    have tells := told _ reading.getLast?_eq
    cases answer with
    | ok found => exact absurd tells there
    | error failure =>
      obtain ⟨-, refusal, rfl, missing⟩ := tells
      exact if_pos (beq_iff_eq.mpr missing)

/-- **Eligibility.** Whatever the flags are and whatever pod there is, if the texts of all markers are
read, filters are built, and they judge the pod by the rules. They look up at most the daemon set that
manages it, and come to a verdict if they are told whether that exists. -/
theorem judges (markersRead : ∀ text ∈ rules.protectedAnnotations, ∃ marker,
    AnnotationMarker.read text = .ok marker) :
    ∃ filters, rules.filters = .ok filters ∧ ∀ pod, rules.Judges filters pod T := by
  obtain ⟨filters, built⟩ : ∃ filters, rules.filters = .ok filters := by
    obtain ⟨markers, read⟩ := mapM_ok_of_forall markersRead
    exact ⟨_, congrArg (· >>= _) read⟩
  refine ⟨filters, built, fun pod => ⟨fun path => inquires_iff built, ?_⟩⟩
  intro present path result reached told
  have settled {verdict : Verdict} (settles : rules.Settles present pod verdict) :
      result = .ok verdict := result_of_settles built reached told settles
  obtain ⟨verdict, settles⟩ := rules.exists_settles present pod
  obtain rfl := settled settles
  refine ⟨verdict, rfl, ⟨?_, fun evictable => ?_⟩, fun reason => ⟨?_, fun hinders => ?_⟩⟩
  · rintro rfl
    exact settles
  · exact Except.ok.inj (@settled .keep evictable)
  · rintro rfl
    exact settles
  · exact Except.ok.inj (@settled (.setAside reason) hinders)

/-- Of two markers the second one is written with blanks, and protects a pod of the core team. -/
theorem judges_coreTeam :
    let rules : EvictionRules := {
      evictUnreplicatedPods := true
      protectedAnnotations := ["keep", " team = core "] }
    let pod : Pod := {
      name := "p", ns := "default", node := "n1", uid := "u"
      annotations := some (Table.insert ∅ "team" "core") }
    (∀ text ∈ rules.protectedAnnotations, ∃ marker, AnnotationMarker.read text = .ok marker) ∧
      ∃ filters, rules.filters = .ok filters ∧ (∀ pod, rules.Judges filters pod Rat) ∧
        (PodFilter.judgeAll filters pod).Reaches [] (.done (.ok (.setAside
          "protected by annotation 'team=core'")) : Work Rat (Except Failure Verdict)) := by
  intro rules pod
  have anyValue : AnnotationMarker.read "keep" = .ok ⟨"keep", none⟩ := by decide +kernel
  have oneValue : AnnotationMarker.read " team = core " = .ok ⟨"team", some "core"⟩ := by
    decide +kernel
  have markersRead : ∀ text ∈ rules.protectedAnnotations, ∃ marker,
      AnnotationMarker.read text = .ok marker := by
    rintro text (_ | ⟨_, _ | ⟨_, ⟨⟩⟩⟩)
    · exact ⟨_, anyValue⟩
    · exact ⟨_, oneValue⟩
  have mirror : pod.annotation? mirrorAnnotation = none := by decide +kernel
  have clears : rules.Clears pod := ⟨Pod.annotation?_eq_none_iff.mp mirror, .inr nofun, .inl rfl⟩
  have guards : pod.ProtectedBy " team = core " "team=core" :=
    (Pod.protectedBy_iff oneValue).mpr ⟨by decide +kernel, by decide +kernel⟩
  have unguarded : ∀ other ∈ ["keep"], ∀ shown, ¬ pod.ProtectedBy other shown := by
    rintro other (_ | ⟨_, ⟨⟩⟩) shown also
    exact absurd ((Pod.protectedBy_iff anyValue).mp also).1 (by decide +kernel)
  have hinders : rules.Hinders (fun _ => False) pod _ :=
    @Hinders.marked _ _ _ ["keep"] [] _ _ clears (.inr nofun) rfl unguarded guards
  obtain ⟨filters, built, each⟩ := judges (T := Rat) markersRead
  have alone : ∀ owner, ¬ rules.Consults pod owner := fun owner consults =>
    nomatch Pod.controller?_eq_some_iff.mpr consults.managed
  obtain ⟨result, reached⟩ := ((each pod).asked []).mpr (.inl ⟨alone, rfl⟩)
  have told : ∀ last ∈ ([] : List (Exchange (World Rat))).getLast?,
      World.Tells (fun _ => False) last := fun _ listed => nomatch listed
  obtain ⟨verdict, same, -, setAside⟩ := (each pod).decided (fun _ => False) [] result reached told
  rw [same, (setAside _).mpr hinders] at reached
  exact ⟨markersRead, filters, built, each, reached⟩

end EvictionRules

end Evacuation
