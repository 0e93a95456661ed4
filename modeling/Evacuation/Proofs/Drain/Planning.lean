import Evacuation.Proofs.Drain.Stages
import Evacuation.Proofs.Eviction.Outcomes
import Evacuation.Proofs.PodFilter.Eligibility
/-!
# How a drain is planned

A drain first lists the pods of its node and then decides about them one after another, in the order of
the list. If the list or a decision is refused, nothing more is asked: `EvictionRules.Unplanned` tells
the exchanges to the last one. The main statement, `Executor.drain_plans`, says that a drain fails for
want of a plan exactly then, and that no pod was evicted or looked at before.
-/
namespace Evacuation

variable {T α : Type}

/-- The drain could not be planned. -/
def Failure.IsOfPlanning : Failure → Prop
  | .listing _ _ | .undecided _ _ => True
  | _ => False

/-- No failure of planning is answered to a request. -/
def World.Plain : Exchange (World T) → Prop
  | ⟨.call _, .error failure⟩ => ¬ failure.IsOfPlanning
  | _ => True

/-- The request evicts a pod or looks at one. -/
def World.Request.TouchesPod : World.Request T → Prop
  | .call (.evict _ _) | .call (.readPod _ _) => True
  | _ => False

variable [TimeScale T]

namespace EvictionRules

section Decisions

variable (rules : EvictionRules) (pod : Pod) (path : List (Exchange (World T)))

/-- It is decided about a pod: it does not matter for the pod whether a daemon set exists, or the answer
to that is that the daemon set exists or is missing. -/
inductive Decides : List (Exchange (World T)) → Prop where
  | unasked (alone : ∀ owner, ¬ rules.Consults pod owner) : Decides []
  | found {owner : Owner} {path : List (Exchange (World T))} {refusals : List Refusal}
      {daemonSet : DaemonSet} (consults : rules.Consults pod owner)
      (reading : World.Reading (.readDaemonSet owner.name pod.ns) path refusals (.ok daemonSet)) :
      Decides path
  | missing {owner : Owner} {path : List (Exchange (World T))} {refusals : List Refusal}
      {refusal : Refusal} (consults : rules.Consults pod owner)
      (reading : World.Reading (.readDaemonSet owner.name pod.ns) path refusals
        (.error (.refused refusal))) (notFound : refusal.status = some 404) : Decides path

/-- It is not decided about a pod: it matters whether a daemon set exists, and the lookup fails. -/
structure Baffles (owner : Owner) (refusals : List Refusal) (cause : Failure) : Prop where
  consults : rules.Consults pod owner
  reading : World.Reading (.readDaemonSet owner.name pod.ns) path refusals (.error cause)
  otherwise : ∀ refusal, cause = .refused refusal → refusal.status ≠ some 404

/-- It is decided about all pods of a list, about one after another. -/
inductive Decisions : List Pod → List (Exchange (World T)) → Prop where
  | nil : Decisions [] []
  | cons {pod : Pod} {pods : List Pod} {path later : List (Exchange (World T))}
      (decides : rules.Decides pod path) (onward : Decisions pods later) :
      Decisions (pod :: pods) (path ++ later)

/-- The exchanges of a drain that cannot be planned, and its failure. -/
inductive Unplanned (node : Node) : List (Exchange (World T)) → Failure → Prop where
  | unlisted {path : List (Exchange (World T))} {refusals : List Refusal} {refusal : Refusal}
      (reading : World.Reading (.listPods node.name) path refusals (.error (.refused refusal))) :
      Unplanned node path (.listing node.name refusal)
  | undecided {listing decisions lookup : List (Exchange (World T))}
      {listings lookups : List Refusal} {before after : List Pod} {pod : Pod} {owner : Owner}
      {refusal : Refusal}
      (listed : World.Reading (.listPods node.name) listing listings (.ok (before ++ pod :: after)))
      (decided : rules.Decisions before decisions)
      (baffles : rules.Baffles pod lookup owner lookups (.refused refusal)) :
      Unplanned node (listing ++ (decisions ++ lookup)) (.undecided pod.key refusal)

end Decisions

end EvictionRules

namespace PodFilter

variable {owner : Owner} {others : Verdict}

omit [TimeScale T] in
/-- A missing daemon set leaves the pod to the other filters. -/
theorem heard_of_missing {refusal : Refusal} (missing : refusal.status = some 404) :
    heard owner others (.error (.refused refusal)) = .ok others :=
  if_pos (beq_iff_eq.mpr missing)

omit [TimeScale T] in
/-- Any other failure of the lookup is passed on. -/
theorem heard_of_failed {cause : Failure}
    (otherwise : ∀ refusal, cause = .refused refusal → refusal.status ≠ some 404) :
    heard owner others (.error cause) = .error cause := by
  cases cause with
  | refused refusal => exact if_neg (mt beq_iff_eq.mp (otherwise refusal rfl))
  | _ => rfl

end PodFilter

/-! ## Decisions about pods -/

namespace EvictionRules

variable {rules : EvictionRules} {filters : List PodFilter} {pod : Pod}
  {path : List (Exchange (World T))}

/-- To judge a pod is to decide about it, or to fail with the lookup of its daemon set. -/
theorem decides_of_judgeAll (built : rules.filters = .ok filters) {result : Except Failure Verdict}
    (reached : (PodFilter.judgeAll filters pod).Reaches path (.done result)) :
    (∃ verdict, result = .ok verdict ∧ rules.Decides pod path) ∨
      ∃ owner refusals cause, result = .error cause ∧ rules.Baffles pod path owner refusals cause := by
  obtain ⟨others, settles⟩ := rules.exists_settles (fun _ => False) pod
  by_cases alone : ∀ owner, ¬ rules.Consults pod owner
  · rw [judgeAll_of_alone built alone settles] at reached
    obtain ⟨rfl, same⟩ := Program.reaches_done_iff.mp reached
    cases same
    exact .inl ⟨others, rfl, .unasked alone⟩
  obtain ⟨owner, consults⟩ := not_forall_not.mp alone
  obtain ⟨refusals, answer, reading, rfl⟩ :=
    (reaches_judgeAll_iff built consults id settles).mp reached
  cases answer with
  | ok daemonSet => exact .inl ⟨_, rfl, .found consults reading⟩
  | error cause =>
    by_cases otherwise : ∀ refusal, cause = .refused refusal → refusal.status ≠ some 404
    · refine .inr ⟨owner, refusals, cause, ?_, consults, reading, otherwise⟩
      exact PodFilter.heard_of_failed otherwise
    · obtain ⟨refusal, rfl, missing⟩ : ∃ refusal, cause = .refused refusal ∧
          refusal.status = some 404 := by
        simpa using otherwise
      exact .inl ⟨others, PodFilter.heard_of_missing missing, .missing consults reading missing⟩

/-- What decides about a pod lets the filters come to a verdict. -/
theorem Decides.reaches (decides : rules.Decides pod path) (built : rules.filters = .ok filters) :
    ∃ verdict, (PodFilter.judgeAll filters pod).Reaches path (.done (.ok verdict)) := by
  obtain ⟨others, settles⟩ := rules.exists_settles (fun _ => False) pod
  cases decides with
  | unasked alone =>
    rw [judgeAll_of_alone built alone settles]
    exact ⟨others, .here _⟩
  | found consults reading =>
    exact ⟨_, (reaches_judgeAll_iff built consults id settles).mpr ⟨_, _, reading, rfl⟩⟩
  | missing consults reading notFound =>
    refine ⟨others, (reaches_judgeAll_iff built consults id settles).mpr ⟨_, _, reading, ?_⟩⟩
    exact (PodFilter.heard_of_missing notFound).symm

/-- A lookup that fails is what the filters fail with. -/
theorem Baffles.reaches {owner : Owner} {refusals : List Refusal} {cause : Failure}
    (baffles : rules.Baffles pod path owner refusals cause) (built : rules.filters = .ok filters) :
    (PodFilter.judgeAll filters pod).Reaches path (.done (.error cause)) := by
  obtain ⟨others, settles⟩ := rules.exists_settles (fun _ => False) pod
  refine (reaches_judgeAll_iff built baffles.consults id settles).mpr ⟨_, _, baffles.reading, ?_⟩
  exact (PodFilter.heard_of_failed baffles.otherwise).symm

end EvictionRules

namespace Drain

variable {rules : EvictionRules} {filters : List PodFilter} {pods : List Pod}
  {path : List (Exchange (World T))}

/-- To sort pods is to decide about all of them, or about those before the first one whose lookup
fails. -/
theorem decisions_of_sortOut (built : rules.filters = .ok filters)
    {result : Except Failure (List PodReport × List Pod)}
    (reached : (sortOut filters pods).Reaches path (.done result)) :
    (∃ sorted, result = .ok sorted ∧ rules.Decisions pods path) ∨
      ∃ before pod after decisions lookup owner lookups cause, pods = before ++ pod :: after ∧
        path = decisions ++ lookup ∧ rules.Decisions before decisions ∧
        rules.Baffles pod lookup owner lookups cause ∧ result = .error (undecidedBy pod cause) := by
  induction pods generalizing path result with
  | nil =>
    obtain ⟨rfl, rfl⟩ := reaches_sortOut_nil_iff.mp reached
    exact .inl ⟨_, rfl, .nil⟩
  | cons pod rest ih =>
    obtain ⟨cause, judging, rfl⟩ | ⟨first, second, verdict, sorted, rfl, judging, sorting, rfl⟩ :=
      reaches_sortOut_cons_iff.mp reached
    · obtain ⟨verdict, same, -⟩ | ⟨owner, lookups, _, same, baffles⟩ :=
        EvictionRules.decides_of_judgeAll built judging
      · cases same
      · cases same
        exact .inr ⟨[], pod, rest, [], path, owner, lookups, cause, rfl, rfl, .nil, baffles, rfl⟩
    · obtain ⟨_, -, decides⟩ | ⟨_, _, _, same, -⟩ :=
        EvictionRules.decides_of_judgeAll built judging
      swap
      · cases same
      obtain ⟨sorted, rfl, decided⟩ |
        ⟨before, other, after, decisions, lookup, owner, lookups, cause, rfl, rfl, decided, baffles,
          rfl⟩ := ih sorting
      · exact .inl ⟨_, rfl, .cons decides decided⟩
      · exact .inr ⟨pod :: before, other, after, first ++ decisions, lookup, owner, lookups, cause, rfl,
          (List.append_assoc ..).symm, .cons decides decided, baffles, rfl⟩

/-- A lookup that fails after decisions about all pods before is what the sorting fails with. -/
theorem reaches_of_baffles (built : rules.filters = .ok filters) {before after : List Pod} {pod : Pod}
    {decisions lookup : List (Exchange (World T))} {owner : Owner} {lookups : List Refusal}
    {cause : Failure} (decided : rules.Decisions before decisions)
    (baffles : rules.Baffles pod lookup owner lookups cause) :
    (sortOut filters (before ++ pod :: after)).Reaches (decisions ++ lookup)
      (.done (.error (undecidedBy pod cause))) := by
  induction decided with
  | nil => exact reaches_sortOut_cons_iff.mpr (.inl ⟨cause, baffles.reaches built, rfl⟩)
  | @cons first rest path later decides onward ih =>
    obtain ⟨verdict, judging⟩ := decides.reaches built
    rw [List.append_assoc]
    exact reaches_sortOut_cons_iff.mpr (.inr ⟨path, _, verdict, _, rfl, judging, ih, rfl⟩)

end Drain

/-! ## Evictions -/

namespace Drain

/-- Evictions side by side fail for want of workers, or as one of them fails. -/
theorem unreported_of_evictAll {executor : Executor T} {node : String} {pods : List Pod}
    {path : List (Exchange (World T))} {failure : Failure}
    (reached : (evictAll executor node pods).Reaches path (.done (.error failure))) :
    failure = .noWorkers ∨ ∃ pod way, executor.Unreported pod way failure ∧
      ∀ exchange ∈ way, Pool.isTaskwork exchange = true → exchange ∈ path := by
  obtain same | ⟨results, does, collected⟩ := does_of_evictAll reached
  · cases same
    exact .inl rfl
  obtain ⟨ways, each, shares, reported⟩ := does.shares
  obtain ⟨result, there, failed⟩ := exists_error_of_mapM collected
  obtain ⟨way, listed, rfl⟩ := List.mem_map.mp (reported.subset there)
  obtain ⟨task, chosen, eviction⟩ := exists_mem_of_forall₂ each.flip listed
  obtain ⟨pod, -, rfl⟩ := List.mem_map.mp chosen
  rw [id_eq] at failed
  rw [failed] at eviction
  refine .inr ⟨pod, way.1, Executor.unreported_of_course (Executor.course_of_evict eviction) rfl, ?_⟩
  exact fun exchange asked own => shares.mem_path (List.mem_map_of_mem listed) asked own

end Drain

/-! ## Plans -/

/-- An eviction does not fail for want of a plan, unless a request was answered so. -/
theorem Executor.Unreported.not_isOfPlanning {executor : Executor T} {pod : Pod}
    {way : List (Exchange (World T))} {failure : Failure}
    (unreported : executor.Unreported pod way failure)
    (plain : ∀ call : Call, (⟨.call call, .error failure⟩ : Exchange (World T)) ∈ way →
      ¬ failure.IsOfPlanning) : ¬ failure.IsOfPlanning := by
  cases unreported with
  | failed fails =>
    obtain ⟨call, answered⟩ := fails
    exact plain call answered
  | ungranted | unmeasured | outOfTurns => exact id

namespace EvictionRules

variable {rules : EvictionRules} {executor : Executor T} {node : Node}
  {path : List (Exchange (World T))} {failure : Failure}

/-- A drain that fails for want of a plan could not be planned. -/
theorem unplanned_of_drain (built : rules.filters = .ok executor.filters)
    (plain : ∀ exchange ∈ path, World.Plain exchange) (planning : failure.IsOfPlanning)
    (reached : (executor.drain node).Reaches path (.done (.error failure))) :
    rules.Unplanned node path failure := by
  generalize ended : Except.error failure = result at reached
  cases Executor.reaches_drain_iff.mp reached with
  | reported listed sorted evicted => cases ended
  | @unlisted _ cause listed =>
    cases ended
    obtain ⟨listings, reading⟩ := Work.reaches_readAgain_iff.mp listed
    have other : ¬ cause.IsOfPlanning := plain _ reading.mem
    cases cause with
    | refused refusal => exact .unlisted reading
    | _ => exact absurd planning other
  | unsorted listed sorted =>
    cases ended
    obtain ⟨listings, reading⟩ := Work.reaches_readAgain_iff.mp listed
    obtain ⟨sorted, same, -⟩ |
      ⟨before, pod, after, decisions, lookup, owner, lookups, cause, rfl, rfl, decided, baffles,
        same⟩ := Drain.decisions_of_sortOut built sorted
    · cases same
    cases same
    have answered := List.mem_append_right decisions baffles.reading.mem
    have other : ¬ cause.IsOfPlanning := plain _ (List.mem_append_right _ answered)
    cases cause with
    | refused refusal => exact .undecided reading decided baffles
    | _ => exact absurd planning other
  | unevicted listed sorted evicted =>
    -- Evictions fail in their own way, so no failure of planning is left.
    cases ended
    obtain rfl | ⟨pod, way, unreported, own⟩ := Drain.unreported_of_evictAll evicted
    · exact planning.elim
    · refine absurd planning (unreported.not_isOfPlanning fun call answered => ?_)
      have there := own _ answered rfl
      exact plain ⟨.call call, .error failure⟩ (by simp [there])

/-- A drain that cannot be planned goes that way and fails. -/
theorem Unplanned.reaches (unplanned : rules.Unplanned node path failure)
    (built : rules.filters = .ok executor.filters) :
    (executor.drain node).Reaches path (.done (.error failure)) := by
  apply Executor.reaches_drain_iff.mpr
  cases unplanned with
  | unlisted reading => exact .unlisted (Work.reaches_readAgain_iff.mpr ⟨_, reading⟩)
  | undecided listed decided baffles =>
    exact .unsorted (Work.reaches_readAgain_iff.mpr ⟨_, listed⟩)
      (Drain.reaches_of_baffles built decided baffles)

/-- To list pods, or to look a daemon set up, touches no pod. -/
theorem sending_spares {call : Call} {most : Nat} {refusals : List Refusal}
    {answer : Except Failure call.Answer} (sending : World.Sending call most path refusals answer)
    (sparing : ¬ World.Request.TouchesPod (.call call : World.Request T)) :
    ∀ exchange ∈ path, ¬ World.Request.TouchesPod exchange.request := by
  intro exchange asked
  obtain same | ⟨span, same⟩ := sending.request_of_mem asked
  · rwa [same]
  · rw [same]
    exact id

/-- To decide about pods touches none. -/
theorem Decisions.spares {pods : List Pod} (decided : rules.Decisions pods path) :
    ∀ exchange ∈ path, ¬ World.Request.TouchesPod exchange.request := by
  induction decided with
  | nil => exact List.forall_mem_nil _
  | cons decides onward ih =>
    refine List.forall_mem_append.mpr ⟨?_, ih⟩
    cases decides with
    | unasked alone => exact List.forall_mem_nil _
    | found consults reading => exact sending_spares reading id
    | missing consults reading notFound => exact sending_spares reading id

/-- A drain that cannot be planned touches no pod. -/
theorem Unplanned.spares (unplanned : rules.Unplanned node path failure) :
    ∀ exchange ∈ path, ¬ World.Request.TouchesPod exchange.request := by
  cases unplanned with
  | unlisted reading => exact sending_spares reading id
  | undecided listed decided baffles =>
    refine List.forall_mem_append.mpr ⟨sending_spares listed id, List.forall_mem_append.mpr ?_⟩
    exact ⟨decided.spares, sending_spares baffles.reading id⟩

end EvictionRules

/-- A drain is planned before it evicts: it fails for want of a plan exactly if it could not be planned,
there and then, and no pod was touched. -/
structure Executor.PlansFirst (executor : Executor T) (rules : EvictionRules) (node : Node) :
    Prop where
  fails : ∀ path failure, (∀ exchange ∈ path, World.Plain exchange) → failure.IsOfPlanning →
    ((executor.drain node).Reaches path (.done (.error failure)) ↔ rules.Unplanned node path failure)
  ends : ∀ start onward failure left, rules.Unplanned node start failure →
    (executor.drain node).Reaches (start ++ onward) left →
      onward = [] ∧ left = .done (.error failure)
  spares : ∀ path failure, (∀ exchange ∈ path, World.Plain exchange) → failure.IsOfPlanning →
    (executor.drain node).Reaches path (.done (.error failure)) →
      ∀ exchange ∈ path, ¬ exchange.request.TouchesPod

/-- **Planning.** Whatever pods are listed and whatever the cluster answers, a drain whose filters were
built from rules fails for want of a plan exactly if the list was refused, or the first lookup that does
not decide about its pod was. Nothing more is asked then, and no pod was evicted or looked at before. -/
theorem Executor.drain_plans {executor : Executor T} {rules : EvictionRules}
    (built : rules.filters = .ok executor.filters) (node : Node) :
    executor.PlansFirst rules node where
  fails _ _ plain planning :=
    ⟨EvictionRules.unplanned_of_drain built plain planning, fun unplanned => unplanned.reaches built⟩
  ends _ _ _ _ unplanned reached := (unplanned.reaches built).of_done reached
  spares _ _ plain planning reached :=
    (EvictionRules.unplanned_of_drain built plain planning reached).spares

namespace Drain

/-- A pod that a replica set manages and one that a daemon set manages are listed; the daemon set may
not be read. The first pod is kept, and neither is evicted. -/
theorem drain_plans_unreadable :
    let executor : Executor Rat := {
      filters := [.staticPod, .localStorage, .unreplicated, .daemonSet]
      maxGrace := 480, headroom := 30, retryInterval := 5, pollInterval := 1
      cordonAttempts := 5, turns := 3 }
    let web : Pod := {
      name := "web", ns := "default", node := "n1", uid := "u1"
      owners := some [⟨"ReplicaSet", "web", some true⟩] }
    let log : Pod := {
      name := "log", ns := "default", node := "n1", uid := "u2"
      owners := some [⟨"Node", "n1", none⟩, ⟨"DaemonSet", "log", some true⟩] }
    EvictionRules.filters {} = .ok executor.filters ∧
      executor.PlansFirst {} { name := "n1" } ∧
      (executor.drain { name := "n1" }).Reaches
        [⟨.call (.listPods "n1"), .error (.refused ⟨some 500, none⟩)⟩, ⟨.sleep 2, ()⟩,
          ⟨.call (.listPods "n1"), .ok [web, log]⟩,
          ⟨.call (.readDaemonSet "log" "default"), .error (.refused ⟨some 403, some "Forbidden"⟩)⟩]
        (.done (.error (.undecided "default/log" ⟨some 403, some "Forbidden"⟩))) := by
  intro executor web log
  have built : EvictionRules.filters {} = .ok executor.filters := rfl
  have plans := executor.drain_plans built { name := "n1" }
  have listed : World.Reading (T := Rat) (.listPods "n1") _ [⟨some 500, none⟩] (.ok [web, log]) :=
    { path_eq := rfl
      passing := by
        intro refusal there
        obtain rfl := List.mem_singleton.mp there
        exact ⟨500, rfl, .inr (.inr (Int.le_refl 500))⟩
      inLimit := by decide
      final := nofun }
  have reading : World.Reading (T := Rat) (.readDaemonSet "log" "default") _ []
      (.error (.refused ⟨some 403, some "Forbidden"⟩)) :=
    { path_eq := rfl
      passing := nofun
      inLimit := by decide
      final := by
        rintro _ ⟨⟩ ⟨status, ⟨⟩, passes⟩
        omega }
  have decided : EvictionRules.Decisions (T := Rat) {} [web] [] := by
    refine .cons (.unasked fun owner consults => ?_) .nil
    obtain rfl : ⟨"ReplicaSet", "web", some true⟩ = owner :=
      Option.some.inj (Pod.controller?_eq_some_iff.mpr consults.managed)
    exact absurd consults.kind (by decide)
  have managed : log.ManagedBy ⟨"DaemonSet", "log", some true⟩ :=
    ⟨[⟨"Node", "n1", none⟩], [], rfl, rfl, by simp⟩
  have clears : EvictionRules.Clears {} log :=
    { mirror := Pod.annotation?_eq_none_iff.mp rfl
      storage := .inr nofun
      replicated := .inr (.inr (Pod.isSome_controller?_iff.mp rfl)) }
  have baffles : EvictionRules.Baffles {} log _ ⟨"DaemonSet", "log", some true⟩ []
      (.refused ⟨some 403, some "Forbidden"⟩) :=
    { consults := ⟨clears, rfl, managed, rfl⟩
      reading := reading
      otherwise := by
        rintro _ ⟨⟩
        decide }
  have unplanned : EvictionRules.Unplanned {} { name := "n1" } _ (.undecided log.key _) :=
    .undecided listed decided baffles
  have planning : Failure.IsOfPlanning (.undecided log.key ⟨some 403, some "Forbidden"⟩) := trivial
  refine ⟨built, plans, (plans.fails _ _ ?_ planning).mpr unplanned⟩
  simp only [List.forall_mem_cons]
  exact ⟨id, trivial, trivial, id, List.forall_mem_nil _⟩

end Drain

end Evacuation
