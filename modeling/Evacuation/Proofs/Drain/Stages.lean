import Evacuation.Drain.Drain
import Evacuation.Proofs.Drain.Pool
/-!
# The stages of a drain

A drain lists the pods of its node, sorts them one after another, and evicts those that are kept. It
ends at the first stage that fails, or comes to its report after the last one: the paths of a drain are
exactly those of its stages (`Executor.reaches_drain_iff`). Pods are sorted by recursion on the list,
so what sorting does is said for one more pod in front (`Drain.reaches_sortOut_cons_iff`).
-/
namespace Evacuation

variable {T : Type}

namespace Drain

/-! ## Pods sorted one after another -/

/-- The pods that are kept for eviction. -/
def kept (judged : List (Pod × Verdict)) : List Pod :=
  judged.filterMap fun
    | (pod, .keep) => some pod
    | (_, .setAside _) => none

/-- The reports of the pods that are set aside, in their order. -/
def setAside (judged : List (Pod × Verdict)) : List PodReport :=
  judged.filterMap fun
    | (_, .keep) => none
    | (pod, .setAside reason) => some ⟨pod.ns, pod.name, .filteredOut, reason, 0⟩

/-- A pod is kept if that is the verdict on it. -/
theorem mem_kept_iff {judged : List (Pod × Verdict)} {pod : Pod} :
    pod ∈ kept judged ↔ (pod, .keep) ∈ judged := by
  rw [kept, List.mem_filterMap]
  constructor
  · rintro ⟨⟨other, _ | reason⟩, listed, same⟩
    · cases same
      exact listed
    · cases same
  · exact fun listed => ⟨(pod, .keep), listed, rfl⟩

/-- The failure of a drain that cannot decide about a pod. -/
def undecidedBy (pod : Pod) : Failure → Failure
  | .refused refusal => .undecided pod.key refusal
  | failure => failure

/-- The sorted pods with one more pod in front of them, on which there is a verdict. -/
def gather (pod : Pod) (verdict : Verdict) (sorted : List PodReport × List Pod) :
    List PodReport × List Pod :=
  match verdict with
  | .keep => (sorted.1, pod :: sorted.2)
  | .setAside reason => (asideReport pod reason :: sorted.1, sorted.2)

/-- A pod that was judged is gathered with those that were judged after it. -/
theorem gather_judged (pod : Pod) (verdict : Verdict) (judged : List (Pod × Verdict)) :
    gather pod verdict (setAside judged, kept judged) =
      (setAside ((pod, verdict) :: judged), kept ((pod, verdict) :: judged)) := by
  cases verdict <;> rfl

variable [TimeScale T]

/-- What is done about the pods after one on which there is a verdict, or not. -/
def sortOnward (filters : List PodFilter) (pod : Pod) (rest : List Pod) :
    Except Failure Verdict → Work T (Except Failure (List PodReport × List Pod))
  | .error cause => .done (.error (undecidedBy pod cause))
  | .ok verdict => (sortOut filters rest).bind fun sorted => .done (sorted.map (gather pod verdict))

theorem sortOut_cons (filters : List PodFilter) (pod : Pod) (rest : List Pod) :
    sortOut (T := T) filters (pod :: rest) =
      (PodFilter.judgeAll filters pod).bind (sortOnward filters pod rest) := by
  refine congrArg _ (funext fun verdict => ?_)
  cases verdict with
  | error cause => cases cause <;> rfl
  | ok verdict =>
    show Program.bind _ _ = Program.bind _ _
    refine congrArg (Program.bind _) (funext fun sorted => ?_)
    cases sorted with
    | error failure => rfl
    | ok sorted => cases verdict <;> rfl

variable {filters : List PodFilter} {pod : Pod} {pods rest : List Pod}
  {path : List (Exchange (World T))}

/-- To sort no pods, nothing is asked. -/
theorem reaches_sortOut_nil_iff {result : Except Failure (List PodReport × List Pod)} :
    (sortOut filters []).Reaches path (.done result) ↔ path = [] ∧ result = .ok ([], []) := by
  show (Program.done (.ok ([], []))).Reaches path (.done result) ↔ _
  rw [Program.reaches_done_iff, Program.done.injEq]

/-- To sort one more pod, it is judged first. If that fails, so does the sorting; otherwise the others
are sorted. -/
theorem reaches_sortOut_cons_iff {result : Except Failure (List PodReport × List Pod)} :
    (sortOut filters (pod :: rest)).Reaches path (.done result) ↔
      (∃ cause, (PodFilter.judgeAll filters pod).Reaches path (.done (.error cause)) ∧
        result = .error (undecidedBy pod cause)) ∨
      ∃ first second verdict sorted, path = first ++ second ∧
        (PodFilter.judgeAll filters pod).Reaches first (.done (.ok verdict)) ∧
        (sortOut filters rest).Reaches second (.done sorted) ∧
        result = sorted.map (gather pod verdict) := by
  rw [sortOut_cons]
  constructor
  · intro reached
    obtain ⟨first, second, judged, rfl, judging, onward⟩ := reached.of_bind_done
    cases judged with
    | error cause =>
      obtain ⟨rfl, same⟩ := Program.reaches_done_iff.mp onward
      rw [List.append_nil]
      exact .inl ⟨cause, judging, Program.done.inj same⟩
    | ok verdict =>
      obtain ⟨sorted, sorting, same⟩ := Program.reaches_map_iff.mp onward
      exact .inr ⟨first, second, verdict, sorted, rfl, judging, sorting, same.symm⟩
  · rintro (⟨cause, judging, rfl⟩ | ⟨first, second, verdict, sorted, rfl, judging, sorting, rfl⟩)
    · rw [← List.append_nil path]
      exact judging.bind (.here _)
    · exact judging.bind (Program.reaches_map_iff.mpr ⟨sorted, sorting, rfl⟩)

/-- To sort pods is to judge each of them by the filters. -/
theorem judged_of_sortOut {evictable : List Pod} {aside : List PodReport}
    (reached : (sortOut filters pods).Reaches path (.done (.ok (aside, evictable)))) :
    ∃ judged, judged.map Prod.fst = pods ∧ aside = setAside judged ∧ evictable = kept judged ∧
      ∀ entry ∈ judged, ∃ decision, decision <:+: path ∧
        (PodFilter.judgeAll filters entry.1).Reaches decision (.done (.ok entry.2)) := by
  induction pods generalizing path aside evictable with
  | nil =>
    obtain ⟨-, same⟩ := reaches_sortOut_nil_iff.mp reached
    cases same
    exact ⟨[], rfl, rfl, rfl, nofun⟩
  | cons pod rest ih =>
    obtain ⟨_, -, same⟩ | ⟨first, second, verdict, sorted, rfl, judging, sorting, same⟩ :=
      reaches_sortOut_cons_iff.mp reached
    · cases same
    cases sorted with
    | error failure => cases same
    | ok sorted =>
    obtain ⟨judged, all, asides, keeps, each⟩ := ih sorting
    have gathered : (aside, evictable) =
        (setAside ((pod, verdict) :: judged), kept ((pod, verdict) :: judged)) := by
      rw [← gather_judged, ← asides, ← keeps]
      exact Except.ok.inj same
    have decided : ∀ entry ∈ (pod, verdict) :: judged, ∃ decision, decision <:+: first ++ second ∧
        (PodFilter.judgeAll filters entry.1).Reaches decision (.done (.ok entry.2)) := by
      intro entry listed
      obtain rfl | later := List.mem_cons.mp listed
      · exact ⟨first, ⟨[], second, rfl⟩, judging⟩
      · obtain ⟨decision, part, decides⟩ := each entry later
        exact ⟨decision, part.trans ⟨first, [], by simp⟩, decides⟩
    exact ⟨(pod, verdict) :: judged, congrArg (pod :: ·) all, congrArg Prod.fst gathered,
      congrArg Prod.snd gathered, decided⟩

/-! ## Pods evicted side by side -/

/-- Pods are evicted side by side by a pool, and the results are collected, unless there are no
workers. -/
theorem does_of_evictAll {executor : Executor T} {node : String}
    {result : Except Failure (List PodReport)}
    (reached : (evictAll executor node pods).Reaches path (.done result)) :
    result = .error .noWorkers ∨ ∃ results,
      Pool.Does (workers executor.maxConcurrent pods.length).toNat (pods.map executor.evict) path
        results ∧ collect results = result := by
  unfold evictAll at reached
  split at reached
  · rename_i none
    obtain ⟨rfl, same⟩ := Program.reaches_done_iff.mp reached
    obtain rfl := List.isEmpty_iff.mp none
    exact .inr ⟨[], ⟨[], [], .here, .nil, .refl _⟩, (Program.done.inj same).symm⟩
  dsimp only at reached
  split at reached
  · exact .inl (Program.done.inj (Program.reaches_done_iff.mp reached).2)
  · rename_i enough
    obtain ⟨results, working, collected⟩ := Program.reaches_map_iff.mp reached
    exact .inr ⟨results, WorkerPool.does_of_reaches (by omega) working, collected⟩

end Drain

/-! ## The whole drain -/

/-- The failure of a drain that cannot list the pods of its node. -/
def Drain.unlistedBy (node : Node) : Failure → Failure
  | .refused refusal => .listing node.name refusal
  | failure => failure

variable [TimeScale T]

/-- A drain goes through its stages to a result. -/
inductive Executor.Stages (executor : Executor T) (node : Node) :
    List (Exchange (World T)) → Except Failure DrainReport → Prop where
  | unlisted {path : List (Exchange (World T))} {cause : Failure}
      (listed : (Work.podsOn node.name).Reaches path (.done (.error cause))) :
      Stages executor node path (.error (Drain.unlistedBy node cause))
  | unsorted {listing sorting : List (Exchange (World T))} {pods : List Pod} {cause : Failure}
      (listed : (Work.podsOn node.name).Reaches listing (.done (.ok pods)))
      (sorted : (Drain.sortOut executor.filters pods).Reaches sorting (.done (.error cause))) :
      Stages executor node (listing ++ sorting) (.error cause)
  | unevicted {listing sorting evicting : List (Exchange (World T))} {pods evictable : List Pod}
      {aside : List PodReport} {cause : Failure}
      (listed : (Work.podsOn node.name).Reaches listing (.done (.ok pods)))
      (sorted : (Drain.sortOut executor.filters pods).Reaches sorting
        (.done (.ok (aside, evictable))))
      (evicted : (Drain.evictAll executor node.name evictable).Reaches evicting
        (.done (.error cause))) :
      Stages executor node (listing ++ (sorting ++ evicting)) (.error cause)
  | reported {listing sorting evicting : List (Exchange (World T))} {pods evictable : List Pod}
      {aside reports : List PodReport}
      (listed : (Work.podsOn node.name).Reaches listing (.done (.ok pods)))
      (sorted : (Drain.sortOut executor.filters pods).Reaches sorting
        (.done (.ok (aside, evictable))))
      (evicted : (Drain.evictAll executor node.name evictable).Reaches evicting
        (.done (.ok reports))) :
      Stages executor node (listing ++ (sorting ++ evicting)) (.ok ⟨node.name, aside ++ reports⟩)

/-- The paths of a drain are those of its stages. -/
theorem Executor.reaches_drain_iff {executor : Executor T} {node : Node}
    {path : List (Exchange (World T))} {result : Except Failure DrainReport} :
    (executor.drain node).Reaches path (.done result) ↔ executor.Stages node path result := by
  unfold Executor.drain
  constructor
  · intro reached
    obtain ⟨listing, second, listed, rfl, listing_reached, onward⟩ := reached.of_bind_done
    cases listed with
    | error cause =>
      have ended : second = [] ∧ result = .error (Drain.unlistedBy node cause) := by
        cases cause <;> exact (Program.reaches_done_iff.mp onward).imp_right Program.done.inj
      obtain ⟨rfl, rfl⟩ := ended
      rw [List.append_nil]
      exact .unlisted listing_reached
    | ok pods =>
    obtain ⟨sorting, third, sorted, rfl, sorting_reached, onward⟩ := onward.of_bind_done
    cases sorted with
    | error cause =>
      obtain ⟨rfl, same⟩ := Program.reaches_done_iff.mp onward
      cases same
      rw [List.append_nil]
      exact .unsorted listing_reached sorting_reached
    | ok sorted =>
    obtain ⟨evicting, fourth, evicted, rfl, evicting_reached, onward⟩ := onward.of_bind_done
    cases evicted with
    | error cause =>
      obtain ⟨rfl, same⟩ := Program.reaches_done_iff.mp onward
      cases same
      rw [List.append_nil]
      exact .unevicted listing_reached sorting_reached evicting_reached
    | ok reports =>
      obtain ⟨rfl, same⟩ := Program.reaches_done_iff.mp onward
      cases same
      rw [List.append_nil]
      exact .reported listing_reached sorting_reached evicting_reached
  · intro stages
    cases stages with
    | @unlisted _ cause listed =>
      rw [← List.append_nil path]
      refine listed.bind ?_
      cases cause <;> exact .here _
    | @unsorted _ sorting _ _ listed sorted =>
      rw [← List.append_nil sorting]
      exact listed.bind (sorted.bind (.here _))
    | @unevicted _ _ evicting _ _ _ _ listed sorted evicted =>
      rw [← List.append_nil evicting]
      exact listed.bind (sorted.bind (evicted.bind (.here _)))
    | @reported _ _ evicting _ _ _ _ listed sorted evicted =>
      rw [← List.append_nil evicting]
      exact listed.bind (sorted.bind (evicted.bind (.here _)))

end Evacuation
