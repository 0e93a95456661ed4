import Evacuation.Proofs.Drain.Account
import Evacuation.Proofs.Drain.Verdicts
/-!
# What a report adds up to

A report lists what became of every pod, and the rest of what it tells is read off the list. The
readings agree with each other (`DrainReport.adds_up`): every pod has a share in exactly one outcome,
the summary counts these shares, the error text blames the pods that failed or timed out, and the
retries are the attempts beyond the first one of each pod. None of them depends on the order in which
the evictions ended, but for the order of the details in an error text. A negative number of attempts
counts as none at all; no drain reports one (`Executor.attempts_nonneg`).
-/
namespace Evacuation

/-- The pod failed or timed out. -/
abbrev PodReport.Faulty (pod : PodReport) : Prop := pod.outcome = .failed ∨ pod.outcome = .timedOut

/-- The eviction of the pod was requested. -/
abbrev PodReport.Tried (pod : PodReport) : Prop := 1 ≤ pod.attempts

namespace DrainReport

/-! ## Shares -/

/-- Every pod has a share in the one outcome it had, and each share is in the order of the report. -/
structure Partitioned (report : DrainReport) : Prop where
  inOrder : ∀ outcome, (report.withOutcome outcome).Sublist report.pods
  members : ∀ outcome pod,
    pod ∈ report.withOutcome outcome ↔ pod ∈ report.pods ∧ pod.outcome = outcome
  all : (report.withOutcome .evicted ++ report.withOutcome .filteredOut ++
    report.withOutcome .failed ++ report.withOutcome .timedOut).Perm report.pods

/-- A pod is in the share of its own outcome as often as it is reported, and in no other share. -/
theorem count_withOutcome (report : DrainReport) (outcome : Outcome) (pod : PodReport) :
    (report.withOutcome outcome).count pod =
      if pod.outcome = outcome then report.pods.count pod else 0 := by
  split
  · rename_i own
    exact List.count_filter (beq_iff_eq.mpr own)
  · rename_i other
    apply List.count_eq_zero.mpr
    intro listed
    exact other (beq_iff_eq.mp (List.mem_filter.mp listed).2)

theorem partitioned (report : DrainReport) : report.Partitioned where
  inOrder _ := List.filter_sublist
  members outcome pod := by simp [withOutcome]
  all := by
    refine List.perm_iff_count.mpr fun pod => ?_
    simp only [List.count_append, count_withOutcome]
    cases pod.outcome <;> simp

/-! ## The summary -/

/-- The text about some counts. -/
def summaryOf (counts : List (Nat × Outcome)) : String :=
  if counts.isEmpty then "no pods"
  else ", ".intercalate (counts.map fun count => s!"{count.1} {count.2.label}")

/-- The summary is the text about the outcomes that occur, each with its number of pods, and these
numbers are those of all pods together. -/
structure Summarised (report : DrainReport) (counts : List (Nat × Outcome)) : Prop where
  text : report.summary = summaryOf counts
  occurs : ∀ outcome, outcome ∈ counts.map (·.2) ↔ ∃ pod ∈ report.pods, pod.outcome = outcome
  once : (counts.map (·.2)).Nodup
  number : ∀ count ∈ counts, count.1 = report.pods.countP fun pod => pod.outcome = count.2
  total : (counts.map (·.1)).sum = report.pods.length

theorem mem_counts_iff {report : DrainReport} {count : Nat × Outcome} :
    count ∈ report.counts ↔ count.1 = (report.withOutcome count.2).length ∧ count.1 ≠ 0 := by
  obtain ⟨number, outcome⟩ := count
  have listed : outcome ∈ Outcome.all := by cases outcome <;> decide
  simp only [counts, List.mem_filter, List.mem_map, Prod.mk.injEq, bne_iff_ne]
  constructor
  · rintro ⟨⟨_, -, rfl, rfl⟩, occurs⟩
    exact ⟨rfl, occurs⟩
  · rintro ⟨rfl, occurs⟩
    exact ⟨⟨outcome, listed, rfl, rfl⟩, occurs⟩

/-- Counts of nothing add nothing. -/
theorem sum_filter_counts (counts : List (Nat × Outcome)) :
    ((counts.filter fun count => count.1 != 0).map (·.1)).sum = (counts.map (·.1)).sum := by
  induction counts with
  | nil => rfl
  | cons count rest ih =>
    by_cases none : count.1 = 0
    · simp [none, ih]
    · simp [none, ih]

theorem summarised_counts (report : DrainReport) : report.Summarised report.counts where
  text := rfl
  occurs outcome := by
    constructor
    · intro listed
      obtain ⟨count, counted, rfl⟩ := List.mem_map.mp listed
      obtain ⟨number, occurs⟩ := mem_counts_iff.mp counted
      obtain ⟨pod, shares⟩ := List.exists_mem_of_length_pos (Nat.pos_of_ne_zero (number ▸ occurs))
      exact ⟨pod, (report.partitioned.members _ pod).mp shares⟩
    · rintro ⟨pod, listed, own⟩
      have shares := (report.partitioned.members outcome pod).mpr ⟨listed, own⟩
      have occurs : (report.withOutcome outcome).length ≠ 0 :=
        Nat.ne_of_gt (List.length_pos_of_mem shares)
      have counted : ((report.withOutcome outcome).length, outcome) ∈ report.counts :=
        mem_counts_iff.mpr ⟨rfl, occurs⟩
      exact List.mem_map.mpr ⟨_, counted, rfl⟩
  once := by
    have distinct : Outcome.all.Nodup := by decide
    have kept : report.counts.Sublist
        (Outcome.all.map fun outcome => ((report.withOutcome outcome).length, outcome)) :=
      List.filter_sublist
    have part : (report.counts.map (·.2)).Sublist Outcome.all := kept.map (·.2)
    exact part.nodup distinct
  number count counted := by
    rw [(mem_counts_iff.mp counted).1, withOutcome, List.countP_eq_length_filter]
    rfl
  total := by
    rw [counts, sum_filter_counts, ← report.partitioned.all.length_eq]
    simp [Outcome.all]

/-! ## The error text -/

/-- The text about some details; nothing where there are none. -/
def errorOf (details : List String) : Option String :=
  if details.isEmpty then none
  else some (s!"{details.length} pod(s) not evicted: " ++ "; ".intercalate details)

/-- What is said of one pod. -/
def detail (pod : PodReport) : String := s!"{pod.ns}/{pod.name} {pod.outcome.label}: {pod.reason}"

/-- The pods that failed or timed out, in the order of the report. -/
def faults (report : DrainReport) : List PodReport := report.pods.filter fun pod => pod.Faulty

theorem unevicted_eq_faults (report : DrainReport) : report.unevicted = report.faults := by
  refine List.filter_congr fun pod _ => ?_
  obtain ⟨ns, name, outcome, reason, attempts⟩ := pod
  cases outcome <;> rfl

/-- The error text names the faults. -/
theorem errorText_eq (report : DrainReport) : report.errorText = errorOf (report.faults.map detail) := by
  have texts : faultText = detail := rfl
  rw [errorText, succeeded, errorOf, unevicted_eq_faults, texts, List.isEmpty_map, List.length_map]
  rfl

theorem mem_faults_iff {report : DrainReport} {pod : PodReport} :
    pod ∈ report.faults ↔ pod ∈ report.pods ∧ pod.Faulty := by
  rw [faults, List.mem_filter, decide_eq_true_eq]

/-- What a report says of its success: it has succeeded if no pod failed or timed out, and else there is
an error text that says something, and it names exactly the pods that did, once each and in their
order. -/
structure Excused (report : DrainReport) : Prop where
  succeeded : report.succeeded = true ↔ report.errorText = none
  errorless : report.errorText = none ↔ ∀ pod ∈ report.pods, ¬ pod.Faulty
  names : ∀ text, report.errorText = some text → text ≠ "" ∧
    text = s!"{report.faults.length} pod(s) not evicted: " ++
      "; ".intercalate (report.faults.map detail)

theorem excused (report : DrainReport) : report.Excused where
  succeeded := report.errorText_eq_none_iff.symm
  errorless := by
    rw [errorText_eq_none_iff, succeeded, unevicted_eq_faults, List.isEmpty_iff,
      List.eq_nil_iff_forall_not_mem]
    simp only [mem_faults_iff, not_and]
  names text said := by
    rw [errorText_eq, errorOf] at said
    split at said
    · cases said
    · cases said
      rw [List.length_map]
      refine ⟨?_, rfl⟩
      exact Text.append_ne_empty fun empty => absurd (String.append_eq_empty_iff.mp empty).2 (by decide)

/-! ## Retries -/

/-- The retries of a pod are its attempts beyond the first one, if there was one. -/
theorem retries_eq_tried (report : DrainReport) : report.retries =
    ((report.pods.filter fun pod => pod.Tried).map (·.attempts)).sum -
      (report.pods.countP fun pod => pod.Tried) := by
  rw [retries_eq_sum]
  induction report.pods with
  | nil => rfl
  | cons pod rest ih =>
    rw [List.map_cons, List.sum_cons, ih, PodReport.retries]
    by_cases tried : pod.Tried
    · simp only [List.filter_cons, List.countP_cons, tried, decide_true, if_true, List.map_cons,
        List.sum_cons, Nat.cast_add, Nat.cast_one]
      have first : 1 ≤ pod.attempts := tried
      omega
    · simp only [List.filter_cons, List.countP_cons, tried, decide_false, Bool.false_eq_true, if_false,
        Nat.add_zero]
      have untried : ¬ 1 ≤ pod.attempts := tried
      omega

/-- Where no number of attempts is negative, pods without attempts add nothing. -/
theorem sum_tried {pods : List PodReport} (counted : ∀ pod ∈ pods, 0 ≤ pod.attempts) :
    ((pods.filter fun pod => pod.Tried).map (·.attempts)).sum = (pods.map (·.attempts)).sum := by
  induction pods with
  | nil => rfl
  | cons pod rest ih =>
    obtain ⟨own, others⟩ := List.forall_mem_cons.mp counted
    by_cases tried : pod.Tried
    · simp [tried, ih others]
    · have none : pod.attempts = 0 := by
        have untried : ¬ 1 ≤ pod.attempts := tried
        omega
      simp [ih others, none]

/-! ## The order of the pods -/

/-- Two reports tell the same, but for the order of the details in their error texts. -/
structure Agrees (report other : DrainReport) : Prop where
  succeeded : report.succeeded = other.succeeded
  retries : report.retries = other.retries
  summary : report.summary = other.summary
  errorText : ∃ details others : List String, details.Perm others ∧
    report.errorText = errorOf details ∧ other.errorText = errorOf others

/-- Reports of the same pods in two orders agree. -/
theorem agrees_of_perm {report other : DrainReport} (same : report.pods.Perm other.pods) :
    report.Agrees other where
  succeeded := by
    have unevicted : report.unevicted.Perm other.unevicted := same.filter _
    rw [DrainReport.succeeded, DrainReport.succeeded, Bool.eq_iff_iff, List.isEmpty_iff,
      List.isEmpty_iff]
    constructor
    · rintro none
      exact (none ▸ unevicted).symm.eq_nil
    · rintro none
      exact (none ▸ unevicted).eq_nil
  retries := by
    rw [retries_eq_sum, retries_eq_sum]
    exact (same.map PodReport.retries).sum_eq
  summary := by
    have share (outcome : Outcome) :
        (report.withOutcome outcome).length = (other.withOutcome outcome).length :=
      (same.filter _).length_eq
    have counts : report.counts = other.counts := by
      simp only [DrainReport.counts, share]
    rw [DrainReport.summary, DrainReport.summary, counts]
  errorText := ⟨_, _, (same.filter _).map detail, report.errorText_eq, other.errorText_eq⟩

end DrainReport

/-- A drain reports no negative number of attempts. -/
theorem Executor.attempts_nonneg {T : Type} [TimeScale T] {executor : Executor T} {node : Node}
    {path : List (Exchange (World T))} {report : DrainReport}
    (reached : (executor.drain node).Reaches path (.done (.ok report))) :
    ∀ pod ∈ report.pods, 0 ≤ pod.attempts := by
  obtain ⟨judged, others, accounts⟩ := Executor.accounts (Executor.drains_of_reaches reached)
  rw [accounts.pods]
  intro pod listed
  obtain aside | own := List.mem_append.mp listed
  · have untried := (Drain.of_mem_setAside aside).2
    omega
  · obtain ⟨order, -, evicted⟩ := accounts.evicted
    obtain ⟨_, -, -, -, -, tried⟩ := exists_mem_of_forall₂ evicted own
    omega

/-- A report adds up. Its shares are a partition of the pods, the summary counts the outcomes that
occur, the error text excuses the pods that failed or timed out, and the retries are the attempts of
the pods that were tried beyond the first one of each; where no number of attempts is negative, as in
every report of a drain, these are all attempts. Reports of the same pods in two orders agree. -/
theorem DrainReport.adds_up (report : DrainReport) :
    report.Partitioned ∧ (∃ counts, report.Summarised counts) ∧ report.Excused ∧
    report.retries = ((report.pods.filter fun pod => pod.Tried).map (·.attempts)).sum -
      (report.pods.countP fun pod => pod.Tried) ∧
    ((∀ pod ∈ report.pods, 0 ≤ pod.attempts) → report.retries =
      (report.pods.map (·.attempts)).sum - (report.pods.countP fun pod => pod.Tried)) ∧
    (∀ other : DrainReport, report.pods.Perm other.pods → report.Agrees other) ∧
    ∀ {T : Type} [TimeScale T] (executor : Executor T) (node : Node) (path : List (Exchange (World T))),
      (executor.drain node).Reaches path (.done (.ok report)) →
        ∀ pod ∈ report.pods, 0 ≤ pod.attempts := by
  refine ⟨report.partitioned, ⟨_, report.summarised_counts⟩, report.excused, report.retries_eq_tried,
    fun counted => ?_, fun _ same => agrees_of_perm same,
    fun _ _ _ reached => Executor.attempts_nonneg reached⟩
  rw [retries_eq_tried, sum_tried counted]

namespace DrainReport

/-- A report with a negative number of attempts. -/
def overdrawn : DrainReport := ⟨"n1", [⟨"default", "p1", .evicted, "", -1⟩]⟩

/-- A negative number of attempts is not taken off the retries, though no pod was tried. -/
theorem retries_overdrawn_ne : overdrawn.retries ≠
    (overdrawn.pods.map (·.attempts)).sum - (overdrawn.pods.countP fun pod => pod.Tried) := by
  decide

/-- The report of a drain in which one pod is set aside, one may not be evicted, and one is evicted at
the second attempt. -/
def forbidden : DrainReport := ⟨"n1",
  [⟨"kube-system", "mirror", .filteredOut, "mirror pod of a static pod", 0⟩,
    ⟨"default", "p1", .failed, "cannot evict: 403 Forbidden", 1⟩,
    ⟨"default", "p2", .evicted, "", 2⟩]⟩

theorem run_forbidden : ((Drain.smallExecutor.drain { name := "n1" }).run Drain.smallCluster
    ([0, 0, 1, 1, 6, 6, 20, 0, 1, 1, 10],
      [.error (.refused ⟨some 403, some "Forbidden"⟩),
        .error (.refused ⟨some 429, some "Too Many Requests"⟩), .ok ()])).1 = .ok forbidden := by
  decide +kernel

/-- Three attempts at two pods are one retry, in whatever order the evictions ended. -/
theorem adds_up_forbidden :
    (∃ path, (Drain.smallExecutor.drain { name := "n1" }).Reaches path (.done (.ok forbidden))) ∧
    (∀ pod ∈ forbidden.pods, 0 ≤ pod.attempts) ∧
    forbidden.retries =
      (forbidden.pods.map (·.attempts)).sum - (forbidden.pods.countP fun pod => pod.Tried) ∧
    forbidden.retries = 1 ∧ forbidden.summary = "1 evicted, 1 filtered-out, 1 failed" ∧
    forbidden.errorText =
      some "1 pod(s) not evicted: default/p1 failed: cannot evict: 403 Forbidden" ∧
    forbidden.Agrees ⟨"n1", forbidden.pods.reverse⟩ := by
  obtain ⟨path, reached⟩ := Program.Reaches.of_run Drain.smallCluster
    (Drain.smallExecutor.drain { name := "n1" }) ([0, 0, 1, 1, 6, 6, 20, 0, 1, 1, 10],
      [.error (.refused ⟨some 403, some "Forbidden"⟩),
        .error (.refused ⟨some 429, some "Too Many Requests"⟩), .ok ()])
  rw [run_forbidden] at reached
  obtain ⟨-, -, -, -, literal, reordered, drained⟩ := forbidden.adds_up
  have counted := drained Drain.smallExecutor { name := "n1" } path reached
  have turned := reordered ⟨"n1", forbidden.pods.reverse⟩ (List.reverse_perm _).symm
  exact ⟨⟨path, reached⟩, counted, literal counted, by decide, by decide +kernel, by decide +kernel,
    turned⟩

end DrainReport

end Evacuation
