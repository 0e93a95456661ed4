import Mathlib.Algebra.Group.Action.Defs
import Mathlib.Algebra.Ring.Int.Defs
import Evacuation.Proofs.Drain.Changes
import Evacuation.Proofs.Lists
/-!
# The account of a drain

A drain that comes to a report lists the pods of its node, judges them and evicts those that every
filter keeps, side by side and in any order (`Executor.Drains`). Its report is an account of that: it
names every listed pod once, those set aside first and as they were judged, and the retries it
counts are the requests for evictions beyond the first one of each pod (`Executor.accounts`). The
number of attempts in the report of a pod is counted along the path of its eviction
(`Executor.report_of_evict`), and the pool shares its path out among the evictions.
-/
namespace Evacuation

variable {T α : Type}

/-- The request is for none but some pods: it evicts one of them, or reads a pod of that name. -/
def World.Request.Within (pods : List Pod) : World.Request T → Prop
  | .call (.evict pod _) => pod ∈ pods
  | .call (.readPod name ns) => ∃ pod ∈ pods, pod.name = name ∧ pod.ns = ns
  | _ => True

/-- The request asks for an eviction. -/
def World.Request.isEviction : World.Request T → Bool
  | .call (.evict _ _) => true
  | _ => false

/-- An eviction is requested in the exchange. -/
def World.evicts (exchange : Exchange (World T)) : Bool :=
  World.Request.isEviction exchange.request

namespace World.Request

theorem Within.mono {pods more : List Pod} {request : World.Request T} (within : request.Within pods)
    (wider : pods ⊆ more) : request.Within more := by
  cases request with
  | call call =>
    cases call with
    | evict pod grace => exact wider within
    | readPod name ns =>
      obtain ⟨pod, listed, same⟩ := within
      exact ⟨pod, wider listed, same⟩
    | _ => trivial
  | _ => trivial

theorem IsLookup.within {request : World.Request T} (lookup : request.IsLookup) :
    request.Within [] := by
  cases request with
  | call call =>
    cases call with
    | evict | readPod => cases lookup
    | _ => trivial
  | _ => trivial

theorem of_isEviction {request : World.Request T} (evicts : request.isEviction = true) :
    ∃ pod grace, request = .call (.evict pod grace) := by
  cases request with
  | call call =>
    cases call with
    | evict pod grace => exact ⟨pod, grace, rfl⟩
    | _ => cases evicts
  | _ => cases evicts

theorem Within.isEviction_eq {request : World.Request T} (within : request.Within []) :
    request.isEviction = false := by
  cases request with
  | call call =>
    cases call with
    | evict => cases within
    | _ => rfl
  | _ => rfl

theorem IsLookAt.isEviction_eq {pod : Pod} {request : World.Request T}
    (look : request.IsLookAt pod) : request.isEviction = false := by
  cases request with
  | call call =>
    cases call with
    | evict => cases look
    | _ => rfl
  | _ => rfl

theorem IsFor.within {pod : Pod} {request : World.Request T} (own : request.IsFor pod) :
    request.Within [pod] := by
  cases request with
  | call call =>
    cases call with
    | evict evicted grace => exact List.mem_singleton.mpr own
    | readPod name ns => exact ⟨pod, List.mem_singleton_self pod, own.1.symm, own.2.symm⟩
    | _ => trivial
  | _ => trivial

end World.Request

namespace Work

/-- Work that asks for no eviction requests none on any path. -/
theorem countP_evicts_eq_zero {kind : (World T).Request → Prop} {work rest : Work T α}
    {path : List (Exchange (World T))} (only : work.Only kind)
    (sparing : ∀ request, kind request → World.Request.isEviction request = false)
    (reached : work.Reaches path rest) : path.countP World.evicts = 0 := by
  refine List.countP_eq_zero.mpr fun exchange asked => ?_
  rw [World.evicts, sparing _ (only.of_mem_path reached asked)]
  exact Bool.false_ne_true

/-- Work that asks once for an eviction in each turn, and for none in between, asks for as many as the
turns that are counted, and for one at least, unless the turns run out. -/
theorem countP_retry {work : Work T (Except Failure α)} {plan : Nat → Work T (Option T)}
    (once : ∀ {path result}, work.Reaches path (.done result) → path.countP World.evicts = 1)
    (planning : ∀ {attempt path pause}, (plan attempt).Reaches path (.done pause) →
      path.countP World.evicts = 0)
    {turns attempt count : Nat} {path : List (Exchange (World T))} {result : Except Failure α}
    (reached : (retry work plan turns attempt).Reaches path (.done (result, count)))
    (ended : result ≠ .error .outOfTurns) :
    1 ≤ path.countP World.evicts ∧ path.countP World.evicts + attempt = count + 1 := by
  obtain ⟨tries, worked, total, ⟨nonempty, numbered⟩ | ⟨spent, -⟩⟩ :=
    exists_tries planning (fun _ => rfl) reached
  · have each : ∀ asked ∈ tries.map (·.countP World.evicts), asked = 1 := by
      intro asked listed
      obtain ⟨tried, there, rfl⟩ := List.mem_map.mp listed
      obtain ⟨answer, working⟩ := worked tried there
      exact once working
    have sum := List.sum_eq_card_nsmul _ 1 each
    rw [List.length_map, smul_eq_mul, Nat.mul_one, ← List.countP_flatten, ← total] at sum
    have some_try : 1 ≤ tries.length := List.length_pos_iff.mpr nonempty
    omega
  · exact absurd spent ended

end Work

/-- The report of a pod names the pod and the number of requests by which it was to be evicted. -/
structure PodReport.Tells (report : PodReport) (pod : Pod) (requests : Nat) : Prop where
  ns : report.ns = pod.ns
  name : report.name = pod.name
  outcome : report.outcome ≠ .filteredOut
  attempts : report.attempts = requests
  requested : 1 ≤ requests

namespace PodReport

/-- One request is the first one, and all others are retries. -/
theorem Tells.retries_eq {report : PodReport} {pod : Pod} {requests : Nat}
    (tells : report.Tells pod requests) : (requests : Int) = report.retries + 1 := by
  have attempts := tells.attempts
  have requested := tells.requested
  rw [retries]
  omega

end PodReport

/-- The retries of a drain are those of all its pods. -/
theorem DrainReport.retries_eq_sum (report : DrainReport) :
    report.retries = (report.pods.map PodReport.retries).sum := by
  rw [DrainReport.retries]
  induction report.pods with
  | nil => rfl
  | cons first rest ih => rw [List.foldr_cons, List.map_cons, List.sum_cons, ih]

section Eviction

variable [TimeScale T]

/-- A pod whose eviction is refused is not set aside. -/
theorem Eviction.outcome_ofRefusal (refusal : Refusal) :
    (Eviction.ofRefusal refusal).1 ≠ .filteredOut := by
  unfold Eviction.ofRefusal
  split
  · exact Outcome.noConfusion
  · split <;> exact Outcome.noConfusion

/-- A pod whose eviction was accepted is not set aside. -/
theorem Eviction.outcome_of_follow {executor : Executor T} {pod : Pod} {grace : Int} {deadline : T}
    {path : List (Exchange (World T))} {ending : Outcome × String}
    (reached : (Eviction.follow executor pod grace deadline).Reaches path (.done (.ok ending))) :
    ending.1 ≠ .filteredOut := by
  unfold Eviction.follow at reached
  obtain ⟨_, _, now, rfl, _, onward⟩ := reached.of_bind_done
  split at onward
  · cases (Program.reaches_done_iff.mp onward).2
  obtain ⟨_, _, later, rfl, _, onward⟩ := onward.of_bind_done
  obtain ⟨_, _, gone, rfl, _, onward⟩ := onward.of_bind_done
  split at onward
  all_goals
    cases (Program.reaches_done_iff.mp onward).2
    try exact Outcome.noConfusion

/-- An eviction that comes to a report tells how often it was requested. -/
theorem Executor.report_of_evict {executor : Executor T} {pod : Pod}
    {path : List (Exchange (World T))} {report : PodReport}
    (reached : (executor.evict pod).Reaches path (.done (.ok report))) :
    report.Tells pod (path.countP World.evicts) := by
  unfold Executor.evict at reached
  obtain ⟨read, second, now, rfl, reading, onward⟩ := reached.of_bind_done
  obtain rfl := reading.of_request
  split at onward
  · cases (Program.reaches_done_iff.mp onward).2
  rename_i grace _
  obtain ⟨third, fourth, ⟨result, attempts⟩, rfl, requesting, onward⟩ := onward.of_bind_done
  have counted (ended : result ≠ .error .outOfTurns) :
      1 ≤ third.countP World.evicts ∧ attempts = third.countP World.evicts := by
    have once {path : List (Exchange (World T))} {answer : Except Failure Unit}
        (asked : (Work.evictPod (T := T) pod grace).Reaches path (.done answer)) :
        path.countP World.evicts = 1 := by
      obtain rfl := asked.of_request
      rfl
    have planning {attempt : Nat} {path : List (Exchange (World T))} {pause : Option T}
        (planned : (Eviction.plan executor.retryInterval (now + executor.timeLimit) attempt).Reaches
          path (.done pause)) : path.countP World.evicts = 0 := by
      have only : (Eviction.plan executor.retryInterval (now + executor.timeLimit) attempt).Only
          (World.Request.IsLookAt pod) := ⟨trivial, fun _ => ⟨trivial, fun _ => trivial⟩⟩
      exact Work.countP_evicts_eq_zero only (fun _ => World.Request.IsLookAt.isEviction_eq) planned
    obtain ⟨requested, total⟩ := Work.countP_retry once planning requesting ended
    exact ⟨requested, by omega⟩
  -- What follows the requests asks for no eviction.
  have whole {rest : List (Exchange (World T))} (quiet : rest.countP World.evicts = 0) :
      ([(⟨.clock, now⟩ : Exchange (World T))] ++ (third ++ rest)).countP World.evicts =
        third.countP World.evicts := by
    rw [List.countP_append, List.countP_append, quiet]
    exact Nat.zero_add _
  obtain failure | ⟨⟩ := result
  · cases failure with
    | refused refusal =>
      obtain ⟨rfl, same⟩ := Program.reaches_done_iff.mp onward
      cases same
      obtain ⟨requested, total⟩ := counted nofun
      rw [whole List.countP_nil]
      refine ⟨rfl, rfl, ?_, congrArg Nat.cast total, requested⟩
      exact Eviction.outcome_ofRefusal refusal
    | _ => cases (Program.reaches_done_iff.mp onward).2
  · obtain ⟨followed, last, ending, rfl, following, onward⟩ := onward.of_bind_done
    have quiet := Work.countP_evicts_eq_zero (Eviction.only_follow executor pod grace _)
      (fun _ => World.Request.IsLookAt.isEviction_eq) following
    cases ending with
    | error failure => cases (Program.reaches_done_iff.mp onward).2
    | ok ending =>
      obtain ⟨rfl, same⟩ := Program.reaches_done_iff.mp onward
      cases same
      obtain ⟨requested, total⟩ := counted nofun
      rw [List.append_nil, whole quiet]
      refine ⟨rfl, rfl, ?_, congrArg Nat.cast total, requested⟩
      exact Eviction.outcome_of_follow following

end Eviction

namespace Drain

/-- The pods that were judged are those kept and those set aside. -/
theorem perm_judged (judged : List (Pod × Verdict)) :
    ((setAside judged).map (fun report => (report.ns, report.name)) ++
      (kept judged).map fun pod => (pod.ns, pod.name)).Perm
        (judged.map fun entry => (entry.1.ns, entry.1.name)) := by
  induction judged with
  | nil => exact .refl []
  | cons entry rest ih =>
    obtain ⟨pod, _ | reason⟩ := entry
    · exact List.perm_middle.trans (ih.cons (pod.ns, pod.name))
    · exact ih.cons (pod.ns, pod.name)

/-- Pods that are set aside are reported so, without an attempt. -/
theorem of_mem_setAside {judged : List (Pod × Verdict)} {report : PodReport}
    (listed : report ∈ setAside judged) : report.outcome = .filteredOut ∧ report.attempts = 0 := by
  obtain ⟨⟨pod, _ | reason⟩, _, same⟩ := List.mem_filterMap.mp listed
  · cases same
  · cases same
    exact ⟨rfl, rfl⟩

/-- What is collected from results is all of them. -/
theorem eq_map_of_collect {results : List (Except Failure PodReport)} {reports : List PodReport}
    (collected : collect results = .ok reports) : results = reports.map .ok := by
  rw [← List.forall₂_eq_eq_eq, List.forall₂_map_right_iff]
  exact forall₂_of_mapM collected

end Drain

/-! ## Drains -/

variable [TimeScale T]

/-- A drain comes to a report along a path: the pods are listed, sorted, and those that are kept are
evicted side by side. -/
inductive Executor.Drains (executor : Executor T) (node : Node) :
    List (Exchange (World T)) → DrainReport → Prop where
  | drained {listing sorting evicting : List (Exchange (World T))} {pods evictable : List Pod}
      {aside evicted : List PodReport} {results : List (Except Failure PodReport)}
      (listed : (Work.podsOn node.name).Reaches listing (.done (.ok pods)))
      (sorted : (Drain.sortOut executor.filters pods).Reaches sorting
        (.done (.ok (aside, evictable))))
      (does : Pool.Does (Drain.workers executor.maxConcurrent evictable.length).toNat
        (evictable.map executor.evict) evicting results)
      (collected : Drain.collect results = .ok evicted) :
      Drains executor node (listing ++ (sorting ++ evicting)) ⟨node.name, aside ++ evicted⟩

/-- A drain whose evictions go through the worker pool is one of them. -/
theorem Executor.drains_of_reaches {executor : Executor T} {node : Node}
    {path : List (Exchange (World T))} {report : DrainReport}
    (reached : (executor.drain node).Reaches path (.done (.ok report))) :
    executor.Drains node path report := by
  generalize ended : Except.ok report = result at reached
  cases Executor.reaches_drain_iff.mp reached with
  | unlisted | unsorted | unevicted => cases ended
  | reported listed sorted evicted =>
    cases ended
    obtain none | ⟨results, does, collected⟩ := Drain.does_of_evictAll evicted
    · cases none
    · exact .drained listed sorted does collected

/-- The report of a drain is an account of what was done along the path: of the pods that were
listed, as they were judged, some have been set aside, and the others have reports of their own. -/
structure Executor.Accounts (executor : Executor T) (node : Node) (path : List (Exchange (World T)))
    (judged : List (Pod × Verdict)) (others : List PodReport) (report : DrainReport) : Prop where
  /-- The pods are those that the cluster listed. -/
  listed : (⟨.call (.listPods node.name), .ok (judged.map Prod.fst)⟩ : Exchange (World T)) ∈ path
  /-- They were judged by the filters. -/
  decided : ∀ entry ∈ judged, ∃ decision, decision <:+: path ∧
    (PodFilter.judgeAll executor.filters entry.1).Reaches decision (.done (.ok entry.2))
  /-- First come the pods that are set aside, in the order of the list. -/
  pods : report.pods = Drain.setAside judged ++ others
  /-- The others are, in some order, the pods that are kept. -/
  evicted : ∃ order, order.Perm (Drain.kept judged) ∧
    List.Forall₂ (fun (own : PodReport) (pod : Pod) => own.ns = pod.ns ∧ own.name = pod.name ∧
      own.outcome ≠ .filteredOut ∧ 1 ≤ own.attempts) others order
  /-- Every pod is reported once. -/
  once : (report.pods.map fun own => (own.ns, own.name)).Perm
    (judged.map fun entry => (entry.1.ns, entry.1.name))
  /-- No pod that is set aside is evicted or looked at. -/
  within : ∀ exchange ∈ path, World.Request.Within (Drain.kept judged) exchange.request
  /-- The eviction of every pod that is kept is requested. -/
  requested : ∀ pod ∈ Drain.kept judged, ∃ grace reply,
    (⟨.call (.evict pod grace), reply⟩ : Exchange (World T)) ∈ path
  /-- Requests beyond the first one of each pod are retries. -/
  requests : (path.countP World.evicts : Int) = report.retries + (Drain.kept judged).length
  succeeded : report.succeeded = true ↔
    ∀ own ∈ others, own.outcome ≠ .failed ∧ own.outcome ≠ .timedOut
  /-- An error is reported for a drain that did not succeed. -/
  faultless : report.errorText = none ↔ report.succeeded = true

/-- Evictions that are done side by side and all come to reports go their own ways to them. -/
theorem Drain.routes_of_does {executor : Executor T} {pods : List Pod} {workers : Nat}
    {path : List (Exchange (World T))} {results : List (Except Failure PodReport)}
    {reports : List PodReport}
    (does : Pool.Does workers (pods.map executor.evict) path results)
    (collected : Drain.collect results = .ok reports) :
    ∃ routes : List (List (Exchange (World T)) × PodReport),
      List.Forall₂ (fun pod route => (executor.evict pod).Reaches route.1 (.done (.ok route.2)))
        pods routes ∧
      Pool.Shares path (routes.map (·.1)) ∧ reports.Perm (routes.map (·.2)) := by
  obtain ⟨ways, each, shares, reported⟩ := does.shares
  rw [Drain.eq_map_of_collect collected] at reported
  have accepted : ∀ way ∈ ways, ∃ report, way.2 = .ok report := by
    intro way listed
    have there := reported.mem_iff.mpr (List.mem_map.mpr ⟨way, listed, rfl⟩)
    obtain ⟨report, _, same⟩ := List.mem_map.mp there
    exact ⟨report, same.symm⟩
  have routes : ∃ routes : List (List (Exchange (World T)) × PodReport),
      ways = routes.map fun route => (route.1, .ok route.2) := by
    clear each shares reported
    induction ways with
    | nil => exact ⟨[], rfl⟩
    | cons way ways ih =>
      obtain ⟨report, same⟩ := accepted way List.mem_cons_self
      obtain ⟨routes, rfl⟩ := ih fun way listed => accepted way (List.mem_cons_of_mem _ listed)
      exact ⟨(way.1, report) :: routes, congrArg (· :: _) (Prod.ext rfl same)⟩
  obtain ⟨routes, rfl⟩ := routes
  rw [List.forall₂_map_left_iff, List.forall₂_map_right_iff] at each
  rw [List.map_map] at shares reported
  refine ⟨routes, each, shares, ?_⟩
  have injective : Function.Injective (Except.ok : PodReport → Except Failure PodReport) :=
    fun _ _ same => Except.ok.inj same
  refine (List.map_perm_map_iff injective).mp ?_
  rw [List.map_map]
  exact reported

/-- What the reports of evictions tell, taken together. -/
theorem Drain.tells_of_routes {executor : Executor T} {pods : List Pod}
    {routes : List (List (Exchange (World T)) × PodReport)}
    (each : List.Forall₂ (fun pod route => (executor.evict pod).Reaches route.1 (.done (.ok route.2)))
      pods routes) :
    List.Forall₂ (fun pod (route : List (Exchange (World T)) × PodReport) =>
      route.2.Tells pod (route.1.countP World.evicts)) pods routes :=
  each.imp fun _ _ reached => Executor.report_of_evict reached

omit [TimeScale T] in
/-- A drain succeeds if no pod counts against it; pods that are set aside never do. -/
theorem Drain.succeeded_iff {node : String} {judged : List (Pod × Verdict)}
    {others : List PodReport} :
    DrainReport.succeeded ⟨node, Drain.setAside judged ++ others⟩ = true ↔
      ∀ own ∈ others, own.outcome ≠ .failed ∧ own.outcome ≠ .timedOut := by
  have fault (report : PodReport) : ¬ report.outcome.isFault = true ↔
      report.outcome ≠ .failed ∧ report.outcome ≠ .timedOut := by
    cases report.outcome <;> simp [Outcome.isFault]
  rw [DrainReport.succeeded, DrainReport.unevicted, List.isEmpty_iff, List.filter_eq_nil_iff]
  constructor
  · intro faultless own listed
    exact (fault own).mp (faultless own (List.mem_append_right _ listed))
  · intro spared report listed
    obtain aside | own := List.mem_append.mp listed
    · rw [(Drain.of_mem_setAside aside).1]
      exact Bool.false_ne_true
    · exact (fault report).mpr (spared report own)

omit [TimeScale T] in
/-- The retries of a drain are those of the evictions. -/
theorem Drain.retries_eq {node : String} {judged : List (Pod × Verdict)} {others : List PodReport}
    {routes : List (List (Exchange (World T)) × PodReport)}
    (reported : others.Perm (routes.map (·.2))) :
    DrainReport.retries ⟨node, Drain.setAside judged ++ others⟩ =
      (routes.map fun route => route.2.retries).sum := by
  have aside : ((Drain.setAside judged).map PodReport.retries).sum = 0 := by
    refine List.sum_eq_zero fun retries counted => ?_
    obtain ⟨report, there, rfl⟩ := List.mem_map.mp counted
    rw [PodReport.retries, (Drain.of_mem_setAside there).2]
    rfl
  calc
    DrainReport.retries ⟨node, Drain.setAside judged ++ others⟩
      = ((Drain.setAside judged ++ others).map PodReport.retries).sum :=
        DrainReport.retries_eq_sum _
    _ = (others.map PodReport.retries).sum := by
        rw [List.map_append, List.sum_append, aside, zero_add]
    _ = ((routes.map (·.2)).map PodReport.retries).sum :=
        (reported.map PodReport.retries).sum_eq
    _ = (routes.map fun route => route.2.retries).sum := by
        rw [List.map_map]
        rfl

omit [TimeScale T] in
/-- The requests of evictions that came to reports are one for each pod and the retries. -/
theorem Drain.sum_countP_routes {pods : List Pod}
    {routes : List (List (Exchange (World T)) × PodReport)}
    (tells : List.Forall₂ (fun pod (route : List (Exchange (World T)) × PodReport) =>
      route.2.Tells pod (route.1.countP World.evicts)) pods routes) :
    ((routes.map fun route => route.1.countP World.evicts).sum : Nat) =
      (routes.map fun route => route.2.retries).sum + (pods.length : Int) := by
  induction tells with
  | nil => rfl
  | cons first _ ih =>
    have own := first.retries_eq
    simp only [List.map_cons, List.sum_cons, List.length_cons]
    omega

omit [TimeScale T] in
/-- The reports of evictions name the pods. -/
theorem Drain.map_routes {pods : List Pod}
    {routes : List (List (Exchange (World T)) × PodReport)}
    (tells : List.Forall₂ (fun pod (route : List (Exchange (World T)) × PodReport) =>
      route.2.Tells pod (route.1.countP World.evicts)) pods routes) :
    (routes.map (·.2)).map (fun own => (own.ns, own.name)) =
      pods.map fun pod => (pod.ns, pod.name) := by
  induction tells with
  | nil => rfl
  | cons first _ ih =>
    rw [List.map_cons, List.map_cons, List.map_cons, ih, first.ns, first.name]

/-- Nothing is asked along a route but for its pod. -/
theorem Drain.within_route {executor : Executor T} {pods : List Pod} {pod : Pod}
    {route : List (Exchange (World T)) × PodReport} (listed : pod ∈ pods)
    (reached : (executor.evict pod).Reaches route.1 (.done (.ok route.2)))
    {exchange : Exchange (World T)} (asked : exchange ∈ route.1) :
    World.Request.Within pods exchange.request := by
  have own := (executor.only_evict pod).of_mem_path reached asked
  exact (World.Request.IsFor.within own).mono (List.cons_subset.mpr ⟨listed, List.nil_subset pods⟩)

/-- An eviction that came to a report was requested. -/
theorem Drain.evict_mem_route {executor : Executor T} {pod : Pod}
    {route : List (Exchange (World T)) × PodReport}
    (reached : (executor.evict pod).Reaches route.1 (.done (.ok route.2))) :
    ∃ grace reply, (⟨.call (.evict pod grace), reply⟩ : Exchange (World T)) ∈ route.1 := by
  have requested := (Executor.report_of_evict reached).requested
  obtain ⟨⟨request, reply⟩, asked, evicts⟩ := List.countP_pos_iff.mp requested
  have own := (executor.only_evict pod).of_mem_path reached asked
  obtain ⟨evicted, grace, rfl⟩ := World.Request.of_isEviction evicts
  obtain rfl : evicted = pod := own
  exact ⟨grace, reply, asked⟩

omit [TimeScale T] in
/-- An exchange of an eviction is not one of the pool. -/
theorem Drain.isTaskwork_of_evicts (exchange : Exchange (World T))
    (evicts : World.evicts exchange = true) : Pool.isTaskwork exchange = true := by
  obtain ⟨pod, grace, same⟩ := World.Request.of_isEviction evicts
  rw [Pool.isTaskwork, same]
  rfl

/-- What a pool is asked for within a drain is for its pods. -/
theorem Drain.within_of_shares {executor : Executor T} {pods : List Pod}
    {routes : List (List (Exchange (World T)) × PodReport)} {path : List (Exchange (World T))}
    (each : List.Forall₂ (fun pod route => (executor.evict pod).Reaches route.1 (.done (.ok route.2)))
      pods routes)
    (shares : Pool.Shares path (routes.map (·.1))) {exchange : Exchange (World T)}
    (asked : exchange ∈ path) : World.Request.Within pods exchange.request := by
  by_cases own : Pool.isTaskwork exchange = true
  · obtain ⟨way, listed, there⟩ := shares.of_mem_path asked own
    obtain ⟨route, chosen, rfl⟩ := List.mem_map.mp listed
    obtain ⟨pod, stands, reached⟩ := exists_mem_of_forall₂ each.flip chosen
    exact Drain.within_route stands reached there
  · have managed : World.Request.isManagement exchange.request = true := by
      simpa [Pool.isTaskwork] using own
    obtain ⟨request, reply⟩ := exchange
    cases request with
    | call call => cases managed
    | _ => trivial

/-- The report of a drain, however its evictions run and in whatever order they end, is an account of
the drain. -/
theorem Executor.accounts {executor : Executor T} {node : Node} {path : List (Exchange (World T))}
    {report : DrainReport} (drains : executor.Drains node path report) :
    ∃ judged others, executor.Accounts node path judged others report := by
  obtain @⟨listing, sorting, evicting, pods, evictable, aside, evicted, results, listed, sorted, does,
    collected⟩ := drains
  obtain ⟨judged, rfl, rfl, rfl, decided⟩ := Drain.judged_of_sortOut sorted
  obtain ⟨routes, each, shares, reported⟩ := Drain.routes_of_does does collected
  have tells := Drain.tells_of_routes each
  have names := Drain.map_routes tells
  have listing_spares : (Work.podsOn (T := T) node.name).Only (World.Request.Within []) :=
    Work.only_readAgain ⟨trivial, fun _ => trivial⟩ fun _ => trivial
  have sorting_spares : (Drain.sortOut (T := T) executor.filters (judged.map Prod.fst)).Only
      (World.Request.Within []) :=
    (Drain.only_sortOut _ _).mono fun _ lookup => World.Request.IsLookup.within lookup
  have decided_within : ∀ entry ∈ judged, ∃ decision,
      decision <:+: listing ++ (sorting ++ evicting) ∧
        (PodFilter.judgeAll executor.filters entry.1).Reaches decision (.done (.ok entry.2)) := by
    intro entry there
    obtain ⟨decision, part, decides⟩ := decided entry there
    exact ⟨decision, part.trans ⟨listing, evicting, by simp⟩, decides⟩
  have own : List.Forall₂ (fun (own : PodReport) (pod : Pod) => own.ns = pod.ns ∧
      own.name = pod.name ∧ own.outcome ≠ .filteredOut ∧ 1 ≤ own.attempts)
      (routes.map (·.2)) (Drain.kept judged) := by
    rw [List.forall₂_map_left_iff]
    refine tells.flip.imp fun route pod told => ⟨told.ns, told.name, told.outcome, ?_⟩
    have requested := told.requested
    rw [told.attempts]
    omega
  obtain ⟨order, ordered, perm⟩ := List.perm_comp_forall₂ reported own
  have once : ((Drain.setAside judged ++ evicted).map fun own => (own.ns, own.name)).Perm
      (judged.map fun entry => (entry.1.ns, entry.1.name)) := by
    have others := reported.map fun own => (own.ns, own.name)
    rw [names] at others
    rw [List.map_append]
    exact (others.append_left _).trans (Drain.perm_judged judged)
  have within : ∀ exchange ∈ listing ++ (sorting ++ evicting),
      World.Request.Within (Drain.kept judged) exchange.request := by
    intro exchange asked
    obtain early | asked := List.mem_append.mp asked
    · exact (listing_spares.of_mem_path listed early).mono (List.nil_subset _)
    obtain early | late := List.mem_append.mp asked
    · exact (sorting_spares.of_mem_path sorted early).mono (List.nil_subset _)
    · exact Drain.within_of_shares each shares late
  have requested : ∀ pod ∈ Drain.kept judged, ∃ grace reply,
      (⟨.call (.evict pod grace), reply⟩ : Exchange (World T)) ∈
        listing ++ (sorting ++ evicting) := by
    intro pod chosen
    obtain ⟨route, there, reached⟩ := exists_mem_of_forall₂ each chosen
    obtain ⟨grace, reply, asked⟩ := Drain.evict_mem_route reached
    have way : route.1 ∈ routes.map (·.1) := List.mem_map.mpr ⟨route, there, rfl⟩
    have stands := shares.mem_path way asked rfl
    exact ⟨grace, reply, List.mem_append_right _ (List.mem_append_right _ stands)⟩
  have requests : ((listing ++ (sorting ++ evicting)).countP World.evicts : Int) =
      DrainReport.retries ⟨node.name, Drain.setAside judged ++ evicted⟩ +
        (Drain.kept judged).length := by
    have sparing (request : World.Request T) (within : request.Within []) :
        request.isEviction = false := within.isEviction_eq
    rw [List.countP_append, List.countP_append,
      Work.countP_evicts_eq_zero listing_spares sparing listed,
      Work.countP_evicts_eq_zero sorting_spares sparing sorted, Nat.zero_add, Nat.zero_add,
      shares.countP_path Drain.isTaskwork_of_evicts, Drain.retries_eq reported, List.map_map]
    exact Drain.sum_countP_routes tells
  exact ⟨judged, evicted,
    { listed := List.mem_append_left _ (Work.ok_of_podsOn listed)
      decided := decided_within
      pods := rfl
      evicted := ⟨order, perm, ordered⟩
      once, within, requested, requests
      succeeded := Drain.succeeded_iff
      faultless := DrainReport.errorText_eq_none_iff _ }⟩

/-- Every drain that comes to a report accounts for each listed pod once, whatever the cluster
answers, however many pods are evicted at a time and in whatever order their evictions run and end;
and a drain that goes through the worker pool is such a drain. -/
theorem Executor.drain_accounts (executor : Executor T) (node : Node) :
    (∀ path report, (executor.drain node).Reaches path (.done (.ok report)) →
      executor.Drains node path report) ∧
    ∀ path report, executor.Drains node path report →
      ∃ judged others, executor.Accounts node path judged others report :=
  ⟨fun _ _ => Executor.drains_of_reaches, fun _ _ => Executor.accounts⟩

namespace Drain

/-- A cluster with three pods on every node, where evicted pods are gone at once. The state holds the
times that the clock will show and the answers that requests for evictions will get. -/
def smallCluster : Surroundings (World Rat) (List Rat × List (Except Failure Unit))
  | .call (.listPods _), state =>
    (.ok [{ name := "p1", ns := "default", node := "n1", uid := "u1" },
      { name := "mirror", ns := "kube-system", node := "n1", uid := "u2",
        annotations := Table.insert ∅ mirrorAnnotation "hash" },
      { name := "p2", ns := "default", node := "n1", uid := "u3" }], state)
  | .call (.evict _ _), (times, answer :: answers) => (answer, (times, answers))
  | .call _, state => (.error (.refused .notFound), state)
  | .clock, (time :: times, answers) => (time, (times, answers))
  | .clock, state => ((0 : Rat), state)
  | .sleep _, state | .openPool _ _, state | .resume _ _, state | .closePool _, state
  | .tell _, state => ((), state)

/-- An executor that evicts two pods of a node at a time. -/
def smallExecutor : Executor Rat :=
  { filters := [.staticPod]
    maxGrace := 480
    headroom := 30
    retryInterval := 5
    pollInterval := 1
    cordonAttempts := 5
    maxConcurrent := some 2
    turns := 3 }

/-- A pod is set aside, and of the two others the one whose eviction was refused at first ends
last. -/
theorem run_smallCluster : ((smallExecutor.drain { name := "n1" }).run smallCluster
    ([0, 0, 1, 1, 6, 6, 20, 0, 1, 1, 10],
      [.error (.refused ⟨some 429, some "Too Many Requests"⟩), .ok (), .ok ()])).1 =
    .ok ⟨"n1", [⟨"kube-system", "mirror", .filteredOut, "mirror pod of a static pod", 0⟩,
      ⟨"default", "p2", .evicted, "", 1⟩, ⟨"default", "p1", .evicted, "", 2⟩]⟩ := by
  decide +kernel

/-- Three requests for evictions account for two pods and one retry. -/
theorem drain_accounts_smallCluster : ∃ path judged others,
    smallExecutor.Drains { name := "n1" } path ⟨"n1",
      [⟨"kube-system", "mirror", .filteredOut, "mirror pod of a static pod", 0⟩,
        ⟨"default", "p2", .evicted, "", 1⟩, ⟨"default", "p1", .evicted, "", 2⟩]⟩ ∧
    smallExecutor.Accounts { name := "n1" } path judged others ⟨"n1",
      [⟨"kube-system", "mirror", .filteredOut, "mirror pod of a static pod", 0⟩,
        ⟨"default", "p2", .evicted, "", 1⟩, ⟨"default", "p1", .evicted, "", 2⟩]⟩ := by
  obtain ⟨path, reached⟩ := Program.Reaches.of_run smallCluster
    (smallExecutor.drain { name := "n1" }) ([0, 0, 1, 1, 6, 6, 20, 0, 1, 1, 10],
      [.error (.refused ⟨some 429, some "Too Many Requests"⟩), .ok (), .ok ()])
  rw [run_smallCluster] at reached
  obtain ⟨simulated, accounted⟩ := smallExecutor.drain_accounts { name := "n1" }
  have drains := simulated path _ reached
  obtain ⟨judged, others, accounts⟩ := accounted path _ drains
  exact ⟨path, judged, others, drains, accounts⟩

end Drain

end Evacuation
