import Evacuation.Drain.Drainer
import Evacuation.Proofs.Cluster.Reads
import Evacuation.Proofs.Drain.Stages
/-!
# What work changes in the cluster

Of all requests to the cluster two kinds change something that matters to pods: to disable scheduling
on a node and to evict a pod. Most work changes nothing (`Quiet`); a cordon patches its own node at
most. A drain evicts a pod only after the list of pods on its node was answered with the pod in it
and every filter kept the pod (`Executor.justified_of_drain`).
-/
namespace Evacuation

variable {T α β : Type}

/-- A change that matters to pods. -/
inductive Change where
  | patch (node : String)
  | evict (pod : Pod)

/-- The change that a request asks for, if it asks for one. -/
def World.Request.change? : World.Request T → Option Change
  | .call (.patchNode name) => some (.patch name)
  | .call (.evict pod _) => some (.evict pod)
  | _ => none

/-- The request looks a daemon set up, or is a pause. -/
def World.Request.IsLookup : World.Request T → Prop
  | .call (.readDaemonSet _ _) | .sleep _ => True
  | _ => False

/-- The request looks at a pod, reads the clock, or is a pause. -/
def World.Request.IsLookAt (pod : Pod) : World.Request T → Prop
  | .call (.readPod name ns) => name = pod.name ∧ ns = pod.ns
  | .clock | .sleep _ => True
  | _ => False

/-- The request evicts a pod, or is one of those by which it is looked after. -/
def World.Request.IsFor (pod : Pod) : World.Request T → Prop
  | .call (.evict evicted _) => evicted = pod
  | request => request.IsLookAt pod

theorem World.Request.IsLookup.change?_eq {request : World.Request T} (lookup : request.IsLookup) :
    request.change? = none := by
  cases request with
  | call call => cases call <;> first | rfl | cases lookup
  | _ => rfl

theorem World.Request.IsLookAt.isFor {pod : Pod} {request : World.Request T}
    (look : request.IsLookAt pod) : request.IsFor pod := by
  cases request with
  | call call =>
    cases call with
    | evict => cases look
    | _ => exact look
  | _ => exact look

theorem World.Request.IsFor.change_eq {pod : Pod} {request : World.Request T} {change : Change}
    (own : request.IsFor pod) (asked : request.change? = some change) : change = .evict pod := by
  cases request with
  | call call =>
    cases call with
    | evict evicted grace =>
      cases asked
      rw [show evicted = pod from own]
    | patchNode => cases own
    | _ => cases asked
  | _ => cases asked

namespace Work

/-- The work asks for no change but some. -/
abbrev Changes (some? : Change → Prop) (work : Work T α) : Prop :=
  work.Only fun request => ∀ change, World.Request.change? request = some change → some? change

/-- The work asks for no change. -/
abbrev Quiet (work : Work T α) : Prop := work.Changes fun _ => False

variable {allowed : Change → Prop}

/-- A request that asks for no change may be asked anywhere. -/
theorem changes_request {request : (World T).Request} (quiet : World.Request.change? request = none) :
    Changes allowed (Program.request request) := by
  refine ⟨fun change same => ?_, fun _ => trivial⟩
  rw [quiet] at same
  cases same

theorem Changes.mono {other : Change → Prop} {work : Work T α} (changes : work.Changes allowed)
    (wider : ∀ change, allowed change → other change) : work.Changes other :=
  Program.Only.mono changes fun _ kept change same => wider change (kept change same)

/-- Work that is repeated asks for nothing else than once, but for the pauses. -/
theorem only_retry {kind : (World T).Request → Prop} {work : Work T (Except Failure α)}
    {plan : Nat → Work T (Option T)} (once : work.Only kind)
    (planning : ∀ attempt, (plan attempt).Only kind) (pausing : ∀ span, kind (.sleep span))
    (turns attempt : Nat) : (retry work plan turns attempt).Only kind := by
  induction turns generalizing attempt with
  | zero => trivial
  | succ turns ih =>
    refine once.bind fun result => ?_
    split
    · split
      · refine (planning attempt).bind fun pause => ?_
        split
        · trivial
        · exact ⟨pausing _, fun _ => ih _⟩
      · trivial
    · trivial

/-- Work that is repeated asks for no other changes than once. -/
theorem changes_retry {work : Work T (Except Failure α)} {plan : Nat → Work T (Option T)}
    (once : work.Changes allowed) (planning : ∀ attempt, (plan attempt).Changes allowed)
    (turns attempt : Nat) : (retry work plan turns attempt).Changes allowed :=
  only_retry once planning (fun _ _ same => nomatch same) turns attempt

/-- A read that is sent again asks for nothing else than once, but for the pauses. -/
theorem only_readAgain [TimeScale T] {kind : (World T).Request → Prop}
    {read : Work T (Except Failure α)} (once : read.Only kind)
    (pausing : ∀ span, kind (.sleep span)) : (readAgain read).Only kind := by
  refine (only_retry once ?_ pausing _ _).bind fun _ => trivial
  exact fun attempt => trivial

theorem quiet_podsOn [TimeScale T] (node : String) : (podsOn (T := T) node).Quiet :=
  only_readAgain (changes_request rfl) fun _ _ same => nomatch same

theorem quiet_record (recorder : EventRecorder) (event : NodeEvent) :
    (record (T := T) recorder event).Quiet :=
  (changes_request rfl).bind fun _ => trivial

/-- The pods that a list names were answered to one of its requests. -/
theorem ok_of_podsOn [TimeScale T] {node : String} {path : List (Exchange (World T))}
    {pods : List Pod} (reached : (podsOn node).Reaches path (.done (.ok pods))) :
    ⟨.call (.listPods node), .ok pods⟩ ∈ path := by
  obtain ⟨refusals, reading⟩ := reaches_readAgain_iff.mp reached
  exact reading.mem

end Work

open Work

section Cordon

variable [TimeScale T]

/-- A cordon patches its own node at most. -/
theorem Executor.changes_cordon (executor : Executor T) (node : Node) :
    (executor.cordon node).Changes (· = .patch node.name) := by
  have attempt : (Cordon.attempt (T := T) node.name).Changes (· = .patch node.name) := by
    refine (changes_request rfl).bind fun read => ?_
    split
    · trivial
    · split
      · trivial
      · refine Program.Only.bind ⟨?_, fun _ => trivial⟩ fun _ => trivial
        rintro _ ⟨⟩
        rfl
  unfold Executor.cordon
  split
  · trivial
  · refine (changes_retry attempt ?_ _ _).bind fun result => ?_
    · exact fun attempt => trivial
    · split <;> trivial

end Cordon

section Drain

variable [TimeScale T]

theorem PodFilter.only_judge (filter : PodFilter) (pod : Pod) :
    (filter.judge (T := T) pod).Only World.Request.IsLookup := by
  unfold PodFilter.judge
  split
  · trivial
  · trivial
  · trivial
  · split
    · trivial
    · have read (owner : Owner) : (getDaemonSet (T := T) owner.name pod.ns).Only
          World.Request.IsLookup := only_readAgain ⟨trivial, fun _ => trivial⟩ fun _ => trivial
      refine (read _).bind fun found => ?_
      split <;> trivial
  · trivial

theorem PodFilter.only_judgeAll (filters : List PodFilter) (pod : Pod) :
    (PodFilter.judgeAll (T := T) filters pod).Only World.Request.IsLookup := by
  induction filters with
  | nil => trivial
  | cons filter rest ih =>
    refine (filter.only_judge pod).bind fun verdict => ?_
    split
    · exact ih
    · trivial

/-- To sort pods asks for nothing but whether daemon sets exist. -/
theorem Drain.only_sortOut (filters : List PodFilter) (pods : List Pod) :
    (Drain.sortOut (T := T) filters pods).Only World.Request.IsLookup := by
  induction pods with
  | nil => trivial
  | cons pod rest ih =>
    refine (PodFilter.only_judgeAll filters pod).bind fun verdict => ?_
    split
    · trivial
    · trivial
    · refine ih.bind fun sorted => ?_
      split
      · trivial
      · split <;> trivial

theorem Drain.quiet_sortOut (filters : List PodFilter) (pods : List Pod) :
    (Drain.sortOut (T := T) filters pods).Quiet :=
  (Drain.only_sortOut filters pods).mono fun _ lookup change same => by
    rw [World.Request.IsLookup.change?_eq lookup] at same
    cases same

theorem Eviction.only_awaitGone (pollInterval : T) (pod : Pod) (giveUp : T) (turns : Nat) :
    (Eviction.awaitGone pollInterval pod giveUp turns).Only (World.Request.IsLookAt pod) := by
  induction turns with
  | zero => trivial
  | succ turns ih =>
    refine Program.Only.bind ⟨⟨rfl, rfl⟩, fun _ => trivial⟩ fun look => ?_
    split
    · trivial
    · refine Program.Only.bind ⟨trivial, fun _ => trivial⟩ fun (now : T) => ?_
      dsimp only
      split
      · trivial
      · exact ⟨trivial, fun _ => ih⟩

theorem Eviction.only_follow (executor : Executor T) (pod : Pod) (grace : Int) (deadline : T) :
    (Eviction.follow executor pod grace deadline).Only (World.Request.IsLookAt pod) := by
  refine Program.Only.bind ⟨trivial, fun _ => trivial⟩ fun now => ?_
  split
  · trivial
  · refine Program.Only.bind ⟨trivial, fun _ => trivial⟩ fun later => ?_
    refine (Eviction.only_awaitGone _ pod _ _).bind fun gone => ?_
    split <;> trivial

/-- Nothing but evictions and looks at the pod, the clock and pauses belong to the eviction of a
pod. -/
theorem Executor.only_evict (executor : Executor T) (pod : Pod) :
    (executor.evict pod).Only (World.Request.IsFor pod) := by
  refine Program.Only.bind ⟨trivial, fun _ => trivial⟩ fun (now : T) => ?_
  split
  · trivial
  · rename_i grace _
    have request : (evictPod (T := T) pod grace).Only (World.Request.IsFor pod) :=
      ⟨rfl, fun _ => trivial⟩
    have planning (attempt : Nat) : (Eviction.plan executor.retryInterval
        (now + executor.timeLimit) attempt).Only (World.Request.IsFor pod) :=
      ⟨trivial, fun _ => ⟨trivial, fun _ => trivial⟩⟩
    refine (only_retry request planning (fun _ => trivial) _ _).bind fun (result, attempts) => ?_
    cases result with
    | error failure => cases failure <;> trivial
    | ok _ =>
      have following := Eviction.only_follow executor pod grace (now + executor.timeLimit)
      refine (following.mono fun _ look => look.isFor).bind fun ending => ?_
      cases ending <;> trivial

/-- An eviction evicts its own pod at most. -/
theorem Executor.changes_evict (executor : Executor T) (pod : Pod) :
    (executor.evict pod).Changes (· = .evict pod) :=
  (executor.only_evict pod).mono fun _ own _ asked => World.Request.IsFor.change_eq own asked

/-- A pool of workers asks for no changes but those of its pieces of work. -/
theorem WorkerPool.changes_run {allowed : Change → Prop} {tasks : List (Work T α)}
    (each : ∀ task ∈ tasks, task.Changes allowed) (workers : Nat) (name : String) :
    (WorkerPool.run workers name tasks).Changes allowed := by
  have perform (start : T) (times : List T) {tasks : List (Work T α)}
      (each : ∀ task ∈ tasks, task.Changes allowed) :
      (WorkerPool.perform start times tasks).Changes allowed := by
    induction tasks generalizing times with
    | nil => trivial
    | cons task rest ih =>
      refine (changes_request rfl).bind fun _ => ?_
      refine (each task List.mem_cons_self).bind fun _ => ?_
      refine (changes_request rfl).bind fun finish => ?_
      exact (ih _ fun task listed => each task (List.mem_cons_of_mem _ listed)).bind fun _ =>
        trivial
  refine (changes_request rfl).bind fun start => ?_
  refine (changes_request rfl).bind fun _ => ?_
  refine (perform start _ each).bind fun _ => ?_
  exact (changes_request rfl).bind fun _ => trivial

/-- Only the given pods are evicted. -/
theorem Drain.changes_evictAll (executor : Executor T) (node : String) (pods : List Pod) :
    (Drain.evictAll executor node pods).Changes fun change => ∃ pod ∈ pods, change = .evict pod := by
  unfold Drain.evictAll
  split
  · trivial
  · dsimp only
    split
    · trivial
    · refine (WorkerPool.changes_run ?_ _ _).bind fun _ => trivial
      intro task listed
      obtain ⟨pod, chosen, rfl⟩ := List.mem_map.mp listed
      exact (executor.changes_evict pod).mono fun _ same => ⟨pod, chosen, same⟩

/-- A pod that is to be evicted was listed, and every filter kept it. -/
theorem Drain.kept_of_sortOut {filters : List PodFilter} {pods evictable : List Pod}
    {aside : List PodReport} {path : List (Exchange (World T))}
    (reached : (Drain.sortOut filters pods).Reaches path (.done (.ok (aside, evictable)))) :
    ∀ pod ∈ evictable, pod ∈ pods ∧ ∃ judged, judged <:+: path ∧
      (PodFilter.judgeAll filters pod).Reaches judged (.done (.ok .keep)) := by
  intro pod chosen
  obtain ⟨judged, rfl, -, rfl, each⟩ := judged_of_sortOut reached
  have entry := mem_kept_iff.mp chosen
  exact ⟨List.mem_map.mpr ⟨_, entry, rfl⟩, each _ entry⟩

/-- The list of pods on a node was answered on the path with the pod in it, and every filter kept the
pod. -/
def Executor.Justified (executor : Executor T) (node : String) (path : List (Exchange (World T)))
    (pod : Pod) : Prop :=
  ∃ pods : List Pod, (⟨.call (.listPods node), .ok pods⟩ : Exchange (World T)) ∈ path ∧ pod ∈ pods ∧
    ∃ judged, judged <:+: path ∧
      (PodFilter.judgeAll executor.filters pod).Reaches judged (.done (.ok .keep))

/-- Whatever a drain changes in the cluster is that it evicts a pod, and with good cause. -/
theorem Executor.justified_of_drain {executor : Executor T} {node : Node}
    {path : List (Exchange (World T))} {request : (World T).Request}
    {next : (World T).Reply request → Work T (Except Failure DrainReport)} {change : Change}
    (reached : (executor.drain node).Reaches path (.ask request next))
    (asked : World.Request.change? request = some change) :
    ∃ pod, change = .evict pod ∧ executor.Justified node.name path pod := by
  obtain ⟨_, listing⟩ | ⟨first, second, listed, rfl, listing, onward⟩ := reached.of_bind_ask
  · exact ((quiet_podsOn node.name).of_reaches listing change asked).elim
  cases listed with
  | error failure => cases failure <;> cases (Program.reaches_done_iff.mp onward).2
  | ok pods =>
    obtain ⟨_, sorting⟩ | ⟨third, fourth, sorted, rfl, sorting, evicting⟩ := onward.of_bind_ask
    · exact ((Drain.quiet_sortOut _ _).of_reaches sorting change asked).elim
    obtain failure | ⟨aside, evictable⟩ := sorted
    · cases (Program.reaches_done_iff.mp evicting).2
    obtain ⟨_, evicting⟩ | ⟨_, _, evicted, _, _, ended⟩ := evicting.of_bind_ask
    · obtain ⟨pod, chosen, rfl⟩ :=
        (Drain.changes_evictAll executor node.name evictable).of_reaches evicting change asked
      obtain ⟨there, judged, part, kept⟩ := Drain.kept_of_sortOut sorting pod chosen
      refine ⟨pod, rfl, pods, List.mem_append_left _ (ok_of_podsOn listing), there, judged, ?_, kept⟩
      exact part.trans ⟨first, fourth, by simp⟩
    · cases evicted <;> cases (Program.reaches_done_iff.mp ended).2

end Drain

end Evacuation
