import Evacuation.Rehearsal.Cluster
import Evacuation.Proofs.Cordon.Attempts
import Evacuation.Proofs.Drain.Changes
/-!
# What a cordon does to the cluster

A cluster answers truthfully if a request that fails has no effect, and no node that is there is said
to be missing (`Cluster.Answers`); apart from that it may refuse whatever it likes. A cordon then does
all it is to do or nothing: the main statement, `Executor.cordon_effect`, says that a cordon that
returns leaves its node absent or unschedulable, that one that fails leaves the cluster as it was, and
that after a return further cordons do nothing as long as others leave the node alone. It rests on one
attempt (`Cordon.Attempt.effect`): only the accepted patch of a schedulable node changes anything, and
no attempt follows it.
-/
namespace Evacuation

variable {T : Type}

namespace Rehearsal.Cluster

/-- The cluster with the scheduling of one of its nodes disabled. -/
def cordonNode (cluster : Cluster T) (name : String) (node : Node) : Cluster T :=
  { cluster with nodes := cluster.nodes.insert name node.cordoned }

/-- The failure of a request about a node does not say that a node is missing which is there. -/
def Truthful (cluster : Cluster T) (name : String) (failure : Failure) : Prop :=
  ∀ refusal, failure = .refused refusal → refusal.status = some 404 → cluster.nodes.get? name = none

/-- The cluster truthfully answers a request about a node, or waits, and becomes another one. -/
inductive Answers : Cluster T → Exchange (World T) → Cluster T → Prop where
  | read {cluster : Cluster T} {name : String} {node : Node}
      (found : cluster.nodes.get? name = some node) :
      Answers cluster ⟨.call (.readNode name), .ok node⟩ cluster
  | unread {cluster : Cluster T} {name : String} {failure : Failure}
      (truthful : cluster.Truthful name failure) :
      Answers cluster ⟨.call (.readNode name), .error failure⟩ cluster
  | patched {cluster : Cluster T} {name : String} {node : Node}
      (found : cluster.nodes.get? name = some node) :
      Answers cluster ⟨.call (.patchNode name), .ok ()⟩ (cluster.cordonNode name node)
  | unpatched {cluster : Cluster T} {name : String} {failure : Failure}
      (truthful : cluster.Truthful name failure) :
      Answers cluster ⟨.call (.patchNode name), .error failure⟩ cluster
  | slept {cluster : Cluster T} (span : T) : Answers cluster ⟨.sleep span, ()⟩ cluster

/-- The exchanges of a path, truthfully answered one after another, lead to a cluster. -/
inductive Leads : Cluster T → List (Exchange (World T)) → Cluster T → Prop where
  | here (cluster : Cluster T) : Leads cluster [] cluster
  | next {cluster middle after : Cluster T} {exchange : Exchange (World T)}
      {path : List (Exchange (World T))} (answers : cluster.Answers exchange middle)
      (onward : Leads middle path after) : Leads cluster (exchange :: path) after

/-- A path that begins with an exchange leads on from the cluster after it. -/
theorem Leads.uncons {cluster after : Cluster T} {exchange : Exchange (World T)}
    {path : List (Exchange (World T))} (leads : Leads cluster (exchange :: path) after) :
    ∃ middle, cluster.Answers exchange middle ∧ Leads middle path after := by
  cases leads with
  | next answers onward => exact ⟨_, answers, onward⟩

/-- A single exchange leads to the cluster after it. -/
theorem Leads.single {cluster after : Cluster T} {exchange : Exchange (World T)}
    (leads : Leads cluster [exchange] after) : cluster.Answers exchange after := by
  obtain ⟨middle, answers, onward⟩ := leads.uncons
  cases onward
  exact answers

/-- A path in two parts leads by a cluster between them. -/
theorem Leads.split {cluster after : Cluster T} {first second : List (Exchange (World T))}
    (leads : Leads cluster (first ++ second) after) :
    ∃ middle, Leads cluster first middle ∧ Leads middle second after := by
  induction first generalizing cluster with
  | nil => exact ⟨cluster, .here _, leads⟩
  | cons exchange first ih =>
    obtain ⟨next, answers, onward⟩ := leads.uncons
    obtain ⟨middle, before, after⟩ := ih onward
    exact ⟨middle, .next answers before, after⟩

/-- A node is absent, or unschedulable. -/
def Settled (cluster : Cluster T) (name : String) : Prop :=
  ∀ node, cluster.nodes.get? name = some node → node.isUnschedulable = true

/-- A cordoned node is settled. -/
theorem settled_cordonNode (cluster : Cluster T) (name : String) (node : Node) :
    (cluster.cordonNode name node).Settled name := by
  intro found there
  rw [cordonNode, Table.get?_insert, if_pos rfl] at there
  cases there
  exact node.isUnschedulable_cordoned

/-- A failure that truthfully says that a node is missing is about a node that is settled. -/
theorem Truthful.settled {cluster : Cluster T} {name : String} {failure : Failure}
    (truthful : cluster.Truthful name failure) {refusal : Refusal} (refused : failure = .refused refusal)
    (missing : refusal.status = some 404) : cluster.Settled name := by
  intro node there
  rw [truthful refusal refused missing] at there
  cases there

end Rehearsal.Cluster

open Rehearsal

namespace Cordon

variable {name : String} {cluster after : Cluster T}

/-! ## Attempts -/

/-- What a truthful cluster had to be for the answers that an attempt got, and what it became. -/
def Attempt.Meets (name : String) (cluster after : Cluster T) : Attempt → Prop
  | .unread failure => cluster.Truthful name failure ∧ after = cluster
  | .closed fresh _ => cluster.nodes.get? name = some fresh ∧ after = cluster
  | .patched fresh _ (.error failure) =>
    cluster.nodes.get? name = some fresh ∧ cluster.Truthful name failure ∧ after = cluster
  | .patched fresh _ (.ok ()) =>
    cluster.nodes.get? name = some fresh ∧ after = cluster.cordonNode name fresh

theorem Attempt.meets_of_leads {attempt : Attempt} (leads : cluster.Leads (attempt.path name) after) :
    attempt.Meets name cluster after := by
  cases attempt with
  | unread failure =>
    cases leads.single with
    | unread truthful => exact ⟨truthful, rfl⟩
  | closed fresh unschedulable =>
    cases leads.single with
    | read found => exact ⟨found, rfl⟩
  | patched fresh schedulable answer =>
    obtain ⟨middle, reading, onward⟩ := leads.uncons
    cases reading with
    | read found =>
      cases onward.single with
      | unpatched truthful => exact ⟨found, truthful, rfl⟩
      | patched there =>
        rw [found] at there
        cases there
        exact ⟨found, rfl⟩

/-- An attempt changes the cluster only by its patch of a schedulable node, and then it was decided. If
it was decided otherwise, the node was settled before. -/
theorem Attempt.effect {attempt : Attempt} (leads : cluster.Leads (attempt.path name) after) :
    after = cluster ∧ (attempt.Decided → cluster.Settled name) ∨
      attempt.Decided ∧ ∃ node, cluster.nodes.get? name = some node ∧
        node.isUnschedulable = false ∧ after = cluster.cordonNode name node := by
  have meets := meets_of_leads leads
  have missing {failure : Failure} (truthful : cluster.Truthful name failure) (left : attempt.Decided)
      (ended : attempt.answer = .error failure) : cluster.Settled name := by
    obtain accepted | ⟨refusal, refused, missing⟩ := left
    · rw [ended] at accepted
      cases accepted
    · rw [ended] at refused
      cases refused
      exact truthful.settled rfl missing
  cases attempt with
  | unread failure => exact .inl ⟨meets.2, fun decided => missing meets.1 decided rfl⟩
  | closed fresh unschedulable =>
    refine .inl ⟨meets.2, fun _ node there => ?_⟩
    rw [meets.1] at there
    cases there
    exact unschedulable
  | patched fresh schedulable answer =>
    cases answer with
    | error failure => exact .inl ⟨meets.2.2, fun decided => missing meets.2.1 decided rfl⟩
    | ok value => exact .inr ⟨.inl rfl, fresh, meets.1, schedulable, meets.2⟩

/-- An attempt leaves a cluster alone whose node is settled, and sends no patch. -/
theorem Attempt.still {attempt : Attempt} (settled : cluster.Settled name)
    (leads : cluster.Leads (attempt.path name) after) :
    after = cluster ∧ World.patches (attempt.path name : List (Exchange (World T))) = [] := by
  have meets := meets_of_leads leads
  cases attempt with
  | unread failure => exact ⟨meets.2, rfl⟩
  | closed fresh unschedulable => exact ⟨meets.2, rfl⟩
  | patched fresh schedulable answer =>
    have found : cluster.nodes.get? name = some fresh := by cases answer <;> exact meets.1
    rw [settled fresh found] at schedulable
    cases schedulable

/-! ## Cordons -/

variable [TimeScale T]

/-- If no attempt changes the cluster, neither do any number of them, and each of them finds it as it
was. -/
theorem leads_rounds {attempts : List Attempt} {number : Nat}
    (leads : cluster.Leads (rounds name number attempts) after)
    (still : ∀ attempt ∈ attempts, ∀ after, cluster.Leads (attempt.path name) after → after = cluster) :
    after = cluster ∧ ∀ attempt ∈ attempts, cluster.Leads (attempt.path name) cluster := by
  induction attempts generalizing number with
  | nil =>
    cases leads
    exact ⟨rfl, List.forall_mem_nil _⟩
  | cons attempt attempts ih =>
    obtain ⟨first, trying, pausing⟩ := leads.split
    obtain ⟨stays, others⟩ := List.forall_mem_cons.mp still
    obtain rfl := stays first trying
    obtain ⟨_, ⟨⟩, onward⟩ := pausing.uncons
    obtain ⟨rfl, found⟩ := ih onward others
    exact ⟨rfl, List.forall_mem_cons.mpr ⟨trying, found⟩⟩

/-- Attempts that send no patch send none with their pauses. -/
theorem patches_rounds {attempts : List Attempt} (number : Nat)
    (unpatched : ∀ attempt ∈ attempts,
      World.patches (attempt.path name : List (Exchange (World T))) = []) :
    World.patches (rounds name number attempts : List (Exchange (World T))) = [] := by
  induction attempts generalizing number with
  | nil => rfl
  | cons attempt attempts ih =>
    obtain ⟨first, others⟩ := List.forall_mem_cons.mp unpatched
    rw [rounds, World.patches_append, first, List.nil_append]
    exact ih (number + 1) others

/-- A whole cordon changes the cluster as its last attempt does. -/
theorem Course.effect {limit : Nat} {path : List (Exchange (World T))} {attempts : List Attempt}
    {last : Attempt} (course : Course name limit path attempts last) (leads : cluster.Leads path after) :
    after = cluster ∧ (last.Decided → cluster.Settled name) ∨
      last.Decided ∧ ∃ node, cluster.nodes.get? name = some node ∧
        node.isUnschedulable = false ∧ after = cluster.cordonNode name node := by
  rw [course.path_eq] at leads
  obtain ⟨middle, trying, ending⟩ := leads.split
  have still : ∀ attempt ∈ attempts, ∀ after, cluster.Leads (attempt.path name) after →
      after = cluster := by
    intro attempt there after leads
    obtain ⟨same, -⟩ | ⟨decided, -⟩ := Attempt.effect leads
    · exact same
    · exact absurd decided (course.passing attempt there).undecided
  obtain ⟨rfl, -⟩ := leads_rounds trying still
  exact Attempt.effect ending

/-- A whole cordon leaves a cluster alone whose node is settled, and sends no patch. -/
theorem Course.still {limit : Nat} {path : List (Exchange (World T))} {attempts : List Attempt}
    {last : Attempt} (course : Course name limit path attempts last) (settled : cluster.Settled name)
    (leads : cluster.Leads path after) : after = cluster ∧ World.patches path = [] := by
  rw [course.path_eq] at leads ⊢
  obtain ⟨middle, trying, ending⟩ := leads.split
  obtain ⟨rfl, found⟩ :=
    leads_rounds trying fun attempt _ after leads => (Attempt.still settled leads).1
  obtain ⟨same, unpatched⟩ := Attempt.still settled ending
  have unpatched_before :=
    patches_rounds 1 fun attempt there => (Attempt.still settled (found attempt there)).2
  rw [World.patches_append, unpatched_before, unpatched]
  exact ⟨same, rfl⟩

end Cordon

open Cordon

variable [TimeScale T]

/-- A cordon of a settled node, whatever its snapshot, changes nothing and sends no patch. -/
theorem Executor.cordon_still {executor : Executor T} {node : Node} {path : List (Exchange (World T))}
    {result : Except Failure Unit} {cluster after : Cluster T} (settled : cluster.Settled node.name)
    (reached : (executor.cordon node).Reaches path (.done result)) (leads : cluster.Leads path after) :
    after = cluster ∧ World.patches path = [] := by
  cases snapshot : node.isUnschedulable with
  | true =>
    obtain ⟨rfl, -⟩ := (reaches_cordon_closed_iff snapshot).mp reached
    cases leads
    exact ⟨rfl, rfl⟩
  | false =>
    obtain ⟨attempts, last, course, -⟩ := (reaches_cordon_iff snapshot).mp reached
    exact course.still settled leads

/-- What becomes of a cluster while others leave a node alone: the node is cordoned again, by any
executor and with any snapshot, and other things change. -/
inductive Rehearsal.Cluster.LeftAlone (name : String) : Cluster T → Cluster T → Prop where
  | here (cluster : Cluster T) : LeftAlone name cluster cluster
  | cordoned {executor : Executor T} {node : Node} {path : List (Exchange (World T))}
      {result : Except Failure Unit} {cluster middle after : Cluster T} (named : node.name = name)
      (reached : (executor.cordon node).Reaches path (.done result))
      (leads : cluster.Leads path middle) (onward : LeftAlone name middle after) :
      LeftAlone name cluster after
  | changed {cluster middle after : Cluster T}
      (same : middle.nodes.get? name = cluster.nodes.get? name)
      (onward : LeftAlone name middle after) : LeftAlone name cluster after

/-- A settled node that is left alone stays settled. -/
theorem Rehearsal.Cluster.LeftAlone.settled {name : String} {cluster after : Cluster T}
    (leftAlone : cluster.LeftAlone name after) (settled : cluster.Settled name) :
    after.Settled name := by
  induction leftAlone with
  | here => exact settled
  | cordoned named reached leads _ ih =>
    subst named
    obtain ⟨rfl, -⟩ := Executor.cordon_still settled reached leads
    exact ih settled
  | changed same _ ih =>
    refine ih fun node there => settled node ?_
    rwa [same] at there

/-- What a cordon of a node with some result does to a cluster. -/
structure Cordon.Effect (name : String) (result : Except Failure Unit) (cluster after : Cluster T) :
    Prop where
  returned : result = .ok () → after.Settled name
  raised : ∀ failure, result = .error failure → after = cluster
  /-- At most the scheduling of the node is disabled. -/
  change : after = cluster ∨ ∃ node, cluster.nodes.get? name = some node ∧
    after = { cluster with nodes := cluster.nodes.insert name node.cordoned }
  others : ∀ other, other ≠ name → after.nodes.get? other = cluster.nodes.get? other
  pods : after.actors = cluster.actors
  /-- As long as others leave the node alone, further cordons of it change nothing, and none of them
  sends a patch. -/
  lasting : result = .ok () → ∀ later, after.LeftAlone name later →
    ∀ (executor : Executor T) (node : Node) (path : List (Exchange (World T)))
      (result : Except Failure Unit) (last : Cluster T), node.name = name →
      (executor.cordon node).Reaches path (.done result) → later.Leads path last →
        last = later ∧ World.patches path = []

/-- In a cluster that answers truthfully, a cordon disables the scheduling of its node or changes
nothing, and once it has returned there is nothing left to do. -/
theorem Executor.cordon_effect (executor : Executor T) (node : Node)
    (schedulable : node.isUnschedulable = false) (path : List (Exchange (World T)))
    (result : Except Failure Unit) (reached : (executor.cordon node).Reaches path (.done result))
    (cluster after : Cluster T) (leads : cluster.Leads path after) :
    Cordon.Effect node.name result cluster after := by
  obtain ⟨attempts, last, course, verdict⟩ := (reaches_cordon_iff schedulable).mp reached
  have effect := course.effect leads
  have settled (returned : result = .ok ()) : after.Settled node.name := by
    obtain ⟨rfl, before⟩ | ⟨-, found, -, -, rfl⟩ := effect
    · exact before (verdict.returns.mp returned)
    · exact cluster.settled_cordonNode node.name found
  exact
    { returned := settled
      raised := by
        rintro failure rfl
        obtain ⟨same, -⟩ | ⟨decided, -⟩ := effect
        · exact same
        · cases verdict.returns.mpr decided
      change := by
        obtain ⟨same, -⟩ | ⟨-, found, there, -, same⟩ := effect
        · exact .inl same
        · exact .inr ⟨found, there, same⟩
      others := by
        intro other apart
        obtain ⟨rfl, -⟩ | ⟨-, found, -, -, rfl⟩ := effect
        · rfl
        · rw [Cluster.cordonNode, Table.get?_insert, if_neg apart.symm]
      pods := by obtain ⟨rfl, -⟩ | ⟨-, found, -, -, rfl⟩ := effect <;> rfl
      lasting := by
        rintro returned later leftAlone executor' node' path' result' last' named reached' leads'
        have still := leftAlone.settled (settled returned)
        rw [← named] at still
        exact cordon_still still reached' leads' }

/-! ## Clusters that are asked -/

/-- The request is one of those that a cordon sends, or a pause. -/
def World.Request.IsForCordon : World.Request T → Prop
  | .call (.readNode _) | .call (.patchNode _) | .sleep _ => True
  | _ => False

theorem Executor.only_cordon (executor : Executor T) (node : Node) :
    (executor.cordon node).Only World.Request.IsForCordon := by
  have attempting : (Cordon.attempt (T := T) node.name).Only World.Request.IsForCordon := by
    refine Program.Only.bind ⟨trivial, fun _ => trivial⟩ fun seen => ?_
    split
    · trivial
    · split
      · trivial
      · exact Program.Only.bind ⟨trivial, fun _ => trivial⟩ fun _ => trivial
  unfold cordon
  split
  · trivial
  · have planning (number : Nat) : (Cordon.plan (T := T) executor.cordonAttempts number).Only
        World.Request.IsForCordon := trivial
    refine (Work.only_retry attempting planning (fun _ => trivial) _ _).bind fun outcome => ?_
    split <;> trivial

namespace Rehearsal.Cluster

/-- In these surroundings a cluster truthfully answers what a cordon asks. -/
def KeptIn {σ : Type} (surroundings : Surroundings (World T) σ) (cluster : σ → Cluster T) : Prop :=
  ∀ (request : World.Request T) (state : σ), request.IsForCordon →
    (cluster state).Answers ⟨request, (surroundings request state).1⟩
      (cluster (surroundings request state).2)

omit [TimeScale T] in
/-- The course of a cordon in such surroundings leads to the cluster that is left. -/
theorem KeptIn.leads {σ α : Type} {surroundings : Surroundings (World T) σ} {cluster : σ → Cluster T}
    (kept : KeptIn surroundings cluster) {work : Work T α} (only : work.Only World.Request.IsForCordon)
    (state : σ) : (cluster state).Leads (work.course surroundings state)
      (cluster (work.run surroundings state).2) := by
  induction work generalizing state with
  | done value => exact .here _
  | ask request next ih => exact .next (kept request state only.1) (ih _ (only.2 _) _)

omit [TimeScale T] in
/-- A request about a node may be refused with any failure that is truthful. -/
theorem answers_failure {cluster : Cluster T} {call : Call} {failure : Failure} {name : String}
    (about : call = .readNode name ∨ call = .patchNode name) (truthful : cluster.Truthful name failure) :
    cluster.Answers ⟨.call call, .error failure⟩ cluster := by
  obtain rfl | rfl := about
  · exact .unread truthful
  · exact .unpatched truthful

/-- A cluster held in memory answers requests about nodes truthfully. -/
theorem answers_answer (cluster : Cluster T) (now : T) {call : Call} {name : String}
    (about : call = .readNode name ∨ call = .patchNode name) :
    cluster.Answers ⟨.call call, (cluster.answer now call).1⟩ (cluster.answer now call).2 := by
  cases found : cluster.nodes.get? name with
  | none =>
    have same : cluster.answer now call = (missing, cluster) := by
      obtain rfl | rfl := about <;> simp only [answer, found]
    rw [same]
    exact answers_failure about fun _ _ _ => found
  | some node =>
    obtain rfl | rfl := about
    · simp only [answer, found]
      exact .read found
    · simp only [answer, found]
      exact .patched found

end Rehearsal.Cluster

namespace Cordon

/-- A cluster held in memory, with the refusals that are still to come instead of its answers. -/
structure Stage where
  cluster : Cluster Rat
  refusals : List (Option Refusal)

/-- What the next request is refused with. That an object is missing is left to the cluster to say. -/
def Stage.refusal? (stage : Stage) : Option Refusal :=
  (stage.refusals.headD none).filter (!·.isNotFound)

/-- The cluster answers where it is not told to refuse. -/
def Stage.answer (stage : Stage) (call : Call) : Except Failure call.Answer × Stage :=
  match stage.refusal? with
  | some refusal => (.error (.refused refusal), { stage with refusals := stage.refusals.tail })
  | none =>
    let answered := stage.cluster.answer 0 call
    (answered.1, ⟨answered.2, stage.refusals.tail⟩)

/-- A cluster on a stage, with a clock that stands still. -/
def staged : Surroundings (World Rat) Stage
  | .call call, stage => stage.answer call
  | .clock, stage => ((0 : Rat), stage)
  | .sleep _, stage | .openPool _ _, stage | .resume _ _, stage | .closePool _, stage
  | .tell _, stage => ((), stage)

theorem Stage.answers_answer (stage : Stage) {call : Call} {name : String}
    (about : call = .readNode name ∨ call = .patchNode name) :
    stage.cluster.Answers ⟨.call call, (stage.answer call).1⟩ (stage.answer call).2.cluster := by
  cases told : stage.refusal? with
  | none =>
    simp only [Stage.answer, told]
    exact stage.cluster.answers_answer 0 about
  | some refusal =>
    simp only [Stage.answer, told]
    refine Cluster.answers_failure about ?_
    rintro _ ⟨⟩ missing
    have known := (Option.filter_eq_some_iff.mp told).2
    simp [Refusal.isNotFound, missing] at known

theorem keptIn_staged : Cluster.KeptIn staged Stage.cluster := by
  intro request stage asked
  cases request with
  | call call =>
    cases call with
    | readNode name => exact stage.answers_answer (.inl rfl)
    | patchNode name => exact stage.answers_answer (.inr rfl)
    | _ => cases asked
  | sleep span => exact .slept span
  | _ => cases asked

/-- Two nodes, of which one is first not read, then not patched, and cordoned at last. -/
def cordonedThird : Stage :=
  { cluster := { nodes := .ofList [("n1", openNode), ("n2", { name := "n2" })] }
    refusals := [some ⟨some 500, some "Oops"⟩, none, some ⟨some 409, some "Conflict"⟩] }

theorem run_cordonedThird :
    ((patientExecutor.cordon openNode).run staged cordonedThird).1 = .ok () := by
  decide +kernel

/-- A cordon with two refusals has its effect nonetheless. -/
theorem effect_cordonedThird :
    let left := ((patientExecutor.cordon openNode).run staged cordonedThird).2.cluster
    openNode.isUnschedulable = false ∧ Cordon.Effect "n1" (.ok ()) cordonedThird.cluster left := by
  have reached := Program.Reaches.course staged (patientExecutor.cordon openNode) cordonedThird
  rw [run_cordonedThird] at reached
  have leads := keptIn_staged.leads (patientExecutor.only_cordon openNode) cordonedThird
  exact ⟨rfl, patientExecutor.cordon_effect openNode rfl _ _ reached _ _ leads⟩

end Cordon

end Evacuation
