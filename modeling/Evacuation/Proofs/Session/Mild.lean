import Evacuation.Proofs.Agency.Basic
import Evacuation.Proofs.Session.Basic
/-!
# Mild exchanges

An exchange of the control of drains is mild if the cluster did nothing worse in it than to refuse
requests. What comes of that is derived from the work that errands are: an announcement is always let
go (`Controller.Mild.announced`), and a cordon succeeds or fails with the refusal it met
(`Controller.Mild.cordoned`), since the attempts to cordon a node never run out of turns. Of a drain
anything may come, but one that is booked has a start that can be shown. Conversely each of these
replies can be brought about (`Controller.mild_of_isTame`).
-/
namespace Evacuation

variable {T : Type}

/-- If a request to the cluster failed, it was refused. -/
def World.RefusesOnly : Exchange (World T) → Prop
  | ⟨.call _, .error failure⟩ => ∃ refusal, failure = .refused refusal
  | _ => True

/-- If a result is a failure, it is a refusal. -/
def Failure.AtMostRefused {α : Type} (result : Except Failure α) : Prop :=
  ∀ failure, result = .error failure → ∃ refusal, failure = .refused refusal

/-- If the result of a cordon is a failure, it is the refusal that was met. -/
def Failure.AtMostUncordoned (node : Node) (result : Except Failure Unit) : Prop :=
  ∀ failure, result = .error failure → ∃ refusal, failure = .cordon node.name refusal

namespace Work

open Program Failure World

theorem atMostRefused_ok {α : Type} (value : α) : AtMostRefused (.ok value) := nofun

theorem atMostRefused_refused {α : Type} (refusal : Refusal) :
    AtMostRefused (.error (.refused refusal) : Except Failure α) := by
  rintro _ ⟨⟩
  exact ⟨refusal, rfl⟩

/-- A request that is sent once is at most refused. -/
theorem ensures_call (call : Call) :
    Ensures RefusesOnly AtMostRefused (Work.call (T := T) call) := by
  rintro reply usual failure rfl
  exact usual

/-- A recorded event is let go, whether it was refused or not. -/
theorem ensures_record (recorder : EventRecorder) (event : NodeEvent) :
    Ensures RefusesOnly (· = .ok ()) (record (T := T) recorder event) := by
  refine (ensures_call _).bind fun result refused => ?_
  cases result with
  | ok value => exact rfl
  | error failure =>
    obtain ⟨refusal, rfl⟩ := refused failure rfl
    exact rfl

/-- The end of an attempt to cordon a node is no worse than what the cluster answered. -/
theorem atMostRefused_settle {result : Except Failure Unit} (refused : AtMostRefused result) :
    AtMostRefused (Cordon.settle result) := by
  unfold Cordon.settle
  split
  · split
    · exact atMostRefused_ok ()
    · exact refused
  · exact refused

theorem ensures_attempt (node : String) :
    Ensures RefusesOnly AtMostRefused (Cordon.attempt (T := T) node) := by
  refine (ensures_call _).bind fun result refused => ?_
  cases result with
  | error failure =>
    obtain ⟨refusal, rfl⟩ := refused failure rfl
    exact atMostRefused_settle (atMostRefused_refused refusal)
  | ok fresh =>
    show Ensures _ _ (if fresh.isUnschedulable then _ else _)
    split
    · exact atMostRefused_ok ()
    · exact (ensures_call (.patchNode node)).bind fun result refused => atMostRefused_settle refused

variable [TimeScale T]

/-- Attempts that are at most refused end so when they are repeated by the plan of cordons, since the
plan ends before the turns do. -/
theorem ensures_retry {work : Work T (Except Failure Unit)} {attempts : Int}
    (mild : Ensures RefusesOnly AtMostRefused work) {turns attempt : Nat} (left : 0 < turns)
    (enough : attempts.toNat < turns + attempt) :
    Ensures RefusesOnly (fun result => AtMostRefused result.1)
      (retry work (Cordon.plan attempts) turns attempt) := by
  induction turns generalizing attempt with
  | zero => exact absurd left (Nat.lt_irrefl 0)
  | succ turns ih =>
    refine mild.bind fun result refused => ?_
    cases result with
    | ok value => exact atMostRefused_ok value
    | error failure =>
      obtain ⟨refusal, rfl⟩ := refused failure rfl
      show Ensures _ _ (if refusal.isTransient then _ else _)
      split
      · unfold Cordon.plan
        by_cases spent : attempts ≤ attempt
        · rw [if_pos spent]
          exact refused
        · rw [if_neg spent]
          exact fun _ _ => ih (by omega) (by omega)
      · exact refused

/-- A cordon fails only with the refusal it met. -/
theorem ensures_cordon (executor : Executor T) (node : Node) :
    Ensures RefusesOnly (AtMostUncordoned node) (executor.cordon node) := by
  unfold Executor.cordon
  split
  · exact nofun
  · refine (ensures_retry (ensures_attempt node.name) (by omega) (by omega)).bind ?_
    rintro ⟨result, turns⟩ refused
    cases result with
    | ok value => exact nofun
    | error failure =>
      obtain ⟨refusal, rfl⟩ := refused failure rfl
      rintro _ ⟨⟩
      exact ⟨refusal, rfl⟩

end Work

variable [TimeScale T]

/-- An exchange in which the cluster did nothing worse than to refuse requests. -/
structure Controller.Mild (controller : Controller T) (exchange : Exchange (Control T)) : Prop where
  /-- An errand other than a drain comes to what its work comes to if requests are at most refused. -/
  refused : (∀ node, exchange.request ≠ .drain node) →
    ∀ work ∈ controller.work? exchange.request, ∃ course,
      work.Reaches course (.done exchange.reply) ∧ ∀ asked ∈ course, World.RefusesOnly asked
  /-- The start of a drain that is booked can be shown. -/
  shown : ∀ node appointment, exchange = ⟨.transact (.book node), .ok appointment⟩ →
    ∃ text, showInstant appointment.start = .ok text

namespace Controller.Mild

variable {controller : Controller T}

/-- An announcement is let go. -/
theorem announced {stage : Stage} {node message : String} {reply : Except Failure Unit}
    (mild : controller.Mild ⟨.announce stage node message, reply⟩) : reply = .ok () := by
  obtain ⟨course, reached, refused⟩ := mild.refused nofun _ rfl
  exact (Work.ensures_record _ _).of_reaches reached refused

/-- A cordon that fails was refused. -/
theorem cordoned {node : Node} {failure : Failure}
    (mild : controller.Mild ⟨.cordon node, .error failure⟩) :
    ∃ refusal, failure = .cordon node.name refusal := by
  obtain ⟨course, reached, refused⟩ := mild.refused nofun _ rfl
  have ensures : Program.Ensures World.RefusesOnly (Failure.AtMostUncordoned node)
      (controller.drainer.cordon node) := by
    cases controller.drainer with
    | dryRun => exact nofun
    | live executor => exact Work.ensures_cordon executor node
  exact ensures.of_reaches reached refused failure rfl

end Controller.Mild

/-! ## Exchanges that are mild -/

/-- The reply is one that mild circumstances can bring about: an announcement is let go, and a cordon
succeeds or fails with a refusal that is neither transient nor for want of the node. -/
def Control.isTame : Exchange (Control T) → Bool
  | ⟨.announce _ _ _, .error _⟩ => false
  | ⟨.cordon node, .error (.cordon name refusal)⟩ =>
    name == node.name && !node.isUnschedulable && !refusal.isTransient && !refusal.isNotFound
  | ⟨.cordon _, .error _⟩ => false
  | ⟨.transact (.book _), .ok appointment⟩ => (showInstant appointment.start).isOk
  | _ => true

namespace Work

omit [TimeScale T] in
/-- An event may be recorded. -/
theorem reaches_record (recorder : EventRecorder) (event : NodeEvent) :
    (record (T := T) recorder event).Reaches
      [⟨.call (.createEvent recorder.ns (recorder.file event)), .ok ()⟩] (.done (.ok ())) :=
  .next _ (.here _)

omit [TimeScale T] in
/-- An attempt that succeeds, or fails for good, is not repeated. -/
theorem reaches_retry {work : Work T (Except Failure Unit)} {course : List (Exchange (World T))}
    {result : Except Failure Unit} (reached : work.Reaches course (.done result))
    (final : ∀ refusal, result = .error (.refused refusal) → refusal.isTransient = false)
    (plan : Nat → Work T (Option T)) (turns attempt : Nat) :
    (retry work plan (turns + 1) attempt).Reaches course (.done (result, attempt)) := by
  rw [← List.append_nil course]
  refine reached.bind ?_
  cases result with
  | ok value => exact .here _
  | error failure =>
    cases failure with
    | refused refusal =>
      show Program.Reaches (if refusal.isTransient then _ else _) _ _
      rw [final refusal rfl]
      exact .here _
    | _ => exact .here _

/-- What a cordon comes to whose attempts came to a result. -/
def cordonResult (node : Node) : Except Failure Unit → Except Failure Unit
  | .error (.refused refusal) => .error (.cordon node.name refusal)
  | result => result

/-- A cordon comes to what its first attempt comes to, unless that fails and may be repeated. -/
theorem reaches_cordon (executor : Executor T) {node : Node} {course : List (Exchange (World T))}
    {result : Except Failure Unit} (schedulable : node.isUnschedulable = false)
    (reached : (Cordon.attempt node.name).Reaches course (.done result))
    (final : ∀ refusal, result = .error (.refused refusal) → refusal.isTransient = false) :
    (executor.cordon node).Reaches course (.done (cordonResult node result)) := by
  obtain ⟨turns, enough⟩ : ∃ turns, max 1 executor.cordonAttempts.toNat = turns + 1 :=
    ⟨_, (Nat.succ_pred_eq_of_pos (by omega)).symm⟩
  unfold Executor.cordon
  rw [if_neg (by rw [schedulable]; exact Bool.false_ne_true), enough, ← List.append_nil course]
  refine (reaches_retry reached final _ turns 1).bind ?_
  cases result with
  | ok value => exact .here _
  | error failure => cases failure <;> exact .here _

/-- A cordon may succeed, since the node may turn out to be cordoned already. -/
theorem reaches_cordon_ok (executor : Executor T) (node : Node) : ∃ course,
    (executor.cordon node).Reaches course (.done (.ok ())) ∧
      ∀ asked ∈ course, World.RefusesOnly asked := by
  by_cases schedulable : node.isUnschedulable = true
  · refine ⟨[], ?_, List.forall_mem_nil _⟩
    unfold Executor.cordon
    rw [if_pos schedulable]
    exact .here _
  · have reached : (Cordon.attempt (T := T) node.name).Reaches
        [⟨.call (.readNode node.name), .ok node.cordoned⟩] (.done (.ok ())) :=
      .next _ (.here _)
    exact ⟨_, reaches_cordon executor (Bool.eq_false_iff.mpr schedulable) reached nofun,
      List.forall_mem_singleton.mpr trivial⟩

/-- A cordon may fail, since the node may not be read, unless that may pass or the node is gone. -/
theorem reaches_cordon_error (executor : Executor T) {node : Node} {refusal : Refusal}
    (schedulable : node.isUnschedulable = false) (lasting : refusal.isTransient = false)
    (known : refusal.isNotFound = false) : ∃ course,
    (executor.cordon node).Reaches course (.done (.error (.cordon node.name refusal))) ∧
      ∀ asked ∈ course, World.RefusesOnly asked := by
  have reached : (Cordon.attempt (T := T) node.name).Reaches
      [⟨.call (.readNode node.name), .error (.refused refusal)⟩] (.done (.error (.refused refusal))) := by
    have settled : Cordon.settle (.error (.refused refusal)) = .error (.refused refusal) := by
      simp [Cordon.settle, known]
    refine .next _ ?_
    show Program.Reaches (.done (Cordon.settle (.error (.refused refusal)))) _ _
    rw [settled]
    exact .here _
  refine ⟨_, reaches_cordon executor schedulable reached ?_,
    List.forall_mem_singleton.mpr ⟨refusal, rfl⟩⟩
  rintro _ ⟨⟩
  exact lasting

end Work

/-- What seems mild is mild for a controller that carries cordons out. -/
theorem Controller.mild_of_isTame {controller : Controller T} {executor : Executor T}
    (live : controller.drainer = .live executor) {exchange : Exchange (Control T)}
    (tame : Control.isTame exchange = true) : controller.Mild exchange := by
  obtain ⟨request, reply⟩ := exchange
  refine ⟨fun other work errand => ?_, ?_⟩
  · cases request with
    | announce stage node message =>
      cases reply with
      | error failure => cases tame
      | ok value =>
        cases errand
        exact ⟨_, Work.reaches_record controller.recorder (stage.event node message),
          List.forall_mem_singleton.mpr trivial⟩
    | cordon node =>
      cases errand
      rw [live]
      cases reply with
      | ok value => exact Work.reaches_cordon_ok executor node
      | error failure =>
        cases failure with
        | cordon name refusal =>
          simp only [Control.isTame, Bool.and_eq_true, Bool.not_eq_true', beq_iff_eq] at tame
          obtain ⟨⟨⟨rfl, schedulable⟩, lasting⟩, known⟩ := tame
          exact Work.reaches_cordon_error executor schedulable lasting known
        | _ => cases tame
    | drain node => exact absurd rfl (other node)
    | _ => cases errand
  · rintro node appointment same
    cases same
    cases shown : showInstant appointment.start with
    | ok text => exact ⟨text, rfl⟩
    | error error => simp [Control.isTame, shown, Except.isOk, Except.toBool] at tame

end Evacuation
