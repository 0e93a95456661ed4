import Mathlib.Algebra.Order.Field.Rat
import Evacuation.Drain.Cordon
import Evacuation.Proofs.Eviction.Outcomes
/-!
# How a node is cordoned

A cordon goes in attempts. Each of them reads the node once, and sends a patch only if the node was
found schedulable; the cordon goes on only after a refusal that may pass, with a pause that doubles
from one attempt to the next up to ten seconds. The main statement, `Executor.cordon_protocol`, says
that these are exactly the paths of a cordon, whatever the cluster answers, and what the cordon comes
to. The attempts have one lemma, by induction on the turns of the loop, and the counts of what was
asked are read off the attempts.
-/
namespace Evacuation

variable {T : Type}

/-! ## What was asked -/

namespace World

/-- The name of the node that is read in an exchange, with the answer. -/
def nodeRead? : Exchange (World T) → Option (String × Except Failure Node)
  | ⟨.call (.readNode name), seen⟩ => some (name, seen)
  | _ => none

/-- The reads of nodes along a path. -/
def nodeReads (path : List (Exchange (World T))) : List (String × Except Failure Node) :=
  path.filterMap nodeRead?

/-- The name of the node whose scheduling is to be disabled in an exchange, with the answer. -/
def patch? : Exchange (World T) → Option (String × Except Failure Unit)
  | ⟨.call (.patchNode name), answer⟩ => some (name, answer)
  | _ => none

/-- The patches of nodes along a path. -/
def patches (path : List (Exchange (World T))) : List (String × Except Failure Unit) :=
  path.filterMap patch?

/-- The span of the pause that an exchange makes, on any scale. -/
def slept? : Exchange (World T) → Option T
  | ⟨.sleep span, _⟩ => some span
  | _ => none

/-- The pauses along a path, on any scale. -/
def sleeps (path : List (Exchange (World T))) : List T := path.filterMap slept?

@[simp] theorem nodeReads_append (first second : List (Exchange (World T))) :
    nodeReads (first ++ second) = nodeReads first ++ nodeReads second := List.filterMap_append

@[simp] theorem patches_append (first second : List (Exchange (World T))) :
    patches (first ++ second) = patches first ++ patches second := List.filterMap_append

@[simp] theorem sleeps_append (first second : List (Exchange (World T))) :
    sleeps (first ++ second) = sleeps first ++ sleeps second := List.filterMap_append

end World

namespace Cordon

/-! ## Attempts -/

/-- An attempt to cordon a node, by the answers it got. Only a node that was found schedulable is
patched. -/
inductive Attempt where
  | unread (failure : Failure)
  | closed (fresh : Node) (unschedulable : fresh.isUnschedulable = true)
  | patched (fresh : Node) (schedulable : fresh.isUnschedulable = false)
      (answer : Except Failure Unit)

namespace Attempt

/-- The exchanges of an attempt. -/
def path (name : String) : Attempt → List (Exchange (World T))
  | unread failure => [⟨.call (.readNode name), .error failure⟩]
  | closed fresh _ => [⟨.call (.readNode name), .ok fresh⟩]
  | patched fresh _ answer =>
    [⟨.call (.readNode name), .ok fresh⟩, ⟨.call (.patchNode name), answer⟩]

/-- The answer with which an attempt ends. -/
def answer : Attempt → Except Failure Unit
  | unread failure => .error failure
  | closed _ _ => .ok ()
  | patched _ _ answer => answer

/-- Nothing is left to do after the attempt: the node is missing, or it is unschedulable as it was
found or by the patch. -/
def Decided (attempt : Attempt) : Prop :=
  attempt.answer = .ok () ∨
    ∃ refusal, attempt.answer = .error (.refused refusal) ∧ refusal.status = some 404

/-- The attempt ends in a refusal that may pass. -/
def Passing (attempt : Attempt) : Prop :=
  ∃ refusal, attempt.answer = .error (.refused refusal) ∧ refusal.Passing

/-- The failure that the cordon of a node reports after the attempt: a refusal as a failure of the
cordon, and any other failure as it is. -/
inductive Reports (name : String) (attempt : Attempt) : Failure → Prop where
  | refused {refusal : Refusal} (ended : attempt.answer = .error (.refused refusal))
      (present : refusal.status ≠ some 404) : Reports name attempt (.cordon name refusal)
  | passedOn {failure : Failure} (ended : attempt.answer = .error failure)
      (other : ∀ refusal, failure ≠ .refused refusal) : Reports name attempt failure

/-- An attempt reads the node once. -/
theorem length_nodeReads (name : String) (attempt : Attempt) :
    (World.nodeReads (attempt.path name : List (Exchange (World T)))).length = 1 := by
  cases attempt <;> rfl

/-- An attempt sends at most one patch. -/
theorem length_patches (name : String) (attempt : Attempt) :
    (World.patches (attempt.path name : List (Exchange (World T)))).length ≤ 1 := by
  cases attempt with
  | patched => exact Nat.le_refl 1
  | _ => exact Nat.zero_le 1

/-- The patch of an attempt that may be repeated was not accepted. -/
theorem Passing.unaccepted {attempt : Attempt} (passing : attempt.Passing) (name : String) :
    (World.patches (attempt.path name : List (Exchange (World T)))).countP (·.2.isOk) = 0 := by
  obtain ⟨refusal, ended, -⟩ := passing
  cases attempt with
  | patched fresh schedulable answer =>
    cases ended
    rfl
  | _ => rfl

/-- An attempt does not pause. -/
@[simp] theorem sleeps_path (name : String) (attempt : Attempt) :
    World.sleeps (attempt.path name : List (Exchange (World T))) = [] := by
  cases attempt <;> rfl

end Attempt

/-- The pause after an attempt: one second after the first one, doubled each time, up to ten. -/
def pause [TimeScale T] (number : Nat) : T := TimeScale.ofInt (min (2 ^ (number - 1)) 10 : Nat)

/-- The exchanges of attempts that are followed by a pause each, numbered from a first one on. -/
def rounds [TimeScale T] (name : String) : Nat → List Attempt → List (Exchange (World T))
  | _, [] => []
  | number, attempt :: attempts =>
    attempt.path name ++ ⟨.sleep (pause number), ()⟩ :: rounds name (number + 1) attempts

/-- The course of a cordon within a limit of attempts: one attempt and pause after the other, as long
as the refusals may pass and the limit is not reached. -/
structure Course [TimeScale T] (name : String) (limit : Nat) (path : List (Exchange (World T)))
    (attempts : List Attempt) (last : Attempt) : Prop where
  path_eq : path = rounds name 1 attempts ++ last.path name
  passing : ∀ attempt ∈ attempts, attempt.Passing
  inLimit : attempts.length < limit
  /-- A refusal that may pass stands only at the limit. -/
  final : last.Passing → attempts.length + 1 = limit

/-- What a cordon comes to after its last attempt. -/
structure Verdict (name : String) (last : Attempt) (result : Except Failure Unit) : Prop where
  returns : result = .ok () ↔ last.Decided
  raises : ∀ failure, result = .error failure ↔ last.Reports name failure

/-- What is asked along a path is within a limit of attempts. -/
structure Within (limit : Nat) (path : List (Exchange (World T))) : Prop where
  reads : (World.nodeReads path).length ≤ limit
  patches : (World.patches path).length ≤ limit
  accepted : (World.patches path).countP (·.2.isOk) ≤ 1
  sleeps : (World.sleeps path).length ≤ limit - 1

/-! ## One attempt -/

/-- The paths of an attempt. -/
theorem reaches_attempt_iff {name : String} {path : List (Exchange (World T))}
    {result : Except Failure Unit} :
    (Cordon.attempt name).Reaches path (.done result) ↔
      ∃ attempt : Attempt, path = attempt.path name ∧ result = settle attempt.answer := by
  constructor
  · intro reached
    obtain ⟨first, second, seen, rfl, reading, onward⟩ := reached.of_bind_done
    obtain rfl := reading.of_request
    cases seen with
    | error failure =>
      obtain ⟨rfl, same⟩ := Program.reaches_done_iff.mp onward
      cases same
      exact ⟨.unread failure, rfl, rfl⟩
    | ok fresh =>
      dsimp only at onward
      split at onward
      · rename_i unschedulable
        obtain ⟨rfl, same⟩ := Program.reaches_done_iff.mp onward
        cases same
        exact ⟨.closed fresh unschedulable, rfl, rfl⟩
      · rename_i schedulable
        obtain ⟨third, fourth, answer, rfl, patching, ended⟩ := onward.of_bind_done
        obtain rfl := patching.of_request
        obtain ⟨rfl, same⟩ := Program.reaches_done_iff.mp ended
        cases same
        exact ⟨.patched fresh (Bool.eq_false_iff.mpr schedulable) answer, rfl, rfl⟩
  · rintro ⟨attempt, rfl, rfl⟩
    have read (seen : Except Failure Node) : (Work.getNode name).Reaches
        [⟨.call (.readNode name), seen⟩] (.done seen : Work T (Except Failure Node)) :=
      .next _ (.here _)
    have patch (answer : Except Failure Unit) : (Work.disableScheduling name).Reaches
        [⟨.call (.patchNode name), answer⟩] (.done answer : Work T (Except Failure Unit)) :=
      .next _ (.here _)
    cases attempt with
    | unread failure => exact (read (.error failure)).bind (.here _)
    | closed fresh unschedulable =>
      refine (read (.ok fresh)).bind ?_
      dsimp only
      rw [if_pos unschedulable]
      exact .here _
    | patched fresh schedulable answer =>
      refine (read (.ok fresh)).bind ?_
      dsimp only
      rw [if_neg (Bool.eq_false_iff.mp schedulable)]
      exact (patch answer).bind (.here _)

/-- An attempt that was decided is settled. -/
theorem settle_of_decided {attempt : Attempt} (decided : attempt.Decided) :
    settle attempt.answer = .ok () := by
  obtain ended | ⟨refusal, ended, missing⟩ := decided
  · rw [ended]
    rfl
  · simp [ended, settle, Refusal.isNotFound, missing]

/-- An attempt that was not decided is left with its answer. -/
theorem settle_of_undecided {attempt : Attempt} (undecided : ¬ attempt.Decided) :
    settle attempt.answer = attempt.answer := by
  unfold settle
  split
  · rename_i refusal ended
    have present : refusal.isNotFound = false := by
      simpa [Refusal.isNotFound] using fun missing => undecided (.inr ⟨refusal, ended, missing⟩)
    rw [present]
    rfl
  · rfl

/-- A refusal that may pass decides nothing. -/
theorem Attempt.Passing.undecided {attempt : Attempt} (passing : attempt.Passing) :
    ¬ attempt.Decided := by
  obtain ⟨refusal, ended, status, told, transient⟩ := passing
  rintro (accepted | ⟨other, again, missing⟩)
  · simp [ended] at accepted
  · rw [ended] at again
    cases again
    rw [told] at missing
    cases missing
    omega

/-- A refusal is left over exactly if an attempt ended in it and was not decided. -/
theorem settle_refused_iff {attempt : Attempt} {refusal : Refusal} :
    settle attempt.answer = .error (.refused refusal) ↔
      attempt.answer = .error (.refused refusal) ∧ refusal.status ≠ some 404 := by
  by_cases decided : attempt.Decided
  · rw [settle_of_decided decided]
    refine iff_of_false nofun fun ⟨ended, present⟩ => ?_
    obtain accepted | ⟨other, again, missing⟩ := decided
    · simp [ended] at accepted
    · rw [ended] at again
      cases again
      exact present missing
  · rw [settle_of_undecided decided]
    exact (and_iff_left_of_imp fun ended missing => decided (.inr ⟨refusal, ended, missing⟩)).symm

/-- What is left of an attempt is tried again exactly if the attempt ended in a refusal that may
pass. -/
theorem passing_iff_settle {attempt : Attempt} :
    attempt.Passing ↔
      ∃ refusal, settle attempt.answer = .error (.refused refusal) ∧ refusal.isTransient = true := by
  constructor
  · intro passing
    rw [settle_of_undecided passing.undecided]
    obtain ⟨refusal, ended, transient⟩ := passing
    exact ⟨refusal, ended, Refusal.isTransient_iff.mpr transient⟩
  · rintro ⟨refusal, left, transient⟩
    exact ⟨refusal, (settle_refused_iff.mp left).1, Refusal.isTransient_iff.mp transient⟩

/-! ## The loop -/

/-- The plan is a pause after every attempt but the last one. -/
theorem plan_eq [TimeScale T] (attempts : Int) : (plan attempts : Nat → Work T (Option T)) =
    fun number => .done (if attempts ≤ number then none else some (pause number)) := by
  funext number
  have planned : (TimeScale.ofInt (pauseAfter number) : T) = pause number := by
    rw [pauseAfter_eq]
    rfl
  rw [plan, planned]
  rfl

variable [TimeScale T]

omit [TimeScale T] in
/-- One turn of the loop: an attempt is the last one, or it may be repeated, and the planned pause and
the next turn follow. -/
theorem reaches_attempts_iff {name : String} {planned : Nat → Option T} {turns number : Nat}
    {path : List (Exchange (World T))} {result : Except Failure Unit} :
    (∃ count, (Work.retry (Cordon.attempt name) (fun number => .done (planned number)) (turns + 1)
        number).Reaches path (.done (result, count))) ↔
      (∃ last : Attempt, path = last.path name ∧ (last.Passing → planned number = none) ∧
        result = settle last.answer) ∨
      ∃ (attempt : Attempt) (span : T) (rest : List (Exchange (World T))), attempt.Passing ∧
        planned number = some span ∧ path = attempt.path name ++ ⟨.sleep span, ()⟩ :: rest ∧
        ∃ count, (Work.retry (Cordon.attempt name) (fun number => .done (planned number)) turns
          (number + 1)).Reaches rest (.done (result, count)) := by
  constructor
  · rintro ⟨count, reached⟩
    obtain ⟨_, trying, same, final⟩ | ⟨_, refusal, span, rest, trying, transient, plans, rfl, again⟩ :=
      Work.reaches_turn_iff.mp reached
    · cases same
      obtain ⟨last, rfl, rfl⟩ := reaches_attempt_iff.mp trying
      refine .inl ⟨last, rfl, fun passing => ?_, rfl⟩
      obtain ⟨refusal, left, transient⟩ := passing_iff_settle.mp passing
      exact final refusal left transient
    · obtain ⟨attempt, rfl, left⟩ := reaches_attempt_iff.mp trying
      have passing : attempt.Passing := passing_iff_settle.mpr ⟨refusal, left.symm, transient⟩
      exact .inr ⟨attempt, span, rest, passing, plans, rfl, count, again⟩
  · rintro (⟨last, rfl, final, rfl⟩ | ⟨attempt, span, rest, passing, plans, rfl, count, again⟩)
    · have trying : (Cordon.attempt (T := T) name).Reaches (last.path name)
          (.done (settle last.answer)) := reaches_attempt_iff.mpr ⟨last, rfl, rfl⟩
      refine ⟨number, Work.reaches_turn_iff.mpr (.inl ⟨_, trying, rfl, fun refusal left transient => ?_⟩)⟩
      exact final (passing_iff_settle.mpr ⟨refusal, left, transient⟩)
    · obtain ⟨refusal, left, transient⟩ := passing_iff_settle.mp passing
      have trying : (Cordon.attempt (T := T) name).Reaches (attempt.path name)
          (.done (.error (.refused refusal))) := reaches_attempt_iff.mpr ⟨attempt, rfl, left.symm⟩
      exact ⟨count, Work.reaches_turn_iff.mpr
        (.inr ⟨_, refusal, span, rest, trying, transient, plans, rfl, again⟩)⟩

/-- Attempts from one number on, as many as are left, with a pause after each but the last one. -/
def Tried (name : String) (turns number : Nat) (path : List (Exchange (World T)))
    (result : Except Failure Unit) : Prop :=
  ∃ attempts last, path = rounds name number attempts ++ Attempt.path name last ∧
    (∀ attempt ∈ attempts, attempt.Passing) ∧ attempts.length ≤ turns ∧
    (last.Passing → attempts.length = turns) ∧ result = settle last.answer

section Tried

variable {name : String} {turns number : Nat} {path : List (Exchange (World T))}
  {result : Except Failure Unit}

/-- Where no more attempts are left, one is made. -/
theorem tried_zero_iff : Tried name 0 number path result ↔
    ∃ last : Attempt, path = last.path name ∧ result = settle last.answer := by
  constructor
  · rintro ⟨attempts, last, rfl, -, none_before, -, rfl⟩
    obtain rfl := List.eq_nil_of_length_eq_zero (Nat.le_zero.mp none_before)
    exact ⟨last, rfl, rfl⟩
  · rintro ⟨last, rfl, rfl⟩
    exact ⟨[], last, rfl, List.forall_mem_nil _, Nat.le_refl 0, fun _ => rfl, rfl⟩

/-- Where more are left, an attempt is the last one only if it may not be repeated. -/
theorem tried_succ_iff : Tried name (turns + 1) number path result ↔
    (∃ last : Attempt, path = last.path name ∧ ¬ last.Passing ∧ result = settle last.answer) ∨
      ∃ (attempt : Attempt) (rest : List (Exchange (World T))), attempt.Passing ∧
        path = attempt.path name ++ ⟨.sleep (pause number), ()⟩ :: rest ∧
        Tried name turns (number + 1) rest result := by
  constructor
  · rintro ⟨attempts, last, rfl, passing, inLimit, final, rfl⟩
    cases attempts with
    | nil => exact .inl ⟨last, rfl, fun again => Nat.succ_ne_zero turns (final again).symm, rfl⟩
    | cons attempt attempts =>
      obtain ⟨passed, others⟩ := List.forall_mem_cons.mp passing
      exact .inr ⟨attempt, _, passed, List.append_assoc .., attempts, last, rfl, others,
        Nat.le_of_succ_le_succ inLimit, fun again => Nat.succ.inj (final again), rfl⟩
  · rintro (⟨last, rfl, final, rfl⟩ |
      ⟨attempt, _, passed, rfl, attempts, last, rfl, others, inLimit, final, rfl⟩)
    · exact ⟨[], last, rfl, List.forall_mem_nil _, Nat.zero_le _, fun again => absurd again final, rfl⟩
    · exact ⟨attempt :: attempts, last, by simp [rounds],
        List.forall_mem_cons.mpr ⟨passed, others⟩, Nat.succ_le_succ inLimit,
        fun again => congrArg (· + 1) (final again), rfl⟩

/-- From some attempt on, the loop makes as many as are left. -/
theorem reaches_loop_iff {attempts : Int} (counted : 0 < number)
    (room : number + turns = max 1 attempts.toNat) :
    (∃ count, (Work.retry (Cordon.attempt name) (plan attempts) (turns + 1) number).Reaches path
        (.done (result, count))) ↔ Tried name turns number path result := by
  rw [plan_eq]
  induction turns generalizing number path with
  | zero =>
    have full : attempts ≤ number := by omega
    rw [reaches_attempts_iff, tried_zero_iff, if_pos full]
    constructor
    · rintro (⟨last, same, -, ended⟩ | ⟨_, _, _, _, early, _⟩)
      · exact ⟨last, same, ended⟩
      · cases early
    · rintro ⟨last, same, ended⟩
      exact .inl ⟨last, same, fun _ => rfl, ended⟩
  | succ turns ih =>
    -- A pause is planned as long as turns are left, so both sides go on alike.
    have early : ¬ attempts ≤ number := by omega
    have onward (rest : List (Exchange (World T))) := @ih (number + 1) rest (Nat.succ_pos number) (by omega)
    rw [reaches_attempts_iff, tried_succ_iff, if_neg early]
    constructor
    · rintro (⟨last, same, final, ended⟩ | ⟨attempt, _, rest, passing, ⟨⟩, same, again⟩)
      · refine .inl ⟨last, same, fun passing => ?_, ended⟩
        cases final passing
      · exact .inr ⟨attempt, rest, passing, same, (onward rest).mp again⟩
    · rintro (⟨last, same, final, ended⟩ | ⟨attempt, rest, passing, same, again⟩)
      · exact .inl ⟨last, same, fun passing => absurd passing final, ended⟩
      · exact .inr ⟨attempt, _, rest, passing, rfl, same, (onward rest).mpr again⟩

end Tried

/-! ## What a cordon comes to -/

omit [TimeScale T]

/-- What a cordon comes to is told by its last attempt. -/
theorem Verdict.unique {name : String} {last : Attempt} {result other : Except Failure Unit}
    (verdict : Verdict name last result) (again : Verdict name last other) : result = other := by
  cases result with
  | ok value => exact (again.returns.mpr (verdict.returns.mp rfl)).symm
  | error failure => exact ((again.raises failure).mpr ((verdict.raises failure).mp rfl)).symm

/-- A refusal that is left over is reported as a failure of the cordon. -/
theorem verdict_of_refused {name : String} {last : Attempt} {refusal : Refusal}
    (left : settle last.answer = .error (.refused refusal)) :
    Verdict name last (.error (.cordon name refusal)) := by
  obtain ⟨ended, present⟩ := settle_refused_iff.mp left
  have undecided : ¬ last.Decided := by
    intro decided
    rw [settle_of_decided decided] at left
    cases left
  refine ⟨iff_of_false nofun undecided, fun failure => ⟨?_, fun reports => ?_⟩⟩
  · rintro ⟨⟩
    exact .refused ended present
  · cases reports with
    | refused again =>
      rw [ended] at again
      cases again
      rfl
    | passedOn again other =>
      rw [ended] at again
      cases again
      exact absurd rfl (other _)

/-- Where no refusal is left over, the cordon comes to what the last attempt comes to. -/
theorem verdict_of_unrefused {name : String} {last : Attempt}
    (other : ∀ refusal, settle last.answer ≠ .error (.refused refusal)) :
    Verdict name last (settle last.answer) := by
  have unrefused {refusal : Refusal} (ended : last.answer = .error (.refused refusal)) :
      refusal.status = some 404 :=
    of_not_not fun present => other refusal (settle_refused_iff.mpr ⟨ended, present⟩)
  by_cases decided : last.Decided
  · rw [settle_of_decided decided]
    refine ⟨iff_of_true rfl decided, fun failure => iff_of_false nofun fun reports => ?_⟩
    cases reports with
    | refused ended present => exact present (unrefused ended)
    | passedOn ended others =>
      obtain accepted | ⟨refusal, refused, -⟩ := decided
      · simp [accepted] at ended
      · rw [refused] at ended
        cases ended
        exact others refusal rfl
  · rw [settle_of_undecided decided] at other ⊢
    refine ⟨⟨.inl, fun settled => absurd settled decided⟩, fun failure => ⟨fun ended => ?_, ?_⟩⟩
    · exact .passedOn ended fun refusal same => other refusal (same ▸ ended)
    · rintro (⟨ended, present⟩ | ⟨ended, -⟩)
      · exact absurd (unrefused ended) present
      · exact ended

/-! ## How often the cluster is asked -/

variable [TimeScale T]

/-- What is asked in the attempts that are followed by a pause. -/
theorem counts_rounds (name : String) {attempts : List Attempt}
    (passing : ∀ attempt ∈ attempts, attempt.Passing) (number : Nat) :
    let path : List (Exchange (World T)) := rounds name number attempts
    (World.nodeReads path).length = attempts.length ∧
      (World.patches path).length ≤ attempts.length ∧
      (World.patches path).countP (·.2.isOk) = 0 ∧
      (World.sleeps path).length = attempts.length := by
  induction attempts generalizing number with
  | nil => exact ⟨rfl, Nat.le_refl 0, rfl, rfl⟩
  | cons attempt attempts ih =>
    obtain ⟨passed, others⟩ := List.forall_mem_cons.mp passing
    obtain ⟨reads, patches, accepted, sleeps⟩ := ih others (number + 1)
    have read := attempt.length_nodeReads (T := T) name
    have patched := attempt.length_patches (T := T) name
    have unaccepted := passed.unaccepted (T := T) name
    have pausing : rounds (T := T) name number (attempt :: attempts) = attempt.path name ++
        ([⟨.sleep (pause number), ()⟩] ++ rounds name (number + 1) attempts) := rfl
    have unasked : World.nodeReads [(⟨.sleep (pause number), ()⟩ : Exchange (World T))] = [] ∧
        World.patches [(⟨.sleep (pause number), ()⟩ : Exchange (World T))] = [] ∧
        World.sleeps [(⟨.sleep (pause number), ()⟩ : Exchange (World T))] = [pause number] :=
      ⟨rfl, rfl, rfl⟩
    simp only [pausing, World.nodeReads_append, World.patches_append, World.sleeps_append, unasked,
      List.length_append, List.countP_append, List.length_cons, Attempt.sleeps_path, List.length_nil,
      List.countP_nil]
    omega

/-- A cordon asks within its limit. -/
theorem Course.within {name : String} {limit : Nat} {path : List (Exchange (World T))}
    {attempts : List Attempt} {last : Attempt} (course : Course name limit path attempts last) :
    Within limit path := by
  obtain ⟨rfl, passing, inLimit, -⟩ := course
  obtain ⟨reads, patches, accepted, sleeps⟩ := counts_rounds (T := T) name passing 1
  have read := last.length_nodeReads (T := T) name
  have patched := last.length_patches (T := T) name
  constructor
  · rw [World.nodeReads_append, List.length_append]
    omega
  · rw [World.patches_append, List.length_append]
    omega
  · rw [World.patches_append, List.countP_append, accepted, Nat.zero_add]
    exact List.countP_le_length.trans patched
  · rw [World.sleeps_append, last.sleeps_path, List.append_nil]
    omega

end Cordon

open Cordon

variable [TimeScale T]

/-- A cordon of a node that was seen to be schedulable goes in attempts, of which at least one is
made. -/
theorem Executor.reaches_cordon_iff {executor : Executor T} {node : Node}
    (schedulable : node.isUnschedulable = false) {path : List (Exchange (World T))}
    {result : Except Failure Unit} :
    (executor.cordon node).Reaches path (.done result) ↔
      ∃ attempts last, Cordon.Course node.name (max 1 executor.cordonAttempts.toNat) path attempts last ∧
        Cordon.Verdict node.name last result := by
  obtain ⟨turns, enough⟩ : ∃ turns, max 1 executor.cordonAttempts.toNat = turns + 1 :=
    ⟨max 1 executor.cordonAttempts.toNat - 1, by omega⟩
  have room : 1 + turns = max 1 executor.cordonAttempts.toNat := by omega
  unfold Executor.cordon
  rw [if_neg (Bool.eq_false_iff.mp schedulable), enough]
  constructor
  · intro reached
    obtain ⟨calls, rest, ⟨settled, count⟩, rfl, looping, ended⟩ := reached.of_bind_done
    obtain ⟨attempts, last, rfl, passing, inLimit, final, rfl⟩ :=
      (reaches_loop_iff Nat.one_pos room).mp ⟨count, looping⟩
    have verdict : rest = [] ∧ Cordon.Verdict node.name last result := by
      split at ended
      · rename_i refusal left
        obtain ⟨rfl, same⟩ := Program.reaches_done_iff.mp ended
        cases same
        exact ⟨rfl, verdict_of_refused left⟩
      · rename_i other
        obtain ⟨rfl, same⟩ := Program.reaches_done_iff.mp ended
        cases same
        exact ⟨rfl, verdict_of_unrefused other⟩
    obtain ⟨rfl, verdict⟩ := verdict
    rw [List.append_nil]
    exact ⟨attempts, last,
      ⟨rfl, passing, Nat.lt_succ_of_le inLimit, fun again => congrArg (· + 1) (final again)⟩, verdict⟩
  · rintro ⟨attempts, last, course, verdict⟩
    obtain ⟨count, looping⟩ := (reaches_loop_iff Nat.one_pos room).mpr
      ⟨attempts, last, course.path_eq, course.passing, Nat.le_of_lt_succ course.inLimit,
        fun again => Nat.succ.inj (course.final again), rfl⟩
    rw [← List.append_nil path]
    refine looping.bind ?_
    dsimp only
    split
    · rename_i refusal left
      rw [verdict.unique (verdict_of_refused left)]
      exact .here _
    · rename_i other
      rw [verdict.unique (verdict_of_unrefused other)]
      exact .here _

/-- The cordon of a node that was seen to be unschedulable costs no request. -/
theorem Executor.reaches_cordon_closed_iff {executor : Executor T} {node : Node}
    (unschedulable : node.isUnschedulable = true) {path : List (Exchange (World T))}
    {result : Except Failure Unit} :
    (executor.cordon node).Reaches path (.done result) ↔ path = [] ∧ result = .ok () := by
  unfold Executor.cordon
  rw [if_pos unschedulable, Program.pure_eq_done, Program.reaches_done_iff]
  exact and_congr_right fun _ => ⟨fun same => by cases same; rfl, fun same => by rw [same]⟩

/-- The paths of a cordon, whatever the cluster answers. A node that was seen to be unschedulable costs
no request. Any other node is tried until an attempt is decided, fails for good or is the last one
within the limit; the cordon returns exactly if that attempt was decided, and else it reports how the
attempt failed. -/
theorem Executor.cordon_protocol (executor : Executor T) {limit : Nat}
    (attempts : executor.cordonAttempts = limit) (positive : 0 < limit) (node : Node)
    (path : List (Exchange (World T))) (result : Except Failure Unit) :
    (executor.cordon node).Reaches path (.done result) ↔
      node.isUnschedulable = true ∧ path = [] ∧ result = .ok () ∨
        node.isUnschedulable = false ∧ ∃ attempts last, Cordon.Course node.name limit path attempts last ∧
          Cordon.Verdict node.name last result ∧ Within limit path := by
  have enough : max 1 executor.cordonAttempts.toNat = limit := by omega
  cases snapshot : node.isUnschedulable with
  | true =>
    rw [reaches_cordon_closed_iff snapshot]
    exact ⟨fun done => .inl ⟨rfl, done⟩, fun cases => (cases.resolve_right nofun).2⟩
  | false =>
    rw [reaches_cordon_iff snapshot, enough]
    constructor
    · rintro ⟨attempts, last, course, verdict⟩
      exact .inr ⟨rfl, attempts, last, course, verdict, course.within⟩
    · rintro (⟨⟨⟩, -⟩ | ⟨-, attempts, last, course, verdict, -⟩)
      exact ⟨attempts, last, course, verdict⟩

namespace Cordon

/-- The answers that are still to come to reads of nodes and to patches. -/
structure Answers where
  reads : List (Except Failure Node)
  patches : List (Except Failure Unit)

/-- A cluster that answers as it is told. After that, nodes are missing and patches are accepted. -/
def answering : Surroundings (World Rat) Answers
  | .call (.readNode _), answers =>
    (answers.reads.headD (.error (.refused .notFound)), { answers with reads := answers.reads.tail })
  | .call (.patchNode _), answers =>
    (answers.patches.headD (.ok ()), { answers with patches := answers.patches.tail })
  | .call _, answers => (.error (.refused .notFound), answers)
  | .clock, answers => ((0 : Rat), answers)
  | .sleep _, answers | .openPool _ _, answers | .resume _ _, answers | .closePool _, answers
  | .tell _, answers => ((), answers)

/-- A node that pods may be placed on. -/
def openNode : Node := { name := "n1" }

/-- An executor that tries three times to cordon a node. -/
def patientExecutor : Executor Rat :=
  { filters := [], maxGrace := 60, headroom := 5, retryInterval := 5, pollInterval := 1,
    cordonAttempts := 3, turns := 10 }

/-- The node cannot be read at first, then the patch meets a conflict, and is accepted at last. -/
def acceptedThird : Answers :=
  { reads := [.error (.refused ⟨some 500, some "Oops"⟩), .ok openNode, .ok openNode]
    patches := [.error (.refused ⟨some 409, some "Conflict"⟩), .ok ()] }

theorem run_acceptedThird :
    ((patientExecutor.cordon openNode).run answering acceptedThird).1 = .ok () ∧
      World.sleeps ((patientExecutor.cordon openNode).course answering acceptedThird) = [1, 2] := by
  decide +kernel

/-- A cordon that needs its last attempt pauses for one second and for two. -/
theorem cordon_acceptedThird :
    let path := (patientExecutor.cordon openNode).course answering acceptedThird
    patientExecutor.cordonAttempts = (3 : Nat) ∧ World.sleeps path = [1, 2] ∧
      ∃ attempts last, Cordon.Course openNode.name 3 path attempts last ∧ last.Decided ∧
        Within 3 path := by
  have reached := Program.Reaches.course answering (patientExecutor.cordon openNode) acceptedThird
  obtain ⟨accepted, paused⟩ := run_acceptedThird
  rw [accepted] at reached
  obtain ⟨closed, -, -⟩ | ⟨-, attempts, last, course, verdict, within⟩ :=
    (@Executor.cordon_protocol Rat _ patientExecutor 3 rfl (by decide) openNode _ _).mp reached
  · cases closed
  · exact ⟨rfl, paused, attempts, last, course, verdict.returns.mp rfl, within⟩

end Cordon

end Evacuation
