import Evacuation.Drain.Eviction
import Evacuation.Proofs.Paths
/-!
# How an eviction goes

The eviction of a pod goes in rounds. It is requested until an answer decides or the deadline has
passed, with a pause after each request that was refused for the time being; once it is accepted, the
pod is looked at until a look decides or the time to give up has come, with a pause after each look
that decided nothing. The main statement, `Executor.course_of_evict`, takes the path of an eviction
apart into these rounds, whatever the answers and whatever times the clock shows. The two loops have
one lemma each, by induction on their turns.
-/
namespace Evacuation

variable {T : Type} [TimeScale T]

namespace Eviction

/-! ## Requests -/

/-- A round in which the eviction was refused for the time being: the refusal, and the times at which
the pause was planned and the deadline was looked at. -/
structure Refused (T : Type) where
  refusal : Refusal
  planned : T
  checked : T

namespace Refused

/-- The exchanges of a round. -/
def path (pod : Pod) (grace : Int) (interval deadline : T) (round : Refused T) :
    List (Exchange (World T)) :=
  [⟨.call (.evict pod grace), .error (.refused round.refusal)⟩, ⟨.clock, round.planned⟩,
    ⟨.clock, round.checked⟩,
    ⟨.sleep (TimeScale.later TimeScale.zero
      (TimeScale.earlier interval (deadline - round.planned))), ()⟩]

/-- Another round follows: the refusal may pass, and the deadline has not. -/
structure GoesOn (deadline : T) (round : Refused T) : Prop where
  transient : round.refusal.isTransient = true
  early : TimeScale.upTo deadline round.checked = false

end Refused

/-- The exchanges after which no further request is sent, with the answer that stands. -/
inductive LastRequest (pod : Pod) (grace : Int) (deadline : T) :
    List (Exchange (World T)) → Except Failure Unit → Prop where
  | decided {answer : Except Failure Unit}
      (final : ∀ refusal, answer = .error (.refused refusal) → refusal.isTransient = false) :
      LastRequest pod grace deadline [⟨.call (.evict pod grace), answer⟩] answer
  | tooLate {refusal : Refusal} (transient : refusal.isTransient = true) (planned : T) {checked : T}
      (late : TimeScale.upTo deadline checked = true) :
      LastRequest pod grace deadline
        [⟨.call (.evict pod grace), .error (.refused refusal)⟩, ⟨.clock, planned⟩,
          ⟨.clock, checked⟩] (.error (.refused refusal))

/-- The exchanges by which an eviction is requested, in rounds. Where the turns run out there is no
last request. -/
inductive Requested (pod : Pod) (grace : Int) (interval deadline : T) (turns : Nat) :
    List (Exchange (World T)) → List (Refused T) → Except Failure Unit → Prop where
  | ended {rounds : List (Refused T)} {closing : List (Exchange (World T))}
      {answer : Except Failure Unit} (goes : ∀ round ∈ rounds, round.GoesOn deadline)
      (last : LastRequest pod grace deadline closing answer) :
      Requested pod grace interval deadline turns
        (rounds.flatMap (Refused.path pod grace interval deadline) ++ closing) rounds answer
  | outOfTurns {rounds : List (Refused T)} (goes : ∀ round ∈ rounds, round.GoesOn deadline)
      (spent : rounds.length = turns) :
      Requested pod grace interval deadline turns
        (rounds.flatMap (Refused.path pod grace interval deadline)) rounds (.error .outOfTurns)

/-- A further round in front of those there are. -/
theorem Requested.cons {pod : Pod} {grace : Int} {interval deadline : T} {turns : Nat}
    {path : List (Exchange (World T))} {rounds : List (Refused T)} {answer : Except Failure Unit}
    {round : Refused T} (goes : round.GoesOn deadline)
    (requested : Requested pod grace interval deadline turns path rounds answer) :
    Requested pod grace interval deadline (turns + 1)
      (round.path pod grace interval deadline ++ path) (round :: rounds) answer := by
  cases requested with
  | ended others last =>
    rw [← List.append_assoc, ← List.flatMap_cons]
    exact .ended (List.forall_mem_cons.mpr ⟨goes, others⟩) last
  | outOfTurns others spent =>
    rw [← List.flatMap_cons]
    exact .outOfTurns (List.forall_mem_cons.mpr ⟨goes, others⟩) (congrArg (· + 1) spent)

/-- An eviction is requested in rounds, and the attempts that are counted are the rounds and the last
request. -/
theorem requested_of_retry {pod : Pod} {grace : Int} {interval deadline : T} {turns attempt : Nat}
    {path : List (Exchange (World T))} {answer : Except Failure Unit} {count : Nat}
    (reached : (Work.retry (Work.evictPod pod grace) (plan interval deadline) turns attempt).Reaches
      path (.done (answer, count))) :
    ∃ rounds, Requested pod grace interval deadline turns path rounds answer ∧
      count = attempt + rounds.length := by
  induction turns generalizing attempt path with
  | zero =>
    obtain ⟨rfl, same⟩ := Program.reaches_done_iff.mp reached
    cases same
    exact ⟨[], .outOfTurns (List.forall_mem_nil _) rfl, rfl⟩
  | succ turns ih =>
    obtain ⟨first, second, reply, rfl, asking, onward⟩ := reached.of_bind_done
    obtain rfl := asking.of_request
    have decided (final : ∀ refusal, reply = .error (.refused refusal) → refusal.isTransient = false)
        (settled : Program.Reaches (.done (reply, attempt)) second
          (.done (answer, count) : Work T (Except Failure Unit × Nat))) :
        ∃ rounds, Requested pod grace interval deadline (turns + 1)
          ([⟨.call (.evict pod grace), reply⟩] ++ second) rounds answer ∧
            count = attempt + rounds.length := by
      obtain ⟨rfl, same⟩ := Program.reaches_done_iff.mp settled
      cases same
      exact ⟨[], .ended (List.forall_mem_nil _) (.decided final), rfl⟩
    split at onward
    · rename_i refusal
      split at onward
      · rename_i transient
        obtain ⟨_, fourth, pause, rfl, planning, pausing⟩ := onward.of_bind_done
        obtain ⟨(planned : T), _, rfl, checking⟩ := planning.of_ask_done
        obtain ⟨(checked : T), _, rfl, choosing⟩ := checking.of_ask_done
        obtain ⟨rfl, same⟩ := Program.reaches_done_iff.mp choosing
        cases late : TimeScale.upTo deadline checked with
        | true =>
          simp only [late, if_true] at same
          cases same
          obtain ⟨rfl, same⟩ := Program.reaches_done_iff.mp pausing
          cases same
          exact ⟨[], .ended (List.forall_mem_nil _) (.tooLate transient planned late), rfl⟩
        | false =>
          simp only [late] at same
          cases same
          obtain ⟨_, fifth, _, rfl, sleeping, again⟩ := pausing.of_bind_done
          obtain rfl := sleeping.of_request
          obtain ⟨rounds, requested, counted⟩ := ih again
          have goes : (⟨refusal, planned, checked⟩ : Refused T).GoesOn deadline := ⟨transient, late⟩
          refine ⟨_, requested.cons goes, ?_⟩
          rw [counted, List.length_cons]
          omega
      · rename_i lasting
        refine decided ?_ onward
        rintro _ ⟨⟩
        exact Bool.eq_false_iff.mpr lasting
    · rename_i other
      exact decided (fun refusal refused => absurd refused (other refusal)) onward

/-! ## Looks -/

/-- A round in which a look at the pod decided nothing: what was seen, and the time then. -/
structure Undecided (T : Type) where
  seen : Except Failure Pod
  now : T

namespace Undecided

/-- The exchanges of a round. -/
def path (pollInterval : T) (pod : Pod) (giveUp : T) (round : Undecided T) :
    List (Exchange (World T)) :=
  [⟨.call (.readPod pod.name pod.ns), round.seen⟩, ⟨.clock, round.now⟩,
    ⟨.sleep (TimeScale.earlier pollInterval (giveUp - round.now)), ()⟩]

/-- Another round follows: nothing is decided, and there is time left. -/
structure GoesOn (pod : Pod) (giveUp : T) (round : Undecided T) : Prop where
  undecided : decide? pod round.seen = none
  early : TimeScale.upTo (giveUp - round.now) TimeScale.zero = false

end Undecided

/-- The exchanges after which the pod is not looked at again, with what was seen last and whether the
pod is gone. -/
inductive LastLook (pod : Pod) (giveUp : T) :
    List (Exchange (World T)) → Except Failure Pod → Except Failure Bool → Prop where
  | decided {seen : Except Failure Pod} {decision : Except Failure Unit}
      (decides : decide? pod seen = some decision) :
      LastLook pod giveUp [⟨.call (.readPod pod.name pod.ns), seen⟩] seen
        (decision.map fun _ => true)
  | tooLate {seen : Except Failure Pod} (undecided : decide? pod seen = none) {now : T}
      (late : TimeScale.upTo (giveUp - now) TimeScale.zero = true) :
      LastLook pod giveUp [⟨.call (.readPod pod.name pod.ns), seen⟩, ⟨.clock, now⟩] seen (.ok false)

/-- The exchanges by which an evicted pod is looked at, in rounds, with what was seen last. Where the
turns run out there is no last look. -/
inductive Watched (pollInterval : T) (pod : Pod) (giveUp : T) (turns : Nat) :
    List (Exchange (World T)) → List (Undecided T) → Option (Except Failure Pod) →
      Except Failure Bool → Prop where
  | ended {rounds : List (Undecided T)} {closing : List (Exchange (World T))}
      {seen : Except Failure Pod} {gone : Except Failure Bool}
      (goes : ∀ round ∈ rounds, round.GoesOn pod giveUp) (last : LastLook pod giveUp closing seen gone) :
      Watched pollInterval pod giveUp turns
        (rounds.flatMap (Undecided.path pollInterval pod giveUp) ++ closing) rounds (some seen) gone
  | outOfTurns {rounds : List (Undecided T)} (goes : ∀ round ∈ rounds, round.GoesOn pod giveUp)
      (spent : rounds.length = turns) :
      Watched pollInterval pod giveUp turns
        (rounds.flatMap (Undecided.path pollInterval pod giveUp)) rounds none (.error .outOfTurns)

/-- A further round in front of those there are. -/
theorem Watched.cons {pollInterval : T} {pod : Pod} {giveUp : T} {turns : Nat}
    {path : List (Exchange (World T))} {rounds : List (Undecided T)}
    {seen : Option (Except Failure Pod)} {gone : Except Failure Bool} {round : Undecided T}
    (goes : round.GoesOn pod giveUp)
    (watched : Watched pollInterval pod giveUp turns path rounds seen gone) :
    Watched pollInterval pod giveUp (turns + 1) (round.path pollInterval pod giveUp ++ path)
      (round :: rounds) seen gone := by
  cases watched with
  | ended others last =>
    rw [← List.append_assoc, ← List.flatMap_cons]
    exact .ended (List.forall_mem_cons.mpr ⟨goes, others⟩) last
  | outOfTurns others spent =>
    rw [← List.flatMap_cons]
    exact .outOfTurns (List.forall_mem_cons.mpr ⟨goes, others⟩) (congrArg (· + 1) spent)

/-- An evicted pod is looked at in rounds. -/
theorem watched_of_awaitGone {pollInterval : T} {pod : Pod} {giveUp : T} {turns : Nat}
    {path : List (Exchange (World T))} {gone : Except Failure Bool}
    (reached : (awaitGone pollInterval pod giveUp turns).Reaches path (.done gone)) :
    ∃ rounds seen, Watched pollInterval pod giveUp turns path rounds seen gone := by
  induction turns generalizing path with
  | zero =>
    obtain ⟨rfl, same⟩ := Program.reaches_done_iff.mp reached
    cases same
    exact ⟨[], none, .outOfTurns (List.forall_mem_nil _) rfl⟩
  | succ turns ih =>
    obtain ⟨first, second, seen, rfl, looking, onward⟩ := reached.of_bind_done
    obtain rfl := looking.of_request
    split at onward
    · rename_i decision decides
      obtain ⟨rfl, same⟩ := Program.reaches_done_iff.mp onward
      cases same
      exact ⟨[], some seen, .ended (List.forall_mem_nil _) (.decided decides)⟩
    · rename_i undecided
      obtain ⟨third, fourth, now, rfl, reading, waiting⟩ := onward.of_bind_done
      obtain rfl := reading.of_request
      dsimp only at waiting
      split at waiting
      · rename_i late
        obtain ⟨rfl, same⟩ := Program.reaches_done_iff.mp waiting
        cases same
        exact ⟨[], some seen, .ended (List.forall_mem_nil _) (.tooLate undecided late)⟩
      · rename_i early
        obtain ⟨fifth, sixth, _, rfl, sleeping, again⟩ := waiting.of_bind_done
        obtain rfl := sleeping.of_request
        obtain ⟨rounds, last, watched⟩ := ih again
        have goes : Undecided.GoesOn pod giveUp ⟨seen, now⟩ :=
          ⟨undecided, Bool.eq_false_iff.mpr early⟩
        exact ⟨_, last, watched.cons goes⟩

/-! ## The whole course -/

/-- What becomes of a pod that was looked at for a time, and may be gone. -/
def endingOf (timeout : T) : Except Failure Bool → Except Failure (Outcome × String)
  | .ok true => .ok (.evicted, "")
  | .ok false => .ok (.timedOut, s!"still present {TimeScale.wholeText timeout}s after eviction")
  | .error (.refused refusal) => .ok (.failed, s!"cannot confirm deletion: {refusal.describe}")
  | .error failure => .error failure

/-- How an accepted eviction is followed: the clock is read, and read again as the looks begin. -/
inductive Followed (executor : Executor T) (pod : Pod) (grace : Int) (deadline : T) :
    List (Exchange (World T)) → Except Failure (Outcome × String) → Prop where
  | unmeasured (accepted : T) {error : TimeError}
      (measures : patience executor grace deadline accepted = .error error) :
      Followed executor pod grace deadline [⟨.clock, accepted⟩] (.error (.time error))
  | watched (accepted began : T) {timeout : T} {path : List (Exchange (World T))}
      {rounds : List (Undecided T)} {seen : Option (Except Failure Pod)} {gone : Except Failure Bool}
      (measures : patience executor grace deadline accepted = .ok timeout)
      (watched : Watched executor.pollInterval pod (began + timeout) executor.turns path rounds seen
        gone) :
      Followed executor pod grace deadline (⟨.clock, accepted⟩ :: ⟨.clock, began⟩ :: path)
        (endingOf timeout gone)

theorem followed_of_follow {executor : Executor T} {pod : Pod} {grace : Int} {deadline : T}
    {path : List (Exchange (World T))} {ending : Except Failure (Outcome × String)}
    (reached : (follow executor pod grace deadline).Reaches path (.done ending)) :
    Followed executor pod grace deadline path ending := by
  obtain ⟨first, second, accepted, rfl, reading, measuring⟩ := reached.of_bind_done
  obtain rfl := reading.of_request
  split at measuring
  · rename_i error measures
    obtain ⟨rfl, same⟩ := Program.reaches_done_iff.mp measuring
    cases same
    exact .unmeasured accepted measures
  · rename_i timeout measures
    obtain ⟨third, fourth, began, rfl, reading, watching⟩ := measuring.of_bind_done
    obtain rfl := reading.of_request
    obtain ⟨looks, rest, gone, rfl, looking, ended⟩ := watching.of_bind_done
    obtain ⟨rounds, seen, watched⟩ := watched_of_awaitGone looking
    have result : rest = [] ∧ ending = endingOf timeout gone := by
      split at ended <;>
      · obtain ⟨rfl, same⟩ := Program.reaches_done_iff.mp ended
        cases same
        simp_all [endingOf]
    obtain ⟨rfl, rfl⟩ := result
    rw [List.append_nil]
    exact .watched accepted began measures watched

end Eviction

open Eviction

/-- How an eviction goes, from the time at which its deadline is set to its report. -/
inductive Executor.Course (executor : Executor T) (pod : Pod) :
    List (Exchange (World T)) → Except Failure PodReport → Prop where
  /-- There is no grace period to give. -/
  | ungranted (start : T) {error : TimeError} (grants : executor.graceFor pod = .error error) :
      Course executor pod [⟨.clock, start⟩] (.error (.time error))
  /-- The last request is refused. -/
  | refused (start : T) {grace : Int} {path : List (Exchange (World T))} {rounds : List (Refused T)}
      {refusal : Refusal} (grants : executor.graceFor pod = .ok grace)
      (requested : Requested pod grace executor.retryInterval (start + executor.timeLimit)
        executor.turns path rounds (.error (.refused refusal))) :
      Course executor pod (⟨.clock, start⟩ :: path)
        (.ok ⟨pod.ns, pod.name, (ofRefusal refusal).1, (ofRefusal refusal).2, rounds.length + 1⟩)
  /-- The last request fails otherwise, or the turns run out. -/
  | failed (start : T) {grace : Int} {path : List (Exchange (World T))} {rounds : List (Refused T)}
      {failure : Failure} (grants : executor.graceFor pod = .ok grace)
      (requested : Requested pod grace executor.retryInterval (start + executor.timeLimit)
        executor.turns path rounds (.error failure))
      (other : ∀ refusal, failure ≠ .refused refusal) :
      Course executor pod (⟨.clock, start⟩ :: path) (.error failure)
  | accepted (start : T) {grace : Int} {path following : List (Exchange (World T))}
      {rounds : List (Refused T)} {ending : Except Failure (Outcome × String)}
      (grants : executor.graceFor pod = .ok grace)
      (requested : Requested pod grace executor.retryInterval (start + executor.timeLimit)
        executor.turns path rounds (.ok ()))
      (followed : Followed executor pod grace (start + executor.timeLimit) following ending) :
      Course executor pod (⟨.clock, start⟩ :: (path ++ following))
        (ending.map fun ending => ⟨pod.ns, pod.name, ending.1, ending.2, rounds.length + 1⟩)

/-- Whatever the answers and the times, an eviction goes in rounds. -/
theorem Executor.course_of_evict {executor : Executor T} {pod : Pod}
    {path : List (Exchange (World T))} {result : Except Failure PodReport}
    (reached : (executor.evict pod).Reaches path (.done result)) : executor.Course pod path result := by
  unfold Executor.evict at reached
  obtain ⟨first, second, start, rfl, reading, granting⟩ := reached.of_bind_done
  obtain rfl := reading.of_request
  split at granting
  · rename_i error grants
    obtain ⟨rfl, same⟩ := Program.reaches_done_iff.mp granting
    cases same
    exact .ungranted start grants
  · rename_i grace grants
    obtain ⟨requests, rest, ⟨answer, count⟩, rfl, requesting, onward⟩ := granting.of_bind_done
    obtain ⟨rounds, requested, rfl⟩ := requested_of_retry requesting
    obtain failure | ⟨⟩ := answer
    · by_cases refused : ∃ refusal, failure = .refused refusal
      · obtain ⟨refusal, rfl⟩ := refused
        obtain ⟨rfl, same⟩ := Program.reaches_done_iff.mp onward
        cases same
        rw [List.append_nil, Nat.add_comm]
        exact .refused start grants requested
      · have other : ∀ refusal, failure ≠ .refused refusal := not_exists.mp refused
        cases failure with
        | refused refusal => exact absurd rfl (other refusal)
        | _ =>
          obtain ⟨rfl, same⟩ := Program.reaches_done_iff.mp onward
          cases same
          rw [List.append_nil]
          exact .failed start grants requested other
    · obtain ⟨following, last, ending, rfl, followed, ended⟩ := onward.of_bind_done
      have course := Course.accepted start grants requested (followed_of_follow followed)
      cases ending with
      | error failure =>
        obtain ⟨rfl, same⟩ := Program.reaches_done_iff.mp ended
        cases same
        rw [List.append_nil]
        exact course
      | ok ending =>
        obtain ⟨rfl, same⟩ := Program.reaches_done_iff.mp ended
        cases same
        rw [List.append_nil, Nat.add_comm 1]
        exact course

end Evacuation
