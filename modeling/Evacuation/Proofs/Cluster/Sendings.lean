import Mathlib.Algebra.Group.Action.Defs
import Mathlib.Algebra.Order.BigOperators.Group.List
import Evacuation.Proofs.Cordon.Attempts
/-!
# How often requests are sent

Listing the pods of a node and looking a daemon set up are reads: they are sent again after a refusal
that may pass, two seconds later, and three times in all at most. Every other request is sent once each
time it is asked for, whatever the answer is (`Work.sends_each_request`). The loops that cordon a node,
request an eviction and look at an evicted pod repeat requests of the second kind only, so none of them
sends a request more often than it goes round. For the loops that count their attempts that is one
lemma on what an attempt asks (`Work.length_retry_le`).
-/
namespace Evacuation

variable {T α β : Type}

namespace Work

/-! ## Single requests and reads -/

/-- In any surroundings the work sends a request until an answer stands, a number of times again at
most, and comes to that answer; and every sequence of answers can come about. -/
structure Sends [TimeScale T] (c : Call) (most : Nat) (work : Work T (Except Failure c.Answer)) :
    Prop where
  ends : ∀ {σ : Type} (surroundings : Surroundings (World T) σ) (state : σ), ∃ refusals,
    World.Sending c most (work.course surroundings state) refusals (work.run surroundings state).1
  every : ∀ path refusals answer, World.Sending c most path refusals answer →
    work.Reaches path (.done answer)

/-- In any surroundings the work sends one request and comes to the answer, whatever it is. -/
def SendsOnce (c : Call) (work : Work T (Except Failure c.Answer)) : Prop :=
  ∀ {σ : Type} (surroundings : Surroundings (World T) σ) (state : σ),
    work.course surroundings state = [⟨.call c, (work.run surroundings state).1⟩]

theorem sendsOnce_call (c : Call) : SendsOnce c (call (T := T) c) := fun _ _ => rfl

/-- A read is sent twice again at most. -/
theorem sends_readAgain [TimeScale T] (c : Call) : Sends c 2 (readAgain (call (T := T) c)) where
  ends surroundings state := reaches_readAgain_iff.mp (Program.Reaches.course surroundings _ state)
  every _ refusals _ sending := reaches_readAgain_iff.mpr ⟨refusals, sending⟩

/-! ## Loops -/

/-- A loop asks for a kind of thing no more often than it counts turns, if a turn asks for it at most
once, and its plan asks for nothing but the time. -/
theorem length_retry_le (kind : Exchange (World T) → Option β) {work : Work T (Except Failure α)}
    {plan : Nat → Work T (Option T)}
    (once : ∀ {path result}, work.Reaches path (.done result) → (path.filterMap kind).length ≤ 1)
    (planning : ∀ number, (plan number).Only fun request : World.Request T => request = .clock)
    (timing : ∀ now : T, kind ⟨.clock, now⟩ = none) (pausing : ∀ span, kind ⟨.sleep span, ()⟩ = none)
    {turns number count : Nat} {path : List (Exchange (World T))} {result : Except Failure α}
    (reached : (retry work plan turns number).Reaches path (.done (result, count))) :
    (path.filterMap kind).length + number ≤ count + 1 := by
  have unplanned {number : Nat} {path : List (Exchange (World T))} {pause : Option T}
      (planned : (plan number).Reaches path (.done pause)) :
      path.countP (fun exchange => (kind exchange).isSome) = 0 := by
    refine List.countP_eq_zero.mpr fun exchange asked => ?_
    obtain ⟨request, reply⟩ := exchange
    obtain rfl : request = World.Request.clock := (planning number).of_mem_path planned asked
    rw [timing reply]
    exact Bool.false_ne_true
  have unpaused (span : T) : (kind ⟨.sleep span, ()⟩).isSome = false := by
    rw [pausing span]
    rfl
  obtain ⟨tries, worked, total, numbered⟩ := exists_tries unplanned unpaused reached
  have each : ∀ asked ∈ tries.map (·.countP fun exchange => (kind exchange).isSome), asked ≤ 1 := by
    intro asked listed
    obtain ⟨tried, there, rfl⟩ := List.mem_map.mp listed
    obtain ⟨answer, working⟩ := worked tried there
    rw [← List.length_filterMap_eq_countP]
    exact once working
  have sum := List.sum_le_card_nsmul _ 1 each
  rw [List.length_map, smul_eq_mul, Nat.mul_one, ← List.countP_flatten, ← total,
    ← List.length_filterMap_eq_countP] at sum
  omega

variable [TimeScale T]

/-- A loop that cordons a node reads and patches it no more often than it counts attempts. -/
theorem length_cordonLoop_le {name : String} {attempts : Int} {turns count : Nat}
    {path : List (Exchange (World T))} {result : Except Failure Unit}
    (reached : (retry (Cordon.attempt name) (Cordon.plan attempts) turns 1).Reaches path
      (.done (result, count))) :
    (World.nodeReads path).length ≤ count ∧ (World.patches path).length ≤ count := by
  have planning (number : Nat) :
      (Cordon.plan (T := T) attempts number).Only fun request : World.Request T => request = .clock :=
    trivial
  have reads := length_retry_le World.nodeRead? (fun trying => by
    obtain ⟨attempt, rfl, -⟩ := Cordon.reaches_attempt_iff.mp trying
    exact (attempt.length_nodeReads name).le) planning (fun _ => rfl) (fun _ => rfl) reached
  have patches := length_retry_le World.patch? (fun trying => by
    obtain ⟨attempt, rfl, -⟩ := Cordon.reaches_attempt_iff.mp trying
    exact attempt.length_patches name) planning (fun _ => rfl) (fun _ => rfl) reached
  exact ⟨Nat.le_of_succ_le_succ reads, Nat.le_of_succ_le_succ patches⟩

/-- A loop that requests an eviction does so no more often than it counts attempts. -/
theorem length_evictionLoop_le {pod : Pod} {grace : Int} {interval deadline : T} {turns count : Nat}
    {path : List (Exchange (World T))} {result : Except Failure Unit}
    (reached : (retry (evictPod pod grace) (Eviction.plan interval deadline) turns 1).Reaches path
      (.done (result, count))) : (World.requests path).length ≤ count := by
  have planning (number : Nat) :
      (Eviction.plan interval deadline number).Only fun request : World.Request T => request = .clock :=
    ⟨rfl, fun _ => ⟨rfl, fun _ => trivial⟩⟩
  have requests := length_retry_le World.requested? (fun asking => by
    rw [reaches_call_iff.mp asking]
    exact Nat.le_refl 1) planning (fun _ => rfl) (fun _ => rfl) reached
  exact Nat.le_of_succ_le_succ requests

/-- A loop that looks at a pod does so once more than it pauses at most. -/
theorem length_pollLoop_le {pollInterval giveUp : T} {pod : Pod} {turns : Nat}
    {path : List (Exchange (World T))} {gone : Except Failure Bool}
    (reached : (Eviction.awaitGone pollInterval pod giveUp turns).Reaches path (.done gone)) :
    (World.looks path).length ≤ (World.sleeps path).length + 1 := by
  induction turns generalizing path with
  | zero =>
    obtain ⟨rfl, -⟩ := Program.reaches_done_iff.mp reached
    exact Nat.zero_le _
  | succ turns ih =>
    obtain ⟨first, second, seen, rfl, looking, onward⟩ := reached.of_bind_done
    obtain rfl := looking.of_request
    have looked : (World.looks [(⟨.call (.readPod pod.name pod.ns), seen⟩ :
        Exchange (World T))]).length = 1 := rfl
    rw [World.looks_append, List.length_append, looked]
    split at onward
    · obtain ⟨rfl, -⟩ := Program.reaches_done_iff.mp onward
      exact Nat.succ_le_succ (Nat.zero_le _)
    · obtain ⟨third, fourth, now, rfl, reading, waiting⟩ := onward.of_bind_done
      obtain rfl := reading.of_request
      dsimp only at waiting
      split at waiting
      · obtain ⟨rfl, -⟩ := Program.reaches_done_iff.mp waiting
        exact Nat.succ_le_succ (Nat.zero_le _)
      · -- The pause at the end of a turn that goes on makes up for its look.
        obtain ⟨fifth, sixth, _, rfl, sleeping, again⟩ := waiting.of_bind_done
        obtain rfl := sleeping.of_request
        calc
          1 + (World.looks sixth).length ≤ 1 + ((World.sleeps sixth).length + 1) :=
            Nat.add_le_add_left (ih again) 1
          _ = (World.sleeps sixth).length + 1 + 1 := Nat.add_comm 1 _

/-- How often requests are sent, whatever the answers. Listing the pods of a node and looking a daemon
set up are sent until an answer stands, three times at most and with a pause of two seconds in between,
and come to the answer that stands. All other requests are sent once. The loops that repeat these send
none of them more often than they count attempts, or than they pause and once more. -/
theorem sends_each_request :
    ((∀ node, Sends (.listPods node) 2 (podsOn (T := T) node)) ∧
      ∀ name ns, Sends (.readDaemonSet name ns) 2 (getDaemonSet (T := T) name ns)) ∧
    ((∀ name, SendsOnce (.readNode name) (getNode (T := T) name)) ∧
      (∀ name, SendsOnce (.patchNode name) (disableScheduling (T := T) name)) ∧
      (∀ pod grace, SendsOnce (.evict pod grace) (evictPod (T := T) pod grace)) ∧
      (∀ name ns, SendsOnce (.readPod name ns) (getPod (T := T) name ns)) ∧
      ∀ recorder event {σ : Type} (surroundings : Surroundings (World T) σ) (state : σ),
        ∃ answer, (record recorder event).course surroundings state =
            [⟨.call (.createEvent recorder.ns (recorder.file event)), answer⟩] ∧
          ((record recorder event).run surroundings state).1 = letGo answer) ∧
    ((∀ name attempts turns count (path : List (Exchange (World T))) result,
        (retry (Cordon.attempt name) (Cordon.plan attempts) turns 1).Reaches path
          (.done (result, count)) →
        (World.nodeReads path).length ≤ count ∧ (World.patches path).length ≤ count) ∧
      (∀ pod grace (interval deadline : T) turns count path result,
        (retry (evictPod pod grace) (Eviction.plan interval deadline) turns 1).Reaches path
          (.done (result, count)) →
        (World.requests path).length ≤ count) ∧
      ∀ (pollInterval giveUp : T) pod turns path gone,
        (Eviction.awaitGone pollInterval pod giveUp turns).Reaches path (.done gone) →
        (World.looks path).length ≤ (World.sleeps path).length + 1) := by
  refine ⟨⟨fun _ => sends_readAgain _, fun _ _ => sends_readAgain _⟩, ⟨fun _ => sendsOnce_call _,
    fun _ => sendsOnce_call _, fun _ _ => sendsOnce_call _, fun _ _ => sendsOnce_call _, ?_⟩, ?_⟩
  · intro recorder event σ surroundings state
    exact ⟨_, rfl, rfl⟩
  · exact ⟨fun _ _ _ _ _ _ reached => length_cordonLoop_le reached,
      fun _ _ _ _ _ _ _ _ reached => length_evictionLoop_le reached,
      fun _ _ _ _ _ _ reached => length_pollLoop_le reached⟩

/-- A cluster that refuses one request after another, and in the end knows of nothing. Time stands
still. -/
def refusing : Surroundings (World Rat) (List Refusal)
  | .call _, refusals => (.error (.refused (refusals.headD .notFound)), refusals.tail)
  | .clock, refusals => ((0 : Rat), refusals)
  | .sleep _, refusals | .openPool _ _, refusals | .resume _ _, refusals | .closePool _, refusals
  | .tell _, refusals => ((), refusals)

/-- Four refusals that may pass. -/
def overload : List Refusal :=
  [⟨some 500, none⟩, ⟨some 429, none⟩, ⟨some 503, none⟩, ⟨some 409, none⟩]

/-- Where every request is refused, the pods of a node are asked for three times and a node once, and
the loops go on until nothing is known of a node or a pod. -/
theorem sends_each_request_overloaded :
    (((podsOn "n1").run refusing overload).1 = .error (.refused ⟨some 503, none⟩) ∧
      World.sleeps ((podsOn "n1").course refusing overload) = [2, 2] ∧
      ∃ refusals, World.Reading (.listPods "n1") ((podsOn "n1").course refusing overload) refusals
        ((podsOn "n1").run refusing overload).1) ∧
    (getNode (T := Rat) "n1").course refusing overload =
      [⟨.call (.readNode "n1"), .error (.refused ⟨some 500, none⟩)⟩] ∧
    (∃ path, (retry (Cordon.attempt "n1") (Cordon.plan 5) 10 1).Reaches path (.done (.ok (), 5)) ∧
      (World.nodeReads path).length ≤ 5 ∧ (World.patches (T := Rat) path).length ≤ 5) ∧
    (∃ path, (retry (evictPod Eviction.lonePod 30) (Eviction.plan 5 60) 10 1).Reaches path
        (.done (.error (.refused .notFound), 5)) ∧
      (World.requests (T := Rat) path).length ≤ 5) ∧
    ∃ path, (Eviction.awaitGone 1 Eviction.lonePod 60 10).Reaches path (.done (.ok true)) ∧
      (World.looks path).length ≤ (World.sleeps (T := Rat) path).length + 1 := by
  obtain ⟨⟨pods, -⟩, ⟨node, -⟩, cordon, eviction, poll⟩ := sends_each_request (T := Rat)
  refine ⟨⟨rfl, by decide +kernel, (pods "n1").ends refusing overload⟩,
    node "n1" refusing overload, ?_, ?_, ?_⟩
  · obtain ⟨path, reached⟩ := Program.Reaches.of_run refusing
      (retry (Cordon.attempt "n1") (Cordon.plan (T := Rat) 5) 10 1) overload
    have ended : ((retry (Cordon.attempt "n1") (Cordon.plan (T := Rat) 5) 10 1).run refusing
        overload).1 = (.ok (), 5) := by
      decide +kernel
    rw [ended] at reached
    exact ⟨path, reached, cordon _ _ _ _ path _ reached⟩
  · obtain ⟨path, reached⟩ := Program.Reaches.of_run refusing
      (retry (evictPod Eviction.lonePod 30) (Eviction.plan (5 : Rat) 60) 10 1) overload
    have ended : ((retry (evictPod Eviction.lonePod 30) (Eviction.plan (5 : Rat) 60) 10 1).run refusing
        overload).1 = (.error (.refused .notFound), 5) := by
      decide +kernel
    rw [ended] at reached
    exact ⟨path, reached, eviction _ _ _ _ _ _ path _ reached⟩
  · obtain ⟨path, reached⟩ := Program.Reaches.of_run refusing
      (Eviction.awaitGone (1 : Rat) Eviction.lonePod 60 10) overload
    have ended : ((Eviction.awaitGone (1 : Rat) Eviction.lonePod 60 10).run refusing
        overload).1 = .ok true := by
      decide +kernel
    rw [ended] at reached
    exact ⟨path, reached, poll _ _ _ _ path _ reached⟩

end Work

end Evacuation
