import Evacuation.Cluster
import Evacuation.Proofs.Paths
/-!
# Reads that are sent again

Work that is repeated by a fixed plan goes turn by turn: it ends with what the work comes to, or a
refusal that may pass is followed by a pause and the next turn (`Work.reaches_turn_iff`). With any plan,
what a loop asks for it asks for in its attempts (`Work.exists_tries`). A read is work with a fixed
plan. Its paths are exactly the readings: the request is sent until an answer stands, three times at
most, with a pause of two seconds after each answer that does not (`Work.reaches_readAgain_iff`).
-/
namespace Evacuation

variable {T α : Type}

/-- The refusal may pass: a conflict, a request too many, or a failure of the server. -/
def Refusal.Passing (refusal : Refusal) : Prop :=
  ∃ status, refusal.status = some status ∧ (status = 409 ∨ status = 429 ∨ 500 ≤ status)

theorem Refusal.isTransient_iff {refusal : Refusal} :
    refusal.isTransient = true ↔ refusal.Passing := by
  obtain ⟨_ | status, reason⟩ := refusal <;> simp [Refusal.isTransient, Refusal.Passing, or_assoc]

namespace Work

variable {work : Work T (Except Failure α)} {planned : Nat → Option T} {turns number : Nat}

/-- What follows the work in a turn of a loop with a fixed plan. -/
def afterwards (work : Work T (Except Failure α)) (planned : Nat → Option T) (turns number : Nat)
    (result : Except Failure α) : Work T (Except Failure α × Nat) :=
  match result with
  | .error (.refused refusal) =>
    match if refusal.isTransient then planned number else none with
    | none => .done (result, number)
    | some pause =>
      (sleep pause).bind fun _ => retry work (fun number => .done (planned number)) turns (number + 1)
  | _ => .done (result, number)

theorem retry_succ : retry work (fun number => .done (planned number)) (turns + 1) number =
    work.bind (afterwards work planned turns number) := by
  refine congrArg work.bind (funext fun result => ?_)
  cases result with
  | ok value => rfl
  | error failure =>
    cases failure with
    | refused refusal =>
      dsimp only [afterwards]
      cases refusal.isTransient with
      | true => cases planned number <;> rfl
      | false => rfl
    | _ => rfl

/-- One turn of a loop with a fixed plan: the loop ends with what the work comes to, or a transient
refusal is followed by the planned pause and the next turn. -/
theorem reaches_turn_iff {path : List (Exchange (World T))} {outcome : Except Failure α × Nat} :
    (retry work (fun number => .done (planned number)) (turns + 1) number).Reaches path
        (.done outcome) ↔
      (∃ result, work.Reaches path (.done result) ∧ outcome = (result, number) ∧
        ∀ refusal, result = .error (.refused refusal) → refusal.isTransient = true →
          planned number = none) ∨
      ∃ first refusal pause rest, work.Reaches first (.done (.error (.refused refusal))) ∧
        refusal.isTransient = true ∧ planned number = some pause ∧
        path = first ++ ⟨.sleep pause, ()⟩ :: rest ∧
        (retry work (fun number => .done (planned number)) turns (number + 1)).Reaches rest
          (.done outcome) := by
  rw [retry_succ]
  constructor
  · intro reached
    obtain ⟨first, second, result, rfl, working, onward⟩ := reached.of_bind_done
    unfold afterwards at onward
    split at onward
    · rename_i refusal
      split at onward
      · rename_i unplanned
        obtain ⟨rfl, same⟩ := Program.reaches_done_iff.mp onward
        cases same
        rw [List.append_nil]
        refine .inl ⟨_, working, rfl, ?_⟩
        rintro _ ⟨⟩ transient
        rwa [if_pos transient] at unplanned
      · rename_i pause plans
        obtain ⟨transient, plans⟩ := Option.ite_none_right_eq_some.mp plans
        obtain ⟨third, rest, _, rfl, sleeping, going⟩ := onward.of_bind_done
        obtain rfl := sleeping.of_request
        exact .inr ⟨first, refusal, pause, rest, working, transient, plans, rfl, going⟩
    · rename_i other
      obtain ⟨rfl, same⟩ := Program.reaches_done_iff.mp onward
      cases same
      rw [List.append_nil]
      exact .inl ⟨result, working, rfl, fun refusal refused => absurd refused (other refusal)⟩
  · rintro (⟨result, working, rfl, final⟩ |
      ⟨first, refusal, pause, rest, working, transient, plans, rfl, onward⟩)
    · rw [← List.append_nil path]
      refine working.bind ?_
      unfold afterwards
      split
      · rename_i refusal
        have unplanned : (if refusal.isTransient then planned number else none) = none :=
          ite_eq_right_iff.mpr (final refusal rfl)
        rw [unplanned]
        exact .here _
      · exact .here _
    · refine working.bind ?_
      simp only [afterwards, transient, if_true, plans]
      exact .next _ onward

/-- The attempts of a loop, each with its exchanges, and what was counted along them: nothing was
counted in between. The number of the last attempt is counted on from that of the first; where the turns
ran out there was one more to come. -/
structure Tries (work : Work T (Except Failure α)) (counted : Exchange (World T) → Bool)
    (number count : Nat) (path : List (Exchange (World T))) (result : Except Failure α)
    (tries : List (List (Exchange (World T)))) : Prop where
  worked : ∀ tried ∈ tries, ∃ answer, work.Reaches tried (.done answer)
  total : path.countP counted = tries.flatten.countP counted
  numbered : tries ≠ [] ∧ tries.length + number = count + 1 ∨
    result = .error .outOfTurns ∧ tries.length + number = count

/-- A loop makes attempts, whatever its plan asks for to find a pause. -/
theorem exists_tries {plan : Nat → Work T (Option T)} {counted : Exchange (World T) → Bool}
    (planning : ∀ {number path pause}, (plan number).Reaches path (.done pause) →
      path.countP counted = 0)
    (pausing : ∀ span, counted ⟨.sleep span, ()⟩ = false)
    {count : Nat} {path : List (Exchange (World T))} {result : Except Failure α}
    (reached : (retry work plan turns number).Reaches path (.done (result, count))) :
    ∃ tries, Tries work counted number count path result tries := by
  induction turns generalizing number path with
  | zero =>
    obtain ⟨rfl, same⟩ := Program.reaches_done_iff.mp reached
    cases same
    exact ⟨[], nofun, rfl, .inr ⟨rfl, Nat.zero_add _⟩⟩
  | succ turns ih =>
    obtain ⟨first, second, answer, rfl, working, onward⟩ := reached.of_bind_done
    -- The turn is the last one if its failure is not worth another, or if no pause is planned.
    have last {before rest : List (Exchange (World T))} {value : Except Failure α}
        (uncounted : before.countP counted = 0)
        (settled : Program.Reaches (Program.done (value, number)) rest
          (.done (result, count) : Work T (Except Failure α × Nat))) :
        ∃ tries, Tries work counted number count (first ++ (before ++ rest)) result tries := by
      obtain ⟨rfl, same⟩ := Program.reaches_done_iff.mp settled
      cases same
      refine ⟨[first], List.forall_mem_singleton.mpr ⟨_, working⟩, ?_,
        .inl ⟨List.cons_ne_nil _ _, Nat.add_comm 1 _⟩⟩
      rw [List.flatten_singleton, List.countP_append, List.countP_append, uncounted]
      rfl
    split at onward
    · split at onward
      · obtain ⟨third, fourth, pause, rfl, planned, onward⟩ := onward.of_bind_done
        have uncounted := planning planned
        split at onward
        · exact last uncounted onward
        · rename_i span
          obtain ⟨slept, fifth, _, rfl, sleeping, again⟩ := onward.of_bind_done
          obtain rfl := sleeping.of_request
          obtain ⟨tries, worked, total, numbered⟩ := ih again
          refine ⟨first :: tries, List.forall_mem_cons.mpr ⟨⟨_, working⟩, worked⟩, ?_, ?_⟩
          · have paused : ([⟨.sleep span, ()⟩] : List (Exchange (World T))).countP counted = 0 := by
              rw [List.countP_singleton, pausing span]
              rfl
            rw [List.flatten_cons, List.countP_append, List.countP_append, List.countP_append,
              List.countP_append, uncounted, paused, total, Nat.zero_add, Nat.zero_add]
          · rw [List.length_cons]
            have nonempty := List.cons_ne_nil first tries
            obtain ⟨-, ended⟩ | ⟨spent, ended⟩ := numbered
            · exact .inl ⟨nonempty, by omega⟩
            · exact .inr ⟨spent, by omega⟩
      · exact last (List.countP_nil) onward
    · exact last (List.countP_nil) onward

end Work

/-! ## Readings -/

section Readings

variable [TimeScale T]

namespace World

/-- The exchanges of a request that was refused some times, with a pause after each refusal. -/
def refused (call : Call) (refusals : List Refusal) : List (Exchange (World T)) :=
  refusals.flatMap fun refusal =>
    [⟨.call call, .error (.refused refusal)⟩, ⟨.sleep (TimeScale.ofInt 2), ()⟩]

/-- A request as it is sent until an answer stands, a number of times again at most: each answer before
is a refusal that may pass, and such a refusal stands only if the request is not sent again. -/
structure Sending (call : Call) (most : Nat) (path : List (Exchange (World T)))
    (refusals : List Refusal) (answer : Except Failure call.Answer) : Prop where
  path_eq : path = refused call refusals ++ [⟨.call call, answer⟩]
  passing : ∀ refusal ∈ refusals, refusal.Passing
  inLimit : refusals.length ≤ most
  final : ∀ refusal, answer = .error (.refused refusal) → refusal.Passing → refusals.length = most

/-- A read as it is sent until an answer stands, three times in all at most. -/
abbrev Reading (call : Call) (path : List (Exchange (World T))) (refusals : List Refusal)
    (answer : Except Failure call.Answer) : Prop :=
  Sending call 2 path refusals answer

variable {call : Call} {most : Nat} {path : List (Exchange (World T))}
  {answer : Except Failure call.Answer}

/-- The answer that stands comes last. -/
theorem Sending.getLast?_eq {refusals : List Refusal}
    (sending : Sending call most path refusals answer) :
    path.getLast? = some ⟨.call call, answer⟩ := by
  rw [sending.path_eq, List.getLast?_append]
  rfl

/-- The answer that stands was given. -/
theorem Sending.mem {refusals : List Refusal} (sending : Sending call most path refusals answer) :
    ⟨.call call, answer⟩ ∈ path :=
  List.mem_of_getLast? sending.getLast?_eq

/-- Nothing else is asked, but for pauses. -/
theorem Sending.request_of_mem {refusals : List Refusal} {exchange : Exchange (World T)}
    (sending : Sending call most path refusals answer) (asked : exchange ∈ path) :
    exchange.request = .call call ∨ ∃ span, exchange.request = .sleep span := by
  rw [sending.path_eq, List.mem_append, refused, List.mem_flatMap, List.mem_singleton] at asked
  obtain ⟨refusal, -, there⟩ | rfl := asked
  · rw [List.mem_cons, List.mem_singleton] at there
    obtain rfl | rfl := there
    · exact .inl rfl
    · exact .inr ⟨_, rfl⟩
  · exact .inl rfl

/-- A request that is not sent again is sent once. -/
theorem sending_zero_iff :
    (∃ refusals, Sending call 0 path refusals answer) ↔ path = [⟨.call call, answer⟩] := by
  constructor
  · rintro ⟨refusals, rfl, -, inLimit, -⟩
    obtain rfl := List.eq_nil_of_length_eq_zero (Nat.le_zero.mp inLimit)
    rfl
  · rintro rfl
    exact ⟨[], rfl, nofun, Nat.le_refl 0, fun _ _ _ => rfl⟩

/-- A request that may be sent again either has an answer that stands, or it is sent again after a
refusal that may pass. -/
theorem sending_succ_iff : (∃ refusals, Sending call (most + 1) path refusals answer) ↔
    (path = [⟨.call call, answer⟩] ∧
      ∀ refusal, answer = .error (.refused refusal) → ¬ refusal.Passing) ∨
    ∃ refusal rest, Refusal.Passing refusal ∧
      path = ⟨.call call, .error (.refused refusal)⟩ :: ⟨.sleep (TimeScale.ofInt 2), ()⟩ :: rest ∧
      ∃ refusals, Sending call most rest refusals answer := by
  constructor
  · rintro ⟨refusals, rfl, passing, inLimit, final⟩
    cases refusals with
    | nil =>
      refine .inl ⟨rfl, fun refusal refused passes => ?_⟩
      cases final refusal refused passes
    | cons refusal refusals =>
      obtain ⟨passes, others⟩ := List.forall_mem_cons.mp passing
      refine .inr ⟨refusal, _, passes, rfl, refusals, rfl, others, ?_, fun last refused again => ?_⟩
      · exact Nat.le_of_succ_le_succ inLimit
      · exact Nat.succ.inj (final last refused again)
  · rintro (⟨rfl, stands⟩ | ⟨refusal, _, passes, rfl, refusals, rfl, others, inLimit, final⟩)
    · exact ⟨[], rfl, nofun, Nat.zero_le _, fun refusal refused passes =>
        absurd passes (stands refusal refused)⟩
    · refine ⟨refusal :: refusals, rfl, List.forall_mem_cons.mpr ⟨passes, others⟩, ?_,
        fun last refused again => ?_⟩
      · exact Nat.succ_le_succ inLimit
      · exact congrArg (· + 1) (final last refused again)

end World

namespace Work

variable {c : Call} {path : List (Exchange (World T))} {answer : Except Failure c.Answer}

omit [TimeScale T] in
/-- One request is one exchange. -/
theorem reaches_call_iff :
    (call c).Reaches path (.done answer : Work T (Except Failure c.Answer)) ↔
      path = [⟨.call c, answer⟩] := by
  constructor
  · exact Program.Reaches.of_request
  · rintro rfl
    exact .next _ (.here _)

/-- From some attempt on, a read is sent as often as attempts are left. -/
theorem reaches_reads_iff {planned : Nat → Option T} {most number : Nat}
    (pauses : ∀ attempt, planned attempt =
      if attempt < number + most then some (TimeScale.ofInt 2) else none) :
    (∃ count, (retry (call c) (fun attempt => .done (planned attempt)) (most + 1) number).Reaches path
        (.done (answer, count))) ↔ ∃ refusals, World.Sending c most path refusals answer := by
  induction most generalizing number path with
  | zero =>
    have unplanned : planned number = none := by
      rw [pauses, if_neg (by omega)]
    rw [World.sending_zero_iff]
    constructor
    · rintro ⟨count, reached⟩
      obtain ⟨result, sent, same, -⟩ | ⟨_, _, pause, _, _, _, plans, _⟩ :=
        reaches_turn_iff.mp reached
      · cases same
        exact reaches_call_iff.mp sent
      · rw [unplanned] at plans
        cases plans
    · rintro rfl
      have sent := (@reaches_call_iff T c _ answer).mpr rfl
      exact ⟨number, reaches_turn_iff.mpr (.inl ⟨answer, sent, rfl, fun _ _ _ => unplanned⟩)⟩
  | succ most ih =>
    have plans : planned number = some (TimeScale.ofInt 2) := by
      rw [pauses, if_pos (by omega)]
    have onward (rest : List (Exchange (World T))) := @ih rest (number + 1) (by
      intro attempt
      rw [pauses, Nat.add_right_comm, Nat.add_assoc])
    rw [World.sending_succ_iff]
    constructor
    · rintro ⟨count, reached⟩
      obtain ⟨result, sent, same, stands⟩ | ⟨first, refusal, pause, rest, sent, transient, paused, rfl,
        again⟩ := reaches_turn_iff.mp reached
      · cases same
        refine .inl ⟨reaches_call_iff.mp sent, fun refusal refused passes => ?_⟩
        have unplanned := stands refusal refused (Refusal.isTransient_iff.mpr passes)
        rw [plans] at unplanned
        cases unplanned
      · obtain rfl := reaches_call_iff.mp sent
        rw [plans] at paused
        cases paused
        refine .inr ⟨refusal, rest, Refusal.isTransient_iff.mp transient, rfl, ?_⟩
        exact (onward rest).mp ⟨count, again⟩
    · rintro (⟨rfl, stands⟩ | ⟨refusal, rest, passes, rfl, sending⟩)
      · have sent := (@reaches_call_iff T c _ answer).mpr rfl
        refine ⟨number, reaches_turn_iff.mpr (.inl ⟨answer, sent, rfl, fun refusal refused again => ?_⟩)⟩
        exact absurd (Refusal.isTransient_iff.mp again) (stands refusal refused)
      · obtain ⟨count, again⟩ := (onward rest).mpr sending
        have sent : (call c).Reaches [⟨.call c, .error (.refused refusal)⟩]
            (.done (.error (.refused refusal)) : Work T (Except Failure c.Answer)) :=
          reaches_call_iff.mpr rfl
        exact ⟨count, reaches_turn_iff.mpr (.inr ⟨_, refusal, _, rest, sent,
          Refusal.isTransient_iff.mpr passes, plans, rfl, again⟩)⟩

/-- The paths of a read are its readings. -/
theorem reaches_readAgain_iff :
    (readAgain (call c)).Reaches path (.done answer : Work T (Except Failure c.Answer)) ↔
      ∃ refusals, World.Reading c path refusals answer := by
  rw [← @reaches_reads_iff T _ c path answer _ 2 1 fun _ => rfl]
  refine Program.reaches_map_iff.trans ⟨?_, ?_⟩
  · rintro ⟨⟨result, count⟩, retried, rfl⟩
    exact ⟨count, retried⟩
  · rintro ⟨count, retried⟩
    exact ⟨_, retried, rfl⟩

end Work

end Readings

end Evacuation
