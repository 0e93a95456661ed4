import Mathlib.Algebra.Order.BigOperators.Group.List
import Evacuation.Proofs.Eviction.Outcomes
import Evacuation.Proofs.Time.Exact
/-!
# How an eviction keeps to its deadline

On the exact scale, with a clock that only pauses move, both loops of an eviction are paced: each
pause is the interval, cut at what is left. So an eviction sleeps no longer than it is given, and the
requests are at most the intervals that fit into that time and one more. The main statement,
`Executor.evict_inTime`, says so for every course of the answers; it also says that an eviction which
is refused to the end makes all of these requests, and that the turns of its loops do not run out.
-/
namespace Evacuation

/-- No request for an eviction was accepted along the path. -/
def World.Unaccepted (path : List (Exchange (World Rat))) : Prop :=
  ∀ request ∈ World.requests path, request.2.2 ≠ .ok ()

/-- How an eviction keeps to its time along a path. -/
structure Executor.InTime (executor : Executor Rat) (pod : Pod) (path : List (Exchange (World Rat)))
    (result : Except Failure PodReport) : Prop where
  /-- Until a request is accepted, each pause is at most the retry interval. -/
  retries : ∀ before after, path = before ++ after → World.Unaccepted before →
    ∀ span ∈ World.pauses before, 0 < span ∧ span ≤ executor.retryInterval
  /-- After that, each pause is at most the poll interval. -/
  polls : ∀ before (grace : Int) after,
    path = before ++ ⟨.call (.evict pod grace), .ok ()⟩ :: after →
      ∀ span ∈ World.pauses after, 0 < span ∧ span ≤ executor.pollInterval
  /-- An accepted eviction is waited for no longer than its grace period and the headroom. A pod that
  asks for less than nothing may bring these below zero, and then it is not waited for. -/
  waits : ∀ before (grace : Int) after,
    path = before ++ ⟨.call (.evict pod grace), .ok ()⟩ :: after →
      (World.pauses after).sum ≤ max (grace + executor.headroom) 0
  deadline : (World.pauses path).sum ≤ executor.maxGrace + executor.headroom
  requests : (World.requests path).length ≤
    1 + ⌈(executor.maxGrace + executor.headroom) / executor.retryInterval⌉₊
  looks : (World.looks path).length ≤
    1 + ⌈(executor.maxGrace + executor.headroom) / executor.pollInterval⌉₊
  /-- An eviction that meets refusals at worst comes to a report. -/
  ends : 1 + ⌈(executor.maxGrace + executor.headroom) / executor.retryInterval⌉₊ < executor.turns →
    1 + ⌈(executor.maxGrace + executor.headroom) / executor.pollInterval⌉₊ < executor.turns →
      (∀ failure, World.Fails path failure → ∃ refusal, failure = .refused refusal) →
        ∃ report, result = .ok report
  /-- An eviction that is refused for the time being again and again is requested to the last. -/
  persists :
    1 + ⌈(executor.maxGrace + executor.headroom) / executor.retryInterval⌉₊ < executor.turns →
      (∀ request ∈ World.requests path, ∃ refusal, request.2.2 = .error (.refused refusal) ∧
        refusal.Passing) →
      (World.requests path).length =
        1 + ⌈(executor.maxGrace + executor.headroom) / executor.retryInterval⌉₊

namespace Eviction

variable {pod : Pod} {grace : Int}

section Requests

variable {interval deadline now : Rat}

/-- The pauses between requests are cut at the deadline. -/
theorem paced_of_refused {rounds : List (Refused Rat)} (forward : 0 < interval)
    (goes : ∀ round ∈ rounds, round.GoesOn deadline)
    (keeps : World.KeepsTime now (rounds.flatMap (Refused.path pod grace interval deadline))) :
    Paced interval deadline now
        (World.pauses (rounds.flatMap (Refused.path pod grace interval deadline))) ∧
      (World.pauses (rounds.flatMap (Refused.path pod grace interval deadline))).length =
        rounds.length := by
  refine Paced.of_rounds (fun round there now keeps => ?_) keeps
  obtain ⟨planned, checked, -⟩ := keeps
  have left : now < deadline := by
    have early := (goes round there).early
    rw [checked] at early
    exact not_le.mp (of_decide_eq_false early)
  have ahead : 0 ≤ min interval (deadline - now) := le_min forward.le (sub_nonneg.mpr left.le)
  refine ⟨left, ?_⟩
  show [TimeScale.later 0 (TimeScale.earlier interval (deadline - round.planned))] = _
  rw [planned, TimeScale.earlier_eq_min, TimeScale.later_eq_max, max_eq_right ahead]

/-- The pauses between requests, and how many requests there are. -/
structure RequestedInTime (interval deadline now : Rat) (path : List (Exchange (World Rat)))
    (answer : Except Failure Unit) : Prop where
  paced : Paced interval deadline now (World.pauses path)
  requests : (World.requests path).length ≤ (World.pauses path).length + 1
  /-- Only at the deadline does a refusal stand that may pass. -/
  late : ∀ refusal, answer = .error (.refused refusal) → refusal.Passing →
    deadline ≤ now + (World.pauses path).sum ∧
      (World.requests path).length = (World.pauses path).length + 1

theorem Requested.inTime {turns : Nat} {path : List (Exchange (World Rat))}
    {rounds : List (Refused Rat)} {answer : Except Failure Unit} (forward : 0 < interval)
    (requested : Requested pod grace interval deadline turns path rounds answer)
    (keeps : World.KeepsTime now path) : RequestedInTime interval deadline now path answer := by
  cases requested with
  | @ended _ closing _ goes last =>
    obtain ⟨refused, closed⟩ := World.keepsTime_append.mp keeps
    obtain ⟨paced, counted⟩ := paced_of_refused forward goes refused
    have unpaused : World.pauses closing = [] := by cases last <;> rfl
    have count : (World.requests (rounds.flatMap (Refused.path pod grace interval deadline) ++
        closing)).length = rounds.length + 1 := by
      rw [requests_ended last, List.length_append, List.length_map, List.length_singleton]
    have pauses : World.pauses (rounds.flatMap (Refused.path pod grace interval deadline) ++
        closing) = World.pauses (rounds.flatMap (Refused.path pod grace interval deadline)) := by
      rw [World.pauses_append, unpaused, List.append_nil]
    rw [← pauses] at paced counted closed
    refine ⟨paced, (count.trans (congrArg (· + 1) counted.symm)).le, ?_⟩
    intro refusal refused passing
    refine ⟨?_, count.trans (congrArg (· + 1) counted.symm)⟩
    obtain ⟨before, shown, rfl, late⟩ := last.late refused passing
    have kept := (World.keepsTime_append.mp closed).2
    rw [World.pauses_append, List.append_eq_nil_iff] at unpaused
    rw [unpaused.1, List.sum_nil, add_zero] at kept
    rw [← kept.1]
    exact of_decide_eq_true late
  | outOfTurns goes spent =>
    obtain ⟨paced, counted⟩ := paced_of_refused forward goes keeps
    refine ⟨paced, ?_, nofun⟩
    rw [requests_refused, List.length_map, counted]
    exact Nat.le_succ _

end Requests

section Looks

variable {pollInterval giveUp now : Rat}

/-- The pauses between looks are cut at the time to give up. -/
theorem paced_of_undecided {rounds : List (Undecided Rat)}
    (goes : ∀ round ∈ rounds, round.GoesOn pod giveUp)
    (keeps : World.KeepsTime now (rounds.flatMap (Undecided.path pollInterval pod giveUp))) :
    Paced pollInterval giveUp now
        (World.pauses (rounds.flatMap (Undecided.path pollInterval pod giveUp))) ∧
      (World.pauses (rounds.flatMap (Undecided.path pollInterval pod giveUp))).length =
        rounds.length := by
  refine Paced.of_rounds (fun round there now keeps => ?_) keeps
  obtain ⟨shown, -⟩ := keeps
  have left : now < giveUp := by
    have early := (goes round there).early
    rw [shown] at early
    exact sub_pos.mp (not_le.mp (of_decide_eq_false early))
  refine ⟨left, ?_⟩
  show [TimeScale.earlier pollInterval (giveUp - round.now)] = _
  rw [shown, TimeScale.earlier_eq_min]

/-- The looks at an evicted pod in time. -/
structure WatchedInTime (pollInterval giveUp now : Rat) (path : List (Exchange (World Rat))) :
    Prop where
  paced : Paced pollInterval giveUp now (World.pauses path)
  looks : (World.looks path).length ≤ (World.pauses path).length + 1

theorem Watched.inTime {turns : Nat} {path : List (Exchange (World Rat))}
    {rounds : List (Undecided Rat)} {seen : Option (Except Failure Pod)}
    {gone : Except Failure Bool}
    (watched : Watched pollInterval pod giveUp turns path rounds seen gone)
    (keeps : World.KeepsTime now path) : WatchedInTime pollInterval giveUp now path := by
  cases watched with
  | @ended _ closing _ _ goes last =>
    obtain ⟨paced, counted⟩ := paced_of_undecided goes (World.keepsTime_append.mp keeps).1
    have unpaused : World.pauses closing = [] := by cases last <;> rfl
    refine ⟨?_, ?_⟩
    · rwa [World.pauses_append, unpaused, List.append_nil]
    · rw [World.looks_append, World.pauses_append, unpaused, List.append_nil, counted, last.looks,
        looks_undecided]
      simp
  | outOfTurns goes spent =>
    obtain ⟨paced, counted⟩ := paced_of_undecided goes keeps
    refine ⟨paced, ?_⟩
    rw [counted, looks_undecided]
    simp

end Looks

/-- An accepted eviction is looked at for its grace period and the headroom, or for what is left of the
deadline. -/
theorem Followed.inTime {executor : Executor Rat} {deadline now : Rat}
    {path : List (Exchange (World Rat))} {ending : Except Failure (Outcome × String)}
    (followed : Followed executor pod grace deadline path ending)
    (keeps : World.KeepsTime now path) :
    ∃ timeout ≤ min (grace + executor.headroom) (max (deadline - now) 0),
      WatchedInTime executor.pollInterval (now + timeout) now path := by
  cases followed with
  | unmeasured accepted measures => cases error_of_patience measures
  | @watched accepted began timeout path _ _ _ measures watched =>
    obtain ⟨rfl, rfl, kept⟩ := keeps
    obtain ⟨granted, measured, same⟩ := timeout_of_patience measures
    cases measured
    obtain ⟨paced, looks⟩ := watched.inTime kept
    rw [TimeScale.earlier_eq_min, TimeScale.later_eq_max] at same
    exact ⟨timeout, same.le, paced, looks⟩

end Eviction

open Eviction

/-- The two parts of an eviction in time: its requests, and what follows when the last of them is
accepted. -/
structure Executor.Parts (executor : Executor Rat) (pod : Pod) (start : Rat)
    (requesting following : List (Exchange (World Rat))) : Prop where
  retries : Paced executor.retryInterval (start + executor.timeLimit) start (World.pauses requesting)
  requests : (World.requests requesting).length ≤ (World.pauses requesting).length + 1
  unseen : World.looks requesting = []
  unasked : World.requests following = []
  looks : (World.looks following).length ≤ (World.pauses following).length + 1
  split : World.Unaccepted requesting ∧ following = [] ∨
    ∃ before, ∃ grace : Int, requesting = before ++ [⟨.call (.evict pod grace), .ok ()⟩] ∧
      World.Unaccepted before ∧
      ∃ timeout ≤ min (grace + executor.headroom)
          (max (start + executor.timeLimit - (start + (World.pauses requesting).sum)) 0),
        Paced executor.pollInterval (start + (World.pauses requesting).sum + timeout)
          (start + (World.pauses requesting).sum) (World.pauses following)

/-- The rounds of an eviction end without an acceptance. -/
theorem Eviction.unaccepted_refused {pod : Pod} {grace : Int} {interval deadline : Rat}
    (rounds : List (Refused Rat)) :
    World.Unaccepted (rounds.flatMap (Refused.path pod grace interval deadline)) := by
  intro request asked
  rw [requests_refused] at asked
  obtain ⟨round, -, rfl⟩ := List.mem_map.mp asked
  exact nofun

/-- No request is accepted if the last answer is a failure. -/
theorem Eviction.Requested.unaccepted {pod : Pod} {grace : Int} {interval deadline : Rat} {turns : Nat}
    {path : List (Exchange (World Rat))} {rounds : List (Refused Rat)} {failure : Failure}
    (requested : Requested pod grace interval deadline turns path rounds (.error failure)) :
    World.Unaccepted path := by
  cases requested with
  | ended goes last =>
    intro request asked
    rw [World.requests_append, last.requests] at asked
    obtain refused | final := List.mem_append.mp asked
    · exact unaccepted_refused rounds request refused
    · obtain rfl := List.mem_singleton.mp final
      exact nofun
  | outOfTurns goes spent => exact unaccepted_refused rounds

theorem Executor.graceFor_ne_error (executor : Executor Rat) (pod : Pod) (error : TimeError) :
    executor.graceFor pod ≠ .error error := by
  unfold graceFor
  dsimp only
  split <;> exact nofun

/-- An eviction without an accepted request has one part. -/
theorem Executor.parts_of_requested {executor : Executor Rat} {pod : Pod} {start : Rat} {grace : Int}
    {path : List (Exchange (World Rat))} {rounds : List (Refused Rat)} {failure : Failure}
    (forward : 0 < executor.retryInterval)
    (requested : Requested pod grace executor.retryInterval (start + executor.timeLimit)
      executor.turns path rounds (.error failure)) (keeps : World.KeepsTime start path) :
    executor.Parts pod start (⟨.clock, start⟩ :: path) [] := by
  obtain ⟨paced, requests, -⟩ := requested.inTime forward keeps
  exact ⟨paced, requests, requested.looks, rfl, Nat.zero_le _, .inl ⟨requested.unaccepted, rfl⟩⟩

theorem Executor.Course.parts {executor : Executor Rat} {pod : Pod} {start : Rat}
    {path : List (Exchange (World Rat))} {result : Except Failure PodReport}
    (course : executor.Course pod path result) (forward : 0 < executor.retryInterval)
    (keeps : World.KeepsTime start path) :
    ∃ requesting following, path = requesting ++ following ∧
      executor.Parts pod start requesting following := by
  cases course with
  | ungranted _ grants => exact absurd grants (graceFor_ne_error executor pod _)
  | refused _ grants requested =>
    obtain ⟨rfl, kept⟩ := keeps
    exact ⟨_, [], (List.append_nil _).symm, parts_of_requested forward requested kept⟩
  | failed _ grants requested other =>
    obtain ⟨rfl, kept⟩ := keeps
    exact ⟨_, [], (List.append_nil _).symm, parts_of_requested forward requested kept⟩
  | @accepted _ grace path following rounds ending grants requested followed =>
    obtain ⟨rfl, kept⟩ := keeps
    obtain ⟨first, second⟩ := World.keepsTime_append.mp kept
    obtain ⟨paced, requests, -⟩ := requested.inTime forward first
    obtain ⟨timeout, within, watched⟩ := followed.inTime second
    refine ⟨⟨.clock, _⟩ :: path, following, rfl, paced, requests, requested.looks,
      followed.requests, watched.looks, .inr ?_⟩
    cases requested with
    | ended goes last =>
      obtain rfl := last.eq_of_accepted
      exact ⟨⟨.clock, _⟩ :: rounds.flatMap _, grace, rfl, unaccepted_refused rounds, timeout, within,
        watched.paced⟩

namespace Executor.Parts

variable {executor : Executor Rat} {pod : Pod} {start : Rat}
  {requesting following : List (Exchange (World Rat))}

/-- Pauses before an acceptance are pauses between requests. -/
theorem retries_of_unaccepted (parts : executor.Parts pod start requesting following)
    {before after : List (Exchange (World Rat))} (whole : requesting ++ following = before ++ after)
    (unaccepted : World.Unaccepted before) :
    ∀ span ∈ World.pauses before, span ∈ World.pauses requesting := by
  obtain ⟨-, rfl⟩ | ⟨first, grace, rfl, -, -⟩ := parts.split
  · rw [List.append_nil] at whole
    rw [whole, World.pauses_append]
    exact fun _ => List.mem_append_left _
  · obtain ⟨more, rfl, -⟩ | ⟨rest, same, -⟩ := List.append_eq_append_iff.mp whole
    · refine absurd rfl (unaccepted (pod, grace, .ok ()) ?_)
      rw [World.requests_append, World.requests_append]
      exact List.mem_append_left _ (List.mem_append_right _ (.head _))
    · rw [same, World.pauses_append]
      exact fun _ => List.mem_append_left _

/-- What comes after an acceptance is what follows the requests, and it is paced. -/
theorem of_accepted (parts : executor.Parts pod start requesting following)
    {before after : List (Exchange (World Rat))} {grace : Int}
    (whole : requesting ++ following = before ++ ⟨.call (.evict pod grace), .ok ()⟩ :: after) :
    after = following ∧ ∃ timeout ≤ min (grace + executor.headroom)
      (max (executor.timeLimit - (World.pauses requesting).sum) 0),
      Paced executor.pollInterval (start + (World.pauses requesting).sum + timeout)
        (start + (World.pauses requesting).sum) (World.pauses following) := by
  have asked (first second : List (Exchange (World Rat))) :
      (pod, grace, .ok ()) ∈
        World.requests (first ++ ⟨.call (.evict pod grace), .ok ()⟩ :: second) := by
    rw [World.requests_append]
    exact List.mem_append_right _ (.head _)
  obtain ⟨unaccepted, rfl⟩ | ⟨first, given, rfl, unaccepted, timeout, within, paced⟩ := parts.split
  · rw [List.append_nil] at whole
    exact absurd rfl (unaccepted _ (whole ▸ asked before after))
  · rw [List.append_assoc, List.singleton_append] at whole
    have within : timeout ≤ min (given + executor.headroom)
        (max (executor.timeLimit - (World.pauses (first ++
          [⟨.call (.evict pod given), .ok ()⟩])).sum) 0) := by
      rwa [add_sub_add_left_eq_sub] at within
    obtain ⟨rest, rfl, same⟩ | ⟨rest, rfl, same⟩ := List.append_eq_append_iff.mp whole
    · cases rest with
      | nil =>
        cases same
        exact ⟨rfl, timeout, within, paced⟩
      | cons exchange rest =>
        -- The acceptance would come again after the requests have come to their end.
        cases same
        exact absurd (asked rest after) (List.eq_nil_iff_forall_not_mem.mp parts.unasked _)
    · cases rest with
      | nil =>
        cases same
        exact ⟨rfl, timeout, within, paced⟩
      | cons exchange rest =>
        cases same
        exact absurd rfl (unaccepted _ (asked before rest))

/-- All pauses together are no longer than the time there is. -/
theorem sum_le (parts : executor.Parts pod start requesting following)
    (positive : 0 ≤ executor.timeLimit) :
    (World.pauses requesting).sum ≤ executor.timeLimit ∧
      (World.pauses following).sum ≤ executor.timeLimit - (World.pauses requesting).sum := by
  have requested : (World.pauses requesting).sum ≤ executor.timeLimit := by
    have bound := parts.retries.sum_le
    rwa [add_sub_cancel_left, max_eq_left positive] at bound
  refine ⟨requested, ?_⟩
  have left : 0 ≤ executor.timeLimit - (World.pauses requesting).sum := sub_nonneg.mpr requested
  obtain ⟨-, rfl⟩ | ⟨first, grace, -, -, timeout, within, paced⟩ := parts.split
  · simpa using left
  · rw [add_sub_add_left_eq_sub, max_eq_left left] at within
    have bound := paced.sum_le
    rw [add_sub_cancel_left] at bound
    exact bound.trans (max_le (within.trans (min_le_right _ _)) left)

theorem length_requests (parts : executor.Parts pod start requesting following)
    (forward : 0 < executor.retryInterval) :
    (World.requests (requesting ++ following)).length ≤
      1 + ⌈executor.timeLimit / executor.retryInterval⌉₊ := by
  have pauses := parts.retries.length_le forward
  rw [stepsTo_add] at pauses
  rw [World.requests_append, parts.unasked, List.append_nil]
  have requests := parts.requests
  omega

theorem length_looks (parts : executor.Parts pod start requesting following)
    (positive : 0 ≤ executor.timeLimit) (retry : 0 < executor.retryInterval)
    (forward : 0 < executor.pollInterval) :
    (World.looks (requesting ++ following)).length ≤
      1 + ⌈executor.timeLimit / executor.pollInterval⌉₊ := by
  have pauses : (World.pauses following).length ≤ ⌈executor.timeLimit / executor.pollInterval⌉₊ := by
    obtain ⟨-, rfl⟩ | ⟨first, grace, -, -, timeout, within, paced⟩ := parts.split
    · exact Nat.zero_le _
    · have spent : 0 ≤ (World.pauses requesting).sum :=
        List.sum_nonneg fun span there => (parts.retries.of_mem retry span there).1.le
      rw [add_sub_add_left_eq_sub] at within
      have bound := paced.length_le forward
      rw [stepsTo_add] at bound
      have limit : timeout ≤ executor.timeLimit :=
        (within.trans (min_le_right _ _)).trans (max_le (by linarith) positive)
      exact bound.trans (Nat.ceil_mono ((div_le_div_iff_of_pos_right forward).mpr limit))
  rw [World.looks_append, parts.unseen, List.nil_append]
  have looks := parts.looks
  omega

end Executor.Parts

/-- Requests that are all refused for the time being go on to the deadline. -/
theorem Eviction.Requested.persists {pod : Pod} {grace : Int} {interval deadline now : Rat}
    {turns : Nat} {path : List (Exchange (World Rat))} {rounds : List (Refused Rat)}
    {answer : Except Failure Unit} (forward : 0 < interval)
    (requested : Requested pod grace interval deadline turns path rounds answer)
    (keeps : World.KeepsTime now path) (enough : (World.requests path).length < turns)
    (refused : ∀ request ∈ World.requests path, ∃ refusal,
      request.2.2 = .error (.refused refusal) ∧ refusal.Passing) :
    (∃ refusal, answer = .error (.refused refusal)) ∧
      (World.requests path).length = 1 + stepsTo interval deadline now := by
  obtain ⟨paced, -, late⟩ := requested.inTime forward keeps
  have last : ∃ refusal, answer = .error (.refused refusal) ∧ refusal.Passing := by
    cases requested with
    | ended goes last =>
      refine refused (pod, grace, answer) ?_
      rw [World.requests_append, last.requests]
      exact List.mem_append_right _ (.head _)
    | outOfTurns goes spent =>
      rw [requests_refused, List.length_map, spent] at enough
      exact absurd enough (Nat.lt_irrefl _)
  obtain ⟨refusal, same, passing⟩ := last
  obtain ⟨past, count⟩ := late refusal same passing
  exact ⟨⟨refusal, same⟩, by rw [count, paced.length_eq forward past, Nat.add_comm]⟩

/-- An eviction that is refused for the time being again and again is requested to the last. -/
theorem Executor.Course.persists {executor : Executor Rat} {pod : Pod} {start : Rat}
    {path : List (Exchange (World Rat))} {result : Except Failure PodReport}
    (course : executor.Course pod path result) (forward : 0 < executor.retryInterval)
    (keeps : World.KeepsTime start path)
    (enough : (World.requests path).length < executor.turns)
    (refused : ∀ request ∈ World.requests path, ∃ refusal,
      request.2.2 = .error (.refused refusal) ∧ refusal.Passing) :
    (World.requests path).length = 1 + ⌈executor.timeLimit / executor.retryInterval⌉₊ := by
  rw [← stepsTo_add _ _ start]
  cases course with
  | ungranted _ grants => exact absurd grants (graceFor_ne_error executor pod _)
  | refused _ grants requested =>
    obtain ⟨rfl, kept⟩ := keeps
    exact (requested.persists forward kept enough refused).2
  | failed _ grants requested other =>
    obtain ⟨rfl, kept⟩ := keeps
    exact (requested.persists forward kept enough refused).2
  | @accepted shown grace before following rounds ending grants requested followed =>
    obtain ⟨rfl, kept⟩ := keeps
    have requests : World.requests (⟨.clock, shown⟩ :: (before ++ following)) =
        World.requests before := by
      rw [World.requests_clock, World.requests_append, followed.requests, List.append_nil]
    rw [requests] at enough refused
    obtain ⟨⟨_, same⟩, -⟩ := requested.persists forward (World.keepsTime_append.mp kept).1 enough
      refused
    cases same

/-- With turns enough, an eviction that meets refusals at worst comes to a report. -/
theorem Executor.report_of_enough {executor : Executor Rat} {pod : Pod}
    {path : List (Exchange (World Rat))} {result : Except Failure PodReport}
    (reached : (executor.evict pod).Reaches path (.done result))
    (requests : (World.requests path).length < executor.turns)
    (looks : (World.looks path).length < executor.turns)
    (refused : ∀ failure, World.Fails path failure → ∃ refusal, failure = .refused refusal) :
    ∃ report, result = .ok report := by
  cases result with
  | ok report => exact ⟨report, rfl⟩
  | error failure =>
    cases (executor.evict_judges pod).2 path failure reached with
    | ungranted grants => exact absurd grants (graceFor_ne_error executor pod _)
    | unmeasured grants measures => cases measures
    | failed fails other =>
      obtain ⟨refusal, same⟩ := refused failure fails
      exact absurd same (other refusal)
    | outOfTurns spent => omega

/-- Along any path on which time is kept, an eviction keeps to its time. -/
theorem Executor.inTime_of_reaches {executor : Executor Rat} {pod : Pod} {start : Rat}
    {path : List (Exchange (World Rat))} {result : Except Failure PodReport}
    (grace : 0 ≤ executor.maxGrace) (headroom : 0 ≤ executor.headroom)
    (retry : 0 < executor.retryInterval) (poll : 0 < executor.pollInterval)
    (reached : (executor.evict pod).Reaches path (.done result))
    (keeps : World.KeepsTime start path) : executor.InTime pod path result := by
  have course := course_of_evict reached
  have positive : 0 ≤ executor.timeLimit := add_nonneg grace headroom
  obtain ⟨requesting, following, rfl, parts⟩ := course.parts retry keeps
  have requests := parts.length_requests retry
  have looks := parts.length_looks positive retry poll
  obtain ⟨requested, followed⟩ := parts.sum_le positive
  exact
    { retries := fun before after whole unaccepted span there =>
        parts.retries.of_mem retry span (parts.retries_of_unaccepted whole unaccepted span there)
      polls := fun before grace after whole => by
        obtain ⟨rfl, timeout, -, paced⟩ := parts.of_accepted whole
        exact paced.of_mem poll
      waits := fun before grace after whole => by
        obtain ⟨rfl, timeout, within, paced⟩ := parts.of_accepted whole
        have bound := paced.sum_le
        rw [add_sub_cancel_left] at bound
        exact bound.trans (max_le_max_right 0 (within.trans (min_le_left _ _)))
      deadline := by
        rw [World.pauses_append, List.sum_append]
        exact le_sub_iff_add_le'.mp followed
      requests
      looks
      ends := fun enough turns refused =>
        report_of_enough reached (requests.trans_lt enough) (looks.trans_lt turns) refused
      persists := fun enough refused =>
        course.persists retry keeps (requests.trans_lt enough) refused }

/-- An eviction keeps to its time, whatever the cluster answers and whatever pod it is for: it comes to
its end no later than the longest grace period and the headroom after it began. -/
theorem Executor.evict_inTime {σ : Type} {surroundings : Surroundings (World Rat) σ} {time : σ → Rat}
    (clockwork : World.Clockwork surroundings time) {executor : Executor Rat}
    (grace : 0 ≤ executor.maxGrace) (headroom : 0 ≤ executor.headroom)
    (retry : 0 < executor.retryInterval) (poll : 0 < executor.pollInterval) (pod : Pod) (state : σ) :
    executor.InTime pod ((executor.evict pod).course surroundings state)
        ((executor.evict pod).run surroundings state).1 ∧
      time ((executor.evict pod).run surroundings state).2 ≤
        time state + executor.maxGrace + executor.headroom := by
  obtain ⟨keeps, ended⟩ := clockwork.keepsTime (executor.evict pod) state
  have inTime := inTime_of_reaches grace headroom retry poll
    (Program.Reaches.course surroundings (executor.evict pod) state) keeps
  refine ⟨inTime, ?_⟩
  rw [ended, add_assoc]
  exact add_le_add_right inTime.deadline _

namespace Eviction

/-- The clock of a script moves with pauses only. -/
theorem clockwork_scripted : World.Clockwork scripted Script.now where
  clock state := rfl
  sleep span state := rfl
  still request state awake := by
    cases request with
    | sleep span => exact absurd rfl (awake span)
    | call call => cases call <;> rfl
    | _ => rfl

/-- Evictions are refused for the time being, again and again. -/
def neverAccepted : Script := { now := 100, answers := [], looks := [] }

/-- An interval of four seconds fits once into six and a half seconds, so that the second pause is cut
and the third request comes at the deadline. -/
theorem inTime_neverAccepted :
    shortExecutor.InTime lonePod ((shortExecutor.evict lonePod).course scripted neverAccepted)
        ((shortExecutor.evict lonePod).run scripted neverAccepted).1 ∧
      ((shortExecutor.evict lonePod).run scripted neverAccepted).2.now ≤ 100 + 7 / 2 + 3 ∧
      World.pauses ((shortExecutor.evict lonePod).course scripted neverAccepted) = [4, 5 / 2] ∧
      (World.requests ((shortExecutor.evict lonePod).course scripted neverAccepted)).length = 3 := by
  obtain ⟨inTime, ended⟩ := shortExecutor.evict_inTime clockwork_scripted (by decide +kernel)
    (by decide +kernel) (by decide +kernel) (by decide +kernel) lonePod neverAccepted
  exact ⟨inTime, ended, by decide +kernel, by decide +kernel⟩

end Eviction

end Evacuation
