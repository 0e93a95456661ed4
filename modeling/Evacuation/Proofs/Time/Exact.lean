import Mathlib.Data.Rat.Floor
import Mathlib.Tactic.FieldSimp
import Mathlib.Tactic.Linarith
import Evacuation.Cluster
import Evacuation.Proofs.Paths
/-!
# Exact time

On the exact scale points in time are compared and added without rounding. A clock that only pauses
move shows, along every path of some work, the time at which the path began and the pauses since
(`World.KeepsTime`), and in surroundings with such a clock the course of any work keeps time
(`World.Clockwork.keepsTime`). Pauses of a fixed step that are cut at a limit (`Paced`) come to the
limit in as many turns as the steps that fit, the last one included if it is cut
(`Paced.length_add_stepsTo`).
-/
namespace Evacuation

namespace TimeScale

/-- On the exact scale the later of two points is the greater one. -/
theorem later_eq_max (a b : Rat) : later a b = max a b := by
  by_cases before : a < b
  · rw [max_eq_right before.le]
    exact if_pos (decide_eq_true before)
  · rw [max_eq_left (not_lt.mp before)]
    exact if_neg (by simpa [TimeScale.before] using before)

/-- On the exact scale the earlier of two points is the lesser one. -/
theorem earlier_eq_min (a b : Rat) : earlier a b = min a b := by
  by_cases before : b < a
  · rw [min_eq_right before.le]
    exact if_pos (decide_eq_true before)
  · rw [min_eq_left (not_lt.mp before)]
    exact if_neg (by simpa [TimeScale.before] using before)

end TimeScale

/-! ## Clocks that only pauses move -/

namespace World

/-- The pause that an exchange makes. -/
def pause? : Exchange (World Rat) → Option Rat
  | ⟨.sleep span, _⟩ => some span
  | _ => none

/-- The pauses along a path. -/
def pauses (path : List (Exchange (World Rat))) : List Rat := path.filterMap pause?

@[simp] theorem pauses_append (first second : List (Exchange (World Rat))) :
    pauses (first ++ second) = pauses first ++ pauses second := List.filterMap_append

/-- From a time on, the clock shows the time that has come with the pauses. -/
def KeepsTime : Rat → List (Exchange (World Rat)) → Prop
  | _, [] => True
  | now, ⟨.clock, shown⟩ :: path => shown = now ∧ KeepsTime now path
  | now, ⟨.sleep span, _⟩ :: path => KeepsTime (now + span) path
  | now, _ :: path => KeepsTime now path

@[simp] theorem keepsTime_nil (now : Rat) : KeepsTime now [] := trivial

@[simp] theorem pauses_nil : pauses [] = [] := rfl

/-- A path that goes on keeps time from where it has come to. -/
theorem keepsTime_append {now : Rat} {first second : List (Exchange (World Rat))} :
    KeepsTime now (first ++ second) ↔
      KeepsTime now first ∧ KeepsTime (now + (pauses first).sum) second := by
  induction first generalizing now with
  | nil => simp
  | cons exchange first ih =>
    obtain ⟨request, reply⟩ := exchange
    cases request with
    | clock => exact (and_congr_right fun _ => ih).trans and_assoc.symm
    | sleep span =>
      have onward := @ih (now + span)
      rw [add_assoc, ← List.sum_cons] at onward
      exact onward
    | _ => exact ih

/-- In these surroundings the clock shows the time, and only pauses move it. -/
structure Clockwork {σ : Type} (surroundings : Surroundings (World Rat) σ) (time : σ → Rat) :
    Prop where
  clock : ∀ state, (surroundings .clock state).1 = time state
  sleep : ∀ span state, time (surroundings (.sleep span) state).2 = time state + span
  still : ∀ request state, (∀ span, request ≠ .sleep span) →
    time (surroundings request state).2 = time state

namespace Clockwork

variable {σ α : Type} {surroundings : Surroundings (World Rat) σ} {time : σ → Rat}

/-- Work keeps time, and it takes the time of its pauses. -/
theorem keepsTime (clockwork : Clockwork surroundings time) (work : Work Rat α) (state : σ) :
    KeepsTime (time state) (work.course surroundings state) ∧
      time (work.run surroundings state).2 =
        time state + (pauses (work.course surroundings state)).sum := by
  induction work generalizing state with
  | done value => exact ⟨trivial, (add_zero _).symm⟩
  | ask request next ih =>
    obtain ⟨keeps, ended⟩ := ih (surroundings request state).1 (surroundings request state).2
    by_cases pausing : ∃ span, request = .sleep span
    · obtain ⟨span, rfl⟩ := pausing
      rw [clockwork.sleep span state] at keeps ended
      refine ⟨keeps, ended.trans ?_⟩
      rw [add_assoc, ← List.sum_cons]
      rfl
    · have awake : ∀ span, request ≠ .sleep span := not_exists.mp pausing
      rw [clockwork.still request state awake] at keeps ended
      cases request with
      | sleep span => exact absurd rfl (awake span)
      | clock => exact ⟨⟨clockwork.clock state, keeps⟩, ended⟩
      | _ => exact ⟨keeps, ended⟩

end Clockwork

end World

/-! ## Pauses up to a limit -/

/-- Pauses of a step each, cut at what is left of the time up to a limit. Before each of them there is
something left. -/
inductive Paced (step limit : Rat) : Rat → List Rat → Prop where
  | done (now : Rat) : Paced step limit now []
  | pause {now : Rat} {spans : List Rat} (left : now < limit)
      (onward : Paced step limit (now + min step (limit - now)) spans) :
      Paced step limit now (min step (limit - now) :: spans)

/-- The steps up to a limit, the last one included if it is cut. -/
def stepsTo (step limit now : Rat) : Nat := ⌈(limit - now) / step⌉₊

theorem stepsTo_add (step span now : Rat) : stepsTo step (now + span) now = ⌈span / step⌉₊ := by
  rw [stepsTo, add_sub_cancel_left]

theorem stepsTo_eq_zero {step limit now : Rat} (forward : 0 < step) (past : limit ≤ now) :
    stepsTo step limit now = 0 :=
  Nat.ceil_eq_zero.mpr (div_nonpos_of_nonpos_of_nonneg (sub_nonpos.mpr past) forward.le)

/-- A step that is cut at the limit is one of the steps. -/
theorem stepsTo_succ {step limit now : Rat} (forward : 0 < step) (left : now < limit) :
    stepsTo step limit (now + min step (limit - now)) + 1 = stepsTo step limit now := by
  have ahead : 0 < (limit - now) / step := div_pos (sub_pos.mpr left) forward
  by_cases fits : step ≤ limit - now
  · have shorter : (limit - now) / step = (limit - (now + step)) / step + 1 := by
      field_simp
      ring
    have further : 0 ≤ (limit - (now + step)) / step :=
      div_nonneg (by linarith) forward.le
    rw [min_eq_left fits, stepsTo, stepsTo, shorter, Nat.ceil_add_one further]
  · have cut : limit - now ≤ step := (not_le.mp fits).le
    have last : (limit - now) / step ≤ 1 := (div_le_one forward).mpr cut
    rw [min_eq_right cut, stepsTo_eq_zero forward (by linarith), stepsTo]
    exact ((Nat.ceil_eq_iff one_ne_zero).mpr ⟨by simpa using ahead, by simpa using last⟩).symm

namespace Paced

variable {step limit now : Rat} {spans : List Rat}

/-- No pause is empty, and none is longer than the step. -/
theorem of_mem (paced : Paced step limit now spans) (forward : 0 < step) :
    ∀ span ∈ spans, 0 < span ∧ span ≤ step := by
  induction paced with
  | done now => exact List.forall_mem_nil _
  | pause left onward ih =>
    exact List.forall_mem_cons.mpr
      ⟨⟨lt_min forward (sub_pos.mpr left), min_le_left _ _⟩, ih⟩

/-- The pauses do not lead past the limit. -/
theorem sum_le (paced : Paced step limit now spans) : spans.sum ≤ max (limit - now) 0 := by
  induction paced with
  | done now => exact le_max_right _ _
  | @pause now spans left onward ih =>
    have cut : 0 ≤ limit - (now + min step (limit - now)) := by
      linarith [min_le_right step (limit - now)]
    rw [max_eq_left cut] at ih
    rw [max_eq_left (sub_nonneg.mpr left.le), List.sum_cons]
    linarith

/-- Each pause is one of the steps up to the limit. -/
theorem length_add_stepsTo (paced : Paced step limit now spans) (forward : 0 < step) :
    spans.length + stepsTo step limit (now + spans.sum) = stepsTo step limit now := by
  induction paced with
  | done now => simp
  | @pause now spans left onward ih =>
    rw [← stepsTo_succ forward left, ← ih, List.length_cons, List.sum_cons, ← add_assoc]
    omega

/-- There are at most as many pauses as steps up to the limit. -/
theorem length_le (paced : Paced step limit now spans) (forward : 0 < step) :
    spans.length ≤ stepsTo step limit now :=
  (Nat.le_add_right _ _).trans (paced.length_add_stepsTo forward).le

/-- Pauses that come to the limit are all the steps up to it. -/
theorem length_eq (paced : Paced step limit now spans) (forward : 0 < step)
    (past : limit ≤ now + spans.sum) : spans.length = stepsTo step limit now := by
  rw [← paced.length_add_stepsTo forward, stepsTo_eq_zero forward past, Nat.add_zero]

/-- Rounds with one pause each are paced if every pause is a step that is cut at the limit. -/
theorem of_rounds {ρ : Type} {path : ρ → List (Exchange (World Rat))} {rounds : List ρ}
    (paused : ∀ round ∈ rounds, ∀ now, World.KeepsTime now (path round) →
      now < limit ∧ World.pauses (path round) = [min step (limit - now)])
    (keeps : World.KeepsTime now (rounds.flatMap path)) :
    Paced step limit now (World.pauses (rounds.flatMap path)) ∧
      (World.pauses (rounds.flatMap path)).length = rounds.length := by
  induction rounds generalizing now with
  | nil => exact ⟨.done now, rfl⟩
  | cons round rounds ih =>
    obtain ⟨first, others⟩ := List.forall_mem_cons.mp paused
    rw [List.flatMap_cons] at keeps ⊢
    obtain ⟨now_kept, later_kept⟩ := World.keepsTime_append.mp keeps
    obtain ⟨left, same⟩ := first now now_kept
    rw [same, List.sum_singleton] at later_kept
    obtain ⟨onward, counted⟩ := ih others later_kept
    rw [World.pauses_append, same]
    exact ⟨.pause left onward, congrArg (· + 1) counted⟩

end Paced

end Evacuation
