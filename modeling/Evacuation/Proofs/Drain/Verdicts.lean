import Mathlib.Data.List.TakeWhile
import Evacuation.Schedule.Control
/-!
# The verdict on a drain

What a drain came to is told by the error text it leaves, and an empty text counts as none. No failure is
lost by that: every failure has a text, or else the name of its kind (`Failure.report_eq_empty_iff`), and
the text about pods that count against a drain is never empty (`DrainReport.isFault_errorText_iff`). So
the verdict is a failure exactly if the drain could not be carried out, or a pod failed or timed out
(`Control.isFault_ending_iff`).
-/
namespace Evacuation

namespace Text

/-- Something is left of a text that is not all blank. -/
theorem strip_ne_nil {text : List Char} {c : Char} (inside : c ∈ text) (visible : isBlank c = false) :
    strip text ≠ [] := by
  have kept {rest : List Char} {d : Char} (inside : d ∈ rest) (visible : isBlank d = false) :
      rest.dropWhile isBlank ≠ [] := by
    intro empty
    have blank := List.dropWhile_eq_nil_iff.mp empty d inside
    rw [visible] at blank
    cases blank
  intro empty
  cases front : stripLeft text with
  | nil => exact kept inside visible front
  | cons d rest =>
    have first := head?_dropWhile_isBlank text d (congrArg List.head? front)
    rw [strip, front, stripRight, List.reverse_eq_nil_iff] at empty
    exact kept (List.mem_reverse.mpr List.mem_cons_self) first empty

theorem isBlank_of_isDigit {c : Char} (digit : c.isDigit = true) : isBlank c = false := by
  obtain ⟨least, most⟩ := Char.isDigit_iff_toNat.mp digit
  have low : '0'.toNat = 48 := rfl
  have high : '9'.toNat = 57 := rfl
  simp only [isBlank, Bool.or_eq_false_iff, Bool.and_eq_false_iff, beq_eq_false_iff_ne,
    decide_eq_false_iff_not]
  omega

/-- A number shows in visible characters. -/
theorem exists_visible_of_nat (number : Nat) : ∃ c ∈ number.repr.toList, isBlank c = false := by
  rw [Nat.toList_repr]
  obtain ⟨c, inside⟩ := List.exists_mem_of_ne_nil _ (Nat.toDigits_ne_nil (n := number) (b := 10))
  exact ⟨c, inside, isBlank_of_isDigit (Nat.isDigit_of_mem_toDigits (by decide) (by decide) inside)⟩

theorem exists_visible_of_int (number : Int) :
    ∃ c ∈ (toString number).toList, isBlank c = false := by
  cases number with
  | ofNat number => exact exists_visible_of_nat number
  | negSucc number =>
    refine ⟨'-', ?_, by decide⟩
    show '-' ∈ ("-" ++ number.succ.repr).toList
    rw [String.toList_append]
    exact List.mem_append_left _ (List.mem_singleton.mpr rfl)

/-- A text with a beginning that says something says something. -/
theorem append_ne_empty {front rest : String} (said : front ≠ "") : front ++ rest ≠ "" :=
  fun empty => said (String.append_eq_empty_iff.mp empty).1

end Text

/-- Every refusal says something. -/
theorem Refusal.describe_ne_empty (refusal : Refusal) : refusal.describe ≠ "" := by
  have status : ∃ c ∈ ((refusal.status.map toString).getD "None").toList, Text.isBlank c = false := by
    cases refusal.status with
    | none => exact ⟨'N', by decide, by decide⟩
    | some number => exact Text.exists_visible_of_int number
  obtain ⟨c, inside, visible⟩ := status
  intro empty
  refine Text.strip_ne_nil ?_ visible (String.ofList_eq_empty_iff.mp empty)
  rw [String.toList_append, String.toList_append]
  exact List.mem_append_left _ (List.mem_append_left _ inside)

theorem TimeError.message_ne_empty (error : TimeError) : error.message ≠ "" := by
  cases error with
  | undefinedInstant | beyondClock | infiniteCount | undefinedCount | integerTooLarge => decide
  | yearOutOfRange year => exact Text.append_ne_empty (Text.append_ne_empty (by decide))

namespace Failure

/-- Only a failure that comes from outside can be without a text. -/
theorem message_eq_empty_iff {failure : Failure} :
    failure.message = "" ↔ ∃ kind, failure = .broken kind "" := by
  constructor
  · intro empty
    cases failure with
    | broken kind message => exact ⟨kind, congrArg _ empty⟩
    | refused refusal => exact absurd empty refusal.describe_ne_empty
    | time error => exact absurd empty error.message_ne_empty
    | noWorkers | outOfTurns => exact absurd empty (by decide)
    | cordon | listing | undecided =>
      refine absurd empty ?_
      exact Text.append_ne_empty (Text.append_ne_empty (Text.append_ne_empty (by decide)))
    | alreadyScheduled node =>
      exact absurd empty (Text.append_ne_empty (Text.append_ne_empty (by decide)))
  · rintro ⟨kind, rfl⟩
    rfl

/-- What is reported of a failure is its text, or the name of its kind if it has none. -/
theorem report_eq (failure : Failure) : failure.message ≠ "" ∧ failure.report = failure.message ∨
    ∃ kind, failure = .broken kind "" ∧ failure.report = kind := by
  unfold report
  split
  · rename_i kind
    exact .inr ⟨kind, rfl, rfl⟩
  · rename_i other
    refine .inl ⟨fun empty => ?_, rfl⟩
    obtain ⟨kind, rfl⟩ := message_eq_empty_iff.mp empty
    exact other kind rfl

/-- Nothing is reported only of a failure without a text and without a name of its kind. -/
theorem report_eq_empty_iff {failure : Failure} :
    failure.report = "" ↔ failure = .broken "" "" := by
  constructor
  · intro empty
    obtain ⟨said, same⟩ | ⟨kind, rfl, same⟩ := failure.report_eq
    · exact absurd (same.symm.trans empty) said
    · rw [same.symm.trans empty]
  · rintro rfl
    rfl

end Failure

namespace DrainReport

theorem succeeded_eq_false_iff {report : DrainReport} : report.succeeded = false ↔
    ∃ pod ∈ report.pods, pod.outcome = .failed ∨ pod.outcome = .timedOut := by
  have fault (outcome : Outcome) : outcome.isFault = true ↔ outcome = .failed ∨ outcome = .timedOut := by
    cases outcome <;> simp [Outcome.isFault]
  simp only [succeeded, unevicted, ← Bool.not_eq_true, List.isEmpty_iff, List.filter_eq_nil_iff, fault,
    not_forall, not_not, exists_prop]

/-- A drain leaves an error text that says something exactly if a pod failed or timed out. -/
theorem isFault_errorText_iff {report : DrainReport} : DrainRecord.isFault report.errorText = true ↔
    ∃ pod ∈ report.pods, pod.outcome = .failed ∨ pod.outcome = .timedOut := by
  rw [← succeeded_eq_false_iff, errorText]
  split
  · rename_i succeeded
    rw [succeeded]
    exact ⟨nofun, nofun⟩
  · rename_i faulty
    refine iff_of_true ?_ (Bool.eq_false_iff.mpr faulty)
    rw [DrainRecord.isFault, Bool.not_eq_true', ← Bool.not_eq_true, String.isEmpty_iff]
    exact Text.append_ne_empty fun empty => absurd (String.append_eq_empty_iff.mp empty).2 (by decide)

end DrainReport

/-- The verdict on a drain is a failure exactly if the drain could not be carried out, and that is
reported, or a pod failed or timed out. -/
theorem Control.isFault_ending_iff {drained : Except Failure DrainReport} :
    DrainRecord.isFault (ending drained).2 = true ↔
      (∃ failure, drained = .error failure ∧ failure ≠ .broken "" "") ∨
      ∃ report, drained = .ok report ∧
        ∃ pod ∈ report.pods, pod.outcome = .failed ∨ pod.outcome = .timedOut := by
  cases drained with
  | error failure =>
    simp [ending, DrainRecord.isFault, Failure.report_eq_empty_iff]
  | ok report =>
    simp [ending, DrainReport.isFault_errorText_iff]

end Evacuation
