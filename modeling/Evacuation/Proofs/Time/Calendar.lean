import Mathlib.Data.Rat.Floor
import Mathlib.Tactic.Linarith
import Evacuation.Time.Calendar
/-!
# What the calendar can show

A date is shown if its year is one of the years 1 to 9999. The days of these years are the days from
one day to another (`CivilDate.year_ofDays_iff`), so the points in time that can be shown form one
interval of the exact scale, `WithinYears` (`showInstant_isOk_iff`). Its ends lie half a microsecond
before a full second: a point that close to the second is rounded up to it.
-/
namespace Evacuation

/-! ## Years of days -/

namespace CivilDate

/-- The year a day of an era falls into, counted from the year in which the era begins with its
March. -/
def yearWithin (dayOfEra : Nat) : Nat :=
  let yearOfEra := (dayOfEra - dayOfEra / 1460 + dayOfEra / 36524 - dayOfEra / 146096) / 365
  let dayOfYear := dayOfEra - (365 * yearOfEra + yearOfEra / 4 - yearOfEra / 100)
  let marchMonth := (5 * dayOfYear + 2) / 153
  let month := if marchMonth < 10 then marchMonth + 3 else marchMonth - 9
  yearOfEra + if month ≤ 2 then 1 else 0

/-- The year of a day is 400 years for each era before it and the year within its own. -/
theorem year_ofDays (days : Int) : (ofDays days).year =
    yearWithin ((days + 719468).fmod 146097).toNat + (days + 719468).fdiv 146097 * 400 := by
  simp only [ofDays, yearWithin]
  push_cast
  ring

/-- An era ends with the February of its 400th year. -/
theorem yearWithin_le {dayOfEra : Nat} (inside : dayOfEra < 146097) :
    yearWithin dayOfEra ≤ 400 := by
  simp only [yearWithin]
  split <;> split <;> omega

/-- The first year of an era goes from March to December. -/
theorem yearWithin_eq_zero_iff {dayOfEra : Nat} : yearWithin dayOfEra = 0 ↔ dayOfEra < 306 := by
  simp only [yearWithin]
  split <;> split <;> omega

/-- The last year of an era is January and February, with a leap day. -/
theorem yearWithin_eq_last_iff {dayOfEra : Nat} (inside : dayOfEra < 146097) :
    yearWithin dayOfEra = 400 ↔ 146037 ≤ dayOfEra := by
  simp only [yearWithin]
  split <;> split <;> omega

/-- The years 1 to 9999 are the days from the first of January of the year 1 to the last of December
of the year 9999. -/
theorem year_ofDays_iff (days : Int) :
    1 ≤ (ofDays days).year ∧ (ofDays days).year ≤ 9999 ↔ -719162 ≤ days ∧ days < 2932897 := by
  have positive : (0 : Int) < 146097 := by decide
  have parts := Int.mul_fdiv_add_fmod (days + 719468) 146097
  have nonnegative := Int.fmod_nonneg_of_pos (days + 719468) positive
  have below := Int.fmod_lt_of_pos (days + 719468) positive
  have inside : ((days + 719468).fmod 146097).toNat < 146097 := by omega
  have most := yearWithin_le inside
  have first := @yearWithin_eq_zero_iff ((days + 719468).fmod 146097).toNat
  have last := yearWithin_eq_last_iff inside
  rw [year_ofDays]
  generalize yearWithin _ = year at most first last ⊢
  omega

end CivilDate

/-! ## Points in time -/

/-- The first second that can be shown: the year 1 begins. -/
def firstSecond : Int := -62135596800

/-- The second after the last one that can be shown: the year 9999 has ended. -/
def endSecond : Int := 253402300800

/-- A second is shown exactly if it lies in the years that are shown. -/
theorem showSecond_isOk_iff (second : Int) :
    (∃ text, showSecond second = .ok text) ↔ firstSecond ≤ second ∧ second < endSecond := by
  have years := CivilDate.year_ofDays_iff (second.fdiv 86400)
  have parts := Int.mul_fdiv_add_fmod second 86400
  have nonnegative := Int.fmod_nonneg_of_pos second (show (0 : Int) < 86400 by decide)
  have below := Int.fmod_lt_of_pos second (show (0 : Int) < 86400 by decide)
  have range : (-719162 ≤ second.fdiv 86400 ∧ second.fdiv 86400 < 2932897) ↔
      firstSecond ≤ second ∧ second < endSecond := by
    unfold firstSecond endSecond
    omega
  rw [← range, ← years]
  unfold showSecond
  dsimp only
  split
  · rename_i shown
    exact iff_of_true ⟨_, rfl⟩ shown
  · rename_i hidden
    exact iff_of_false nofun hidden

namespace Decimal

/-- A value lies within half of its rounding, and half above it only if the rounding is even. -/
theorem roundHalfEven_near (value : Rat) :
    (roundHalfEven value : Rat) - 1 / 2 ≤ value ∧ value ≤ roundHalfEven value + 1 / 2 ∧
      (value = roundHalfEven value + 1 / 2 → roundHalfEven value % 2 = 0) := by
  have floor_le : (value.floor : Rat) ≤ value := Rat.floor_le value
  have lt_floor : value < (value.floor + 1 : Int) := Rat.lt_floor_add_one value
  push_cast at lt_floor
  unfold roundHalfEven
  dsimp only
  generalize value.floor = below at floor_le lt_floor ⊢
  split
  · rename_i low
    exact ⟨by linarith, by linarith, fun tie => by linarith⟩
  · rename_i reaches
    split
    · rename_i high
      push_cast
      exact ⟨by linarith, by linarith, fun tie => by linarith⟩
    · rename_i within
      obtain even | odd := Int.emod_two_eq_zero_or_one below
      · rw [even, add_zero]
        exact ⟨by linarith, by linarith, fun _ => even⟩
      · rw [odd]
        push_cast
        exact ⟨by linarith, by linarith, fun tie => by linarith⟩

/-- Rounding reaches an even whole number from half below it on. -/
theorem le_roundHalfEven_iff {value : Rat} {n : Int} (even : n % 2 = 0) :
    n ≤ roundHalfEven value ↔ (n : Rat) - 1 / 2 ≤ value := by
  obtain ⟨above, below, tie⟩ := roundHalfEven_near value
  constructor
  · intro reached
    have reached : (n : Rat) ≤ roundHalfEven value := Int.cast_le.mpr reached
    linarith
  · intro near
    by_contra missed
    have missed : roundHalfEven value + 1 ≤ n := not_le.mp missed
    have ahead : (roundHalfEven value : Rat) + 1 ≤ n := by exact_mod_cast missed
    have next : (n : Rat) ≤ (roundHalfEven value + 1 : Int) := by push_cast; linarith
    have next : n ≤ roundHalfEven value + 1 := Int.cast_le.mp next
    have rounded : roundHalfEven value % 2 = 0 := tie (by linarith)
    omega

end Decimal

/-- A point of the exact scale falls into a second or a later one from half a microsecond before it
on. -/
theorem le_second_iff (instant : Rat) (second : Int) :
    second ≤ (Decimal.roundHalfEven (instant * 1000000)).fdiv 1000000 ↔
      (second : Rat) - 1 / 2000000 ≤ instant := by
  have micros : second ≤ (Decimal.roundHalfEven (instant * 1000000)).fdiv 1000000 ↔
      second * 1000000 ≤ Decimal.roundHalfEven (instant * 1000000) := by
    rw [Int.fdiv_eq_ediv_of_nonneg _ (by decide), Int.le_ediv_iff_mul_le (by decide)]
  rw [micros, Decimal.le_roundHalfEven_iff (by omega)]
  push_cast
  constructor <;> intro reached <;> linarith

/-- Where the years that are shown begin on the exact scale. -/
def startOfYears : Rat := firstSecond - 1 / 2000000

/-- Where the years that are shown end on the exact scale. -/
def endOfYears : Rat := endSecond - 1 / 2000000

/-- A point of the exact scale lies in the years that are shown. -/
def WithinYears (instant : Rat) : Prop := startOfYears ≤ instant ∧ instant < endOfYears

instance (instant : Rat) : Decidable (WithinYears instant) := inferInstanceAs (Decidable (_ ∧ _))

/-- A point of the exact scale is shown exactly if it lies in the years that are shown. -/
theorem showInstant_isOk_iff (instant : Rat) :
    (∃ text, showInstant instant = .ok text) ↔ WithinYears instant := by
  have first := le_second_iff instant firstSecond
  have ended := not_iff_not.mpr (le_second_iff instant endSecond)
  rw [not_le, not_le] at ended
  rw [WithinYears, startOfYears, endOfYears, ← first, ← ended]
  generalize counted : (Decimal.roundHalfEven (instant * 1000000)).fdiv 1000000 = second
  have shows : showInstant instant = (clockSecond second).bind showSecond := by
    rw [← counted]
    rfl
  rw [← showSecond_isOk_iff, shows, clockSecond]
  split
  · exact Iff.rfl
  · rename_i beyond
    refine iff_of_false nofun fun shown => beyond ?_
    have range := (showSecond_isOk_iff second).mp shown
    unfold firstSecond endSecond at range
    unfold clockSeconds
    omega

end Evacuation
