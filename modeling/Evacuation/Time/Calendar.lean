import Evacuation.Time.Scale
/-!
# Calendar time

A point in time is shown as a date and a time of day in universal time, to the second. Days are
counted from the first of January 1970 in the Gregorian calendar, extended backwards; only the
years 1 to 9999 can be shown.
-/
namespace Evacuation

/-- A day of the Gregorian calendar. -/
structure CivilDate where
  year : Int
  month : Nat
  day : Nat
  deriving DecidableEq, Repr

/-- The date a number of days after the first of January 1970. The count is moved to a first of
March, so that a leap day ends its year, and cut into eras of 400 years. -/
def CivilDate.ofDays (days : Int) : CivilDate :=
  let shifted := days + 719468
  let era := shifted.fdiv 146097
  let dayOfEra := (shifted.fmod 146097).toNat
  let yearOfEra := (dayOfEra - dayOfEra / 1460 + dayOfEra / 36524 - dayOfEra / 146096) / 365
  let dayOfYear := dayOfEra - (365 * yearOfEra + yearOfEra / 4 - yearOfEra / 100)
  let marchMonth := (5 * dayOfYear + 2) / 153
  let day := dayOfYear - (153 * marchMonth + 2) / 5 + 1
  let month := if marchMonth < 10 then marchMonth + 3 else marchMonth - 9
  let year := yearOfEra + era * 400 + if month ≤ 2 then 1 else 0
  ⟨year, month, day⟩

/-- A number in at least the given number of digits. -/
def padded (width number : Nat) : String :=
  let digits := toString number
  "".pushn '0' (width - digits.length) ++ digits

/-- The text of a second counted from the start of 1970. -/
def showSecond (second : Int) : Except TimeError String :=
  let date := CivilDate.ofDays (second.fdiv 86400)
  let time := (second.fmod 86400).toNat
  if 1 ≤ date.year ∧ date.year ≤ 9999 then
    .ok (padded 4 date.year.toNat ++ "-" ++ padded 2 date.month ++ "-" ++ padded 2 date.day ++ "T" ++
      padded 2 (time / 3600) ++ ":" ++ padded 2 (time / 60 % 60) ++ ":" ++ padded 2 (time % 60) ++
      "+00:00")
  else .error (.yearOutOfRange date.year)

/-- The text of a point in time, in universal time and to the second. -/
def showInstant {T : Type} [TimeScale T] (instant : T) : Except TimeError String :=
  (TimeScale.second instant).bind showSecond

/-- The count starts in 1970. -/
example : CivilDate.ofDays 0 = ⟨1970, 1, 1⟩ := by decide +kernel

/-- A leap day of a year divisible by 400. -/
example : CivilDate.ofDays 11016 = ⟨2000, 2, 29⟩ := by decide +kernel

end Evacuation
