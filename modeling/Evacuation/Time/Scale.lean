import Evacuation.Decimal.Binary64
import Evacuation.Decimal.Rounding
/-!
# Time scales

The controller computes with points in time and spans of time on one scale, counted in seconds.
What it needs of a scale is small: a zero, sum, difference and product, two comparisons, whole and
decimal numbers as points of the scale, and the exact value of a point. There are two scales. Binary64 floats are
the scale of running clocks; their sums are rounded and their comparisons with an undefined value
are all false. The rational numbers are the exact scale.

`later` and `earlier` pick one of two points; the first one stands unless the second is strictly
after (before) it.
-/
namespace Evacuation

/-- Why a value on a time scale has no counterpart where one is needed. -/
inductive TimeError where
  /-- An undefined value is no point in time. -/
  | undefinedInstant
  /-- The value is past the seconds a clock can count. -/
  | beyondClock
  /-- The calendar has no such year. -/
  | yearOutOfRange (year : Int)
  /-- An infinite span has no whole number of seconds. -/
  | infiniteCount
  /-- An undefined span has no whole number of seconds. -/
  | undefinedCount
  /-- A whole number is too large for the scale. -/
  | integerTooLarge
  deriving DecidableEq, Repr

/-- The text that reports a time error. -/
def TimeError.message : TimeError → String
  | .undefinedInstant => "Invalid value NaN (not a number)"
  | .beyondClock => "timestamp out of range for platform time_t"
  | .yearOutOfRange year => s!"year {year} is out of range"
  | .infiniteCount => "cannot convert float infinity to integer"
  | .undefinedCount => "cannot convert float NaN to integer"
  | .integerTooLarge => "int too large to convert to float"

/-- What the controller needs of a scale of time in seconds. -/
class TimeScale (T : Type) extends Add T, Sub T, Mul T where
  /-- The zero of the scale. -/
  zero : T
  /-- The first point lies strictly before the second. -/
  before : T → T → Bool
  /-- The first point is not after the second. -/
  upTo : T → T → Bool
  /-- A whole number of seconds, rounded to the scale. -/
  ofInt : Int → T
  /-- A decimal number, given without its point and with its number of places, rounded to the
  scale. -/
  ofDecimal : Nat → Nat → T
  /-- The exact value of a point. -/
  reading : T → Reading
  /-- The second of the clock that a point falls into, once it is rounded to microseconds. -/
  second : T → Except TimeError Int

namespace TimeScale

variable {T : Type} [TimeScale T]

/-- The later of two points; the first unless the second is strictly after it. -/
def later (a b : T) : T := if before a b then b else a

/-- The earlier of two points; the first unless the second is strictly before it. -/
def earlier (a b : T) : T := if before b a then b else a

/-- A whole number as a point of the scale, refused if the scale does not reach it. -/
def ofInt? (n : Int) : Except TimeError T :=
  match reading (ofInt n : T) with
  | .infinite _ => .error .integerTooLarge
  | _ => .ok (ofInt n)

/-- The first point lies strictly before a whole number, compared exactly. -/
def beforeInt (t : T) (n : Int) : Bool :=
  match reading t with
  | .finite value => decide (value < n)
  | .infinite negative => negative
  | .undefined => false

/-- The least whole number that is not before a point. -/
def ceil (t : T) : Except TimeError Int :=
  match reading t with
  | .finite value => .ok value.ceil
  | .infinite _ => .error .infiniteCount
  | .undefined => .error .undefinedCount

/-- A span in whole seconds, as shown in messages: the nearest whole number, ties to even, with
the sign of the span. -/
def wholeText (t : T) : String :=
  match reading t with
  | .finite value =>
    if value < 0 then s!"-{(Decimal.roundHalfEven (-value)).natAbs}"
    else s!"{(Decimal.roundHalfEven value).natAbs}"
  | .infinite negative => if negative then "-inf" else "inf"
  | .undefined => "nan"

end TimeScale

/-- The seconds that a clock with 64 bits can count on either side of its zero. -/
def clockSeconds : Int := 9223372036854775808

/-- A second that a clock with 64 bits can count. -/
def clockSecond (n : Int) : Except TimeError Int :=
  if -clockSeconds ≤ n ∧ n < clockSeconds then .ok n else .error .beyondClock

/-! ## The exact scale -/

/-- The rational numbers are the exact scale. -/
instance : TimeScale Rat where
  zero := 0
  before a b := decide (a < b)
  upTo a b := decide (a ≤ b)
  ofInt n := n
  ofDecimal digits places := mkRat digits (Decimal.power 10 places)
  reading := .finite
  second t := clockSecond ((Decimal.roundHalfEven (t * 1000000)).fdiv 1000000)

/-! ## The scale of running clocks -/

/-- The float nearest to a whole number. -/
def floatOfInt (n : Int) : Float :=
  let magnitude := Float.ofScientific n.natAbs false 0
  if n < 0 then -magnitude else magnitude

/-- The clock second of a float: its whole part and its fraction are separated, the fraction is
rounded to microseconds, and a fraction that rounds to a full second is carried. -/
def floatSecond (x : Float) : Except TimeError Int :=
  match floatReading x with
  | .undefined => .error .undefinedInstant
  | .infinite _ => .error .beyondClock
  | .finite _ =>
    let whole := if x < 0.0 then x.ceil else x.floor
    match floatReading whole, floatReading ((x - whole) * 1000000.0) with
    | .finite seconds, .finite micros =>
      let rounded := Decimal.roundHalfEven micros
      let carry := if 1000000 ≤ rounded then 1 else if rounded < 0 then -1 else 0
      clockSecond (seconds.floor + carry)
    | _, _ => .error .beyondClock

/-- Binary64 floats are the scale of running clocks. -/
instance : TimeScale Float where
  zero := 0.0
  before a b := decide (a < b)
  upTo a b := decide (a ≤ b)
  ofInt := floatOfInt
  ofDecimal digits places := Float.ofScientific digits true places
  reading := floatReading
  second := floatSecond

end Evacuation
