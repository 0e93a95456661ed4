import Evacuation.Decimal.Binary64
/-!
# The shortest decimal of a float

A float stands for every real number that rounds to it: an interval around its value, whose ends
belong to it exactly if the last bit of the value is zero. Of the decimals in that interval those
with the fewest digits are the shortest, and of these the one nearest to the value is shown. It is
found by testing, for one digit, two digits and so on, the two neighbours of the value among the
decimals with so many digits; seventeen digits are always enough.
-/
namespace Evacuation.Decimal

/-- The value, the lower end and the upper end of the numbers that round to a float, and whether
the ends belong to them. The fields are those of a float without its sign. -/
structure Interval where
  value : Rat
  low : Rat
  high : Rat
  closed : Bool

/-- Ten to a power. -/
def tenTo (exponent : Int) : Rat := ratPower 10 exponent

/-- The numbers that round to the size of a finite float. The gap below a power of two is half the
gap above it. -/
def Interval.ofFloat (x : Float) : Interval :=
  let parts := Binary64.ofFloat x
  let below := if parts.fraction = 0 ∧ 1 < parts.exponent then parts.unit / 4 else parts.unit / 2
  { value := parts.size
    low := parts.size - below
    high := parts.size + parts.unit / 2
    closed := parts.mantissa % 2 == 0 }

/-- A number rounds to the float. -/
def Interval.holds (interval : Interval) (number : Rat) : Bool :=
  if interval.closed then decide (interval.low ≤ number ∧ number ≤ interval.high)
  else decide (interval.low < number ∧ number < interval.high)

/-- A whole number of units of a power of ten. -/
structure Scientific where
  digits : Nat
  exponent : Int
  deriving DecidableEq, Repr

/-- The number meant. -/
def Scientific.toRat (number : Scientific) : Rat := number.digits * tenTo number.exponent

/-- The power of ten of the first digit of a positive number. -/
def leadingPlace (value : Rat) : Int :=
  let guess : Int := (Nat.toDigits 10 value.num.natAbs).length - (Nat.toDigits 10 value.den).length
  if tenTo guess ≤ value then guess else guess - 1

/-- Of the two neighbours of the value with a number of digits, the one that rounds to the float;
the nearer one if both do, the even one if both are as near. -/
def Interval.neighbour? (interval : Interval) (exponent : Int) : Option Scientific :=
  let below := (interval.value / tenTo exponent).floor.toNat
  let lower : Scientific := ⟨below, exponent⟩
  let upper : Scientific := ⟨below + 1, exponent⟩
  match interval.holds lower.toRat, interval.holds upper.toRat with
  | false, false => none
  | true, false => some lower
  | false, true => some upper
  | true, true =>
    let down := interval.value - lower.toRat
    let up := upper.toRat - interval.value
    if down < up ∨ (down = up ∧ below % 2 = 0) then some lower else some upper

/-- The shortest decimal, tried from a number of digits on. -/
def Interval.shortestFrom (interval : Interval) (place : Int) : (more digits : Nat) → Scientific
  | 0, digits => ⟨(interval.value / tenTo (place - digits)).floor.toNat, place - digits⟩
  | more + 1, digits =>
    match interval.neighbour? (place - digits) with
    | some found => found
    | none => interval.shortestFrom place more (digits + 1)

/-- The shortest decimal that rounds to the size of a finite float other than zero. -/
def shortest (x : Float) : Scientific :=
  let interval := Interval.ofFloat x
  interval.shortestFrom (leadingPlace interval.value) 17 0

/-- A found neighbour rounds to the float. -/
theorem Interval.holds_of_neighbour? {interval : Interval} {exponent : Int} {found : Scientific}
    (hit : interval.neighbour? exponent = some found) : interval.holds found.toRat = true := by
  simp only [neighbour?] at hit
  split at hit
  · simp at hit
  · cases hit; assumption
  · cases hit; assumption
  · split at hit <;> (cases hit; assumption)

/-! ## Its text -/

/-- The digits with a point after some of them, filled with zeros on either side. -/
def positional (digits : List Char) (point : Int) : List Char :=
  if point ≤ 0 then '0' :: '.' :: List.replicate (-point).toNat '0' ++ digits
  else
    let whole := digits.take point.toNat
    let fraction := digits.drop point.toNat
    whole ++ List.replicate (point.toNat - whole.length) '0' ++
      '.' :: if fraction.isEmpty then ['0'] else fraction

/-- The digits with a point after the first one, and the power of ten in at least two digits. -/
def exponential (digits : List Char) (point : Int) : List Char :=
  let power := point - 1
  let size := Nat.toDigits 10 power.natAbs
  digits.take 1 ++ (if digits.length ≤ 1 then [] else '.' :: digits.drop 1) ++
    'e' :: (if power < 0 then '-' else '+') :: (List.replicate (2 - size.length) '0' ++ size)

/-- The text of a decimal: positional from the fourth place after the point up to sixteen places
before it, in powers of ten otherwise. -/
def Scientific.text (number : Scientific) : List Char :=
  let all := Nat.toDigits 10 number.digits
  let digits := (all.reverse.dropWhile (· == '0')).reverse
  let point := all.length + number.exponent
  if -4 < point ∧ point ≤ 16 then positional digits point else exponential digits point

/-- The text of a float. -/
def floatText (x : Float) : String :=
  match floatReading x with
  | .undefined => "nan"
  | .infinite negative => if negative then "-inf" else "inf"
  | .finite value =>
    let sign := if (Binary64.ofFloat x).negative then "-" else ""
    sign ++ if value = 0 then "0.0" else String.ofList (shortest x).text

end Evacuation.Decimal
