import Evacuation.Decimal.Power
/-!
# Binary64 floats

The bits of a float are a sign, eleven bits of exponent and fifty-two bits of fraction. A float is
finite unless its exponent is all ones; a finite float is a whole number of units, and the unit is
a power of two.
-/
namespace Evacuation

/-- The exact value of a number that may be infinite or undefined. -/
inductive Reading where
  | finite (value : Rat)
  | infinite (negative : Bool)
  | undefined
  deriving DecidableEq

/-- The parts of a float. -/
structure Binary64 where
  negative : Bool
  exponent : Nat
  fraction : Nat
  deriving DecidableEq, Repr

namespace Binary64

/-- The number of fractions. -/
def fractions : Nat := Decimal.power 2 52

/-- The number of exponents. -/
def exponents : Nat := Decimal.power 2 11

/-- The parts of a float, cut out of its bits. -/
def ofFloat (x : Float) : Binary64 :=
  let bits := x.toBits.toNat
  { negative := bits / fractions / exponents == 1
    exponent := bits / fractions % exponents
    fraction := bits % fractions }

/-- The number of units in a finite float. -/
def mantissa (parts : Binary64) : Nat :=
  if parts.exponent = 0 then parts.fraction else fractions + parts.fraction

/-- The unit of a finite float. -/
def unit (parts : Binary64) : Rat := Decimal.ratPower 2 (max parts.exponent 1 - 1075)

/-- The size of a finite float. -/
def size (parts : Binary64) : Rat := parts.mantissa * parts.unit

/-- The exact value. -/
def reading (parts : Binary64) : Reading :=
  if parts.exponent = 2047 then
    if parts.fraction = 0 then .infinite parts.negative else .undefined
  else .finite (if parts.negative then -parts.size else parts.size)

end Binary64

/-- The exact value of a float. -/
def floatReading (x : Float) : Reading := (Binary64.ofFloat x).reading

/-- The float of a number with so many decimal digits times a power of ten. Beyond a thousand places
more the float is infinite or zero in any case. -/
def Decimal.floatOf (number : Nat) (digits : Nat) (exponent : Int) : Float :=
  if number = 0 then 0.0
  else if exponent < 0 then Float.ofScientific number true (min exponent.natAbs (digits + 1000))
  else Float.ofScientific number false (min exponent.natAbs 1000)

end Evacuation
