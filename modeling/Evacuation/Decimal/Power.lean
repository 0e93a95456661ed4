/-!
# Powers

Whole powers of a base as rational numbers, and as natural numbers where the exponent is one.
-/
namespace Evacuation.Decimal

/-- A base to a power. -/
def power (base exponent : Nat) : Nat := Nat.pow base exponent

/-- A base to a power that may be negative. -/
def ratPower (base : Nat) (exponent : Int) : Rat :=
  if 0 ≤ exponent then (power base exponent.toNat : Nat)
  else mkRat 1 (power base (-exponent).toNat)

theorem power_succ (base exponent : Nat) : power base (exponent + 1) = power base exponent * base :=
  rfl

/-- A greater exponent gives no smaller power of a positive base. -/
theorem power_le_power {base : Nat} (positive : 0 < base) {small great : Nat}
    (ordered : small ≤ great) : power base small ≤ power base great :=
  Nat.pow_le_pow_right positive ordered

end Evacuation.Decimal
