/-!
# Rounding to whole numbers

Rounding a rational number to the nearest whole number; a value half-way between two goes to the
even one. The result is one of the two neighbours of the value (`floor_le_roundHalfEven`,
`roundHalfEven_le`), and a whole number is its own rounding (`roundHalfEven_intCast`).
-/
namespace Evacuation.Decimal

/-- The nearest whole number, a tie going to the even one. -/
def roundHalfEven (value : Rat) : Int :=
  let below := value.floor
  let part := value - below
  if part < 1 / 2 then below
  else if 1 / 2 < part then below + 1
  else below + below % 2

/-- Rounding never goes below the whole number below. -/
theorem floor_le_roundHalfEven (value : Rat) : value.floor ≤ roundHalfEven value := by
  unfold roundHalfEven
  dsimp only
  split
  · omega
  · split <;> omega

/-- Rounding never goes more than one above the whole number below. -/
theorem roundHalfEven_le (value : Rat) : roundHalfEven value ≤ value.floor + 1 := by
  unfold roundHalfEven
  dsimp only
  split
  · omega
  · split <;> omega

/-- A whole number is its own rounding. -/
theorem roundHalfEven_intCast (n : Int) : roundHalfEven n = n := by
  have below : (n : Rat).floor = n := Rat.floor_intCast n
  have part : (n : Rat) - (n : Rat) = 0 := Rat.sub_self
  have small : (0 : Rat) < 1 / 2 := by decide +kernel
  unfold roundHalfEven
  dsimp only
  rw [below, part, if_pos small]

/-- Half-way values go to the even neighbour. -/
example : roundHalfEven (1 / 2) = 0 ∧ roundHalfEven (3 / 2) = 2 ∧ roundHalfEven (-1 / 2) = 0 := by
  decide +kernel

end Evacuation.Decimal
