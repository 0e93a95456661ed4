/-!
# Digits

The decimal digits of every script (category `Nd`) come in runs of ten, so a script is given by
the place of its zero. Typographic digits (superscripts, circled and parenthesised digits and the
like) look like digits but have no place value. A digit stands for less than ten
(`decimalValue?_lt`), and the Latin digits for what they show (`decimalValue?_latin`).
-/
namespace Evacuation.Text

/-- The zeros of the scripts that have decimal digits. -/
def decimalZeros : List Nat := [
  0x0030, 0x0660, 0x06F0, 0x07C0, 0x0966, 0x09E6, 0x0A66, 0x0AE6, 0x0B66, 0x0BE6, 0x0C66,
  0x0CE6, 0x0D66, 0x0DE6, 0x0E50, 0x0ED0, 0x0F20, 0x1040, 0x1090, 0x17E0, 0x1810, 0x1946,
  0x19D0, 0x1A80, 0x1A90, 0x1B50, 0x1BB0, 0x1C40, 0x1C50, 0xA620, 0xA8D0, 0xA900, 0xA9D0,
  0xA9F0, 0xAA50, 0xABF0, 0xFF10, 0x104A0, 0x10D30, 0x11066, 0x110F0, 0x11136, 0x111D0, 0x112F0,
  0x11450, 0x114D0, 0x11650, 0x116C0, 0x11730, 0x118E0, 0x11950, 0x11C50, 0x11D50, 0x11DA0,
  0x16A60, 0x16AC0, 0x16B50, 0x1D7CE, 0x1D7D8, 0x1D7E2, 0x1D7EC, 0x1D7F6, 0x1E140, 0x1E2F0,
  0x1E950, 0x1FBF0]

/-- Ranges of digits without a place value. -/
def typographicDigits : List (Nat × Nat) := [
  (0x00B2, 0x00B3), (0x00B9, 0x00B9), (0x1369, 0x1371), (0x19DA, 0x19DA), (0x2070, 0x2070),
  (0x2074, 0x2079), (0x2080, 0x2089), (0x2460, 0x2468), (0x2474, 0x247C), (0x2488, 0x2490),
  (0x24EA, 0x24EA), (0x24F5, 0x24FD), (0x24FF, 0x24FF), (0x2776, 0x277E), (0x2780, 0x2788),
  (0x278A, 0x2792), (0x10A40, 0x10A43), (0x10E60, 0x10E68), (0x11052, 0x1105A),
  (0x1F100, 0x1F10A)]

/-- The value of a decimal digit of any script. -/
def decimalValue? (c : Char) : Option Nat :=
  (decimalZeros.find? fun start => start ≤ c.toNat && c.toNat < start + 10).map (c.toNat - ·)

/-- A decimal digit of any script. -/
def isDecimal (c : Char) : Bool := (decimalValue? c).isSome

/-- A digit of any kind, with or without a place value. -/
def isDigit (c : Char) : Bool :=
  isDecimal c || typographicDigits.any fun range => range.1 ≤ c.toNat && c.toNat ≤ range.2

/-- The number written by decimal digits, most significant first; other characters count zero. -/
def decimalNumber (digits : List Char) : Nat :=
  digits.foldl (fun number c => 10 * number + (decimalValue? c).getD 0) 0

/-- The Latin digits of a number. -/
def digitsOf (number : Nat) : List Char := Nat.toDigits 10 number

/-- The value of a hexadecimal digit. -/
def hexValue? (c : Char) : Option Nat :=
  if '0' ≤ c ∧ c ≤ '9' then some (c.toNat - '0'.toNat)
  else if 'a' ≤ c ∧ c ≤ 'f' then some (c.toNat - 'a'.toNat + 10)
  else if 'A' ≤ c ∧ c ≤ 'F' then some (c.toNat - 'A'.toNat + 10)
  else none

/-- The number written in hexadecimal digits; other characters count zero. -/
def hexNumber (digits : List Char) : Nat :=
  digits.foldl (fun number c => 16 * number + (hexValue? c).getD 0) 0

/-- The value of a digit is below ten. -/
theorem decimalValue?_lt {c : Char} {value : Nat} (known : decimalValue? c = some value) :
    value < 10 := by
  obtain ⟨start, found, rfl⟩ := Option.map_eq_some_iff.1 known
  have inside := List.find?_some found
  simp only [Bool.and_eq_true, decide_eq_true_eq] at inside
  omega

/-- A decimal digit is a digit. -/
theorem isDigit_of_isDecimal {c : Char} (decimal : isDecimal c = true) : isDigit c = true := by
  simp [isDigit, decimal]

/-- The Latin digits have their usual values. -/
theorem decimalValue?_latin : ∀ value < 10,
    decimalValue? (Char.ofNat (0x30 + value)) = some value := by
  decide

end Evacuation.Text
