import Mathlib.Data.List.Basic
import Mathlib.Data.List.Induction
import Mathlib.Data.List.TakeWhile
import Evacuation.Decimal.Integer
import Evacuation.Decimal.Power
/-!
# Whole numbers in Latin digits

The digits of a number stand for that number (`Text.decimalNumber_digitsOf`), and they are read as it,
unless they are more than are read at all (`Decimal.readInteger_repr`). A number that is read from
digits of any script is not that long (`Decimal.exists_nat_of_readInteger`), so it can be written in
Latin digits and is read again.
-/
namespace Evacuation

namespace Text

/-- A Latin digit is one of ten. -/
theorem exists_eq_of_isDigit {c : Char} (digit : c.isDigit = true) :
    ∃ value < 10, c = Char.ofNat (0x30 + value) := by
  obtain ⟨least, most⟩ := Char.isDigit_iff_toNat.mp digit
  have zero : '0'.toNat = 0x30 := rfl
  have nine : '9'.toNat = 0x39 := rfl
  have place : 0x30 + (c.toNat - 0x30) = c.toNat := by omega
  refine ⟨c.toNat - 0x30, by omega, ?_⟩
  rw [place, Char.ofNat_toNat]

/-- A Latin digit has the value it shows. -/
theorem decimalValue?_of_isDigit {c : Char} (digit : c.isDigit = true) :
    decimalValue? c = some (c.toNat - '0'.toNat) := by
  have shown : ∀ value < 10, (Char.ofNat (0x30 + value)).toNat - '0'.toNat = value := by decide
  obtain ⟨value, small, rfl⟩ := exists_eq_of_isDigit digit
  rw [decimalValue?_latin value small, shown value small]

theorem isDecimal_of_isDigit {c : Char} (digit : c.isDigit = true) : isDecimal c = true := by
  rw [isDecimal, decimalValue?_of_isDigit digit]
  rfl

/-- What is written of a number is digits. -/
theorem isDigit_of_mem_digitsOf {number : Nat} {c : Char} (written : c ∈ digitsOf number) :
    c.isDigit = true :=
  Nat.isDigit_of_mem_toDigits (by decide) (by decide) written

/-- The digits of a number stand for that number. -/
theorem decimalNumber_digitsOf (number : Nat) : decimalNumber (digitsOf number) = number := by
  have digitwise : decimalNumber (digitsOf number) = Nat.ofDigitChars 10 (digitsOf number) 0 := by
    rw [decimalNumber, Nat.ofDigitChars_eq_foldl]
    apply List.foldl_ext
    intro sum c written
    rw [decimalValue?_of_isDigit (isDigit_of_mem_digitsOf written), Option.getD_some]
  rw [digitwise]
  exact Nat.ofDigitChars_toDigits (by decide) (by decide)

/-- A number that is less than a power of ten has no more digits. -/
theorem length_digitsOf_le {number size : Nat} (positive : 0 < size)
    (short : number < Decimal.power 10 size) : (digitsOf number).length ≤ size :=
  (Nat.length_toDigits_le_iff (by decide) positive).mpr short

/-- What digits stand for is less than the power of ten to their number. -/
theorem decimalNumber_lt (digits : List Char) : decimalNumber digits < Decimal.power 10 digits.length := by
  induction digits using List.reverseRecOn with
  | nil => exact Nat.one_pos
  | append_singleton digits c ih =>
    have digit : (decimalValue? c).getD 0 < 10 := by
      cases known : decimalValue? c with
      | none => decide
      | some value => exact decimalValue?_lt known
    have onward : decimalNumber (digits ++ [c]) =
        10 * decimalNumber digits + (decimalValue? c).getD 0 := by
      rw [decimalNumber, List.foldl_append]
      rfl
    rw [onward, List.length_append, List.length_singleton, Decimal.power_succ]
    omega

end Text

namespace Decimal

/-- Digits without underscores are the digits of their numeral. -/
theorem numeralDigits?_of_isDecimal {digits : List Char} (filled : digits ≠ [])
    (decimal : ∀ c ∈ digits, Text.isDecimal c = true) : numeralDigits? digits = some digits := by
  induction digits with
  | nil => exact absurd rfl filled
  | cons c rest ih =>
    obtain ⟨first, others⟩ := List.forall_mem_cons.mp decimal
    cases rest with
    | nil => simp [numeralDigits?, first]
    | cons d rest =>
      have second := others d List.mem_cons_self
      have ungrouped : d ≠ '_' := by
        rintro rfl
        revert second
        decide
      have onward := ih (List.cons_ne_nil d rest) others
      rw [numeralDigits?, if_pos first, onward, Option.map_some]
      exact ungrouped

/-- A numeral that is read is not too long. -/
theorem lt_of_magnitude {text : String} {numeral : List Char} {number : Nat}
    (ok : magnitude text numeral = .ok number) : number < power 10 mostDigits := by
  unfold magnitude at ok
  split at ok
  · cases ok
  · rename_i digits spelled
    split at ok
    · cases ok
    · rename_i short
      split at ok
      · cases ok
        calc
          Text.decimalNumber digits < power 10 digits.length := Text.decimalNumber_lt digits
          _ ≤ power 10 mostDigits := power_le_power (by decide) (not_lt.mp short)
      · cases ok

theorem mem_of_mem_withoutPadding {text : List Char} {c : Char} (kept : c ∈ withoutPadding text) :
    c ∈ text := by
  rw [withoutPadding, List.mem_reverse] at kept
  have inner := (List.dropWhile_sublist isPadding).subset kept
  exact (List.dropWhile_sublist isPadding).subset (List.mem_reverse.mp inner)

/-- A number that is read from a text without a minus sign is not negative and not too long. -/
theorem exists_nat_of_readInteger {text : String} {number : Int} (ok : readInteger text = .ok number)
    (unsigned : '-' ∉ text.toList) : ∃ size : Nat, number = size ∧ size < power 10 mostDigits := by
  have of_magnitude {numeral : List Char} (ok : (magnitude text numeral).map Int.ofNat = .ok number) :
      ∃ size : Nat, number = size ∧ size < power 10 mostDigits := by
    cases read : magnitude text numeral with
    | error cause =>
      rw [read] at ok
      cases ok
    | ok size =>
      rw [read] at ok
      cases ok
      exact ⟨size, rfl, lt_of_magnitude read⟩
  rw [readInteger] at ok
  unfold signed at ok
  split at ok
  · rename_i rest spelled
    have minus : '-' ∈ withoutPadding text.toList := spelled ▸ List.mem_cons_self
    exact absurd (mem_of_mem_withoutPadding minus) unsigned
  · exact of_magnitude ok
  · exact of_magnitude ok

/-- A text of which no character is padding has none at its ends. -/
theorem withoutPadding_eq_self {text : List Char} (solid : ∀ c ∈ text, isPadding c = false) :
    withoutPadding text = text := by
  have dropped {part : List Char} (solid : ∀ c ∈ part, isPadding c = false) :
      part.dropWhile isPadding = part := by
    refine List.dropWhile_eq_self_iff.mpr fun filled => ?_
    rw [solid _ (List.getElem_mem filled)]
    exact Bool.false_ne_true
  have solid_reverse : ∀ c ∈ text.reverse, isPadding c = false := fun c listed =>
    solid c (List.mem_reverse.mp listed)
  rw [withoutPadding, dropped solid, dropped solid_reverse, List.reverse_reverse]

/-- A number is read from its Latin digits, if these are not too many. -/
theorem readInteger_repr {number : Nat} (short : number < power 10 mostDigits) :
    readInteger number.repr = .ok (number : Int) := by
  have spelled : number.repr.toList = Text.digitsOf number := Nat.toList_repr
  have latin : ∀ c ∈ Text.digitsOf number, ∃ value < 10, c = Char.ofNat (0x30 + value) :=
    fun c written => Text.exists_eq_of_isDigit (Text.isDigit_of_mem_digitsOf written)
  have decimal : ∀ c ∈ Text.digitsOf number, Text.isDecimal c = true := fun c written =>
    Text.isDecimal_of_isDigit (Text.isDigit_of_mem_digitsOf written)
  have whole : ∀ c ∈ Text.digitsOf number, isNumeralChar c = true := fun c written => by
    rw [isNumeralChar, decimal c written, Bool.true_or]
  have filled : Text.digitsOf number ≠ [] := Nat.toDigits_ne_nil
  have few : (Text.digitsOf number).length ≤ mostDigits :=
    Text.length_digitsOf_le (by decide) short
  have size : magnitude number.repr (Text.digitsOf number) = .ok number := by
    rw [magnitude, List.takeWhile_eq_self_iff.mpr whole,
      numeralDigits?_of_isDecimal filled decimal]
    simp only [not_lt.mpr few, if_false, List.all_eq_true.mpr whole, if_true,
      Text.decimalNumber_digitsOf]
  have unsigned : ∀ value < 10, isPadding (Char.ofNat (0x30 + value)) = false ∧
      Char.ofNat (0x30 + value) ≠ '-' ∧ Char.ofNat (0x30 + value) ≠ '+' := by decide
  have solid : ∀ c ∈ Text.digitsOf number, isPadding c = false := fun c written => by
    obtain ⟨value, small, rfl⟩ := latin c written
    exact (unsigned value small).1
  rw [readInteger, spelled, withoutPadding_eq_self solid]
  unfold signed
  split
  · rename_i rest begins
    obtain ⟨value, small, minus⟩ := latin '-' (begins ▸ List.mem_cons_self)
    exact absurd minus.symm (unsigned value small).2.1
  · rename_i rest begins
    obtain ⟨value, small, plus⟩ := latin '+' (begins ▸ List.mem_cons_self)
    exact absurd plus.symm (unsigned value small).2.2
  · rw [size]
    rfl

end Decimal

end Evacuation
