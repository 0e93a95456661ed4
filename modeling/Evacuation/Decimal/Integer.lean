import Evacuation.Malformed
import Evacuation.Text.Blank
import Evacuation.Text.Digit
/-!
# Whole numbers in text

A whole number is written as an optional sign and decimal digits of any script, with single
underscores allowed between digits. White space around it is skipped; the information separators,
which count as blanks elsewhere, do not count as white space here. A numeral may not have more than
`mostDigits` digits, leading zeros included; one that has more is refused as too long even if
something else follows it.
-/
namespace Evacuation.Decimal

/-- White space that may surround a whole number. -/
def isPadding (c : Char) : Bool :=
  Text.isBlank c && !(0x1C ≤ c.toNat && c.toNat ≤ 0x1F)

/-- The digits of a numeral, its underscores taken out; refused if an underscore does not stand
between two digits. -/
def numeralDigits? : List Char → Option (List Char)
  | [] => none
  | [c] => if Text.isDecimal c then some [c] else none
  | c :: '_' :: rest =>
    if Text.isDecimal c then (numeralDigits? rest).map (c :: ·) else none
  | c :: d :: rest =>
    if Text.isDecimal c then (numeralDigits? (d :: rest)).map (c :: ·) else none

/-- The most digits that a numeral may have. -/
def mostDigits : Nat := 4300

/-- A character of a numeral. -/
def isNumeralChar (c : Char) : Bool := Text.isDecimal c || c == '_'

/-- The number of a numeral without a sign, in the text that is given for reports. -/
def magnitude (text : String) (numeral : List Char) : Except Malformed Nat :=
  match numeralDigits? (numeral.takeWhile isNumeralChar) with
  | none => .error (.integer text)
  | some digits =>
    if mostDigits < digits.length then .error (.tooManyDigits mostDigits digits.length)
    else if numeral.all isNumeralChar then .ok (Text.decimalNumber digits)
    else .error (.integer text)

/-- The whole number of a numeral with a sign or without. -/
def signed (text : String) : List Char → Except Malformed Int
  | '-' :: rest => (magnitude text rest).map fun n => -(n : Int)
  | '+' :: rest => (magnitude text rest).map Int.ofNat
  | numeral => (magnitude text numeral).map Int.ofNat

/-- The text without white space at its ends. -/
def withoutPadding (text : List Char) : List Char :=
  ((text.dropWhile isPadding).reverse.dropWhile isPadding).reverse

/-- The whole number written in a text. -/
def readInteger (text : String) : Except Malformed Int := signed text (withoutPadding text.toList)

/-- Underscores group digits. -/
example : numeralDigits? "1_000".toList = some "1000".toList ∧ numeralDigits? "1__0".toList = none :=
  by decide +kernel

end Evacuation.Decimal
