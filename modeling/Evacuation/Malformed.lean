import Evacuation.Text.Quoted
/-!
# Malformed values

The causes for which the text of a setting is refused, each with the text that was given.
-/
namespace Evacuation

/-- Why the text of a value is refused. -/
inductive Malformed where
  /-- The text is no sequence of numbers with units of time. -/
  | duration (value : String)
  /-- The text has no key and value. -/
  | keyValue (value : String)
  /-- The text names no annotation. -/
  | marker (value : String)
  /-- The text names no node condition, or leaves its state empty. -/
  | condition (value : String)
  /-- The text has no port. -/
  | listenAddress (value : String)
  /-- The text is no whole number. -/
  | integer (value : String)
  /-- The text is a whole number with more digits than are read. -/
  | tooManyDigits (most digits : Nat)
  deriving DecidableEq, Repr

/-- How many characters of a quoted numeral a report shows. -/
def Malformed.shownLength : Nat := 200

/-- The text that reports a malformed value. -/
def Malformed.message : Malformed → String
  | .duration value => s!"invalid duration '{value}'"
  | .keyValue value => s!"expected KEY=VALUE, got '{value}'"
  | .marker value => s!"expected KEY[=VALUE], got '{value}'"
  | .condition value => s!"expected TYPE[=STATE], got '{value}'"
  | .listenAddress value => s!"expected [HOST]:PORT, got '{value}'"
  | .integer value =>
    "invalid literal for int() with base 10: " ++
      String.ofList ((Text.quoted value).toList.take shownLength)
  | .tooManyDigits most digits =>
    s!"Exceeds the limit ({most} digits) for integer string conversion: value has {digits} " ++
      "digits; use sys.set_int_max_str_digits() to increase the limit"

end Evacuation
