import Evacuation.Decimal.Integer
import Evacuation.Text.Split
import Evacuation.Yaml.Node
import Evacuation.Yaml.Value
/-!
# What scalars mean

A node means what its tag says; a bare scalar without a tag means what it looks like, and is a text
if it looks like nothing else. Whole numbers are written to the bases 10, 2, 8 and 16 or in parts of
sixty, decimal numbers with a point; underscores group their digits.
-/
namespace Evacuation.Yaml

/-- What a node means. -/
inductive Meaning where
  | null
  | boolean
  | integer
  | decimal
  | moment
  | text
  | sequence
  | mapping
  /-- The key of mappings whose members are taken over. -/
  | merge
  /-- The key of the member that stands for its mapping. -/
  | standIn
  /-- A tag without a known meaning. -/
  | unknown (tag : String)
  deriving DecidableEq, Repr

namespace Meaning

/-- What the known tags begin with. -/
def tagRoot : String := "tag:yaml.org,2002:"

/-- The meanings of the known tags. -/
def known : List (String × Meaning) :=
  [("null", .null), ("bool", .boolean), ("int", .integer), ("float", .decimal),
    ("timestamp", .moment), ("str", .text), ("seq", .sequence), ("map", .mapping),
    ("merge", .merge), ("value", .standIn)]

/-- The meaning of a tag. -/
def ofTag (tag : String) : Meaning :=
  match known.find? fun entry => tagRoot ++ entry.1 == tag with
  | some (_, meaning) => meaning
  | none => .unknown tag

/-- The tag of a meaning. -/
def tag (meaning : Meaning) : String :=
  match meaning, known.find? fun entry => entry.2 == meaning with
  | .unknown tag, _ => tag
  | _, some (name, _) => tagRoot ++ name
  | _, none => tagRoot

/-! ## What a text looks like -/

/-- Words for truth values, in small letters, and what they mean. -/
def truthWords : List (String × Bool) :=
  [("yes", true), ("no", false), ("true", true), ("false", false), ("on", true), ("off", false)]

/-- A word in one of the three ways in which it may be written: in small letters, with a capital, or
in capitals. -/
def isWritten (word text : List Char) : Bool :=
  text == word || text == word.map Char.toUpper ||
    text == (word.take 1).map Char.toUpper ++ word.drop 1

/-- A text that looks like a truth value. -/
def isBoolean (text : List Char) : Bool :=
  truthWords.any fun entry => isWritten entry.1.toList text

/-- A text that looks like nothing. -/
def isNull (text : List Char) : Bool :=
  text.isEmpty || text == ['~'] || isWritten "null".toList text

/-- A text without the sign it begins with. -/
def unsigned : List Char → List Char
  | '+' :: rest | '-' :: rest => rest
  | numeral => numeral

/-- A digit or an underscore. -/
def isGrouped (c : Char) : Bool := c.isDigit || c == '_'

/-- A part of sixty: one digit, or two of which the first is less than six. -/
def isSixtieth : List Char → Bool
  | [c] => c.isDigit
  | [c, d] => '0' ≤ c && c ≤ '5' && d.isDigit
  | _ => false

/-- Digits that begin with one of a kind. -/
def isNumeral (isFirst : Char → Bool) : List Char → Bool
  | c :: rest => isFirst c && rest.all isGrouped
  | [] => false

/-- A digit other than zero. -/
def isLeading (c : Char) : Bool := '1' ≤ c && c ≤ '9'

/-- A text that looks like a whole number. -/
def isInteger (text : List Char) : Bool :=
  match unsigned text with
  | ['0'] => true
  | '0' :: 'b' :: bits => !bits.isEmpty && bits.all fun c => c == '0' || c == '1' || c == '_'
  | '0' :: 'x' :: digits =>
    !digits.isEmpty && digits.all fun c => (Text.hexValue? c).isSome || c == '_'
  | '0' :: digits => digits.all fun c => ('0' ≤ c && c ≤ '7') || c == '_'
  | text =>
    match Text.splitAll ':' text with
    | whole :: parts => isNumeral isLeading whole && parts.all isSixtieth
    | [] => false

/-- A text behind the point of a number: digits and a signed power of ten. -/
def isFraction (text : List Char) : Bool :=
  match text.dropWhile isGrouped with
  | [] => true
  | mark :: sign :: digits =>
    (mark == 'e' || mark == 'E') && (sign == '+' || sign == '-') && !digits.isEmpty &&
      digits.all Char.isDigit
  | _ => false

/-- A text that looks like a decimal number. -/
def isDecimal (text : List Char) : Bool :=
  match Text.splitFirst '.' (unsigned text) with
  | none => false
  | some ([], fraction) =>
    let unsigned := text.head? == some '.'
    isWritten "inf".toList fraction ||
      (unsigned && (fraction == "nan".toList || fraction == "NaN".toList ||
        fraction == "NAN".toList || (fraction.head?.any Char.isDigit && isFraction fraction)))
  | some (whole, fraction) =>
    match Text.splitAll ':' whole with
    | [whole] => isNumeral Char.isDigit whole && isFraction fraction
    | whole :: parts =>
      isNumeral Char.isDigit whole && parts.all isSixtieth && fraction.all isGrouped
    | [] => false

/-- The meaning of a text by what it looks like. -/
def ofText (text : List Char) : Meaning :=
  if isBoolean text then .boolean
  else if isDecimal text then .decimal
  else if isInteger text then .integer
  else if text == ['<', '<'] then .merge
  else if isNull text then .null
  else if Moment.isWritten text then .moment
  else if text == ['='] then .standIn
  else .text

end Meaning

/-- What a node means. -/
def Node.meaning : Node → Meaning
  | .scalar (some tag) _ _ _ => .ofTag tag
  | .scalar none text bare _ => if bare then .ofText text.toList else .text
  | .sequence tag _ _ => (tag.map Meaning.ofTag).getD .sequence
  | .mapping tag _ _ => (tag.map Meaning.ofTag).getD .mapping
  | .enclosing .mapping _ => .mapping
  | .enclosing _ _ => .sequence

/-! ## Values of scalars -/

namespace ScalarValue

/-- A text without underscores. -/
def ungrouped (text : List Char) : List Char := text.filter (· != '_')

/-- The truth value of a word. -/
def boolean (text : List Char) : Except ScalarFault Bool :=
  let text := text.map Char.toLower
  match Meaning.truthWords.find? fun entry => entry.1.toList == text with
  | some (_, value) => .ok value
  | none => .error (.boolean (String.ofList text))

/-- The number of digits to a base. -/
def digits (base : Nat) (text : List Char) : Except ScalarFault Int :=
  let isDigit (c : Char) : Bool := (Text.hexValue? c).any (· < base)
  if text.isEmpty || !text.all isDigit then .error (.digits base (String.ofList text))
  else .ok (text.foldl (fun number c => base * number + (Text.hexValue? c).getD 0) 0)

/-- A whole number in decimal digits. -/
def decimalDigits (text : List Char) : Except ScalarFault Int :=
  (Decimal.readInteger (String.ofList text)).mapError .integer

/-- A whole number without a sign. -/
def magnitude (text : List Char) : Except ScalarFault Int :=
  match text with
  | [] => .error .empty
  | '0' :: 'b' :: bits => digits 2 bits
  | '0' :: 'x' :: hexDigits => digits 16 hexDigits
  | '0' :: _ => digits 8 text
  | _ => do
    let parts ← (Text.splitAll ':' text).mapM decimalDigits
    return parts.foldl (fun number part => 60 * number + part) 0

/-- The sign that a number begins with. -/
def isNegative (text : List Char) : Bool := text.head? == some '-'

/-- The whole number of a text. -/
def integer (text : List Char) : Except ScalarFault Int := do
  let text := ungrouped text
  if text.isEmpty then throw .empty
  let size ← magnitude (Meaning.unsigned text)
  return if isNegative text then -size else size

/-- The decimal number of digits with a point or without. -/
def unsignedDecimal (text : List Char) : Except ScalarFault Float :=
  let whole := text.takeWhile Char.isDigit
  let (fraction, rest) := match text.dropWhile Char.isDigit with
    | '.' :: rest => (rest.takeWhile Char.isDigit, rest.dropWhile Char.isDigit)
    | rest => ([], rest)
  let digits := whole ++ fraction
  let value (exponent : Int) : Float :=
    Decimal.floatOf (Text.decimalNumber digits) digits.length (exponent - fraction.length)
  let isPower (power : List Char) : Bool := !power.isEmpty && power.all Char.isDigit
  let fault := .error (.decimal (String.ofList text))
  if digits.isEmpty then fault
  else
    match rest with
    | [] => .ok (value 0)
    | 'e' :: '-' :: power => if isPower power then .ok (value (-Text.decimalNumber power)) else fault
    | 'e' :: '+' :: power | 'e' :: power =>
      if isPower power then .ok (value (Text.decimalNumber power)) else fault
    | _ => fault

/-- The sum of parts of sixty, the last one first, each worth so much more than the one before. -/
def sixtieths : List Float → (worth : Int) → (sum : Float) → Float
  | [], _, sum => sum
  | part :: rest, worth, sum => sixtieths rest (worth * 60) (sum + part * floatOfInt worth)

/-- A decimal number without a sign. -/
def decimalSize (text : List Char) : Except ScalarFault Float :=
  if text == ".inf".toList then .ok (1.0 / 0.0)
  else if text == ".nan".toList then .ok (0.0 / 0.0)
  else if text.contains ':' then do
    let parts ← (Text.splitAll ':' text).mapM unsignedDecimal
    return sixtieths parts.reverse 1 0.0
  else unsignedDecimal text

/-- The decimal number of a text. -/
def decimal (text : List Char) : Except ScalarFault Float := do
  let text := (ungrouped text).map Char.toLower
  if text.isEmpty then throw .empty
  let size ← decimalSize (Meaning.unsigned text)
  return if isNegative text then -size else size

/-- The moment of a text. -/
def moment (text : List Char) : Except ScalarFault Moment :=
  match Moment.read? text with
  | none => .error .instant
  | some found =>
    match found.fault? with
    | some report => .error (.date report)
    | none => .ok found

/-- The value of a scalar with a meaning. -/
def ofText (meaning : Meaning) (text : String) : Except ScalarFault Value :=
  match meaning with
  | .null => .ok .null
  | .boolean => (boolean text.toList).map .boolean
  | .integer => (integer text.toList).map .integer
  | .decimal => (decimal text.toList).map .decimal
  | .moment => (moment text.toList).map .moment
  | _ => .ok (.text text)

end ScalarValue

end Evacuation.Yaml
