import Evacuation.Document.Basic
import Evacuation.Text.Digit
import Evacuation.Text.Line
/-!
# Documents in JSON

Reading and writing documents in the notation of JSON. A number without point and exponent is
whole and of any size; any other number is rounded to the nearest float. A key that comes twice in
an object keeps its first place and its last value. In a text an escape stands for a unit of
sixteen bits; two units that belong together are one character, and half a pair stands for a
character that could not be read. What is no document is refused with the first place that is wrong.
-/
namespace Evacuation.Json

/-- What is wrong at a place of a text that is no document. -/
inductive Flaw where
  /-- There is no value. -/
  | value
  /-- There is no key. -/
  | key
  | colon
  | comma
  /-- Something follows the document. -/
  | extra
  /-- A text does not end. -/
  | unterminated
  /-- A text holds a control character. -/
  | control
  | escape
  /-- An escape is no unit of sixteen bits. -/
  | unit
  /-- The text begins with a mark of byte order. -/
  | orderMark
  deriving DecidableEq, Repr

/-- What is wrong in words. -/
def Flaw.report : Flaw → String
  | value => "Expecting value"
  | key => "Expecting property name enclosed in double quotes"
  | colon => "Expecting ':' delimiter"
  | comma => "Expecting ',' delimiter"
  | extra => "Extra data"
  | unterminated => "Unterminated string starting at"
  | control => "Invalid control character at"
  | escape => "Invalid \\escape"
  | unit => "Invalid \\uXXXX escape"
  | orderMark => "Unexpected UTF-8 BOM (decode using utf-8-sig)"

/-- A flaw, and how many characters are left from its place on. -/
structure Fault where
  flaw : Flaw
  left : Nat
  deriving DecidableEq, Repr

/-- The text that reports a fault in a text. -/
def Fault.message (text : String) (fault : Fault) : String :=
  let before := text.toList.take (text.length - fault.left)
  let line := before.count '\n' + 1
  let column := (before.reverse.takeWhile (· != '\n')).length + 1
  s!"{fault.flaw.report}: line {line} column {column} (char {before.length})"

/-- A flaw at the start of the rest of a text. -/
def flawed {α : Type} (flaw : Flaw) (rest : List Char) : Except Fault α :=
  .error ⟨flaw, rest.length⟩

/-- Blank space between the parts of a document. -/
def isSpace (c : Char) : Bool := c == ' ' || c == '\t' || c == '\n' || c == '\r'

/-- A unit of sixteen bits, read from four hexadecimal digits. -/
def readUnit : List Char → Option (Nat × List Char)
  | a :: b :: c :: d :: rest => do
    let value := ((← Text.hexValue? a) * 16 + (← Text.hexValue? b)) * 256 + (← Text.hexValue? c) * 16
    return (value + (← Text.hexValue? d), rest)
  | _ => none

/-- The character of an escape by one letter. -/
def escaped? : Char → Option Char
  | '"' => some '"'
  | '\\' => some '\\'
  | '/' => some '/'
  | 'b' => some '\x08'
  | 'f' => some '\x0c'
  | 'n' => some '\n'
  | 'r' => some '\r'
  | 't' => some '\t'
  | _ => none

/-- What stands for a character that could not be read. -/
def unreadable : Char := Char.ofNat 0xFFFD

/-- The character of a unit, or of a unit and the one after it. -/
def joinUnits (unit : Nat) (rest : List Char) : Char × List Char :=
  if 0xD800 ≤ unit ∧ unit < 0xDC00 then
    match rest with
    | '\\' :: 'u' :: more =>
      match readUnit more with
      | some (second, others) =>
        if 0xDC00 ≤ second ∧ second < 0xE000 then
          (Char.ofNat (0x10000 + (unit - 0xD800) * 0x400 + (second - 0xDC00)), others)
        else (unreadable, rest)
      | none => (unreadable, rest)
    | _ => (unreadable, rest)
  else if 0xDC00 ≤ unit ∧ unit < 0xE000 then (unreadable, rest)
  else (Char.ofNat unit, rest)

/-- The rest of a text after its opening quote, in at most so many steps. The opening quote has so
many characters from itself on. -/
def readText (start : Nat) : Nat → List Char → Except Fault (List Char × List Char)
  | 0, _ => .error ⟨.unterminated, start⟩
  | steps + 1, text =>
    match text with
    | [] | ['\\'] => .error ⟨.unterminated, start⟩
    | '"' :: rest => .ok ([], rest)
    | '\\' :: 'u' :: more =>
      match readUnit more with
      | some (unit, next :: rest) => do
        let (c, rest) := joinUnits unit (next :: rest)
        let (cs, rest) ← readText start steps rest
        return (c :: cs, rest)
      | _ => flawed .unit ('u' :: more)
    | '\\' :: letter :: rest =>
      match escaped? letter with
      | some c => do
        let (cs, rest) ← readText start steps rest
        return (c :: cs, rest)
      | none => flawed .escape text
    | c :: rest =>
      if c.toNat < 0x20 then flawed .control text
      else do
        let (cs, rest) ← readText start steps rest
        return (c :: cs, rest)

/-- The number of Latin digits. -/
def digitsValue (digits : List Char) : Nat :=
  digits.foldl (fun number c => 10 * number + (c.toNat - '0'.toNat)) 0

/-- Digits at the front of a text, and the rest. -/
def takeDigits (text : List Char) : List Char × List Char :=
  (text.takeWhile Char.isDigit, text.dropWhile Char.isDigit)

/-- The digits of a whole number at the front of a text, and the rest. A zero stands alone. -/
def takeWhole : List Char → List Char × List Char
  | '0' :: rest => (['0'], rest)
  | text => takeDigits text

/-- The part of a number after its exponent mark. -/
def readExponent (text : List Char) : Option (Int × List Char) :=
  let (negative, text) :=
    match text with
    | '-' :: rest => (true, rest)
    | '+' :: rest => (false, rest)
    | rest => (false, rest)
  match takeDigits text with
  | ([], _) => none
  | (digits, rest) =>
    let size : Int := digitsValue digits
    some (if negative then -size else size, rest)

/-- The rest of a text after a word. -/
def afterWord (word : String) (text : List Char) : Option (List Char) :=
  if text.take word.length = word.toList then some (text.drop word.length) else none

/-- A number without its sign. -/
def readSize (negative : Bool) (text : List Char) : Option (Document × List Char) :=
  match takeWhole text with
  | ([], _) =>
    (afterWord "Infinity" text).map fun rest =>
      (.decimal (if negative then -1.0 / 0.0 else 1.0 / 0.0), rest)
  | (whole, rest) =>
    let (fraction, afterFraction) :=
      match rest with
      | '.' :: more => if (takeDigits more).1.isEmpty then ([], rest) else takeDigits more
      | _ => ([], rest)
    let power :=
      match afterFraction with
      | 'e' :: more | 'E' :: more => readExponent more
      | _ => none
    if fraction.isEmpty && power.isNone then
      let size : Int := digitsValue whole
      some (.integer (if negative then -size else size), rest)
    else
      let (exponent, rest) := power.getD (0, afterFraction)
      let digits := whole ++ fraction
      let size := Decimal.floatOf (digitsValue digits) digits.length (exponent - fraction.length)
      some (.decimal (if negative then -size else size), rest)

/-- A number. -/
def readNumber (text : List Char) : Except Fault (Document × List Char) :=
  let found := match text with
    | '-' :: rest => readSize true rest
    | rest => readSize false rest
  match found with
  | some found => .ok found
  | none => flawed .value text

/-- The value of a word at the front of a text. -/
def readWord (word : String) (value : Document) (text : List Char) :
    Except Fault (Document × List Char) :=
  match afterWord word text with
  | some rest => .ok (value, rest)
  | none => flawed .value text

mutual

/-- A value after blank space, in at most so many steps. -/
def readValue : Nat → List Char → Except Fault (Document × List Char)
  | 0, text => flawed .value text
  | steps + 1, text =>
    let text := text.dropWhile isSpace
    match text with
    | '"' :: rest => do
      let (cs, rest) ← readText text.length (rest.length + 1) rest
      return (.text (String.ofList cs), rest)
    | '[' :: rest =>
      match rest.dropWhile isSpace with
      | ']' :: rest => .ok (.list [], rest)
      | rest => do
        let (items, rest) ← readItems steps rest
        return (.list items, rest)
    | '{' :: rest =>
      match rest.dropWhile isSpace with
      | '}' :: rest => .ok (.object [], rest)
      | rest => do
        let (members, rest) ← readMembers steps ∅ rest
        return (.object members.entries, rest)
    | 'n' :: _ => readWord "null" .null text
    | 't' :: _ => readWord "true" (.boolean true) text
    | 'f' :: _ => readWord "false" (.boolean false) text
    | 'N' :: _ => readWord "NaN" (.decimal (0.0 / 0.0)) text
    | _ => readNumber text

/-- The items of a list up to its closing bracket. -/
def readItems : Nat → List Char → Except Fault (List Document × List Char)
  | 0, text => flawed .value text
  | steps + 1, text => do
    let (item, rest) ← readValue steps text
    match rest.dropWhile isSpace with
    | ',' :: rest => do
      let (items, rest) ← readItems steps rest
      return (item :: items, rest)
    | ']' :: rest => .ok ([item], rest)
    | rest => flawed .comma rest

/-- The members of an object up to its closing brace, added to those before them. -/
def readMembers : Nat → Table String Document → List Char →
    Except Fault (Table String Document × List Char)
  | 0, _, text => flawed .key text
  | steps + 1, found, text =>
    let text := text.dropWhile isSpace
    match text with
    | '"' :: rest => do
      let (key, rest) ← readText text.length (rest.length + 1) rest
      match rest.dropWhile isSpace with
      | ':' :: rest => do
        let (value, rest) ← readValue steps rest
        let found := found.insert (String.ofList key) value
        match rest.dropWhile isSpace with
        | ',' :: rest => readMembers steps found rest
        | '}' :: rest => .ok (found, rest)
        | rest => flawed .comma rest
      | rest => flawed .colon rest
    | _ => flawed .key text

end

/-- The document written by a text. -/
def read (text : String) : Except Fault Document := do
  let cs := text.toList
  if cs.head? = some Text.byteOrderMark then flawed .orderMark cs
  else
    let (document, rest) ← readValue (2 * cs.length + 2) cs
    match rest.dropWhile isSpace with
    | [] => return document
    | rest => flawed .extra rest

/-! ## Writing -/

/-- A unit of sixteen bits as it is written. -/
def writtenUnit (unit : Nat) : List Char := '\\' :: 'u' :: Text.hexDigits 4 unit

/-- One character of a written text. One that is not plain is written by its units of sixteen bits, of
which it has two if one does not suffice. -/
def writtenChar (c : Char) : List Char :=
  if c == '"' || c == '\\' then ['\\', c]
  else if 0x20 ≤ c.toNat && c.toNat < 0x7F then [c]
  else if c.toNat < 0x10000 then writtenUnit c.toNat
  else
    let beyond := c.toNat - 0x10000
    writtenUnit (0xD800 + beyond / 0x400) ++ writtenUnit (0xDC00 + beyond % 0x400)

/-- A text as it is written. -/
def writtenText (text : String) : String :=
  "\"" ++ String.ofList (text.toList.flatMap writtenChar) ++ "\""

mutual

/-- A document as it is written, without blank space. -/
def write : Document → String
  | .null => "null"
  | .boolean true => "true"
  | .boolean false => "false"
  | .integer value => toString value
  | .decimal value => Decimal.floatText value
  | .text value => writtenText value
  | .list items => "[" ++ ",".intercalate (writeItems items) ++ "]"
  | .object members => "\x7b" ++ ",".intercalate (writeMembers members) ++ "\x7d"

/-- The items of a list as they are written. -/
def writeItems : List Document → List String
  | [] => []
  | item :: rest => write item :: writeItems rest

/-- The members of an object as they are written. -/
def writeMembers : List (String × Document) → List String
  | [] => []
  | (key, value) :: rest => (writtenText key ++ ":" ++ write value) :: writeMembers rest

end

end Evacuation.Json
