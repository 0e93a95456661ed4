import Evacuation.Text.Utf8
import Evacuation.Yaml.Scalar
import Evacuation.Yaml.Token
/-!
# Names, tags and directives as they are written

A node may have a name, by which other places refer to it, and a tag, which tells its kind. A tag is
given in full between angle brackets, or after a handle that a directive may declare. Directives
stand in front of a document.
-/
namespace Evacuation.Yaml

/-- A letter or digit, a hyphen or an underscore. -/
def isNameChar (c : Char) : Bool := c.isAlphanum || c == '-' || c == '_'

/-! ## Names -/

/-- What the name of a node is for. -/
inductive Naming where
  | anchor
  | reference
  deriving DecidableEq, Repr

namespace Naming

/-- What is being read. -/
def context : Naming → String
  | .anchor => "while scanning an anchor"
  | .reference => "while scanning an alias"

/-- The token of a name. -/
def token : Naming → String → TokenKind
  | .anchor => .anchor
  | .reference => .reference

/-- A character that may follow a name. -/
def isEnd (c : Char) : Bool := isBlankOrEnd c || "?:,]\x7d%@\x60".toList.contains c

/-- The name that begins here, behind its mark. -/
def read (naming : Naming) (cursor : Cursor) : Except Problem (TokenKind × Cursor) :=
  let wanted := "alphabetic or numeric character"
  let (name, after) := cursor.next.span isNameChar
  if name.isEmpty || !isEnd after.head then unexpected naming.context cursor.place wanted after
  else .ok (naming.token (String.ofList name), after)

end Naming

/-! ## Tags -/

namespace Tag

/-- A character of a tag. -/
def isTagChar (c : Char) : Bool := c.isAlphanum || "-;/?:@&=+$,_.!~*'()[]%".toList.contains c

/-- The bytes of the escapes that begin here, in at most so many steps. -/
def escapedBytes (context : String) (start : Place) :
    Nat → Cursor → Except Problem (List UInt8 × Cursor)
  | 0, cursor => .ok ([], cursor)
  | steps + 1, cursor =>
    if cursor.head != '%' then .ok ([], cursor)
    else
      let digits := cursor.next
      match Text.hexValue? digits.head, Text.hexValue? (digits.ahead 1) with
      | some high, some low => do
        let (others, after) ← escapedBytes context start steps (digits.skip 2)
        return (UInt8.ofNat (16 * high + low) :: others, after)
      | high, _ =>
        let found := if high.isNone then digits.head else digits.ahead 1
        cutFault context start
          (.unexpected "URI escape sequence of 2 hexadecimal numbers" found) digits.place

/-- The text of escapes. -/
def escapes (context : String) (start : Place) (cursor : Cursor) :
    Except Problem (List Char × Cursor) := do
  let (bytes, after) ← escapedBytes context start cursor.size cursor
  match Text.Utf8.decode bytes with
  | .ok text => return (text.toList, after)
  | .error fault => cutFault context start (.undecodable fault) cursor.place

/-- The parts of a tag, in at most so many steps. -/
def parts (context : String) (start : Place) : Nat → Cursor → Except Problem (List Char × Cursor)
  | 0, cursor => .ok ([], cursor)
  | steps + 1, cursor =>
    if cursor.head == '%' then do
      let (text, after) ← escapes context start cursor
      let (others, after) ← parts context start steps after
      return (text ++ others, after)
    else if isTagChar cursor.head then do
      let (others, after) ← parts context start steps cursor.next
      return (cursor.head :: others, after)
    else .ok ([], cursor)

/-- The text of a tag behind its handle. -/
def text (thing : String) (start : Place) (cursor : Cursor) : Except Problem (String × Cursor) := do
  if !isTagChar cursor.head then
    unexpected s!"while parsing a {thing}" start "URI" cursor
  else
    let (cs, after) ← parts s!"while scanning a {thing}" start cursor.size cursor
    return (String.ofList cs, after)

/-- The handle of a tag: nothing or a name, between exclamation marks or after one. -/
def handle (thing : String) (start : Place) (cursor : Cursor) : Except Problem (String × Cursor) :=
  let context := s!"while scanning a {thing}"
  if cursor.head != '!' then unexpected context start "'!'" cursor
  else if cursor.ahead 1 == ' ' then .ok ("!", cursor.next)
  else
    let (name, after) := cursor.next.span isNameChar
    if after.head != '!' then unexpected context start "'!'" after
    else .ok (String.ofList ('!' :: name ++ ['!']), after.next)

/-- The characters up to the end of a tag hold a second exclamation mark, so that it has a handle. -/
def hasHandle (cursor : Cursor) : Bool := (cursor.span (!isSpaceOrEnd ·)).1.contains '!'

/-- The tag behind its first mark, without a check of what follows. -/
def body (start : Place) (cursor : Cursor) : Except Problem (TokenKind × Cursor) := do
  let c := cursor.ahead 1
  if c == '<' then
    let (text, after) ← text "tag" start (cursor.skip 2)
    if after.head == '>' then return (.tag none text, after.next)
    else unexpected "while parsing a tag" start "'>'" after
  else if isBlankOrEnd c then return (.tag none "!", cursor.next)
  else
    let (handle, after) ←
      if hasHandle cursor.next then handle "tag" start cursor else .ok ("!", cursor.next)
    let (text, after) ← text "tag" start after
    return (.tag (some handle) text, after)

/-- The tag that begins here. -/
def read (cursor : Cursor) : Except Problem (TokenKind × Cursor) := do
  let (found, after) ← body cursor.place cursor
  if isSpaceOrEnd after.head then return (found, after)
  else unexpected "while scanning a tag" cursor.place "' '" after

end Tag

/-! ## Directives -/

namespace DirectiveLine

/-- What is being read. -/
def context : String := "while scanning a directive"

/-- The name of a directive. -/
def name (start : Place) (cursor : Cursor) : Except Problem (String × Cursor) :=
  let (name, after) := cursor.span isNameChar
  if name.isEmpty || !isSpaceOrEnd after.head then
    unexpected context start "alphabetic or numeric character" after
  else .ok (String.ofList name, after)

/-- A number of a version. -/
def number (start : Place) (cursor : Cursor) : Except Problem (Nat × Cursor) :=
  let (digits, after) := cursor.span Char.isDigit
  if digits.isEmpty then unexpected context start "a digit" after
  else .ok (Text.decimalNumber digits, after)

/-- The version of the notation. -/
def version (start : Place) (cursor : Cursor) : Except Problem (Directive × Cursor) := do
  let (major, after) ← number start cursor.skipSpaces
  if after.head != '.' then unexpected context start "a digit or '.'" after
  else
    let (_, after) ← number start after.next
    if isSpaceOrEnd after.head then return (.version major, after)
    else unexpected context start "a digit or ' '" after

/-- The meaning of a handle. -/
def declaration (start : Place) (cursor : Cursor) : Except Problem (Directive × Cursor) := do
  let (handle, after) ← Tag.handle "directive" start cursor.skipSpaces
  if after.head != ' ' then unexpected context start "' '" after
  else
    let (meaning, after) ← Tag.text "directive" start after.skipSpaces
    if isSpaceOrEnd after.head then return (.handle handle meaning, after)
    else unexpected context start "' '" after

/-- The directive that begins here, and the cursor behind its text. -/
def body (start : Place) (cursor : Cursor) : Except Problem (Directive × Cursor) := do
  let (name, after) ← name start cursor.next
  if name = "YAML" then version start after
  else if name = "TAG" then declaration start after
  else return (.other, after.skipWhile (!isBreakOrEnd ·))

/-- The directive that begins here, the end of its text, and the cursor behind its line. -/
def read (cursor : Cursor) : Except Problem (Directive × Place × Cursor) := do
  let (found, after) ← body cursor.place cursor
  let behind := after.skipSpaces.skipComment
  match behind.break? with
  | some (_, next) => return (found, after.place, next)
  | none =>
    if behind.head == endMark then return (found, after.place, behind)
    else unexpected context cursor.place "a comment or a line break" behind

end DirectiveLine

end Evacuation.Yaml
