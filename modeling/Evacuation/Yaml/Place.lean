import Evacuation.Text.Line
import Evacuation.Text.Quoted
/-!
# Places in a text

A document is read from a text character by character. A `Place` counts the characters, the lines
and the characters of the line that come before it, and a `Cursor` is a place with the text that
follows. Behind the last character stands an end mark, which no text holds.
-/
namespace Evacuation.Yaml

/-- A place in a text. -/
structure Place where
  /-- The characters before it. -/
  index : Nat := 0
  /-- The lines before its line. -/
  line : Nat := 0
  /-- The characters before it in its line. -/
  column : Nat := 0
  deriving DecidableEq, Repr

/-- A place in a file, in the lines of a report. -/
def Place.text (file : String) (place : Place) : String :=
  "  in \"" ++ file ++ s!"\", line {place.line + 1}, column {place.column + 1}"

/-- The end of a line. -/
def isBreak (c : Char) : Bool :=
  c == '\n' || c == '\r' || c == '\u0085' || c == '\u2028' || c == '\u2029'

/-- The place after a character, which another one follows. A carriage return ends a line only if no
line feed follows it, and a mark of byte order takes no column. -/
def Place.after (place : Place) (c next : Char) : Place :=
  if isBreak c && !(c == '\r' && next == '\n') then ⟨place.index + 1, place.line + 1, 0⟩
  else
    ⟨place.index + 1, place.line,
      if c == Text.byteOrderMark then place.column else place.column + 1⟩

/-- What stands behind the last character. -/
def endMark : Char := '\x00'

/-- The end of a line or of the text. -/
def isBreakOrEnd (c : Char) : Bool := isBreak c || c == endMark

/-- A space, or the end of a line or of the text. -/
def isSpaceOrEnd (c : Char) : Bool := c == ' ' || isBreakOrEnd c

/-- A space or tab, or the end of a line or of the text. -/
def isBlankOrEnd (c : Char) : Bool := c == '\t' || isSpaceOrEnd c

/-- A place and the text after it. -/
structure Cursor where
  rest : List Char
  place : Place := {}
  deriving DecidableEq, Repr

namespace Cursor

/-- The character a number of places ahead. -/
def ahead (cursor : Cursor) (distance : Nat) : Char := (cursor.rest[distance]?).getD endMark

/-- The next character. -/
def head (cursor : Cursor) : Char := cursor.ahead 0

/-- The cursor behind the next character. -/
def next (cursor : Cursor) : Cursor :=
  match cursor.rest with
  | [] => cursor
  | c :: rest => ⟨rest, cursor.place.after c (rest.head?.getD endMark)⟩

/-- The cursor behind a number of characters. -/
def skip (cursor : Cursor) : Nat → Cursor
  | 0 => cursor
  | count + 1 => cursor.next.skip count

/-- The characters of a kind in front of a text at a place, and the cursor behind them. -/
def spanFrom (isMember : Char → Bool) : List Char → Place → List Char × Cursor
  | [], place => ([], ⟨[], place⟩)
  | c :: rest, place =>
    if isMember c then
      let (taken, cursor) := spanFrom isMember rest (place.after c (rest.head?.getD endMark))
      (c :: taken, cursor)
    else ([], ⟨c :: rest, place⟩)

/-- The next characters, as long as they are of a kind, and the cursor behind them. -/
def span (cursor : Cursor) (isMember : Char → Bool) : List Char × Cursor :=
  spanFrom isMember cursor.rest cursor.place

/-- The cursor behind characters of a kind. -/
def skipWhile (cursor : Cursor) (isMember : Char → Bool) : Cursor := (cursor.span isMember).2

/-- The cursor behind spaces. -/
def skipSpaces (cursor : Cursor) : Cursor := cursor.skipWhile (· == ' ')

/-- The cursor at the end of the line if a comment begins here. -/
def skipComment (cursor : Cursor) : Cursor :=
  if cursor.head == '#' then cursor.skipWhile (!isBreakOrEnd ·) else cursor

/-- The end of a line as it is read, and the cursor behind it. The separators of lines and of
paragraphs stand for themselves, any other end of a line for a line feed. -/
def break? (cursor : Cursor) : Option (Char × Cursor) :=
  match cursor.rest with
  | '\r' :: '\n' :: _ => some ('\n', cursor.skip 2)
  | '\u2028' :: _ => some ('\u2028', cursor.next)
  | '\u2029' :: _ => some ('\u2029', cursor.next)
  | c :: _ => if isBreak c then some ('\n', cursor.next) else none
  | [] => none

/-- Three equal marks in front of a blank, which begin or end a document. -/
def hasMarks (cursor : Cursor) (mark : Char) : Bool :=
  cursor.head == mark && cursor.ahead 1 == mark && cursor.ahead 2 == mark &&
    isBlankOrEnd (cursor.ahead 3)

/-- A mark between documents. -/
def atSeparator (cursor : Cursor) : Bool := cursor.hasMarks '-' || cursor.hasMarks '.'

/-- The number of characters that follow. -/
def size (cursor : Cursor) : Nat := cursor.rest.length

end Cursor

end Evacuation.Yaml
