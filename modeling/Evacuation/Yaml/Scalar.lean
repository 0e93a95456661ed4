import Evacuation.Yaml.Place
import Evacuation.Yaml.Problem
import Evacuation.Text.Digit
/-!
# Scalars as they are written

A scalar is written plainly, between quotes or as a block. The end of a line inside a plain or
quoted scalar is folded: alone it counts as a space, and of several the first does not count. A
block keeps its lines or folds them, and its header says what becomes of the ends of lines behind
it. Only between double quotes are there escapes.
-/
namespace Evacuation.Yaml

/-- A fault met while a text is cut into tokens. -/
def cutFault {α : Type} (context : String) (start : Place) (fault : Fault) (place : Place) :
    Except Problem α :=
  .error (.fault .cutting (some ⟨context, some start⟩) fault place)

/-- Something else was expected in place of the next character. -/
def unexpected {α : Type} (context : String) (start : Place) (wanted : String) (cursor : Cursor) :
    Except Problem α :=
  cutFault context start (.unexpected wanted cursor.head) cursor.place

/-- The folded ends of lines: the first one counts as a space if it is a line feed and no other
follows. -/
def folded (first : Char) (others : List Char) : List Char :=
  if first != '\n' then first :: others else if others.isEmpty then [' '] else others

/-! ## Plain scalars -/

namespace Plain

/-- The characters that end a plain scalar inside brackets. -/
def isBracketOrComma (c : Char) : Bool :=
  c == ',' || c == '[' || c == ']' || c == '{' || c == '}'

/-- A plain scalar ends in front of a character, which another one follows. -/
def endsAt (inside : Bool) (c next : Char) : Bool :=
  isBlankOrEnd c || (c == ':' && (isBlankOrEnd next || (inside && isBracketOrComma next))) ||
    (inside && (c == '?' || isBracketOrComma c))

/-- The next word of a plain scalar, and the cursor behind it. -/
def wordFrom (inside : Bool) : List Char → Place → List Char × Cursor
  | [], place => ([], ⟨[], place⟩)
  | c :: rest, place =>
    let next := rest.head?.getD endMark
    if endsAt inside c next then ([], ⟨c :: rest, place⟩)
    else
      let (word, cursor) := wordFrom inside rest (place.after c next)
      (c :: word, cursor)

/-- The ends of further lines with spaces before them, in at most so many steps; nothing if a mark
between documents follows one of them. -/
def moreBreaks : Nat → Cursor → Option (List Char) × Cursor
  | 0, cursor => (some [], cursor)
  | steps + 1, cursor =>
    if cursor.head == ' ' then moreBreaks steps cursor.next
    else
      match cursor.break? with
      | none => (some [], cursor)
      | some (c, after) =>
        if after.atSeparator then (none, after)
        else
          let (others, cursor) := moreBreaks steps after
          (others.map (c :: ·), cursor)

/-- What stands between two words. -/
structure Gap where
  /-- What the gap counts for; nothing if the scalar ends here. -/
  text : Option (List Char)
  /-- The gap goes over the end of a line. -/
  hasBreak : Bool
  cursor : Cursor

/-- The gap behind a word. -/
def gap (cursor : Cursor) : Gap :=
  let (spaces, behind) := cursor.span (· == ' ')
  match behind.break? with
  | none => ⟨some spaces, false, behind⟩
  | some (first, after) =>
    if after.atSeparator then ⟨none, true, after⟩
    else
      let (others, cursor) := moreBreaks after.size after
      ⟨others.map (folded first), true, cursor⟩

/-- A plain scalar, whether it ends at the start of a line, and the cursor behind it. -/
structure Result where
  text : List Char
  endsLine : Bool
  cursor : Cursor

/-- The rest of a plain scalar behind the text and the gap read so far, in at most so many steps.
Outside brackets a line belongs to it only if it is indented far enough. -/
def continued (inside : Bool) (indentation : Int) :
    Nat → (text gapText : List Char) → (endsLine : Bool) → Cursor → Result
  | 0, text, _, endsLine, cursor => ⟨text, endsLine, cursor⟩
  | steps + 1, text, gapText, endsLine, cursor =>
    let (word, behind) := wordFrom inside cursor.rest cursor.place
    if cursor.head == '#' || word.isEmpty then ⟨text, endsLine, cursor⟩
    else
      let text := text ++ gapText ++ word
      let gap := gap behind
      match gap.text with
      | none | some [] => ⟨text, gap.hasBreak, gap.cursor⟩
      | some gapText =>
        if gap.cursor.head == '#' || (!inside && (gap.cursor.place.column : Int) < indentation) then
          ⟨text, gap.hasBreak, gap.cursor⟩
        else continued inside indentation steps text gapText gap.hasBreak gap.cursor

/-- The plain scalar that begins here. -/
def read (inside : Bool) (indentation : Int) (cursor : Cursor) : Result :=
  continued inside indentation (cursor.size + 1) [] [] false cursor

end Plain

/-! ## Quoted scalars -/

namespace Quoted

/-- The characters of escapes by one letter. -/
def escaped? : Char → Option Char
  | '0' => some '\x00'
  | 'a' => some '\x07'
  | 'b' => some '\x08'
  | 't' | '\t' => some '\t'
  | 'n' => some '\n'
  | 'v' => some '\x0b'
  | 'f' => some '\x0c'
  | 'r' => some '\r'
  | 'e' => some '\x1b'
  | ' ' => some ' '
  | '"' => some '"'
  | '\\' => some '\\'
  | '/' => some '/'
  | 'N' => some '\u0085'
  | '_' => some '\u00a0'
  | 'L' => some '\u2028'
  | 'P' => some '\u2029'
  | _ => none

/-- The number of digits of escapes by a number. -/
def escapeSize? : Char → Option Nat
  | 'x' => some 2
  | 'u' => some 4
  | 'U' => some 8
  | _ => none

/-- What stands for a character that could not be read. -/
def unreadable : Char := Char.ofNat 0xFFFD

/-- The first half of a character in units of sixteen bits. -/
def isFirstHalf (code : Nat) : Bool := 0xD800 ≤ code && code < 0xDC00

/-- The second half of a character in units of sixteen bits. -/
def isSecondHalf (code : Nat) : Bool := 0xDC00 ≤ code && code < 0xE000

/-- The number of an escape with a number of digits, and the cursor behind it. -/
def number (start : Place) (size : Nat) (cursor : Cursor) : Except Problem (Nat × Cursor) :=
  let digits := cursor.rest.take size
  match digits.find? fun c => (Text.hexValue? c).isNone with
  | some c => cutFault "while scanning a double-quoted scalar" start
    (.unexpected s!"escape sequence of {size} hexadecimal numbers" c) cursor.place
  | none =>
    if digits.length < size then cutFault "while scanning a double-quoted scalar" start
      (.unexpected s!"escape sequence of {size} hexadecimal numbers" endMark) cursor.place
    else .ok (Text.hexNumber digits, cursor.skip size)

/-- The second half of a character, if an escape for one stands here. -/
def secondHalf? (cursor : Cursor) : Option (Nat × Cursor) :=
  match cursor.rest with
  | '\\' :: 'u' :: digits =>
    let code := Text.hexNumber (digits.take 4)
    if (digits.take 4).all (fun c => (Text.hexValue? c).isSome) && isSecondHalf code then
      some (code, cursor.skip 6)
    else none
  | _ => none

/-- The character of a number, and the cursor behind it. Two escapes may be the halves of one
character. -/
def character (code : Nat) (cursor : Cursor) : Except Problem (Char × Cursor) :=
  if 0x7FFFFFFF < code then .error .farCharacter
  else if 0x10FFFF < code then .error .noCharacter
  else if isFirstHalf code then
    match secondHalf? cursor with
    | some (second, after) =>
      .ok (Char.ofNat (0x10000 + (code - 0xD800) * 0x400 + (second - 0xDC00)), after)
    | none => .ok (unreadable, cursor)
  else if isSecondHalf code then .ok (unreadable, cursor)
  else .ok (Char.ofNat code, cursor)

/-- The ends of lines with blanks before them, in at most so many steps. No mark between documents
may stand among them. -/
def breaks (start : Place) : Nat → Cursor → Except Problem (List Char × Cursor)
  | 0, cursor => .ok ([], cursor)
  | steps + 1, cursor =>
    if cursor.atSeparator then
      cutFault "while scanning a quoted scalar" start .separatorInside cursor.place
    else
      let behind := cursor.skipWhile fun c => c == ' ' || c == '\t'
      match behind.break? with
      | none => .ok ([], behind)
      | some (c, after) => do
        let (others, cursor) ← breaks start steps after
        return (c :: others, cursor)

/-- The characters of the escape behind a backslash, and the cursor behind it. -/
def escape (start : Place) (cursor : Cursor) : Except Problem (List Char × Cursor) :=
  let letter := cursor.head
  match escaped? letter, escapeSize? letter, cursor.break? with
  | some c, _, _ => .ok ([c], cursor.next)
  | none, some size, _ => do
    let (code, after) ← number start size cursor.next
    let (c, after) ← character code after
    return ([c], after)
  | none, none, some (_, after) => breaks start after.size.succ after
  | none, none, none =>
    cutFault "while scanning a double-quoted scalar" start (.unknownEscape letter) cursor.place

/-- A character that stands for itself between any quotes. -/
def isPlain (c : Char) : Bool := !(isBlankOrEnd c || c == '\'' || c == '"' || c == '\\')

/-- The characters up to the next blank or the closing quote, in at most so many steps. -/
def word (double : Bool) (start : Place) : Nat → Cursor → Except Problem (List Char × Cursor)
  | 0, cursor => .ok ([], cursor)
  | steps + 1, cursor =>
    let c := cursor.head
    if isPlain c || (double && c == '\'') || (!double && (c == '"' || c == '\\')) then do
      let (others, after) ← word double start steps cursor.next
      return (c :: others, after)
    else if !double && c == '\'' && cursor.ahead 1 == '\'' then do
      let (others, after) ← word double start steps (cursor.skip 2)
      return (c :: others, after)
    else if double && c == '\\' then do
      let (first, after) ← escape start cursor.next
      let (others, after) ← word double start steps after
      return (first ++ others, after)
    else .ok ([], cursor)

/-- The blanks between two words. -/
def gap (start : Place) (cursor : Cursor) : Except Problem (List Char × Cursor) :=
  let (blanks, behind) := cursor.span fun c => c == ' ' || c == '\t'
  if behind.head == endMark then
    cutFault "while scanning a quoted scalar" start .endOfText behind.place
  else
    match behind.break? with
    | none => .ok (blanks, behind)
    | some (first, after) => do
      let (others, after) ← breaks start after.size.succ after
      return (folded first others, after)

/-- The rest of a quoted scalar behind a word, in at most so many steps. -/
def continued (double : Bool) (start : Place) : Nat → Cursor → Except Problem (List Char × Cursor)
  | 0, cursor => .ok ([], cursor)
  | steps + 1, cursor =>
    if cursor.head == (if double then '"' else '\'') then .ok ([], cursor.next)
    else do
      let (blanks, after) ← gap start cursor
      let (first, after) ← word double start after.size.succ after
      let (others, after) ← continued double start steps after
      return (blanks ++ first ++ others, after)

/-- The quoted scalar that begins here. -/
def read (double : Bool) (cursor : Cursor) : Except Problem (List Char × Cursor) := do
  let (first, after) ← word double cursor.place cursor.size cursor.next
  let (others, after) ← continued double cursor.place after.size.succ after
  return (first ++ others, after)

end Quoted

/-! ## Blocks -/

namespace Block

/-- What becomes of the ends of lines behind a block. -/
inductive Chomping where
  /-- The first is kept. -/
  | clip
  /-- None is kept. -/
  | strip
  /-- All are kept. -/
  | keep
  deriving DecidableEq, Repr

/-- The header of a block. -/
structure Header where
  chomping : Chomping := .clip
  /-- The indentation of the block beyond that around it, if it is given. -/
  indentation : Option Nat := none
  deriving DecidableEq, Repr

/-- The sign of a kind of chomping. -/
def chomping? : Char → Option Chomping
  | '+' => some .keep
  | '-' => some .strip
  | _ => none

/-- The indentation given by a digit. -/
def indentation (start : Place) (cursor : Cursor) : Except Problem (Option Nat × Cursor) :=
  let c := cursor.head
  if c == '0' then cutFault "while scanning a block scalar" start .noIndentation cursor.place
  else if c.isDigit then .ok (some (c.toNat - '0'.toNat), cursor.next)
  else .ok (none, cursor)

/-- The chomping given by a sign. -/
def chomping (cursor : Cursor) : Chomping × Cursor :=
  match chomping? cursor.head with
  | some found => (found, cursor.next)
  | none => (.clip, cursor)

/-- The header behind the mark of a block: a sign and a digit in any order. -/
def header (start : Place) (cursor : Cursor) : Except Problem (Header × Cursor) := do
  let (first, after) := chomping cursor
  let (size, after) ← indentation start after
  let (found, after) :=
    if first == .clip && size.isSome then chomping after else (first, after)
  if isSpaceOrEnd after.head then return (⟨found, size⟩, after)
  else unexpected "while scanning a block scalar" start "chomping or indentation indicators" after

/-- The rest of the line behind a header. -/
def headerEnd (start : Place) (cursor : Cursor) : Except Problem Cursor :=
  let behind := cursor.skipSpaces.skipComment
  match behind.break? with
  | some (_, after) => .ok after
  | none =>
    if behind.head == endMark then .ok behind
    else unexpected "while scanning a block scalar" start "a comment or a line break" behind

/-- The empty lines in front of a block, and the most spaces in one of them or in front of its first
line, in at most so many steps. -/
def leading : Nat → (widest : Nat) → Cursor → List Char × Nat × Cursor
  | 0, widest, cursor => ([], widest, cursor)
  | steps + 1, widest, cursor =>
    if cursor.head == ' ' then
      leading steps (max widest cursor.next.place.column) cursor.next
    else
      match cursor.break? with
      | none => ([], widest, cursor)
      | some (c, after) =>
        let (others, widest, cursor) := leading steps widest after
        (c :: others, widest, cursor)

/-- The cursor behind spaces up to a column, in at most so many steps. -/
def indented (column : Nat) : Nat → Cursor → Cursor
  | 0, cursor => cursor
  | steps + 1, cursor =>
    if cursor.place.column < column && cursor.head == ' ' then indented column steps cursor.next
    else cursor

/-- The empty lines before the next line of a block, in at most so many steps. -/
def emptyLines (column : Nat) : Nat → Cursor → List Char × Cursor
  | 0, cursor => ([], cursor)
  | steps + 1, cursor =>
    let behind := indented column column cursor
    match behind.break? with
    | none => ([], behind)
    | some (c, after) =>
      let (others, cursor) := emptyLines column steps after
      (c :: others, cursor)

/-- A further line of a block begins here. -/
def hasLine (column : Nat) (cursor : Cursor) : Bool :=
  cursor.place.column == column && cursor.head != endMark

/-- A space or tab. -/
def isBlank (c : Char) : Bool := c == ' ' || c == '\t'

/-- The lines of a block, the end of its last line and the empty lines behind it, in at most so many
steps. -/
def lines (fold : Bool) (column : Nat) :
    Nat → (empty : List Char) → Cursor → (List Char × List Char × List Char) × Cursor
  | 0, empty, cursor => (([], [], empty), cursor)
  | steps + 1, empty, cursor =>
    let (line, behind) := cursor.span (!isBreakOrEnd ·)
    let (ending, after) := match behind.break? with
      | some (c, after) => ([c], after)
      | none => ([], behind)
    let (next, after) := emptyLines column after.size.succ after
    if hasLine column after then
      let between :=
        if fold && ending == ['\n'] && !isBlank cursor.head && !isBlank after.head then
          if next.isEmpty then [' '] else []
        else ending
      let ((others, last), cursor) := lines fold column steps next after
      ((empty ++ line ++ between ++ others, last), cursor)
    else ((empty ++ line, ending, next), after)

/-- The block that begins here, in a part of the document with an indentation. -/
def read (fold : Bool) (around : Int) (cursor : Cursor) : Except Problem (List Char × Cursor) := do
  let start := cursor.place
  let (header, after) ← header start cursor.next
  let after ← headerEnd start after
  let least := max 1 (around + 1).toNat
  let (empty, column, after) := match header.indentation with
    | none =>
      let (empty, widest, after) := leading after.size.succ 0 after
      (empty, max least widest, after)
    | some size =>
      let column := least + size - 1
      let (empty, after) := emptyLines column after.size.succ after
      (empty, column, after)
  let ((text, ending, behind), after) :=
    if hasLine column after then lines fold column after.size.succ empty after
    else (([], [], empty), after)
  let kept := match header.chomping with
    | .clip => ending
    | .strip => []
    | .keep => ending ++ behind
  return (text ++ kept, after)

end Block

end Evacuation.Yaml
