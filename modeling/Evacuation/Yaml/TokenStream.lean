import Evacuation.Yaml.Tag
/-!
# Cutting a text into tokens

What a token means can depend on what follows: a node is a key if a colon stands behind it, in the
same line and not too far. So a `Cutter` holds tokens back as long as one of them may turn out to
begin a key, and puts the mark of the key in front of them once it knows. Outside brackets the
indentation of keys and items opens and closes blocks. The tokens of a text are those before the
first fault, and the fault counts only for a reader that asks for more than those.
-/
namespace Evacuation.Yaml

/-- A token that may begin a key. -/
structure PossibleKey where
  /-- The number of tokens before it. -/
  number : Nat
  /-- Nothing but a key may stand there. -/
  required : Bool
  place : Place
  deriving DecidableEq, Repr

/-- A text that is being cut into tokens. -/
structure Cutter where
  cursor : Cursor
  /-- The number of open brackets. -/
  depth : Nat := 0
  /-- The column of the innermost block, or -1. -/
  indentation : Int := -1
  /-- The columns of the blocks around it, from the inside out. -/
  outer : List Int := []
  /-- A key may begin here. -/
  keyAllowed : Bool := true
  /-- What may turn out to be a key, at most one for each number of open brackets. -/
  keys : List (Nat × PossibleKey) := []
  /-- The number of tokens that are known for good. -/
  released : Nat := 0
  /-- The tokens after those. -/
  held : List Token := []
  /-- The text has come to its end. -/
  done : Bool := false
  deriving Repr

namespace Cutter

/-- The place of the cursor. -/
def place (cutter : Cutter) : Place := cutter.cursor.place

/-- The cursor stands between brackets. -/
def inside (cutter : Cutter) : Bool := 0 < cutter.depth

/-- The fault of something that takes the place of a key. -/
def noKey {α : Type} (key : PossibleKey) (place : Place) : Except Problem α :=
  cutFault "while scanning a simple key" key.place .noColon place

/-- The number of characters within which a colon makes a key. -/
def keyLength : Nat := 1024

/-- A possible key with the line ended or too many characters behind it. -/
def isStale (cutter : Cutter) (key : PossibleKey) : Bool :=
  key.place.line != cutter.place.line || keyLength < cutter.place.index - key.place.index

/-- Without the possible keys that have become stale. -/
def dropStale (cutter : Cutter) : Except Problem Cutter :=
  match cutter.keys.find? fun entry => cutter.isStale entry.2 && entry.2.required with
  | some (_, key) => noKey key cutter.place
  | none => .ok { cutter with keys := cutter.keys.filter fun entry => !cutter.isStale entry.2 }

/-- The possible key within the brackets that are open. -/
def key? (cutter : Cutter) : Option PossibleKey :=
  (cutter.keys.find? fun entry => entry.1 == cutter.depth).map (·.2)

/-- Without the possible key within the brackets that are open, required or not. -/
def withoutKey (cutter : Cutter) : Cutter :=
  { cutter with keys := cutter.keys.filter fun entry => entry.1 != cutter.depth }

/-- Without the possible key within the brackets that are open. -/
def dropKey (cutter : Cutter) : Except Problem Cutter :=
  match cutter.key? with
  | some key => if key.required then noKey key cutter.place else .ok cutter.withoutKey
  | none => .ok cutter

/-- The next token is possibly a key, if one may begin here. -/
def noteKey (cutter : Cutter) : Except Problem Cutter :=
  if !cutter.keyAllowed then .ok cutter
  else do
    let cutter ← cutter.dropKey
    let required := !cutter.inside && cutter.indentation == cutter.place.column
    let key : PossibleKey := ⟨cutter.released + cutter.held.length, required, cutter.place⟩
    return { cutter with keys := cutter.keys ++ [(cutter.depth, key)] }

/-- A token added behind all others. -/
def emit (cutter : Cutter) (kind : TokenKind) (start finish : Place) : Cutter :=
  { cutter with held := cutter.held ++ [⟨kind, start, finish⟩] }

/-- A token without characters added at the cursor. -/
def emitHere (cutter : Cutter) (kind : TokenKind) : Cutter :=
  cutter.emit kind cutter.place cutter.place

/-- A token without characters put in front of the one with a number. -/
def insert (cutter : Cutter) (number : Nat) (kind : TokenKind) (place : Place) : Cutter :=
  let position := number - cutter.released
  { cutter with
    held := cutter.held.take position ++ ⟨kind, place, place⟩ :: cutter.held.drop position }

/-- A token of so many characters added. -/
def take (cutter : Cutter) (kind : TokenKind) (size : Nat) : Cutter :=
  let after := cutter.cursor.skip size
  { cutter.emit kind cutter.place after.place with cursor := after }

/-- The blocks closed that are indented further than a column, of those with the given columns around
them. -/
def closing (column : Int) : List Int → Cutter → Cutter
  | [], cutter => cutter
  | around :: outer, cutter =>
    if column < cutter.indentation then
      closing column outer { cutter.emitHere .blockEnd with indentation := around, outer := outer }
    else cutter

/-- The blocks closed that are indented further than a column. Between brackets there are none. -/
def close (cutter : Cutter) (column : Int) : Cutter :=
  if cutter.inside then cutter else closing column cutter.outer cutter

/-- A block opened at a column, if it is indented further than the one around it. -/
def opened? (cutter : Cutter) (column : Nat) : Option Cutter :=
  if cutter.indentation < column then
    some { cutter with
      indentation := column, outer := cutter.indentation :: cutter.outer }
  else none

/-- A block opened at the cursor, if it is indented further than the one around it. -/
def openHere (cutter : Cutter) (kind : TokenKind) : Cutter :=
  match cutter.opened? cutter.place.column with
  | some cutter => cutter.emitHere kind
  | none => cutter

/-- A part of a block that begins at the cursor. Between brackets it is left to the reader. -/
def beginPart (cutter : Cutter) (part : String) (kind : TokenKind) : Except Problem Cutter :=
  if cutter.inside then .ok cutter
  else if !cutter.keyAllowed then .error (.fault .cutting none (.notAllowed part) cutter.place)
  else .ok (cutter.openHere kind)

/-! ## The next token -/

/-- The end of the text. -/
def takeEnd (cutter : Cutter) : Except Problem Cutter := do
  let cutter ← (cutter.close (-1)).dropKey
  return { cutter.emitHere .streamEnd with keyAllowed := false, keys := [], done := true }

/-- A directive. -/
def takeDirective (cutter : Cutter) : Except Problem Cutter := do
  let cutter ← (cutter.close (-1)).dropKey
  let (content, finish, after) ← DirectiveLine.read cutter.cursor
  return { cutter.emit (.directive content) cutter.place finish with
    keyAllowed := false, cursor := after }

/-- A mark between documents. -/
def takeSeparator (cutter : Cutter) (kind : TokenKind) : Except Problem Cutter := do
  let cutter ← (cutter.close (-1)).dropKey
  return { cutter.take kind 3 with keyAllowed := false }

/-- An opening bracket. The collection behind it is possibly a key. -/
def takeOpening (cutter : Cutter) (kind : TokenKind) : Except Problem Cutter := do
  let cutter ← cutter.noteKey
  return { cutter.take kind 1 with depth := cutter.depth + 1, keyAllowed := true }

/-- A closing bracket. -/
def takeClosing (cutter : Cutter) (kind : TokenKind) : Except Problem Cutter := do
  let cutter ← cutter.dropKey
  return { cutter.take kind 1 with depth := cutter.depth - 1, keyAllowed := false }

/-- A comma between brackets. -/
def takeComma (cutter : Cutter) : Except Problem Cutter := do
  let cutter ← cutter.dropKey
  return { cutter.take .separator 1 with keyAllowed := true }

/-- The mark of an item. -/
def takeItem (cutter : Cutter) : Except Problem Cutter := do
  let cutter ← cutter.beginPart "sequence entries" .blockSequenceStart
  let cutter ← cutter.dropKey
  return { cutter.take .item 1 with keyAllowed := true }

/-- The mark of a key. -/
def takeKey (cutter : Cutter) : Except Problem Cutter := do
  let cutter ← cutter.beginPart "mapping keys" .blockMappingStart
  let cutter ← cutter.dropKey
  return { cutter.take .key 1 with keyAllowed := !cutter.inside }

/-- The mark of a value. If there is a possible key before it, that was one. -/
def takeValue (cutter : Cutter) : Except Problem Cutter :=
  match cutter.key? with
  | some key =>
    let cutter := cutter.withoutKey.insert key.number .key key.place
    let cutter :=
      if cutter.inside then cutter
      else
        match cutter.opened? key.place.column with
        | some cutter => cutter.insert key.number .blockMappingStart key.place
        | none => cutter
    .ok { cutter.take .value 1 with keyAllowed := false }
  | none => do
    let cutter ← cutter.beginPart "mapping values" .blockMappingStart
    return { cutter.take .value 1 with keyAllowed := !cutter.inside }

/-- A name or a tag. -/
def takeProperty (cutter : Cutter)
    (read : Cursor → Except Problem (TokenKind × Cursor)) : Except Problem Cutter := do
  let cutter ← cutter.noteKey
  let (kind, after) ← read cutter.cursor
  return { cutter.emit kind cutter.place after.place with keyAllowed := false, cursor := after }

/-- A block scalar. -/
def takeBlock (cutter : Cutter) (fold : Bool) : Except Problem Cutter := do
  let cutter ← cutter.dropKey
  let (text, after) ← Block.read fold cutter.indentation cutter.cursor
  return { cutter.emit (.scalar (String.ofList text) false) cutter.place after.place with
    keyAllowed := true, cursor := after }

/-- A quoted scalar. -/
def takeQuoted (cutter : Cutter) (double : Bool) : Except Problem Cutter := do
  let cutter ← cutter.noteKey
  let (text, after) ← Quoted.read double cutter.cursor
  return { cutter.emit (.scalar (String.ofList text) false) cutter.place after.place with
    keyAllowed := false, cursor := after }

/-- A plain scalar. -/
def takePlain (cutter : Cutter) : Except Problem Cutter := do
  let cutter ← cutter.noteKey
  let found := Plain.read cutter.inside (cutter.indentation + 1) cutter.cursor
  return { cutter.emit (.scalar (String.ofList found.text) true) cutter.place found.cursor.place with
    keyAllowed := found.endsLine, cursor := found.cursor }

/-- Spaces, ends of lines and comments in front of a text at a place: whether one of them ends a
line, and the cursor behind them. -/
def blankFrom (inComment endsLine : Bool) : List Char → Place → Bool × Cursor
  | [], place => (endsLine, ⟨[], place⟩)
  | c :: rest, place =>
    let after := place.after c (rest.head?.getD endMark)
    if isBreak c then blankFrom false true rest after
    else if inComment || c == '#' then blankFrom true endsLine rest after
    else if c == ' ' then blankFrom false endsLine rest after
    else (endsLine, ⟨c :: rest, place⟩)

/-- The cutter in front of the next token. A mark of byte order at the very start is left out. Behind
the end of a line outside brackets a key may begin. -/
def skipBlank (cutter : Cutter) : Cutter :=
  let start := cutter.cursor
  let start := if start.place.index = 0 && start.head == Text.byteOrderMark then start.next else start
  let (endsLine, after) := blankFrom false false start.rest start.place
  { cutter with
    cursor := after, keyAllowed := cutter.keyAllowed || (endsLine && !cutter.inside) }

/-- A plain scalar may start with the next character. -/
def startsPlain (cutter : Cutter) : Bool :=
  let c := cutter.cursor.head
  let isMark := "-?:,[]\x7b\x7d#&*!|>'\"%@\x60".toList.contains c
  (!isBlankOrEnd c && !isMark) || (!isBlankOrEnd (cutter.cursor.ahead 1) &&
    (c == '-' || (!cutter.inside && (c == '?' || c == ':'))))

/-- The token that begins at the cursor. -/
def takeToken (cutter : Cutter) : Except Problem Cutter :=
  let cursor := cutter.cursor
  let c := cursor.head
  let atStart := cutter.place.column == 0
  let blankAhead := isBlankOrEnd (cursor.ahead 1)
  if c == endMark then cutter.takeEnd
  else if c == '%' && atStart then cutter.takeDirective
  else if atStart && cursor.hasMarks '-' then cutter.takeSeparator .documentStart
  else if atStart && cursor.hasMarks '.' then cutter.takeSeparator .documentEnd
  else if c == '[' then cutter.takeOpening .sequenceStart
  else if c == '{' then cutter.takeOpening .mappingStart
  else if c == ']' then cutter.takeClosing .sequenceEnd
  else if c == '}' then cutter.takeClosing .mappingEnd
  else if c == ',' then cutter.takeComma
  else if c == '-' && blankAhead then cutter.takeItem
  else if c == '?' && (cutter.inside || blankAhead) then cutter.takeKey
  else if c == ':' && (cutter.inside || blankAhead) then cutter.takeValue
  else if c == '*' then cutter.takeProperty (Naming.read .reference)
  else if c == '&' then cutter.takeProperty (Naming.read .anchor)
  else if c == '!' then cutter.takeProperty Tag.read
  else if c == '|' && !cutter.inside then cutter.takeBlock false
  else if c == '>' && !cutter.inside then cutter.takeBlock true
  else if c == '\'' then cutter.takeQuoted false
  else if c == '"' then cutter.takeQuoted true
  else if cutter.startsPlain then cutter.takePlain
  else cutFaultHere c
where
  /-- No token starts with a character. -/
  cutFaultHere (c : Char) : Except Problem Cutter :=
    .error (.fault .cutting (some ⟨"while scanning for the next token", none⟩) (.noToken c)
      cutter.place)

/-- The cutter behind one more token. -/
def step (cutter : Cutter) : Except Problem Cutter := do
  let cutter ← cutter.skipBlank.dropStale
  let cutter ← (cutter.close cutter.place.column).takeToken
  if cutter.done then return cutter else cutter.dropStale

/-- The number of held tokens that no key can begin with any more. -/
def freeCount (cutter : Cutter) : Nat :=
  cutter.keys.foldl (fun count entry => min count (entry.2.number - cutter.released))
    cutter.held.length

end Cutter

/-- The tokens of a text, and the fault behind them if there is one. -/
structure TokenStream where
  tokens : List Token
  fault : Option Problem
  deriving Repr

namespace TokenStream

/-- The tokens of the rest of a text, in at most so many steps. -/
def ofCutter : Nat → Cutter → TokenStream
  | 0, cutter => ⟨cutter.held, none⟩
  | steps + 1, cutter =>
    match cutter.step with
    | .error fault => ⟨[], some fault⟩
    | .ok cutter =>
      if cutter.done then ⟨cutter.held, none⟩
      else
        let count := cutter.freeCount
        let rest := ofCutter steps
          { cutter with released := cutter.released + count, held := cutter.held.drop count }
        ⟨cutter.held.take count ++ rest.tokens, rest.fault⟩

/-- The tokens of a text. Every step takes at least one character, and the last one the end. -/
def ofText (text : List Char) : TokenStream :=
  ofCutter (text.length + 1) { cursor := { rest := text } }

end TokenStream

end Evacuation.Yaml
