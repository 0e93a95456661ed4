import Evacuation.Yaml.TokenStream
/-!
# Nodes

The tokens of a document are arranged into nodes: scalars, sequences and mappings, each with its tag
and the place where it starts. A plain scalar without a tag is given one later by what it looks
like. A reference stands for the node with its name; one that stands inside the node it names is
kept as such.
-/
namespace Evacuation.Yaml

/-- The kind of a node. -/
inductive NodeKind where
  | scalar
  | sequence
  | mapping
  deriving DecidableEq, Repr

/-- The name of a kind of node in reports. -/
def NodeKind.label : NodeKind → String
  | .scalar => "scalar"
  | .sequence => "sequence"
  | .mapping => "mapping"

/-- A part of a document. -/
inductive Node where
  /-- A scalar. Without a tag, it has one by what it looks like if it is bare. -/
  | scalar (tag : Option String) (text : String) (bare : Bool) (place : Place)
  | sequence (tag : Option String) (items : List Node) (place : Place)
  | mapping (tag : Option String) (members : List (Node × Node)) (place : Place)
  /-- The node itself inside which this one stands. -/
  | enclosing (kind : NodeKind) (place : Place)
  deriving Repr

namespace Node

/-- Where a node starts. -/
def place : Node → Place
  | scalar _ _ _ place | sequence _ _ place | mapping _ _ place | enclosing _ place => place

/-- The kind of a node. -/
def kind : Node → NodeKind
  | scalar .. => .scalar
  | sequence .. => .sequence
  | mapping .. => .mapping
  | enclosing kind _ => kind

/-- A node of nothing. -/
def empty (place : Place) : Node := .scalar none "" true place

end Node

/-! ## Arranging tokens -/

/-- A node with a name, or only where it starts as long as it is not complete. -/
structure Named where
  name : String
  node : Node
  deriving Repr

/-- What is known while tokens are arranged. -/
structure Arranger where
  tokens : List Token
  /-- The fault behind the tokens. -/
  fault : Option Problem := none
  /-- What the handles of tags stand for. -/
  handles : List (String × String) := []
  /-- The nodes with names, the last one first. -/
  named : List Named := []
  deriving Repr

/-- A part of the arrangement of tokens. -/
abbrev Arranging := StateT Arranger (Except Problem)

namespace Arranging

/-- The next token, which stays where it is. -/
def peek : Arranging Token := do
  let arranger ← get
  match arranger.tokens with
  | token :: _ => return token
  | [] => throw (arranger.fault.getD (.character 0 0))

/-- The next token. -/
def take : Arranging Token := do
  let token ← peek
  modify fun arranger => { arranger with tokens := arranger.tokens.drop 1 }
  return token

/-- A fault in the order of tokens, met while something was read that starts at a place. -/
def misplaced {α : Type} (context : String) (start : Place) (fault : Fault) (place : Place) :
    Arranging α :=
  throw (.fault .arranging (some ⟨context, some start⟩) fault place)

/-- A fault in the order of tokens, met outside of any node. -/
def misplacedOutside {α : Type} (fault : Fault) (place : Place) : Arranging α :=
  throw (.fault .arranging none fault place)

/-- What stands in front of the content of a node. -/
structure Properties where
  start : Option Place := none
  name : Option String := none
  tag : Option String := none

/-- The full tag of a handle and the text behind it. -/
def fullTag (start tagPlace : Place) (handle : Option String) (text : String) :
    Arranging String := do
  match handle with
  | none => return text
  | some handle =>
    match (← get).handles.find? fun entry => entry.1 == handle with
    | some (_, meaning) => return meaning ++ text
    | none => misplaced "while parsing a node" start (.undefinedHandle handle) tagPlace

/-- The name and the tag of a node, in any order. -/
def properties : Arranging Properties := do
  let first ← peek
  match first.kind with
  | .anchor name =>
    let _ ← take
    let second ← peek
    match second.kind with
    | .tag handle text =>
      let _ ← take
      return ⟨some first.start, some name, some (← fullTag first.start second.start handle text)⟩
    | _ => return ⟨some first.start, some name, none⟩
  | .tag handle text =>
    let _ ← take
    let second ← peek
    match second.kind with
    | .anchor name =>
      let _ ← take
      return ⟨some first.start, some name, some (← fullTag first.start first.start handle text)⟩
    | _ => return ⟨some first.start, none, some (← fullTag first.start first.start handle text)⟩
  | _ => return {}

/-- The node that a reference stands for. -/
def refer (name : String) (place : Place) : Arranging Node := do
  match (← get).named.find? fun entry => entry.name == name with
  | some entry => return entry.node
  | none => throw (.fault .linking none (.undefinedAlias name) place)

/-- No two nodes of a document have the same name. -/
def checkName (name : Option String) (place : Place) : Arranging Unit := do
  let known := (← get).named
  match name.bind fun name => known.find? fun entry => entry.name == name with
  | none => return ()
  | some entry =>
    let context := s!"found duplicate anchor {Text.quoted entry.name}; first occurrence"
    throw (.fault .linking (some ⟨context, some entry.node.place⟩) .secondOccurrence place)

/-- Let a name stand for a node. -/
def note (name : Option String) (node : Node) : Arranging Unit :=
  match name with
  | none => return ()
  | some name => modify fun arranger => { arranger with named := ⟨name, node⟩ :: arranger.named }

/-- A tag that tells a kind. An exclamation mark alone is none. -/
def telling (tag : Option String) : Option String := tag.filter (· != "!")

/-- The kinds of collections, by how they are written. -/
inductive Form where
  | blockSequence
  /-- A block of items without an indentation of its own. -/
  | openSequence
  | blockMapping
  | flowSequence
  | flowMapping
  deriving DecidableEq, Repr

/-- The form of the collection that a token begins. -/
def form? (block open? : Bool) (kind : TokenKind) : Option Form :=
  match kind with
  | .item => if open? then some .openSequence else none
  | .sequenceStart => some .flowSequence
  | .mappingStart => some .flowMapping
  | .blockSequenceStart => if block then some .blockSequence else none
  | .blockMappingStart => if block then some .blockMapping else none
  | _ => none

/-- A scalar that was found. An exclamation mark for a tag lets it be told by what it looks like. -/
def scalar (properties : Properties) (text : String) (plain : Bool) (start : Place) : Node :=
  let bare := (plain && properties.tag.isNone) || properties.tag == some "!"
  .scalar (telling properties.tag) text bare start

/-- A node of nothing in place of one that would begin with a token of certain kinds. -/
def isEmptyBefore (kinds : List TokenKind) : Arranging Bool :=
  return kinds.contains (← peek).kind

/-- The end of a block, or the fault of what stands in its place. -/
def blockEnd (context : String) (start : Place) : Arranging Unit := do
  let token ← peek
  if token.kind == .blockEnd then
    let _ ← take
  else
    misplaced context start (.unexpectedToken "<block end>" token.kind.label) token.start

/-- The separator between the parts of a collection in brackets. -/
def separator (context wanted : String) (start : Place) : Arranging Unit := do
  let token ← peek
  if token.kind == .separator then
    let _ ← take
  else misplaced context start (.unseparated wanted token.kind.label) token.start

mutual

/-- The next node, in at most so many steps. Blocks are read only where they may stand. -/
def node (block open? : Bool) : Nat → Arranging Node
  | 0 => misplacedOutside (.unexpectedToken "the node content" "") {}
  | steps + 1 => do
    let first ← peek
    match first.kind with
    | .reference name =>
      let _ ← take
      refer name first.start
    | _ =>
      let properties ← properties
      let token ← peek
      let start := properties.start.getD token.start
      match token.kind, form? block open? token.kind with
      | .scalar text plain, _ =>
        let _ ← take
        checkName properties.name start
        let found := scalar properties text plain start
        note properties.name found
        return found
      | _, some form =>
        checkName properties.name start
        let found ← collection form properties start steps
        note properties.name found
        return found
      | _, none =>
        if properties.name.isSome || properties.tag.isSome then
          checkName properties.name start
          let found := scalar properties "" true start
          note properties.name found
          return found
        else
          let context := if block then "while parsing a block node" else "while parsing a flow node"
          misplaced context start (.unexpectedToken "the node content" token.kind.label) token.start

/-- The collection that begins here. -/
def collection (form : Form) (properties : Properties) (start : Place) : Nat → Arranging Node
  | 0 => misplacedOutside (.unexpectedToken "the node content" "") {}
  | steps + 1 => do
    let tag := telling properties.tag
    match form with
    | .blockSequence =>
      let first ← take
      note properties.name (.enclosing .sequence start)
      return .sequence tag (← blockItems first.start steps) start
    | .openSequence =>
      note properties.name (.enclosing .sequence start)
      return .sequence tag (← openItems steps) start
    | .flowSequence =>
      let first ← take
      note properties.name (.enclosing .sequence start)
      return .sequence tag (← flowItems first.start true steps) start
    | .blockMapping =>
      let first ← take
      note properties.name (.enclosing .mapping start)
      return .mapping tag (← blockMembers first.start steps) start
    | .flowMapping =>
      let first ← take
      note properties.name (.enclosing .mapping start)
      return .mapping tag (← flowMembers first.start true steps) start

/-- The items of a block. -/
def blockItems (start : Place) : Nat → Arranging (List Node)
  | 0 => return []
  | steps + 1 => do
    let token ← peek
    if token.kind == .item then
      let _ ← take
      let item ←
        if ← isEmptyBefore [.item, .blockEnd] then pure (.empty token.finish)
        else node true false steps
      return item :: (← blockItems start steps)
    else
      blockEnd "while parsing a block collection" start
      return []

/-- The items of a block without an indentation of its own. -/
def openItems : Nat → Arranging (List Node)
  | 0 => return []
  | steps + 1 => do
    let token ← peek
    if token.kind == .item then
      let _ ← take
      let item ←
        if ← isEmptyBefore [.item, .key, .value, .blockEnd] then pure (.empty token.finish)
        else node true false steps
      return item :: (← openItems steps)
    else return []

/-- The members of a block. -/
def blockMembers (start : Place) : Nat → Arranging (List (Node × Node))
  | 0 => return []
  | steps + 1 => do
    let token ← peek
    if token.kind == .key then
      let key ← blockKey steps
      let value ← blockValue steps
      return (key, value) :: (← blockMembers start steps)
    else
      blockEnd "while parsing a block mapping" start
      return []

/-- A key of a block behind its mark. -/
def blockKey : Nat → Arranging Node
  | 0 => misplacedOutside (.unexpectedToken "the node content" "") {}
  | steps + 1 => do
    let token ← take
    if ← isEmptyBefore [.key, .value, .blockEnd] then return .empty token.finish
    else node true true steps

/-- A value of a block, if its mark stands here. -/
def blockValue : Nat → Arranging Node
  | 0 => misplacedOutside (.unexpectedToken "the node content" "") {}
  | steps + 1 => do
    let token ← peek
    if token.kind == .value then
      let _ ← take
      if ← isEmptyBefore [.key, .value, .blockEnd] then return .empty token.finish
      else node true true steps
    else return .empty token.start

/-- The items in brackets. One that is marked as a key is a mapping of one member. -/
def flowItems (start : Place) (first : Bool) : Nat → Arranging (List Node)
  | 0 => return []
  | steps + 1 => do
    if (← peek).kind == .sequenceEnd then
      let _ ← take
      return []
    else
      if !first then separator "while parsing a flow sequence" "',' or ']'" start
      let token ← peek
      if token.kind == .key then
        let key ← flowKey [.value, .separator, .sequenceEnd] steps
        let value ← flowValue [.separator, .sequenceEnd] steps
        let item : Node := .mapping none [(key, value)] token.start
        return item :: (← flowItems start false steps)
      else if token.kind == .sequenceEnd then
        let _ ← take
        return []
      else
        let item ← node false false steps
        return item :: (← flowItems start false steps)

/-- The members in braces. One without a mark is a key without a value. -/
def flowMembers (start : Place) (first : Bool) : Nat → Arranging (List (Node × Node))
  | 0 => return []
  | steps + 1 => do
    if (← peek).kind == .mappingEnd then
      let _ ← take
      return []
    else
      if !first then separator "while parsing a flow mapping" "',' or '\x7d'" start
      let token ← peek
      if token.kind == .key then
        let key ← flowKey [.value, .separator, .mappingEnd] steps
        let value ← flowValue [.separator, .mappingEnd] steps
        return (key, value) :: (← flowMembers start false steps)
      else if token.kind == .mappingEnd then
        let _ ← take
        return []
      else
        let key ← node false false steps
        let value := .empty (← peek).start
        return (key, value) :: (← flowMembers start false steps)

/-- A key in brackets behind its mark, empty before tokens of certain kinds. -/
def flowKey (ends : List TokenKind) : Nat → Arranging Node
  | 0 => misplacedOutside (.unexpectedToken "the node content" "") {}
  | steps + 1 => do
    let token ← take
    if ← isEmptyBefore ends then return .empty token.finish
    else node false false steps

/-- A value in brackets, if its mark stands here, empty before tokens of certain kinds. -/
def flowValue (ends : List TokenKind) : Nat → Arranging Node
  | 0 => misplacedOutside (.unexpectedToken "the node content" "") {}
  | steps + 1 => do
    let token ← peek
    if token.kind == .value then
      let _ ← take
      if ← isEmptyBefore ends then return .empty token.finish
      else node false false steps
    else return .empty token.start

end

/-! ## The document of a text -/

/-- The handles that need no directive. -/
def usualHandles : List (String × String) := [("!", "!"), ("!!", "tag:yaml.org,2002:")]

/-- Read the directives in front of a document, in at most so many steps. -/
def directives : Nat → (versioned : Bool) → Arranging Unit
  | 0, _ => return ()
  | steps + 1, versioned => do
    let token ← peek
    match token.kind with
    | .directive (.version major) =>
      let _ ← take
      if versioned then misplacedOutside .secondVersion token.start
      else if major ≠ 1 then misplacedOutside .incompatibleVersion token.start
      else directives steps true
    | .directive (.handle handle meaning) =>
      let _ ← take
      if (← get).handles.any fun entry => entry.1 == handle then
        misplacedOutside (.secondHandle handle) token.start
      else
        modify fun arranger =>
          { arranger with handles := arranger.handles ++ [(handle, meaning)] }
        directives steps versioned
    | .directive .other =>
      let _ ← take
      directives steps versioned
    | _ => return ()

/-- Leave out marks of the end of a document, in at most so many steps. -/
def skipEnds : Nat → Arranging Unit
  | 0 => return ()
  | steps + 1 => do
    if (← peek).kind == .documentEnd then
      let _ ← take
      skipEnds steps

/-- Begin a document that is marked as one, if there is one, and tell where it starts. -/
def beginMarked (steps : Nat) : Arranging (Option Place) := do
  skipEnds steps
  let first ← peek
  if first.kind == .streamEnd then return none
  else
    modify fun arranger => { arranger with handles := [] }
    directives steps false
    modify fun arranger => { arranger with handles := arranger.handles ++ usualHandles }
    let token ← peek
    if token.kind == .documentStart then
      let _ ← take
      return some first.start
    else
      misplacedOutside (.unexpectedToken "'<document start>'" token.kind.label) token.start

/-- A token that begins a mark around documents. -/
def isAround : TokenKind → Bool
  | .directive _ | .documentStart | .documentEnd | .streamEnd => true
  | _ => false

/-- The node of the first document, if there is one. -/
def firstDocument (steps : Nat) : Arranging (Option Node) := do
  let first ← peek
  match first.kind with
  | .directive _ | .documentStart | .streamEnd =>
    match ← beginMarked steps with
    | none => return none
    | some _ =>
      let token ← peek
      if isAround token.kind then return some (.empty token.start)
      else return some (← node true false steps)
  | _ =>
    modify fun arranger => { arranger with handles := usualHandles }
    return some (← node true false steps)

/-- The only document of a text, if it holds one. -/
def onlyDocument (steps : Nat) : Arranging (Option Node) := do
  match ← firstDocument steps with
  | none => return none
  | some found =>
    match ← beginMarked steps with
    | none => return some found
    | some start =>
      let context : Context := ⟨"expected a single document in the stream", some found.place⟩
      throw (.fault .linking (some context) .secondDocument start)

end Arranging

/-- A character that a document may hold. -/
def isAllowed (c : Char) : Bool :=
  let n := c.toNat
  c == '\t' || c == '\n' || c == '\r' || (0x20 ≤ n && n ≤ 0x7E) || n == 0x85 ||
    (0xA0 ≤ n && n ≤ 0xFFFD) || 0x10000 ≤ n

/-- The first character of a text, counted from a number, that no document may hold. -/
def refused? : Nat → List Char → Option Problem
  | _, [] => none
  | index, c :: rest =>
    if isAllowed c then refused? (index + 1) rest else some (.character c.toNat index)

/-- The node of the document in a text, if there is one. -/
def Node.ofText? (text : List Char) : Except Problem (Option Node) :=
  match refused? 0 text with
  | some problem => .error problem
  | none =>
    let stream := TokenStream.ofText text
    let arranger : Arranger := { tokens := stream.tokens, fault := stream.fault }
    ((Arranging.onlyDocument (4 * stream.tokens.length + 16)).run arranger).map (·.1)

end Evacuation.Yaml
