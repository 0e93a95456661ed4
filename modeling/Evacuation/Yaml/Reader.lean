import Evacuation.Yaml.Meaning
/-!
# Reading a document

The value of a document is made from its nodes. A mapping takes over the members of mappings under a
merge key, before its own, so that its own count. Collections are filled one level after another, so
of several faults the one nearest to the root is reported, and of those the first.
-/
namespace Evacuation.Yaml

/-- A fault met while values are made. -/
def makeFault {α : Type} (context : Option Context) (fault : Fault) (place : Place) :
    Except Problem α :=
  .error (.fault .making context fault place)

/-! ## Merging -/

namespace Node

/-- A key whose tag makes it stand in for its mapping is a text where it is a key. -/
def asKey : Node → Node
  | scalar tag text bare place =>
    if (scalar tag text bare place).meaning = .standIn then
      scalar (some Meaning.text.tag) text bare place
    else scalar tag text bare place
  | node => node

mutual

/-- The members that a mapping takes over, and its own. -/
def flattened (start : Place) :
    List (Node × Node) → Except Problem (List (Node × Node) × List (Node × Node))
  | [] => .ok ([], [])
  | (key, value) :: rest => do
    if key.meaning = .merge then
      let here ← merged start value
      let (others, own) ← flattened start rest
      return (here ++ others, own)
    else
      let (others, own) ← flattened start rest
      return (others, (key.asKey, value) :: own)

/-- The members of what stands under a merge key. -/
def merged (start : Place) : Node → Except Problem (List (Node × Node))
  | .mapping _ members place => do
    let (others, own) ← flattened place members
    return others ++ own
  | .sequence _ items _ => mergedItems start items
  | .enclosing _ _ => .ok []
  | .scalar _ _ _ place =>
    makeFault (some ⟨"while constructing a mapping", some start⟩)
      (.wrongKind "a mapping or list of mappings for merging" "scalar") place

/-- The members of mappings, those of the last one first. -/
def mergedItems (start : Place) : List Node → Except Problem (List (Node × Node))
  | [] => .ok []
  | .mapping _ members place :: rest => do
    let (others, own) ← flattened place members
    let later ← mergedItems start rest
    return later ++ others ++ own
  | node :: _ =>
    makeFault (some ⟨"while constructing a mapping", some start⟩)
      (.wrongKind "a mapping for merging" node.kind.label) node.place

end

mutual

/-- The text of a node that is to be a scalar. A mapping may have a member that stands for it. -/
def scalarText : Node → Except Problem String
  | .scalar _ text _ _ => .ok text
  | .mapping _ members place => standInText place members
  | .sequence _ _ place => makeFault none (.wrongKind "a scalar node" "sequence") place
  | .enclosing kind place => makeFault none (.wrongKind "a scalar node" kind.label) place

/-- The text of the member that stands for a mapping. -/
def standInText (start : Place) : List (Node × Node) → Except Problem String
  | [] => makeFault none (.wrongKind "a scalar node" "mapping") start
  | (key, value) :: rest =>
    if key.meaning = .standIn then scalarText value else standInText start rest

end

end Node

/-! ## Making values -/

/-- A problem, and how many levels below a node it is met. -/
structure Late where
  depth : Nat
  problem : Problem
  deriving Repr

namespace Late

/-- The problem that is met first: the one on the upper level, or else the first. -/
def first (one other : Late) : Late := if other.depth < one.depth then other else one

/-- All values, or the problem that is met first. -/
def all {α : Type} : List (Except Late α) → Except Late (List α)
  | [] => .ok []
  | result :: rest =>
    match result, all rest with
    | .ok value, .ok values => .ok (value :: values)
    | .ok _, .error late => .error late
    | .error late, .ok _ => .error late
    | .error one, .error other => .error (first one other)

/-- A problem seen from one level further up. -/
def below (late : Late) : Late := { late with depth := late.depth + 1 }

/-- A problem met at once. -/
def atOnce {α : Type} (result : Except Problem α) : Except Late α := result.mapError (⟨0, ·⟩)

end Late

/-- A value of a mapping under a key, each of them made or not. A collection is no key. -/
def makeMember (start : Place) (key : Node) (made value : Except Late Value) :
    Except Late (Value × Value) :=
  let context : Context := ⟨"while constructing a mapping", some start⟩
  let unhashable : Late := ⟨1, .fault .making (some context) .unhashableKey key.place⟩
  match made with
  | .error late => .error (if late.depth = 0 then late.below else unhashable)
  | .ok made =>
    if made.isCollection then .error unhashable
    else (value.mapError Late.below).map fun value => (made, value)

/-- The value of a node, made in at most so many levels. -/
def Node.make : Nat → Node → Except Late Value
  | 0, _ => .ok .null
  | levels + 1, node =>
    match node.meaning, node with
    | _, .enclosing kind _ => .ok (.enclosing (kind == .mapping))
    | .mapping, .mapping _ members place => do
      let (others, own) ← (flattened place members).mapError fun problem => Late.mk 1 problem
      let members ← Late.all ((others ++ own).map fun member =>
        makeMember place member.1 (make levels member.1) (make levels member.2))
      return .mapping (members.foldl (fun found member => Value.write member.1 member.2 found) [])
    | .sequence, .sequence _ items _ =>
      (Late.all (items.map fun item => (make levels item).mapError Late.below)).map .list
    | .mapping, node =>
      .error ⟨1, .fault .making none (.wrongKind "a mapping node" node.kind.label) node.place⟩
    | .sequence, node =>
      .error ⟨1, .fault .making none (.wrongKind "a sequence node" node.kind.label) node.place⟩
    | .unknown tag, node => Late.atOnce (makeFault none (.unknownTag tag) node.place)
    | .merge, node => Late.atOnce (makeFault none (.unknownTag Meaning.merge.tag) node.place)
    | .standIn, node => Late.atOnce (makeFault none (.unknownTag Meaning.standIn.tag) node.place)
    | meaning, node => Late.atOnce do
      let text ← node.scalarText
      (ScalarValue.ofText meaning text).mapError .scalar

/-! ## Texts -/

/-- The value of the document in a text; nothing if there is none. -/
def read (text : String) : Except Problem Value := do
  let cs := Text.withLineFeeds text.toList
  match ← Node.ofText? cs with
  | none => return .null
  | some node => (node.make (4 * cs.length + 16)).mapError (·.problem)

end Evacuation.Yaml
