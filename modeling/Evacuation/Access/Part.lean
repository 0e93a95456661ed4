import Evacuation.Access.Error
import Evacuation.Text.Split
import Evacuation.Yaml.Value
/-!
# Parts of access files

What is found in an access file is followed from part to part, and a part remembers where it stands,
so that a member that is missing can be reported. What is no list and no mapping is bare: it is found,
but nothing more is looked for behind it.
-/
namespace Evacuation.Access

open Yaml (Value)

/-- One text begins somewhere in another. -/
def hasText (part : List Char) : List Char → Bool
  | [] => part.isEmpty
  | c :: rest => (Text.dropStart? part (c :: rest)).isSome || hasText part rest

/-- The member of a value under a key, if there is one. A list or a text may hold the key, but has no
members. -/
def memberOf? (key : String) (value : Value) : Except AccessError (Option Value) :=
  match value with
  | .mapping members => .ok (Value.lookup? (.text key) members)
  | .list items =>
    if items.any fun item => (Value.text key).same item then .error (.misuse .listKey) else .ok none
  | .text text =>
    if hasText key.toList text.toList then .error (.misuse .textKey) else .ok none
  | .enclosing _ => .ok none
  | value => .error (.misuse (.noMembers value.kindName))

/-- A value has a member under a key or holds the key. -/
def holds (key : String) (value : Value) : Except AccessError Bool :=
  match value with
  | .mapping members => .ok (Value.lookup? (.text key) members).isSome
  | .list items => .ok (items.any fun item => (Value.text key).same item)
  | .text text => .ok (hasText key.toList text.toList)
  | .enclosing _ => .ok false
  | value => .error (.misuse (.noMembers value.kindName))

/-- A part of an access file. -/
structure Part where
  /-- Where it stands, in words. -/
  place : String
  file : String
  value : Value

/-- What is found in a part. -/
inductive Item where
  | part (part : Part)
  | bare (value : Value)

namespace Part

/-- A part has a member under a key or holds the key. -/
def has (part : Part) (key : String) : Except AccessError Bool := holds key part.value

/-- The member under a key, which must be there. -/
def get (part : Part) (key : String) : Except AccessError Item := do
  match ← memberOf? key part.value with
  | none | some .null => throw (.missingKey key part.place)
  | some value =>
    if value.isCollection then return .part ⟨s!"{part.place}/{key}", part.file, value⟩
    else return .bare value

end Part

namespace Item

/-- The name of the kind of parts in messages. -/
def partKind : String := "ConfigNode"

/-- The name of the kind of an item in messages. -/
def kindName : Item → String
  | part _ => partKind
  | bare value => value.kindName

/-- The last part of the name of the kind of an item. -/
def shortKindName : Item → String
  | part _ => partKind
  | bare value => value.shortKindName

/-- An item in one line. -/
def text : Item → String
  | part found => found.value.plain
  | bare value => value.plain

/-- An item that is not missing, empty, zero or false. -/
def isFull : Item → Bool
  | part found => found.value.isFull
  | bare value => value.isFull

/-- Two items count as equal. Parts are never equal to anything. -/
def same : Item → Item → Bool
  | bare one, bare other => one.same other
  | _, _ => false

/-- An item has a member under a key or holds the key. -/
def has (item : Item) (key : String) : Except AccessError Bool :=
  match item with
  | part found => found.has key
  | bare value => holds key value

/-- The member under a key, which must be there. -/
def get (item : Item) (key : String) : Except AccessError Item :=
  match item with
  | part found => found.get key
  | bare (.text _) => .error (.misuse .textKey)
  | bare value => .error (.misuse (.noSubscript value.kindName))

/-- The text of an item that has a feature of texts. -/
def textFor (item : Item) (feature : String) : Except AccessError String :=
  match item with
  | bare (.text text) => .ok text
  | item => .error (.misuse (.noAttribute item.kindName feature))

end Item

/-! ## Entries -/

/-- The entry of a list with a name, if there is one. Every entry must have a name, and no two entries
that one. -/
def entryNamed? (place : String) (name : Item) (entries : List Part) :
    Except AccessError (Option Part) :=
  entries.foldlM (fun found entry => do
    if !(← entry.has "name") then throw (.unnamedEntry place)
    else if !(← entry.get "name").same name then return found
    else if found.isSome then throw (.repeatedEntry name.text place)
    else return some entry) none

/-- The entry of a list with a name. -/
def entryNamed (place : String) (name : Item) (entries : List Part) : Except AccessError Part := do
  match ← entryNamed? place name entries with
  | some entry => return entry
  | none => throw (.missingEntry name.text place)

end Evacuation.Access
