import Evacuation.Decimal.Shortest
import Evacuation.Text.Quoted
import Evacuation.Time.Scale
import Evacuation.Yaml.Moment
/-!
# Values of documents

The value of a document is nothing, a truth value, a number, a text, a moment, a list or a mapping.
The keys of a mapping are values that are no collections. `quoted` writes a value in one line as it
is quoted in messages, and `same` tells which values count as equal: numbers by what they are worth,
a truth value being worth one or nothing, and a number that is undefined like no other.
-/
namespace Evacuation.Yaml

/-- The value of a part of a document. -/
inductive Value where
  | null
  | boolean (value : Bool)
  | integer (value : Int)
  | decimal (value : Float)
  | text (value : String)
  | moment (value : Moment)
  | list (items : List Value)
  | mapping (members : List (Value × Value))
  /-- The list or the mapping itself inside which the value stands. -/
  | enclosing (isMapping : Bool)
  deriving Inhabited

namespace Value

/-- The name of the kind of a value in messages. -/
def kindName : Value → String
  | null => "NoneType"
  | boolean _ => "bool"
  | integer _ => "int"
  | decimal _ => "float"
  | text _ => "str"
  | moment value => if value.time.isSome then "datetime.datetime" else "datetime.date"
  | list _ | enclosing false => "list"
  | mapping _ | enclosing true => "dict"

/-- The last part of the name of the kind of a value. -/
def shortKindName : Value → String
  | moment value => if value.time.isSome then "datetime" else "date"
  | value => value.kindName

/-- A list or a mapping. -/
def isCollection : Value → Bool
  | list _ | mapping _ | enclosing _ => true
  | _ => false

/-- A value that is not missing, empty, zero or false. -/
def isFull : Value → Bool
  | null => false
  | boolean value => value
  | integer value => value != 0
  | decimal value => value != 0.0
  | text value => !value.isEmpty
  | moment _ | enclosing _ => true
  | list items => !items.isEmpty
  | mapping members => !members.isEmpty

/-- What a number or a truth value is worth. -/
def worth? : Value → Option Reading
  | boolean value => some (.finite (if value then 1 else 0))
  | integer value => some (.finite value)
  | decimal value => some (floatReading value)
  | _ => none

/-- Two values that are no collections count as equal. -/
def same (one other : Value) : Bool :=
  match one, other with
  | null, null => true
  | text one, text other => one == other
  | moment one, moment other => one.same other
  | one, other =>
    match one.worth?, other.worth? with
    | some .undefined, _ => false
    | some one, some other => one == other
    | _, _ => false

/-- The value under a key of a mapping. -/
def lookup? (key : Value) : List (Value × Value) → Option Value
  | [] => none
  | (other, value) :: rest => if key.same other then some value else lookup? key rest

/-- The members of a mapping with a value written under a key. A key that is there keeps its place
and its form. -/
def write (key value : Value) : List (Value × Value) → List (Value × Value)
  | [] => [(key, value)]
  | (other, old) :: rest =>
    if key.same other then (other, value) :: rest else (other, old) :: write key value rest

mutual

/-- A value in one line, its texts between quotes. -/
def quoted : Value → String
  | null => "None"
  | boolean true => "True"
  | boolean false => "False"
  | integer value => toString value
  | decimal value => Decimal.floatText value
  | text value => Text.quoted value
  | moment value => value.quoted
  | list items => "[" ++ ", ".intercalate (quotedItems items) ++ "]"
  | mapping members => "\x7b" ++ ", ".intercalate (quotedMembers members) ++ "\x7d"
  | enclosing true => "\x7b...\x7d"
  | enclosing false => "[...]"

/-- The items of a list, each in one line. -/
def quotedItems : List Value → List String
  | [] => []
  | item :: rest => item.quoted :: quotedItems rest

/-- The members of a mapping, each in one line. -/
def quotedMembers : List (Value × Value) → List String
  | [] => []
  | (key, value) :: rest => (key.quoted ++ ": " ++ value.quoted) :: quotedMembers rest

end

/-- A value in one line, without quotes if it is a text. -/
def plain : Value → String
  | text value => value
  | moment value => value.text
  | value => value.quoted

end Value

end Evacuation.Yaml
