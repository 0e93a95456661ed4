import Evacuation.Decimal.Shortest
import Evacuation.Table
import Evacuation.Text.Quoted
/-!
# Documents

A document is a value of nested lists and objects over texts, numbers, truth values and nothing.
The members of an object keep their order. `quoted` writes a document in one line the way it is
quoted in messages: texts between quotes, objects between braces.
-/
namespace Evacuation

/-- A nested value. -/
inductive Document where
  | null
  | boolean (value : Bool)
  | integer (value : Int)
  | decimal (value : Float)
  | text (value : String)
  | list (items : List Document)
  | object (members : List (String × Document))
  deriving Inhabited

namespace Document

/-- The member of an object under a key. -/
def get? (document : Document) (key : String) : Option Document :=
  match document with
  | object members => Table.lookup key members
  | _ => none

/-- The document is an object. -/
def isObject : Document → Bool
  | object _ => true
  | _ => false

/-- The name of the kind of a document in messages. -/
def kindName : Document → String
  | null => "NoneType"
  | boolean _ => "bool"
  | integer _ => "int"
  | decimal _ => "float"
  | text _ => "str"
  | list _ => "list"
  | object _ => "dict"

/-- The members of an object; none of anything else. -/
def members : Document → List (String × Document)
  | object members => members
  | _ => []

/-- The items of a list; none of anything else. -/
def items : Document → List Document
  | list items => items
  | _ => []

/-- The text of a document that is one. -/
def text? : Document → Option String
  | text value => some value
  | _ => none

/-- A document that is missing, empty, zero or false. -/
def isEmpty : Document → Bool
  | null => true
  | boolean value => !value
  | integer value => value == 0
  | decimal value => value == 0.0
  | text value => value.isEmpty
  | list items => items.isEmpty
  | object members => members.isEmpty

/-- The document is a number with the given value. -/
def isNumber (document : Document) (value : Int) : Bool :=
  match document with
  | integer number => number == value
  | decimal number => floatReading number == .finite value
  | _ => false

mutual

/-- A document in one line, its texts between quotes. -/
def quoted : Document → String
  | null => "None"
  | boolean true => "True"
  | boolean false => "False"
  | integer value => toString value
  | decimal value => Decimal.floatText value
  | text value => Text.quoted value
  | list items => "[" ++ ", ".intercalate (quotedItems items) ++ "]"
  | object members => "\x7b" ++ ", ".intercalate (quotedMembers members) ++ "\x7d"

/-- The items of a list, each in one line. -/
def quotedItems : List Document → List String
  | [] => []
  | item :: rest => item.quoted :: quotedItems rest

/-- The members of an object, each in one line. -/
def quotedMembers : List (String × Document) → List String
  | [] => []
  | (key, value) :: rest => (Text.quoted key ++ ": " ++ value.quoted) :: quotedMembers rest

end

/-- A document in one line, without quotes if it is a text. -/
def plain : Document → String
  | text value => value
  | document => document.quoted

end Document

end Evacuation
