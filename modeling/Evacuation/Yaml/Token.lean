import Evacuation.Yaml.Problem
/-!
# Tokens

A text is cut into tokens: the marks that begin, end and separate documents and collections, the
marks of keys, values and items, and the nodes themselves with their names and tags. A block has
no marks of its own; where it begins and ends is told by indentation.
-/
namespace Evacuation.Yaml

/-- A line that tells how a document is to be read. -/
inductive Directive where
  /-- The version of the notation. -/
  | version (major : Nat)
  /-- A handle, and what it stands for in a tag. -/
  | handle (handle meaning : String)
  /-- A directive without a meaning. -/
  | other
  deriving DecidableEq, Repr

/-- A kind of token, with what it carries. -/
inductive TokenKind where
  | directive (content : Directive)
  | documentStart
  | documentEnd
  | streamEnd
  | blockSequenceStart
  | blockMappingStart
  | blockEnd
  | sequenceStart
  | sequenceEnd
  | mappingStart
  | mappingEnd
  | key
  | value
  | item
  | separator
  | reference (name : String)
  | anchor (name : String)
  /-- A tag. Without a handle its text is the whole tag. -/
  | tag (handle : Option String) (text : String)
  /-- A scalar, written plainly or not. -/
  | scalar (text : String) (plain : Bool)
  deriving DecidableEq, Repr

/-- The name of a kind of token in reports. -/
def TokenKind.label : TokenKind → String
  | .directive _ => "<directive>"
  | .documentStart => "<document start>"
  | .documentEnd => "<document end>"
  | .streamEnd => "<stream end>"
  | .blockSequenceStart => "<block sequence start>"
  | .blockMappingStart => "<block mapping start>"
  | .blockEnd => "<block end>"
  | .sequenceStart => "["
  | .sequenceEnd => "]"
  | .mappingStart => "\x7b"
  | .mappingEnd => "\x7d"
  | .key => "?"
  | .value => ":"
  | .item => "-"
  | .separator => ","
  | .reference _ => "<alias>"
  | .anchor _ => "<anchor>"
  | .tag _ _ => "<tag>"
  | .scalar _ _ => "<scalar>"

/-- A token and the places where it starts and ends. -/
structure Token where
  kind : TokenKind
  start : Place
  finish : Place
  deriving DecidableEq, Repr

end Evacuation.Yaml
