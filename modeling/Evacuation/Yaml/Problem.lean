import Evacuation.Malformed
import Evacuation.Text.Utf8
import Evacuation.Yaml.Place
/-!
# Problems with a document

A document is refused for a character it may not hold, for a text that cannot be cut into tokens,
for tokens in a wrong order, for a reference to a part that it does not have, or for a value that
cannot be made. The report of a problem says what was being read and where it began, what is wrong
and where.
-/
namespace Evacuation.Yaml

/-- What was being done with the text. -/
inductive Stage where
  | cutting
  | arranging
  | linking
  | making
  deriving DecidableEq, Repr

/-- What is wrong at a place of a document. -/
inductive Fault where
  /-- No token starts with a character. -/
  | noToken (c : Char)
  /-- What takes the place of a key has no colon after it. -/
  | noColon
  /-- No item, key or value of a block may stand here. -/
  | notAllowed (part : String)
  /-- Something else was expected than a character. -/
  | unexpected (wanted : String) (found : Char)
  /-- Something else was expected than a token. -/
  | unexpectedToken (wanted found : String)
  /-- A separator or the end of a collection was expected, and a token was found. -/
  | unseparated (wanted found : String)
  /-- An indentation of zero. -/
  | noIndentation
  | unknownEscape (c : Char)
  | endOfText
  | separatorInside
  /-- The bytes of an escape are no text. -/
  | undecodable (cause : Text.Utf8.Fault)
  | secondVersion
  | incompatibleVersion
  | secondHandle (handle : String)
  | undefinedHandle (handle : String)
  | undefinedAlias (name : String)
  | secondOccurrence
  | secondDocument
  | unknownTag (tag : String)
  /-- A node of one kind was expected and one of another kind found. -/
  | wrongKind (wanted found : String)
  | unhashableKey
  deriving DecidableEq, Repr

/-- A quoted character. -/
def quotedChar (c : Char) : String := Text.quoted (String.singleton c)

/-- The text that reports what is wrong. -/
def Fault.report : Fault → String
  | .noToken c => s!"found character {quotedChar c} that cannot start any token"
  | .noColon => "could not find expected ':'"
  | .notAllowed part => s!"{part} are not allowed here"
  | .unexpected wanted found => s!"expected {wanted}, but found {quotedChar found}"
  | .unexpectedToken wanted found => s!"expected {wanted}, but found {Text.quoted found}"
  | .unseparated wanted found => s!"expected {wanted}, but got {Text.quoted found}"
  | .noIndentation => "expected indentation indicator in the range 1-9, but found 0"
  | .unknownEscape c => s!"found unknown escape character {quotedChar c}"
  | .endOfText => "found unexpected end of stream"
  | .separatorInside => "found unexpected document separator"
  | .undecodable cause => cause.message
  | .secondVersion => "found duplicate YAML directive"
  | .incompatibleVersion => "found incompatible YAML document (version 1.* is required)"
  | .secondHandle handle => s!"duplicate tag handle {Text.quoted handle}"
  | .undefinedHandle handle => s!"found undefined tag handle {Text.quoted handle}"
  | .undefinedAlias name => s!"found undefined alias {Text.quoted name}"
  | .secondOccurrence => "second occurrence"
  | .secondDocument => "but found another document"
  | .unknownTag tag => s!"could not determine a constructor for the tag {Text.quoted tag}"
  | .wrongKind wanted found => s!"expected {wanted}, but found {found}"
  | .unhashableKey => "found unhashable key"

/-- What was being read when a fault was met, and where it began. -/
structure Context where
  text : String
  place : Option Place := none
  deriving DecidableEq, Repr

/-- Why the text of a scalar has no value of the kind that its tag names. -/
inductive ScalarFault where
  /-- A whole number. -/
  | integer (cause : Malformed)
  /-- Digits to a base. -/
  | digits (base : Nat) (text : String)
  | decimal (text : String)
  /-- A number without digits. -/
  | empty
  | boolean (text : String)
  /-- A point in time that is not written as one. -/
  | instant
  /-- A year, month, day or part of a day that there is not. -/
  | date (report : String)
  deriving DecidableEq, Repr

/-- The text that reports a scalar without a value. -/
def ScalarFault.report : ScalarFault → String
  | .integer cause => cause.message
  | .digits base text => s!"invalid literal for int() with base {base}: {Text.quoted text}"
  | .decimal text => s!"could not convert string to float: {Text.quoted text}"
  | .empty => "string index out of range"
  | .boolean text => Text.quoted text
  | .instant => "'NoneType' object has no attribute 'groupdict'"
  | .date report => report

/-- Why a text is no document. -/
inductive Problem where
  /-- A character that no document may hold. -/
  | character (code index : Nat)
  /-- An escape names a number that is no character. -/
  | noCharacter
  /-- An escape names a number beyond the words of a machine. -/
  | farCharacter
  | fault (stage : Stage) (context : Option Context) (fault : Fault) (place : Place)
  | scalar (cause : ScalarFault)
  deriving DecidableEq, Repr

/-- The text that reports why a file holds no document. The place of the context is left out if the
fault has the same line and column. -/
def Problem.message (file : String) : Problem → String
  | .character code index =>
    "unacceptable character #x" ++ String.ofList (Text.hexDigits 4 code) ++
      ": special characters are not allowed\n  in \"" ++ file ++ s!"\", position {index}"
  | .noCharacter => "chr() arg not in range(0x110000)"
  | .farCharacter => "Python int too large to convert to C int"
  | .fault _ context cause place =>
    let start := context.bind (·.place)
    let shown := start.filter fun start =>
      start.line != place.line || start.column != place.column
    "\n".intercalate ((context.map (·.text)).toList ++ (shown.map (·.text file)).toList ++
      [cause.report, place.text file])
  | .scalar cause => cause.report

end Evacuation.Yaml
