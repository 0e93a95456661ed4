import Evacuation.Table
import Evacuation.Text.Blank
import Evacuation.Text.Line
import Evacuation.Text.Split
/-!
# Settings files

A settings file assigns values to names, one assignment a line. A value between quotes may span
lines and hold escapes; a quote that follows a backslash does not close it. Any other value ends at
the end of its line or at a blank and a hash. A name without equals sign is known but has no value.
A line that cannot be read is passed over, and so is a mark of byte order at the front of the file.
In every value a name between braces after a dollar sign stands for the value of that name: the one
in the environment, or else the one assigned before. An environment is extended by the names it
does not have, unless it says that settings files are disabled.
-/
namespace Evacuation

/-- Names with their values. -/
abbrev Environment := Table String String

namespace EnvFile

/-- A blank within a line. -/
def isInlineBlank (c : Char) : Bool := Text.isBlank c && c != '\n'

/-- A text without the blanks at its front that lie within a line. -/
def skipInline (text : List Char) : List Char := text.dropWhile isInlineBlank

/-- The rest of a text after the end of its first line. -/
def nextLine (text : List Char) : List Char := (text.dropWhile (· != '\n')).drop 1

/-- A text without a leading mark that the name is to be passed on. -/
def skipMark (text : List Char) : List Char :=
  match Text.dropStart? "export".toList text with
  | some rest => if rest.head?.any isInlineBlank then skipInline rest else text
  | none => text

/-- A character of a name without quotes. -/
def isNameChar (c : Char) : Bool := c != '=' && c != '#' && !Text.isBlank c

/-- The name at the front of a text, and the rest. A comment has no name. What cannot be read is the
error. -/
def readName (text : List Char) : Except (List Char) (Option String × List Char) :=
  match text with
  | '#' :: _ => .ok (none, text)
  | '\'' :: rest =>
    match Text.splitFirst '\'' rest with
    | some (c :: cs, after) => .ok (some (String.ofList (c :: cs)), after)
    | _ => .error text
  | _ =>
    match text.takeWhile isNameChar with
    | [] => .error text
    | name => .ok (some (String.ofList name), text.dropWhile isNameChar)

/-- The parts of a text around its closing quote. A backslash and the character after it stand
together, so neither closes. -/
def splitQuote (quote : Char) : List Char → Option (List Char × List Char)
  | [] => none
  | '\\' :: [] => none
  | '\\' :: c :: rest =>
    (splitQuote quote rest).map fun parts => ('\\' :: c :: parts.1, parts.2)
  | c :: rest =>
    if c = quote then some ([], rest)
    else (splitQuote quote rest).map fun parts => (c :: parts.1, parts.2)

/-- The character of an escape between single quotes. -/
def singleEscape? (c : Char) : Option Char := if c == '\\' || c == '\'' then some c else none

/-- The character of an escape between double quotes. -/
def doubleEscape? : Char → Option Char
  | '\\' => some '\\'
  | '\'' => some '\''
  | '"' => some '"'
  | 'a' => some '\x07'
  | 'b' => some '\x08'
  | 'f' => some '\x0c'
  | 'n' => some '\n'
  | 'r' => some '\r'
  | 't' => some '\t'
  | 'v' => some '\x0b'
  | _ => none

/-- A text with its escapes replaced. -/
def unescape (escape? : Char → Option Char) : List Char → List Char
  | '\\' :: c :: rest =>
    match escape? c with
    | some meant => meant :: unescape escape? rest
    | none => '\\' :: unescape escape? (c :: rest)
  | c :: rest => c :: unescape escape? rest
  | [] => []

/-- A line up to a hash that follows a blank. -/
def beforeComment (blank : Bool) : List Char → List Char
  | [] => []
  | c :: rest => if c = '#' ∧ blank then [] else c :: beforeComment (Text.isBlank c) rest

/-- A text without the blanks at its end. -/
def trimEnd (text : List Char) : List Char := (text.reverse.dropWhile Text.isBlank).reverse

/-- The value at the front of a text, and the rest. It is said whether a blank stands before it. -/
def readValue (afterBlank : Bool) (text : List Char) :
    Except (List Char) (String × List Char) :=
  match text with
  | '\'' :: rest =>
    match splitQuote '\'' rest with
    | some (value, after) => .ok (String.ofList (unescape singleEscape? value), after)
    | none => .error text
  | '"' :: rest =>
    match splitQuote '"' rest with
    | some (value, after) => .ok (String.ofList (unescape doubleEscape? value), after)
    | none => .error text
  | _ =>
    let line := text.takeWhile (· != '\n')
    .ok (String.ofList (trimEnd (beforeComment afterBlank line)), text.dropWhile (· != '\n'))

/-- The rest of a text after a comment and the end of its line. -/
def readLineEnd (text : List Char) : Except (List Char) (List Char) :=
  let afterComment :=
    match skipInline text with
    | '#' :: rest => rest.dropWhile (· != '\n')
    | _ => text
  match skipInline afterComment with
  | [] => .ok []
  | '\n' :: rest => .ok rest
  | _ => .error afterComment

/-- The value after an equals sign, if there is one, and the rest. -/
def readAssigned (text : List Char) : Except (List Char) (Option String × List Char) :=
  match skipInline text with
  | '=' :: rest => do
    let (value, rest) ← readValue (rest.head?.any isInlineBlank) (skipInline rest)
    return (some value, rest)
  | rest => .ok (none, rest)

/-- The assignment of one line, of which a comment has none, and the rest. -/
def readAssignment (text : List Char) :
    Except (List Char) (Option (String × Option String) × List Char) := do
  let (name, rest) ← readName (skipMark text)
  let (value, rest) ← readAssigned rest
  let rest ← readLineEnd rest
  return (name.map (·, value), rest)

/-- The assignments of a text, in their order. -/
def assignments (text : List Char) : List (String × Option String) :=
  match text.dropWhile Text.isBlank with
  | [] => []
  | c :: cs =>
    let (found, rest) :=
      match readAssignment (c :: cs) with
      | .ok read => read
      | .error failed => (none, nextLine failed)
    found.toList ++ if rest.length < text.length then assignments rest else []
termination_by text.length

/-! ## Names that stand for values -/

/-- A name between braces, with a value to take if it has none, and the rest. -/
def readReference (text : List Char) : Option ((String × String) × List Char) :=
  let name := text.takeWhile fun c => c != '}' && c != ':'
  match text.dropWhile fun c => c != '}' && c != ':' with
  | '}' :: rest => some ((String.ofList name, ""), rest)
  | ':' :: '-' :: more =>
    match Text.splitFirst '}' more with
    | some (other, rest) => some ((String.ofList name, String.ofList other), rest)
    | none => none
  | _ => none

/-- A value with its references replaced. What a reference stands for is given. -/
def expand (valueOf : String → String → String) (text : List Char) : List Char :=
  match text with
  | [] => []
  | '$' :: '{' :: more =>
    match readReference more with
    | some ((name, other), rest) =>
      (valueOf name other).toList ++ if rest.length < more.length then expand valueOf rest else []
    | none => '$' :: expand valueOf ('{' :: more)
  | c :: rest => c :: expand valueOf rest
termination_by text.length

/-- The names that a text refers to. -/
def references (text : List Char) : List String :=
  match text with
  | [] => []
  | '$' :: '{' :: more => ((readReference more).map (·.1.1)).toList ++ references ('{' :: more)
  | _ :: rest => references rest

/-- What a name stands for: its value in the environment, or else the one assigned before. A name
that is known without a value stands for nothing. -/
def lookUp (environment : Environment) (assigned : Table String (Option String))
    (name other : String) : String :=
  match environment.get? name with
  | some value => value
  | none =>
    match assigned.get? name with
    | some value => value.getD ""
    | none => other

/-- The values that a file assigns. The last assignment of a name stands. -/
def values (environment : Environment) (text : String) : Table String (Option String) :=
  (assignments (Text.withoutByteOrderMark (Text.withLineFeeds text.toList))).foldl (fun assigned entry =>
    let valueOf := lookUp environment assigned
    assigned.insert entry.1 (entry.2.map fun value =>
      String.ofList (expand valueOf value.toList))) ∅

end EnvFile

/-- Why an environment cannot hold a value under a name. -/
inductive IllegalEntry where
  /-- The name or the value holds the character that ends texts in an environment. -/
  | endMark
  /-- The name has an equals sign. -/
  | equalsSign
  deriving DecidableEq, Repr

/-- The text that reports an illegal entry. -/
def IllegalEntry.message : IllegalEntry → String
  | .endMark => "embedded null byte"
  | .equalsSign => "illegal environment variable name"

namespace Environment

/-- A text holds the character that ends texts in an environment. -/
def hasEndMark (text : String) : Bool := text.toList.contains (Char.ofNat 0)

/-- The environment with a value under a name that it does not have. -/
def supply (environment : Environment) (name value : String) : Except IllegalEntry Environment :=
  if environment.contains name then .ok environment
  else if hasEndMark name || hasEndMark value then .error .endMark
  else if name.toList.contains '=' then .error .equalsSign
  else .ok (environment.insert name value)

/-- The variable that disables settings files. -/
def disablingVariable : String := "PYTHON_DOTENV_DISABLED"

/-- The texts that disable settings files. -/
def disablingTexts : List String := ["1", "true", "t", "yes", "y"]

/-- A letter in the form in which it is compared: small, and the long s as an s. -/
def foldedChar (c : Char) : Char := if c == 'ſ' then 's' else c.toLower

/-- The environment says that settings files are disabled. -/
def disablesFiles (environment : Environment) : Bool :=
  match environment.get? disablingVariable with
  | none => false
  | some text => disablingTexts.contains (String.ofList (text.toList.map foldedChar))

/-- The environment extended by the values of a file. -/
def extend (environment : Environment) (text : String) : Except IllegalEntry Environment :=
  if environment.disablesFiles then .ok environment
  else
    (EnvFile.values environment text).entries.foldlM (fun extended entry =>
      match entry.2 with
      | none => .ok extended
      | some value => extended.supply entry.1 value) environment

end Environment

end Evacuation
