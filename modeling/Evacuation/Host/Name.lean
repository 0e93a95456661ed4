import Evacuation.Host.Preparation
import Evacuation.Host.Punycode
/-!
# Host names in plain characters

A host name is a sequence of labels between dots. Only plain characters can be sent, so a label that
holds others is prepared and, if that does not make it plain, written in Latin letters and digits
after a mark. No label may have more than 63 characters, and only the last one may be empty.
-/
namespace Evacuation.Host

/-- Why a host name has no plain form. -/
inductive NameError where
  /-- The last label of a plain name is too long. -/
  | tooLong
  /-- A label is too long or empty. -/
  | emptyOrTooLong
  /-- A label that is not plain begins with the mark of those that were written plainly. -/
  | marked
  | unprepared (cause : Unprepared)
  deriving DecidableEq, Repr

/-- What is wrong with a host name. -/
def NameError.report : NameError → String
  | .tooLong => "label too long"
  | .emptyOrTooLong => "label empty or too long"
  | .marked => "Label starts with ACE prefix"
  | .unprepared cause => cause.message

/-- The text that reports a host name without a plain form. -/
def NameError.message (error : NameError) : String :=
  s!"encoding with 'idna' codec failed (UnicodeError: {error.report})"

/-- The most characters of a label. -/
def mostInLabel : Nat := 63

/-- A label with its number of characters in range. -/
def sized (label : List Char) : Except NameError (List Char) :=
  if label.isEmpty || mostInLabel < label.length then .error .emptyOrTooLong else .ok label

/-- The mark of labels that were written plainly. -/
def plainMark : List Char := ['x', 'n', '-', '-']

/-- A text of plain characters. -/
def isPlainText (text : List Char) : Bool := text.all Punycode.isPlain

/-- A label in plain characters. -/
def plainLabel (label : List Char) : Except NameError (List Char) := do
  if isPlainText label then sized label
  else
    let prepared ← (prepare label).mapError .unprepared
    if isPlainText prepared then sized prepared
    else if (Text.dropStart? plainMark prepared).isSome then .error .marked
    else sized (plainMark ++ Punycode.encode prepared)

/-- A dot between labels. -/
def isDot (c : Char) : Bool := c == '.' || c == '。' || c == '．' || c == '｡'

/-- The labels of a plain name have their numbers of characters in range. -/
def checkLabels : List (List Char) → Except NameError Unit
  | [] => .ok ()
  | [last] => if mostInLabel < last.length then .error .tooLong else .ok ()
  | label :: rest => do
    let _ ← sized label
    checkLabels rest

/-- Labels in plain characters, put together again. The last one may be empty. -/
def joinPlain : List (List Char) → Except NameError (List Char)
  | [] | [[]] => .ok []
  | [last] => plainLabel last
  | label :: rest => do
    let first ← plainLabel label
    return first ++ '.' :: (← joinPlain rest)

/-- A host name in plain characters. -/
def plainName (name : List Char) : Except NameError (List Char) := do
  if isPlainText name then
    checkLabels (Text.splitAll '.' name)
    return name
  else joinPlain (Text.splitAll '.' (name.map fun c => if isDot c then '.' else c))

end Evacuation.Host
