import Evacuation.Document.Json
import Evacuation.Text.Base64
import Evacuation.Text.Repertoire
import Evacuation.Text.Utf8
import Evacuation.Time.Scale
import Evacuation.Yaml.Problem
/-!
# Why the cluster cannot be found

An access file may be missing, it may lack what is looked for, or it may hold something else than
what is looked for. The first two are wrong settings, which the program reports as such
(`isReported`); the others end it.
-/
namespace Evacuation.Access

/-- A value is used in a way that its kind does not allow. -/
inductive Misuse where
  /-- Nothing can be put into it. -/
  | noAssignment (kind : String)
  /-- It has no items. -/
  | noItems (kind : String)
  /-- Nothing can be looked for in it. -/
  | noMembers (kind : String)
  /-- Nothing can be taken out of it. -/
  | noSubscript (kind : String)
  /-- A list has no keys. -/
  | listKey
  /-- A text has no keys. -/
  | textKey
  /-- A mapping lacks a key. -/
  | noKey (key : String)
  | noAttribute (kind feature : String)
  | noLength (kind : String)
  | noPath (kind : String)
  /-- It stands for no bytes. -/
  | noBytes (kind : String)
  /-- It cannot follow a text. -/
  | noFollower (kind : String)
  /-- A text cannot follow it. -/
  | noSum (kind : String)
  /-- It is no number. -/
  | noNumber (kind : String)
  /-- It is no text that could be searched. -/
  | noText (kind : String)
  /-- A text without words has no first word. -/
  | noWord
  deriving DecidableEq, Repr

/-- The text that reports a misuse. -/
def Misuse.message : Misuse → String
  | .noAssignment kind => s!"'{kind}' object does not support item assignment"
  | .noItems kind => s!"'{kind}' object is not iterable"
  | .noMembers kind => s!"argument of type '{kind}' is not iterable"
  | .noSubscript kind => s!"'{kind}' object is not subscriptable"
  | .listKey => "list indices must be integers or slices, not str"
  | .textKey => "string indices must be integers, not 'str'"
  | .noKey key => Text.quoted key
  | .noAttribute kind feature => s!"'{kind}' object has no attribute '{feature}'"
  | .noLength kind => s!"object of type '{kind}' has no len()"
  | .noPath kind => s!"join() argument must be str, bytes, or os.PathLike object, not '{kind}'"
  | .noBytes kind => s!"argument should be a bytes-like object or ASCII string, not '{kind}'"
  | .noFollower kind => s!"can only concatenate str (not \"{kind}\") to str"
  | .noSum kind => s!"unsupported operand type(s) for +: '{kind}' and 'str'"
  | .noNumber kind => s!"'{kind}' object cannot be interpreted as an integer"
  | .noText kind => s!"expected string or bytes-like object, got '{kind}'"
  | .noWord => "list index out of range"

/-- Why a token that proves an identity cannot be used. -/
inductive TokenError where
  /-- It holds other than plain characters. -/
  | notPlain
  | base64 (cause : Text.Base64.Fault)
  | bytes (cause : Text.Utf8.Fault)
  /-- What it says is no document. -/
  | document (text : String) (cause : Json.Fault)
  /-- A day is written that there is not. -/
  | date (report : String)
  /-- No point in time is written. -/
  | noDate (text : String)
  /-- A point in time is not written in the form that is asked for. -/
  | form (text : String)
  /-- More is written than a point in time in that form. -/
  | formRest (rest : String)
  /-- A point in time lies before the first one of the calendar. -/
  | tooEarly
  | number (cause : Malformed)
  /-- A count of seconds is none that a clock can show. -/
  | time (cause : TimeError)
  /-- The token has expired, and nobody can be asked for another. -/
  | expired
  deriving DecidableEq, Repr

/-- The text that reports a token that cannot be used. -/
def TokenError.message : TokenError → String
  | .notPlain => "string argument should contain only ASCII characters"
  | .base64 cause => cause.message
  | .bytes cause => cause.message
  | .document text cause => cause.message text
  | .date report => report
  | .noDate text => s!"Error in RFC339 Date Formatting {text}"
  | .form text => s!"time data {Text.quoted text} does not match format '%Y-%m-%d %H:%M:%S.%f'"
  | .formRest rest => s!"unconverted data remains: {rest}"
  | .tooEarly => "date value out of range"
  | .number cause => cause.message
  | .time cause => cause.message
  | .expired => "refresh token error, adal library not imported"

end Evacuation.Access

namespace Evacuation

/-- Why the cluster cannot be found. -/
inductive AccessError where
  /-- No access file exists. -/
  | noConfiguration
  | emptyFile (file : String)
  /-- A part of an access file lacks a member. -/
  | missingKey (key place : String)
  /-- A list of an access file lacks an entry. -/
  | missingEntry (name place : String)
  /-- A list of an access file has two entries of one name. -/
  | repeatedEntry (name place : String)
  /-- An entry of a list has no name. -/
  | unnamedEntry (place : String)
  /-- A file that an access file names does not exist. -/
  | missingFile (file : String)
  /-- The command for a token is empty. -/
  | emptyCommand
  /-- A command for a token is given scopes. -/
  | scopedCommand
  /-- A file or command to be opened does not exist. -/
  | notFound (file : String)
  | directory (file : String)
  /-- A path goes on behind something that is no directory. -/
  | blocked (file : String)
  /-- A path holds the character that ends texts. -/
  | endedPath
  /-- An access file is no document. -/
  | unreadable (file : String) (problem : Yaml.Problem)
  | misuse (cause : Access.Misuse)
  | data (cause : Text.Base64.Fault)
  /-- A name or a password has characters that cannot be sent. -/
  | unsendable (cause : Text.Outside)
  | token (cause : Access.TokenError)
  deriving DecidableEq, Repr

namespace AccessError

/-- The program reports the error as wrong settings. -/
def isReported : AccessError → Bool
  | noConfiguration | emptyFile _ | missingKey _ _ | missingEntry _ _ | repeatedEntry _ _
  | unnamedEntry _ | missingFile _ | emptyCommand | scopedCommand | notFound _ => true
  | _ => false

/-- What is wrong with the content of an access file. -/
def invalid (report : String) : String := s!"Invalid kube-config file. {report}"

/-- What is wrong. -/
def report : AccessError → String
  | noConfiguration => invalid "No configuration found."
  | emptyFile file => s!"Invalid kube-config. {file} file is empty"
  | missingKey key place => invalid s!"Expected key {key} in {place}"
  | missingEntry name place => invalid s!"Expected object with name {name} in {place} list"
  | repeatedEntry name place =>
    invalid s!"Expected only one object with name {name} in {place} list"
  | unnamedEntry place => invalid s!"Expected all values in {place} list to have 'name' key"
  | missingFile file => s!"File does not exist: {file}"
  | emptyCommand =>
    "missing access token cmd (cmd-path is an empty string in your kubeconfig file)"
  | scopedCommand => "scopes can only be used when kubectl is using a gcp service account key"
  | notFound file => s!"[Errno 2] No such file or directory: {Text.quoted file}"
  | directory file => s!"[Errno 21] Is a directory: {Text.quoted file}"
  | blocked file => s!"[Errno 20] Not a directory: {Text.quoted file}"
  | endedPath => "embedded null byte"
  | unreadable file problem => problem.message file
  | misuse cause => cause.message
  | data cause => cause.message
  | unsendable cause => cause.message
  | token cause => cause.message

/-- The text that reports why the cluster cannot be found. -/
def message (error : AccessError) : String :=
  match error with
  | notFound _ => s!"Kubernetes config file not found: {error.report}"
  | error =>
    if error.isReported then s!"Error loading Kubernetes config: {error.report}" else error.report

end AccessError

end Evacuation
