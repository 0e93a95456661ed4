import Evacuation.Malformed
import Evacuation.Table
import Evacuation.Text.Blank
import Evacuation.Text.Split
/-!
# Keys and values in text

A label is written `KEY=VALUE` and an annotation marker `KEY` or `KEY=VALUE`. The key ends at the
first equals sign, so a value may hold further ones; blanks around either part are dropped. A key
is never empty; a value may be.
-/
namespace Evacuation

/-- The stripped key, and the stripped value if there is an equals sign. -/
def keyAndValue (text : List Char) : List Char × Option (List Char) :=
  match Text.splitFirst '=' text with
  | some (key, value) => (Text.strip key, some (Text.strip value))
  | none => (Text.strip text, none)

/-- A key and a value. -/
structure KeyValue where
  key : String
  value : String
  deriving DecidableEq, Repr

namespace KeyValue

/-- The key and value written in a text; both the equals sign and the key are required. -/
def read (text : String) : Except Malformed KeyValue :=
  match keyAndValue text.toList with
  | ([], _) => .error (.keyValue text)
  | (_, none) => .error (.keyValue text)
  | (key, some value) => .ok ⟨String.ofList key, String.ofList value⟩

/-- A key and a value as written. -/
def render (pair : KeyValue) : String := pair.key ++ "=" ++ pair.value

/-- Labels, given one by one. A key given twice keeps its first place and its last value. -/
def labels (pairs : List KeyValue) : Table String String :=
  pairs.foldl (fun labels pair => labels.insert pair.key pair.value) ∅

/-- The labels written in a list of texts. -/
def readLabels (texts : List String) : Except Malformed (Table String String) :=
  (texts.mapM read).map labels

end KeyValue

/-- An annotation that protects a pod: any value of the key, or one value only. -/
structure AnnotationMarker where
  key : String
  value : Option String
  deriving DecidableEq, Repr

namespace AnnotationMarker

/-- The marker written in a text; the key is required. -/
def read (text : String) : Except Malformed AnnotationMarker :=
  match keyAndValue text.toList with
  | ([], _) => .error (.marker text)
  | (key, value) => .ok ⟨String.ofList key, value.map String.ofList⟩

/-- A marker as written. -/
def render (marker : AnnotationMarker) : String :=
  match marker.value with
  | none => marker.key
  | some value => marker.key ++ "=" ++ value

end AnnotationMarker

/-- A node condition that marks a node as unhealthy. -/
structure ConditionSpec where
  type : String
  status : String
  deriving DecidableEq, Repr

namespace ConditionSpec

/-- The state that counts when none is written. -/
def defaultStatus : String := "True"

/-- The condition written in a text. The state may be left out, but not left empty after an equals
sign. -/
def read (text : String) : Except Malformed ConditionSpec :=
  match keyAndValue text.toList with
  | ([], _) => .error (.condition text)
  | (_, some []) => .error (.condition text)
  | (type, none) => .ok ⟨String.ofList type, defaultStatus⟩
  | (type, some status) => .ok ⟨String.ofList type, String.ofList status⟩

/-- A condition as written. -/
def render (spec : ConditionSpec) : String := spec.type ++ "=" ++ spec.status

end ConditionSpec

end Evacuation
