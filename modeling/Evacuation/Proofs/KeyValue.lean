import Mathlib.Data.List.Induction
import Evacuation.KeyValue
import Evacuation.Proofs.Lists
/-!
# What is written in a text

A text names a key, and a value if it holds an equals sign: the key ends at the first one, and both
are taken without the blanks around them (`Named`, `IsKey`). Labels, annotation markers and conditions
are read from a text exactly if it names what they need (`KeyValue.read_iff`, `AnnotationMarker.read_iff`,
`ConditionSpec.read_iff`). Of several labels with one key the last one stands
(`KeyValue.get?_readLabels`).
-/
namespace Evacuation

/-- The text names a key, and perhaps a value. -/
inductive Named : String → String → Option String → Prop where
  | bare {text : List Char} (plain : '=' ∉ text) :
      Named (String.ofList text) (String.ofList (Text.strip text)) none
  | valued {key value : List Char} (plain : '=' ∉ key) :
      Named (String.ofList (key ++ '=' :: value)) (String.ofList (Text.strip key))
        (some (String.ofList (Text.strip value)))

theorem keyAndValue_of_plain {text : List Char} (plain : '=' ∉ text) :
    keyAndValue text = (Text.strip text, none) := by
  rw [keyAndValue, Text.splitFirst_eq_none_iff.mpr plain]

theorem keyAndValue_append {key : List Char} (plain : '=' ∉ key) (value : List Char) :
    keyAndValue (key ++ '=' :: value) = (Text.strip key, some (Text.strip value)) := by
  rw [keyAndValue, Text.splitFirst_append plain]

/-- A text names what it is cut into. -/
theorem named_of_cut {text : String} {key : List Char} {value : Option (List Char)}
    (cut : keyAndValue text.toList = (key, value)) :
    Named text (String.ofList key) (value.map String.ofList) := by
  cases split : Text.splitFirst '=' text.toList with
  | none =>
    have plain := Text.splitFirst_eq_none_iff.mp split
    rw [keyAndValue_of_plain plain] at cut
    cases cut
    have bare := Named.bare plain
    rwa [String.ofList_toList] at bare
  | some parts =>
    obtain ⟨whole, plain⟩ := Text.eq_of_splitFirst split
    rw [whole, keyAndValue_append plain] at cut
    cases cut
    have valued := @Named.valued _ parts.2 plain
    rwa [← whole, String.ofList_toList] at valued

/-- A text is cut into what it names. -/
theorem Named.cut {text key : String} {value : Option String} (named : Named text key value) :
    keyAndValue text.toList = (key.toList, value.map String.toList) := by
  obtain plain | plain := named
  · simp only [String.toList_ofList, Option.map_none]
    exact keyAndValue_of_plain plain
  · simp only [String.toList_ofList, Option.map_some]
    exact keyAndValue_append plain _

/-- A text names one key, and one value at most. -/
theorem Named.unique {text key other : String} {value another : Option String}
    (named : Named text key value) (again : Named text other another) :
    key = other ∧ value = another := by
  obtain ⟨keys, values⟩ := Prod.mk.inj (named.cut.symm.trans again.cut)
  have injective : Function.Injective String.toList := fun _ _ same => String.toList_inj.mp same
  exact ⟨injective keys, Option.map_injective injective values⟩

/-- A key as it is read: not empty, without an equals sign, and without blanks around it. -/
structure IsKey (key : String) : Prop where
  filled : key ≠ ""
  plain : '=' ∉ key.toList
  trimmed : Text.Trimmed key.toList

/-- A key that a text names holds no equals sign, and there are no blanks around it. -/
theorem Named.isKey {text key : String} {value : Option String} (named : Named text key value)
    (filled : key ≠ "") : IsKey key := by
  obtain plain | plain := named <;>
  · have kept := mt Text.mem_of_mem_strip plain
    refine ⟨filled, ?_, ?_⟩
    · rwa [String.toList_ofList]
    · rw [String.toList_ofList]
      exact Text.trimmed_strip _

/-- There are no blanks around a value that a text names. -/
theorem Named.trimmed {text key value : String} (named : Named text key (some value)) :
    Text.Trimmed value.toList := by
  cases named
  rw [String.toList_ofList]
  exact Text.trimmed_strip _

theorem exists_toList_eq_cons {text : String} (filled : text ≠ "") :
    ∃ first rest, text.toList = first :: rest :=
  List.exists_cons_of_ne_nil (mt String.toList_eq_nil_iff.mp filled)

theorem ofList_ne_empty {chars : List Char} (filled : chars ≠ []) : String.ofList chars ≠ "" :=
  mt String.ofList_eq_empty_iff.mp filled

/-- A label is read from a text that names a key, which must not be empty, and a value. -/
theorem KeyValue.read_iff {text : String} {pair : KeyValue} :
    read text = .ok pair ↔ Named text pair.key (some pair.value) ∧ pair.key ≠ "" := by
  constructor
  · intro ok
    unfold read at ok
    split at ok
    · cases ok
    · cases ok
    · rename_i key value filled cut
      cases ok
      exact ⟨named_of_cut cut, ofList_ne_empty filled⟩
  · rintro ⟨named, filled⟩
    obtain ⟨first, rest, spelled⟩ := exists_toList_eq_cons filled
    simp only [read, named.cut, spelled, Option.map_some]
    rw [← spelled, String.ofList_toList, String.ofList_toList]

/-- An annotation marker is read from a text that names a key, which must not be empty. -/
theorem AnnotationMarker.read_iff {text : String} {marker : AnnotationMarker} :
    read text = .ok marker ↔ Named text marker.key marker.value ∧ marker.key ≠ "" := by
  constructor
  · intro ok
    unfold read at ok
    split at ok
    · cases ok
    · rename_i key value filled cut
      cases ok
      exact ⟨named_of_cut cut, ofList_ne_empty filled⟩
  · rintro ⟨named, filled⟩
    obtain ⟨first, rest, spelled⟩ := exists_toList_eq_cons filled
    simp only [read, named.cut, spelled]
    rw [← spelled, String.ofList_toList, Option.map_map]
    simp

/-- The condition that a text asks for: its type, and the state that is written or the usual one. -/
inductive ConditionSpec.Asked : String → String → String → Prop where
  | bare {text type : String} (named : Named text type none) : Asked text type "True"
  | stated {text type status : String} (named : Named text type (some status)) :
      Asked text type status

/-- A condition is read from a text that asks for it; neither the type nor the state must be empty. -/
theorem ConditionSpec.read_iff {text : String} {spec : ConditionSpec} :
    read text = .ok spec ↔ Asked text spec.type spec.status ∧ spec.type ≠ "" ∧ spec.status ≠ "" := by
  constructor
  · intro ok
    unfold read at ok
    split at ok
    · cases ok
    · cases ok
    · rename_i type filled cut
      cases ok
      have usual : defaultStatus ≠ "" := by decide
      exact ⟨.bare (named_of_cut cut), ofList_ne_empty filled, usual⟩
    · rename_i type status filled stated cut
      cases ok
      exact ⟨.stated (named_of_cut cut), ofList_ne_empty filled, ofList_ne_empty stated⟩
  · obtain ⟨type, status⟩ := spec
    rintro ⟨named | named, filled, stated⟩
    · obtain ⟨first, rest, spelled⟩ := exists_toList_eq_cons filled
      simp only [read, named.cut, spelled, Option.map_none]
      rw [← spelled, String.ofList_toList]
      rfl
    · obtain ⟨first, rest, spelled⟩ := exists_toList_eq_cons filled
      obtain ⟨initial, others, written⟩ := exists_toList_eq_cons stated
      simp only [read, named.cut, spelled, Option.map_some, written]
      rw [← spelled, ← written, String.ofList_toList, String.ofList_toList]

/-- A text asks for one condition at most. -/
theorem ConditionSpec.Asked.unique {text type other status another : String}
    (asked : Asked text type status) (again : Asked text other another) :
    type = other ∧ status = another := by
  cases asked with
  | bare named =>
    cases again with
    | bare also => exact ⟨(named.unique also).1, rfl⟩
    | stated also => cases (named.unique also).2
  | stated named =>
    cases again with
    | bare also => cases (named.unique also).2
    | stated also =>
      obtain ⟨types, statuses⟩ := named.unique also
      exact ⟨types, Option.some.inj statuses⟩

/-- There are no blanks around the usual state. -/
theorem ConditionSpec.trimmed_defaultStatus : Text.Trimmed defaultStatus.toList := by
  constructor
  · rintro _ ⟨⟩
    rfl
  · rintro _ ⟨⟩
    rfl

/-- A condition that was read has a type and a state, without blanks around them. -/
theorem ConditionSpec.of_read {text : String} {spec : ConditionSpec} (ok : read text = .ok spec) :
    IsKey spec.type ∧ spec.status ≠ "" ∧ Text.Trimmed spec.status.toList := by
  obtain ⟨asked, filled, stated⟩ := read_iff.mp ok
  obtain ⟨type, status⟩ := spec
  cases asked with
  | bare named => exact ⟨named.isKey filled, stated, trimmed_defaultStatus⟩
  | stated named => exact ⟨named.isKey filled, stated, named.trimmed⟩

/-! ## Labels given one by one -/

namespace KeyValue

/-- The value that is given last for a key. -/
def GivenLast (texts : List String) (key value : String) : Prop :=
  ∃ before text after, texts = before ++ text :: after ∧ Named text key (some value) ∧
    ∀ later ∈ after, ∀ other, ¬ Named later key (some other)

theorem not_givenLast_nil {key value : String} : ¬ GivenLast [] key value := by
  rintro ⟨before, text, after, nothing, -⟩
  exact List.append_ne_nil_of_right_ne_nil before (List.cons_ne_nil text after) nothing.symm

/-- What one more text makes of it. -/
theorem givenLast_concat {texts : List String} {text key value : String} :
    GivenLast (texts ++ [text]) key value ↔ Named text key (some value) ∨
      (∀ other, ¬ Named text key (some other)) ∧ GivenLast texts key value := by
  constructor
  · rintro ⟨before, given, after, parts, named, unnamed⟩
    obtain ⟨rfl, rfl, rfl⟩ | ⟨between, rfl, rfl⟩ := concat_eq_append_cons_iff.mp parts
    · exact .inl named
    · refine .inr ⟨unnamed text (List.mem_append_right _ (List.mem_singleton_self text)), ?_⟩
      exact ⟨before, given, between, rfl, named,
        fun later listed => unnamed later (List.mem_append_left _ listed)⟩
  · rintro (named | ⟨unnamed, before, given, after, rfl, named, earlier⟩)
    · exact ⟨texts, text, [], rfl, named, nofun⟩
    · refine ⟨before, given, after ++ [text], by simp, named, fun later listed => ?_⟩
      obtain listed | last := List.mem_append.mp listed
      · exact earlier later listed
      · obtain rfl := List.mem_singleton.mp last
        exact unnamed

/-- Labels are read one after another. -/
theorem readLabels_concat {texts : List String} {text : String} {labels : Table String String}
    (ok : readLabels (texts ++ [text]) = .ok labels) :
    ∃ earlier pair, readLabels texts = .ok earlier ∧ read text = .ok pair ∧
      labels = earlier.insert pair.key pair.value := by
  unfold readLabels at ok ⊢
  rw [List.mapM_append] at ok
  cases before : texts.mapM read with
  | error cause =>
    rw [before] at ok
    cases ok
  | ok pairs =>
    cases last : read text with
    | error cause =>
      simp only [before, List.mapM_cons, last] at ok
      cases ok
    | ok pair =>
      simp only [before, List.mapM_cons, last] at ok
      cases ok
      refine ⟨_, pair, rfl, rfl, ?_⟩
      rw [KeyValue.labels, List.foldl_append]
      rfl

/-- Labels that are read hold no key twice. -/
theorem proper_readLabels {texts : List String} {labels : Table String String}
    (ok : readLabels texts = .ok labels) : labels.Proper := by
  induction texts using List.reverseRecOn generalizing labels with
  | nil =>
    cases ok
    exact Table.proper_empty
  | append_singleton texts text ih =>
    obtain ⟨earlier, pair, read, -, rfl⟩ := readLabels_concat ok
    exact (ih read).insert pair.key pair.value

/-- Labels that are read hold for each key the value that is given last for it. -/
theorem get?_readLabels {texts : List String} {labels : Table String String}
    (ok : readLabels texts = .ok labels) {key value : String} :
    labels.get? key = some value ↔ GivenLast texts key value := by
  induction texts using List.reverseRecOn generalizing labels with
  | nil =>
    cases ok
    exact iff_of_false nofun not_givenLast_nil
  | append_singleton texts text ih =>
    obtain ⟨earlier, pair, earlierRead, pairRead, rfl⟩ := readLabels_concat ok
    obtain ⟨named, -⟩ := read_iff.mp pairRead
    rw [Table.get?_insert, givenLast_concat, ← ih earlierRead]
    by_cases same : pair.key = key
    · subst same
      have only {other : String} : Named text pair.key (some other) ↔ pair.value = other :=
        ⟨fun also => Option.some.inj (named.unique also).2, fun equal => equal ▸ named⟩
      simp [only]
    · have unnamed : ∀ other, ¬ Named text key (some other) := fun other also =>
        same (named.unique also).1
      simp [same, unnamed]

end KeyValue

end Evacuation
