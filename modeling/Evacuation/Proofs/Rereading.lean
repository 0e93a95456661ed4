import Mathlib.Data.List.DropRight
import Evacuation.ListenAddress
import Evacuation.Proofs.Decimal.Integer
import Evacuation.Proofs.KeyValue
/-!
# What is written is read again

Labels, annotation markers, conditions and listen addresses can be written as texts. Whatever text one
of them was read from, what is written of it is read as the same again, and for labels this holds of a
whole list, in its order (`rereads_written`). The text that is written need not be the one that was
read: blanks are gone, a state that was left out is there, a port stands in Latin digits. It is read
again because what was read is in the form that reading leaves alone: keys are not empty, hold no
equals sign and have no blanks around them (`IsKey`), and a host has no brackets around it
(`ListenAddress.Settled`). An address is read from a text exactly if it states it
(`ListenAddress.read_iff`).
-/
namespace Evacuation

/-! ## Keys and values -/

/-- A key names itself. -/
theorem IsKey.named {key : String} (isKey : IsKey key) : Named key key none := by
  have bare := Named.bare isKey.plain
  rwa [Text.strip_eq_self isKey.trimmed, String.ofList_toList] at bare

/-- A key and a value are named by what is written of them. -/
theorem IsKey.named_append {key value : String} (isKey : IsKey key)
    (trimmed : Text.Trimmed value.toList) : Named (key ++ "=" ++ value) key (some value) := by
  have written : String.ofList (key.toList ++ '=' :: value.toList) = key ++ "=" ++ value := by
    apply String.toList_inj.mp
    simp
  have valued := @Named.valued _ value.toList isKey.plain
  rwa [Text.strip_eq_self isKey.trimmed, Text.strip_eq_self trimmed, written, String.ofList_toList,
    String.ofList_toList] at valued

/-- A label that was read is read again from what is written of it. -/
theorem KeyValue.read_render {text : String} {pair : KeyValue} (ok : read text = .ok pair) :
    read pair.render = .ok pair ∧ IsKey pair.key := by
  obtain ⟨named, filled⟩ := read_iff.mp ok
  have isKey := named.isKey filled
  exact ⟨read_iff.mpr ⟨isKey.named_append named.trimmed, filled⟩, isKey⟩

namespace AnnotationMarker

/-- A key alone is read as the marker of any value. -/
theorem read_key {key : String} (isKey : IsKey key) : read key = .ok ⟨key, none⟩ :=
  read_iff.mpr ⟨isKey.named, isKey.filled⟩

/-- A key with a value is read as the marker of that value. -/
theorem read_append {key value : String} (isKey : IsKey key) (trimmed : Text.Trimmed value.toList) :
    read (key ++ "=" ++ value) = .ok ⟨key, some value⟩ :=
  read_iff.mpr ⟨isKey.named_append trimmed, isKey.filled⟩

/-- A marker that was read is read again from what is written of it. -/
theorem read_render {text : String} {marker : AnnotationMarker} (ok : read text = .ok marker) :
    read marker.render = .ok marker ∧ IsKey marker.key := by
  obtain ⟨named, filled⟩ := read_iff.mp ok
  have isKey := named.isKey filled
  refine ⟨?_, isKey⟩
  obtain ⟨key, _ | value⟩ := marker
  · exact read_key isKey
  · exact read_append isKey named.trimmed

/-- A key with nothing after an equals sign is read as the marker of the empty value. -/
theorem read_empty {key : String} (isKey : IsKey key) : read (key ++ "=") = .ok ⟨key, some ""⟩ := by
  have empty : Text.Trimmed "".toList := ⟨nofun, nofun⟩
  have read := read_append isKey empty
  rwa [String.append_empty] at read

end AnnotationMarker

/-- A condition that was read is read again from what is written of it. -/
theorem ConditionSpec.read_render {text : String} {spec : ConditionSpec} (ok : read text = .ok spec) :
    read spec.render = .ok spec ∧ IsKey spec.type := by
  obtain ⟨isKey, stated, trimmed⟩ := of_read ok
  exact ⟨read_iff.mpr ⟨.stated (isKey.named_append trimmed), isKey.filled, stated⟩, isKey⟩

/-! ## Lists of labels -/

namespace Table

variable {κ α : Type} [DecidableEq κ]

/-- A key that is not there is written at the end. -/
theorem write_of_not_mem {key : κ} {entries : List (κ × α)} (absent : key ∉ entries.map (·.1))
    (value : α) : write key value entries = entries ++ [(key, value)] := by
  induction entries with
  | nil => rfl
  | cons entry rest ih =>
    rw [List.map_cons, List.mem_cons, not_or] at absent
    obtain ⟨other, absent⟩ := absent
    rw [write, if_neg (Ne.symm other), ih absent, List.cons_append]

/-- A table without repeated keys is what becomes of its entries, written one after another. -/
theorem Proper.ofList_entries {table : Table κ α} (proper : table.Proper) :
    ofList table.entries = table := by
  obtain ⟨entries⟩ := table
  induction entries using List.reverseRecOn with
  | nil => rfl
  | append_singleton entries entry ih =>
    simp only [Proper, keys, List.map_append, List.map_cons, List.map_nil] at proper ih
    obtain ⟨earlier, -, apart⟩ := List.nodup_append.mp proper
    have absent : entry.1 ∉ entries.map (·.1) := fun listed =>
      apart _ listed _ (List.mem_singleton_self _) rfl
    have before := ih earlier
    simp only [ofList, List.foldl_append, List.foldl_cons, List.foldl_nil] at before ⊢
    rw [before, Table.insert, write_of_not_mem absent]

end Table

namespace KeyValue

/-- An entry of a table of labels as a label. -/
def ofEntry (entry : String × String) : KeyValue := ⟨entry.1, entry.2⟩

/-- What stands in labels that were read is read from one of the texts. -/
theorem exists_read_of_get? {texts : List String} {labels : Table String String}
    (ok : readLabels texts = .ok labels) {key value : String} (found : labels.get? key = some value) :
    ∃ text ∈ texts, read text = .ok ⟨key, value⟩ := by
  induction texts using List.reverseRecOn generalizing labels with
  | nil =>
    cases ok
    cases found
  | append_singleton texts text ih =>
    obtain ⟨earlier, pair, earlierRead, pairRead, rfl⟩ := readLabels_concat ok
    rw [Table.get?_insert] at found
    split at found
    · rename_i same
      cases found
      subst same
      exact ⟨text, by simp, pairRead⟩
    · obtain ⟨source, listed, sourceRead⟩ := ih earlierRead found
      exact ⟨source, List.mem_append_left _ listed, sourceRead⟩

/-- Labels that were read are read again, in their order, from what is written of them. -/
theorem readLabels_render {texts : List String} {labels : Table String String}
    (ok : readLabels texts = .ok labels) :
    readLabels (labels.entries.map fun entry => (ofEntry entry).render) = .ok labels ∧
      ∀ key ∈ labels.keys, IsKey key := by
  have proper := proper_readLabels ok
  have readable : ∀ pair ∈ labels.entries.map ofEntry,
      read pair.render = .ok pair ∧ IsKey pair.key := by
    intro pair listed
    obtain ⟨entry, there, rfl⟩ := List.mem_map.mp listed
    obtain ⟨text, -, textRead⟩ := exists_read_of_get? ok (proper.get?_of_mem there)
    exact read_render textRead
  have pairs : (labels.entries.map fun entry => (ofEntry entry).render).mapM read =
      .ok (labels.entries.map ofEntry) := by
    have together := mapM_map_of_forall fun pair listed => (readable pair listed).1
    rwa [List.map_map] at together
  have again : KeyValue.labels (labels.entries.map ofEntry) = labels := by
    rw [KeyValue.labels, List.foldl_map]
    exact proper.ofList_entries
  constructor
  · rw [readLabels, pairs, Except.map, again]
  · intro key listed
    obtain ⟨entry, there, rfl⟩ := List.mem_map.mp listed
    exact (readable _ (List.mem_map_of_mem there)).2

end KeyValue

/-! ## Listen addresses -/

namespace ListenAddress

/-- An address as it is read: the host is not empty and has no brackets around it, and the port is a
number that is not too long to be read. -/
structure Settled (address : ListenAddress) : Prop where
  filled : address.host ≠ ""
  bare : unbracketed address.host.toList = address.host.toList
  port : ∃ number : Nat, address.port = number ∧ number < Decimal.power 10 Decimal.mostDigits

/-- Brackets are taken away all at once. -/
theorem unbracketed_idem (host : List Char) : unbracketed (unbracketed host) = unbracketed host := by
  have twice (part : List Char) :
      unbracketed part = (part.dropWhile isBracket).rdropWhile isBracket := rfl
  have front : (unbracketed host).dropWhile isBracket = unbracketed host := by
    refine List.dropWhile_eq_self_iff.mpr fun filled => ?_
    have kept : unbracketed host <+: host.dropWhile isBracket := List.rdropWhile_prefix isBracket _
    have first := List.dropWhile_eq_self_iff.mp (List.dropWhile_idempotent isBracket host)
    rw [kept.getElem filled]
    exact first _
  rw [twice (unbracketed host), front, twice host, List.rdropWhile_idempotent]

/-- The host that is named before a colon; none stands for all interfaces. -/
def hostOf (named : List Char) : String :=
  match unbracketed named with
  | [] => anyHost
  | name => String.ofList name

theorem hostOf_ne_empty (named : List Char) : hostOf named ≠ "" := by
  unfold hostOf
  split
  · decide
  · rename_i name given
    exact ofList_ne_empty given

/-- A host that is named has no brackets around it. -/
theorem unbracketed_hostOf (named : List Char) :
    unbracketed (hostOf named).toList = (hostOf named).toList := by
  unfold hostOf
  split
  · decide
  · rw [String.toList_ofList, unbracketed_idem]

/-- A host without brackets around it names itself. -/
theorem hostOf_toList {host : String} (filled : host ≠ "")
    (bare : unbracketed host.toList = host.toList) : hostOf host.toList = host := by
  unfold hostOf
  split
  · rename_i nothing
    rw [bare, String.toList_eq_nil_iff] at nothing
    exact absurd nothing filled
  · rw [bare, String.ofList_toList]

/-- The text states an address: a host is named before the last colon, and the port stands after it in
digits. -/
structure Stated (text : String) (address : ListenAddress) (named port : List Char) : Prop where
  whole : text.toList = named ++ ':' :: port
  filled : port ≠ []
  digits : ∀ c ∈ port, Text.isDigit c = true
  number : Decimal.readInteger (String.ofList port) = .ok address.port
  host : address.host = hostOf named

/-- What is not a digit does not stand in the port. -/
theorem Stated.not_mem {text : String} {address : ListenAddress} {named port : List Char} {c : Char}
    (stated : Stated text address named port) (other : Text.isDigit c = false) : c ∉ port := by
  intro there
  rw [stated.digits c there] at other
  cases other

/-- What a text with a colon is read as. -/
theorem read_of_splitLast {text : String} {named port : List Char}
    (parts : Text.splitLast ':' text.toList = some (named, port)) :
    read text = if port.isEmpty || !port.all Text.isDigit then .error (.listenAddress text)
      else (Decimal.readInteger (String.ofList port)).map fun number => ⟨hostOf named, number⟩ := by
  rw [read, parts]
  dsimp only
  congr 2
  funext number
  unfold hostOf
  cases unbracketed named <;> rfl

/-- An address is read from a text that states it. -/
theorem read_iff {text : String} {address : ListenAddress} :
    read text = .ok address ↔ ∃ named port, Stated text address named port := by
  constructor
  · intro ok
    cases parts : Text.splitLast ':' text.toList with
    | none =>
      rw [read, parts] at ok
      cases ok
    | some parted =>
      obtain ⟨named, port⟩ := parted
      rw [read_of_splitLast parts] at ok
      split at ok
      · cases ok
      · rename_i digits
        rw [Bool.not_eq_true, Bool.or_eq_false_iff, Bool.not_eq_false', List.all_eq_true,
          List.isEmpty_eq_false_iff] at digits
        cases number : Decimal.readInteger (String.ofList port) with
        | error cause =>
          rw [number] at ok
          cases ok
        | ok value =>
          rw [number] at ok
          cases ok
          exact ⟨named, port, (Text.eq_of_splitLast parts).1, digits.1, digits.2, number, rfl⟩
  · rintro ⟨named, port, stated⟩
    have parts : Text.splitLast ':' text.toList = some (named, port) := by
      rw [stated.whole]
      exact Text.splitLast_append (stated.not_mem (by decide)) named
    have digits : (port.isEmpty || !port.all Text.isDigit) = false := by
      rw [List.isEmpty_eq_false_iff.mpr stated.filled, List.all_eq_true.mpr stated.digits]
      rfl
    rw [read_of_splitLast parts, digits, stated.number, Except.map, ← stated.host]
    rfl

/-- An address that was read is settled. -/
theorem settled_of_read {text : String} {address : ListenAddress} (ok : read text = .ok address) :
    address.Settled := by
  obtain ⟨named, port, stated⟩ := read_iff.mp ok
  have unsigned : '-' ∉ (String.ofList port).toList := by
    rw [String.toList_ofList]
    exact stated.not_mem (by decide)
  refine ⟨?_, ?_, Decimal.exists_nat_of_readInteger stated.number unsigned⟩
  · rw [stated.host]
    exact hostOf_ne_empty named
  · rw [stated.host]
    exact unbracketed_hostOf named

/-- A settled address is read from what is written of it. -/
theorem Settled.read_render {address : ListenAddress} (settled : address.Settled) :
    read address.render = .ok address := by
  obtain ⟨host, port⟩ := address
  obtain ⟨filled, bare, number, rfl, short⟩ := settled
  have spelled : number.repr.toList = Text.digitsOf number := Nat.toList_repr
  refine read_iff.mpr ⟨host.toList, Text.digitsOf number, ?_, Nat.toDigits_ne_nil, ?_, ?_, ?_⟩
  · have appended : render ⟨host, number⟩ = host ++ ":" ++ number.repr := rfl
    rw [appended, String.toList_append, String.toList_append, spelled]
    simp
  · intro c written
    exact Text.isDigit_of_isDecimal (Text.isDecimal_of_isDigit (Text.isDigit_of_mem_digitsOf written))
  · rw [← spelled, String.ofList_toList]
    exact Decimal.readInteger_repr short
  · exact (hostOf_toList filled bare).symm

end ListenAddress

/-- What was read from any text is read again from what is written of it: a label, an annotation
marker, a condition, a listen address, and a list of labels in its order. Keys and types are not empty,
hold no equals sign and have no blanks around them, a host is not empty, and a marker of any value is
kept apart from one of the empty value. -/
theorem rereads_written :
    (∀ text pair, KeyValue.read text = .ok pair →
      KeyValue.read pair.render = .ok pair ∧ IsKey pair.key) ∧
    (∀ text marker, AnnotationMarker.read text = .ok marker →
      AnnotationMarker.read marker.render = .ok marker ∧ IsKey marker.key ∧
        AnnotationMarker.read marker.key = .ok ⟨marker.key, none⟩ ∧
        AnnotationMarker.read (marker.key ++ "=") = .ok ⟨marker.key, some ""⟩) ∧
    (∀ text spec, ConditionSpec.read text = .ok spec →
      ConditionSpec.read spec.render = .ok spec ∧ IsKey spec.type) ∧
    (∀ text address, ListenAddress.read text = .ok address →
      ListenAddress.read address.render = .ok address ∧ address.host ≠ "") ∧
    (∀ texts labels, KeyValue.readLabels texts = .ok labels →
      KeyValue.readLabels (labels.entries.map fun entry => (KeyValue.ofEntry entry).render) =
          .ok labels ∧
        ∀ key ∈ labels.keys, IsKey key) := by
  refine ⟨fun _ _ ok => KeyValue.read_render ok, ?_, fun _ _ ok => ConditionSpec.read_render ok, ?_,
    fun _ _ ok => KeyValue.readLabels_render ok⟩
  · intro text marker ok
    obtain ⟨again, isKey⟩ := AnnotationMarker.read_render ok
    exact ⟨again, isKey, AnnotationMarker.read_key isKey, AnnotationMarker.read_empty isKey⟩
  · intro text address ok
    have settled := ListenAddress.settled_of_read ok
    exact ⟨settled.read_render, settled.filled⟩

/-- A value with an equals sign, a marker with an empty value, a condition without a state, an address
in brackets with a port in Arabic digits, and a label that is given twice. -/
theorem rereads_written_crooked :
    (KeyValue.read " pool = a=b " = .ok ⟨"pool", "a=b"⟩ ∧
      KeyValue.read "pool=a=b" = .ok ⟨"pool", "a=b"⟩) ∧
    (AnnotationMarker.read "keep =" = .ok ⟨"keep", some ""⟩ ∧
      AnnotationMarker.read "keep=" = .ok ⟨"keep", some ""⟩ ∧
      AnnotationMarker.read "keep" = .ok ⟨"keep", none⟩) ∧
    (ConditionSpec.read " Lost " = .ok ⟨"Lost", "True"⟩ ∧
      ConditionSpec.read "Lost=True" = .ok ⟨"Lost", "True"⟩) ∧
    (ListenAddress.read "[::1]:٨٠" = .ok ⟨"::1", 80⟩ ∧
      ListenAddress.read "::1:80" = .ok ⟨"::1", 80⟩) ∧
    (KeyValue.readLabels ["a=1", "b=2", " a = 3"] = .ok ⟨[("a", "3"), ("b", "2")]⟩ ∧
      KeyValue.readLabels ["a=3", "b=2"] = .ok ⟨[("a", "3"), ("b", "2")]⟩) := by
  obtain ⟨pairs, markers, conditions, addresses, labels⟩ := rereads_written
  have pair : KeyValue.read " pool = a=b " = .ok ⟨"pool", "a=b"⟩ := by decide +kernel
  have marker : AnnotationMarker.read "keep =" = .ok ⟨"keep", some ""⟩ := by decide +kernel
  have condition : ConditionSpec.read " Lost " = .ok ⟨"Lost", "True"⟩ := by decide +kernel
  have address : ListenAddress.read "[::1]:٨٠" = .ok ⟨"::1", 80⟩ := by decide +kernel
  have label : KeyValue.readLabels ["a=1", "b=2", " a = 3"] =
      .ok ⟨[("a", "3"), ("b", "2")]⟩ := by decide +kernel
  obtain ⟨markerAgain, -, unvalued, -⟩ := markers _ _ marker
  exact ⟨⟨pair, (pairs _ _ pair).1⟩, ⟨marker, markerAgain, unvalued⟩,
    ⟨condition, (conditions _ _ condition).1⟩, ⟨address, (addresses _ _ address).1⟩,
    ⟨label, (labels _ _ label).1⟩⟩

end Evacuation
