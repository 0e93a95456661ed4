/-!
# Tables

A table holds one value per key and remembers the order in which its keys first came. Writing a
key that is there replaces the value and keeps the key's place; erasing a key and writing it again
moves it to the end. The view of a table is the lookup `get?`, and each operation has one equation
through it.
-/
namespace Evacuation

/-- Values by key, in the order in which the keys first came. -/
structure Table (κ α : Type) where
  entries : List (κ × α) := []
  deriving DecidableEq, Repr

namespace Table

variable {κ α : Type} [DecidableEq κ]

instance : EmptyCollection (Table κ α) := ⟨⟨[]⟩⟩
instance : Inhabited (Table κ α) := ⟨⟨[]⟩⟩

/-- The value under a key, in a list of entries. -/
def lookup (key : κ) : List (κ × α) → Option α
  | [] => none
  | entry :: rest => if entry.1 = key then some entry.2 else lookup key rest

/-- A list of entries with a value written under a key. -/
def write (key : κ) (value : α) : List (κ × α) → List (κ × α)
  | [] => [(key, value)]
  | entry :: rest =>
    if entry.1 = key then (key, value) :: rest else entry :: write key value rest

/-- A list of entries without a key. -/
def remove (key : κ) : List (κ × α) → List (κ × α)
  | [] => []
  | entry :: rest => if entry.1 = key then remove key rest else entry :: remove key rest

/-- The value under a key. -/
def get? (table : Table κ α) (key : κ) : Option α := lookup key table.entries

/-- The table with a value written under a key. -/
def insert (table : Table κ α) (key : κ) (value : α) : Table κ α :=
  ⟨write key value table.entries⟩

/-- The table without a key. -/
def erase (table : Table κ α) (key : κ) : Table κ α := ⟨remove key table.entries⟩

/-- The table that holds a key. -/
def contains (table : Table κ α) (key : κ) : Bool := (table.get? key).isSome

/-- The keys, in the order in which they first came. -/
def keys (table : Table κ α) : List κ := table.entries.map (·.1)

/-- The values, in the order of their keys. -/
def values (table : Table κ α) : List α := table.entries.map (·.2)

/-- The pairs of a list written one after another. -/
def ofList (pairs : List (κ × α)) : Table κ α :=
  pairs.foldl (fun table pair => table.insert pair.1 pair.2) ∅

@[simp] theorem get?_empty (key : κ) : (∅ : Table κ α).get? key = none := rfl

/-- A lookup finds what was written last under its key. -/
@[simp, grind =] theorem get?_insert (table : Table κ α) (key other : κ) (value : α) :
    (table.insert key value).get? other = if key = other then some value else table.get? other := by
  obtain ⟨entries⟩ := table
  simp only [get?, insert]
  induction entries with
  | nil => simp [write, lookup]
  | cons entry rest ih => grind [write, lookup]

/-- An erased key is not found, and no other key is lost. -/
@[simp, grind =] theorem get?_erase (table : Table κ α) (key other : κ) :
    (table.erase key).get? other = if key = other then none else table.get? other := by
  obtain ⟨entries⟩ := table
  simp only [get?, erase]
  induction entries with
  | nil => simp [remove, lookup]
  | cons entry rest ih => grind [remove, lookup]

/-- A table holds exactly the keys under which something is found. -/
theorem contains_iff {table : Table κ α} {key : κ} :
    table.contains key = true ↔ ∃ value, table.get? key = some value := Option.isSome_iff_exists

/-- What is found under a key is an entry. -/
theorem mem_entries_of_get? {table : Table κ α} {key : κ} {value : α}
    (found : table.get? key = some value) : (key, value) ∈ table.entries := by
  obtain ⟨entries⟩ := table
  simp only [get?] at found
  induction entries with
  | nil => cases found
  | cons entry rest ih =>
    simp only [lookup] at found
    split at found
    · rename_i same
      cases same
      cases found
      exact List.mem_cons_self
    · exact List.mem_cons_of_mem _ (ih found)

/-- A key that is listed is found. -/
theorem contains_of_mem_keys {table : Table κ α} {key : κ} (listed : key ∈ table.keys) :
    table.contains key = true := by
  obtain ⟨entries⟩ := table
  simp only [keys, contains, get?] at listed ⊢
  induction entries with
  | nil => cases listed
  | cons entry rest ih =>
    simp only [lookup]
    split
    · rfl
    · rename_i other
      obtain same | listed := List.mem_cons.mp listed
      · exact absurd same.symm other
      · exact ih listed

theorem mem_keys_iff {table : Table κ α} {key : κ} :
    key ∈ table.keys ↔ ∃ value, table.get? key = some value := by
  constructor
  · exact fun listed => contains_iff.mp (contains_of_mem_keys listed)
  · rintro ⟨value, found⟩
    exact List.mem_map.mpr ⟨_, mem_entries_of_get? found, rfl⟩

/-- What is found after an erasure was there before. -/
theorem get?_of_erase {table : Table κ α} {key other : κ} {value : α}
    (found : (table.erase key).get? other = some value) : table.get? other = some value := by
  rw [get?_erase] at found
  split at found
  · cases found
  · exact found

/-- Erasing keys one after another erases all of them and no other. -/
theorem get?_foldl_erase (keys : List κ) (table : Table κ α) (key : κ) :
    (keys.foldl erase table).get? key = if key ∈ keys then none else table.get? key := by
  induction keys generalizing table with
  | nil => simp
  | cons first rest ih =>
    rw [List.foldl_cons, ih, get?_erase]
    grind

/-! ## Tables without repeated keys -/

/-- Every key is listed once. -/
def Proper (table : Table κ α) : Prop := table.keys.Nodup

omit [DecidableEq κ] in
theorem proper_empty : (∅ : Table κ α).Proper := List.nodup_nil

/-- Writing into a table without repeated keys repeats none. -/
theorem Proper.insert {table : Table κ α} (proper : table.Proper) (key : κ) (value : α) :
    (table.insert key value).Proper := by
  have keys_write (entries : List (κ × α)) : (write key value entries).map (·.1) =
      if key ∈ entries.map (·.1) then entries.map (·.1) else entries.map (·.1) ++ [key] := by
    induction entries with
    | nil => rfl
    | cons entry rest ih => grind [write]
  simp only [Proper, keys, Table.insert, keys_write] at proper ⊢
  split
  · exact proper
  · rename_i unlisted
    refine List.nodup_append.mpr ⟨proper, by simp, ?_⟩
    intro listed there added same together
    obtain rfl := List.mem_singleton.mp same
    exact unlisted (together ▸ there)

/-- Erasing from a table without repeated keys repeats none. -/
theorem Proper.erase {table : Table κ α} (proper : table.Proper) (key : κ) :
    (table.erase key).Proper := by
  have keys_remove (entries : List (κ × α)) :
      ((remove key entries).map (·.1)).Sublist (entries.map (·.1)) := by
    induction entries with
    | nil => exact .refl _
    | cons entry rest ih =>
      simp only [remove]
      split
      · exact .cons _ ih
      · exact .cons_cons _ ih
  exact (keys_remove table.entries).nodup proper

theorem Proper.foldl_erase {table : Table κ α} (proper : table.Proper) (keys : List κ) :
    (keys.foldl Table.erase table).Proper := by
  induction keys generalizing table with
  | nil => exact proper
  | cons first rest ih => exact ih (proper.erase first)

/-- Where keys are listed once, every entry is found. -/
theorem Proper.get?_of_mem {table : Table κ α} (proper : table.Proper) {key : κ} {value : α}
    (listed : (key, value) ∈ table.entries) : table.get? key = some value := by
  obtain ⟨entries⟩ := table
  simp only [Proper, keys, get?] at proper listed ⊢
  induction entries with
  | nil => cases listed
  | cons entry rest ih =>
    obtain ⟨unlisted, proper⟩ := List.nodup_cons.mp proper
    obtain rfl | listed := List.mem_cons.mp listed
    · simp [lookup]
    · have other : entry.1 ≠ key := by
        rintro rfl
        exact unlisted (List.mem_map.mpr ⟨_, listed, rfl⟩)
      simp only [lookup, if_neg other]
      exact ih proper listed

/-- Where keys are listed once, the values are what is found under the keys. -/
theorem Proper.mem_values_iff {table : Table κ α} (proper : table.Proper) {value : α} :
    value ∈ table.values ↔ ∃ key, table.get? key = some value := by
  constructor
  · intro listed
    obtain ⟨⟨key, _⟩, entered, rfl⟩ := List.mem_map.mp listed
    exact ⟨key, proper.get?_of_mem entered⟩
  · rintro ⟨key, found⟩
    exact List.mem_map.mpr ⟨_, mem_entries_of_get? found, rfl⟩

end Table

end Evacuation
