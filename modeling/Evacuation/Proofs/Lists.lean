import Mathlib.Data.List.Forall2
/-!
# Lists

The first member of a list with a property, members of a list with one more at the end, and lists that
go along with each other member by member.
Values that are read from a list go along with it (`forall₂_of_mapM`), so each of them has its source
and each source its value; and if the list is not read, it is because of one of its members.
-/
namespace Evacuation

/-- Some member of a list is the first one with a property, or none has it. -/
theorem exists_first {α : Type} (property : α → Prop) (list : List α) :
    (∀ member ∈ list, ¬ property member) ∨ ∃ before member after,
      list = before ++ member :: after ∧ property member ∧ ∀ other ∈ before, ¬ property other := by
  classical
  cases found : list.find? fun member => decide (property member) with
  | none => exact .inl fun member listed => by simpa using List.find?_eq_none.mp found member listed
  | some member =>
    obtain ⟨holds, before, after, parts, others⟩ := List.find?_eq_some_iff_append.mp found
    exact .inr ⟨before, member, after, parts, of_decide_eq_true holds, fun other listed => by
      simpa using others other listed⟩

/-- Each member of a list has a partner in a list that goes along with it. -/
theorem exists_mem_of_forall₂ {α β : Type} {related : α → β → Prop} {first : List α}
    {second : List β} (along : List.Forall₂ related first second) {member : α}
    (listed : member ∈ first) : ∃ partner ∈ second, related member partner := by
  induction along with
  | nil => cases listed
  | @cons one other _ _ pair _ ih =>
    obtain rfl | later := List.mem_cons.mp listed
    · exact ⟨other, List.mem_cons_self, pair⟩
    · obtain ⟨partner, there, same⟩ := ih later
      exact ⟨partner, List.mem_cons_of_mem _ there, same⟩

/-- A member of a list with one more member at the end is that one, or it stands in the list. -/
theorem concat_eq_append_cons_iff {α : Type} {list before after : List α} {last member : α} :
    list ++ [last] = before ++ member :: after ↔
      (list = before ∧ last = member ∧ after = []) ∨
        ∃ between, list = before ++ member :: between ∧ after = between ++ [last] := by
  constructor
  · intro parts
    obtain rfl | ⟨between, other, rfl⟩ := List.eq_nil_or_concat after
    · obtain ⟨rfl, same⟩ := List.append_inj' parts rfl
      exact .inl ⟨rfl, List.head_eq_of_cons_eq same, rfl⟩
    · rw [List.concat_eq_append, ← List.cons_append, ← List.append_assoc] at parts
      obtain ⟨rfl, same⟩ := List.append_inj' parts rfl
      cases same
      exact .inr ⟨between, rfl, List.concat_eq_append⟩
  · rintro (⟨rfl, rfl, rfl⟩ | ⟨between, rfl, rfl⟩)
    · rfl
    · simp

/-! ## Lists that are read -/

section Reading

variable {ε α β : Type} {read : α → Except ε β} {texts : List α} {values : List β}

/-- What can be read one by one can be read together. -/
theorem mapM_ok_of_forall (each : ∀ text ∈ texts, ∃ value, read text = .ok value) :
    ∃ values, texts.mapM read = .ok values := by
  induction texts with
  | nil => exact ⟨[], rfl⟩
  | cons text texts ih =>
    obtain ⟨⟨first, reads⟩, others⟩ := List.forall_mem_cons.mp each
    obtain ⟨values, read⟩ := ih others
    exact ⟨first :: values, by rw [List.mapM_cons, reads, read]; rfl⟩

/-- Values are read together from what is written of them, if each is read from what is written of it. -/
theorem mapM_map_of_forall {write : β → α} (each : ∀ value ∈ values, read (write value) = .ok value) :
    (values.map write).mapM read = .ok values := by
  induction values with
  | nil => rfl
  | cons value values ih =>
    obtain ⟨first, others⟩ := List.forall_mem_cons.mp each
    rw [List.map_cons, List.mapM_cons, first, ih others]
    rfl

/-- Values that are read together are read one from each text. -/
theorem forall₂_of_mapM (ok : texts.mapM read = .ok values) :
    List.Forall₂ (fun text value => read text = .ok value) texts values := by
  induction texts generalizing values with
  | nil =>
    cases ok
    exact .nil
  | cons text rest ih =>
    rw [List.mapM_cons] at ok
    cases first : read text with
    | error cause =>
      rw [first] at ok
      cases ok
    | ok value =>
      cases others : rest.mapM read with
      | error cause =>
        rw [first, others] at ok
        cases ok
      | ok more =>
        rw [first, others] at ok
        cases ok
        exact .cons first (ih others)

/-- What is not read together has a part that is not read. -/
theorem exists_error_of_mapM {cause : ε} (failed : texts.mapM read = .error cause) :
    ∃ text ∈ texts, read text = .error cause := by
  induction texts with
  | nil => cases failed
  | cons text rest ih =>
    rw [List.mapM_cons] at failed
    cases first : read text with
    | error given =>
      rw [first] at failed
      cases failed
      exact ⟨text, List.mem_cons_self, first⟩
    | ok value =>
      cases others : rest.mapM read with
      | error given =>
        rw [first, others] at failed
        cases failed
        obtain ⟨other, listed, fails⟩ := ih others
        exact ⟨other, List.mem_cons_of_mem _ listed, fails⟩
      | ok more =>
        rw [first, others] at failed
        cases failed

end Reading

end Evacuation
