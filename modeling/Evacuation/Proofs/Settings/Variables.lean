import Evacuation.Settings.Basic
import Mathlib.Data.List.Induction
/-!
# What a variable stands for

The program reads its variables from one environment, into which the settings file was merged
before. The main statement, `get?_environmentOf`, takes the merging apart again: a variable has the
value it has in the environment, or else the value of its last assignment in the file.

`assigned` says what the assignments of a file give a name, without the table that the reader fills.
The assignments are run through from the last to the first, and a reference in a value only sees the
assignments that stand before it.
-/
namespace Evacuation

namespace EnvFile

/-- The assignments that are read in a file, in their order. -/
def assignmentsOf (text : String) : List (String × Option String) :=
  assignments (Text.withoutByteOrderMark (Text.withLineFeeds text.toList))

/-- What some assignments give a name, the last one of them standing first. A reference stands for
its value in the environment, or else for what the assignments before it give. A name that was last
named without a value is found, but has none. -/
def assigned (environment : Environment) :
    List (String × Option String) → String → Option (Option String)
  | [], _ => none
  | (target, written) :: earlier, name =>
    if target = name then
      some (written.map fun value =>
        String.ofList (expand (fun reference other =>
          match environment.get? reference, assigned environment earlier reference with
          | some standing, _ => standing
          | none, some before => before.getD ""
          | none, none => other) value.toList))
    else assigned environment earlier name

/-- The table with one more assignment. -/
def assign (environment : Environment) (table : Table String (Option String))
    (entry : String × Option String) : Table String (Option String) :=
  table.insert entry.1 (entry.2.map fun value =>
    String.ofList (expand (lookUp environment table) value.toList))

theorem values_eq (environment : Environment) (text : String) :
    values environment text = (assignmentsOf text).foldl (assign environment) ∅ := rfl

/-- The table that the reader fills finds for each name what the last assignment gives. -/
theorem get?_foldl_assign (environment : Environment) (entries : List (String × Option String))
    (name : String) :
    (entries.foldl (assign environment) ∅).get? name =
      assigned environment entries.reverse name := by
  -- On the last assignment, because its references see all the others.
  induction entries using List.reverseRecOn generalizing name with
  | nil => rfl
  | append_singleton earlier entry ih =>
    obtain ⟨target, written⟩ := entry
    have references : lookUp environment (earlier.foldl (assign environment) ∅) =
        fun reference other =>
          match environment.get? reference, assigned environment earlier.reverse reference with
          | some standing, _ => standing
          | none, some before => before.getD ""
          | none, none => other := by
      funext reference other
      rw [lookUp, ih]
      cases environment.get? reference <;> cases assigned environment earlier.reverse reference <;>
        rfl
    rw [List.foldl_append, List.reverse_concat, List.foldl_cons, List.foldl_nil, assign,
      Table.get?_insert, references, ih]
    rfl

/-- The table that the reader fills lists no name twice. -/
theorem proper_values (environment : Environment) (text : String) :
    (values environment text).Proper := by
  rw [values_eq]
  induction assignmentsOf text using List.reverseRecOn with
  | nil => exact Table.proper_empty
  | append_singleton earlier entry ih =>
    rw [List.foldl_append]
    exact ih.insert _ _

end EnvFile

namespace Environment

/-- What the last assignment of a settings file gives a variable. There is nothing in a file that
the environment disables. -/
def assigned? (environment : Environment) (file : Option String) (name : String) : Option String :=
  match file with
  | none => none
  | some text =>
    if environment.disablesFiles then none
    else (EnvFile.assigned environment (EnvFile.assignmentsOf text).reverse name).join

/-- The value of a variable: that of the environment, or else that of the settings file. -/
def standing? (environment : Environment) (file : Option String) (name : String) : Option String :=
  (environment.get? name).or (environment.assigned? file name)

/-- A value that is supplied is found unless there was one before, and nothing else changes. -/
theorem get?_supply {environment supplied : Environment} {target value : String}
    (ok : environment.supply target value = .ok supplied) (name : String) :
    supplied.get? name =
      (environment.get? name).or (if target = name then some value else none) := by
  unfold supply at ok
  split at ok
  case isTrue present =>
    cases ok
    obtain ⟨standing, found⟩ := Table.contains_iff.mp present
    split
    case isTrue same =>
      subst same
      rw [found]
      rfl
    case isFalse => rw [Option.or_none]
  case isFalse absent =>
    split at ok
    · cases ok
    split at ok
    · cases ok
    cases ok
    rw [Table.get?_insert]
    split
    case isTrue same =>
      subst same
      have missing : environment.get? target = none := by
        rw [← Option.not_isSome_iff_eq_none]
        exact absent
      rw [missing, Option.none_or]
    case isFalse => rw [Option.or_none]

/-- The environment with a value supplied, if there is one. -/
def supplyEntry (environment : Environment) (entry : String × Option String) :
    Except IllegalEntry Environment :=
  match entry.2 with
  | none => .ok environment
  | some value => environment.supply entry.1 value

theorem get?_supplyEntry {environment supplied : Environment} {entry : String × Option String}
    (ok : environment.supplyEntry entry = .ok supplied) (name : String) :
    supplied.get? name = (environment.get? name).or (if entry.1 = name then entry.2 else none) := by
  obtain ⟨target, _ | value⟩ := entry
  · cases ok
    simp
  · exact get?_supply ok name

/-- Entries without repeated names are all supplied. -/
theorem get?_foldlM_supplyEntry {entries : List (String × Option String)}
    {environment whole : Environment} (proper : (Table.mk entries).Proper)
    (ok : entries.foldlM supplyEntry environment = .ok whole) (name : String) :
    whole.get? name = (environment.get? name).or ((Table.mk entries).get? name).join := by
  induction entries generalizing environment with
  | nil =>
    cases ok
    simp [Table.get?, Table.lookup]
  | cons entry rest ih =>
    obtain ⟨unlisted, proper⟩ := List.nodup_cons.mp proper
    rw [List.foldlM_cons] at ok
    cases step : environment.supplyEntry entry with
    | error cause =>
      rw [step] at ok
      cases ok
    | ok supplied =>
      rw [step] at ok
      rw [ih proper ok, get?_supplyEntry step, Option.or_assoc]
      congr 1
      simp only [Table.get?, Table.lookup]
      split
      case isTrue same =>
        -- The name is not listed again, so the rest of the entries has nothing for it.
        have absent : (Table.mk rest).get? name = none := by
          rw [← Option.not_isSome_iff_eq_none, Option.isSome_iff_exists, ← Table.mem_keys_iff]
          exact same ▸ unlisted
        rw [← Table.get?, absent]
        simp
      case isFalse => rw [Option.none_or]

end Environment

namespace Settings

/-- The merged environment finds for each variable what it stands for. -/
theorem get?_environmentOf {environment whole : Environment} {file : Option String}
    (merged : environmentOf environment file = .ok whole) (name : String) :
    whole.get? name = environment.standing? file name := by
  rw [Environment.standing?]
  cases file with
  | none =>
    cases merged
    rw [Environment.assigned?, Option.or_none]
  | some text =>
    have extended : environment.extend text = .ok whole := merged
    rw [Environment.extend] at extended
    rw [Environment.assigned?]
    split at extended
    case isTrue disabled =>
      cases extended
      rw [if_pos disabled, Option.or_none]
    case isFalse enabled =>
      have supplied : whole.get? name =
          (environment.get? name).or ((EnvFile.values environment text).get? name).join :=
        Environment.get?_foldlM_supplyEntry (EnvFile.proper_values environment text) extended name
      rw [if_neg enabled, supplied, EnvFile.values_eq, EnvFile.get?_foldl_assign]

end Settings

end Evacuation
