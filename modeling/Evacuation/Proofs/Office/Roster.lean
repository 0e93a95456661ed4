import Evacuation.Proofs.Office.Duty
import Evacuation.Schedule.Basic
/-!
# Rosters

A roster lists the cause and the duty of each clerk. What the clerks owe together decides whether a
timer runs (`Roster.Runs`), whether it is dropped (`Roster.Drops`) and whether a drain is carried on
(`Roster.Carries`); all three survive any change of a duty that does not bear on them.
-/
namespace Evacuation

/-- The cause and the duty of each clerk. -/
abbrev Roster := List (Cause × Duty)

namespace Roster

variable {roster : Roster} {clerk : Nat} {cause : Cause} {duty later : Duty}

/-- Some clerk has a duty. -/
def Owes (roster : Roster) (duty : Duty) : Prop := ∃ cause, (cause, duty) ∈ roster

/-- A duty that another clerk has is not lost when a clerk's duty changes. -/
theorem Owes.set {owed : Duty} (owes : roster.Owes owed)
    (here : roster[clerk]? = some (cause, duty)) (other : owed ≠ duty) (entry : Cause × Duty) :
    Owes (roster.set clerk entry) owed := by
  obtain ⟨holder, member⟩ := owes
  obtain ⟨place, inside, at_place⟩ := List.mem_iff_getElem.mp member
  have elsewhere : clerk ≠ place := by
    rintro rfl
    rw [List.getElem?_eq_getElem inside, at_place] at here
    cases here
    exact other rfl
  refine ⟨holder, List.mem_iff_getElem.mpr ⟨place, by simpa using inside, ?_⟩⟩
  rw [List.getElem_set_ne elsewhere, at_place]

/-- The clerk whose duty changes has the new one. -/
theorem owes_set (here : roster[clerk]? = some (cause, duty)) :
    Owes (roster.set clerk (cause, later)) later := by
  obtain ⟨inside, _⟩ := List.getElem?_eq_some_iff.mp here
  exact ⟨cause, List.mem_iff_getElem.mpr ⟨clerk, by simpa using inside, by simp⟩⟩

/-- After a clerk's duty has changed, an entry is the new one, or it was there before. -/
theorem of_set {clerk place : Nat} {entry found : Cause × Duty}
    (there : (roster.set clerk entry)[place]? = some found) :
    place = clerk ∧ found = entry ∨ place ≠ clerk ∧ roster[place]? = some found := by
  rw [List.getElem?_set] at there
  split at there
  · rename_i same
    split at there <;> cases there
    exact .inl ⟨same.symm, rfl⟩
  · rename_i other
    exact .inr ⟨Ne.symm other, there⟩

/-- An entry of a longer roster is an old one or the one that was added. -/
theorem of_append {place : Nat} {entry found : Cause × Duty}
    (there : (roster ++ [entry])[place]? = some found) :
    roster[place]? = some found ∨ place = roster.length ∧ found = entry := by
  rw [List.getElem?_append] at there
  split at there
  · exact .inl there
  · rw [List.getElem?_singleton] at there
    split at there <;> cases there
    exact .inr ⟨by omega, rfl⟩

/-- More clerks owe no less. -/
theorem Owes.append {owed : Duty} (owes : roster.Owes owed) (more : Roster) :
    Owes (roster ++ more) owed := by
  obtain ⟨holder, member⟩ := owes
  exact ⟨holder, List.mem_append_left _ member⟩

/-! ## Timers that run, timers that are dropped, drains that go on -/

/-- A timer runs, or a clerk is about to start it or to begin its drain. -/
def Runs (roster : Roster) (timer : Nat) (state : TimerState) : Prop :=
  state = .fresh ∧ roster.Owes (.start timer) ∨ state = .pending ∨
    state = .fired ∧ ∃ node, roster.Owes (.launch node timer)

/-- A clerk is about to cancel a timer. -/
def Drops (roster : Roster) (timer : Nat) : Prop :=
  ∃ first others, roster.Owes (.cancel first others) ∧ timer ∈ first :: others

/-- A clerk is about to carry out or to conclude the drain of a record. -/
def Carries (roster : Roster) (record : Nat) : Prop :=
  roster.Owes (.execute record) ∨ roster.Owes (.conclude record)

variable {timer record : Nat} {state : TimerState}

theorem Runs.set (runs : roster.Runs timer state) (here : roster[clerk]? = some (cause, duty))
    (not_start : duty ≠ .start timer) (not_launch : ∀ node, duty ≠ .launch node timer)
    (entry : Cause × Duty) : Runs (roster.set clerk entry) timer state := by
  obtain ⟨fresh, owes⟩ | pending | ⟨fired, node, owes⟩ := runs
  · exact .inl ⟨fresh, owes.set here not_start.symm _⟩
  · exact .inr (.inl pending)
  · exact .inr (.inr ⟨fired, node, owes.set here (not_launch node).symm _⟩)

theorem Runs.append (runs : roster.Runs timer state) (more : Roster) :
    Runs (roster ++ more) timer state := by
  obtain ⟨fresh, owes⟩ | pending | ⟨fired, node, owes⟩ := runs
  · exact .inl ⟨fresh, owes.append more⟩
  · exact .inr (.inl pending)
  · exact .inr (.inr ⟨fired, node, owes.append more⟩)

theorem Drops.set (drops : roster.Drops timer) (here : roster[clerk]? = some (cause, duty))
    (other : ∀ first others, duty ≠ .cancel first others) (entry : Cause × Duty) :
    Drops (roster.set clerk entry) timer := by
  obtain ⟨first, others, owes, member⟩ := drops
  exact ⟨first, others, owes.set here (other first others).symm _, member⟩

theorem Drops.append (drops : roster.Drops timer) (more : Roster) :
    Drops (roster ++ more) timer := by
  obtain ⟨first, others, owes, member⟩ := drops
  exact ⟨first, others, owes.append more, member⟩

theorem Carries.set (carries : roster.Carries record) (here : roster[clerk]? = some (cause, duty))
    (not_execute : duty ≠ .execute record) (not_conclude : duty ≠ .conclude record)
    (entry : Cause × Duty) : Carries (roster.set clerk entry) record := by
  obtain owes | owes := carries
  · exact .inl (owes.set here not_execute.symm _)
  · exact .inr (owes.set here not_conclude.symm _)

theorem Carries.append (carries : roster.Carries record) (more : Roster) :
    Carries (roster ++ more) record := by
  obtain owes | owes := carries
  · exact .inl (owes.append more)
  · exact .inr (owes.append more)

/-- A clerk who is to cancel timers is about to cancel each of them. -/
theorem drops_set {timers : List Nat} (here : roster[clerk]? = some (cause, duty))
    (member : timer ∈ timers) : Drops (roster.set clerk (cause, .ofTimers timers)) timer := by
  cases timers with
  | nil => cases member
  | cons first others => exact ⟨first, others, owes_set here, member⟩

/-- One timer less to cancel leaves the others to be cancelled. -/
theorem Drops.next {dropped : Nat} {others : List Nat} (drops : roster.Drops timer)
    (here : roster[clerk]? = some (cause, .cancel dropped others)) (other : timer ≠ dropped) :
    Drops (roster.set clerk (cause, .ofTimers others)) timer := by
  obtain ⟨first, rest, owes, member⟩ := drops
  by_cases mine : Duty.cancel first rest = .cancel dropped others
  · cases mine
    obtain rfl | left := List.mem_cons.mp member
    · exact absurd rfl other
    · exact drops_set here left
  · exact ⟨first, rest, owes.set here mine _, member⟩

end Roster

end Evacuation
