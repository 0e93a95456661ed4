import Mathlib.Order.Bounds.Image
import Mathlib.Order.Bounds.OrderIso
import Evacuation.DrainBuffer
import Evacuation.Proofs.Time.Exact
/-!
# Reservations

On the exact scale the starts that a drain buffer gives out have a closed form. The start of a
reservation is the greatest of the starts that it and the earlier ones force on it: the time at which
one of them was made, and the spacing once for each reservation from there on (`starts_isGreatest`).
The induction is on the reservations, and its step says that what is forced on the next reservation is
its own time and what was forced on the one before, moved by the spacing (`forcedStarts_succ`). So the
starts keep the spacing, none lies before its own time, and no sequence that does both is anywhere
earlier.
-/
namespace Evacuation

namespace DrainBuffer

section

variable {T : Type} [TimeScale T]

/-- The buffer after reservations at times, one after another. -/
def after (buffer : DrainBuffer T) (times : List T) : DrainBuffer T :=
  times.foldl (fun buffer now => (buffer.reserve now).2) buffer

theorem after_concat (buffer : DrainBuffer T) (times : List T) (now : T) :
    buffer.after (times ++ [now]) = ((buffer.after times).reserve now).2 := by
  rw [after, List.foldl_append]
  rfl

/-- One more reservation gives out one more start and leaves the earlier ones as they are. -/
theorem starts_concat (buffer : DrainBuffer T) (times : List T) (now : T) :
    buffer.starts (times ++ [now]) = buffer.starts times ++ [((buffer.after times).reserve now).1] := by
  induction times generalizing buffer with
  | nil => rfl
  | cons first rest ih =>
    have onward := ih (buffer.reserve first).2
    rw [List.cons_append, starts, starts, onward]
    rfl

/-- Every reservation gets a start. -/
@[simp] theorem length_starts (buffer : DrainBuffer T) (times : List T) :
    (buffer.starts times).length = times.length := by
  induction times generalizing buffer with
  | nil => rfl
  | cons now rest ih => exact congrArg (· + 1) (ih (buffer.reserve now).2)

/-- After a reservation the buffer remembers the start that it gave out. -/
theorem lastReserved_after_take (buffer : DrainBuffer T) {times : List T} {place : Nat} {start : T}
    (given : (buffer.starts times)[place]? = some start) :
    (buffer.after (times.take (place + 1))).lastReserved = some start := by
  induction times generalizing buffer place with
  | nil => cases given
  | cons now rest ih =>
    cases place with
    | zero => exact given
    | succ place => exact ih (buffer.reserve now).2 given

end

/-! ## Starts on the exact scale -/

/-- A start is not before the time at which it is asked for. -/
theorem le_nextStart (buffer : DrainBuffer Rat) (now : Rat) : now ≤ buffer.nextStart now := by
  unfold nextStart
  split
  · exact le_refl now
  · rw [TimeScale.later_eq_max]
    exact le_max_left _ _

/-- After a start was given out, the next one is the time at which it is asked for or that start and
the spacing, whichever is later. -/
theorem nextStart_eq_max {buffer : DrainBuffer Rat} {last : Rat}
    (reserved : buffer.lastReserved = some last) (now : Rat) :
    buffer.nextStart now = max now (last + buffer.spacing) := by
  simp only [nextStart, reserved, TimeScale.later_eq_max]

/-- A start is not before the last one and the spacing. -/
theorem add_spacing_le_nextStart {buffer : DrainBuffer Rat} {last : Rat}
    (reserved : buffer.lastReserved = some last) (now : Rat) :
    last + buffer.spacing ≤ buffer.nextStart now := by
  rw [nextStart_eq_max reserved]
  exact le_max_right _ _

/-- No start that is still to be given out is before the last one and the spacing. -/
theorem add_spacing_le_of_mem_starts {buffer : DrainBuffer Rat} {last start : Rat}
    {times : List Rat} (nonnegative : 0 ≤ buffer.spacing)
    (reserved : buffer.lastReserved = some last) (given : start ∈ buffer.starts times) :
    last + buffer.spacing ≤ start := by
  induction times generalizing buffer last with
  | nil => cases given
  | cons now rest ih =>
    have next := add_spacing_le_nextStart reserved now
    obtain rfl | onward := List.mem_cons.mp given
    · exact next
    · have kept : 0 ≤ (buffer.reserve now).2.spacing := nonnegative
      have spaced : buffer.nextStart now + (buffer.reserve now).2.spacing ≤ start :=
        ih kept rfl onward
      calc
        last + buffer.spacing ≤ buffer.nextStart now := next
        _ ≤ buffer.nextStart now + buffer.spacing := le_add_of_nonneg_right nonnegative
        _ ≤ start := spaced

/-- Any two starts lie at least the spacing apart, in the order in which they were given out. -/
theorem pairwise_starts {buffer : DrainBuffer Rat} (nonnegative : 0 ≤ buffer.spacing)
    (times : List Rat) :
    (buffer.starts times).Pairwise fun first second => first + buffer.spacing ≤ second := by
  induction times generalizing buffer with
  | nil => exact .nil
  | cons now rest ih =>
    have kept : 0 ≤ (buffer.reserve now).2.spacing := nonnegative
    refine .cons (fun start given => ?_) (ih kept)
    have spaced : buffer.nextStart now + (buffer.reserve now).2.spacing ≤ start :=
      add_spacing_le_of_mem_starts kept rfl given
    exact spaced

/-- A buffer is made for a spacing that is not negative, and gives nothing out by itself. -/
theorem of_ofSpacing? {spacing : Rat} {buffer : DrainBuffer Rat}
    (made : ofSpacing? spacing = some buffer) : 0 ≤ spacing ∧ buffer = { spacing } := by
  unfold ofSpacing? at made
  split at made
  · cases made
  · rename_i allowed
    cases made
    have nonnegative : ¬ spacing < 0 := by simpa [TimeScale.before, TimeScale.zero] using allowed
    exact ⟨not_lt.mp nonnegative, rfl⟩

/-- For every spacing that is not negative there is a buffer. -/
theorem ofSpacing?_of_nonneg {spacing : Rat} (nonnegative : 0 ≤ spacing) :
    ofSpacing? spacing = some { spacing } := by
  refine if_neg ?_
  simpa [TimeScale.before, TimeScale.zero] using nonnegative

/-! ## The closed form -/

/-- The starts that are forced on a reservation: the time of that one or of an earlier one, and the
spacing once for each reservation from there on. -/
def forcedStarts (spacing : Rat) (times : List Rat) (place : Nat) : Set Rat :=
  {start | ∃ (earlier : Nat) (now : Rat), earlier ≤ place ∧ times[earlier]? = some now ∧
    start = now + ((place : Rat) - earlier) * spacing}

/-- Starts that respect the times at which they are asked for and keep the spacing. -/
structure Respects (spacing : Rat) (times starts : List Rat) : Prop where
  ahead : List.Forall₂ (· ≤ ·) times starts
  spaced : starts.IsChain fun first second => first + spacing ≤ second

/-- Only its own time is forced on the first reservation. -/
theorem forcedStarts_zero (spacing : Rat) {times : List Rat} {now : Rat}
    (asked : times[0]? = some now) : forcedStarts spacing times 0 = {now} := by
  ext start
  constructor
  · rintro ⟨earlier, time, within, found, rfl⟩
    obtain rfl : earlier = 0 := Nat.le_zero.mp within
    have same : time = now := Option.some.inj (found.symm.trans asked)
    simp [same]
  · intro same
    have alone : start = now := same
    exact ⟨0, now, le_refl 0, asked, by simp [alone]⟩

/-- What is forced on the next reservation is its own time, and what was forced on the one before it
and the spacing. -/
theorem forcedStarts_succ (spacing : Rat) {times : List Rat} {place : Nat} {now : Rat}
    (asked : times[place + 1]? = some now) :
    forcedStarts spacing times (place + 1) =
      insert now ((· + spacing) '' forcedStarts spacing times place) := by
  ext start
  constructor
  · rintro ⟨earlier, time, within, found, rfl⟩
    obtain older | rfl := Nat.lt_succ_iff_lt_or_eq.mp (Nat.lt_succ_of_le within)
    · have moved : time + ((place : Rat) - earlier) * spacing + spacing =
          time + (((place + 1 : Nat) : Rat) - earlier) * spacing := by
        push_cast
        ring
      exact .inr ⟨_, ⟨earlier, time, Nat.le_of_lt_succ older, found, rfl⟩, moved⟩
    · have same : time = now := Option.some.inj (found.symm.trans asked)
      exact .inl (by simp [same])
  · rintro (own | ⟨_, ⟨earlier, time, within, found, rfl⟩, rfl⟩)
    · exact ⟨place + 1, now, le_refl _, asked, by simp [own]⟩
    · refine ⟨earlier, time, Nat.le_succ_of_le within, found, ?_⟩
      push_cast
      ring

/-- A reservation after another gets its own time, or the start before it and the spacing, whichever
is later. -/
theorem starts_succ (buffer : DrainBuffer Rat) {times : List Rat} {place : Nat} {start now : Rat}
    (given : (buffer.starts times)[place]? = some start) (asked : times[place + 1]? = some now) :
    (buffer.starts times)[place + 1]? = some (max now (start + buffer.spacing)) := by
  induction times generalizing buffer place with
  | nil => cases given
  | cons first rest ih =>
    cases place with
    | zero =>
      cases rest with
      | nil => cases asked
      | cons second rest =>
        obtain rfl : buffer.nextStart first = start := Option.some.inj given
        obtain rfl : second = now := Option.some.inj asked
        have next := nextStart_eq_max (lastReserved_reserve buffer first) second
        exact congrArg some next
    | succ place => exact ih (buffer.reserve first).2 given asked

/-- The greatest of the starts that are forced on a reservation is the start it gets. -/
theorem isGreatest_forcedStarts (spacing : Rat) {times : List Rat} {place : Nat} {start : Rat}
    (given : (starts { spacing } times)[place]? = some start) :
    IsGreatest (forcedStarts spacing times place) start := by
  induction place generalizing start with
  | zero =>
    cases times with
    | nil => cases given
    | cons first rest =>
      obtain rfl : first = start := Option.some.inj given
      rw [forcedStarts_zero spacing rfl]
      exact isGreatest_singleton
  | succ place ih =>
    have inside : place + 1 < times.length := by
      have within := (List.getElem?_eq_some_iff.mp given).1
      rwa [length_starts] at within
    have asked : times[place + 1]? = some times[place + 1] := List.getElem?_eq_getElem inside
    have before : place < (starts { spacing } times).length := by
      rw [length_starts]
      omega
    have last := List.getElem?_eq_getElem before
    have next := starts_succ { spacing } last asked
    rw [given] at next
    obtain rfl := Option.some.inj next
    have monotone : Monotone fun start => start + spacing := fun _ _ ordered =>
      add_le_add_left ordered spacing
    rw [forcedStarts_succ spacing asked]
    exact (monotone.map_isGreatest (ih last)).insert _

namespace Respects

variable {spacing : Rat} {times starts : List Rat} {place : Nat} {start : Rat}

/-- A start that is given out was asked for at a time that is not after it. -/
theorem asked (respects : Respects spacing times starts) (given : starts[place]? = some start) :
    ∃ now, times[place]? = some now ∧ now ≤ start := by
  obtain ⟨inside, rfl⟩ := List.getElem?_eq_some_iff.mp given
  have within : place < times.length := by
    rw [respects.ahead.length_eq]
    exact inside
  exact ⟨times[place], List.getElem?_eq_getElem within, respects.ahead.get within inside⟩

/-- A start is preceded by one that lies the spacing or more before it. -/
theorem preceded (respects : Respects spacing times starts)
    (given : starts[place + 1]? = some start) :
    ∃ last, starts[place]? = some last ∧ last + spacing ≤ start := by
  obtain ⟨inside, rfl⟩ := List.getElem?_eq_some_iff.mp given
  have before : place < starts.length := by omega
  exact ⟨starts[place], List.getElem?_eq_getElem before, respects.spaced.getElem place inside⟩

/-- What is forced on a reservation is not after the start it gets in any sequence of starts that
respects the times and keeps the spacing. -/
theorem forced_le (respects : Respects spacing times starts) {forced : Rat}
    (given : starts[place]? = some start) (forces : forced ∈ forcedStarts spacing times place) :
    forced ≤ start := by
  induction place generalizing start forced with
  | zero =>
    obtain ⟨now, asked, ahead⟩ := respects.asked given
    rw [forcedStarts_zero spacing asked] at forces
    have own : forced = now := forces
    rw [own]
    exact ahead
  | succ place ih =>
    obtain ⟨now, asked, ahead⟩ := respects.asked given
    obtain ⟨last, before, spaced⟩ := respects.preceded given
    rw [forcedStarts_succ spacing asked] at forces
    obtain own | ⟨earlier, forces, rfl⟩ := forces
    · rw [own]
      exact ahead
    · calc
        earlier + spacing ≤ last + spacing := add_le_add_left (ih before forces) spacing
        _ ≤ start := spaced

end Respects

/-- The starts of a buffer respect the times and keep its spacing. -/
theorem respects_starts {spacing : Rat} (nonnegative : 0 ≤ spacing) (times : List Rat) :
    Respects spacing times (starts { spacing } times) := by
  constructor
  · refine List.forall₂_of_length_eq_of_get (length_starts _ _).symm fun place asked given => ?_
    have forces : times[place] ∈ forcedStarts spacing times place :=
      ⟨place, times[place], le_refl place, List.getElem?_eq_getElem asked, by simp⟩
    exact (isGreatest_forcedStarts spacing (List.getElem?_eq_getElem given)).2 forces
  · have spaced := @pairwise_starts { spacing } nonnegative times
    exact spaced.isChain

/-- A drain buffer in closed form, for every sequence of times, also of a clock that goes back. Each
reservation gets the greatest of the starts that are forced on it, and the buffer then remembers that
start. So the starts respect their times and keep the spacing, they never decrease, and they are the
earliest ones of that kind. -/
theorem starts_isGreatest {spacing : Rat} (nonnegative : 0 ≤ spacing) (times : List Rat) :
    ∃ buffer : DrainBuffer Rat, ofSpacing? spacing = some buffer ∧
      (buffer.starts times).length = times.length ∧
      (∀ place start, (buffer.starts times)[place]? = some start →
        IsGreatest (forcedStarts spacing times place) start ∧
          (buffer.after (times.take (place + 1))).lastReserved = some start) ∧
      Respects spacing times (buffer.starts times) ∧ (buffer.starts times).Pairwise (· ≤ ·) ∧
      ∀ others, Respects spacing times others →
        List.Forall₂ (· ≤ ·) (buffer.starts times) others := by
  have respects := respects_starts nonnegative times
  refine ⟨{ spacing }, ofSpacing?_of_nonneg nonnegative, length_starts _ times, ?_, respects, ?_, ?_⟩
  · intro place start given
    exact ⟨isGreatest_forcedStarts spacing given, lastReserved_after_take _ given⟩
  · have spaced := @pairwise_starts { spacing } nonnegative times
    exact spaced.imp fun apart => (le_add_of_nonneg_right nonnegative).trans apart
  · intro others also
    have lengths : (starts { spacing } times).length = others.length := by
      rw [length_starts, also.ahead.length_eq]
    refine List.forall₂_of_length_eq_of_get lengths fun place given inside => ?_
    have forces := (isGreatest_forcedStarts spacing (List.getElem?_eq_getElem given)).1
    exact also.forced_le (List.getElem?_eq_getElem inside) forces

/-- A clock that goes back a minute and a half and then on by an hour. -/
theorem starts_isGreatest_backwards : (0 : Rat) ≤ 60 ∧
    ∃ buffer : DrainBuffer Rat, ofSpacing? (60 : Rat) = some buffer ∧
      buffer.starts [100, 10, 20, 3620] = [100, 160, 220, 3620] ∧
      IsGreatest (forcedStarts 60 [100, 10, 20, 3620] 2) 220 ∧
      Respects 60 [100, 10, 20, 3620] [100, 160, 220, 3620] := by
  have nonnegative : (0 : Rat) ≤ 60 := by decide
  obtain ⟨buffer, made, -, closed, respects, -, -⟩ :=
    starts_isGreatest nonnegative [100, 10, 20, 3620]
  obtain ⟨-, rfl⟩ := of_ofSpacing? made
  have given : starts ({ spacing := 60 } : DrainBuffer Rat) [100, 10, 20, 3620] =
      [100, 160, 220, 3620] := by
    decide +kernel
  rw [given] at closed respects
  exact ⟨nonnegative, _, made, given, (closed 2 220 rfl).1, respects⟩

end DrainBuffer

end Evacuation
