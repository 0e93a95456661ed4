import Evacuation.Proofs.Office.Play
import Evacuation.Proofs.Office.Records
import Evacuation.Proofs.Office.Trails
/-!
# The times of a record

The times in a record are times of the clock at which steps were taken: the start is given out by a
booking, the drain begins at the time of the deed that begins it, and ends at the time of the deed that
writes its end down (`Clocked.traced`). Nothing orders them but the clock and the timers. On the exact
scale, if the clock does not go back and no timer goes off before its interval has passed, they are in
order (`Clocked.times_le`).
-/
namespace Evacuation

namespace Deed

variable {T : Type}

/-- The drain that is booked in a deed. -/
def booking? : Deed T → Option (Appointment T)
  | asked _ _ ⟨.transact (.book _), .ok appointment⟩ => some appointment
  | _ => none

/-- The timer that goes off in a deed. -/
def firing? : Deed T → Option Nat
  | began _ (.timer timer _ _) => some timer
  | _ => none

end Deed

namespace Office

/-- The clock does not go back. -/
def Forward (dated : List (Rat × Deed Rat)) : Prop := dated.Pairwise fun early late => early.1 ≤ late.1

/-- No timer goes off before its interval has passed since it was booked. A timer is started after that,
so one whose interval counts from its start does not either. -/
def Punctual (dated : List (Rat × Deed Rat)) : Prop :=
  ∀ early ∈ dated, ∀ late ∈ dated, ∀ appointment ∈ early.2.booking?,
    late.2.firing? = some appointment.timer → early.1 + appointment.interval ≤ late.1

instance (dated : List (Rat × Deed Rat)) : Decidable (Forward dated) :=
  inferInstanceAs (Decidable (List.Pairwise _ _))

instance (dated : List (Rat × Deed Rat)) : Decidable (Punctual dated) :=
  inferInstanceAs (Decidable (∀ early ∈ dated, ∀ late ∈ dated, ∀ appointment ∈ early.2.booking?,
    late.2.firing? = some appointment.timer → early.1 + appointment.interval ≤ late.1))

/-- The times in a record are those of deeds. -/
structure Traced (dated : List (Rat × Deed Rat)) (place : Nat) (record : DrainRecord Rat) : Prop where
  booked : ∃ early ∈ dated, ∃ appointment ∈ early.2.booking?, appointment.timer = place ∧
    record.scheduledFor = some appointment.start ∧ early.1 + appointment.interval = appointment.start
  started {time : Rat} : record.startedAt = some time → ∃ clerk timer node,
    (time, .asked clerk (.timer timer node place) (Control.launching node place true)) ∈ dated
  finished {start time : Rat} : record.startedAt = some start → record.finishedAt = some time →
    start ≤ time

variable {controller : Controller Rat} {buffer : DrainBuffer Rat} {office : Office Rat}
  {dated : List (Rat × Deed Rat)} {entry : Rat × Deed Rat} {place : Nat} {record : DrainRecord Rat}

/-- What was done before was done at an earlier time, or at the same. -/
theorem Forward.of_concat (forward : Forward (dated ++ [entry])) :
    Forward dated ∧ ∀ early ∈ dated, early.1 ≤ entry.1 := by
  obtain ⟨before, _, apart⟩ := List.pairwise_append.mp forward
  exact ⟨before, fun early listed => apart early listed entry (.head _)⟩

namespace Traced

theorem kept (traced : Traced dated place record) (entry : Rat × Deed Rat) :
    Traced (dated ++ [entry]) place record where
  booked := by
    obtain ⟨early, listed, found⟩ := traced.booked
    exact ⟨early, List.mem_append_left _ listed, found⟩
  started began := by
    obtain ⟨clerk, timer, node, listed⟩ := traced.started began
    exact ⟨clerk, timer, node, List.mem_append_left _ listed⟩
  finished := traced.finished

theorem begun {clerk timer : Nat} {node : Node} {now : Rat} (traced : Traced dated place record)
    (open_ : record.finishedAt = none) :
    Traced (dated ++ [(now, .asked clerk (.timer timer node place) (Control.launching node place true))])
      place (record.begun now) where
  booked := (traced.kept _).booked
  started began := by
    cases began
    exact ⟨clerk, timer, node, List.mem_append_right _ (.head _)⟩
  finished _ ended := by cases open_.symm.trans ended

theorem finish {now : Rat} (traced : Traced dated place record) (deed : Deed Rat)
    (forward : Forward (dated ++ [(now, deed)])) (retries : Int) (error : Option String) :
    Traced (dated ++ [(now, deed)]) place (record.finish now retries error) where
  booked := (traced.kept _).booked
  started := (traced.kept _).started
  finished began ended := by
    cases ended
    obtain ⟨_, _, _, listed⟩ := traced.started began
    exact forward.of_concat.2 _ listed

end Traced

/-- The times in every record are those of deeds. -/
theorem Clocked.traced (clocked : Clocked controller (opened buffer) dated office)
    (forward : Forward dated) (found : office.desk.schedule.records[place]? = some record) :
    Traced dated place record := by
  have known : record.Filled ∧ (Forward dated → Traced dated place record) := by
    refine clocked.record_rec
      (motive := fun dated place record => record.Filled ∧ (Forward dated → Traced dated place record))
      ?_ ?_ ?_ ?_ found
    · intro before dated clerk cause node appointment now after consistent reserves
      refine ⟨DrainRecord.filled_schedule .., fun _ => ⟨?_, nofun, nofun⟩⟩
      have timer : appointment.timer = before.records.length :=
        reserves.timer.trans consistent.paired.symm
      exact ⟨_, List.mem_append_right _ (.head _), appointment, rfl, timer, rfl, reserves.due.2.1⟩
    · intro dated place record entry ⟨filled, traced⟩
      exact ⟨filled, fun forward => (traced forward.of_concat.1).kept entry⟩
    · intro dated place record clerk timer node now ⟨filled, traced⟩ waits
      refine ⟨filled.begun waits now, fun forward => (traced forward.of_concat.1).begun ?_⟩
      exact Option.not_isSome_iff_eq_none.mp fun ended => by
        have terminal := filled.finished.mp ended
        rw [waits] at terminal
        cases terminal
    · intro dated place record clerk timer node now drained ⟨filled, traced⟩ drains _
      exact ⟨filled.finish drains .., fun forward => (traced forward.of_concat.1).finish _ forward ..⟩
  exact known.2 forward

/-- Whatever a clerk does, it began before, or just now. -/
theorem Clocked.began_before (clocked : Clocked controller (opened buffer) dated office)
    (forward : Forward dated) (listed : entry ∈ dated) :
    ∃ early ∈ dated, early.2 = .began entry.2.clerk entry.2.cause ∧ early.1 ≤ entry.1 := by
  induction clocked with
  | here => cases listed
  | @snoc dated now deed middle later clocked step taken ih =>
    obtain ⟨before, apart⟩ := forward.of_concat
    obtain old | new := List.mem_append.mp listed
    · obtain ⟨early, there, began, ordered⟩ := ih before old
      exact ⟨early, List.mem_append_left _ there, began, ordered⟩
    · obtain rfl := List.mem_singleton.mp new
      cases stood : middle.clerks[deed.clerk]? with
      | none => exact ⟨_, listed, (step.clerk_new stood).2, le_refl _⟩
      | some worker =>
        obtain ⟨_, _, cause, _⟩ := step.clerk stood
        obtain ⟨_, part, _⟩ := clocked.run.trail stood
        obtain ⟨early, there, began⟩ := List.mem_map.mp (part.subset (.head _))
        exact ⟨early, List.mem_append_left _ there, began.trans (cause ▸ rfl), apart early there⟩

/-- If the clock does not go back and no timer goes off early, a drain does not begin before the start
of its record, and does not end before it began. -/
theorem Clocked.times_le (clocked : Clocked controller (opened buffer) dated office)
    (forward : Forward dated) (punctual : Punctual dated)
    (found : office.desk.schedule.records[place]? = some record) :
    ∃ start, record.scheduledFor = some start ∧
      (∀ began, record.startedAt = some began → start ≤ began) ∧
      ∀ began ended, record.startedAt = some began → record.finishedAt = some ended →
        began ≤ ended := by
  have traced := clocked.traced forward found
  obtain ⟨early, booked, appointment, books, timer, start, due⟩ := traced.booked
  refine ⟨appointment.start, start, fun began started => ?_, fun _ _ => traced.finished⟩
  obtain ⟨clerk, mark, node, launched⟩ := traced.started started
  obtain ⟨late, fires, fired, ordered⟩ := clocked.began_before forward launched
  -- The timer that went off for the clerk stands at the place of the record, as the booked one does.
  have same : place = mark := by
    obtain ⟨roster, sound⟩ := clocked.run.sound
    obtain ⟨worker, stands, cause⟩ := clocked.run.logged.known (List.mem_map_of_mem launched)
    obtain ⟨duty, listed, _⟩ := sound.follows stands
    rw [cause] at listed
    exact sound.agreed.consistent.record_eq (sound.agreed.fits listed).wentOff
  have waited : early.1 + appointment.interval ≤ late.1 := by
    refine punctual early booked late fires appointment books ?_
    rw [fired, timer, same]
    rfl
  rw [← due]
  exact waited.trans ordered

end Office

/-! ## Playing with a clock -/

variable {T : Type}

/-- The time at which a move is made: its own, or that of the move before. -/
def Move.time (before : T) : Move T → T
  | fire _ now | ask _ now => now
  | command _ | send _ | back _ _ => before

/-- The times at which moves are made. -/
def Move.times (before : T) : List (Move T) → List T
  | [] => []
  | move :: moves => move.time before :: times (move.time before) moves

namespace Office

variable [TimeScale T] {controller : Controller T} {office later : Office T}

theorem TakenAt.of_move? {move : Move T} {deed : Deed T}
    (moved : office.move? controller move = some (deed, later)) (before : T) :
    TakenAt controller (move.time before) office deed later := by
  cases move with
  | command given =>
    cases moved
    trivial
  | fire timer now =>
    simp only [move?] at moved
    split at moved
    · cases moved
    · split at moved <;> cases moved
      trivial
  | ask clerk now =>
    simp only [move?] at moved
    split at moved
    · split at moved <;> cases moved
      rfl
    · cases moved
  | send clerk =>
    simp only [move?] at moved
    split at moved
    · split at moved <;> cases moved
      trivial
    · cases moved
  | back clerk outcome =>
    simp only [move?] at moved
    split at moved
    · obtain ⟨reply, _, same⟩ := Option.map_eq_some_iff.mp moved
      cases same
      trivial
    · cases moved

theorem Clocked.trans {start : Office T} {first second : List (T × Deed T)}
    (clocked : Clocked controller start first office) (onward : Clocked controller office second later) :
    Clocked controller start (first ++ second) later := by
  induction onward with
  | here => rwa [List.append_nil]
  | snoc _ step taken ih => exact List.append_assoc _ _ _ ▸ ih.snoc step taken

/-- What is played is a run at the times of the moves. -/
theorem Clocked.of_play? {moves : List (Move T)} {deeds : List (Deed T)}
    (played : play? controller moves office = some (deeds, later)) (before : T) :
    Clocked controller office ((Move.times before moves).zip deeds) later := by
  induction moves generalizing office deeds before with
  | nil =>
    cases played
    exact .here
  | cons move moves ih =>
    simp only [play?] at played
    split at played
    · cases played
    · rename_i deed between moved
      obtain ⟨⟨done, reached⟩, onward, same⟩ := Option.map_eq_some_iff.mp played
      cases same
      have first := Clocked.here.snoc (.of_move? moved) (.of_move? moved before)
      exact first.trans (ih onward (move.time before))

end Office

end Evacuation
