import Evacuation.Schedule.Transaction
/-!
# Consistent schedules

Records and timers are made in pairs, so a timer and the record it was made for share their place.
A schedule is consistent if what is tracked and what is armed agree: the armed timers are those of
the tracked records that wait for their drains. Every transaction keeps a schedule consistent; the
end of a drain does so for a record that no longer waits.
-/
namespace Evacuation

namespace Schedule

variable {T : Type}

/-- A record was made and is in a phase. -/
def InPhase (schedule : Schedule T) (record : Nat) (phase : Phase) : Prop :=
  ∃ found, schedule.records[record]? = some found ∧ found.phase = phase

/-- A record is in one phase. -/
theorem InPhase.unique {schedule : Schedule T} {record : Nat} {phase other : Phase}
    (first : schedule.InPhase record phase) (second : schedule.InPhase record other) :
    phase = other := by
  obtain ⟨found, at_place, rfl⟩ := first
  obtain ⟨also, there, rfl⟩ := second
  rw [at_place] at there
  cases there
  rfl

/-- What is tracked and what is armed agree. -/
structure Consistent (schedule : Schedule T) : Prop where
  paired : schedule.records.length = schedule.timers.length
  /-- A timer was made for the record at its own place, and for the node of that record. -/
  own {timer : Nat} {found : Timer T} : schedule.timers[timer]? = some found →
    found.record = timer ∧
      ∃ record, schedule.records[timer]? = some record ∧ record.node = found.node.name
  /-- No record stays as it was made. -/
  scheduled {place : Nat} {record : DrainRecord T} : schedule.records[place]? = some record →
    record.phase ≠ .cordoned
  /-- Records of drains that have ended say when. -/
  finished {place : Nat} {record : DrainRecord T} : schedule.records[place]? = some record →
    (record.finishedAt.isSome = true ↔ record.phase.isTerminal = true)
  tracked {node : String} {place : Nat} : schedule.tracked.get? node = some place →
    ∃ record, schedule.records[place]? = some record ∧ record.node = node
  armed {node : String} {place : Nat} : schedule.armed.get? node = some place ↔
    schedule.tracked.get? node = some place ∧ schedule.InPhase place .scheduled
  tracked_proper : schedule.tracked.Proper
  armed_proper : schedule.armed.Proper

namespace Consistent

variable {schedule : Schedule T}

/-- An armed timer was made. -/
theorem lt_of_armed (consistent : schedule.Consistent) {node : String} {timer : Nat}
    (armed : schedule.armed.get? node = some timer) : timer < schedule.timers.length := by
  obtain ⟨_, record, found, _⟩ := consistent.armed.mp armed
  have made := (List.getElem?_eq_some_iff.mp found).1
  have paired := consistent.paired
  omega

/-- A record is tracked under one name only. -/
theorem tracked_unique (consistent : schedule.Consistent) {node other : String} {place : Nat}
    (first : schedule.tracked.get? node = some place)
    (second : schedule.tracked.get? other = some place) : node = other := by
  obtain ⟨record, found, rfl⟩ := consistent.tracked first
  obtain ⟨again, also, rfl⟩ := consistent.tracked second
  rw [found] at also
  cases also
  rfl

/-- A node that turns out to have no record is not tracked. -/
theorem untracked_of_status (consistent : schedule.Consistent) {node : String}
    (unknown : (schedule.status node).1 = false) : schedule.tracked.get? node = none := by
  cases tracked : schedule.tracked.get? node with
  | none => rfl
  | some place =>
    obtain ⟨record, found, _⟩ := consistent.tracked tracked
    simp [status, current?, tracked, found] at unknown

end Consistent

/-! ## Transactions -/

section Transactions

variable {schedule : Schedule T}

theorem inPhase_change {place record : Nat} {update : DrainRecord T → DrainRecord T}
    {phase : Phase} : (schedule.change record update).InPhase place phase ↔
      ∃ found, schedule.records[place]? = some found ∧
        (if record = place then update found else found).phase = phase := by
  simp only [InPhase, change, List.getElem?_modify]
  cases schedule.records[place]? with
  | none => simp
  | some found => by_cases same : record = place <;> simp [same]

/-- A record that comes to wait no longer, with its timer taken off the armed ones, leaves the rest
in agreement. -/
theorem Consistent.change (consistent : schedule.Consistent) {record : Nat}
    {update : DrainRecord T → DrainRecord T} {armed : Table String Nat} (proper : armed.Proper)
    (kept : ∀ {node place}, armed.get? node = some place ↔
      schedule.armed.get? node = some place ∧ place ≠ record)
    (node : ∀ found, (update found).node = found.node)
    (later : ∀ found, schedule.records[record]? = some found →
      (update found).phase ≠ .cordoned ∧ (update found).phase ≠ .scheduled ∧
        ((update found).finishedAt.isSome = true ↔ (update found).phase.isTerminal = true)) :
    Consistent { schedule.change record update with armed } where
  paired := by simpa [Schedule.change] using consistent.paired
  own {timer found} stands := by
    obtain ⟨same, made, at_place, named⟩ := consistent.own stands
    refine ⟨same, if record = timer then update made else made, ?_, ?_⟩
    · simp only [Schedule.change, List.getElem?_modify, at_place]
      by_cases here : record = timer <;> simp [here]
    · split
      · rw [node, named]
      · exact named
  scheduled {place found} stands := by
    simp only [Schedule.change, List.getElem?_modify] at stands
    obtain ⟨before, at_place, rfl⟩ := Option.map_eq_some_iff.mp stands
    split
    · rename_i same
      exact (later before (same ▸ at_place)).1
    · exact consistent.scheduled at_place
  finished {place found} stands := by
    simp only [Schedule.change, List.getElem?_modify] at stands
    obtain ⟨before, at_place, rfl⟩ := Option.map_eq_some_iff.mp stands
    split
    · rename_i same
      exact (later before (same ▸ at_place)).2.2
    · exact consistent.finished at_place
  tracked {name place} tracked := by
    obtain ⟨found, at_place, rfl⟩ := consistent.tracked tracked
    refine ⟨if record = place then update found else found, ?_, ?_⟩
    · simp only [Schedule.change, List.getElem?_modify, at_place]
      by_cases here : record = place <;> simp [here]
    · split
      · exact node found
      · rfl
  armed {name place} := by
    rw [kept, consistent.armed]
    constructor
    · rintro ⟨⟨tracked, found, at_place, waits⟩, other⟩
      exact ⟨tracked, inPhase_change.mpr ⟨found, at_place, by rwa [if_neg (Ne.symm other)]⟩⟩
    · rintro ⟨tracked, waits⟩
      obtain ⟨found, at_place, waits⟩ := inPhase_change.mp waits
      split at waits
      · rename_i same
        exact absurd waits (later found (same ▸ at_place)).2.1
      · rename_i other
        exact ⟨⟨tracked, found, at_place, waits⟩, Ne.symm other⟩
  tracked_proper := consistent.tracked_proper
  armed_proper := proper

/-- Dropping tracked records together with their armed timers leaves the rest in agreement. -/
theorem Consistent.drop (consistent : schedule.Consistent) {tracked armed : Table String Nat}
    (tracked_proper : tracked.Proper) (armed_proper : armed.Proper)
    (fewer : ∀ {node place}, tracked.get? node = some place →
      schedule.tracked.get? node = some place)
    (kept : ∀ {node place}, armed.get? node = some place ↔
      tracked.get? node = some place ∧ schedule.armed.get? node = some place) :
    Consistent { schedule with tracked, armed } where
  paired := consistent.paired
  own := consistent.own
  scheduled := consistent.scheduled
  finished := consistent.finished
  tracked found := consistent.tracked (fewer found)
  armed {node place} := by
    refine kept.trans ⟨fun both => ⟨both.1, (consistent.armed.mp both.2).2⟩, fun both => ?_⟩
    exact ⟨both.1, consistent.armed.mpr ⟨fewer both.1, both.2⟩⟩
  tracked_proper := tracked_proper
  armed_proper := armed_proper

/-- The state of a timer has no part in the agreement. -/
theorem Consistent.turnTimer (consistent : schedule.Consistent) (timer : Nat)
    (turn : TimerState → TimerState) : (schedule.turnTimer timer turn).Consistent where
  paired := by simpa [Schedule.turnTimer] using consistent.paired
  own {other found} stands := by
    simp only [Schedule.turnTimer, List.getElem?_modify] at stands
    obtain ⟨before, at_place, rfl⟩ := Option.map_eq_some_iff.mp stands
    have own := consistent.own at_place
    split <;> exact own
  scheduled := consistent.scheduled
  finished := consistent.finished
  tracked := consistent.tracked
  armed := consistent.armed
  tracked_proper := consistent.tracked_proper
  armed_proper := consistent.armed_proper

/-- A schedule on which nothing was booked is consistent. -/
theorem consistent_opened (buffer : DrainBuffer T) : Consistent { buffer } where
  paired := rfl
  own stands := by simp at stands
  scheduled stands := by simp at stands
  finished stands := by simp at stands
  tracked tracked := by simp at tracked
  armed := by simp
  tracked_proper := Table.proper_empty
  armed_proper := Table.proper_empty

/-- The drain of a current record begins. -/
theorem launch_current {now : T} {node : String} {record : Nat}
    (current : schedule.tracked.get? node = some record) :
    schedule.launch now node record =
      (true, { schedule.change record (·.begun now) with armed := schedule.armed.erase node }) :=
  if_pos (by simpa [isCurrent] using current)

/-- The drain of a record that was replaced or dropped does not begin. -/
theorem launch_dropped {now : T} {node : String} {record : Nat}
    (dropped : schedule.tracked.get? node ≠ some record) :
    schedule.launch now node record = (false, schedule) :=
  if_neg (by simpa [isCurrent] using dropped)

/-- A drain begins exactly if its record is current. -/
theorem launch_iff {now : T} {node : String} {record : Nat} :
    (schedule.launch now node record).1 = true ↔ schedule.tracked.get? node = some record := by
  by_cases current : schedule.tracked.get? node = some record
  · rw [launch_current current]
    exact iff_of_true rfl current
  · rw [launch_dropped current]
    exact iff_of_false Bool.false_ne_true current

/-- A drain that does not begin has no current record and leaves the schedule as it is. -/
theorem launch_dismissed {now : T} {node : String} {record : Nat}
    (dismissed : (schedule.launch now node record).1 = false) :
    schedule.tracked.get? node ≠ some record ∧ (schedule.launch now node record).2 = schedule := by
  have dropped : schedule.tracked.get? node ≠ some record := by
    intro current
    cases dismissed.symm.trans (launch_iff.mpr current)
  rw [launch_dropped dropped]
  exact ⟨dropped, rfl⟩

/-- The beginning of a drain keeps a schedule consistent if its record waits. -/
theorem Consistent.launch (consistent : schedule.Consistent) (now : T) {node : String}
    {record : Nat} (current : schedule.tracked.get? node = some record)
    (waits : schedule.InPhase record .scheduled) :
    Consistent
      { schedule.change record (·.begun now) with armed := schedule.armed.erase node } := by
  refine consistent.change (consistent.armed_proper.erase node) ?_ (fun _ => rfl) ?_
  · intro name place
    rw [Table.get?_erase]
    split
    · rename_i same
      subst same
      refine ⟨nofun, fun both => absurd ?_ both.2⟩
      have tracked := (consistent.armed.mp both.1).1
      rw [current] at tracked
      exact (Option.some.inj tracked).symm
    · rename_i other
      refine ⟨fun armed => ⟨armed, ?_⟩, And.left⟩
      rintro rfl
      exact other (consistent.tracked_unique current (consistent.armed.mp armed).1)
  · intro found at_place
    refine ⟨Phase.noConfusion, Phase.noConfusion, ?_⟩
    obtain ⟨also, there, phase⟩ := waits
    rw [at_place] at there
    cases there
    have unfinished := consistent.finished at_place
    rw [phase] at unfinished
    exact unfinished

/-- The end of a drain keeps a schedule consistent if its record no longer waits. -/
theorem Consistent.finish (consistent : schedule.Consistent) (now : T) {record : Nat}
    (retries : Int) (error : Option String) (begun : ¬ schedule.InPhase record .scheduled) :
    (schedule.change record (·.finish now retries error)).Consistent := by
  refine consistent.change consistent.armed_proper ?_ (fun _ => rfl) fun found _ => ?_
  · refine ⟨fun armed => ⟨armed, ?_⟩, And.left⟩
    rintro rfl
    exact begun (consistent.armed.mp armed).2
  · have ended := found.isTerminal_finish now retries error
    refine ⟨fun same => ?_, fun same => ?_, iff_of_true rfl ended⟩
    · rw [same] at ended
      cases ended
    · rw [same] at ended
      cases ended

theorem Consistent.forget (consistent : schedule.Consistent) (node : String) :
    (schedule.forget node).2.Consistent := by
  refine consistent.drop (consistent.tracked_proper.erase node)
    (consistent.armed_proper.erase node) Table.get?_of_erase ?_
  intro name place
  simp only [Table.get?_erase]
  split
  · simp
  · exact ⟨fun armed => ⟨(consistent.armed.mp armed).1, armed⟩, And.right⟩

theorem Consistent.clear (consistent : schedule.Consistent) (node : String) :
    (schedule.clear node).2.Consistent := by
  unfold Schedule.clear
  split
  · rename_i ended
    refine consistent.drop (consistent.tracked_proper.erase node) consistent.armed_proper
      Table.get?_of_erase ?_
    intro name place
    simp only [Table.get?_erase]
    split
    · rename_i same
      subst same
      refine ⟨fun armed => ?_, And.right⟩
      obtain ⟨tracked, found, at_place, waits⟩ := consistent.armed.mp armed
      simp [current?, tracked, at_place, waits, Phase.isTerminal] at ended
    · exact ⟨fun armed => ⟨(consistent.armed.mp armed).1, armed⟩, And.right⟩
  · exact consistent

theorem Consistent.halt (consistent : schedule.Consistent) : schedule.halt.2.Consistent := by
  refine consistent.drop (consistent.tracked_proper.foldl_erase _) Table.proper_empty ?_ ?_
  · intro name place tracked
    rw [Table.get?_foldl_erase] at tracked
    split at tracked
    · cases tracked
    · exact tracked
  · intro name place
    rw [Table.get?_foldl_erase, Table.get?_empty]
    refine ⟨nofun, fun both => ?_⟩
    rw [if_pos (Table.mem_keys_iff.mpr ⟨place, both.2⟩)] at both
    cases both.1

variable [TimeScale T]

/-- A booking makes a record and a timer, each at the next place, for a node without a record. -/
theorem book_eq_ok {now : T} {node : Node} {appointment : Appointment T} {later : Schedule T}
    (booked : schedule.book now node = (.ok appointment, later)) :
    schedule.tracked.get? node.name = none ∧ appointment.timer = schedule.timers.length ∧
      ∃ start interval buffer,
        later = { buffer
                  records := schedule.records ++ [(DrainRecord.fresh node.name).schedule start]
                  timers := schedule.timers ++
                    [⟨node, schedule.records.length, interval, now + interval, .fresh⟩]
                  tracked := schedule.tracked.insert node.name schedule.records.length
                  armed := schedule.armed.insert node.name schedule.timers.length } := by
  unfold book at booked
  split at booked
  · cases booked
  · rename_i unknown
    cases booked
    refine ⟨by simpa [Table.contains] using unknown, rfl, _, _, _, rfl⟩

/-- A booking that is refused changes nothing. -/
theorem book_eq_error {now : T} {node : Node} {failure : Failure} {later : Schedule T}
    (booked : schedule.book now node = (.error failure, later)) : later = schedule := by
  unfold book at booked
  split at booked <;> cases booked
  rfl

theorem Consistent.book (consistent : schedule.Consistent) (now : T) (node : Node) :
    (schedule.book now node).2.Consistent := by
  generalize booked : schedule.book now node = outcome
  obtain ⟨_ | appointment, later⟩ := outcome
  · rw [book_eq_error booked]
    exact consistent
  obtain ⟨unknown, _, start, interval, buffer, rfl⟩ := book_eq_ok booked
  have paired := consistent.paired
  -- What was tracked before lies at a place before the new one.
  have older {name : String} {place : Nat} (tracked : schedule.tracked.get? name = some place) :
      place < schedule.records.length := by
    obtain ⟨_, found, _⟩ := consistent.tracked tracked
    exact (List.getElem?_eq_some_iff.mp found).1
  refine ⟨by simp [paired], ?_, ?_, ?_, ?_, ?_, consistent.tracked_proper.insert _ _,
    consistent.armed_proper.insert _ _⟩
  · intro timer found stands
    simp only [List.getElem?_append, List.getElem?_singleton] at stands ⊢
    split at stands
    · rename_i old
      obtain ⟨same, record, at_place, named⟩ := consistent.own stands
      exact ⟨same, record, by rwa [if_pos (by omega)], named⟩
    · split at stands <;> cases stands
      refine ⟨by dsimp only; omega, (DrainRecord.fresh node.name).schedule start, ?_, rfl⟩
      rw [if_neg (by omega), if_pos (by omega)]
  · intro place record stands
    simp only [List.getElem?_append, List.getElem?_singleton] at stands
    split at stands
    · exact consistent.scheduled stands
    · split at stands <;> cases stands
      exact Phase.noConfusion
  · intro place record stands
    simp only [List.getElem?_append, List.getElem?_singleton] at stands
    split at stands
    · exact consistent.finished stands
    · split at stands <;> cases stands
      exact Iff.rfl
  · intro name place tracked
    rw [Table.get?_insert] at tracked
    split at tracked
    · rename_i same
      cases tracked
      exact ⟨(DrainRecord.fresh node.name).schedule start, by simp, same⟩
    · obtain ⟨record, found, named⟩ := consistent.tracked tracked
      exact ⟨record, by rw [List.getElem?_append_left (older tracked), found], named⟩
  · intro name place
    simp only [Table.get?_insert, InPhase]
    split
    · rw [← paired]
      constructor
      · rintro ⟨⟩
        exact ⟨rfl, (DrainRecord.fresh node.name).schedule start, by simp, rfl⟩
      · exact And.left
    · rw [consistent.armed]
      refine and_congr_right fun tracked => ?_
      rw [List.getElem?_append_left (older tracked)]
      rfl

end Transactions

end Schedule

end Evacuation
