import Evacuation.Proofs.Schedule.Consistency
/-!
# How schedules grow

Records and timers are added to a schedule and never taken away. `Grows` says what a step leaves
alone: records other than those it touches, the identity of every timer, and timers that were made
before and are not armed. What was said of a record or of a timer that went off then stays true.
-/
namespace Evacuation

namespace Schedule

variable {T : Type}

/-- A timer was made with a node and a record, and went off. -/
def WentOff (schedule : Schedule T) (timer : Nat) (node : Node) (record : Nat) : Prop :=
  ∃ found, schedule.timers[timer]? = some found ∧ found.node = node ∧ found.record = record ∧
    found.state = .fired

/-- A timer that went off is found so. -/
theorem WentOff.state_eq {schedule : Schedule T} {timer record : Nat} {node : Node}
    {found : Timer T} (went : schedule.WentOff timer node record)
    (stands : schedule.timers[timer]? = some found) : found.state = .fired := by
  obtain ⟨_, stood, _, _, fired⟩ := went
  rw [stands] at stood
  cases stood
  exact fired

/-- A record that waited for its drain was dropped. -/
def Dropped (schedule : Schedule T) (record : Nat) : Prop :=
  schedule.InPhase record .scheduled ∧ ∀ node, schedule.tracked.get? node ≠ some record

/-- A step leaves alone all records but those it touches, the identity of every timer, old records
that are not tracked and old timers that are not armed, and begins no drain but of those it
touches. -/
structure Grows (touched : Nat → Prop) (before after : Schedule T) : Prop where
  records {place : Nat} {record : DrainRecord T} : ¬ touched place →
    before.records[place]? = some record → after.records[place]? = some record
  begun {place : Nat} : ¬ touched place → after.InPhase place .draining →
    before.InPhase place .draining
  timers {timer : Nat} {found : Timer T} : before.timers[timer]? = some found →
    ∃ later, after.timers[timer]? = some later ∧ later.node = found.node ∧
      later.record = found.record ∧ (found.state = .fired → later.state = .fired)
  tracked {node : String} {place : Nat} : after.tracked.get? node = some place →
    before.tracked.get? node = some place ∨ before.records.length ≤ place
  armed {node : String} {timer : Nat} : after.armed.get? node = some timer →
    before.armed.get? node = some timer ∨ before.timers.length ≤ timer

namespace Grows

variable {touched : Nat → Prop} {before after : Schedule T}

/-- A step that touches fewer records touches no others. -/
theorem mono (grows : before.Grows touched after) {wider : Nat → Prop}
    (within : ∀ place, touched place → wider place) : before.Grows wider after where
  records untouched := grows.records fun touches => untouched (within _ touches)
  begun untouched := grows.begun fun touches => untouched (within _ touches)
  timers := grows.timers
  tracked := grows.tracked
  armed := grows.armed

theorem inPhase (grows : before.Grows touched after) {place : Nat} {phase : Phase}
    (untouched : ¬ touched place) (stands : before.InPhase place phase) :
    after.InPhase place phase := by
  obtain ⟨record, found, same⟩ := stands
  exact ⟨record, grows.records untouched found, same⟩

theorem wentOff (grows : before.Grows touched after) {timer record : Nat} {node : Node}
    (went : before.WentOff timer node record) : after.WentOff timer node record := by
  obtain ⟨found, at_place, rfl, rfl, fired⟩ := went
  obtain ⟨later, at_place, node, record, fires⟩ := grows.timers at_place
  exact ⟨later, at_place, node, record, fires fired⟩

theorem dropped (grows : before.Grows touched after) {record : Nat} (untouched : ¬ touched record)
    (gone : before.Dropped record) : after.Dropped record := by
  refine ⟨grows.inPhase untouched gone.1, fun node tracked => ?_⟩
  obtain there | later := grows.tracked tracked
  · exact gone.2 node there
  · obtain ⟨_, found, _⟩ := gone.1
    have made := (List.getElem?_eq_some_iff.mp found).1
    omega

theorem length_timers (grows : before.Grows touched after) {timer : Nat}
    (made : timer < before.timers.length) : timer < after.timers.length := by
  obtain ⟨later, at_place, _⟩ := grows.timers (List.getElem?_eq_getElem made)
  exact (List.getElem?_eq_some_iff.mp at_place).1

end Grows

/-- What is found after a timer was turned. -/
theorem timers_turnTimer (schedule : Schedule T) (timer : Nat) (turn : TimerState → TimerState)
    (other : Nat) : (schedule.turnTimer timer turn).timers[other]? =
      schedule.timers[other]?.map fun found =>
        { found with state := if timer = other then turn found.state else found.state } := by
  simp only [turnTimer, List.getElem?_modify]
  by_cases same : timer = other <;> simp [same]

/-- A timer that is found after a timer was turned was there before. -/
theorem of_timers_turnTimer {schedule : Schedule T} {timer other : Nat}
    {turn : TimerState → TimerState} {later : Timer T}
    (stands : (schedule.turnTimer timer turn).timers[other]? = some later) :
    ∃ found, schedule.timers[other]? = some found ∧
      (timer = other ∧ later.state = turn found.state ∨
        timer ≠ other ∧ later.state = found.state) := by
  rw [timers_turnTimer] at stands
  obtain ⟨found, stood, rfl⟩ := Option.map_eq_some_iff.mp stands
  refine ⟨found, stood, ?_⟩
  by_cases same : timer = other
  · exact .inl ⟨same, if_pos same⟩
  · exact .inr ⟨same, if_neg same⟩

/-- Dropping what is tracked and armed touches no record. -/
theorem grows_drop {schedule : Schedule T} {tracked armed : Table String Nat}
    (untracked : ∀ {node place}, tracked.get? node = some place →
      schedule.tracked.get? node = some place)
    (unarmed : ∀ {node timer}, armed.get? node = some timer →
      schedule.armed.get? node = some timer) :
    schedule.Grows (fun _ => False) { schedule with tracked, armed } where
  records _ found := found
  begun _ drains := drains
  timers stands := ⟨_, stands, rfl, rfl, id⟩
  tracked found := .inl (untracked found)
  armed found := .inl (unarmed found)

/-- A step that changes nothing touches no record. -/
theorem Grows.refl (schedule : Schedule T) : schedule.Grows (fun _ => False) schedule :=
  grows_drop id id

/-- Turning a timer touches no record. -/
theorem grows_turnTimer {schedule : Schedule T} {timer : Nat} {turn : TimerState → TimerState}
    (fired : turn .fired = .fired) :
    schedule.Grows (fun _ => False) (schedule.turnTimer timer turn) where
  records _ found := found
  begun _ drains := drains
  timers {other found} stands := by
    refine ⟨_, (timers_turnTimer ..).trans (congrArg _ stands), rfl, rfl, fun went => ?_⟩
    dsimp only
    rw [went, fired, ite_self]
  tracked tracks := .inl tracks
  armed found := .inl found

/-- A booking touches no record that is there. -/
theorem grows_book [TimeScale T] {schedule later : Schedule T} {now : T} {node : Node}
    {appointment : Appointment T}
    (booked : schedule.book now node = (.ok appointment, later)) :
    schedule.Grows (fun _ => False) later := by
  obtain ⟨_, _, start, interval, buffer, rfl⟩ := book_eq_ok booked
  refine ⟨fun _ found => ?_, fun _ begun => ?_, fun stands => ?_, fun tracked => ?_,
    fun armed => ?_⟩
  · have inside := (List.getElem?_eq_some_iff.mp found).1
    exact (List.getElem?_append_left inside).trans found
  · obtain ⟨found, at_place, drains⟩ := begun
    rw [List.getElem?_append, List.getElem?_singleton] at at_place
    split at at_place
    · exact ⟨found, at_place, drains⟩
    · split at at_place <;> cases at_place
      cases drains
  · have inside := (List.getElem?_eq_some_iff.mp stands).1
    exact ⟨_, (List.getElem?_append_left inside).trans stands, rfl, rfl, id⟩
  · rw [Table.get?_insert] at tracked
    split at tracked
    · cases tracked
      exact .inr (Nat.le_refl _)
    · exact .inl tracked
  · rw [Table.get?_insert] at armed
    split at armed
    · cases armed
      exact .inr (Nat.le_refl _)
    · exact .inl armed

/-- A changed record is touched, and taking a timer off the armed ones arms none. -/
theorem grows_change {schedule : Schedule T} {record : Nat}
    {update : DrainRecord T → DrainRecord T} {armed : Table String Nat}
    (fewer : ∀ {node timer}, armed.get? node = some timer →
      schedule.armed.get? node = some timer) :
    schedule.Grows (· = record) { schedule.change record update with armed } where
  records {place found} other stands := by
    simp only [change, List.getElem?_modify, if_neg (Ne.symm other), stands]
    rfl
  begun {place} other begun := by
    obtain ⟨found, at_place, drains⟩ := inPhase_change.mp begun
    exact ⟨found, at_place, by rwa [if_neg (Ne.symm other)] at drains⟩
  timers stands := ⟨_, stands, rfl, rfl, id⟩
  tracked tracks := .inl tracks
  armed found := .inl (fewer found)

section Unbooked

variable [TimeScale T] {schedule : Schedule T} {transaction : Transaction}

/-- Only a booking makes a timer. -/
theorem timers_transact (now : T) (unbooked : ∀ node, transaction ≠ .book node) :
    (schedule.transact now transaction).2.timers = schedule.timers := by
  cases transaction with
  | book node => exact absurd rfl (unbooked node)
  | launch node record =>
    by_cases current : schedule.tracked.get? node = some record
    · simp only [transact, launch_current current]
      rfl
    · simp only [transact, launch_dropped current]
  | clear node =>
    simp only [transact, clear]
    split <;> rfl
  | look | finish | forget | halt => rfl

/-- Only a booking for a node makes it tracked. -/
theorem untracked_transact (now : T) {name : String}
    (other : ∀ node, transaction = .book node → node.name ≠ name)
    (untracked : schedule.tracked.get? name = none) :
    (schedule.transact now transaction).2.tracked.get? name = none := by
  have erased (node : String) : (schedule.tracked.erase node).get? name = none := by
    rw [Table.get?_erase, untracked, ite_self]
  cases transaction with
  | book node =>
    simp only [transact, book]
    split
    · exact untracked
    · rw [Table.get?_insert, if_neg (other node rfl)]
      exact untracked
  | launch node record =>
    by_cases current : schedule.tracked.get? node = some record
    · simp only [transact, launch_current current]
      exact untracked
    · simp only [transact, launch_dropped current]
      exact untracked
  | clear node =>
    simp only [transact, clear]
    split
    · exact erased node
    · exact untracked
  | forget node => exact erased node
  | halt =>
    simp only [transact, halt, Table.get?_foldl_erase, untracked, ite_self]
  | look | finish => exact untracked

/-- Only a booking for a node arms a timer for it. -/
theorem unarmed_transact (now : T) {name : String}
    (other : ∀ node, transaction = .book node → node.name ≠ name)
    (unarmed : schedule.armed.get? name = none) :
    (schedule.transact now transaction).2.armed.get? name = none := by
  have erased (node : String) : (schedule.armed.erase node).get? name = none := by
    rw [Table.get?_erase, unarmed, ite_self]
  cases transaction with
  | book node =>
    simp only [transact, book]
    split
    · exact unarmed
    · rw [Table.get?_insert, if_neg (other node rfl)]
      exact unarmed
  | launch node record =>
    by_cases current : schedule.tracked.get? node = some record
    · simp only [transact, launch_current current]
      exact erased node
    · simp only [transact, launch_dropped current]
      exact unarmed
  | clear node =>
    simp only [transact, clear]
    split <;> exact unarmed
  | forget node => exact erased node
  | halt => exact Table.get?_empty name
  | look | finish => exact unarmed

end Unbooked

end Schedule

end Evacuation
