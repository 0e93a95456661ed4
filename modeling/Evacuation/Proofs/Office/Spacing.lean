import Evacuation.Proofs.Office.Precedence
import Evacuation.Proofs.Office.Play
import Evacuation.Proofs.Schedule.Reservations
/-!
# How drains are spaced

Every start that is ever given out is one reservation of the buffer, and a booking is the only thing
that takes one. So the starts of all drains of a run are the starts the buffer gives out for the
times at which they were booked, whatever was forgotten, cleared or halted in between and however the
clock went (`Run.reserved`). The main statement adds what the exact scale makes of it
(`spaced_of_run`): a timer waits until its start and no longer, and of any two timers the later one
goes off at least the spacing after the earlier one.
-/
namespace Evacuation

variable {T : Type} [TimeScale T]

namespace Schedule

/-- A record is made for a start that was reserved at a time, and a timer that waits for the start. -/
structure Reserves (before : Schedule T) (now : T) (node : Node) (appointment : Appointment T)
    (after : Schedule T) : Prop where
  reserved : before.buffer.reserve now = (appointment.start, after.buffer)
  interval : appointment.interval = TimeScale.later (appointment.start - now) TimeScale.zero
  records : after.records =
    before.records ++ [(DrainRecord.fresh node.name).schedule appointment.start]
  timer : appointment.timer = before.timers.length
  timers : after.timers = before.timers ++
    [⟨node, before.records.length, appointment.interval, now + appointment.interval, .fresh⟩]

/-- Nothing is reserved, no record and no timer is made, and none of those there are is moved. -/
structure KeepsStarts (before after : Schedule T) : Prop where
  buffer : after.buffer = before.buffer
  records : after.records.map (·.scheduledFor) = before.records.map (·.scheduledFor)
  timers : after.timers.map (fun timer => (timer.interval, timer.due)) =
    before.timers.map fun timer => (timer.interval, timer.due)

variable {before after : Schedule T}

theorem reserves_of_book {now : T} {node : Node} {appointment : Appointment T}
    (booked : before.book now node = (.ok appointment, after)) :
    before.Reserves now node appointment after := by
  unfold book at booked
  split at booked
  · cases booked
  · cases booked
    exact ⟨rfl, rfl, rfl, rfl, rfl⟩

omit [TimeScale T] in
theorem KeepsStarts.refl (schedule : Schedule T) : schedule.KeepsStarts schedule := ⟨rfl, rfl, rfl⟩

/-- On the exact scale a timer waits until the start that was reserved, which is not before the
time. -/
theorem Reserves.due {before after : Schedule Rat} {now : Rat} {node : Node}
    {appointment : Appointment Rat} (reserves : before.Reserves now node appointment after) :
    appointment.interval = max (appointment.start - now) 0 ∧
      now + appointment.interval = appointment.start ∧ now ≤ appointment.start := by
  have start : appointment.start = before.buffer.nextStart now :=
    (congrArg Prod.fst reserves.reserved).symm
  have waits : appointment.interval = max (appointment.start - now) 0 := by
    rw [reserves.interval, TimeScale.later_eq_max]
    rfl
  have ahead : now ≤ appointment.start := start ▸ before.buffer.le_nextStart now
  refine ⟨waits, ?_, ahead⟩
  rw [waits, max_eq_left (sub_nonneg.mpr ahead)]
  exact add_sub_cancel now appointment.start

/-- What all members of a list keep under a change is not changed anywhere in the list. -/
theorem map_modify_of_kept {α β : Type} {read : α → β} {update : α → α}
    (kept : ∀ found, read (update found) = read found) (list : List α) (place : Nat) :
    (list.modify place update).map read = list.map read := by
  induction list generalizing place with
  | nil => simp
  | cons first rest ih =>
    cases place with
    | zero => simp [kept]
    | succ place => simpa using ih place

omit [TimeScale T] in
/-- What a drain writes into its record leaves the start of the drain as it is. -/
theorem keepsStarts_change (schedule : Schedule T) (record : Nat)
    {update : DrainRecord T → DrainRecord T} (armed : Table String Nat)
    (kept : ∀ found, (update found).scheduledFor = found.scheduledFor) :
    schedule.KeepsStarts { schedule.change record update with armed } :=
  ⟨rfl, map_modify_of_kept kept schedule.records record, rfl⟩

omit [TimeScale T] in
/-- A timer that starts, is cancelled or goes off keeps its time. -/
theorem keepsStarts_turnTimer (schedule : Schedule T) (timer : Nat)
    (turn : TimerState → TimerState) : schedule.KeepsStarts (schedule.turnTimer timer turn) :=
  ⟨rfl, rfl, @map_modify_of_kept _ _ _ (fun found => { found with state := turn found.state })
    (fun _ => rfl) schedule.timers timer⟩

/-- Of all transactions only a booking that succeeds reserves a start. -/
theorem keepsStarts_transact (schedule : Schedule T) (now : T) {transaction : Transaction}
    (unbooked : ∀ node appointment, transaction = .book node →
      (schedule.book now node).1 ≠ .ok appointment) :
    schedule.KeepsStarts (schedule.transact now transaction).2 := by
  cases transaction with
  | book node =>
    generalize booked : schedule.book now node = outcome at unbooked
    obtain ⟨_ | appointment, later⟩ := outcome
    · simp only [transact, booked, book_eq_error booked]
      exact .refl schedule
    · exact absurd (congrArg Prod.fst booked) (unbooked node appointment rfl)
  | launch node record =>
    by_cases current : schedule.tracked.get? node = some record
    · simp only [transact, launch_current current]
      exact keepsStarts_change schedule record _ fun _ => rfl
    · simp only [transact, launch_dropped current]
      exact .refl schedule
  | finish record retries error => exact keepsStarts_change schedule record _ fun _ => rfl
  | clear node =>
    simp only [transact, clear]
    split
    · exact ⟨rfl, rfl, rfl⟩
    · exact .refl schedule
  | look | forget | halt => exact ⟨rfl, rfl, rfl⟩

end Schedule

namespace Controller

/-- The desk reserves a start for each booking that succeeds, and for nothing else. -/
theorem keepsStarts_atDesk (controller : Controller T) (now : T) (desk : Desk T)
    {request : Control.Request T} (here : request.isErrand = false)
    (unbooked : ∀ node appointment, request = .transact (.book node) →
      (desk.schedule.book now node).1 ≠ .ok appointment) :
    desk.schedule.KeepsStarts (controller.atDesk now request desk).2.schedule := by
  cases request with
  | transact transaction =>
    refine Schedule.keepsStarts_transact desk.schedule now fun node appointment same => ?_
    exact unbooked node appointment (congrArg _ same)
  | start timer | cancel timer => exact Schedule.keepsStarts_turnTimer desk.schedule timer _
  | fire timer =>
    cases found : desk.schedule.timers[timer]? with
    | none =>
      simp only [atDesk, answer, id, found]
      exact .refl _
    | some made =>
      rw [atDesk_fire controller now desk found]
      exact Schedule.keepsStarts_turnTimer desk.schedule timer _
  | arm | count | screen | release | complain => exact .refl _
  | announce | cordon | drain => cases here

end Controller

namespace Office

variable {controller : Controller T} {office later : Office T} {deed : Deed T}

/-- A step reserves a start for the record it makes, or it makes none and leaves the buffer as it
is. -/
theorem Step.starts (step : Step controller office deed later) :
    (∃ clerk cause node appointment now,
      deed = .asked clerk cause ⟨.transact (.book node), .ok appointment⟩ ∧
        office.desk.schedule.Reserves now node appointment later.desk.schedule) ∨
    (∀ clerk cause node appointment,
      deed ≠ .asked clerk cause ⟨.transact (.book node), .ok appointment⟩) ∧
        office.desk.schedule.KeepsStarts later.desk.schedule := by
  by_cases booked : ∃ clerk cause node appointment,
      deed = .asked clerk cause ⟨.transact (.book node), .ok appointment⟩
  · obtain ⟨clerk, cause, node, appointment, rfl⟩ := booked
    obtain ⟨now, _, _, given⟩ := step.of_asked
    have reply := congrArg Prod.fst given
    have desk := congrArg (·.2.schedule) given
    have outcome : office.desk.schedule.book now node = (.ok appointment, later.desk.schedule) :=
      Prod.ext reply desk
    exact .inl ⟨clerk, cause, node, appointment, now, rfl, Schedule.reserves_of_book outcome⟩
  · right
    refine ⟨fun clerk cause node appointment same => booked ⟨clerk, cause, node, appointment, same⟩, ?_⟩
    cases step with
    | command | send | back => exact .refl _
    | fire stands ready now => exact controller.keepsStarts_atDesk now office.desk rfl nofun
    | @ask clerk cause request next found here now =>
      refine controller.keepsStarts_atDesk now office.desk here ?_
      rintro node appointment rfl given
      have same : (controller.atDesk now (.transact (.book node)) office.desk).1 = .ok appointment :=
        given
      exact booked ⟨clerk, cause, node, appointment, by rw [same]⟩

/-- A timer keeps its place, its interval and the time at which it goes off. -/
theorem Step.timer_kept (step : Step controller office deed later) {place : Nat} {found : Timer T}
    (stands : office.desk.schedule.timers[place]? = some found) :
    ∃ kept, later.desk.schedule.timers[place]? = some kept ∧ kept.interval = found.interval ∧
      kept.due = found.due := by
  obtain ⟨_, _, _, _, _, _, reserves⟩ | ⟨_, keeps⟩ := step.starts
  · have inside := (List.getElem?_eq_some_iff.mp stands).1
    rw [reserves.timers, List.getElem?_append_left inside]
    exact ⟨found, stands, rfl, rfl⟩
  · have same := congrArg (·[place]?) keeps.timers
    simp only [List.getElem?_map, stands, Option.map_some] at same
    obtain ⟨kept, there, times⟩ := Option.map_eq_some_iff.mp same
    exact ⟨kept, there, congrArg Prod.fst times, congrArg Prod.snd times⟩

/-- What was booked in a run is found in the schedule: a timer with the interval, that goes off the
interval after the time of the booking. -/
theorem Run.timer_of_booked {buffer : DrainBuffer T} {deeds : List (Deed T)} {clerk : Nat}
    {cause : Cause} {node : Node} {appointment : Appointment T}
    (run : Run controller (opened buffer) deeds office)
    (booked : .asked clerk cause ⟨.transact (.book node), .ok appointment⟩ ∈ deeds) :
    ∃ (before after : Schedule T) (now : T) (made : Timer T),
      before.Reserves now node appointment after ∧
        office.desk.schedule.timers[appointment.timer]? = some made ∧
          made.interval = appointment.interval ∧ made.due = now + appointment.interval := by
  induction run with
  | here => cases booked
  | @snoc deeds deed middle later run step ih =>
    obtain old | new := List.mem_append.mp booked
    · obtain ⟨before, after, now, made, reserves, stands, interval, due⟩ := ih old
      obtain ⟨kept, there, same, time⟩ := step.timer_kept stands
      exact ⟨before, after, now, kept, reserves, there, same.trans interval, time.trans due⟩
    · obtain rfl := List.mem_singleton.mp new
      obtain ⟨_, _, _, _, now, same, reserves⟩ | ⟨unbooked, _⟩ := step.starts
      · cases same
        refine ⟨_, _, now, ⟨node, middle.desk.schedule.records.length, appointment.interval, _, .fresh⟩,
          reserves, ?_, rfl, rfl⟩
        rw [reserves.timer, reserves.timers]
        exact List.getElem?_concat_length
      · exact absurd rfl (unbooked clerk cause node appointment)

end Office

/-! ## Runs on the exact scale -/

/-- The starts of all records, and the times of all timers, are what a buffer gave out for times. -/
structure Schedule.Reserved (schedule : Schedule Rat) (fresh : DrainBuffer Rat)
    (times : List Rat) : Prop where
  buffer : schedule.buffer = fresh.after times
  records : schedule.records.map (·.scheduledFor) = (fresh.starts times).map some
  timers : schedule.timers.map (·.due) = fresh.starts times

namespace Schedule.Reserved

variable {before after : Schedule Rat} {buffer : DrainBuffer Rat} {times : List Rat}

theorem kept (reserved : before.Reserved buffer times) (keeps : before.KeepsStarts after) :
    after.Reserved buffer times := by
  have dues : after.timers.map (·.due) = before.timers.map (·.due) := by
    have pairs := congrArg (List.map Prod.snd) keeps.timers
    rwa [List.map_map, List.map_map] at pairs
  exact ⟨keeps.buffer.trans reserved.buffer, keeps.records.trans reserved.records,
    dues.trans reserved.timers⟩

theorem reserve {now : Rat} {node : Node} {appointment : Appointment Rat}
    (reserved : before.Reserved buffer times)
    (reserves : before.Reserves now node appointment after) :
    after.Reserved buffer (times ++ [now]) := by
  have given : (buffer.after times).reserve now = (appointment.start, after.buffer) := by
    rw [← reserved.buffer]
    exact reserves.reserved
  refine ⟨?_, ?_, ?_⟩
  · rw [DrainBuffer.after_concat, given]
  · rw [reserves.records, DrainBuffer.starts_concat, given, List.map_append, List.map_append,
      reserved.records]
    rfl
  · rw [reserves.timers, DrainBuffer.starts_concat, given, List.map_append, reserved.timers]
    simp only [List.map_cons, List.map_nil, reserves.due.2.1]

end Schedule.Reserved

namespace Office

variable {controller : Controller Rat} {buffer : DrainBuffer Rat} {office : Office Rat}
  {deeds : List (Deed Rat)}

/-- The starts of a run are those the buffer gives out for the times of its bookings. -/
theorem Run.reserved (run : Run controller (opened buffer) deeds office) :
    ∃ times, office.desk.schedule.Reserved buffer times := by
  induction run with
  | here => exact ⟨[], rfl, rfl, rfl⟩
  | snoc _ step ih =>
    obtain ⟨times, reserved⟩ := ih
    obtain ⟨_, _, _, _, now, _, reserves⟩ | ⟨_, keeps⟩ := step.starts
    · exact ⟨times ++ [now], reserved.reserve reserves⟩
    · exact ⟨times, reserved.kept keeps⟩

/-- Of any two timers the later one goes off at least the spacing after the earlier one. -/
theorem Run.add_spacing_le_due (nonnegative : 0 ≤ buffer.spacing)
    (run : Run controller (opened buffer) deeds office) {first second : Nat} {one two : Timer Rat}
    (earlier : first < second) (one_stands : office.desk.schedule.timers[first]? = some one)
    (two_stands : office.desk.schedule.timers[second]? = some two) :
    one.due + buffer.spacing ≤ two.due := by
  obtain ⟨times, reserved⟩ := run.reserved
  have start {place : Nat} {found : Timer Rat}
      (stands : office.desk.schedule.timers[place]? = some found) :
      (buffer.starts times)[place]? = some found.due := by
    rw [← reserved.timers, List.getElem?_map, stands]
    rfl
  obtain ⟨one_inside, one_due⟩ := List.getElem?_eq_some_iff.mp (start one_stands)
  obtain ⟨two_inside, two_due⟩ := List.getElem?_eq_some_iff.mp (start two_stands)
  have spaced := DrainBuffer.pairwise_starts nonnegative times
  have apart := List.pairwise_iff_getElem.mp spaced first second one_inside two_inside earlier
  rwa [one_due, two_due] at apart

/-- A timer is set up with the interval with which its drain was booked, and goes off at the start
that was booked. -/
theorem Run.timer_of_arm {before after : List (Deed Rat)} {clerk : Nat} {cause : Cause}
    {timer : Nat} {interval : Rat} {reply : (Control Rat).Reply (.arm timer interval)}
    (run : Run controller (opened buffer)
      (before ++ .asked clerk cause ⟨.arm timer interval, reply⟩ :: after) office) :
    ∃ node appointment made,
      .asked clerk cause ⟨.transact (.book node), .ok appointment⟩ ∈ before ∧
        appointment.timer = timer ∧ appointment.interval = interval ∧
          office.desk.schedule.timers[timer]? = some made ∧ made.interval = interval ∧
            made.due = appointment.start := by
  obtain ⟨node, appointment, booked, rfl, rfl⟩ := run.booked_of_arm
  obtain ⟨_, _, now, made, reserves, stands, interval, due⟩ :=
    run.timer_of_booked (List.mem_append_left _ booked)
  exact ⟨node, appointment, made, booked, rfl, rfl, stands, interval, due.trans reserves.due.2.1⟩

/-- The drains of a run are spaced, however the clock goes. A booking takes one reservation for the
one record and the one timer it makes, the timer waits until the start that was reserved, and
nothing else takes or returns a reservation; all starts together are those that the buffer gives out
one after another; each timer is set up as it was booked; and of any two timers, whichever nodes they
are for and whatever became of them, the later one goes off at least the spacing after the other. -/
theorem spaced_of_run {spacing : Rat} (made : DrainBuffer.ofSpacing? spacing = some buffer)
    (run : Run controller (opened buffer) deeds office) :
    (∀ deed later, Step controller office deed later →
      (∃ clerk cause node appointment now,
        deed = .asked clerk cause ⟨.transact (.book node), .ok appointment⟩ ∧
          office.desk.schedule.Reserves now node appointment later.desk.schedule ∧
          appointment.interval = max (appointment.start - now) 0 ∧
          now + appointment.interval = appointment.start ∧ now ≤ appointment.start) ∨
      (∀ clerk cause node appointment,
        deed ≠ .asked clerk cause ⟨.transact (.book node), .ok appointment⟩) ∧
          office.desk.schedule.KeepsStarts later.desk.schedule) ∧
    (∃ times, office.desk.schedule.Reserved buffer times) ∧
    (∀ before clerk cause timer interval reply after,
      deeds = before ++ .asked clerk cause ⟨.arm timer interval, reply⟩ :: after →
        ∃ node appointment found,
          .asked clerk cause ⟨.transact (.book node), .ok appointment⟩ ∈ before ∧
            appointment.timer = timer ∧ appointment.interval = interval ∧
              office.desk.schedule.timers[timer]? = some found ∧ found.interval = interval ∧
                found.due = appointment.start) ∧
    ∀ (first second : Nat) (one two : Timer Rat), first < second →
      office.desk.schedule.timers[first]? = some one →
        office.desk.schedule.timers[second]? = some two → one.due + spacing ≤ two.due := by
  obtain ⟨nonnegative, rfl⟩ := DrainBuffer.of_ofSpacing? made
  refine ⟨fun deed later step => ?_, run.reserved, ?_, ?_⟩
  · obtain ⟨clerk, cause, node, appointment, now, same, reserves⟩ | kept := step.starts
    · exact .inl ⟨clerk, cause, node, appointment, now, same, reserves, reserves.due⟩
    · exact .inr kept
  · rintro before clerk cause timer interval reply after rfl
    exact run.timer_of_arm
  · intro first second one two earlier one_stands two_stands
    exact run.add_spacing_le_due nonnegative earlier one_stands two_stands

/-- Three drains are booked while the clock goes backwards, one of them twice in vain, and the first
one is dropped and booked again. -/
def backwards : List (Move Rat) :=
  [.command (.schedule { name := "n1" }), .ask 0 100, .ask 0 100, .ask 0 100,
    .command (.schedule { name := "n2" }), .ask 1 50, .ask 1 50, .ask 1 50,
    .command (.schedule { name := "n2" }), .ask 2 45,
    .command (.delete "n1"), .ask 3 40, .ask 3 40,
    .command (.schedule { name := "n1" }), .ask 4 0, .ask 4 0]

theorem isSome_backwards :
    (play? { drainer := .dryRun, chain := [] } backwards (opened ⟨60, none⟩)).isSome = true := by
  decide +kernel

/-- The timers of the three drains go off a minute apart. -/
theorem spaced_backwards : ∃ (deeds : List (Deed Rat)) (office : Office Rat),
    Run { drainer := .dryRun, chain := [] } (opened ⟨60, none⟩) deeds office ∧
      office.desk.schedule.timers.map (·.due) = [100, 160, 220] ∧
      (∃ times, office.desk.schedule.Reserved ⟨60, none⟩ times) ∧
      ∀ (first second : Nat) (one two : Timer Rat), first < second →
        office.desk.schedule.timers[first]? = some one →
          office.desk.schedule.timers[second]? = some two → one.due + 60 ≤ two.due := by
  have run := Run.of_play? (Option.some_get isSome_backwards).symm
  have dues : (Option.get _ isSome_backwards).2.desk.schedule.timers.map (·.due) =
      [100, 160, 220] := by
    decide +kernel
  have made : DrainBuffer.ofSpacing? (60 : Rat) = some ⟨60, none⟩ := rfl
  obtain ⟨_, reserved, _, apart⟩ := spaced_of_run made run
  exact ⟨_, _, run, dues, reserved, apart⟩

end Office

end Evacuation
