import Evacuation.Proofs.Office.Roster
import Evacuation.Proofs.Schedule.Growth
/-!
# Agreement between schedule and clerks

Between two transactions of a clerk the timers may be out of step with the tables: a timer that was
made is not yet started, one whose record was dropped is not yet cancelled, one that went off has
not yet begun its drain. What is missing is exactly what some clerk owes. `Agreed` says how
schedule and roster fit together; each lemma carries the agreement through one kind of step.
-/
namespace Evacuation

namespace Schedule

variable {T : Type}

/-- A duty fits what the schedule says about its cause. -/
inductive Fits (schedule : Schedule T) : Cause → Duty → Prop where
  | free (command : Control.Command) : Fits schedule (.command command) .free
  | start (command : Control.Command) {timer : Nat} (made : timer < schedule.timers.length) :
      Fits schedule (.command command) (.start timer)
  | cancel (command : Control.Command) {timer : Nat} {others : List Nat}
      (dropped : ∀ other ∈ timer :: others, other < schedule.timers.length ∧
        ∀ node, schedule.armed.get? node ≠ some other) :
      Fits schedule (.command command) (.cancel timer others)
  | launch {timer record : Nat} {node : Node} (went : schedule.WentOff timer node record)
      (waits : schedule.InPhase record .scheduled) :
      Fits schedule (.timer timer node record) (.launch node.name record)
  | execute {timer record : Nat} {node : Node} (went : schedule.WentOff timer node record)
      (begun : schedule.InPhase record .draining) :
      Fits schedule (.timer timer node record) (.execute record)
  | conclude {timer record : Nat} {node : Node} (went : schedule.WentOff timer node record)
      (begun : schedule.InPhase record .draining) :
      Fits schedule (.timer timer node record) (.conclude record)
  | dismissed {timer record : Nat} {node : Node} (went : schedule.WentOff timer node record)
      (dropped : schedule.Dropped record) :
      Fits schedule (.timer timer node record) .dismissed
  | concluded {timer record : Nat} {node : Node} (went : schedule.WentOff timer node record)
      {phase : Phase} (terminal : phase.isTerminal = true)
      (ended : schedule.InPhase record phase) : Fits schedule (.timer timer node record) .concluded

/-- Timers that are to be cancelled fit if none of them is armed. -/
theorem fits_ofTimers {schedule : Schedule T} (command : Control.Command) {timers : List Nat}
    (dropped : ∀ timer ∈ timers, timer < schedule.timers.length ∧
      ∀ node, schedule.armed.get? node ≠ some timer) :
    schedule.Fits (.command command) (.ofTimers timers) := by
  cases timers with
  | nil => exact .free command
  | cons timer others => exact .cancel command dropped

/-- A duty goes on to fit while its own record is left alone. -/
theorem Fits.grow {before after : Schedule T} {touched : Nat → Prop} {cause : Cause} {duty : Duty}
    (fits : before.Fits cause duty) (grows : before.Grows touched after)
    (elsewhere : ∀ timer node record, cause = .timer timer node record → ¬ touched record) :
    after.Fits cause duty := by
  cases fits with
  | free command => exact .free command
  | start command made => exact .start command (grows.length_timers made)
  | cancel command dropped =>
    refine .cancel command fun other member => ⟨grows.length_timers (dropped other member).1, ?_⟩
    intro node armed
    obtain before | new := grows.armed armed
    · exact (dropped other member).2 node before
    · exact absurd (dropped other member).1 (by omega)
  | launch went waits =>
    exact .launch (grows.wentOff went) (grows.inPhase (elsewhere _ _ _ rfl) waits)
  | execute went begun =>
    exact .execute (grows.wentOff went) (grows.inPhase (elsewhere _ _ _ rfl) begun)
  | conclude went begun =>
    exact .conclude (grows.wentOff went) (grows.inPhase (elsewhere _ _ _ rfl) begun)
  | dismissed went dropped =>
    exact .dismissed (grows.wentOff went) (grows.dropped (elsewhere _ _ _ rfl) dropped)
  | concluded went terminal ended =>
    exact .concluded (grows.wentOff went) terminal (grows.inPhase (elsewhere _ _ _ rfl) ended)

/-- A timer that a clerk works for went off. -/
theorem Fits.wentOff {schedule : Schedule T} {timer record : Nat} {node : Node} {duty : Duty}
    (fits : schedule.Fits (.timer timer node record) duty) :
    schedule.WentOff timer node record := by
  cases fits with
  | launch went _ | execute went _ | conclude went _ | dismissed went _ | concluded went _ _ => exact went

/-- The record of a timer that went off is the one at the timer's place. -/
theorem Consistent.record_eq {schedule : Schedule T} (consistent : schedule.Consistent)
    {timer record : Nat} {node : Node} (went : schedule.WentOff timer node record) :
    record = timer := by
  obtain ⟨found, stands, _, rfl, _⟩ := went
  exact (consistent.own stands).1

/-- The record of a timer that went off is tracked under the name of the timer's node, if at all. -/
theorem Consistent.node_eq {schedule : Schedule T} (consistent : schedule.Consistent)
    {timer record : Nat} {node : Node} {name : String}
    (went : schedule.WentOff timer node record) (tracked : schedule.tracked.get? name = some record) :
    node.name = name := by
  obtain rfl := consistent.record_eq went
  obtain ⟨found, stands, rfl, _, _⟩ := went
  obtain ⟨_, made, at_place, named⟩ := consistent.own stands
  obtain ⟨also, there, rfl⟩ := consistent.tracked tracked
  rw [at_place] at there
  cases there
  exact named.symm

/-- How a schedule and the duties of clerks fit together. -/
structure Agreed (schedule : Schedule T) (roster : Roster) : Prop where
  consistent : schedule.Consistent
  fits {clerk : Nat} {cause : Cause} {duty : Duty} : roster[clerk]? = some (cause, duty) →
    schedule.Fits cause duty
  /-- A timer goes off for one clerk only. -/
  alone {clerk other timer record place : Nat} {node name : Node} {duty task : Duty} :
    roster[clerk]? = some (.timer timer node record, duty) →
      roster[other]? = some (.timer timer name place, task) → clerk = other
  /-- An armed timer runs. -/
  live {node : String} {timer : Nat} : schedule.armed.get? node = some timer →
    ∃ found, schedule.timers[timer]? = some found ∧ roster.Runs timer found.state
  /-- A timer that may still run is armed, unless a clerk is about to cancel it. -/
  idle {timer : Nat} {found : Timer T} : schedule.timers[timer]? = some found →
    found.state = .fresh ∨ found.state = .pending →
      (∀ node, schedule.armed.get? node ≠ some timer) → roster.Drops timer
  /-- Until its timer goes off, a record waits. -/
  waits {timer : Nat} {found : Timer T} : schedule.timers[timer]? = some found →
    found.state ≠ .fired → schedule.InPhase timer .scheduled
  /-- A drain that was begun and has not ended is carried on by a clerk. -/
  drains {record : Nat} : schedule.InPhase record .draining → roster.Carries record

namespace Agreed

variable {before after schedule : Schedule T} {touched : Nat → Prop} {roster : Roster}
  {clerk : Nat} {cause : Cause} {duty later : Duty}

/-- A clerk's duty changes with the schedule, which must still fit; that the duties of the others
fit follows. -/
theorem move (agreed : before.Agreed roster) (here : roster[clerk]? = some (cause, duty))
    (consistent : after.Consistent) (grows : before.Grows touched after)
    (own : ∀ record, touched record → ∃ timer node, cause = .timer timer node record)
    (fits : after.Fits cause later)
    (live : ∀ {node timer}, after.armed.get? node = some timer →
      ∃ found, after.timers[timer]? = some found ∧
        Roster.Runs (roster.set clerk (cause, later)) timer found.state)
    (idle : ∀ {timer found}, after.timers[timer]? = some found →
      found.state = .fresh ∨ found.state = .pending →
        (∀ node, after.armed.get? node ≠ some timer) →
          Roster.Drops (roster.set clerk (cause, later)) timer)
    (waits : ∀ {timer found}, after.timers[timer]? = some found → found.state ≠ .fired →
      after.InPhase timer .scheduled)
    (drains : ∀ {record}, after.InPhase record .draining →
      Roster.Carries (roster.set clerk (cause, later)) record) :
    after.Agreed (roster.set clerk (cause, later)) := by
  have old {place : Nat} {origin : Cause} {task : Duty}
      (there : (roster.set clerk (cause, later))[place]? = some (origin, task)) :
      ∃ former, roster[place]? = some (origin, former) := by
    obtain ⟨rfl, same⟩ | ⟨_, there⟩ := Roster.of_set there
    · cases same
      exact ⟨_, here⟩
    · exact ⟨_, there⟩
  refine ⟨consistent, ?_, ?_, live, idle, waits, drains⟩
  · intro place origin task there
    obtain ⟨rfl, same⟩ | ⟨other, stood⟩ := Roster.of_set there
    · cases same
      exact fits
    · refine (agreed.fits stood).grow grows ?_
      rintro timer node record rfl touches
      obtain ⟨also, name, rfl⟩ := own record touches
      -- Both timers stand at the place of the record, so they are one.
      have same := agreed.consistent.record_eq (agreed.fits here).wentOff
      have again := agreed.consistent.record_eq (agreed.fits stood).wentOff
      obtain rfl : timer = also := again.symm.trans same
      exact other (agreed.alone stood here)
  · intro place other timer record spot node name task further one two
    obtain ⟨_, one⟩ := old one
    obtain ⟨_, two⟩ := old two
    exact agreed.alone one two

/-- A clerk whose duty stays as it is leaves the roster as it is. -/
theorem stay (agreed : schedule.Agreed roster) (here : roster[clerk]? = some (cause, duty)) :
    schedule.Agreed (roster.set clerk (cause, duty)) := by
  obtain ⟨inside, same⟩ := List.getElem?_eq_some_iff.mp here
  rwa [← same, List.set_getElem_self]

/-- Records wait for their timers whichever way a timer is turned that has not gone off. -/
theorem waits_turnTimer {timer other : Nat} {turn : TimerState → TimerState} {found : Timer T}
    (agreed : schedule.Agreed roster) (fired : turn .fired = .fired)
    (stands : (schedule.turnTimer timer turn).timers[other]? = some found)
    (unfired : found.state ≠ .fired) : schedule.InPhase other .scheduled := by
  obtain ⟨before, stood, ⟨_, turned⟩ | ⟨_, same⟩⟩ := of_timers_turnTimer stands
  · refine agreed.waits stood fun went => unfired ?_
    rw [turned, went, fired]
  · exact agreed.waits stood (same ▸ unfired)

/-- A timer that is started joins those that run. -/
theorem start {timer : Nat} (agreed : schedule.Agreed roster)
    (here : roster[clerk]? = some (cause, .start timer)) :
    (schedule.turnTimer timer .start).Agreed (roster.set clerk (cause, .free)) := by
  refine agreed.move here (agreed.consistent.turnTimer _ _)
    (grows_turnTimer rfl) (fun _ => False.elim) ?_ ?_ ?_ (agreed.waits_turnTimer rfl)
    fun begun => (agreed.drains begun).set here Duty.noConfusion Duty.noConfusion _
  · cases agreed.fits here with
    | start command => exact .free command
  · intro node other armed
    obtain ⟨found, stands, runs⟩ := agreed.live armed
    refine ⟨_, (timers_turnTimer ..).trans (congrArg _ stands), ?_⟩
    dsimp only
    split
    · obtain ⟨fresh, _⟩ | pending | ⟨fired, name, owes⟩ := runs
      · exact .inr (.inl (by rw [fresh]; rfl))
      · exact .inr (.inl (by rw [pending]; rfl))
      · exact .inr (.inr ⟨by rw [fired]; rfl, name, owes.set here Duty.noConfusion _⟩)
    · rename_i elsewhere
      exact runs.set here (fun same => elsewhere (Duty.start.inj same))
        (fun _ => Duty.noConfusion) _
  · intro other later stands runs unarmed
    obtain ⟨found, stood, ⟨_, turned⟩ | ⟨_, same⟩⟩ := of_timers_turnTimer stands
    · have ran : found.state = .fresh ∨ found.state = .pending := by
        rw [turned] at runs
        revert runs
        cases found.state <;> simp [TimerState.start]
      exact (agreed.idle stood ran unarmed).set here (fun _ _ => Duty.noConfusion) _
    · exact (agreed.idle stood (same ▸ runs) unarmed).set here (fun _ _ => Duty.noConfusion) _

/-- A timer that is cancelled runs no more. -/
theorem cancel {timer : Nat} {others : List Nat} (agreed : schedule.Agreed roster)
    (here : roster[clerk]? = some (cause, .cancel timer others)) :
    (schedule.turnTimer timer .cancel).Agreed (roster.set clerk (cause, .ofTimers others)) := by
  have fits := agreed.fits here
  cases fits with
  | cancel command dropped =>
  refine agreed.move here (agreed.consistent.turnTimer _ _)
    (grows_turnTimer rfl) (fun _ => False.elim) ?_ ?_ ?_ (agreed.waits_turnTimer rfl)
    fun begun => (agreed.drains begun).set here Duty.noConfusion Duty.noConfusion _
  · refine fits_ofTimers command fun other member => ?_
    obtain ⟨made, unarmed⟩ := dropped other (List.mem_cons_of_mem _ member)
    exact ⟨by simpa [turnTimer] using made, unarmed⟩
  · intro node other armed
    obtain ⟨found, stands, runs⟩ := agreed.live armed
    have elsewhere : timer ≠ other := by
      rintro rfl
      exact (dropped timer List.mem_cons_self).2 node armed
    refine ⟨_, (timers_turnTimer ..).trans (congrArg _ stands), ?_⟩
    dsimp only
    rw [if_neg elsewhere]
    exact runs.set here Duty.noConfusion (fun _ => Duty.noConfusion) _
  · intro other later stands runs unarmed
    obtain ⟨found, stood, ⟨_, turned⟩ | ⟨elsewhere, same⟩⟩ := of_timers_turnTimer stands
    · rw [turned] at runs
      revert runs
      cases found.state <;> simp [TimerState.cancel]
    · exact (agreed.idle stood (same ▸ runs) unarmed).next here (Ne.symm elsewhere)

/-- A booked drain has a timer that is about to be started. -/
theorem book [TimeScale T] {now : T} {node : Node} {appointment : Appointment T}
    {later : Schedule T} (agreed : schedule.Agreed roster)
    (here : roster[clerk]? = some (cause, .free))
    (booked : schedule.book now node = (.ok appointment, later)) :
    later.Agreed (roster.set clerk (cause, .start appointment.timer)) := by
  have consistent := agreed.consistent.book now node
  rw [booked] at consistent
  have paired := agreed.consistent.paired
  have grows := grows_book booked
  obtain ⟨unknown, made, start, interval, buffer, rfl⟩ := book_eq_ok booked
  refine agreed.move here consistent grows (fun _ => False.elim) ?_ ?_ ?_ ?_ fun begun =>
    (agreed.drains (grows.begun not_false begun)).set here Duty.noConfusion Duty.noConfusion _
  · cases agreed.fits here with
    | free command => exact .start command (by simp [made])
  · intro name timer armed
    rw [Table.get?_insert] at armed
    split at armed
    · cases armed
      refine ⟨_, List.getElem?_concat_length, .inl ⟨rfl, ?_⟩⟩
      rw [← made]
      exact Roster.owes_set here
    · obtain ⟨found, stands, runs⟩ := agreed.live armed
      have inside := agreed.consistent.lt_of_armed armed
      exact ⟨found, (List.getElem?_append_left inside).trans stands,
        runs.set here Duty.noConfusion (fun _ => Duty.noConfusion) _⟩
  · intro timer found stands runs unarmed
    rw [List.getElem?_append, List.getElem?_singleton] at stands
    split at stands
    · refine (agreed.idle stands runs fun name armed => unarmed name ?_).set here
        (fun _ _ => Duty.noConfusion) _
      rw [Table.get?_insert, if_neg]
      · exact armed
      · rintro rfl
        rw [(agreed.consistent.armed.mp armed).1] at unknown
        cases unknown
    · split at stands <;> cases stands
      refine absurd ?_ (unarmed node.name)
      rw [Table.get?_insert, if_pos rfl]
      exact congrArg some (by omega)
  · intro timer found stands unfired
    rw [List.getElem?_append, List.getElem?_singleton] at stands
    split at stands
    · exact grows.inPhase not_false (agreed.waits stands unfired)
    · split at stands <;> cases stands
      obtain rfl : timer = schedule.records.length := by omega
      exact ⟨_, List.getElem?_concat_length, rfl⟩

/-- Dropping armed timers leaves the clerk to cancel them. -/
theorem drop {tracked armed : Table String Nat} {timers : List Nat}
    (agreed : schedule.Agreed roster) (here : roster[clerk]? = some (cause, .free))
    (consistent : Consistent { schedule with tracked, armed })
    (untracked : ∀ {node place}, tracked.get? node = some place →
      schedule.tracked.get? node = some place)
    (unarmed : ∀ {node timer}, armed.get? node = some timer →
      schedule.armed.get? node = some timer)
    (dropped : ∀ {timer}, timer ∈ timers ↔ (∃ node, schedule.armed.get? node = some timer) ∧
      ∀ node, armed.get? node ≠ some timer) :
    Agreed { schedule with tracked, armed } (roster.set clerk (cause, .ofTimers timers)) := by
  refine agreed.move here consistent (grows_drop untracked unarmed) (fun _ => False.elim) ?_ ?_ ?_
    agreed.waits
    fun begun => (agreed.drains begun).set here Duty.noConfusion Duty.noConfusion _
  · cases agreed.fits here with
    | free command =>
    refine fits_ofTimers command fun timer member => ?_
    obtain ⟨⟨node, found⟩, unarmed⟩ := dropped.mp member
    exact ⟨agreed.consistent.lt_of_armed found, unarmed⟩
  · intro node timer found
    obtain ⟨made, stands, runs⟩ := agreed.live (unarmed found)
    exact ⟨made, stands, runs.set here Duty.noConfusion (fun _ => Duty.noConfusion) _⟩
  · intro timer found stands runs unarmed
    by_cases before : ∃ node, schedule.armed.get? node = some timer
    · exact Roster.drops_set here (dropped.mpr ⟨before, unarmed⟩)
    · refine (agreed.idle stands runs fun node found => before ⟨node, found⟩).set here
        (fun _ _ => Duty.noConfusion) _

/-- A node that is forgotten leaves its timer to be cancelled. -/
theorem forget (agreed : schedule.Agreed roster) (here : roster[clerk]? = some (cause, .free))
    (node : String) : (schedule.forget node).2.Agreed
      (roster.set clerk (cause, .ofTimers (schedule.forget node).1.toList)) := by
  refine agreed.drop here (agreed.consistent.forget node) Table.get?_of_erase
    Table.get?_of_erase ?_
  intro timer
  rw [Option.mem_toList]
  constructor
  · intro armed
    refine ⟨⟨node, armed⟩, fun name found => ?_⟩
    have before := Table.get?_of_erase found
    obtain rfl := agreed.consistent.tracked_unique (agreed.consistent.armed.mp armed).1
      (agreed.consistent.armed.mp before).1
    rw [Table.get?_erase, if_pos rfl] at found
    cases found
  · rintro ⟨⟨name, armed⟩, unarmed⟩
    have found := unarmed name
    rw [Table.get?_erase] at found
    split at found
    · rename_i same
      exact same ▸ armed
    · exact absurd armed found

/-- All that waits is left to be cancelled. -/
theorem halt (agreed : schedule.Agreed roster) (here : roster[clerk]? = some (cause, .free)) :
    schedule.halt.2.Agreed (roster.set clerk (cause, .ofTimers schedule.halt.1)) := by
  refine agreed.drop here agreed.consistent.halt (fun {node place} found => ?_)
    (fun {node timer} found => ?_) ?_
  · rw [Table.get?_foldl_erase] at found
    split at found
    · cases found
    · exact found
  · rw [Table.get?_empty] at found
    cases found
  · intro timer
    refine agreed.consistent.armed_proper.mem_values_iff.trans (iff_self_and.mpr fun _ node => ?_)
    rw [Table.get?_empty]
    nofun

/-- Giving up the record of a drain that has ended concerns no timer. -/
theorem clear (agreed : schedule.Agreed roster) (node : String) :
    (schedule.clear node).2.Agreed roster := by
  have consistent := agreed.consistent.clear node
  unfold Schedule.clear at consistent ⊢
  split at consistent
  · rename_i ended
    rw [if_pos ended]
    refine ⟨consistent, fun found => ?_, agreed.alone, agreed.live, agreed.idle, agreed.waits,
      agreed.drains⟩
    exact (agreed.fits found).grow (grows_drop Table.get?_of_erase id) fun _ _ _ _ => id
  · rename_i goes_on
    rwa [if_neg goes_on]

/-- The timer of a drain has gone off, so no record that waits for its timer is the drain's. -/
theorem waits_change {timer record place : Nat} {node : Node} {found : Timer T}
    {update : DrainRecord T → DrainRecord T} (agreed : schedule.Agreed roster)
    (went : schedule.WentOff timer node record) (stands : schedule.timers[place]? = some found)
    (unfired : found.state ≠ .fired) :
    (schedule.change record update).InPhase place .scheduled := by
  obtain ⟨waiting, at_place, phase⟩ := agreed.waits stands unfired
  refine inPhase_change.mpr ⟨waiting, at_place, ?_⟩
  have elsewhere : record ≠ place := by
    rintro rfl
    obtain rfl := agreed.consistent.record_eq went
    exact unfired (went.state_eq stands)
  rwa [if_neg elsewhere]

/-- A drain begins for its clerk, and its timer is armed no more. -/
theorem launched {node : String} {record : Nat} (agreed : schedule.Agreed roster)
    (here : roster[clerk]? = some (cause, .launch node record)) (now : T)
    (current : schedule.tracked.get? node = some record) :
    (schedule.launch now node record).2.Agreed (roster.set clerk (cause, .execute record)) := by
  have fits := agreed.fits here
  rw [launch_current current]
  cases fits with
  | @launch timer _ node went waits =>
  have consistent := agreed.consistent.launch now current waits
  have grows : schedule.Grows (· = record)
      { schedule.change record (·.begun now) with armed := schedule.armed.erase node.name } :=
    grows_change Table.get?_of_erase
  refine agreed.move here consistent grows ?_ ?_ ?_ ?_ (agreed.waits_change went) ?_
  · rintro _ rfl
    exact ⟨timer, node, rfl⟩
  · refine .execute (grows.wentOff went) ?_
    obtain ⟨found, at_place, _⟩ := waits
    exact inPhase_change.mpr ⟨found, at_place, by rw [if_pos rfl]; rfl⟩
  · intro name other armed
    obtain ⟨found, stands, runs⟩ := agreed.live (Table.get?_of_erase armed)
    refine ⟨found, stands, runs.set here Duty.noConfusion ?_ _⟩
    rintro _ ⟨⟩
    have tracked := (agreed.consistent.armed.mp (Table.get?_of_erase armed)).1
    obtain rfl := agreed.consistent.tracked_unique current tracked
    rw [Table.get?_erase, if_pos rfl] at armed
    cases armed
  · intro other found stands runs unarmed
    refine (agreed.idle stands runs fun name armed => ?_).set here (fun _ _ => Duty.noConfusion) _
    have kept := unarmed name
    rw [Table.get?_erase] at kept
    split at kept
    · rename_i same
      subst same
      -- The armed timer is the one that went off, so it does not run.
      have tracked := (agreed.consistent.armed.mp armed).1
      rw [current] at tracked
      cases tracked
      obtain rfl := agreed.consistent.record_eq went
      rw [went.state_eq stands] at runs
      exact runs.elim TimerState.noConfusion TimerState.noConfusion
    · exact kept armed
  · intro other begun
    by_cases same : other = record
    · subst same
      exact .inl (Roster.owes_set here)
    · exact (agreed.drains (grows.begun same begun)).set here Duty.noConfusion Duty.noConfusion _

/-- A drain whose record was dropped is dismissed. -/
theorem dismissed {node : String} {record : Nat} (agreed : schedule.Agreed roster)
    (here : roster[clerk]? = some (cause, .launch node record))
    (dropped : schedule.tracked.get? node ≠ some record) :
    schedule.Agreed (roster.set clerk (cause, .dismissed)) := by
  have fits := agreed.fits here
  cases fits with
  | @launch timer _ node went waits =>
  have untracked (name : String) : schedule.tracked.get? name ≠ some record := by
    intro tracked
    rw [agreed.consistent.node_eq went tracked] at dropped
    exact dropped tracked
  refine agreed.move here agreed.consistent (.refl schedule) (fun _ => False.elim)
    (.dismissed went ⟨waits, untracked⟩) ?_ ?_ agreed.waits
    fun begun => (agreed.drains begun).set here Duty.noConfusion Duty.noConfusion _
  · intro name other armed
    obtain ⟨found, stands, runs⟩ := agreed.live armed
    refine ⟨found, stands, runs.set here Duty.noConfusion ?_ _⟩
    rintro _ ⟨⟩
    exact untracked name (agreed.consistent.armed.mp armed).1
  · intro other found stands runs unarmed
    exact (agreed.idle stands runs unarmed).set here (fun _ _ => Duty.noConfusion) _

/-- A drain is concluded, and its record is over. -/
theorem finish {record : Nat} (agreed : schedule.Agreed roster)
    (here : roster[clerk]? = some (cause, .conclude record)) (now : T) (retries : Int)
    (error : Option String) :
    (schedule.change record (·.finish now retries error)).Agreed
      (roster.set clerk (cause, .concluded)) := by
  have fits := agreed.fits here
  cases fits with
  | @conclude timer _ node went begun =>
  have draining : ¬ schedule.InPhase record .scheduled := by
    intro waits
    cases begun.unique waits
  have grows : schedule.Grows (· = record) (schedule.change record (·.finish now retries error)) :=
    grows_change id
  obtain ⟨found, at_place, _⟩ := begun
  have ended : (schedule.change record (·.finish now retries error)).InPhase record
      (found.finish now retries error).phase :=
    inPhase_change.mpr ⟨found, at_place, by rw [if_pos rfl]⟩
  have terminal := found.isTerminal_finish now retries error
  refine agreed.move here (agreed.consistent.finish now retries error draining) grows ?_
    (.concluded (grows.wentOff went) terminal ended) ?_ ?_ (agreed.waits_change went) ?_
  · rintro _ rfl
    exact ⟨timer, node, rfl⟩
  · intro name other armed
    obtain ⟨found, stands, runs⟩ := agreed.live armed
    exact ⟨found, stands, runs.set here Duty.noConfusion (fun _ => Duty.noConfusion) _⟩
  · intro other found stands runs unarmed
    exact (agreed.idle stands runs unarmed).set here (fun _ _ => Duty.noConfusion) _
  · intro other drains
    by_cases same : other = record
    · subst same
      rw [ended.unique drains] at terminal
      cases terminal
    · refine (agreed.drains (grows.begun same drains)).set here Duty.noConfusion ?_ _
      rintro ⟨⟩
      exact same rfl

/-- An errand comes back, and a drain that was carried out is to be concluded. -/
theorem errand {request : Control.Request T} {reply : (Control T).Reply request}
    (agreed : schedule.Agreed roster) (here : roster[clerk]? = some (cause, duty))
    (errand : request.isErrand = true) (allowed : Duty.Allows duty request reply later) :
    schedule.Agreed (roster.set clerk (cause, later)) := by
  cases allowed with
  | announce | cordon => exact agreed.stay here
  | drain record node =>
    have fits := agreed.fits here
    cases fits with
    | execute went begun =>
    refine agreed.move here agreed.consistent (.refl schedule) (fun _ => False.elim)
      (.conclude went begun) ?_ ?_ agreed.waits ?_
    · intro name other armed
      obtain ⟨found, stands, runs⟩ := agreed.live armed
      exact ⟨found, stands, runs.set here Duty.noConfusion (fun _ => Duty.noConfusion) _⟩
    · intro other found stands runs unarmed
      exact (agreed.idle stands runs unarmed).set here (fun _ _ => Duty.noConfusion) _
    · intro other drains
      by_cases same : other = record
      · subst same
        exact .inr (Roster.owes_set here)
      · refine (agreed.drains drains).set here ?_ Duty.noConfusion _
        rintro ⟨⟩
        exact same rfl
  | _ => cases errand

/-! ## New clerks -/

/-- One more clerk joins, whose duty must fit. -/
theorem join (agreed : before.Agreed roster) (consistent : after.Consistent)
    (grows : before.Grows (fun _ => False) after) (fits : after.Fits cause duty)
    (alone : ∀ {timer node record}, cause = .timer timer node record →
      ∀ {place spot : Nat} {name : Node} {task : Duty},
        roster[place]? ≠ some (.timer timer name spot, task))
    (live : ∀ {node timer}, after.armed.get? node = some timer →
      ∃ found, after.timers[timer]? = some found ∧
        Roster.Runs (roster ++ [(cause, duty)]) timer found.state)
    (idle : ∀ {timer found}, after.timers[timer]? = some found →
      found.state = .fresh ∨ found.state = .pending →
        (∀ node, after.armed.get? node ≠ some timer) → roster.Drops timer)
    (waits : ∀ {timer found}, after.timers[timer]? = some found → found.state ≠ .fired →
      after.InPhase timer .scheduled) :
    after.Agreed (roster ++ [(cause, duty)]) := by
  refine ⟨consistent, ?_, ?_, live, fun stands runs unarmed => (idle stands runs unarmed).append _,
    waits, fun begun => (agreed.drains (grows.begun not_false begun)).append _⟩
  · intro place origin task there
    obtain there | ⟨_, same⟩ := Roster.of_append there
    · exact (agreed.fits there).grow grows fun _ _ _ _ => id
    · cases same
      exact fits
  · intro place other timer record spot node name task further one two
    obtain first | ⟨rfl, same⟩ := Roster.of_append one <;>
      obtain second | ⟨rfl, again⟩ := Roster.of_append two
    · exact agreed.alone first second
    · cases again
      exact absurd first (alone rfl)
    · cases same
      exact absurd second (alone rfl)
    · rfl

/-- A command begins with no duty. -/
theorem command (agreed : schedule.Agreed roster) (given : Control.Command) :
    schedule.Agreed (roster ++ [(.command given, .free)]) := by
  refine agreed.join agreed.consistent (.refl schedule) (.free given) nofun ?_ agreed.idle
    agreed.waits
  intro node timer armed
  obtain ⟨found, stands, runs⟩ := agreed.live armed
  exact ⟨found, stands, runs.append _⟩

/-- A timer that goes off begins with the duty to begin its drain. -/
theorem fire {timer : Nat} {found : Timer T} (agreed : schedule.Agreed roster)
    (stands : schedule.timers[timer]? = some found)
    (ready : found.state = .pending ∨ found.state = .cancelled) :
    (schedule.turnTimer timer .fire).Agreed (roster ++
      [(.timer timer found.node found.record, .launch found.node.name found.record)]) := by
  have unfired : found.state ≠ .fired := by
    intro fired
    rw [fired] at ready
    exact ready.elim TimerState.noConfusion TimerState.noConfusion
  have own : found.record = timer := (agreed.consistent.own stands).1
  have went : (schedule.turnTimer timer .fire).WentOff timer found.node found.record :=
    ⟨_, (timers_turnTimer ..).trans (congrArg _ stands), rfl, rfl, if_pos rfl⟩
  refine agreed.join (agreed.consistent.turnTimer _ _) (grows_turnTimer rfl) ?_ ?_ ?_ ?_
    (agreed.waits_turnTimer rfl)
  · refine .launch went ?_
    rw [own]
    exact agreed.waits stands unfired
  · rintro _ _ _ ⟨⟩ place name spot task there
    exact unfired ((agreed.fits there).wentOff.state_eq stands)
  · intro node other armed
    obtain ⟨also, stood, runs⟩ := agreed.live armed
    refine ⟨_, (timers_turnTimer ..).trans (congrArg _ stood), ?_⟩
    dsimp only
    split
    · rename_i same
      subst same
      refine .inr (.inr ⟨rfl, found.node.name, ?_⟩)
      rw [own]
      exact ⟨_, List.mem_append_right _ List.mem_cons_self⟩
    · exact runs.append _
  · intro other later stood runs unarmed
    obtain ⟨also, stood, ⟨_, turned⟩ | ⟨_, same⟩⟩ := of_timers_turnTimer stood
    · rw [turned] at runs
      exact runs.elim TimerState.noConfusion TimerState.noConfusion
    · exact agreed.idle stood (same ▸ runs) unarmed

end Agreed

/-- A fresh schedule agrees with an empty roster. -/
theorem agreed_opened (buffer : DrainBuffer T) : Agreed { buffer } [] where
  consistent := consistent_opened buffer
  fits found := by simp at found
  alone found := by simp at found
  live armed := by simp at armed
  idle stands := by simp at stands
  waits stands := by simp at stands
  drains begun := by simp [InPhase] at begun

end Schedule

end Evacuation
