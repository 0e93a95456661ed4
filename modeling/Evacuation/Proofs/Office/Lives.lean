import Evacuation.Proofs.Drain.Verdicts
import Evacuation.Proofs.Office.Times
import Evacuation.Proofs.Office.Removal
/-!
# The life of a record

A record that has ended shows what its one drain came to (`Run.settled`), and whoever asks about a node is
told what its current record shows (`Run.look`). The main statement says what is known of every record of
every run, whatever became of it and whatever its drain came to (`lives_of_records`): how it goes from
phase to phase, which fields are set, what they show, and in which order its times are.
-/
namespace Evacuation

variable {T : Type}

namespace DrainRecord

/-- A record shows what its drain came to. -/
structure Settled (record : DrainRecord T) (drained : Except Failure DrainReport) : Prop where
  ended : record.phase.isTerminal = true
  /-- A failure is no success, unless there is neither a text nor a name of a kind to tell it by. -/
  failed : record.phase = .failed ↔
    (∃ failure, drained = .error failure ∧ failure ≠ .broken "" "") ∨
      ∃ report, drained = .ok report ∧
        ∃ pod ∈ report.pods, pod.outcome = .failed ∨ pod.outcome = .timedOut
  /-- A failure leaves its text, or the name of its kind if it has none. -/
  raised {failure : Failure} : drained = .error failure → record.retries = 0 ∧
    (failure.message ≠ "" ∧ record.lastError = some failure.message ∨
      ∃ kind, failure = .broken kind "" ∧ record.lastError = some kind)
  returned {report : DrainReport} : drained = .ok report →
    record.retries = report.retries ∧ record.lastError = report.errorText

theorem settled_finish (record : DrainRecord T) (now : T) (drained : Except Failure DrainReport) :
    (record.finish now (Control.ending drained).1 (Control.ending drained).2).Settled drained where
  ended := record.isTerminal_finish ..
  failed := by
    rw [← Control.isFault_ending_iff, finish]
    cases isFault (Control.ending drained).2 <;> simp
  raised := by
    rintro failure rfl
    refine ⟨rfl, ?_⟩
    show failure.message ≠ "" ∧ some failure.report = _ ∨
      ∃ kind, _ ∧ some failure.report = some kind
    obtain ⟨said, same⟩ | ⟨kind, silent, same⟩ := failure.report_eq
    · exact .inl ⟨said, congrArg some same⟩
    · exact .inr ⟨kind, silent, congrArg some same⟩
  returned := by
    rintro report rfl
    exact ⟨rfl, rfl⟩

end DrainRecord

namespace Deed

/-- The drain of a record came to something. -/
def Drained (deeds : List (Deed T)) (record : Nat) (drained : Except Failure DrainReport) : Prop :=
  ∃ clerk timer node, .returned clerk (.timer timer node record) ⟨.drain node, drained⟩ ∈ deeds

/-- The end of the drain of a record was written down. -/
def Concluded (deeds : List (Deed T)) (record : Nat) : Prop :=
  ∃ clerk timer node retries error,
    .asked clerk (.timer timer node record) (Control.writing record retries error) ∈ deeds

/-- The end of a drain was written down by the clerk who was told what it came to. -/
def Carried (deeds : List (Deed T)) (record : Nat) (drained : Except Failure DrainReport) : Prop :=
  ∃ clerk timer node,
    .asked clerk (.timer timer node record) (Control.finishing record drained) ∈ deeds ∧
      ⟨.drain node, drained⟩ ∈ log deeds clerk

variable {deeds : List (Deed T)} {record : Nat} {drained : Except Failure DrainReport}

theorem mem_log_append {clerk : Nat} {exchange : Exchange (Control T)}
    (logged : exchange ∈ log deeds clerk) (more : List (Deed T)) : exchange ∈ log (deeds ++ more) clerk := by
  rw [log_append]
  exact List.mem_append_left _ logged

theorem Carried.append (carried : Carried deeds record drained) (more : List (Deed T)) :
    Carried (deeds ++ more) record drained := by
  obtain ⟨clerk, timer, node, written, logged⟩ := carried
  exact ⟨clerk, timer, node, List.mem_append_left more written, mem_log_append logged more⟩

theorem Carried.of_log {clerk timer : Nat} {node : Node}
    (logged : ⟨.drain node, drained⟩ ∈ log deeds clerk) :
    Carried (deeds ++ [.asked clerk (.timer timer node record) (Control.finishing record drained)]) record
      drained :=
  ⟨clerk, timer, node, List.mem_append_right deeds (.head _), mem_log_append logged _⟩

end Deed

namespace Office

section Results

variable [TimeScale T] {controller : Controller T} {buffer : DrainBuffer T} {office later : Office T}
  {deeds : List (Deed T)} {place : Nat} {record : DrainRecord T}

/-- What is in the log of the clerk of a drain came back from the drain. -/
theorem Run.returned_of_mem_log (run : Run controller (opened buffer) deeds office) {clerk : Nat}
    {worker : Clerk T} {target : Node} {drained : Except Failure DrainReport}
    (found : office.clerks[clerk]? = some worker)
    (logged : ⟨.drain target, drained⟩ ∈ Deed.log deeds clerk) :
    .returned clerk worker.cause ⟨.drain target, drained⟩ ∈ deeds := by
  obtain ⟨deed, done, rfl, moves⟩ := Deed.mem_log.mp logged
  obtain ⟨also, there, cause⟩ := run.logged.known done
  cases there.symm.trans found
  obtain ⟨outcome, settled, same⟩ := (run.answers done moves).returned rfl
  have outcome_eq : outcome = drained := settled
  rw [outcome_eq, ← cause] at same
  exact same ▸ done

/-- A record that has ended shows what its drain came to, and the end was written down. -/
theorem Run.settled (run : Run controller (opened buffer) deeds office)
    (found : office.desk.schedule.records[place]? = some record)
    (ended : record.phase.isTerminal = true) :
    Deed.Concluded deeds place ∧
      ∃ drained, Deed.Drained deeds place drained ∧ record.Settled drained := by
  obtain ⟨dated, clocked, rfl⟩ := run.clocked
  obtain ⟨drained, ⟨clerk, timer, node, written, logged⟩, settled⟩ :=
    clocked.record_rec (motive := fun dated place record => record.phase.isTerminal = true →
        ∃ drained, Deed.Carried (dated.map Prod.snd) place drained ∧ record.Settled drained)
      (fun _ _ => nofun)
      (fun {dated place record} entry known ended => by
        obtain ⟨drained, carried, settled⟩ := known ended
        rw [List.map_append]
        exact ⟨drained, carried.append _, settled⟩)
      (fun _ _ => nofun)
      (fun {dated place record clerk timer node now} drained _ _ logged _ => by
        rw [List.map_append]
        exact ⟨drained, .of_log logged, record.settled_finish now drained⟩)
      found ended
  obtain ⟨worker, stands, cause⟩ := run.logged.known written
  have back := run.returned_of_mem_log stands logged
  rw [cause] at back
  exact ⟨⟨clerk, timer, node, _, _, written⟩, drained, ⟨clerk, timer, node, back⟩, settled⟩

/-- A record has ended once the end of its drain was written down. -/
theorem Run.ended_of_concluded (run : Run controller (opened buffer) deeds office)
    (found : office.desk.schedule.records[place]? = some record)
    (concluded : Deed.Concluded deeds place) : record.phase.isTerminal = true := by
  obtain ⟨clerk, timer, node, retries, error, written⟩ := concluded
  obtain ⟨worker, stands, cause⟩ := run.logged.known written
  have ended := (run.shows stands cause).ended (Deed.mem_log.mpr ⟨_, written, rfl, rfl⟩)
  rw [← ended.unique ⟨record, found, rfl⟩]
  exact Success.isTerminal_phase _

/-- The drain of a record comes to one thing. -/
theorem Run.drained_unique (run : Run controller (opened buffer) deeds office)
    {drained again : Except Failure DrainReport} (first : Deed.Drained deeds place drained)
    (second : Deed.Drained deeds place again) : drained = again := by
  obtain ⟨clerk, timer, node, back⟩ := first
  obtain ⟨other, mark, name, also⟩ := second
  obtain ⟨worker, stands, cause⟩ := run.logged.known back
  obtain ⟨fellow, there, same⟩ := run.logged.known also
  obtain ⟨roster, sound⟩ := run.sound
  obtain rfl : clerk = other := sound.alone stands there cause same
  have reached := run.logged.reaches stands
  rw [cause] at reached
  exact Control.drained_unique reached (Deed.mem_log.mpr ⟨_, back, rfl, rfl⟩)
    (Deed.mem_log.mpr ⟨_, also, rfl, rfl⟩)

/-- Who asks about a node is told whether it has a record, and whether that shows a failed drain. -/
theorem Run.look (run : Run controller (opened buffer) deeds office) {clerk : Nat} {cause : Cause}
    {name : String} {reply : Bool × Bool}
    (step : Step controller office (.asked clerk cause ⟨.transact (.look name), reply⟩) later) :
    office.desk.schedule.tracked.get? name = none ∧ reply = (false, false) ∨
      ∃ place record, office.desk.schedule.tracked.get? name = some place ∧
        office.desk.schedule.records[place]? = some record ∧ record.node = name ∧
          reply = (true, decide (record.phase = .failed)) := by
  obtain ⟨now, _, _, given⟩ := step.of_asked
  have told : office.desk.schedule.status name = reply := congrArg Prod.fst given
  obtain ⟨roster, sound⟩ := run.sound
  subst told
  cases tracked : office.desk.schedule.tracked.get? name with
  | none => exact .inl ⟨rfl, by simp [Schedule.status, Schedule.current?, tracked]⟩
  | some place =>
    obtain ⟨record, found, named⟩ := sound.agreed.consistent.tracked tracked
    refine .inr ⟨place, record, rfl, found, named, ?_⟩
    simp [Schedule.status, Schedule.current?, tracked, found]

end Results

/-- The life of a record, however the work is interleaved. Its fields are set as its phase says; it has
ended exactly if the end of its drain was written down, shows then what its drain came to, and that is
one thing. A step leaves it as it is or moves it on by one phase, with its node and its start; a new one is
made by a booking, and waits. So it goes from phase to phase for good, also when it is no longer the
current record of its node. Who asks about a node is told what its current record shows. On the exact
scale its times are in order, if the clock does not go back and no timer goes off early. -/
theorem lives_of_records :
    (∀ {T : Type} [TimeScale T] {controller : Controller T} {buffer : DrainBuffer T}
        {deeds : List (Deed T)} {office : Office T}, Run controller (opened buffer) deeds office →
      (∀ {place : Nat} {record : DrainRecord T}, office.desk.schedule.records[place]? = some record →
        record.Filled ∧
        (record.phase.isTerminal = true ↔ Deed.Concluded deeds place) ∧
        (record.phase.isTerminal = true →
          ∃ drained, Deed.Drained deeds place drained ∧ record.Settled drained) ∧
        ∀ drained again, Deed.Drained deeds place drained → Deed.Drained deeds place again →
          drained = again) ∧
      (∀ {deed : Deed T} {later : Office T}, Step controller office deed later →
        (∀ {place : Nat} {record : DrainRecord T}, office.desk.schedule.records[place]? = some record →
          ∃ after, later.desk.schedule.records[place]? = some after ∧ after.node = record.node ∧
            after.scheduledFor = record.scheduledFor ∧
            (after = record ∨ record.phase.Next after.phase)) ∧
        ∀ {place : Nat} {record : DrainRecord T}, office.desk.schedule.records[place]? = none →
          later.desk.schedule.records[place]? = some record →
          ∃ clerk cause node appointment,
            deed = .asked clerk cause ⟨.transact (.book node), .ok appointment⟩ ∧
              record = (DrainRecord.fresh node.name).schedule appointment.start ∧
              (DrainRecord.fresh node.name : DrainRecord T).phase.Next record.phase) ∧
      (∀ {more : List (Deed T)} {later : Office T}, Run controller office more later →
        ∀ {place : Nat} {record : DrainRecord T}, office.desk.schedule.records[place]? = some record →
          ∃ after, later.desk.schedule.records[place]? = some after ∧ after.node = record.node ∧
            after.scheduledFor = record.scheduledFor ∧
            Relation.ReflTransGen Phase.Next record.phase after.phase) ∧
      ∀ {clerk : Nat} {cause : Cause} {name : String} {reply : Bool × Bool} {later : Office T},
        Step controller office (.asked clerk cause ⟨.transact (.look name), reply⟩) later →
        office.desk.schedule.tracked.get? name = none ∧ reply = (false, false) ∨
          ∃ place record, office.desk.schedule.tracked.get? name = some place ∧
            office.desk.schedule.records[place]? = some record ∧ record.node = name ∧
              reply = (true, decide (record.phase = .failed))) ∧
    ∀ {controller : Controller Rat} {buffer : DrainBuffer Rat} {dated : List (Rat × Deed Rat)}
        {office : Office Rat}, Clocked controller (opened buffer) dated office → Forward dated →
      Punctual dated → ∀ {place : Nat} {record : DrainRecord Rat},
        office.desk.schedule.records[place]? = some record →
        ∃ start, record.scheduledFor = some start ∧
          (∀ began, record.startedAt = some began → start ≤ began) ∧
          ∀ began ended, record.startedAt = some began → record.finishedAt = some ended →
            began ≤ ended := by
  refine ⟨fun run => ⟨fun found => ?_, fun step => ⟨run.record_next step, fun missing found => ?_⟩,
    fun onward => run.record_onward onward, run.look⟩,
    fun clocked forward punctual => clocked.times_le forward punctual⟩
  · refine ⟨run.filled found, ⟨fun ended => (run.settled found ended).1, run.ended_of_concluded found⟩,
      fun ended => (run.settled found ended).2, fun _ _ => run.drained_unique⟩
  · obtain ⟨now, taken⟩ := step.exists_takenAt
    obtain ⟨clerk, cause, node, appointment, same, _, _, rfl⟩ := step.record_made taken missing found
    exact ⟨clerk, cause, node, appointment, same, rfl, DrainRecord.next_schedule ..⟩

/-- A node is forgotten while its drain runs, and booked again. The first drain fails without a text, and
a pod of the second one times out. -/
def twiceInVain : List (Move Rat) :=
  [.command (.schedule { name := "n1" }), .ask 0 0, .ask 0 0, .ask 0 0, .fire 0 0, .ask 1 1, .send 1,
    .back 1 (.ok ⟨"n1", []⟩), .send 1, .command (.delete "n1"), .ask 2 2,
    .command (.schedule { name := "n1" }), .ask 3 3, .ask 3 3, .ask 3 3,
    .back 1 (.error (.broken "ValueError" "")), .ask 1 5, .fire 1 60, .ask 4 61, .send 4,
    .back 4 (.ok ⟨"n1", []⟩), .send 4, .back 4 (.ok ⟨"n1", [⟨"ns", "p", .timedOut, "late", 3⟩]⟩),
    .ask 4 70]

theorem isSome_twiceInVain :
    (play? idleController twiceInVain (opened ⟨60, none⟩)).isSome = true := by
  decide +kernel

/-- The deeds of the two drains, with their times. -/
def datedInVain : List (Rat × Deed Rat) :=
  (Move.times 0 twiceInVain).zip (Option.get _ isSome_twiceInVain).1

theorem forward_datedInVain : Forward datedInVain := by
  decide +kernel

theorem punctual_datedInVain : Punctual datedInVain := by
  decide +kernel

/-- Both records show how their drains failed, and the order of their times. -/
theorem lives_twiceInVain :
    ∃ office, Clocked idleController (opened ⟨60, none⟩) datedInVain office ∧
      office.desk.schedule.tracked.get? "n1" = some 1 ∧
      ∀ place < 2, ∃ record drained start began ended,
        office.desk.schedule.records[place]? = some record ∧ record.phase = .failed ∧
          Deed.Drained (datedInVain.map Prod.snd) place drained ∧ record.Settled drained ∧
          record.scheduledFor = some start ∧ record.startedAt = some began ∧
          record.finishedAt = some ended ∧ start ≤ began ∧ began ≤ ended := by
  have clocked : Clocked idleController (opened ⟨60, none⟩) datedInVain
      (Option.get _ isSome_twiceInVain).2 :=
    Clocked.of_play? (Option.some_get isSome_twiceInVain).symm 0
  have current : (Option.get _ isSome_twiceInVain).2.desk.schedule.tracked.get? "n1" = some 1 := by
    decide +kernel
  have failed : ∀ place < 2, ((Option.get _ isSome_twiceInVain).2.desk.schedule.records.map
      (·.phase))[place]? = some .failed := by
    decide +kernel
  refine ⟨_, clocked, current, fun place inside => ?_⟩
  obtain ⟨record, found, phase⟩ := Schedule.inPhase_of_map (failed place inside)
  obtain ⟨filled, -, settled, -⟩ := (lives_of_records.1 clocked.run).1 found
  obtain ⟨start, due, starts, ends⟩ :=
    lives_of_records.2 clocked forward_datedInVain punctual_datedInVain found
  have terminal : record.phase.isTerminal = true := by rw [phase]; rfl
  obtain ⟨drained, came, shows⟩ := settled terminal
  obtain ⟨began, started⟩ := Option.isSome_iff_exists.mp (filled.started.mpr (.inr terminal))
  obtain ⟨ended, finished⟩ := Option.isSome_iff_exists.mp (filled.finished.mpr terminal)
  exact ⟨record, drained, start, began, ended, found, phase, came, shows, due, started, finished,
    starts began started, ends began ended started finished⟩

end Office

end Evacuation
