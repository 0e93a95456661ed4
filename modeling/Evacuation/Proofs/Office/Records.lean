import Mathlib.Logic.Relation
import Evacuation.Proofs.Office.Endings
import Evacuation.Proofs.Office.Spacing
/-!
# What becomes of a record

A record is made by a booking, and from then on only two things happen to it: its drain begins, while it
waits, and its drain ends, after it has begun (`Run.record_step`). Everything else leaves it as it is,
also when it is no longer the current record of its node. So whatever holds of a record that was made, and
goes on to hold when its drain begins and when it ends, holds of every record of a run
(`Clocked.record_rec`). In particular its fields are set as its phase says (`Run.filled`), and it goes on
from phase to phase (`Run.record_onward`).
-/
namespace Evacuation

variable {T : Type}

/-- One phase of a record comes right after another. -/
inductive Phase.Next : Phase → Phase → Prop where
  | scheduled : Next .cordoned .scheduled
  | draining : Next .scheduled .draining
  | succeeded : Next .draining .succeeded
  | failed : Next .draining .failed

namespace DrainRecord

variable {record : DrainRecord T}

theorem next_schedule (node : String) (start : T) :
    (fresh node : DrainRecord T).phase.Next ((fresh node).schedule start).phase := .scheduled

theorem next_begun (waits : record.phase = .scheduled) (now : T) :
    record.phase.Next (record.begun now).phase := waits ▸ .draining

theorem next_finish (begun : record.phase = .draining) (now : T) (retries : Int) (error : Option String) :
    record.phase.Next (record.finish now retries error).phase := by
  rw [begun, finish]
  cases isFault error
  · exact .succeeded
  · exact .failed

/-- The fields of a record are set as its phase says. -/
structure Filled (record : DrainRecord T) : Prop where
  past : record.phase ≠ .cordoned
  scheduled : record.scheduledFor.isSome = true
  started : record.startedAt.isSome = true ↔ record.phase = .draining ∨ record.phase.isTerminal = true
  finished : record.finishedAt.isSome = true ↔ record.phase.isTerminal = true
  fault : isFault record.lastError = true ↔ record.phase = .failed
  unended : record.phase.isTerminal = false → record.retries = 0 ∧ record.lastError = none

theorem filled_schedule (node : String) (start : T) :
    ((fresh node : DrainRecord T).schedule start).Filled where
  past := nofun
  scheduled := rfl
  started := by simp [fresh, schedule, Phase.isTerminal]
  finished := by simp [fresh, schedule, Phase.isTerminal]
  fault := by simp [fresh, schedule, isFault]
  unended _ := ⟨rfl, rfl⟩

theorem Filled.begun (filled : record.Filled) (waits : record.phase = .scheduled) (now : T) :
    (record.begun now).Filled := by
  have open_ : record.phase.isTerminal = false := by rw [waits]; rfl
  obtain ⟨retries, error⟩ := filled.unended open_
  have unfinished := filled.finished
  rw [open_] at unfinished
  exact
    { past := nofun
      scheduled := filled.scheduled
      started := iff_of_true rfl (.inl rfl)
      finished := unfinished
      fault := by
        show isFault record.lastError = true ↔ _
        rw [error]
        exact ⟨nofun, nofun⟩
      unended := fun _ => ⟨retries, error⟩ }

theorem Filled.finish (filled : record.Filled) (begun : record.phase = .draining) (now : T) (retries : Int)
    (error : Option String) : (record.finish now retries error).Filled := by
  have ended := record.isTerminal_finish now retries error
  exact
    { past := fun same => by
        rw [same] at ended
        cases ended
      scheduled := filled.scheduled
      started := iff_of_true (filled.started.mpr (.inl begun)) (.inr ended)
      finished := iff_of_true rfl ended
      fault := by
        show isFault error = true ↔ (if isFault error then Phase.failed else .succeeded) = .failed
        cases isFault error <;> simp
      unended := fun open_ => by cases ended.symm.trans open_ }

end DrainRecord

/-! ## What the desk does to a record -/

namespace Schedule

variable [TimeScale T] {schedule : Schedule T} {place : Nat} {record : DrainRecord T}

omit [TimeScale T] in
theorem getElem?_change (other : Nat) (update : DrainRecord T → DrainRecord T)
    (found : schedule.records[place]? = some record) :
    (schedule.change other update).records[place]? =
      some (if other = place then update record else record) := by
  rw [change, List.getElem?_modify, found]
  rfl

/-- A transaction leaves a record as it is, or writes the beginning or the end of its drain. -/
theorem record_transact (now : T) (transaction : Transaction)
    (found : schedule.records[place]? = some record) :
    (schedule.transact now transaction).2.records[place]? = some record ∨
      (∃ node, transaction = .launch node place ∧ (schedule.launch now node place).1 = true ∧
        (schedule.transact now transaction).2.records[place]? = some (record.begun now)) ∨
      ∃ retries error, transaction = .finish place retries error ∧
        (schedule.transact now transaction).2.records[place]? = some (record.finish now retries error) := by
  cases transaction with
  | look | forget | halt => exact .inl found
  | book node =>
    generalize booked : schedule.book now node = outcome
    obtain ⟨_ | appointment, later⟩ := outcome
    · simp only [transact, booked, book_eq_error booked]
      exact .inl found
    · simp only [transact, booked]
      exact .inl ((grows_book booked).records id found)
  | launch node other =>
    by_cases current : schedule.tracked.get? node = some other
    · simp only [transact, launch_current current]
      have changed := getElem?_change other (·.begun now) found
      split at changed
      · rename_i same
        subst same
        exact .inr (.inl ⟨node, rfl, launch_iff.mpr current, changed⟩)
      · exact .inl changed
    · simp only [transact, launch_dropped current]
      exact .inl found
  | finish other retries error =>
    have changed := getElem?_change other (·.finish now retries error) found
    split at changed
    · rename_i same
      subst same
      exact .inr (.inr ⟨retries, error, rfl, changed⟩)
    · exact .inl changed
  | clear node =>
    simp only [transact, clear]
    split <;> exact .inl found

end Schedule

namespace Controller

variable [TimeScale T] (controller : Controller T) (now : T) {desk : Desk T} {place : Nat}
  {record : DrainRecord T}

/-- The desk leaves a record as it is, unless it is asked for the beginning or the end of its drain. -/
theorem record_atDesk {request : Control.Request T} (here : request.isErrand = false)
    (found : desk.schedule.records[place]? = some record) :
    (controller.atDesk now request desk).2.schedule.records[place]? = some record ∨
      (∃ node, request = .transact (.launch node place) ∧
        (desk.schedule.launch now node place).1 = true ∧
        (controller.atDesk now request desk).2.schedule.records[place]? = some (record.begun now)) ∨
      ∃ retries error, request = .transact (.finish place retries error) ∧
        (controller.atDesk now request desk).2.schedule.records[place]? =
          some (record.finish now retries error) := by
  cases request with
  | transact transaction =>
    obtain same | ⟨node, rfl, begun, changed⟩ | ⟨retries, error, rfl, changed⟩ :=
      Schedule.record_transact now transaction found
    · exact .inl same
    · exact .inr (.inl ⟨node, rfl, begun, changed⟩)
    · exact .inr (.inr ⟨retries, error, rfl, changed⟩)
  | fire timer =>
    cases stands : desk.schedule.timers[timer]? with
    | none =>
      simp only [atDesk, answer, id, stands]
      exact .inl found
    | some made =>
      rw [atDesk_fire controller now desk stands]
      exact .inl found
  | start | cancel | arm | count | screen | release | complain => exact .inl found
  | announce | cordon | drain => cases here

end Controller

/-! ## The end of a drain -/

namespace Control

variable {node : Node} {record place : Nat} {path : List (Exchange (Control T))}

/-- The end of a drain is written down right after the drain was carried out. -/
theorem path_of_finish {retries : Int} {error : Option String}
    {next : (Control T).Reply (.transact (.finish place retries error)) →
      Controlling T (Except Failure Unit)}
    (reached : Program.Reaches (runDrain node record) path
      (.ask (.transact (.finish place retries error)) next)) :
    ∃ drained, place = record ∧ (retries, error) = ending drained ∧
      path = [launching node record true, starting node (.ok ()), ⟨.drain node, drained⟩] := by
  generalize same : (Program.ask (.transact (.finish place retries error)) next : Controlling T _) = left
    at reached
  cases reaches_runDrain reached with
  | waiting | dismissed | begun | unannounced | announced => cases same
  | carriedOut drained onward =>
    cases onward with
    | waiting =>
      rw [concludeDrain_eq] at same
      cases same
      exact ⟨drained, rfl, rfl, rfl⟩
    | finished | counted | announced => cases same

/-- What a drain came to that was carried out in an exchange. -/
def drainResult? : Exchange (Control T) → Option (Except Failure DrainReport)
  | ⟨.drain _, drained⟩ => some drained
  | _ => none

/-- A drain is carried out at most once. -/
theorem filterMap_drainResult? {left : Controlling T (Except Failure Unit)}
    (reached : Program.Reaches (runDrain node record) path left) :
    path.filterMap drainResult? = [] ∨ ∃ drained, path.filterMap drainResult? = [drained] := by
  cases reaches_runDrain reached with
  | waiting | dismissed | begun | unannounced | announced => exact .inl rfl
  | carriedOut drained onward =>
    refine .inr ⟨drained, ?_⟩
    cases onward <;> rfl

/-- A drain comes to one result. -/
theorem drained_unique {target other : Node} {drained again : Except Failure DrainReport}
    {left : Controlling T (Except Failure Unit)}
    (reached : Program.Reaches (runDrain node record) path left)
    (first : (⟨.drain target, drained⟩ : Exchange (Control T)) ∈ path)
    (second : (⟨.drain other, again⟩ : Exchange (Control T)) ∈ path) : drained = again := by
  have one : drained ∈ path.filterMap drainResult? := List.mem_filterMap.mpr ⟨_, first, rfl⟩
  have two : again ∈ path.filterMap drainResult? := List.mem_filterMap.mpr ⟨_, second, rfl⟩
  obtain none | ⟨only, single⟩ := filterMap_drainResult? reached
  · rw [none] at one
    cases one
  · rw [single] at one two
    exact (List.mem_singleton.mp one).trans (List.mem_singleton.mp two).symm

end Control

namespace Office

variable [TimeScale T] {controller : Controller T} {buffer : DrainBuffer T} {office later : Office T}
  {deeds : List (Deed T)} {dated : List (T × Deed T)} {deed : Deed T} {place : Nat}
  {record : DrainRecord T} {now : T}

/-- A step is taken at a time of the clock: what is asked at the desk is answered at that time. -/
def TakenAt (controller : Controller T) (now : T) (office : Office T) (deed : Deed T) (later : Office T) :
    Prop :=
  match deed with
  | .asked _ _ exchange =>
    controller.atDesk now exchange.request office.desk = (exchange.reply, later.desk)
  | .began _ _ | .sent _ _ _ | .returned _ _ _ => True

/-- Every step is taken at some time. -/
theorem Step.exists_takenAt (step : Step controller office deed later) :
    ∃ now, TakenAt controller now office deed later := by
  cases step with
  | command | fire | send | back => exact ⟨TimeScale.zero, trivial⟩
  | ask found here now => exact ⟨now, rfl⟩

/-- Steps one after another, each with the time of the clock at which it is taken. -/
inductive Clocked (controller : Controller T) (start : Office T) :
    List (T × Deed T) → Office T → Prop where
  | here : Clocked controller start [] start
  | snoc {dated : List (T × Deed T)} {now : T} {deed : Deed T} {office later : Office T}
      (clocked : Clocked controller start dated office) (step : Step controller office deed later)
      (taken : TakenAt controller now office deed later) :
      Clocked controller start (dated ++ [(now, deed)]) later

theorem Clocked.run {start : Office T} (clocked : Clocked controller start dated office) :
    Run controller start (dated.map Prod.snd) office := by
  induction clocked with
  | here => exact .here
  | snoc _ step _ ih =>
    rw [List.map_append]
    exact ih.snoc step

/-- Every run has times at which its steps are taken. -/
theorem Run.clocked {start : Office T} (run : Run controller start deeds office) :
    ∃ dated, Clocked controller start dated office ∧ dated.map Prod.snd = deeds := by
  induction run with
  | here => exact ⟨[], .here, rfl⟩
  | snoc _ step ih =>
    obtain ⟨dated, clocked, rfl⟩ := ih
    obtain ⟨now, taken⟩ := step.exists_takenAt
    exact ⟨_, clocked.snoc step taken, List.map_append⟩

/-- Records that were there are left as they are, but for one whose drain begins or ends. The clerk who
works for it asks for that, at the time that is written down. -/
theorem Run.record_step (run : Run controller (opened buffer) deeds office)
    (step : Step controller office deed later) (taken : TakenAt controller now office deed later)
    (found : office.desk.schedule.records[place]? = some record) :
    later.desk.schedule.records[place]? = some record ∨
      (∃ clerk timer node,
        deed = .asked clerk (.timer timer node place) (Control.launching node place true) ∧
          record.phase = .scheduled ∧
          later.desk.schedule.records[place]? = some (record.begun now)) ∨
      ∃ clerk timer node drained,
        deed = .asked clerk (.timer timer node place) (Control.finishing place drained) ∧
          ⟨.drain node, drained⟩ ∈ Deed.log deeds clerk ∧ record.phase = .draining ∧
          later.desk.schedule.records[place]? =
            some (record.finish now (Control.ending drained).1 (Control.ending drained).2) := by
  cases step with
  | command | send | back => exact .inl found
  | fire stands ready now =>
    rw [Controller.atDesk_fire controller now office.desk stands]
    exact .inl found
  | @ask clerk cause request next there here at_ =>
    obtain ⟨roster, sound⟩ := run.sound
    obtain ⟨duty, entry, follows⟩ := sound.follows there
    have fits := sound.agreed.fits entry
    have answered : controller.atDesk now request office.desk = controller.atDesk at_ request office.desk :=
      taken
    obtain same | ⟨name, rfl, begun, changed⟩ | ⟨retries, error, rfl, changed⟩ :=
      controller.record_atDesk now here found
    · exact .inl (answered ▸ same)
    · have launched : (controller.atDesk at_ (.transact (.launch name place)) office.desk).1 = true :=
        answered ▸ begun
      obtain ⟨owed, allowed, _⟩ := follows true
      cases allowed
      cases fits with
      | @launch timer _ node went waits =>
        refine .inr (.inl ⟨clerk, timer, node, ?_, ?_, answered ▸ changed⟩)
        · rw [launched]
          rfl
        · exact waits.unique ⟨record, found, rfl⟩ |>.symm
    · obtain ⟨owed, allowed, _⟩ := follows ()
      cases allowed
      cases fits with
      | @conclude timer _ node went begun =>
        obtain ⟨drained, -, written, path⟩ := Control.path_of_finish (run.logged.reaches there)
        obtain ⟨rfl, rfl⟩ := Prod.mk.inj written
        refine .inr (.inr ⟨clerk, timer, node, drained, rfl, ?_, ?_, answered ▸ changed⟩)
        · rw [path]
          simp
        · exact begun.unique ⟨record, found, rfl⟩ |>.symm

/-- A record that was not there is made by a booking, for the start that was booked. -/
theorem Step.record_made (step : Step controller office deed later)
    (taken : TakenAt controller now office deed later)
    (missing : office.desk.schedule.records[place]? = none)
    (found : later.desk.schedule.records[place]? = some record) :
    ∃ clerk cause node appointment,
      deed = .asked clerk cause ⟨.transact (.book node), .ok appointment⟩ ∧
        office.desk.schedule.Reserves now node appointment later.desk.schedule ∧
        place = office.desk.schedule.records.length ∧
        record = (DrainRecord.fresh node.name).schedule appointment.start := by
  have beyond : office.desk.schedule.records.length ≤ place := List.getElem?_eq_none_iff.mp missing
  obtain ⟨clerk, cause, node, appointment, _, rfl, _⟩ | ⟨_, keeps⟩ := step.starts
  · have reply : (controller.atDesk now (.transact (.book node)) office.desk).1 = .ok appointment :=
      congrArg Prod.fst taken
    have desk : (controller.atDesk now (.transact (.book node)) office.desk).2 = later.desk :=
      congrArg Prod.snd taken
    have reserves : office.desk.schedule.Reserves now node appointment later.desk.schedule :=
      Schedule.reserves_of_book (Prod.ext reply (congrArg Desk.schedule desk))
    rw [reserves.records, List.getElem?_append_right beyond, List.getElem?_singleton] at found
    split at found <;> cases found
    exact ⟨clerk, cause, node, appointment, rfl, reserves, by omega, rfl⟩
  · have lengths := congrArg List.length keeps.records
    rw [List.length_map, List.length_map] at lengths
    have inside := (List.getElem?_eq_some_iff.mp found).1
    omega

/-- What holds of a record that is made, and goes on to hold whatever is done, holds of every record. -/
theorem Clocked.record_rec {motive : List (T × Deed T) → Nat → DrainRecord T → Prop}
    (clocked : Clocked controller (opened buffer) dated office)
    (made : ∀ {before : Schedule T} {dated clerk cause node appointment now after},
      before.Consistent → before.Reserves now node appointment after →
      motive (dated ++ [(now, .asked clerk cause ⟨.transact (.book node), .ok appointment⟩)])
        before.records.length ((DrainRecord.fresh node.name).schedule appointment.start))
    (kept : ∀ {dated place record} entry, motive dated place record →
      motive (dated ++ [entry]) place record)
    (begun : ∀ {dated place record clerk timer node now}, motive dated place record →
      record.phase = .scheduled →
      motive (dated ++ [(now, .asked clerk (.timer timer node place) (Control.launching node place true))])
        place (record.begun now))
    (ended : ∀ {dated place record clerk timer node now} (drained : Except Failure DrainReport),
      motive dated place record → record.phase = .draining →
      ⟨.drain node, drained⟩ ∈ Deed.log (dated.map Prod.snd) clerk →
      motive (dated ++ [(now, .asked clerk (.timer timer node place) (Control.finishing place drained))])
        place (record.finish now (Control.ending drained).1 (Control.ending drained).2))
    (found : office.desk.schedule.records[place]? = some record) : motive dated place record := by
  induction clocked generalizing record with
  | here => simp [opened] at found
  | @snoc dated now deed middle later clocked step taken ih =>
    cases stood : middle.desk.schedule.records[place]? with
    | none =>
      obtain ⟨roster, sound⟩ := clocked.run.sound
      obtain ⟨_, _, node, appointment, rfl, reserves, rfl, rfl⟩ := step.record_made taken stood found
      exact made sound.agreed.consistent reserves
    | some before =>
      obtain same | ⟨clerk, timer, node, rfl, waits, changed⟩ |
        ⟨clerk, timer, node, drained, rfl, logged, drains, changed⟩ :=
          clocked.run.record_step step taken stood
      · cases found.symm.trans same
        exact kept _ (ih stood)
      · cases found.symm.trans changed
        exact begun (ih stood) waits
      · cases found.symm.trans changed
        exact ended drained (ih stood) drains logged

/-- The fields of every record are set as its phase says. -/
theorem Run.filled (run : Run controller (opened buffer) deeds office)
    (found : office.desk.schedule.records[place]? = some record) : record.Filled := by
  obtain ⟨_, clocked, _⟩ := run.clocked
  exact clocked.record_rec (motive := fun _ _ record => record.Filled)
    (fun _ _ => DrainRecord.filled_schedule ..) (fun _ filled => filled)
    (fun filled waits => filled.begun waits _) (fun _ filled drains _ => filled.finish drains ..) found

/-- A step leaves a record as it is, or moves it on by one phase. -/
theorem Run.record_next (run : Run controller (opened buffer) deeds office)
    (step : Step controller office deed later)
    (found : office.desk.schedule.records[place]? = some record) :
    ∃ after, later.desk.schedule.records[place]? = some after ∧ after.node = record.node ∧
      after.scheduledFor = record.scheduledFor ∧ (after = record ∨ record.phase.Next after.phase) := by
  obtain ⟨now, taken⟩ := step.exists_takenAt
  obtain same | ⟨_, _, _, _, waits, changed⟩ | ⟨_, _, _, drained, _, _, drains, changed⟩ :=
    run.record_step step taken found
  · exact ⟨record, same, rfl, rfl, .inl rfl⟩
  · exact ⟨_, changed, rfl, rfl, .inr (DrainRecord.next_begun waits now)⟩
  · exact ⟨_, changed, rfl, rfl, .inr (DrainRecord.next_finish drains now ..)⟩

/-- A record keeps its place, its node and its start for good, and goes from phase to phase. -/
theorem Run.record_onward {more : List (Deed T)} (run : Run controller (opened buffer) deeds office)
    (onward : Run controller office more later)
    (found : office.desk.schedule.records[place]? = some record) :
    ∃ after, later.desk.schedule.records[place]? = some after ∧ after.node = record.node ∧
      after.scheduledFor = record.scheduledFor ∧
      Relation.ReflTransGen Phase.Next record.phase after.phase := by
  induction onward with
  | here => exact ⟨record, found, rfl, rfl, .refl⟩
  | snoc onward step ih =>
    obtain ⟨between, stood, node, start, phases⟩ := ih
    obtain ⟨after, stands, same_node, same_start, rfl | next⟩ := (run.trans onward).record_next step stood
    · exact ⟨after, stands, node, start, phases⟩
    · exact ⟨after, stands, same_node.trans node, same_start.trans start, phases.tail next⟩

end Office

end Evacuation
