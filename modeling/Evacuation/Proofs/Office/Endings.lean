import Evacuation.Proofs.Office.Drains
/-!
# How drains end

What a record shows once its drain began is what the clerk who works for it was answered
(`Run.shows`): it is in a terminal phase from the moment the end of the drain is written down, and
until then it is draining. The main statement says when that moment comes (`Run.endings`): whatever the
drain comes to and whatever the last announcement comes to, unless the first announcement fails in
another way than by a refusal. In that case the drain is never carried out, and the record stays as it
is.
-/
namespace Evacuation

variable {T : Type}

/-- The phase of a record whose drain ended like that. -/
def Success.phase : Success → Phase
  | succeeded => .succeeded
  | failed => .failed

theorem Success.isTerminal_phase (success : Success) : success.phase.isTerminal = true := by
  cases success <;> rfl

theorem DrainRecord.phase_finish (record : DrainRecord T) (now : T) (retries : Int)
    (error : Option String) :
    (record.finish now retries error).phase = (Control.verdict error).phase := by
  unfold finish Control.verdict
  cases isFault error <;> rfl

namespace Control

/-- The exchange by which the end of a drain is written into its record. -/
def writing (record : Nat) (retries : Int) (error : Option String) : Exchange (Control T) :=
  ⟨.transact (.finish record retries error), ()⟩

/-- The result of a drain that is counted in an exchange. -/
def drainCount? : Exchange (Control T) → Option Success
  | ⟨.count .drained success, _⟩ => some success
  | _ => none

/-- What is found once one more exchange was made is that exchange or was there before. -/
theorem mem_of_mem_concat {path : List (Exchange (Control T))} {last exchange : Exchange (Control T)}
    (listed : exchange ∈ path ++ [last]) (differs : last ≠ exchange) : exchange ∈ path := by
  obtain before | same := List.mem_append.mp listed
  · exact before
  · exact absurd (List.mem_singleton.mp same).symm differs

end Control

namespace Deed

/-- The result of a drain that is counted in a deed. -/
def drainCount? (deed : Deed T) : Option Success :=
  deed.exchange?.bind Control.drainCount?

/-- The drain of a record begins. -/
def begins (record : Nat) : Deed T → Bool
  | asked _ (.timer _ node place) ⟨.transact (.launch name found), true⟩ =>
    place == record && found == record && name == node.name
  | _ => false

theorem of_begins {record : Nat} {deed : Deed T} (begins : deed.begins record = true) :
    ∃ clerk timer node,
      deed = .asked clerk (.timer timer node record) (Control.launching node record true) := by
  unfold Deed.begins at begins
  split at begins
  · rw [Bool.and_eq_true, Bool.and_eq_true, beq_iff_eq, beq_iff_eq, beq_iff_eq] at begins
    obtain ⟨⟨rfl, rfl⟩, rfl⟩ := begins
    exact ⟨_, _, _, rfl⟩
  · cases begins

/-- The results of drains that a clerk counted. -/
def drainCounts (deeds : List (Deed T)) (clerk : Nat) : List Success :=
  (log deeds clerk).filterMap Control.drainCount?

end Deed

/-- A failure that is not let go is no refusal. -/
theorem Work.of_letGo {result : Except Failure Unit} {failure : Failure}
    (settled : letGo result = .error failure) :
    result = .error failure ∧ ∀ refusal, failure ≠ .refused refusal := by
  unfold letGo at settled
  split at settled
  · cases settled
  · rename_i other
    refine ⟨settled, ?_⟩
    rintro refusal rfl
    exact other refusal settled

namespace Schedule

/-- A record shows what the clerk of its drain was answered. -/
structure Shows (schedule : Schedule T) (node : Node) (record : Nat)
    (path : List (Exchange (Control T))) : Prop where
  dismissed : Control.launching node record false ∈ path → schedule.Dropped record
  begun : Control.launching node record true ∈ path →
    (∀ retries error, Control.writing record retries error ∉ path) →
    schedule.InPhase record .draining
  ended {retries : Int} {error : Option String} : Control.writing record retries error ∈ path →
    schedule.InPhase record (Control.verdict error).phase

variable {schedule later : Schedule T} {node : Node} {record : Nat}
  {path : List (Exchange (Control T))}

theorem shows_nil (schedule : Schedule T) (node : Node) (record : Nat) :
    schedule.Shows node record [] := ⟨nofun, nofun, nofun⟩

/-- A record that is left alone goes on to show the same. -/
theorem Shows.kept (shows : schedule.Shows node record path)
    (dropped : schedule.Dropped record → later.Dropped record)
    (kept : ∀ {phase}, schedule.InPhase record phase → later.InPhase record phase) :
    later.Shows node record path :=
  ⟨fun gone => dropped (shows.dismissed gone), fun launched open_ => kept (shows.begun launched open_),
    fun written => kept (shows.ended written)⟩

/-- A reply to another request shows nowhere in the record. -/
theorem Shows.snoc (shows : schedule.Shows node record path) {exchange : Exchange (Control T)}
    (no_launch : ∀ begun, exchange ≠ Control.launching node record begun)
    (no_finish : ∀ retries error, exchange ≠ Control.writing record retries error) :
    schedule.Shows node record (path ++ [exchange]) where
  dismissed gone := shows.dismissed (Control.mem_of_mem_concat gone (no_launch _))
  begun launched unwritten :=
    shows.begun (Control.mem_of_mem_concat launched (no_launch _))
      fun retries error written => unwritten retries error (List.mem_append_left _ written)
  ended written := shows.ended (Control.mem_of_mem_concat written (no_finish _ _))

/-- Nothing was written about the end of a drain whose record is in no terminal phase. -/
theorem Shows.unwritten (shows : schedule.Shows node record path) {phase : Phase}
    (open_ : phase.isTerminal = false) (stands : schedule.InPhase record phase) (retries : Int)
    (error : Option String) : Control.writing record retries error ∉ path := by
  intro written
  have terminal := Success.isTerminal_phase (Control.verdict error)
  rw [(shows.ended written).unique stands, open_] at terminal
  cases terminal

variable [TimeScale T] {controller : Controller T} {now : T} {desk : Desk T} {roster : Roster}
  {clerk timer : Nat} {duty owed : Duty} {request : Control.Request T}
  {reply : (Control T).Reply request}

/-- After the desk has answered the clerk of a record, the record shows the answer too. -/
theorem Agreed.shows (agreed : desk.schedule.Agreed roster)
    (here : roster[clerk]? = some (.timer timer node record, duty))
    (at_desk : request.isErrand = false) (given : (controller.atDesk now request desk).1 = reply)
    (allowed : Duty.Allows duty request reply owed) (shows : desk.schedule.Shows node record path) :
    (controller.atDesk now request desk).2.schedule.Shows node record (path ++ [⟨request, reply⟩]) := by
  have fits := agreed.fits here
  have inside := (List.getElem?_eq_some_iff.mp here).1
  have fits_after := (agreed.answer here at_desk given allowed).fits (List.getElem?_set_self inside)
  cases allowed with
  | launched name place =>
    cases fits with
    | launch went waits =>
    cases fits_after with
    | execute _ begun =>
    refine ⟨fun gone => ?_, fun _ _ => begun, fun {retries error} written => ?_⟩
    · have before := Control.mem_of_mem_concat gone nofun
      exact absurd (launch_iff.mp given) ((shows.dismissed before).2 node.name)
    · have before := Control.mem_of_mem_concat written nofun
      exact absurd before (shows.unwritten rfl waits retries error)
  | dismissed name place =>
    cases fits with
    | launch went waits =>
    cases fits_after with
    | dismissed _ dropped =>
    refine ⟨fun _ => dropped, fun launched _ => ?_, fun {retries error} written => ?_⟩
    · have before := Control.mem_of_mem_concat launched nofun
      cases waits.unique (shows.begun before (shows.unwritten rfl waits))
    · have before := Control.mem_of_mem_concat written nofun
      exact absurd before (shows.unwritten rfl waits retries error)
  | finish place retries error =>
    cases fits with
    | conclude went begun =>
    have written : Control.writing record retries error ∈
        path ++ [Control.writing record retries error] :=
      List.mem_append_right _ (List.mem_singleton.mpr rfl)
    refine ⟨fun gone => ?_, fun _ unwritten => absurd written (unwritten retries error),
      fun {times cause} entry => ?_⟩
    · have before := Control.mem_of_mem_concat gone nofun
      cases begun.unique (shows.dismissed before).1
    · obtain before | same := List.mem_append.mp entry
      · exact absurd before (shows.unwritten rfl begun times cause)
      · cases List.mem_singleton.mp same
        obtain ⟨found, stands, _⟩ := begun
        refine inPhase_change.mpr ⟨found, stands, ?_⟩
        rw [if_pos rfl, DrainRecord.phase_finish]
  | countDrain success => exact shows.snoc (fun _ => nofun) fun _ _ => nofun
  | drain | announce | cordon => cases at_desk
  | look | booked | unbooked | arm | start | forget | clear | halt | cancel | countCordon | screen
  | release | complain => cases fits

end Schedule

namespace Office

variable [TimeScale T] {controller : Controller T} {office later : Office T} {roster : Roster}
  {deeds : List (Deed T)} {deed : Deed T} {place timer record : Nat} {node : Node} {worker : Clerk T}

/-- A record is left alone by all but the clerk who works for it. -/
theorem Sound.kept (sound : office.Sound roster) (step : Step controller office deed later)
    (found : office.clerks[place]? = some worker) (cause : worker.cause = .timer timer node record)
    (other : deed.clerk ≠ place) {phase : Phase}
    (stands : office.desk.schedule.InPhase record phase) :
    later.desk.schedule.InPhase record phase := by
  cases step with
  | command | send | back => exact stands
  | fire there ready now =>
    rw [Controller.atDesk_fire controller now office.desk there]
    exact stands
  | @ask clerk origin request next there here now =>
    obtain ⟨duty, entry, follows⟩ := sound.follows there
    obtain ⟨owed, allowed, _⟩ := follows (controller.atDesk now request office.desk).1
    refine (sound.agreed.grows entry here rfl allowed).inPhase ?_ stands
    rintro ⟨mark, name, own⟩
    exact other (sound.alone there found own cause)

/-- After a step of the clerk who works for a record, the record shows the answer too. -/
theorem Sound.shows (sound : office.Sound roster) (step : Step controller office deed later)
    (found : office.clerks[deed.clerk]? = some worker)
    (cause : worker.cause = .timer timer node record)
    (shows : office.desk.schedule.Shows node record (Deed.log deeds deed.clerk)) :
    later.desk.schedule.Shows node record (Deed.log (deeds ++ [deed]) deed.clerk) := by
  rw [Deed.log_concat]
  cases step with
  | command | fire => simp [Deed.clerk] at found
  | send there errand => exact (List.append_nil _).symm ▸ shows
  | @back _ _ request _ there outcome =>
    have errand := sound.errand there
    refine shows.snoc (fun begun same => ?_) fun retries error same => ?_
    · obtain rfl : request = .transact (.launch node.name record) := congrArg Exchange.request same
      cases errand
    · obtain rfl : request = .transact (.finish record retries error) :=
        congrArg Exchange.request same
      cases errand
  | ask there here now =>
    cases there.symm.trans found
    cases cause
    obtain ⟨duty, entry, follows⟩ := sound.follows there
    obtain ⟨owed, allowed, _⟩ := follows (controller.atDesk now _ office.desk).1
    exact sound.agreed.shows entry here rfl allowed shows

/-- At all times the record shows what the clerk was answered who works for it. -/
theorem Run.shows {buffer : DrainBuffer T} (run : Run controller (opened buffer) deeds office)
    (found : office.clerks[place]? = some worker) (cause : worker.cause = .timer timer node record) :
    office.desk.schedule.Shows node record (Deed.log deeds place) := by
  induction run generalizing worker with
  | here => simp [opened] at found
  | @snoc deeds deed middle later run step ih =>
    obtain ⟨roster, sound⟩ := run.sound
    by_cases own : deed.clerk = place
    · subst own
      cases there : middle.clerks[deed.clerk]? with
      | none =>
        obtain ⟨_, begins⟩ := step.clerk_new there
        rw [Deed.log_concat, Run.logged run |>.log_eq_nil there, begins]
        exact Schedule.shows_nil ..
      | some before =>
        obtain ⟨after, stands, origin, same, _⟩ := step.clerk there
        rw [stands] at found
        cases found
        have cause_before := origin.trans (same.symm.trans cause)
        exact sound.shows step there cause_before (ih there cause_before)
    · rw [step.clerk_ne (Ne.symm own)] at found
      rw [Deed.log_concat_of_ne own]
      exact (ih found cause).kept (sound.dropped step) (sound.kept step found cause own)

/-- The first announcement of a drain failed, and not by a refusal. -/
def Unannounced (deeds : List (Deed T)) (clerk : Nat) (cause : Cause) (node : Node) : Prop :=
  ∃ failure, (∀ refusal, failure ≠ .refused refusal) ∧
    .returned clerk cause (Control.starting node (.error failure)) ∈ deeds

/-- A clerk was told that the first announcement failed exactly if it failed, and not by a refusal. -/
theorem Run.unannounced_iff {buffer : DrainBuffer T} (run : Run controller (opened buffer) deeds office)
    (found : office.clerks[place]? = some worker) :
    Unannounced deeds place worker.cause node ↔
      ∃ failure, Control.starting node (.error failure) ∈ Deed.log deeds place := by
  constructor
  · rintro ⟨failure, other, back⟩
    refine ⟨failure, Deed.mem_log.mpr ⟨_, back, rfl, ?_⟩⟩
    cases failure with
    | refused refusal => exact absurd rfl (other refusal)
    | _ => rfl
  · rintro ⟨failure, listed⟩
    obtain ⟨deed, done, rfl, moves⟩ := Deed.mem_log.mp listed
    obtain ⟨outcome, settled, back⟩ := (run.answers done moves).returned rfl
    obtain ⟨also, there, cause⟩ := run.logged.known done
    rw [found] at there
    cases there
    obtain ⟨rfl, other⟩ := Work.of_letGo settled
    rw [back] at done
    exact ⟨failure, other, cause ▸ done⟩

/-- No drain was sent out by a clerk who was told that the first announcement failed. -/
theorem Run.unsent {buffer : DrainBuffer T} {failure : Failure}
    (run : Run controller (opened buffer) deeds office) (cause : worker.cause = .timer timer node record)
    (path : Deed.log deeds place =
      [Control.launching node record true, Control.starting node (.error failure)]) (target : Node) :
    .sent place worker.cause (.drain target) ∉ deeds := by
  intro sent
  obtain ⟨before, after, rfl⟩ := List.append_of_mem sent
  obtain ⟨start, _, earlier, step, _⟩ := run.step_of_append
  obtain ⟨_, stood, _⟩ := step.of_sent
  have reached := earlier.logged.reaches stood
  rw [cause] at reached
  rw [Deed.log_append, (Control.path_of_drain reached).2] at path
  have second : some (Control.starting (T := T) node (.ok ())) =
      some (Control.starting node (.error failure)) := congrArg (·[1]?) path
  cases second

/-- A drain that began and is done was concluded and counted once, or could not be announced. -/
theorem Run.drain_done {buffer : DrainBuffer T} (run : Run controller (opened buffer) deeds office)
    (found : office.clerks[place]? = some worker) (cause : worker.cause = .timer timer node record)
    (done : worker.isDone = true)
    (launched : Control.launching node record true ∈ Deed.log deeds place) :
    (Unannounced deeds place worker.cause node ∧ office.desk.schedule.InPhase record .draining ∧
      Deed.drainCounts deeds place = [] ∧ ∀ target, .sent place worker.cause (.drain target) ∉ deeds) ∨
    ¬ Unannounced deeds place worker.cause node ∧ ∃ success,
      office.desk.schedule.InPhase record success.phase ∧
        Deed.drainCounts deeds place = [success] := by
  have reached := run.logged.reaches found
  have shows := run.shows found cause
  rw [run.unannounced_iff found]
  unfold Deed.drainCounts
  cases left : worker.program with
  | ask request next =>
    rw [Clerk.isDone, left] at done
    cases done
  | done result =>
  rw [cause, left] at reached
  obtain path | ⟨failure, path⟩ | ⟨drained, message, reply, path⟩ :=
    Control.path_of_done reached
  · rw [path] at launched
    cases List.mem_singleton.mp launched
  · left
    have unwritten (retries : Int) (error : Option String) :
        Control.writing record retries error ∉ Deed.log deeds place := by
      rw [path]
      rintro (_ | ⟨_, _ | ⟨_, ⟨⟩⟩⟩)
    have told : Control.starting node (.error failure) ∈ Deed.log deeds place := by
      rw [path]
      exact .tail _ (.head _)
    exact ⟨⟨failure, told⟩, shows.begun launched unwritten, by rw [path]; rfl,
      run.unsent cause path⟩
  · right
    have written : Control.writing record (Control.ending drained).1 (Control.ending drained).2 ∈
        Deed.log deeds place := by
      rw [path]
      exact .tail _ (.tail _ (.tail _ (.head _)))
    refine ⟨?_, Control.verdict (Control.ending drained).2, shows.ended written, by rw [path]; rfl⟩
    rintro ⟨failure, listed⟩
    rw [path] at listed
    generalize Control.verdict (Control.ending drained).2 = success at listed
    cases success <;>
      obtain _ | ⟨_, _ | ⟨_, _ | ⟨_, _ | ⟨_, _ | ⟨_, _ | ⟨_, ⟨⟩⟩⟩⟩⟩⟩⟩ := listed

/-- A drain that began and has not ended is carried on by a clerk, or could not be announced. -/
theorem Run.carried {buffer : DrainBuffer T} (run : Run controller (opened buffer) deeds office)
    (begun : office.desk.schedule.InPhase record .draining) :
    ∃ (clerk : Nat) (worker : Clerk T) (timer : Nat) (node : Node),
      office.clerks[clerk]? = some worker ∧ worker.cause = .timer timer node record ∧
        (worker.isDone = false ∨ Unannounced deeds clerk worker.cause node) := by
  obtain ⟨roster, sound⟩ := run.sound
  have works : ∃ (clerk : Nat) (worker : Clerk T) (timer : Nat) (node : Node),
      office.clerks[clerk]? = some worker ∧ worker.cause = .timer timer node record := by
    obtain owes | owes := sound.agreed.drains begun
    all_goals
      obtain ⟨clerk, worker, found, entry, _⟩ := sound.of_owes owes
      generalize cause : worker.cause = origin at entry
      cases sound.agreed.fits entry
      exact ⟨clerk, worker, _, _, found, cause⟩
  obtain ⟨clerk, worker, timer, node, found, cause⟩ := works
  refine ⟨clerk, worker, timer, node, found, cause, ?_⟩
  cases left : worker.program with
  | ask request next => exact .inl (by rw [Clerk.isDone, left])
  | done result =>
    right
    have done : worker.isDone = true := by rw [Clerk.isDone, left]
    have launched : Control.launching node record true ∈ Deed.log deeds clerk := by
      have reached := run.logged.reaches found
      rw [cause, left] at reached
      obtain path | ⟨failure, path⟩ | ⟨drained, message, reply, path⟩ :=
        Control.path_of_done reached
      · have dropped := (run.shows found cause).dismissed (path ▸ .head _)
        cases begun.unique dropped.1
      · exact path ▸ .head _
      · exact path ▸ .head _
    obtain ⟨unannounced, _⟩ | ⟨_, success, ended, _⟩ := run.drain_done found cause done launched
    · exact unannounced
    · cases success <;> cases begun.unique ended

/-! ## Counts -/

/-- An answer of the desk adds the result of a drain to the counts, if it counts one. -/
theorem count_drained_atDesk (controller : Controller T) (now : T) {request : Control.Request T}
    (desk : Desk T) (success : Success) (here : request.isErrand = false) :
    (controller.atDesk now request desk).2.metrics.count .drained success.label =
      desk.metrics.count .drained success.label +
        (Control.drainCount? ⟨request, (controller.atDesk now request desk).1⟩).toList.count success := by
  rw [Controller.count_atDesk controller now desk here]
  cases request with
  | count series result => cases series <;> cases result <;> cases success <;> rfl
  | _ => rfl

/-- The counts on the desk are the results that were counted in the run. -/
theorem Run.count_drained {buffer : DrainBuffer T} (run : Run controller (opened buffer) deeds office)
    (success : Success) : office.desk.metrics.count .drained success.label =
      (deeds.filterMap Deed.drainCount?).count success := by
  induction run with
  | here => rfl
  | @snoc deeds deed middle later run step ih =>
    have added : later.desk.metrics.count .drained success.label =
        middle.desk.metrics.count .drained success.label + deed.drainCount?.toList.count success := by
      cases step with
      | command | send => rfl
      | fire stands ready now => exact count_drained_atDesk controller now _ success rfl
      | ask stands here now => exact count_drained_atDesk controller now _ success here
      | @back _ _ request _ there outcome =>
        obtain ⟨_, sound⟩ := run.sound
        have errand := sound.errand there
        cases request <;> first | rfl | cases errand
    rw [added, ih, List.filterMap_append, List.count_append]
    cases counted : deed.drainCount? <;> simp [counted]

/-- A drain begins exactly if its record is the current one of its node. Once the clerk whose drain
began is done, the record is in the terminal phase of the one result that the clerk counted, unless
the first announcement failed in another way than by a refusal; then no drain was sent out, the
record is still draining, and nothing was counted. Every record that is draining has a clerk for it
who is not done, or whose first announcement failed in that way. The counts of drains are the results
that the clerks counted. -/
theorem Run.endings {buffer : DrainBuffer T} (run : Run controller (opened buffer) deeds office) :
    (∀ {clerk timer record : Nat} {node : Node} {begun : Bool} {later : Office T},
      Step controller office
          (.asked clerk (.timer timer node record) (Control.launching node record begun)) later →
        (begun = true ↔ office.desk.schedule.tracked.get? node.name = some record)) ∧
    (∀ {clerk timer record : Nat} {node : Node} {worker : Clerk T},
      .asked clerk (.timer timer node record) (Control.launching node record true) ∈ deeds →
      office.clerks[clerk]? = some worker → worker.isDone = true →
      ∃ ended, office.desk.schedule.records[record]? = some ended ∧
        (¬ Unannounced deeds clerk (.timer timer node record) node →
          ended.finishedAt.isSome = true ∧ ∃ success : Success,
            ended.phase = success.phase ∧ Deed.drainCounts deeds clerk = [success]) ∧
        (Unannounced deeds clerk (.timer timer node record) node →
          ended.phase = .draining ∧ ended.finishedAt = none ∧ Deed.drainCounts deeds clerk = [] ∧
            ∀ target, .sent clerk (.timer timer node record) (.drain target) ∉ deeds)) ∧
    (∀ {record : Nat}, office.desk.schedule.InPhase record .draining →
      ∃ (clerk : Nat) (worker : Clerk T) (timer : Nat) (node : Node),
        office.clerks[clerk]? = some worker ∧ worker.cause = .timer timer node record ∧
          (worker.isDone = false ∨ Unannounced deeds clerk worker.cause node)) ∧
    (∀ success : Success, office.desk.metrics.count .drained success.label =
      (deeds.filterMap Deed.drainCount?).count success) := by
  obtain ⟨roster, sound⟩ := run.sound
  refine ⟨fun {clerk timer record node begun later} step => ?_,
    fun {clerk timer record node worker} began found done => ?_, run.carried, run.count_drained⟩
  · obtain ⟨now, _, _, given⟩ := step.of_asked
    rw [← show (office.desk.schedule.launch now node.name record).1 = begun from
      congrArg Prod.fst given]
    exact Schedule.launch_iff
  · obtain ⟨also, there, cause⟩ := run.logged.known began
    cases there.symm.trans found
    have launched : Control.launching node record true ∈ Deed.log deeds clerk :=
      Deed.mem_log.mpr ⟨_, began, rfl, rfl⟩
    have either := run.drain_done found cause done launched
    rw [cause] at either
    obtain ⟨unannounced, ⟨ended, stands, begun⟩, uncounted, unsent⟩ |
      ⟨announced, success, ⟨ended, stands, phase⟩, counted⟩ := either
    · have finished := sound.agreed.consistent.finished stands
      rw [begun] at finished
      have open_ : ended.finishedAt = none :=
        Option.not_isSome_iff_eq_none.mp fun dated => Bool.noConfusion (finished.mp dated)
      exact ⟨ended, stands, absurd unannounced, fun _ => ⟨begun, open_, uncounted, unsent⟩⟩
    · have finished := sound.agreed.consistent.finished stands
      rw [phase] at finished
      have dated := finished.mpr success.isTerminal_phase
      exact ⟨ended, stands, fun _ => ⟨dated, success, phase, counted⟩,
        fun unannounced => absurd unannounced announced⟩

/-- Two drains go through. The line breaks while the first is announced; the second is not announced
either, since that is refused, and then fails. -/
def brokenLine : List (Move Rat) :=
  [.command (.schedule { name := "n1" }), .ask 0 0, .ask 0 0, .ask 0 0, .send 0,
    .back 0 (.error (.refused ⟨some 500, none⟩)),
    .command (.schedule { name := "n2" }), .ask 1 0, .ask 1 0, .ask 1 0, .send 1,
    .back 1 (.error (.refused ⟨some 500, none⟩)),
    .fire 0 0, .ask 2 0, .send 2, .back 2 (.error (.broken "RuntimeError" "connection reset")),
    .fire 1 60, .ask 3 60, .send 3, .back 3 (.error (.refused ⟨some 500, none⟩)),
    .send 3, .back 3 (.error (.broken "RuntimeError" "connection reset")), .ask 3 61, .ask 3 61,
    .send 3, .back 3 (.error (.refused ⟨some 500, none⟩))]

theorem isSome_brokenLine :
    (play? { drainer := .dryRun, chain := [] } brokenLine (opened ⟨60, none⟩)).isSome = true := by
  decide +kernel

/-- The first of the two drains stays as it was begun, and the second is counted as failed. -/
theorem endings_brokenLine : ∃ (deeds : List (Deed Rat)) (office : Office Rat),
    Run { drainer := .dryRun, chain := [] } (opened ⟨60, none⟩) deeds office ∧
    (∀ clerk ∈ office.clerks, clerk.isDone = true) ∧
    (∃ clerk timer node, .asked clerk (.timer timer node 0) (Control.launching node 0 true) ∈ deeds ∧
      Unannounced deeds clerk (.timer timer node 0) node ∧ Deed.drainCounts deeds clerk = [] ∧
        office.desk.schedule.InPhase 0 .draining) ∧
    (∃ clerk timer node, .asked clerk (.timer timer node 1) (Control.launching node 1 true) ∈ deeds ∧
      ¬ Unannounced deeds clerk (.timer timer node 1) node ∧
        Deed.drainCounts deeds clerk = [.failed] ∧ office.desk.schedule.InPhase 1 .failed) ∧
    office.desk.metrics.count .drained "failed" = 1 := by
  have run := Run.of_play? (Option.some_get isSome_brokenLine).symm
  have done : ∀ clerk ∈ (Option.get _ isSome_brokenLine).2.clerks, clerk.isDone = true := by
    decide +kernel
  have first : ((Option.get _ isSome_brokenLine).2.desk.schedule.records.map (·.phase))[0]? =
      some .draining := by
    decide +kernel
  have second : ((Option.get _ isSome_brokenLine).2.desk.schedule.records.map (·.phase))[1]? =
      some .failed := by
    decide +kernel
  have counted : (Option.get _ isSome_brokenLine).2.desk.metrics.count .drained "failed" = 1 := by
    decide +kernel
  have begins : ∀ record < 2, (Option.get _ isSome_brokenLine).1.any (·.begins record) = true := by
    decide +kernel
  rw [List.getElem?_map, Option.map_eq_some_iff] at first second
  refine ⟨_, _, run, done, ?_, ?_, counted⟩
  · obtain ⟨deed, listed, began⟩ := List.any_eq_true.mp (begins 0 (by decide))
    obtain ⟨clerk, timer, node, rfl⟩ := Deed.of_begins began
    obtain ⟨worker, found, _⟩ := run.logged.known listed
    obtain ⟨ended, stands, announced, unannounced⟩ :=
      run.endings.2.1 listed found (done worker (List.mem_of_getElem? found))
    refine ⟨clerk, timer, node, listed, ?_⟩
    by_cases broke : Unannounced (Option.get _ isSome_brokenLine).1 clerk (.timer timer node 0) node
    · exact ⟨broke, (unannounced broke).2.2.1, first⟩
    · obtain ⟨_, success, phase, _⟩ := announced broke
      obtain ⟨also, there, begun⟩ := first
      cases there.symm.trans stands
      cases success <;> cases begun.symm.trans phase
  · obtain ⟨deed, listed, began⟩ := List.any_eq_true.mp (begins 1 (by decide))
    obtain ⟨clerk, timer, node, rfl⟩ := Deed.of_begins began
    obtain ⟨worker, found, _⟩ := run.logged.known listed
    obtain ⟨ended, stands, announced, unannounced⟩ :=
      run.endings.2.1 listed found (done worker (List.mem_of_getElem? found))
    refine ⟨clerk, timer, node, listed, ?_⟩
    have ⟨also, there, failed⟩ := second
    cases there.symm.trans stands
    by_cases broke : Unannounced (Option.get _ isSome_brokenLine).1 clerk (.timer timer node 1) node
    · cases failed.symm.trans (unannounced broke).1
    · obtain ⟨_, success, phase, single⟩ := announced broke
      cases success <;> cases failed.symm.trans phase
      exact ⟨broke, single, second⟩

end Office

end Evacuation
