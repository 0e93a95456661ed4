import Evacuation.Proofs.Office.Endings
/-!
# Drains whose node was removed

A node may leave while its drain runs. Its record is then no longer the current one of any node, and it
stays so whatever is booked later, also under the same name (`Run.adrift`); so the rest of the drain
changes nothing that is stored for a node. The main statement, `Run.drains_on`, says so for every later
step of the drain, and also what the end of the drain does bring about: it is counted and announced as
any other end is.
-/
namespace Evacuation

variable {T : Type}

namespace Control

/-- The end of a drain that is announced in an exchange, with the name of the node. -/
def drainNews? : Exchange (Control T) → Option (Success × String)
  | ⟨.announce .drainSucceeded node _, _⟩ => some (.succeeded, node)
  | ⟨.announce .drainFailed node _, _⟩ => some (.failed, node)
  | _ => none

/-- A drain that is done was announced as often as it was counted, and with the same result. -/
theorem drainNews_of_done {node : Node} {record : Nat} {path : List (Exchange (Control T))}
    {result : Except Failure Unit} (reached : (runDrain node record).Reaches path (.done result)) :
    path.filterMap drainNews? = (path.filterMap drainCount?).map fun success => (success, node.name) := by
  obtain rfl | ⟨failure, rfl⟩ | ⟨drained, message, reply, rfl⟩ := path_of_done reached
  · rfl
  · rfl
  · unfold counting
    cases verdict (ending drained).2 <;> rfl

end Control

namespace Deed

/-- The ends of drains that a clerk announced. -/
def drainNews (deeds : List (Deed T)) (clerk : Nat) : List (Success × String) :=
  (log deeds clerk).filterMap Control.drainNews?

theorem drainCounts_append (first second : List (Deed T)) (clerk : Nat) :
    drainCounts (first ++ second) clerk = drainCounts first clerk ++ drainCounts second clerk := by
  unfold drainCounts
  rw [log_append, List.filterMap_append]

theorem drainNews_append (first second : List (Deed T)) (clerk : Nat) :
    drainNews (first ++ second) clerk = drainNews first clerk ++ drainNews second clerk := by
  unfold drainNews
  rw [log_append, List.filterMap_append]

/-- A node is forgotten. -/
def forgets (name : String) : Deed T → Bool
  | asked _ _ ⟨.transact (.forget other), _⟩ => other == name
  | _ => false

theorem of_forgets {name : String} {deed : Deed T} (forgotten : deed.forgets name = true) :
    ∃ reply, deed = .asked deed.clerk deed.cause ⟨.transact (.forget name), reply⟩ := by
  unfold forgets at forgotten
  split at forgotten
  · rw [beq_iff_eq] at forgotten
    subst forgotten
    exact ⟨_, rfl⟩
  · cases forgotten

/-- A result that a clerk counted was counted in a deed. -/
theorem of_mem_drainCounts {deeds : List (Deed T)} {clerk : Nat} {success : Success}
    (counted : success ∈ drainCounts deeds clerk) : success ∈ deeds.filterMap drainCount? := by
  obtain ⟨exchange, logged, counts⟩ := List.mem_filterMap.mp counted
  obtain ⟨deed, done, -, moves⟩ := mem_log.mp logged
  refine List.mem_filterMap.mpr ⟨deed, done, ?_⟩
  rw [drainCount?, moves]
  exact counts

end Deed

namespace Schedule

/-- What is stored for nodes is the same in two schedules: which records and timers belong to them,
these records and these timers. -/
structure SameStored (before after : Schedule T) : Prop where
  tracked : after.tracked = before.tracked
  armed (name : String) : after.armed.get? name = before.armed.get? name
  records (name : String) : after.current? name = before.current? name
  timers {name : String} {timer : Nat} : before.armed.get? name = some timer →
    after.timers[timer]? = before.timers[timer]?

/-- The timer of a record went off, and the record is the current one of no node. -/
structure Adrift (schedule : Schedule T) (record : Nat) : Prop where
  went : ∃ timer node, schedule.WentOff timer node record
  untracked (name : String) : schedule.tracked.get? name ≠ some record

variable {before after schedule : Schedule T} {record : Nat}

/-- The phase of a record can be read off the list of all phases. -/
theorem inPhase_of_map {phase : Phase}
    (listed : (schedule.records.map (·.phase))[record]? = some phase) : schedule.InPhase record phase := by
  rwa [List.getElem?_map, Option.map_eq_some_iff] at listed

/-- No timer that is armed belongs to a record that is adrift. -/
theorem Adrift.unarmed (adrift : schedule.Adrift record) (consistent : schedule.Consistent)
    {name : String} {timer : Nat} (armed : schedule.armed.get? name = some timer) : timer ≠ record := by
  rintro rfl
  exact adrift.untracked name (consistent.armed.mp armed).1

/-- What concerns a record that is adrift concerns nothing that is stored. -/
theorem SameBut.sameStored (same : before.SameBut record after) (adrift : before.Adrift record)
    (still : after.Adrift record) (consistent : before.Consistent) (kept : after.Consistent) :
    before.SameStored after where
  tracked := same.tracked
  armed name := by
    refine Option.ext fun timer => ⟨fun armed => ?_, fun armed => ?_⟩
    · exact (same.armed (still.unarmed kept armed)).mp armed
    · exact (same.armed (adrift.unarmed consistent armed)).mpr armed
  records name := by
    unfold current?
    rw [same.tracked]
    cases tracked : before.tracked.get? name with
    | none => rfl
    | some place =>
      have other : place ≠ record := by
        rintro rfl
        exact adrift.untracked name tracked
      exact same.records other
  timers armed := same.timers (adrift.unarmed consistent armed)

/-- A record stays adrift whichever records a step touches. -/
theorem Grows.adrift {touched : Nat → Prop} (grows : before.Grows touched after)
    (consistent : before.Consistent) (adrift : before.Adrift record) : after.Adrift record := by
  obtain ⟨timer, node, went⟩ := adrift.went
  refine ⟨⟨timer, node, grows.wentOff went⟩, fun name tracked => ?_⟩
  obtain there | new := grows.tracked tracked
  · exact adrift.untracked name there
  · -- The record was made with its timer, so it is not a new one.
    obtain rfl := consistent.record_eq went
    obtain ⟨found, stands, -⟩ := went
    have made := (List.getElem?_eq_some_iff.mp stands).1
    rw [← consistent.paired] at made
    omega

/-- A record whose timer went off is adrift when its node is forgotten. -/
theorem Consistent.adrift_forget (consistent : schedule.Consistent) {name : String} {timer : Nat}
    {node : Node} (went : schedule.WentOff timer node record)
    (tracked : schedule.tracked.get? name = some record) : (schedule.forget name).2.Adrift record := by
  refine ⟨⟨timer, node, went⟩, fun other still => ?_⟩
  have erased : (schedule.tracked.erase name).get? other = some record := still
  obtain rfl := consistent.tracked_unique tracked (Table.get?_of_erase erased)
  rw [Table.get?_erase, if_pos rfl] at erased
  cases erased

end Schedule

namespace Office

variable [TimeScale T] {controller : Controller T} {buffer : DrainBuffer T} {office later : Office T}
  {roster : Roster} {deeds more : List (Deed T)} {deed : Deed T} {place timer record : Nat} {node : Node}
  {worker : Clerk T}

/-- A step touches no record but the one its clerk works for. -/
theorem Sound.grows (sound : office.Sound roster) (step : Step controller office deed later) :
    office.desk.schedule.Grows (fun record => ∃ timer node, deed.cause = .timer timer node record)
      later.desk.schedule := by
  cases step with
  | command | send | back => exact (Schedule.Grows.refl _).mono fun _ => False.elim
  | fire stands ready now =>
    rw [Controller.atDesk_fire controller now office.desk stands]
    exact (Schedule.grows_turnTimer rfl).mono fun _ => False.elim
  | ask found here now =>
    obtain ⟨duty, entry, follows⟩ := sound.follows found
    obtain ⟨owed, allowed, _⟩ := follows (controller.atDesk now _ office.desk).1
    exact sound.agreed.grows entry here rfl allowed

/-- A record that is adrift stays so for good. -/
theorem Run.adrift (run : Run controller (opened buffer) deeds office)
    (onward : Run controller office more later) (adrift : office.desk.schedule.Adrift record) :
    later.desk.schedule.Adrift record := by
  induction onward with
  | here => exact adrift
  | snoc onward step ih =>
    obtain ⟨roster, sound⟩ := (run.trans onward).sound
    exact (sound.grows step).adrift sound.agreed.consistent ih

/-- Forgetting the node of a record sets the record adrift, if its timer went off. -/
theorem Sound.adrift_of_forget {cause : Cause} {name : String} {reply : Option Nat}
    (sound : office.Sound roster)
    (step : Step controller office (.asked place cause ⟨.transact (.forget name), reply⟩) later)
    (went : office.desk.schedule.WentOff timer node record)
    (tracked : office.desk.schedule.tracked.get? name = some record) :
    later.desk.schedule.Adrift record := by
  cases step with
  | ask found here now => exact sound.agreed.consistent.adrift_forget went tracked

/-- While a drain runs, the clerk who works for it has begun it, and has neither counted nor announced
its end. -/
theorem Run.underway (run : Run controller (opened buffer) deeds office)
    (found : office.clerks[place]? = some worker) (cause : worker.cause = .timer timer node record)
    (begun : office.desk.schedule.InPhase record .draining) :
    Control.launching node record true ∈ Deed.log deeds place ∧ Deed.drainCounts deeds place = [] ∧
      Deed.drainNews deeds place = [] := by
  obtain ⟨roster, sound⟩ := run.sound
  obtain ⟨duty, entry, follows⟩ := sound.follows found
  have fits := sound.agreed.fits entry
  have shows := run.shows found cause
  have reached := run.logged.reaches found
  rw [cause] at reached fits
  unfold Deed.drainCounts Deed.drainNews
  generalize Deed.log deeds place = path at reached shows
  generalize worker.program = left at reached follows
  have unwritten (drained : Except Failure DrainReport) : Control.finishing record drained ∉ path :=
    shows.unwritten rfl begun _ _
  cases Control.reaches_runDrain reached with
  | waiting =>
    obtain ⟨_, allowed, -⟩ := follows false
    cases allowed
    cases fits with
    | launch went waits => cases begun.unique waits
  | dismissed => cases begun.unique (shows.dismissed (.head _)).1
  | begun | unannounced | announced => exact ⟨.head _, rfl, rfl⟩
  | carriedOut drained onward =>
    cases onward with
    | waiting => exact ⟨.head _, rfl, rfl⟩
    | finished | counted | announced =>
      exact absurd (.tail _ (.tail _ (.tail _ (.head _)))) (unwritten drained)

/-- Once the clerk of a drain is done, the drain was announced as often as it was counted. -/
theorem Run.drainNews_eq (run : Run controller (opened buffer) deeds office)
    (found : office.clerks[place]? = some worker) (cause : worker.cause = .timer timer node record)
    (done : worker.isDone = true) : Deed.drainNews deeds place =
      (Deed.drainCounts deeds place).map fun success => (success, node.name) := by
  have reached := run.logged.reaches found
  cases left : worker.program with
  | ask request next =>
    rw [Clerk.isDone, left] at done
    cases done
  | done result =>
    rw [cause, left] at reached
    exact Control.drainNews_of_done reached

/-- A drain that runs is counted and announced once before its clerk is done, with the phase its record
ends in, unless its beginning could not be announced. -/
theorem Run.ended_once (run : Run controller (opened buffer) deeds office)
    (found : office.clerks[place]? = some worker) (cause : worker.cause = .timer timer node record)
    (begun : office.desk.schedule.InPhase record .draining) (onward : Run controller office more later)
    {after : Clerk T} (there : later.clerks[place]? = some after)
    (same : after.cause = .timer timer node record) (done : after.isDone = true) :
    (Unannounced (deeds ++ more) place after.cause node → Deed.drainCounts more place = [] ∧
        Deed.drainNews more place = [] ∧ later.desk.schedule.InPhase record .draining) ∧
      (¬ Unannounced (deeds ++ more) place after.cause node → ∃ success : Success,
        Deed.drainCounts more place = [success] ∧ Deed.drainNews more place = [(success, node.name)] ∧
        later.desk.schedule.InPhase record success.phase ∧
        office.desk.metrics.count .drained success.label <
          later.desk.metrics.count .drained success.label) := by
  obtain ⟨launched, uncounted, untold⟩ := run.underway found cause begun
  have whole := run.trans onward
  have launched_before : Control.launching node record true ∈ Deed.log (deeds ++ more) place := by
    rw [Deed.log_append]
    exact List.mem_append_left _ launched
  have counts : Deed.drainCounts (deeds ++ more) place = Deed.drainCounts more place := by
    rw [Deed.drainCounts_append, uncounted, List.nil_append]
  have news := whole.drainNews_eq there same done
  rw [Deed.drainNews_append, untold, List.nil_append, counts] at news
  rw [news]
  obtain ⟨broke, draining, none_counted, -⟩ | ⟨announced, success, ended, counted⟩ :=
    whole.drain_done there same done launched_before
  · rw [counts] at none_counted
    rw [none_counted]
    exact ⟨fun _ => ⟨rfl, rfl, draining⟩, fun announced => absurd broke announced⟩
  · rw [counts] at counted
    refine ⟨fun broke => absurd broke announced, fun _ => ⟨success, counted, ?_, ended, ?_⟩⟩
    · rw [counted]
      rfl
    · have mine : success ∈ Deed.drainCounts more place := counted ▸ .head _
      have added := List.count_pos_iff.mpr (Deed.of_mem_drainCounts mine)
      rw [whole.count_drained, run.count_drained, List.filterMap_append, List.count_append]
      omega

/-- A drain whose node is forgotten while it runs is carried on by the clerk who works for it. Whatever
happens then, its record is the current one of no node, and no step of that clerk changes anything that
is stored for a node. But once the clerk is done, the drain was counted and announced with its result,
unless its beginning could not be announced. -/
theorem Run.drains_on {left : Office T} {cause : Cause} {reply : Option Nat} {name : String}
    (run : Run controller (opened buffer) deeds office)
    (tracked : office.desk.schedule.tracked.get? name = some record)
    (begun : office.desk.schedule.InPhase record .draining)
    (forgets : Step controller office (.asked place cause ⟨.transact (.forget name), reply⟩) left)
    (onward : Run controller left more later) :
    ∃ (clerk : Nat) (worker : Clerk T) (timer : Nat) (node : Node),
      later.clerks[clerk]? = some worker ∧ worker.cause = .timer timer node record ∧ node.name = name ∧
      (∀ other, later.desk.schedule.tracked.get? other ≠ some record) ∧
      (∀ {deed : Deed T} {after : Office T}, Step controller later deed after → deed.clerk = clerk →
        later.desk.schedule.SameStored after.desk.schedule) ∧
      (worker.isDone = true →
        let all := deeds ++ .asked place cause ⟨.transact (.forget name), reply⟩ :: more
        (Unannounced all clerk worker.cause node → Deed.drainCounts more clerk = [] ∧
          Deed.drainNews more clerk = [] ∧ later.desk.schedule.InPhase record .draining) ∧
        (¬ Unannounced all clerk worker.cause node → ∃ success : Success,
          Deed.drainCounts more clerk = [success] ∧ Deed.drainNews more clerk = [(success, name)] ∧
          later.desk.schedule.InPhase record success.phase ∧
          left.desk.metrics.count .drained success.label <
            later.desk.metrics.count .drained success.label)) := by
  obtain ⟨roster, sound⟩ := run.sound
  obtain ⟨clerk, before, timer, node, found, origin, -⟩ := run.carried begun
  obtain ⟨duty, entry, -⟩ := sound.follows found
  rw [origin] at entry
  have went := (sound.agreed.fits entry).wentOff
  obtain rfl : node.name = name := sound.agreed.consistent.node_eq went tracked
  have removed := run.snoc forgets
  have still := removed.adrift onward (sound.adrift_of_forget forgets went tracked)
  obtain ⟨staying, stands, stays, -, -⟩ := (Run.here.snoc forgets).clerk found
  obtain ⟨worker, there, same, -, -⟩ := onward.clerk stands
  have cause_eq := same.trans (stays.trans origin)
  refine ⟨clerk, worker, timer, node, there, cause_eq, rfl, still.untracked, ?_, fun done => ?_⟩
  · intro deed after step own
    obtain ⟨_, sound_later⟩ := (removed.trans onward).sound
    obtain ⟨_, sound_after⟩ := sound_later.step step
    obtain ⟨_, _, works, _⟩ := step.clerk (own ▸ there)
    have confined := sound_later.confined step (works.symm.trans cause_eq)
    have after_still := (sound_later.grows step).adrift sound_later.agreed.consistent still
    exact confined.sameStored still after_still sound_later.agreed.consistent
      sound_after.agreed.consistent
  · -- Forgetting a node changes no record, so the drain runs on from the office that is left.
    have draining : left.desk.schedule.InPhase record .draining := by
      cases forgets with
      | ask => exact begun
    rw [List.append_cons]
    exact removed.ended_once stands (stays.trans origin) draining onward there cause_eq done

/-- The drain of a node is sent out, and the node is about to be forgotten. -/
def leavingInDrain : List (Move Rat) :=
  [.command (.schedule { name := "n1" }), .ask 0 0, .ask 0 0, .ask 0 0, .send 0,
    .back 0 (.ok ⟨"n1", []⟩), .fire 0 0, .ask 1 0, .send 1, .back 1 (.ok ⟨"n1", []⟩), .send 1,
    .command (.delete "n1")]

/-- The node is scheduled again, and then its first drain ends. -/
def backInDrain : List (Move Rat) :=
  [.command (.schedule { name := "n1" }), .ask 3 2, .ask 3 2, .ask 3 2, .send 3,
    .back 3 (.ok ⟨"n1", []⟩), .back 1 (.ok ⟨"n1", []⟩), .ask 1 5, .ask 1 5, .send 1,
    .back 1 (.ok ⟨"n1", []⟩)]

/-- The controller of a dry run without filters. -/
def idleController : Controller Rat := { drainer := .dryRun, chain := [] }

theorem isSome_leavingInDrain :
    (play? idleController leavingInDrain (opened ⟨60, none⟩)).isSome = true := by
  decide +kernel

theorem isSome_forgetting : ((Option.get _ isSome_leavingInDrain).2.move? idleController
    (.ask 2 1)).isSome = true := by
  decide +kernel

theorem isSome_backInDrain : (play? idleController backInDrain
    (Option.get _ isSome_forgetting).2).isSome = true := by
  decide +kernel

theorem forgets_forgetting : (Option.get _ isSome_forgetting).1.forgets "n1" = true := by
  decide +kernel

/-- The end of a drain is counted although its node has a new record by then. -/
theorem drains_on_backInDrain :
    ∃ (deeds more : List (Deed Rat)) (deed : Deed Rat) (office left later : Office Rat) (clerk : Nat),
      Run idleController (opened ⟨60, none⟩) deeds office ∧
      office.desk.schedule.tracked.get? "n1" = some 0 ∧ office.desk.schedule.InPhase 0 .draining ∧
      Step idleController office deed left ∧ deed.forgets "n1" = true ∧
      Run idleController left more later ∧ later.desk.schedule.tracked.get? "n1" = some 1 ∧
      Deed.drainCounts more clerk = [.succeeded] ∧
      Deed.drainNews more clerk = [(.succeeded, "n1")] ∧
      left.desk.metrics.count .drained "succeeded" < later.desk.metrics.count .drained "succeeded" := by
  have run := Run.of_play? (Option.some_get isSome_leavingInDrain).symm
  have forgets : Step idleController (Option.get _ isSome_leavingInDrain).2
      (Option.get _ isSome_forgetting).1 (Option.get _ isSome_forgetting).2 :=
    Step.of_move? (Option.some_get isSome_forgetting).symm
  have onward := Run.of_play? (Option.some_get isSome_backInDrain).symm
  have tracked : (Option.get _ isSome_leavingInDrain).2.desk.schedule.tracked.get? "n1" = some 0 := by
    decide +kernel
  have draining : Schedule.InPhase (Option.get _ isSome_leavingInDrain).2.desk.schedule 0 .draining :=
    Schedule.inPhase_of_map (by decide +kernel)
  have replaced : (Option.get _ isSome_backInDrain).2.desk.schedule.tracked.get? "n1" = some 1 := by
    decide +kernel
  have ended : Schedule.InPhase (Option.get _ isSome_backInDrain).2.desk.schedule 0 .succeeded :=
    Schedule.inPhase_of_map (by decide +kernel)
  have done : ∀ clerk ∈ (Option.get _ isSome_backInDrain).2.clerks, clerk.isDone = true := by
    decide +kernel
  obtain ⟨reply, same⟩ := Deed.of_forgets forgets_forgetting
  have forgets_then := forgets
  rw [same] at forgets_then
  obtain ⟨clerk, worker, timer, node, found, cause, -, -, -, concludes⟩ :=
    run.drains_on tracked draining forgets_then onward
  obtain ⟨broken, announced⟩ := concludes (done worker (List.mem_of_getElem? found))
  obtain ⟨success, counted, told, phase, grown⟩ :=
    announced fun broke => Phase.noConfusion (ended.unique (broken broke).2.2)
  cases success with
  | failed => cases ended.unique phase
  | succeeded =>
    exact ⟨_, _, _, _, _, _, clerk, run, tracked, draining, forgets, forgets_forgetting, onward,
      replaced, counted, told, grown⟩

end Office

end Evacuation
