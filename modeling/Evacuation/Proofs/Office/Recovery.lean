import Evacuation.Proofs.Office.Redelivery
/-!
# Recovery

A node is healthy if it shows none of the conditions asked for. Then the record of its drain is given
up if the drain has ended, so that the node can be drained again. That it is healthy is seen from the
filter that drops it, which is the condition filter only if the node carries every label asked for
(`FilterChain.firstRejecting_of_healthy`). The main statement, `Run.recovers`, says of every state of an
office what the dispatch of a healthy node does, and that it does nothing if the node lacks a label:
the record then stays (`not_isRid_unlabelled`).
-/
namespace Evacuation

variable {T : Type}

/-- A node shows none of the conditions asked for. -/
def Node.IsHealthy (node : Node) (specs : List ConditionSpec) : Prop :=
  ∀ condition ∈ node.conditions, ∀ spec ∈ specs, spec.accepts condition = false

instance (node : Node) (specs : List ConditionSpec) : Decidable (node.IsHealthy specs) :=
  inferInstanceAs (Decidable (∀ condition ∈ node.conditions, ∀ spec ∈ specs,
    spec.accepts condition = false))

/-- A healthy node is dropped by the label filter or by the condition filter, which is next. -/
theorem FilterChain.firstRejecting_of_healthy {labels : Table String String} {specs : List ConditionSpec}
    {node : Node} (healthy : node.IsHealthy specs) (dryRun : Bool) (processed : Processed) :
    (build labels specs dryRun).firstRejecting node processed =
      (some (if carriesLabels labels node then .condition specs else .label labels), processed) := by
  have none_offends : offendingConditions specs node = [] := by
    simpa [offendingConditions, List.filter_eq_nil_iff, Node.IsHealthy] using healthy
  rw [firstRejecting_build, none_offends]
  cases carriesLabels labels node <;> rfl

namespace Schedule

/-- No record is kept of a drain of the node that has ended. -/
def IsRid (schedule : Schedule T) (name : String) : Prop :=
  ∀ record, schedule.current? name = some record → record.phase.isTerminal = false

/-- Everything stays but, perhaps, that a record of the node is the current one, and this stays too if
its drain has not ended. -/
structure Spares (before : Schedule T) (name : String) (after : Schedule T) : Prop where
  buffer : after.buffer = before.buffer
  records : after.records = before.records
  timers : after.timers = before.timers
  armed : after.armed = before.armed
  others {other : String} : other ≠ name → after.tracked.get? other = before.tracked.get? other
  unended {record : DrainRecord T} : before.current? name = some record →
    record.phase.isTerminal = false → after.tracked.get? name = before.tracked.get? name

theorem Spares.refl (schedule : Schedule T) (name : String) : schedule.Spares name schedule :=
  ⟨rfl, rfl, rfl, rfl, fun _ => rfl, fun _ _ => rfl⟩

variable (schedule : Schedule T) (name : String)

/-- To give up the record of a node spares all others, and its own if the drain has not ended. -/
theorem spares_clear : schedule.Spares name (schedule.clear name).2 := by
  by_cases ended : (schedule.current? name).any (·.phase.isTerminal) = true
  · rw [clear, if_pos ended]
    refine ⟨rfl, rfl, rfl, rfl, fun other => ?_, fun {record} found unended => ?_⟩
    · exact (Table.get?_erase _ _ _).trans (if_neg (Ne.symm other))
    · rw [found] at ended
      cases unended.symm.trans ended
  · rw [clear, if_neg ended]
    exact .refl schedule name

/-- Then none is kept of a drain that has ended. -/
theorem isRid_clear : (schedule.clear name).2.IsRid name := by
  intro record found
  by_cases ended : (schedule.current? name).any (·.phase.isTerminal) = true
  · rw [clear, if_pos ended, current?, Table.get?_erase, if_pos rfl] at found
    cases found
  · rw [clear, if_neg ended] at found
    rw [found] at ended
    exact Bool.eq_false_iff.mpr ended

/-- A node whose drain had ended can be given a drain again. -/
theorem book_of_clear [TimeScale T] {schedule : Schedule T} {node : Node}
    (ended : (schedule.current? node.name).any (·.phase.isTerminal) = true) (now : T) :
    ∃ appointment, ((schedule.clear node.name).2.book now node).1 = .ok appointment := by
  have unknown : (schedule.tracked.erase node.name).contains node.name = false := by
    rw [Table.contains, Table.get?_erase, if_pos rfl]
    rfl
  rw [clear, if_pos ended]
  simp only [book, unknown, Bool.false_eq_true, if_false]
  exact ⟨_, rfl⟩

end Schedule

namespace Control

variable [TimeScale T] {notification : Notification} {labels : Table String String}
  {specs : List ConditionSpec}

/-- What is left of the dispatch of a healthy node, once it was screened: its record is to
be given up, if it carries the labels. -/
def letting (labels : Table String String) (node : Node) : Controlling T (Except Failure Unit) :=
  if carriesLabels labels node then .ask (.transact (.clear node.name)) fun _ => .done (.ok ())
  else .done (.ok ())

omit [TimeScale T] in
/-- That needs nothing from the cluster. -/
theorem only_letting {node : Node} :
    Program.Only (I := Control T) (Request.isErrand · = false) (letting (T := T) labels node) := by
  unfold letting
  split
  · exact ⟨rfl, fun _ => trivial⟩
  · trivial

theorem followUp_of_healthy : (followUp (T := T) notification.node
      (some (if carriesLabels labels notification.node then .condition specs else .label labels))).bind
        (closing notification) = letting labels notification.node := by
  unfold letting
  cases carriesLabels labels notification.node <;> rfl

end Control

namespace Controller

variable [TimeScale T] {controller : Controller T} {labels : Table String String}
  {specs : List ConditionSpec} {dryRun : Bool} {node : Node}

/-- The desk answers which filter drops a healthy node, and stays as it is. -/
theorem atDesk_screen_of_healthy (chain : controller.chain = .build labels specs dryRun)
    (healthy : node.IsHealthy specs) (now : T) (desk : Desk T) :
    controller.atDesk now (.screen node) desk =
      (some (if carriesLabels labels node then .condition specs else .label labels), desk) := by
  show ((controller.chain.firstRejecting node desk.processed).1,
    { desk with processed := (controller.chain.firstRejecting node desk.processed).2 }) = _
  rw [chain, FilterChain.firstRejecting_of_healthy healthy]

end Controller

namespace Office

variable [TimeScale T] {controller : Controller T} {buffer : DrainBuffer T} {office later : Office T}
  {roster : Roster} {deeds : List (Deed T)} {deed : Deed T} {place : Nat} {worker : Clerk T}
  {request : Control.Request T} {next : (Control T).Reply request → Controlling T (Except Failure Unit)}

omit [TimeScale T] in
/-- Who asks for what is no errand has not gone away. -/
theorem Sound.here_of_asks (sound : office.Sound roster) (found : office.clerks[place]? = some worker)
    (asks : worker.program = .ask request next) (here : request.isErrand = false) :
    worker = ⟨worker.cause, .ask request next, false⟩ := by
  obtain ⟨cause, program, away⟩ := worker
  obtain rfl := asks
  cases away with
  | false => rfl
  | true => cases here.symm.trans (sound.errand found)

/-- Who asks for what is no errand goes on with the answer of the desk. -/
theorem Sound.step_of_asks (sound : office.Sound roster) (step : Step controller office deed later)
    (found : office.clerks[deed.clerk]? = some worker) (asks : worker.program = .ask request next)
    (here : request.isErrand = false) :
    ∃ now, later.desk = (controller.atDesk now request office.desk).2 ∧
      later.clerks[deed.clerk]? =
        some ⟨worker.cause, next (controller.atDesk now request office.desk).1, false⟩ := by
  rw [sound.here_of_asks found asks here] at found
  cases step with
  | command | fire => simp [Deed.clerk] at found
  | ask stands _ now =>
    cases stands.symm.trans found
    exact ⟨now, rfl, List.getElem?_set_self (List.getElem?_eq_some_iff.mp stands).1⟩
  | send stands errand =>
    cases stands.symm.trans found
    cases here.symm.trans errand
  | back stands outcome => cases stands.symm.trans found

/-- Who asks for what is no errand can be answered at any time. -/
theorem Step.of_ask {cause : Cause} (controller : Controller T)
    (found : office.clerks[place]? = some ⟨cause, .ask request next, false⟩)
    (here : request.isErrand = false) (now : T) :
    ∃ deed later, Step controller office deed later ∧ deed.clerk = place ∧
      later.clerks[place]? =
        some ⟨cause, next (controller.atDesk now request office.desk).1, false⟩ := by
  have inside := (List.getElem?_eq_some_iff.mp found).1
  exact ⟨_, _, .ask office found here now, rfl, List.getElem?_set_self inside⟩

/-- A clerk comes to the end if nobody else does anything. -/
def EndsAlone (controller : Controller T) (office : Office T) (place : Nat) : Prop :=
  ∃ deeds later worker, Run controller office deeds later ∧ (∀ deed ∈ deeds, deed.clerk = place) ∧
    later.clerks[place]? = some worker ∧ worker.isDone = true

theorem EndsAlone.step (ends : EndsAlone controller later place)
    (step : Step controller office deed later) (own : deed.clerk = place) :
    EndsAlone controller office place := by
  obtain ⟨deeds, last, worker, onward, others, stands, done⟩ := ends
  refine ⟨_, last, worker, (Run.here.snoc step).trans onward, fun moved listed => ?_, stands, done⟩
  obtain rfl | listed := List.mem_cons.mp listed
  · exact own
  · exact others moved listed

theorem endsAlone_of_isDone (found : office.clerks[place]? = some worker) (done : worker.isDone = true) :
    EndsAlone controller office place :=
  ⟨[], office, worker, .here, List.forall_mem_nil _, found, done⟩

/-- A clerk who has no errand left to send comes to the end alone. -/
theorem Sound.endsAlone (controller : Controller T) (sound : office.Sound roster)
    (found : office.clerks[place]? = some worker)
    (stays : worker.program.Only (Control.Request.isErrand · = false)) :
    EndsAlone controller office place := by
  generalize left : worker.program = program at stays
  -- On what is left of the program, with the office after each answer.
  induction program generalizing office worker roster with
  | done value =>
    refine endsAlone_of_isDone found ?_
    rw [Clerk.isDone, left]
  | ask request next ih =>
    obtain ⟨here, onward⟩ := stays
    rw [sound.here_of_asks found left here] at found
    obtain ⟨deed, later, step, own, stands⟩ := Step.of_ask controller found here TimeScale.zero
    obtain ⟨_, sound_later⟩ := sound.step step
    exact (ih _ sound_later stands rfl (onward _)).step step own

section Recovering

variable {labels : Table String String} {specs : List ConditionSpec} {dryRun : Bool}
  {notification : Notification}

/-- The dispatch of a healthy node screens it, lets its record go, and is done. -/
theorem Run.recovering (chain : controller.chain = .build labels specs dryRun)
    (run : Run controller (opened buffer) deeds office) (found : office.clerks[place]? = some worker)
    (cause : worker.cause = .command (.dispatch notification))
    (stays : notification.isDeparture = false)
    (healthy : notification.node.IsHealthy specs) :
    (worker.program = .ask (.screen notification.node) fun verdict =>
        (Control.followUp notification.node verdict).bind (Control.closing notification)) ∨
      worker.program = Control.letting labels notification.node ∨
      worker.program = .done (.ok ()) := by
  have reached := run.logged.reaches found
  rw [cause] at reached
  replace reached : Program.Reaches (Control.Command.dispatch notification).program _ _ := reached
  rw [Control.dispatch_of_stays stays] at reached
  generalize logged : Deed.log deeds place = path at reached
  generalize worker.program = left at reached
  cases reached with
  | here => exact .inl rfl
  | next verdict onward =>
    -- The reply was given at the desk at some time, so it is the verdict on a healthy node.
    obtain ⟨_, _, start, now, _, _, told⟩ := run.of_mem_log found rfl (logged ▸ List.mem_cons_self)
    rw [Controller.atDesk_screen_of_healthy chain healthy] at told
    obtain rfl : _ = verdict := told
    simp only [Control.followUp_of_healthy] at onward
    unfold Control.letting at onward ⊢
    by_cases carries : carriesLabels labels notification.node = true
    · rw [if_pos carries] at onward ⊢
      cases onward with
      | here => exact .inr (.inl rfl)
      | next given_up ended =>
        obtain ⟨-, rfl⟩ := Program.reaches_done_iff.mp ended
        exact .inr (.inr rfl)
    · rw [if_neg carries] at onward
      obtain ⟨-, rfl⟩ := Program.reaches_done_iff.mp onward
      exact .inr (.inr rfl)

/-- If nobody else does anything, the dispatch of a healthy node comes to its end. -/
theorem Run.recovering_endsAlone (chain : controller.chain = .build labels specs dryRun)
    (run : Run controller (opened buffer) deeds office) (found : office.clerks[place]? = some worker)
    (cause : worker.cause = .command (.dispatch notification))
    (stays : notification.isDeparture = false)
    (healthy : notification.node.IsHealthy specs) :
    EndsAlone controller office place := by
  obtain ⟨_, sound⟩ := run.sound
  obtain asks | left | left := run.recovering chain found cause stays healthy
  · rw [sound.here_of_asks found asks rfl] at found
    obtain ⟨deed, later, step, own, stands⟩ := Step.of_ask controller found rfl TimeScale.zero
    rw [Controller.atDesk_screen_of_healthy chain healthy] at stands
    simp only [Control.followUp_of_healthy] at stands
    obtain ⟨_, sound_later⟩ := sound.step step
    exact (sound_later.endsAlone controller stands Control.only_letting).step step own
  · exact sound.endsAlone controller found (left ▸ Control.only_letting)
  · exact sound.endsAlone controller found (left ▸ trivial)

/-- What a step of the dispatch of a healthy node leaves. -/
theorem Run.recovering_step (chain : controller.chain = .build labels specs dryRun)
    (run : Run controller (opened buffer) deeds office) (step : Step controller office deed later)
    (found : office.clerks[deed.clerk]? = some worker)
    (cause : worker.cause = .command (.dispatch notification))
    (stays : notification.isDeparture = false)
    (healthy : notification.node.IsHealthy specs) {after : Clerk T}
    (stands : later.clerks[deed.clerk]? = some after) :
    later.desk = office.desk ∧
        (carriesLabels labels notification.node = true → after.isDone = false) ∨
      carriesLabels labels notification.node = true ∧ later.desk = { office.desk with
        schedule := (office.desk.schedule.clear notification.node.name).2 } := by
  obtain ⟨_, sound⟩ := run.sound
  obtain asks | left | left := run.recovering chain found cause stays healthy
  · obtain ⟨now, desk, there⟩ := sound.step_of_asks step found asks rfl
    rw [Controller.atDesk_screen_of_healthy chain healthy] at desk there
    simp only [Control.followUp_of_healthy] at there
    cases there.symm.trans stands
    refine .inl ⟨desk, fun carries => ?_⟩
    rw [Clerk.isDone, Control.letting, if_pos carries]
  · unfold Control.letting at left
    by_cases carries : carriesLabels labels notification.node = true
    · rw [if_pos carries] at left
      obtain ⟨now, desk, -⟩ := sound.step_of_asks step found left rfl
      exact .inr ⟨carries, desk⟩
    · rw [if_neg carries] at left
      have busy := step.isDone_eq_false found
      rw [Clerk.isDone, left] at busy
      cases busy
  · have busy := step.isDone_eq_false found
    rw [Clerk.isDone, left] at busy
    cases busy

/-- The dispatch of a healthy node comes to its end alone. Whatever is done meanwhile, no step of it
touches anything but the current record of the node, and that one only if its drain has ended. If the
node carries all labels, such a record is gone when the dispatch is done, and the node can be given a
drain again; if it lacks one, the desk stays as it is. -/
theorem Run.recovers (chain : controller.chain = .build labels specs dryRun)
    (run : Run controller (opened buffer) deeds office) (found : office.clerks[place]? = some worker)
    (cause : worker.cause = .command (.dispatch notification))
    (stays : notification.isDeparture = false)
    (healthy : notification.node.IsHealthy specs) :
    EndsAlone controller office place ∧
      ∀ {deed later after}, Step controller office deed later → deed.clerk = place →
        later.clerks[place]? = some after →
        later.desk = { office.desk with schedule := later.desk.schedule } ∧
        office.desk.schedule.Spares notification.node.name later.desk.schedule ∧
        (carriesLabels labels notification.node = true → after.isDone = true →
          later.desk.schedule.IsRid notification.node.name ∧
          ((office.desk.schedule.current? notification.node.name).any (·.phase.isTerminal) = true →
            ∀ now, ∃ appointment,
              (later.desk.schedule.book now notification.node).1 = .ok appointment)) ∧
        (carriesLabels labels notification.node = false → later.desk = office.desk) := by
  refine ⟨run.recovering_endsAlone chain found cause stays healthy, fun step own stands => ?_⟩
  subst own
  obtain ⟨same, busy⟩ | ⟨carries, cleared⟩ :=
    run.recovering_step chain step found cause stays healthy stands
  · rw [same]
    refine ⟨rfl, .refl _ _, fun carries done => ?_, fun _ => rfl⟩
    cases (busy carries).symm.trans done
  · rw [cleared]
    refine ⟨rfl, Schedule.spares_clear _ _, fun _ _ => ⟨Schedule.isRid_clear _ _, fun ended now => ?_⟩,
      fun lacks => ?_⟩
    · exact Schedule.book_of_clear ended now
    · cases carries.symm.trans lacks

end Recovering

/-- The drain of a node is booked, begins and ends. -/
def drainsOnce : List (Move Rat) :=
  [.command (.schedule { name := "n1" }), .ask 0 0, .ask 0 0, .ask 0 0, .send 0,
    .back 0 (.ok ⟨"n1", []⟩), .fire 0 0, .ask 1 0, .send 1, .back 1 (.ok ⟨"n1", []⟩), .send 1,
    .back 1 (.ok ⟨"n1", []⟩), .ask 1 5, .ask 1 5, .send 1, .back 1 (.ok ⟨"n1", []⟩)]

/-- The controller of a dry run of which the filters ask for one label. -/
def poolController : Controller Rat :=
  { drainer := .dryRun, chain := .build ⟨[("pool", "a")]⟩ [⟨"Broken", "True"⟩] false }

/-- The cordoned node is reported without the condition asked for. -/
def repaired (labels : Option (Table String String)) : Notification :=
  { type := "MODIFIED"
    node := { name := "n1", labels, spec := some { unschedulable := some true },
              status := some { conditions := some [⟨"Broken", "False"⟩] } } }

theorem isSome_drainsOnce : (play? poolController drainsOnce (opened ⟨60, none⟩)).isSome = true := by
  decide +kernel

/-- The office in which the repaired node is reported after its drain has ended. -/
def notified (labels : Option (Table String String)) : Office Rat :=
  (Option.get _ isSome_drainsOnce).2.engage (.command (.dispatch (repaired labels)))

theorem run_notified (labels : Option (Table String String)) : Run poolController (opened ⟨60, none⟩)
    ((Option.get _ isSome_drainsOnce).1 ++
      [.began (Option.get _ isSome_drainsOnce).2.clerks.length (.command (.dispatch (repaired labels)))])
    (notified labels) :=
  (Run.of_play? (Option.some_get isSome_drainsOnce).symm).snoc (.command _ _)

theorem clerk_notified (labels : Option (Table String String)) :
    (notified labels).clerks[(Option.get _ isSome_drainsOnce).2.clerks.length]? =
      some ⟨.command (.dispatch (repaired labels)),
        (Cause.command (.dispatch (repaired labels))).program, false⟩ :=
  List.getElem?_concat_length

theorem isSome_unlabelled : ((notified none).move? poolController (.ask 2 6)).isSome = true := by
  decide +kernel

/-- Not every node that recovers is rid of the record of its ended drain: one that lacks a label is
dropped by the label filter and keeps it. -/
theorem not_isRid_unlabelled : ¬ ∀ {controller : Controller Rat} {labels : Table String String}
    {specs : List ConditionSpec} {dryRun : Bool} {buffer : DrainBuffer Rat} {deeds : List (Deed Rat)}
    {deed : Deed Rat} {office later : Office Rat} {worker : Clerk Rat} {notification : Notification},
    controller.chain = .build labels specs dryRun → Run controller (opened buffer) deeds office →
    Step controller office deed later → later.clerks[deed.clerk]? = some worker →
    worker.cause = .command (.dispatch notification) → worker.isDone = true →
    notification.isDeparture = false → notification.node.IsHealthy specs →
    later.desk.schedule.IsRid notification.node.name := by
  intro always
  have step : Step poolController (notified none) (Option.get _ isSome_unlabelled).1
      (Option.get _ isSome_unlabelled).2 := Step.of_move? (Option.some_get isSome_unlabelled).symm
  have own : (Option.get _ isSome_unlabelled).1.clerk =
      (Option.get _ isSome_drainsOnce).2.clerks.length := by decide +kernel
  have found := clerk_notified none
  rw [← own] at found
  obtain ⟨worker, stands, origin, same, -⟩ := step.clerk found
  have done : ∀ clerk ∈ (Option.get _ isSome_unlabelled).2.clerks, clerk.isDone = true := by
    decide +kernel
  have kept : ((Option.get _ isSome_unlabelled).2.desk.schedule.current? "n1").any
      (·.phase.isTerminal) = true := by decide +kernel
  have rid := always rfl (run_notified none) step stands (same.trans origin.symm)
    (done worker (List.mem_of_getElem? stands)) (by decide +kernel) (by decide +kernel)
  obtain ⟨record, current, ended⟩ := (Option.any_eq_true _ _).mp kept
  cases (rid record current).symm.trans ended

/-- The label that the filters ask for. -/
def poolLabel : Option (Table String String) := some ⟨[("pool", "a")]⟩

theorem isSome_screens : ((notified poolLabel).move? poolController (.ask 2 6)).isSome = true := by
  decide +kernel

theorem isSome_clears : ((Option.get _ isSome_screens).2.move? poolController (.ask 2 7)).isSome =
    true := by
  decide +kernel

/-- A cordoned node that carries the label recovers: the record of its drain is gone, and it can be
drained again. -/
theorem recovers_repaired : ∃ (deeds : List (Deed Rat)) (deed : Deed Rat) (office later : Office Rat)
    (worker after : Clerk Rat), Run poolController (opened ⟨60, none⟩) deeds office ∧
      office.clerks[deed.clerk]? = some worker ∧
      worker.cause = .command (.dispatch (repaired poolLabel)) ∧
      (repaired poolLabel).isDeparture = false ∧
      (repaired poolLabel).node.IsHealthy [⟨"Broken", "True"⟩] ∧
      Step poolController office deed later ∧ later.clerks[deed.clerk]? = some after ∧
      after.isDone = true ∧
      (office.desk.schedule.current? "n1").any (·.phase.isTerminal) = true ∧
      later.desk.schedule.IsRid "n1" ∧
      ∀ now, ∃ appointment,
        (later.desk.schedule.book now (repaired poolLabel).node).1 = .ok appointment := by
  have screens : Step poolController (notified poolLabel) (Option.get _ isSome_screens).1
      (Option.get _ isSome_screens).2 := Step.of_move? (Option.some_get isSome_screens).symm
  have clears : Step poolController (Option.get _ isSome_screens).2 (Option.get _ isSome_clears).1
      (Option.get _ isSome_clears).2 := Step.of_move? (Option.some_get isSome_clears).symm
  have first : (Option.get _ isSome_screens).1.clerk =
      (Option.get _ isSome_drainsOnce).2.clerks.length := by decide +kernel
  have second : (Option.get _ isSome_clears).1.clerk = (Option.get _ isSome_screens).1.clerk := by
    decide +kernel
  have begun := clerk_notified poolLabel
  rw [← first] at begun
  obtain ⟨worker, found, origin, same, -⟩ := screens.clerk begun
  rw [← second] at found
  obtain ⟨after, stands, -, -, -⟩ := clears.clerk found
  have done : ∀ clerk ∈ (Option.get _ isSome_clears).2.clerks, clerk.isDone = true := by
    decide +kernel
  have done := done after (List.mem_of_getElem? stands)
  have ended : ((Option.get _ isSome_screens).2.desk.schedule.current? "n1").any
      (·.phase.isTerminal) = true := by decide +kernel
  have run := (run_notified poolLabel).snoc screens
  have stays : (repaired poolLabel).isDeparture = false := by decide +kernel
  have healthy : (repaired poolLabel).node.IsHealthy [⟨"Broken", "True"⟩] := by decide +kernel
  obtain ⟨-, steps⟩ := run.recovers rfl found (same.trans origin.symm) stays healthy
  obtain ⟨-, -, cleared, -⟩ := steps clears rfl stands
  obtain ⟨rid, free⟩ := cleared (by decide +kernel) done
  exact ⟨_, _, _, _, worker, after, run, found, same.trans origin.symm, stays, healthy, clears, stands,
    done, ended, rid, free ended⟩

end Office

end Evacuation
