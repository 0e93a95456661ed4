import Evacuation.Proofs.Agency.Warrants
import Evacuation.Proofs.Office.Memory
import Evacuation.Proofs.Session.Basic
/-!
# Redelivery

A feed that starts anew delivers notifications again. Where the first dispatch of a notification ended
with a verdict against its node, or the node has left, or it has a record, a second dispatch right
away only looks into the books: nothing is asked of the cluster, announced or counted, and the desk
stays as it is, to the last timer (`Watch.redelivered`).
-/
namespace Evacuation

variable {T : Type}

/-! ## Books that stay as they are -/

/-- To erase a key under which nothing is found changes nothing. -/
theorem Table.erase_of_get?_eq_none {κ α : Type} [DecidableEq κ] {table : Table κ α} {key : κ}
    (missing : table.get? key = none) : table.erase key = table := by
  obtain ⟨entries⟩ := table
  simp only [get?, erase] at missing ⊢
  congr 1
  induction entries with
  | nil => rfl
  | cons entry rest ih =>
    by_cases same : entry.1 = key
    · rw [lookup, if_pos same] at missing
      cases missing
    · rw [lookup, if_neg same] at missing
      rw [remove, if_neg same, ih missing]

/-- To forget a node that is not remembered changes nothing. -/
theorem FilterChain.forget_of_not_mem {name : String} {processed : Processed}
    (unknown : name ∉ processed) : forget name processed = processed := by
  refine List.filter_eq_self.mpr fun other listed => ?_
  rw [bne_iff_ne]
  rintro rfl
  exact unknown listed

namespace Schedule

/-- To forget a node of which nothing is known changes nothing. -/
theorem forget_of_unknown {schedule : Schedule T} {name : String}
    (untracked : schedule.tracked.get? name = none) (unarmed : schedule.armed.get? name = none) :
    schedule.forget name = (none, schedule) := by
  rw [forget, unarmed, Table.erase_of_get?_eq_none untracked, Table.erase_of_get?_eq_none unarmed]

/-- Of a node without a record none is given up. -/
theorem clear_of_untracked {schedule : Schedule T} {name : String}
    (untracked : schedule.tracked.get? name = none) : schedule.clear name = (false, schedule) := by
  refine if_neg ?_
  rw [current?, untracked]
  exact Bool.false_ne_true

/-- A record that was given up is not given up again. -/
theorem clear_of_clear {schedule : Schedule T} {name : String} :
    ((schedule.clear name).2.clear name).2 = (schedule.clear name).2 := by
  by_cases ended : (schedule.current? name).any (·.phase.isTerminal) = true
  · have given_up : schedule.clear name =
        (true, { schedule with tracked := schedule.tracked.erase name }) := if_pos ended
    have untracked : (schedule.clear name).2.tracked.get? name = none := by
      rw [given_up]
      exact (Table.get?_erase _ _ _).trans (if_pos rfl)
    rw [clear_of_untracked untracked]
  · have kept : schedule.clear name = (false, schedule) := if_neg ended
    rw [kept]
    exact congrArg Prod.snd kept

end Schedule

namespace Control

/-- A request by which the books are read or put in order. -/
def Request.isBookkeeping : Request T → Bool
  | .transact (.look _) | .transact (.forget _) | .transact (.clear _) | .screen _ | .release _ => true
  | _ => false

/-- Bookkeeping is done at the desk. -/
theorem Request.not_isErrand_of_isBookkeeping {request : Request T}
    (books : request.isBookkeeping = true) : request.isErrand = false := by
  cases request with
  | announce | cordon | drain => cases books
  | _ => rfl

end Control

namespace Controller

variable [TimeScale T] {controller : Controller T} {desk later : Desk T} {α : Type} {outcome : α}

/-- At any times of the clock the program does nothing but bookkeeping that changes nothing, and comes
to an outcome. -/
def Rests (controller : Controller T) (desk : Desk T) (outcome : α) : Controlling T α → Prop
  | .done value => value = outcome
  | .ask request next => Control.Request.isBookkeeping request = true ∧ ∀ now,
      (controller.atDesk now request desk).2 = desk ∧
        Rests controller desk outcome (next (controller.atDesk now request desk).1)

namespace Rests

variable {program left : Controlling T α} {path : List (Exchange (Control T))}

/-- Wherever such a program is led, the desk is unchanged. -/
theorem of_servesAll (rests : controller.Rests desk outcome program)
    (reached : program.Reaches path left) (served : controller.ServesAll desk path later) :
    later = desk ∧ ∀ exchange ∈ path, exchange.request.isBookkeeping = true := by
  induction reached with
  | here =>
    cases served
    exact ⟨rfl, fun _ listed => absurd listed List.not_mem_nil⟩
  | next reply onward ih =>
    cases served with
    | cons first rest =>
    obtain ⟨books, unchanged⟩ := rests
    obtain ⟨now, replied⟩ := first.atDesk_eq (Control.Request.not_isErrand_of_isBookkeeping books)
    obtain ⟨same, onward_rests⟩ := unchanged now
    rw [replied] at same onward_rests
    subst same
    obtain ⟨rfl, others⟩ := ih onward_rests rest
    refine ⟨rfl, fun exchange listed => ?_⟩
    obtain rfl | listed := List.mem_cons.mp listed
    · exact books
    · exact others exchange listed

/-- Such a program comes to its end. -/
theorem ends (rests : controller.Rests desk outcome program) :
    ∃ path, program.Reaches path (.done outcome) ∧ controller.ServesAll desk path desk := by
  induction program with
  | done value =>
    obtain rfl := rests
    exact ⟨[], .here _, .nil desk⟩
  | ask request next ih =>
    obtain ⟨books, unchanged⟩ := rests
    obtain ⟨same, onward⟩ := unchanged TimeScale.zero
    obtain ⟨path, reached, served⟩ := ih _ onward
    have here := Control.Request.not_isErrand_of_isBookkeeping books
    have first : controller.Serves desk ⟨request, (controller.atDesk TimeScale.zero request desk).1⟩
        (controller.atDesk TimeScale.zero request desk).2 := .atDesk here TimeScale.zero
    rw [same] at first
    exact ⟨_, .next _ reached, .cons first served⟩

end Rests

variable {notification : Notification}

/-- The dispatch of a node that has left and of which nothing is known rests. -/
theorem rests_departure (departs : notification.isDeparture = true)
    (untracked : desk.schedule.tracked.get? notification.node.name = none)
    (unarmed : desk.schedule.armed.get? notification.node.name = none)
    (unknown : notification.node.name ∉ desk.processed) :
    controller.Rests desk (.ok ()) (Control.Command.dispatch notification).program := by
  rw [Control.dispatch_of_departure departs]
  have forgets (now : T) : controller.atDesk now (.transact (.forget notification.node.name)) desk =
      (none, desk) := by
    show ((desk.schedule.forget _).1, { desk with schedule := (desk.schedule.forget _).2 }) = _
    rw [Schedule.forget_of_unknown untracked unarmed]
  refine ⟨rfl, fun now => ?_⟩
  rw [forgets now]
  refine ⟨rfl, rfl, fun now => ⟨?_, rfl⟩⟩
  show { desk with processed := FilterChain.forget notification.node.name desk.processed } = desk
  rw [FilterChain.forget_of_not_mem unknown]

/-- The dispatch of a node that was screened rests, if the verdict stands, nothing is given up for it,
and a node that is kept has a record. -/
theorem rests_stays {verdict : Option NodeFilter} (stays : notification.isDeparture = false)
    (screened : controller.chain.firstRejecting notification.node desk.processed =
      (verdict, desk.processed))
    (recorded : verdict = none → (desk.schedule.current? notification.node.name).isSome = true)
    (cleared : verdict.any (·.isCondition) = true →
      (desk.schedule.clear notification.node.name).2 = desk.schedule) :
    controller.Rests desk (.ok ()) (Control.Command.dispatch notification).program := by
  rw [Control.dispatch_of_stays stays]
  refine ⟨rfl, fun now => ?_⟩
  have screens : controller.atDesk now (.screen notification.node) desk = (verdict, desk) := by
    show ((controller.chain.firstRejecting notification.node desk.processed).1,
      { desk with processed := (controller.chain.firstRejecting _ desk.processed).2 }) = _
    rw [screened]
  rw [screens]
  refine ⟨rfl, ?_⟩
  cases verdict with
  | none =>
    refine ⟨rfl, fun now => ⟨rfl, ?_⟩⟩
    obtain ⟨record, found⟩ := Option.isSome_iff_exists.mp (recorded rfl)
    have status : desk.schedule.status notification.node.name =
        (true, decide (record.phase = .failed)) := by
      rw [Schedule.status, found]
    have looks : controller.atDesk now (.transact (.look notification.node.name)) desk =
        ((true, decide (record.phase = .failed)), desk) := congrArg (·, desk) status
    rw [looks]
    exact rfl
  | some filter =>
    by_cases healthy : filter.isCondition = true
    · simp only [Control.followUp, if_pos healthy]
      refine ⟨rfl, fun now => ⟨?_, rfl⟩⟩
      show { desk with schedule := (desk.schedule.clear notification.node.name).2 } = desk
      rw [cleared healthy]
    · simp only [Control.followUp, if_neg healthy]
      exact rfl

end Controller

/-! ## Nodes that have left -/

namespace Office

variable [TimeScale T] {controller : Controller T} {buffer : DrainBuffer T} {office later : Office T}
  {deeds : List (Deed T)} {deed : Deed T} {notification : Notification}

/-- Once a dispatch has forgotten its node, nothing of the node is known. -/
def Forgotten (deeds : List (Deed T)) (office : Office T) (place : Nat) (name : String) : Prop :=
  ∀ armed, ⟨.transact (.forget name), armed⟩ ∈ Deed.log deeds place →
    office.desk.schedule.tracked.get? name = none ∧ office.desk.schedule.armed.get? name = none

/-- While a node that has left is forgotten, nobody books a drain of it. -/
theorem Watched.not_book (watched : Watched controller (opened buffer) deeds office)
    (run : Run controller (opened buffer) deeds office) {place clerk : Nat} {worker : Clerk T}
    (found : office.clerks[place]? = some worker)
    (cause : worker.cause = .command (.dispatch notification))
    (departs : notification.isDeparture = true) (busy : worker.isDone = false) {cause : Cause}
    {request : Control.Request T}
    {next : (Control T).Reply request → Controlling T (Except Failure Unit)}
    (asks : office.clerks[clerk]? = some ⟨cause, .ask request next, false⟩) (node : Node) :
    request ≠ .transact (.book node) := by
  rintro rfl
  obtain ⟨timer, target, record, _, drain⟩ | ⟨other, rfl, stays, _⟩ :=
    (watched.causes asks).asks (run.logged.reaches asks) rfl
  · cases drain
  · -- Only one notification is in hand, and it is that of the node that has left.
    have dispatch : worker.cause.isDispatch = true := by
      rw [‹worker.cause = _›]
      rfl
    obtain rfl := watched.alone asks found rfl dispatch rfl busy
    cases asks.symm.trans found
    cases ‹Cause.command _ = _›
    cases stays.symm.trans departs

/-- What was forgotten stays forgotten while the dispatch is in hand, and when it is done. -/
theorem Watched.forgotten_step (watched : Watched controller (opened buffer) deeds office)
    (run : Run controller (opened buffer) deeds office) (step : Step controller office deed later)
    {place : Nat} {worker : Clerk T} (found : office.clerks[place]? = some worker)
    (cause : worker.cause = .command (.dispatch notification))
    (departs : notification.isDeparture = true) (busy : worker.isDone = false)
    (forgotten : Forgotten deeds office place notification.node.name) :
    Forgotten (deeds ++ [deed]) later place notification.node.name := by
  intro armed logged
  obtain ⟨done, listed, own, moves⟩ := Deed.mem_log.mp logged
  obtain listed | rfl := (List.mem_append.mp listed).imp_right List.mem_singleton.mp
  · have before := forgotten armed (Deed.mem_log.mpr ⟨done, listed, own, moves⟩)
    cases step with
    | command | send | back => exact before
    | fire stands ready now =>
      rw [Controller.atDesk_fire controller now office.desk stands]
      exact before
    | ask asks here now =>
      have unbooked (node : Node) := watched.not_book run found cause departs busy asks node
      constructor
      · exact Controller.untracked_atDesk _ _ _ here (fun node same => absurd same (unbooked node))
          before.1
      · exact Controller.unarmed_atDesk _ _ _ here (fun node same => absurd same (unbooked node))
          before.2
  · have answered := ((run.snoc step).answers (List.mem_append_right deeds (.head [])) moves).asked rfl
    rw [answered] at step
    obtain ⟨now, next, _, replied⟩ := step.of_asked
    have same : later.desk = { office.desk with
        schedule := (office.desk.schedule.forget notification.node.name).2 } :=
      (congrArg Prod.snd replied).symm
    rw [same]
    constructor <;> exact (Table.get?_erase _ _ _).trans (if_pos rfl)

/-- Nothing is known of a node that has left once its dispatch has forgotten it. -/
theorem Watch.forgotten (watch : Watch controller (opened buffer) deeds office) {place : Nat}
    {worker : Clerk T} (found : office.clerks[place]? = some worker)
    (cause : worker.cause = .command (.dispatch notification))
    (departs : notification.isDeparture = true) (busy : worker.isDone = false) :
    Forgotten deeds office place notification.node.name := by
  induction watch generalizing worker with
  | here => simp [opened] at found
  | @snoc deeds deed middle later watch step admitted ih =>
    obtain ⟨before, stood, same, had⟩ | ⟨new, begins⟩ := step.worker found
    · exact watch.watched.forgotten_step watch.run step stood (same.trans cause) departs (had busy)
        (ih stood (same.trans cause) (had busy))
    · intro armed logged
      rw [Deed.log_append, watch.run.logged.log_eq_nil new, begins] at logged
      simp [Deed.log, Deed.exchange?] at logged

end Office

/-! ## What was settled -/

namespace Office

variable [TimeScale T] {controller : Controller T} {buffer : DrainBuffer T} {office later : Office T}
  {deeds : List (Deed T)} {deed : Deed T} {notification : Notification}

/-- A dispatch that was told that its node is healthy ends when the record of the node is given up, or
when there is none to give up. -/
theorem Step.clears (step : Step controller office deed later)
    (run : Run controller (opened buffer) deeds office) {worker : Clerk T}
    (found : later.clerks[deed.clerk]? = some worker)
    (cause : worker.cause = .command (.dispatch notification)) (done : worker.isDone = true)
    (stays : notification.isDeparture = false) {filter : NodeFilter}
    (healthy : filter.isCondition = true)
    (told : ⟨.screen notification.node, some filter⟩ ∈ Deed.log (deeds ++ [deed]) deed.clerk) :
    (later.desk.schedule.clear notification.node.name).2 = later.desk.schedule := by
  obtain ⟨value, ended⟩ := Clerk.program_of_isDone done
  have reached := (run.snoc step).logged.reaches found
  rw [cause, ended] at reached
  obtain ⟨tail, log, onward⟩ := Control.told_first stays reached told
  simp only [Control.followUp, if_pos healthy] at onward
  obtain ⟨given_up, last, rfl, rest⟩ := onward.of_ask_done
  obtain ⟨rfl, _⟩ := Program.reaches_done_iff.mp rest
  have exchanged {exchange : Exchange (Control T)}
      (moves : Deed.log (deeds ++ [deed]) deed.clerk = Deed.log deeds deed.clerk ++ [exchange]) :
      exchange = ⟨.transact (.clear notification.node.name), given_up⟩ := by
    rw [log, ← List.singleton_append] at moves
    obtain ⟨_, same⟩ := List.append_inj' moves rfl
    cases same
    rfl
  cases step with
  | command | fire =>
    rw [Deed.log_concat, run.logged.log_eq_nil (by simp [Deed.clerk])] at log
    cases log
  | send stands errand =>
    have sending : Step controller office _ _ := .send office stands errand
    obtain ⟨_, _, away⟩ := sending.of_sent
    cases found.symm.trans away
    cases done
  | @back _ _ request _ stands outcome =>
    obtain ⟨_, sound⟩ := run.sound
    have errand := sound.errand stands
    have same : request = .transact (.clear notification.node.name) :=
      congrArg Exchange.request (exchanged (Deed.log_concat deeds _))
    rw [same] at errand
    cases errand
  | ask stands here now =>
    have same := exchanged (Deed.log_concat deeds _)
    cases same
    exact Schedule.clear_of_clear

/-- The deed by which a dispatch ends was done by a clerk who was at work on it, and the exchanges of
the dispatch have left the filters as they are. -/
theorem Watch.of_done (watch : Watch controller (opened buffer) deeds office)
    (step : Step controller office deed later) {worker : Clerk T}
    (found : later.clerks[deed.clerk]? = some worker)
    (cause : worker.cause = .command (.dispatch notification)) (done : worker.isDone = true) :
    ∃ before value processed, office.clerks[deed.clerk]? = some before ∧
      before.cause = .command (.dispatch notification) ∧
      Program.Reaches (Control.Command.dispatch notification).program
        (Deed.log (deeds ++ [deed]) deed.clerk) (.done value) ∧
      controller.chain.Replays processed (Deed.log (deeds ++ [deed]) deed.clerk)
        later.desk.processed := by
  obtain ⟨value, ended⟩ := Clerk.program_of_isDone done
  cases there : office.clerks[deed.clerk]? with
  | none =>
    obtain ⟨stands, _⟩ := step.clerk_new there
    cases found.symm.trans stands
    have same : deed.cause = .command (.dispatch notification) := cause
    have nothingLeft : deed.cause.program = .done value := ended
    rw [same] at nothingLeft
    cases Control.dispatch_ne_done nothingLeft
  | some before =>
    obtain ⟨_, stands, origin, same, _⟩ := step.clerk there
    cases found.symm.trans stands
    have began : before.cause = .command (.dispatch notification) :=
      (origin.trans same.symm).trans cause
    obtain ⟨first, second, _, _, replays⟩ := watch.remembered.replays_own watch.run step there began
    have reached := (watch.run.snoc step).logged.reaches found
    rw [cause, ended] at reached
    exact ⟨before, value, _, rfl, began, reached, replays⟩

/-- Nothing is known of a node whose departure was dispatched to the end. -/
theorem Watch.unknown_of_departure (watch : Watch controller (opened buffer) deeds office)
    (step : Step controller office deed later) {worker : Clerk T}
    (found : later.clerks[deed.clerk]? = some worker)
    (cause : worker.cause = .command (.dispatch notification)) (done : worker.isDone = true)
    (departs : notification.isDeparture = true) :
    later.desk.schedule.tracked.get? notification.node.name = none ∧
      later.desk.schedule.armed.get? notification.node.name = none ∧
      notification.node.name ∉ later.desk.processed := by
  obtain ⟨before, value, processed, stood, began, reached, replays⟩ :=
    watch.of_done step found cause done
  have left := Control.after_of_replays reached replays
  rw [FilterChain.after, if_pos departs] at left
  rw [Control.dispatch_of_departure departs] at reached
  obtain ⟨armed, tail, log, _⟩ := reached.of_ask_done
  have busy := step.isDone_eq_false stood
  have known := watch.forgotten stood began departs busy
  have forgotten := watch.watched.forgotten_step watch.run step stood began departs busy known armed
    (log ▸ List.mem_cons_self)
  refine ⟨forgotten.1, forgotten.2, ?_⟩
  rw [left]
  exact fun there => (FilterChain.mem_forget.mp there).2 rfl

/-- A dispatch of a node that has not left leaves the filters with a verdict on the node that stands, or
with one that drops it only for having been kept. -/
theorem Watch.verdict_of_stays {labels : Table String String} {specs : List ConditionSpec}
    {dryRun : Bool} (chain : controller.chain = .build labels specs dryRun)
    (watch : Watch controller (opened buffer) deeds office) (step : Step controller office deed later)
    {worker : Clerk T} (found : later.clerks[deed.clerk]? = some worker)
    (cause : worker.cause = .command (.dispatch notification)) (done : worker.isDone = true)
    (stays : notification.isDeparture = false) :
    ∃ verdict, ⟨.screen notification.node, verdict⟩ ∈ Deed.log (deeds ++ [deed]) deed.clerk ∧
      (controller.chain.firstRejecting notification.node later.desk.processed =
          (verdict, later.desk.processed) ∨
        verdict = none ∧ controller.chain.firstRejecting notification.node later.desk.processed =
          (some .processed, later.desk.processed)) := by
  obtain ⟨before, value, processed, _, _, reached, replays⟩ := watch.of_done step found cause done
  have asks := reached
  rw [Control.dispatch_of_stays stays] at asks
  obtain ⟨_, tail, log, _⟩ := asks.of_ask_done
  rw [log] at reached replays ⊢
  obtain ⟨verdict, head, screened⟩ := Control.verdict_of_replays stays reached replays
  rw [head]
  refine ⟨verdict, List.mem_cons_self, ?_⟩
  rw [chain] at screened ⊢
  exact FilterChain.firstRejecting_again screened

/-- If the dispatch of a notification ended with a verdict against its node, or the node has left, or
it has a record, then a second dispatch right away comes to its end, and wherever it is led, at any
times of the clock, it does nothing but bookkeeping that leaves the desk as it is: no errand is sent
into the cluster, nothing is announced or counted, no timer is touched, and records, buffer and what
the filters remember stay. -/
theorem Watch.redelivered {plan : Blueprint T} {desk : Desk T}
    (built : plan.build = .ok (controller, desk))
    (watch : Watch controller { desk } (deeds ++ [deed]) office)
    (given : deed.cause = .command (.dispatch notification)) {worker : Clerk T}
    (found : office.clerks[deed.clerk]? = some worker) (done : worker.isDone = true)
    (settled : notification.isDeparture = true ∨
      (∃ filter, ⟨.screen notification.node, some filter⟩ ∈ Deed.log (deeds ++ [deed]) deed.clerk) ∨
      (office.desk.schedule.current? notification.node.name).isSome = true) :
    (∃ path, (Control.Command.dispatch notification).program.Reaches path (.done (.ok ())) ∧
      controller.ServesAll office.desk path office.desk) ∧
    ∀ {path left again}, (Control.Command.dispatch notification).program.Reaches path left →
      controller.ServesAll office.desk path again →
        again = office.desk ∧ ∀ exchange ∈ path, exchange.request.isBookkeeping = true := by
  obtain ⟨chain, buffer, rfl⟩ := Blueprint.chain_of_build built
  suffices rests : controller.Rests office.desk (.ok ())
      (Control.Command.dispatch notification).program from
    ⟨rests.ends, fun reached served => rests.of_servesAll reached served⟩
  generalize all : deeds ++ [deed] = whole at watch settled
  cases watch with
  | here => cases List.append_ne_nil_of_right_ne_nil deeds (List.cons_ne_nil _ _) all
  | snoc watch step admitted =>
  obtain ⟨rfl, same⟩ := List.append_inj' all rfl
  cases same
  have cause : worker.cause = .command (.dispatch notification) := by
    obtain ⟨_, stands, same⟩ := (watch.run.snoc step).logged.known
      (List.mem_append_right deeds List.mem_cons_self)
    cases found.symm.trans stands
    exact same.trans given
  have reached := (watch.run.snoc step).logged.reaches found
  rw [cause] at reached
  cases departs : notification.isDeparture with
  | true =>
    obtain ⟨untracked, unarmed, unknown⟩ := watch.unknown_of_departure step found cause done departs
    exact Controller.rests_departure departs untracked unarmed unknown
  | false =>
  obtain ⟨verdict, told, stands | ⟨rfl, again⟩⟩ :=
    watch.verdict_of_stays chain step found cause done departs
  · refine Controller.rests_stays departs stands (fun kept => ?_) fun healthy => ?_
    · subst kept
      obtain left | ⟨filter, dropped⟩ | recorded := settled
      · cases left.symm.trans departs
      · obtain ⟨_, log, _⟩ := Control.told_first departs reached told
        obtain ⟨_, also, _⟩ := Control.told_first departs reached dropped
        cases log.symm.trans also
      · exact recorded
    · obtain ⟨filter, rfl, healthy⟩ := (Option.any_eq_true _ _).mp healthy
      exact step.clears watch.run found cause done departs healthy told
  · exact Controller.rests_stays departs again nofun nofun

end Office

namespace Agency

/-- The dispatch of the sick node, but for the last report that its drain is booked. -/
def booking : List (Move Rat) := evacuation.take 19

/-- A dispatch has ended with the return of an errand, and its node has a record. -/
def Event.endsRecorded (office : Office T) : Event T → Bool
  | .deed (.returned clerk (.command (.dispatch notification)) _) =>
    office.clerks[clerk]?.any (·.isDone) &&
      (office.desk.schedule.current? notification.node.name).isSome
  | _ => false

theorem Event.of_endsRecorded {office : Office T} {event : Event T}
    (ends : event.endsRecorded office = true) :
    ∃ deed notification worker, event = .deed deed ∧
      deed.cause = .command (.dispatch notification) ∧ office.clerks[deed.clerk]? = some worker ∧
      worker.isDone = true ∧
      (office.desk.schedule.current? notification.node.name).isSome = true := by
  unfold Event.endsRecorded at ends
  split at ends
  · rename_i clerk notification exchange
    obtain ⟨finished, recorded⟩ := Bool.and_eq_true_iff.mp ends
    obtain ⟨worker, found, done⟩ := (Option.any_eq_true _ _).mp finished
    exact ⟨_, notification, worker, rfl, rfl, found, done, recorded⟩
  · cases ends

theorem isSome_booking :
    (play? smallController booking { office := .opened ⟨60, none⟩ }).isSome = true := by
  decide +kernel

theorem any_endsRecorded_booking : ((Option.get _ isSome_booking).2.move? smallController
    (.back 0)).any (fun moved => moved.1.endsRecorded moved.2.office) = true := by
  decide +kernel

/-- The sick node is reported again right after its drain was booked. -/
theorem redelivered_booking : ∃ deeds deed office notification,
    smallPlan.build = .ok (smallController, { schedule := { buffer := ⟨60, none⟩ } }) ∧
    Office.Watch smallController (.opened ⟨60, none⟩) (deeds ++ [deed]) office ∧
    deed.cause = .command (.dispatch notification) ∧
    (office.desk.schedule.current? notification.node.name).isSome = true ∧
    ∃ path, (Control.Command.dispatch notification).program.Reaches path (.done (.ok ())) ∧
      smallController.ServesAll office.desk path office.desk := by
  have run := Run.of_play? .here (Option.some_get isSome_booking).symm
  obtain ⟨⟨event, later⟩, moved, ends⟩ := (Option.any_eq_true _ _).mp any_endsRecorded_booking
  obtain ⟨deed, notification, worker, rfl, given, found, done, recorded⟩ :=
    Event.of_endsRecorded ends
  have watch := (run.snoc (Step.of_move? moved)).watch
  rw [Event.deeds_append] at watch
  have again := Office.Watch.redelivered build_smallPlan watch given found done
    (.inr (.inr recorded))
  exact ⟨_, deed, later.office, notification, build_smallPlan, watch, given, recorded, again.1⟩

end Agency

end Evacuation
