import Evacuation.Blueprint
import Evacuation.Proofs.Agency.Play
import Evacuation.Proofs.Drain.Changes
import Evacuation.Proofs.NodeFilter.History
import Evacuation.Proofs.Office.Drains
/-!
# Warrants

Nothing is changed in the cluster without cause. A node is patched only while a notification of it is
dispatched that is accepted and finds no record (`WarrantsPatch`). A pod is evicted only in a drain
that began for the current record of its node, after the record was booked for an accepted notification
whose node was cordoned, and only if the pod was on the node and every filter kept it
(`WarrantsEviction`). The main statement is that these are all the changes a controller built from a
blueprint asks for (`Run.warranted`).
-/
namespace Evacuation

variable {T : Type} [TimeScale T]

/-- A notification is accepted: its node has not left, carries all labels, has a condition that some
spec asks for, and may be given new pods. -/
structure Blueprint.Accepts (plan : Blueprint T) (notification : Notification) : Prop where
  stays : notification.isDeparture = false
  labels : carriesLabels plan.labels notification.node = true
  condition : ∃ condition ∈ notification.node.conditions, ∃ spec ∈ plan.conditions,
    spec.accepts condition = true
  schedulable : notification.node.isUnschedulable = false

omit [TimeScale T] in
/-- A notification whose node no filter drops is accepted. -/
theorem Blueprint.accepts_of_screening {plan : Blueprint T}
    {notification : Notification} {processed : Processed}
    (stays : notification.isDeparture = false)
    (kept : (plan.chain.firstRejecting notification.node processed).1 = none) :
    plan.Accepts notification := by
  obtain ⟨labels, offending, schedulable, -⟩ := FilterChain.firstRejecting_build_eq_none.mp kept
  refine ⟨stays, labels, ?_, schedulable⟩
  obtain ⟨condition, matching⟩ :=
    List.exists_mem_of_ne_nil _ (List.isEmpty_eq_false_iff.mp offending)
  obtain ⟨shown, asked⟩ := List.mem_filter.mp matching
  exact ⟨condition, shown, List.any_eq_true.mp asked⟩

/-- What is built from a blueprint that is no dry run. -/
theorem Blueprint.of_build {plan : Blueprint T} {controller : Controller T} {desk : Desk T}
    (built : plan.build = .ok (controller, desk)) (live : plan.dryRun = false) :
    ∃ filters buffer, plan.podFilters = .ok filters ∧
      controller.drainer = .live (plan.executor filters) ∧ controller.chain = plan.chain ∧
        desk = { schedule := { buffer } } := by
  have drainer : plan.drainer =
      plan.podFilters.map fun filters => .live (plan.executor filters) := by
    rw [Blueprint.drainer, live]
    rfl
  rw [Blueprint.build, drainer] at built
  cases known : plan.podFilters with
  | error cause =>
    rw [known] at built
    cases built
  | ok filters =>
    rw [known] at built
    cases spacing : DrainBuffer.ofSpacing? plan.spacing with
    | none => simp [Except.map, spacing] at built
    | some buffer =>
      simp only [Except.map, spacing] at built
      cases built
      exact ⟨filters, buffer, rfl, rfl, rfl, rfl⟩

namespace Office

variable {plan : Blueprint T} {controller : Controller T} {buffer : DrainBuffer T}
  {deeds : List (Deed T)} {office later : Office T}

/-- A clerk patches a node with good cause: it is at work for an accepted notification of the node, and
the node has no record. -/
def WarrantsPatch (plan : Blueprint T) (deeds : List (Deed T)) (office : Office T) (clerk : Nat)
    (cause : Cause) (node : String) : Prop :=
  ∃ notification, cause = .command (.dispatch notification) ∧ notification.node.name = node ∧
    .began clerk cause ∈ deeds ∧ plan.Accepts notification ∧
    office.desk.schedule.tracked.get? node = none

/-- A clerk drains a node with good cause: the drain was booked for an accepted notification of the
node before the timer went off, and it began while its record was the current one of the node. -/
def WarrantsDrain (plan : Blueprint T) (controller : Controller T) (start : Office T)
    (deeds : List (Deed T)) (clerk timer : Nat) (node : Node) (record : Nat) : Prop :=
  ∃ dispatcher notification first second third office,
    deeds = first ++ .began clerk (.timer timer node record) ::
      (second ++ .asked clerk (.timer timer node record) (Control.launching node record true) ::
        third) ∧
    notification.node = node ∧ plan.Accepts notification ∧
    Booked controller start first dispatcher notification timer record ∧
    Run controller start (first ++ .began clerk (.timer timer node record) :: second) office ∧
    office.desk.schedule.tracked.get? node.name = some record

/-- Who asks for more than plain requests works for an accepted notification. -/
theorem Run.accepted (same : controller.chain = plan.chain)
    {clerk : Nat} {worker : Clerk T} {notification : Notification} {request : Control.Request T}
    {next : (Control T).Reply request → Controlling T (Except Failure Unit)}
    (run : Run controller (opened buffer) deeds office) (found : office.clerks[clerk]? = some worker)
    (cause : worker.cause = .command (.dispatch notification))
    (asks : worker.program = .ask request next) (grave : request.isPlain = false) :
    plan.Accepts notification := by
  obtain ⟨stays, processed, kept⟩ := run.screened found cause asks grave
  rw [same] at kept
  exact plan.accepts_of_screening stays kept

/-- What was booked was booked for an accepted notification. -/
theorem Booked.accepted (same : controller.chain = plan.chain)
    {clerk timer record : Nat} {notification : Notification}
    (booked : Booked controller (opened buffer) deeds clerk notification timer record)
    (run : Run controller (opened buffer) deeds office) : plan.Accepts notification := by
  obtain ⟨failed, appointment, before, after, _, rfl, _⟩ := booked
  obtain ⟨start, later, earlier, step, _⟩ := run.step_of_append
  obtain ⟨_, _, found, _⟩ := step.of_asked
  exact earlier.accepted same found rfl rfl rfl

/-- A clerk that is about to cordon does so with good cause. -/
theorem Watch.warrantsPatch (same : controller.chain = plan.chain)
    (watch : Watch controller (opened buffer) deeds office) {clerk : Nat} {cause : Cause}
    {node : Node} {next : Except Failure Unit → Controlling T (Except Failure Unit)} {away : Bool}
    (found : office.clerks[clerk]? = some ⟨cause, .ask (.cordon node) next, away⟩) :
    WarrantsPatch plan deeds office clerk cause node.name := by
  have run := watch.run
  obtain ⟨_, _, _, _, drain⟩ | ⟨notification, rfl, _, path, log, asks⟩ :=
    (watch.watched.causes found).asks (run.logged.reaches found) rfl
  · cases drain
  cases asks with
  | plain plain => cases plain
  | cordon failed =>
  obtain ⟨done, part, _⟩ := run.trail found
  have looked : Control.looking notification.node failed ∈ Deed.log deeds clerk := by
    rw [log]
    exact List.mem_cons_of_mem _ List.mem_cons_self
  refine ⟨notification, rfl, rfl, part.mem List.mem_cons_self,
    run.accepted same found rfl rfl rfl,
    watch.watched.untracked found rfl rfl looked fun reply booked => ?_⟩
  rw [log] at booked
  simp only [List.mem_cons, List.not_mem_nil, or_false] at booked
  obtain other | other | other := booked <;> cases other

/-- A timer that goes off was made with its node and its record. -/
theorem Step.of_began_timer {clerk timer record : Nat} {node : Node}
    (step : Step controller office (.began clerk (.timer timer node record)) later) :
    ∃ found, office.desk.schedule.timers[timer]? = some found ∧ found.node = node ∧
      found.record = record := by
  cases step with
  | fire stands ready now => exact ⟨_, stands, rfl, rfl⟩

/-- A clerk that sends a drain out does so with good cause. -/
theorem Watch.warrantsDrain (same : controller.chain = plan.chain)
    (watch : Watch controller (opened buffer) deeds office) {clerk timer record : Nat}
    {node target : Node}
    (step : Step controller office (.sent clerk (.timer timer node record) (.drain target)) later) :
    WarrantsDrain plan controller (opened buffer) deeds clerk timer node record := by
  obtain ⟨rfl, before, third, start, rfl, earlier, current⟩ := watch.run.current_of_drain step
  obtain ⟨between, _, launching, launch⟩ := watch.step_of_append
  obtain ⟨_, _, found, _⟩ := launch.of_asked
  obtain ⟨done, part, _⟩ := launching.run.trail found
  obtain ⟨first, second, rfl⟩ := List.append_of_mem (part.mem List.mem_cons_self)
  obtain ⟨beginning, _, fresh, begins⟩ := launching.step_of_append
  obtain ⟨made, stands, rfl, rfl⟩ := begins.of_began_timer
  obtain ⟨dispatcher, notification, node, booked⟩ := fresh.watched.booked stands
  exact ⟨dispatcher, notification, first, second, third, start,
    List.append_assoc .., node,
    booked.accepted same fresh.run, booked, earlier, current⟩

end Office

namespace Agency

variable {plan : Blueprint T} {controller : Controller T} {buffer : DrainBuffer T}
  {events : List (Event T)} {agency later : Agency T}

/-- A pod is evicted with good cause: a drain of a node was sent out with good cause, and since then
the pod was listed among the pods of the node and every filter kept it. -/
def WarrantsEviction (plan : Blueprint T) (controller : Controller T) (start : Agency T)
    (events : List (Event T)) (clerk : Nat) (cause : Cause) (errand : Control.Request T)
    (pod : Pod) : Prop :=
  ∃ filters timer node record before after, plan.podFilters = .ok filters ∧
    cause = .timer timer node record ∧ errand = .drain node ∧
    events = before ++ .deed (.sent clerk cause errand) :: after ∧
    Office.WarrantsDrain plan controller start.office (Event.deeds before) clerk timer node record ∧
    (plan.executor filters).Justified node.name (Event.work after clerk) pod

/-- The work for an errand changes nothing but what it is for, and with good cause. -/
theorem Run.warranted_of_inHand {filters : List PodFilter} (known : plan.podFilters = .ok filters)
    (drainer : controller.drainer = .live (plan.executor filters))
    (same : controller.chain = plan.chain)
    (run : Run controller { office := .opened buffer } events agency) {clerk : Nat} {worker : Clerk T}
    {errand : Control.Request T} {request : (World T).Request}
    {next : (World T).Reply request → Work T ((Control T).Reply errand)} {change : Change}
    (stands : agency.office.clerks[clerk]? = some worker)
    (found : agency.errands clerk = some ⟨errand, .ask request next⟩)
    (asked : World.Request.change? request = some change) :
    (∃ node, errand = .cordon node ∧ change = .patch node.name ∧ Office.WarrantsPatch plan
      (Event.deeds events) agency.office clerk worker.cause node.name) ∨
    ∃ pod, change = .evict pod ∧ WarrantsEviction plan controller { office := .opened buffer } events
      clerk worker.cause errand pod := by
  obtain ⟨cause, onward, before, after, work, there, rfl, begun, reached⟩ := run.inHand found
  have watch := run.watch
  rw [there] at stands
  cases stands
  cases errand with
  | announce stage node message =>
    cases begun
    exact ((Work.quiet_record _ _).of_reaches reached change asked).elim
  | cordon node =>
    cases begun
    rw [drainer] at reached
    have own := (Executor.changes_cordon _ node).of_reaches reached change asked
    exact .inl ⟨node, rfl, own, watch.warrantsPatch same there⟩
  | drain node =>
    cases begun
    rw [drainer] at reached
    obtain ⟨pod, rfl, justified⟩ := Executor.justified_of_drain reached asked
    obtain ⟨timer, _, record, rfl, own⟩ | ⟨_, _, _, _, _, asks⟩ :=
      (watch.watched.causes there).asks (watch.run.logged.reaches there) rfl
    · cases own
      rw [Event.deeds_append] at watch
      obtain ⟨_, _, earlier, sending⟩ := watch.step_of_append
      exact .inr ⟨pod, rfl, filters, timer, node, record, before, after, known, rfl, rfl, rfl,
        earlier.warrantsDrain same sending, justified⟩
    · cases asks with
      | plain plain => cases plain
  | _ => cases begun

/-- A controller that was built from a blueprint, and not for a dry run, asks the cluster for no changes
but these: to patch a node, in a cordon of it while an accepted notification of it is dispatched and
it has no record; and to evict a pod, in a drain of a node that was booked for an accepted notification
after the node was cordoned, began while its record was the current one, and was answered that the
pod is on the node and that every filter keeps it. So a node of which no notification was accepted is
not patched and not drained, and who was told that a cordon failed has booked no drain. -/
theorem Run.warranted {desk : Desk T} (built : plan.build = .ok (controller, desk))
    (live : plan.dryRun = false) (run : Run controller { office := { desk } } events agency)
    {clerk : Nat} {cause : Cause} {errand : Control.Request T} {exchange : Exchange (World T)}
    {change : Change} (step : Step controller agency (.worked clerk cause errand exchange) later)
    (asked : World.Request.change? exchange.request = some change) :
    ((∃ node, errand = .cordon node ∧ change = .patch node.name ∧ Office.WarrantsPatch plan
        (Event.deeds events) agency.office clerk cause node.name) ∨
      ∃ pod, change = .evict pod ∧ WarrantsEviction plan controller { office := { desk } } events
        clerk cause errand pod) ∧
    (∀ name, (∀ dispatcher notification, .began dispatcher (.command (.dispatch notification)) ∈
        Event.deeds events → notification.node.name = name → ¬ plan.Accepts notification) →
      change ≠ .patch name ∧ ∀ node, errand = .drain node → node.name ≠ name) ∧
    ∀ {dispatcher timer record : Nat} {notification : Notification} {target : Node}
      {failure : Failure}, .returned dispatcher (.command (.dispatch notification))
        ⟨.cordon target, .error failure⟩ ∈ Event.deeds events →
      ¬ Office.Booked controller { desk } (Event.deeds events) dispatcher notification timer
        record := by
  obtain ⟨filters, buffer, known, drainer, same, rfl⟩ := Blueprint.of_build built live
  cases step with
  | work stands found reply =>
  have warranted := run.warranted_of_inHand known drainer same stands found asked
  refine ⟨warranted, fun name refused => ?_, fun back booked => ?_⟩
  · obtain ⟨node, rfl, rfl, notification, cause, named, began, accepted, _⟩ | ⟨pod, rfl, _, timer,
      node, record, before, after, _, _, rfl, rfl, drain, _⟩ := warranted
    · refine ⟨?_, nofun⟩
      rintro ⟨⟩
      exact refused clerk notification (cause ▸ began) named accepted
    · refine ⟨nofun, ?_⟩
      rintro _ ⟨⟩ rfl
      obtain ⟨dispatcher, notification, first, _, _, _, deeds, rfl, accepted, booked, _⟩ := drain
      refine refused dispatcher notification ?_ rfl accepted
      rw [Event.deeds_append, deeds, List.append_assoc]
      exact List.mem_append_left _ booked.began
  · cases booked.cordoned run.watch.run back

/-- The cluster is asked to evict a pod. -/
def Event.evicts : Event T → Bool
  | worked _ _ _ ⟨.call (.evict _ _), _⟩ => true
  | _ => false

omit [TimeScale T] in
theorem Event.of_evicts {event : Event T} (evicts : event.evicts = true) :
    ∃ clerk cause errand exchange pod, event = .worked clerk cause errand exchange ∧
      World.Request.change? exchange.request = some (.evict pod) := by
  unfold Event.evicts at evicts
  split at evicts
  · exact ⟨_, _, _, _, _, rfl, rfl⟩
  · cases evicts

/-- A node with a condition for which it is to be drained. -/
def sickNode : Node :=
  { name := "n1", status := some { conditions := some [⟨"KernelDeadlock", "True"⟩] } }

/-- A blueprint by which nodes with a deadlock are drained of all pods that may be lost. -/
def smallPlan : Blueprint Rat :=
  { rules := some { evictUnreplicatedPods := true }
    maxGrace := 480
    headroom := 30
    retryInterval := 5
    pollInterval := 1
    cordonAttempts := 5
    turns := 3
    spacing := 60
    conditions := [⟨"KernelDeadlock", "True"⟩] }

/-- The controller of the blueprint. -/
def smallController : Controller Rat :=
  { drainer := .live (smallPlan.executor [.staticPod, .localStorage, .daemonSet])
    chain := smallPlan.chain }

theorem build_smallPlan : smallPlan.build =
    .ok (smallController, { schedule := { buffer := ⟨60, none⟩ } }) := rfl

/-- The sick node is cordoned and booked, and its drain comes up to where a pod is evicted. -/
def evacuation : List (Move Rat) :=
  [.inside (.command (.dispatch ⟨"ADDED", sickNode⟩)), .inside (.ask 0 0), .inside (.ask 0 0),
    .send 0, .work 0 .done, .back 0, .send 0, .work 0 (.node sickNode), .work 0 .done, .back 0,
    .inside (.ask 0 1), .send 0, .work 0 .done, .back 0,
    .inside (.ask 0 1), .inside (.ask 0 1), .inside (.ask 0 1), .send 0, .work 0 .done, .back 0,
    .inside (.fire 0 61), .inside (.ask 1 61), .send 1, .work 1 .done, .back 1, .send 1,
    .work 1 (.pods [{ name := "p1", ns := "default", node := "n1", uid := "u1" }]),
    .work 1 (.time 62), .work 1 .done, .work 1 .done, .work 1 (.time 62)]

theorem isSome_evacuation :
    (play? smallController evacuation { office := .opened ⟨60, none⟩ }).isSome = true := by
  decide +kernel

theorem any_evicts_evacuation : ((Option.get _ isSome_evacuation).2.move? smallController
    (.work 1 .done)).any (·.1.evicts) = true := by
  decide +kernel

/-- The pod of the sick node is evicted with good cause. -/
theorem warranted_evacuation : ∃ events agency later clerk cause errand exchange pod,
    smallPlan.build = .ok (smallController, { schedule := { buffer := ⟨60, none⟩ } }) ∧
    Run smallController { office := .opened ⟨60, none⟩ } events agency ∧
    Step smallController agency (.worked clerk cause errand exchange) later ∧
    World.Request.change? exchange.request = some (.evict pod) ∧
    WarrantsEviction smallPlan smallController { office := .opened ⟨60, none⟩ } events clerk cause
      errand pod := by
  have run := Run.of_play? .here (Option.some_get isSome_evacuation).symm
  obtain ⟨⟨event, later⟩, moved, evicts⟩ := (Option.any_eq_true _ _).mp any_evicts_evacuation
  obtain ⟨clerk, cause, errand, exchange, pod, rfl, asked⟩ := Event.of_evicts evicts
  have step := Step.of_move? moved
  obtain ⟨⟨_, _, patch, _⟩ | ⟨_, evict, warranted⟩, _⟩ :=
    Run.warranted build_smallPlan rfl run step asked
  · cases patch
  · cases evict
    exact ⟨_, _, _, clerk, cause, errand, exchange, pod, build_smallPlan, run, step, asked,
      warranted⟩

end Agency

end Evacuation
