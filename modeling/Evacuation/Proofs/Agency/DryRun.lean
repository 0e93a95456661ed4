import Mathlib.Data.List.Induction
import Evacuation.Proofs.Agency.Warrants
import Evacuation.Proofs.Office.Memory
/-!
# Dry runs

A controller that was built for a dry run files events and asks nothing else of the cluster. From the
time a node is first heard of, or has left, until it leaves again, it is handled at most once: at the
first notification that is accepted, however often the node recovers, relapses or is dropped by a
filter in between. Nothing can fail, so no failure is counted (`Run.once_in_dryRun`).
-/
namespace Evacuation

variable {T : Type}

/-! ## What a dry run remembers -/

namespace Blueprint

/-- An accepted notification of a node came among others, and the node has not left since. -/
def Reported (plan : Blueprint T) (notifications : List Notification) (name : String) : Prop :=
  ∃ before other after, notifications = before ++ other :: after ∧ other.node.name = name ∧
    plan.Accepts other ∧ ∀ later ∈ after, later.node.name = name → later.isDeparture = false

variable {plan : Blueprint T} {notifications : List Notification} {notification : Notification}
  {name : String} {processed : Processed}

theorem not_reported_nil : ¬ plan.Reported [] name := by
  rintro ⟨before, other, after, none_came, _⟩
  cases List.append_ne_nil_of_right_ne_nil before (List.cons_ne_nil _ _) none_came.symm

/-- What one more notification makes of it. -/
theorem reported_concat : plan.Reported (notifications ++ [notification]) name ↔
    notification.node.name = name ∧ plan.Accepts notification ∨
      plan.Reported notifications name ∧
        (notification.node.name = name → notification.isDeparture = false) := by
  constructor
  · rintro ⟨before, other, after, parts, named, accepted, stayed⟩
    obtain ⟨rfl, rfl, rfl⟩ | ⟨earlier, rfl, rfl⟩ := concat_eq_append_cons_iff.mp parts
    · exact .inl ⟨named, accepted⟩
    · refine .inr ⟨⟨before, other, earlier, rfl, named, accepted, fun later listed => ?_⟩, ?_⟩
      · exact stayed later (List.mem_append_left _ listed)
      · exact stayed notification (List.mem_append_right _ List.mem_cons_self)
  · rintro (⟨named, accepted⟩ | ⟨⟨before, other, after, rfl, named, accepted, stayed⟩, stays⟩)
    · exact ⟨notifications, notification, [], rfl, named, accepted,
        fun _ listed => absurd listed List.not_mem_nil⟩
    · refine ⟨before, other, after ++ [notification], by simp, named, accepted, fun later listed => ?_⟩
      obtain listed | last := List.mem_append.mp listed
      · exact stayed later listed
      · obtain rfl := List.mem_singleton.mp last
        exact stays

/-- A notification of a node that has not left is accepted exactly if the first three filters keep the
node. -/
theorem accepts_iff (stays : notification.isDeparture = false) :
    plan.Accepts notification ↔ carriesLabels plan.labels notification.node = true ∧
      (offendingConditions plan.conditions notification.node).isEmpty = false ∧
      notification.node.isUnschedulable = false := by
  have offends : (offendingConditions plan.conditions notification.node).isEmpty = false ↔
      ∃ condition ∈ notification.node.conditions, ∃ spec ∈ plan.conditions,
        spec.accepts condition = true := by
    simp [offendingConditions, List.any_eq_true]
  rw [offends]
  constructor
  · exact fun accepted => ⟨accepted.labels, accepted.condition, accepted.schedulable⟩
  · rintro ⟨labels, condition, schedulable⟩
    exact ⟨stays, labels, condition, schedulable⟩

/-- In a dry run no filter drops the node of an accepted notification, unless it is remembered; and then
it is remembered. -/
theorem firstRejecting_of_accepts (dry : plan.dryRun = true) (accepted : plan.Accepts notification) :
    plan.chain.firstRejecting notification.node processed =
      if notification.node.name ∈ processed then (some .processed, processed)
      else (none, notification.node.name :: processed) := by
  obtain ⟨labels, offending, schedulable⟩ := (accepts_iff accepted.stays).mp accepted
  rw [chain, FilterChain.firstRejecting_build, labels, offending, schedulable, dry]
  simp

/-- In a dry run the node of any other notification is dropped, and nothing more is remembered. -/
theorem firstRejecting_of_not_accepts (stays : notification.isDeparture = false)
    (refused : ¬ plan.Accepts notification) :
    ∃ filter, plan.chain.firstRejecting notification.node processed = (some filter, processed) := by
  rw [accepts_iff stays] at refused
  rw [chain, FilterChain.firstRejecting_build]
  by_cases labels : carriesLabels plan.labels notification.node = true
  · by_cases offending : (offendingConditions plan.conditions notification.node).isEmpty = false
    · have closed : notification.node.isUnschedulable = true := by
        refine eq_true_of_ne_false fun schedulable => ?_
        exact refused ⟨labels, offending, schedulable⟩
      rw [labels, offending, closed]
      exact ⟨_, rfl⟩
    · have sound := eq_true_of_ne_false offending
      rw [labels, sound]
      exact ⟨_, rfl⟩
  · rw [eq_false_of_ne_true labels]
    exact ⟨_, rfl⟩

/-- A dry run remembers exactly the nodes that were reported. -/
theorem mem_remembers_iff (dry : plan.dryRun = true) :
    name ∈ plan.chain.remembers notifications ↔ plan.Reported notifications name := by
  induction notifications using List.reverseRecOn with
  | nil => exact iff_of_false List.not_mem_nil not_reported_nil
  | append_singleton notifications notification ih =>
    rw [FilterChain.remembers_concat, reported_concat, ← ih]
    generalize plan.chain.remembers notifications = processed
    unfold FilterChain.after
    cases departs : notification.isDeparture with
    | true =>
      have refused : ¬ plan.Accepts notification := fun accepted => by
        cases accepted.stays.symm.trans departs
      rw [if_pos rfl]
      simp only [FilterChain.forget, List.mem_filter, bne_iff_ne, refused, and_false, false_or,
        reduceCtorEq, imp_false]
      exact and_congr_right fun _ => ne_comm
    | false =>
      rw [if_neg Bool.false_ne_true]
      by_cases accepted : plan.Accepts notification
      · rw [firstRejecting_of_accepts dry accepted]
        by_cases known : notification.node.name ∈ processed
        · rw [if_pos known]
          grind
        · rw [if_neg known]
          simp [accepted, eq_comm]
      · have dropped : (plan.chain.firstRejecting notification.node processed).2 = processed := by
          obtain ⟨filter, same⟩ := firstRejecting_of_not_accepts departs accepted
          rw [same]
        rw [dropped]
        simp [accepted]

/-- Between two accepted notifications of a node, of which the second one is the first since the node
was last reported, the node has left. -/
theorem departed {first between : List Notification}
    (named : notification.node.name = name)
    (accepted : plan.Accepts notification)
    (fresh : ¬ plan.Reported (first ++ notification :: between) name) :
    ∃ departure ∈ between, departure.node.name = name ∧ departure.isDeparture = true := by
  by_contra stayed
  refine fresh ⟨first, notification, between, rfl, named, accepted, fun later listed named => ?_⟩
  refine eq_false_of_ne_true fun departs => stayed ?_
  exact ⟨later, listed, named, departs⟩

/-- What is built from a blueprint for a dry run carries nothing out. -/
theorem drainer_of_build [TimeScale T] {controller : Controller T} {desk : Desk T}
    (built : plan.build = .ok (controller, desk)) (dry : plan.dryRun = true) :
    controller.drainer = .dryRun := by
  have drainer : plan.drainer = .ok .dryRun := if_pos dry
  rw [Blueprint.build, drainer] at built
  cases spacing : DrainBuffer.ofSpacing? plan.spacing with
  | none =>
    rw [spacing] at built
    cases built
  | some buffer =>
    rw [spacing] at built
    cases built
    rfl

end Blueprint

/-! ## When a node is handled -/

namespace Control

variable [TimeScale T] {notification : Notification} {path : List (Exchange (Control T))}
  {left : Controlling T (Except Failure Unit)}

/-- The node whose handling begins with a request. -/
def Request.looked? : Request T → Option String
  | .transact (.look name) => some name
  | _ => none

omit [TimeScale T] in
/-- The nodes whose handling begins along a path. -/
def handled (path : List (Exchange (Control T))) : List String :=
  path.filterMap (·.request.looked?)

/-- The program begins to handle no node. -/
abbrev Unlooking {α : Type} (program : Controlling T α) : Prop :=
  program.Only (Request.looked? · = none)

omit [TimeScale T] in
theorem handled_of_unlooking {program : Controlling T (Except Failure Unit)}
    (unlooking : Unlooking program) (reached : program.Reaches path left) : handled path = [] := by
  refine List.filterMap_eq_nil_iff.mpr fun exchange listed => ?_
  exact unlooking.of_mem_path reached listed

omit [TimeScale T] in
theorem unlooking_closing (outcome : Except Failure Unit) :
    Unlooking (closing (T := T) notification outcome) := by
  cases outcome with
  | ok value => trivial
  | error failure => exact ⟨rfl, fun _ => trivial⟩

omit [TimeScale T] in
theorem unlooking_farewell (name : String) : Unlooking (T := T)
    (.ask (.transact (.forget name)) (farewell name)) := by
  refine ⟨rfl, fun armed => ?_⟩
  cases armed with
  | none => exact ⟨rfl, fun _ => trivial⟩
  | some timer => exact ⟨rfl, fun _ => ⟨rfl, fun _ => trivial⟩⟩

omit [TimeScale T] in
/-- A program of requests among which there is no look at a node begins to handle none. -/
theorem unlooking_of_only {α : Type} {allowed : Request T → Prop} {program : Controlling T α}
    (only : program.Only allowed) (blind : ∀ name, ¬ allowed (.transact (.look name))) :
    Unlooking program := by
  refine only.mono fun request asked => ?_
  cases request with
  | transact transaction =>
    cases transaction with
    | look name => exact absurd asked (blind name)
    | _ => rfl
  | _ => rfl

/-- A dispatch begins to handle no node but its own, only if no filter dropped it, and only once. -/
theorem handled_dispatch
    (reached : Program.Reaches (Command.dispatch notification).program path left) :
    handled path = [] ∨ handled path = [notification.node.name] ∧
      notification.isDeparture = false ∧ ⟨.screen notification.node, none⟩ ∈ path := by
  cases departs : notification.isDeparture with
  | true =>
    rw [dispatch_of_departure departs] at reached
    exact .inl (handled_of_unlooking (unlooking_farewell _) reached)
  | false =>
  rw [dispatch_of_stays departs] at reached
  cases reached with
  | here => exact .inl rfl
  | next verdict onward =>
  cases verdict with
  | some filter =>
    have unlooking : Unlooking (followUp (T := T) notification.node (some filter)) := by
      by_cases healthy : filter.isCondition = true
      · simp only [followUp, if_pos healthy]
        exact ⟨rfl, fun _ => trivial⟩
      · simp only [followUp, if_neg healthy]
        trivial
    have nothing := handled_of_unlooking (unlooking.bind unlooking_closing) onward
    exact .inl nothing
  | none =>
    obtain ⟨next, same, handles⟩ := @handleNode_eq T notification.node _
    have handling : Program.Reaches ((handleNode notification.node).bind (closing notification)) _
        left := onward
    rw [same] at handling
    cases handling with
    | here => exact .inl rfl
    | next found rest =>
    have unlooking := unlooking_of_only (handles found) (by rintro _ ⟨⟩)
    have none_more := handled_of_unlooking (unlooking.bind unlooking_closing) rest
    refine .inr ⟨?_, rfl, List.mem_cons_self⟩
    exact congrArg (notification.node.name :: ·) none_more

/-- A dispatch that no filter stops and that is done has handled its node. -/
theorem mem_handled_of_screened {result : Except Failure Unit}
    (stays : notification.isDeparture = false)
    (reached : Program.Reaches (Command.dispatch notification).program path (.done result))
    (kept : ⟨.screen notification.node, none⟩ ∈ path) : notification.node.name ∈ handled path := by
  obtain ⟨tail, rfl, onward⟩ := told_first stays reached kept
  obtain ⟨reply, _, rfl, _⟩ := onward.of_ask_done
  exact List.mem_cons_self

end Control

/-- The nodes that a clerk has begun to handle. -/
def Deed.handled (deeds : List (Deed T)) (clerk : Nat) : List String :=
  Control.handled (log deeds clerk)

namespace Office

variable [TimeScale T] {plan : Blueprint T} {controller : Controller T} {buffer : DrainBuffer T}
  {deeds : List (Deed T)} {office : Office T}

/-- Who begins was not there before. -/
theorem Step.new_of_began {start later : Office T} {clerk : Nat} {cause : Cause}
    (step : Step controller start (.began clerk cause) later) : start.clerks[clerk]? = none := by
  cases step with
  | command | fire => exact List.getElem?_eq_none (Nat.le_refl _)

/-- A clerk does nothing before it begins. -/
theorem Run.not_mem_of_began {first second : List (Deed T)} {clerk : Nat} {cause : Cause}
    (run : Run controller (opened buffer) (first ++ .began clerk cause :: second) office) {deed : Deed T}
    (done : deed ∈ first) : deed.clerk ≠ clerk := by
  rintro rfl
  obtain ⟨start, later, earlier, step, _⟩ := run.step_of_append
  obtain ⟨worker, stood, _⟩ := earlier.logged.known done
  cases step.new_of_began.symm.trans stood

/-- A clerk begins once. -/
theorem Run.began_once {first second before after : List (Deed T)} {clerk : Nat} {cause other : Cause}
    (run : Run controller (opened buffer) deeds office)
    (parts : deeds = first ++ .began clerk cause :: second)
    (also : deeds = before ++ .began clerk other :: after) : first = before ∧ cause = other := by
  subst parts
  have absent : Deed.began clerk other ∉ first := fun listed => run.not_mem_of_began listed rfl
  have missing : Deed.began clerk other ∉ second := by
    intro listed
    obtain ⟨earlier, later, rfl⟩ := List.append_of_mem listed
    rw [← List.cons_append, ← List.append_assoc] at run
    have listed : .began clerk cause ∈ first ++ .began clerk cause :: earlier :=
      List.mem_append_right first List.mem_cons_self
    exact run.not_mem_of_began listed rfl
  obtain ⟨rfl, same, _⟩ := (List.append_cons_inj_of_notMem absent missing).mp also
  exact ⟨rfl, (Deed.began.inj same).2⟩

/-- A clerk that handles a node dispatches a notification of it that no filter stopped, and handles it
once. -/
theorem Watch.dispatches_of_handled (watch : Watch controller (opened buffer) deeds office)
    (clerk : Nat) : Deed.handled deeds clerk = [] ∨ ∃ worker notification,
      office.clerks[clerk]? = some worker ∧ worker.cause = .command (.dispatch notification) ∧
      Deed.handled deeds clerk = [notification.node.name] ∧ notification.isDeparture = false ∧
      ⟨.screen notification.node, none⟩ ∈ Deed.log deeds clerk := by
  unfold Deed.handled
  cases there : office.clerks[clerk]? with
  | none =>
    rw [watch.run.logged.log_eq_nil there]
    exact .inl rfl
  | some worker =>
  have reached := watch.run.logged.reaches there
  cases dispatch : worker.cause.isDispatch with
  | false =>
    have ofDrains := (watch.watched.causes there).ofDrains (T := T) dispatch
    have unlooking := Control.unlooking_of_only ofDrains (by rintro _ ⟨⟩)
    exact .inl (Control.handled_of_unlooking unlooking reached)
  | true =>
    obtain ⟨notification, cause⟩ := Cause.of_isDispatch dispatch
    rw [cause] at reached
    obtain nothing | once := Control.handled_dispatch reached
    · exact .inl nothing
    · exact .inr ⟨worker, notification, rfl, cause, once⟩

/-- Whoever handles a node in a dry run does so for an accepted notification of it, and the node was not
reported before. -/
theorem Watch.accepted_of_handled (chain : controller.chain = plan.chain) (dry : plan.dryRun = true)
    (watch : Watch controller (opened buffer) deeds office) {clerk : Nat} {name : String}
    (handles : name ∈ Deed.handled deeds clerk) :
    ∃ first second notification,
      deeds = first ++ .began clerk (.command (.dispatch notification)) :: second ∧
      notification.node.name = name ∧ plan.Accepts notification ∧
      ¬ plan.Reported (Deed.dispatched first) name := by
  obtain nothing | ⟨worker, notification, found, cause, once, stays, kept⟩ :=
    watch.dispatches_of_handled clerk
  · rw [nothing] at handles
    cases handles
  rw [once] at handles
  obtain rfl := List.mem_singleton.mp handles
  have reached := watch.run.logged.reaches found
  rw [cause] at reached
  obtain ⟨first, second, processed, parts, replays, _⟩ := watch.remembered.replays found cause
  obtain ⟨tail, log, _⟩ := Control.told_first stays reached kept
  rw [log] at reached replays
  obtain ⟨_, same, screened⟩ := Control.verdict_of_replays stays reached replays
  cases same
  rw [cause] at parts
  refine ⟨first, second, notification, parts, rfl, ?_⟩
  rw [← Blueprint.mem_remembers_iff dry]
  rw [chain] at screened
  by_cases accepted : plan.Accepts notification
  · rw [Blueprint.firstRejecting_of_accepts dry accepted] at screened
    refine ⟨accepted, fun known => ?_⟩
    rw [if_pos known] at screened
    cases screened
  · obtain ⟨filter, dropped⟩ := Blueprint.firstRejecting_of_not_accepts stays accepted
    rw [dropped] at screened
    cases screened

/-- In a dry run the dispatch of an accepted notification handles the node, unless it was reported
before. -/
theorem Watch.handled_of_accepts (chain : controller.chain = plan.chain) (dry : plan.dryRun = true)
    (watch : Watch controller (opened buffer) deeds office) {first second : List (Deed T)}
    {clerk : Nat} {notification : Notification} {worker : Clerk T}
    (parts : deeds = first ++ .began clerk (.command (.dispatch notification)) :: second)
    (found : office.clerks[clerk]? = some worker) (done : worker.isDone = true)
    (accepted : plan.Accepts notification)
    (fresh : ¬ plan.Reported (Deed.dispatched first) notification.node.name) :
    notification.node.name ∈ Deed.handled deeds clerk := by
  have listed : .began clerk (.command (.dispatch notification)) ∈ deeds := by
    rw [parts]
    exact List.mem_append_right first List.mem_cons_self
  obtain ⟨_, stood, cause⟩ := watch.run.logged.known listed
  cases found.symm.trans stood
  obtain ⟨value, ended⟩ := Clerk.program_of_isDone done
  have reached := watch.run.logged.reaches found
  rw [cause, ended] at reached
  obtain ⟨before, after, processed, also, replays, _⟩ := watch.remembered.replays found cause
  obtain ⟨rfl, _⟩ := watch.run.began_once parts also
  refine Control.mem_handled_of_screened accepted.stays reached ?_
  have asks := reached
  rw [Deed.cause, Cause.program, Control.dispatch_of_stays accepted.stays] at asks
  obtain ⟨_, tail, log, _⟩ := asks.of_ask_done
  rw [log] at reached replays ⊢
  obtain ⟨verdict, head, screened⟩ := Control.verdict_of_replays accepted.stays reached replays
  rw [chain, Blueprint.firstRejecting_of_accepts dry accepted,
    if_neg (fresh ∘ (Blueprint.mem_remembers_iff dry).mp)] at screened
  cases screened
  rw [head]
  exact List.mem_cons_self

/-- In a dry run a node that is handled in a second dispatch has left between the two. -/
theorem Watch.departed_between (chain : controller.chain = plan.chain) (dry : plan.dryRun = true)
    (watch : Watch controller (opened buffer) deeds office) {first between last : List (Deed T)}
    {one two : Nat} {cause other : Cause} {name : String}
    (parts : deeds = first ++ .began one cause :: between ++ .began two other :: last)
    (handled : name ∈ Deed.handled deeds one) (again : name ∈ Deed.handled deeds two) :
    ∃ departure ∈ Deed.dispatched between,
      departure.node.name = name ∧ departure.isDeparture = true := by
  have early : deeds = first ++ .began one cause :: (between ++ .began two other :: last) := by
    rw [parts, List.append_assoc, List.cons_append]
  obtain ⟨_, _, accepted, also, named, accepts, _⟩ := watch.accepted_of_handled chain dry handled
  obtain ⟨rfl, rfl⟩ := watch.run.began_once early also
  obtain ⟨_, _, _, late, _, _, fresh⟩ := watch.accepted_of_handled chain dry again
  obtain ⟨rfl, _⟩ := watch.run.began_once parts late
  rw [Deed.dispatched_append] at fresh
  exact Blueprint.departed named accepts fresh

/-- Nobody handles more than one node, or one twice. -/
theorem Watch.length_handled_le_one (watch : Watch controller (opened buffer) deeds office)
    (clerk : Nat) : (Deed.handled deeds clerk).length ≤ 1 := by
  obtain nothing | ⟨_, _, _, _, once, _⟩ := watch.dispatches_of_handled clerk
  · rw [nothing]
    exact Nat.zero_le 1
  · rw [once]
    exact Nat.le_refl 1

end Office

/-! ## What a dry run asks for -/

namespace Control

/-- A cordon or a drain that came back did so as in a dry run. -/
def InName : Exchange (Control T) → Prop
  | ⟨.cordon _, outcome⟩ => outcome = .ok ()
  | ⟨.drain node, outcome⟩ => outcome = .ok { node := node.name }
  | _ => True

/-- The request counts no failure. -/
def Request.CountsNoFailure (request : Request T) : Prop := ∀ series, request ≠ .count series .failed

/-- As long as cordons and drains are carried out in name, the program counts no failure. -/
abbrev Unfailing {α : Type} (program : Controlling T α) : Prop :=
  program.OnlyWhile InName Request.CountsNoFailure

theorem unfailing_announcing {α : Type} {stage : Stage} {name message : String}
    {rest : Controlling T (Except Failure α)} (unfailing : Unfailing rest) :
    Unfailing (announcing stage name message rest) := by
  refine ⟨nofun, fun reply _ => ?_⟩
  cases reply with
  | error failure => trivial
  | ok value => exact unfailing

theorem unfailing_runDrain (node : Node) (record : Nat) :
    Unfailing (runDrain (T := T) node record) := by
  refine ⟨nofun, fun begun _ => ?_⟩
  cases begun with
  | false => trivial
  | true =>
    refine unfailing_announcing ⟨nofun, ?_⟩
    rintro _ rfl
    exact ⟨nofun, fun _ _ => ⟨nofun, fun _ _ => unfailing_announcing trivial⟩⟩

variable [TimeScale T]

theorem unfailing_handleNode (node : Node) : Unfailing (handleNode (T := T) node) := by
  refine ⟨nofun, fun ⟨known, failed⟩ _ => ?_⟩
  cases known with
  | true => trivial
  | false =>
  refine unfailing_announcing ⟨nofun, ?_⟩
  rintro _ rfl
  refine ⟨nofun, fun _ _ => unfailing_announcing ?_⟩
  have schedules : Unfailing (schedule (T := T) node) := by
    refine .of_only (ofBooking_schedule.mono ?_)
    rintro _ books series rfl
    cases books
  refine schedules.bind fun booked => ?_
  split <;> trivial

theorem unfailing_dispatch (notification : Notification) :
    Unfailing ((Command.dispatch notification).program (T := T)) := by
  cases departs : notification.isDeparture with
  | true =>
    rw [dispatch_of_departure departs]
    refine ⟨by rintro _ ⟨⟩, fun armed _ => ?_⟩
    cases armed with
    | none => exact ⟨by rintro _ ⟨⟩, fun _ _ => trivial⟩
    | some timer => exact ⟨by rintro _ ⟨⟩, fun _ _ => ⟨by rintro _ ⟨⟩, fun _ _ => trivial⟩⟩
  | false =>
    rw [dispatch_of_stays departs]
    refine ⟨by rintro _ ⟨⟩, fun verdict _ => Program.OnlyWhile.bind ?_ fun outcome => ?_⟩
    · cases verdict with
      | none => exact unfailing_handleNode notification.node
      | some filter =>
        by_cases healthy : filter.isCondition = true
        · simp only [followUp, if_pos healthy]
          exact ⟨by rintro _ ⟨⟩, fun _ _ => trivial⟩
        · simp only [followUp, if_neg healthy]
          trivial
    · cases outcome with
      | ok value => trivial
      | error failure => exact ⟨by rintro _ ⟨⟩, fun _ _ => trivial⟩

end Control

/-- Whatever comes up in a watch counts no failure as long as cordons and drains are carried out in
name. -/
theorem Cause.IsWatched.unfailing [TimeScale T] {cause : Cause} (watched : cause.IsWatched) :
    Control.Unfailing (cause.program (T := T)) := by
  cases watched with
  | timer timer node record => exact Control.unfailing_runDrain node record
  | dispatch notification => exact Control.unfailing_dispatch notification
  | stop =>
    have silent : Control.Silent (Control.Command.stop.program (T := T)) :=
      Control.silent_stop.bind fun _ => trivial
    refine .of_only (silent.mono ?_)
    rintro _ quiet series rfl
    cases quiet

/-- A result that nobody counted was counted no time. -/
theorem Office.Run.count_eq_zero [TimeScale T] {controller : Controller T} {buffer : DrainBuffer T}
    {deeds : List (Deed T)} {office : Office T} {series : Series} {success : Success}
    (run : Run controller (opened buffer) deeds office)
    (uncounted : ∀ deed ∈ deeds, ∀ exchange, deed.exchange? = some exchange →
      exchange.request ≠ .count series success) :
    office.desk.metrics.count series success.label = 0 := by
  induction run with
  | here => exact Metrics.count_empty series success.label
  | @snoc deeds deed middle later run step ih =>
    have before := ih fun deed done => uncounted deed (List.mem_append_left _ done)
    have unasked := uncounted deed (List.mem_append_right deeds List.mem_cons_self)
    cases step with
    | command | send | back => exact before
    | fire stands ready now =>
      rw [Controller.atDesk_fire controller now middle.desk stands]
      exact before
    | @ask _ _ request _ stands here now =>
      rw [Controller.count_atDesk controller now _ here, before, Nat.zero_add]
      have other := unasked _ rfl
      cases request with
      | count counted result =>
        refine List.count_eq_zero.mpr fun listed => other ?_
        cases List.mem_singleton.mp listed
        rfl
      | _ => rfl

namespace Agency

variable [TimeScale T] {plan : Blueprint T} {controller : Controller T} {desk : Desk T}
  {buffer : DrainBuffer T} {events : List (Event T)} {agency later : Agency T}

/-- In a dry run the work for an errand asks for nothing but to file an event, and comes to what it
comes to in name. -/
theorem work_of_dryRun (dry : controller.drainer = .dryRun) {request : Control.Request T}
    {work : Work T ((Control T).Reply request)} (begun : controller.work? request = some work) :
    work.Only (fun asked => ∃ ns filed, asked = World.Request.call (.createEvent ns filed)) ∧
      ∀ {path outcome}, work.Reaches path (.done outcome) →
        Control.InName ⟨request, Control.settle request outcome⟩ := by
  cases request with
  | announce stage node message =>
    cases begun
    refine ⟨⟨⟨_, _, rfl⟩, fun _ => trivial⟩, fun _ => trivial⟩
  | cordon node | drain node =>
    cases begun
    rw [dry]
    refine ⟨trivial, fun reached => ?_⟩
    cases (Program.reaches_done_iff.mp reached).2
    exact rfl
  | _ => cases begun

/-- In a dry run the cluster is asked for nothing but to file events. -/
theorem Run.files (dry : controller.drainer = .dryRun)
    (run : Run controller { office := { desk } } events agency) {clerk : Nat} {cause : Cause}
    {errand : Control.Request T} {exchange : Exchange (World T)}
    (worked : .worked clerk cause errand exchange ∈ events) :
    ∃ ns filed, exchange.request = .call (.createEvent ns filed) := by
  induction run with
  | here => cases worked
  | @snoc events event middle later run step ih =>
    obtain before | last := List.mem_append.mp worked
    · exact ih before
    · cases List.mem_singleton.mp last
      cases step with
      | work stands found reply =>
      obtain ⟨_, _, _, _, work, _, _, begun, reached⟩ := run.inHand found
      exact (work_of_dryRun dry begun).1.of_reaches reached

/-- In a dry run cordons and drains come back as carried out in name. -/
theorem Run.inName (dry : controller.drainer = .dryRun)
    (run : Run controller { office := { desk } } events agency) {deed : Deed T}
    {exchange : Exchange (Control T)} (done : deed ∈ Event.deeds events)
    (moves : deed.exchange? = some exchange) : Control.InName exchange := by
  induction run with
  | here => cases done
  | @snoc events event middle later run step ih =>
    rw [Event.deeds_append] at done
    obtain before | last := List.mem_append.mp done
    · exact ih before
    · cases step with
      | inside step admitted home =>
        cases List.mem_singleton.mp last
        cases step with
        | command | fire => cases moves
        | @ask _ _ request _ stands here now =>
          cases moves
          cases request with
          | cordon | drain => cases here
          | _ => trivial
        | send | back => cases home
      | send step begun =>
        cases List.mem_singleton.mp last
        cases moves
      | work => cases last
      | back found step =>
        cases List.mem_singleton.mp last
        cases moves
        obtain ⟨_, _, _, _, work, _, _, begun, reached⟩ := run.inHand found
        exact (work_of_dryRun dry begun).2 reached

/-- In a dry run no failed cordon or drain is counted. -/
theorem Run.count_failed (dry : controller.drainer = .dryRun)
    (run : Run controller { office := .opened buffer } events agency) (series : Series) :
    agency.office.desk.metrics.count series Success.failed.label = 0 := by
  have watch : Office.Watch controller (.opened buffer) (Event.deeds events) agency.office := run.watch
  refine watch.run.count_eq_zero fun deed done exchange moves => ?_
  obtain ⟨worker, found, _⟩ := watch.run.logged.known done
  have reached := watch.run.logged.reaches found
  have unfailing := (watch.watched.causes found).unfailing (T := T)
  have inName : ∀ exchange ∈ Deed.log (Event.deeds events) deed.clerk, Control.InName exchange := by
    intro exchange logged
    obtain ⟨also, listed, _, moved⟩ := Deed.mem_log.mp logged
    exact run.inName dry listed moved
  exact unfailing.of_mem_path reached inName (Deed.mem_log.mpr ⟨deed, done, rfl, moves⟩) series

/-- A controller that was built for a dry run asks the cluster for nothing but to file events. A node
is handled only in the dispatch of a notification of it that is the first accepted one since the node
was first heard of or has last left, and there it is handled; so between two times that a node is
handled it has left. And no failed cordon or drain is counted. -/
theorem Run.once_in_dryRun (built : plan.build = .ok (controller, desk)) (dry : plan.dryRun = true)
    (run : Run controller { office := { desk } } events agency) :
    (∀ {clerk cause errand exchange}, .worked clerk cause errand exchange ∈ events →
      ∃ ns filed, exchange.request = .call (.createEvent ns filed)) ∧
    (∀ {clerk name}, name ∈ Deed.handled (Event.deeds events) clerk →
      ∃ first second notification,
        Event.deeds events = first ++ .began clerk (.command (.dispatch notification)) :: second ∧
        notification.node.name = name ∧ plan.Accepts notification ∧
        ¬ plan.Reported (Deed.dispatched first) name) ∧
    (∀ {first second clerk notification worker},
      Event.deeds events = first ++ .began clerk (.command (.dispatch notification)) :: second →
      agency.office.clerks[clerk]? = some worker → worker.isDone = true →
      plan.Accepts notification →
      ¬ plan.Reported (Deed.dispatched first) notification.node.name →
      notification.node.name ∈ Deed.handled (Event.deeds events) clerk) ∧
    (∀ clerk, (Deed.handled (Event.deeds events) clerk).length ≤ 1) ∧
    (∀ {first between last one two cause other name},
      Event.deeds events = first ++ .began one cause :: between ++ .began two other :: last →
      name ∈ Deed.handled (Event.deeds events) one → name ∈ Deed.handled (Event.deeds events) two →
      ∃ departure ∈ Deed.dispatched between,
        departure.node.name = name ∧ departure.isDeparture = true) ∧
    ∀ series, agency.office.desk.metrics.count series Success.failed.label = 0 := by
  obtain ⟨chain, buffer, rfl⟩ := Blueprint.chain_of_build built
  have drainer := Blueprint.drainer_of_build built dry
  have watch : Office.Watch controller (.opened buffer) (Event.deeds events) agency.office := run.watch
  exact ⟨run.files drainer, watch.accepted_of_handled chain dry,
    fun parts found done => watch.handled_of_accepts chain dry parts found done,
    watch.length_handled_le_one, watch.departed_between chain dry, run.count_failed drainer⟩

/-- The small blueprint for a dry run. -/
def dryPlan : Blueprint Rat := { smallPlan with dryRun := true }

/-- The controller of the blueprint. -/
def dryController : Controller Rat := { drainer := .dryRun, chain := dryPlan.chain }

theorem build_dryPlan : dryPlan.build =
    .ok (dryController, { schedule := { buffer := ⟨60, none⟩ } }) := rfl

/-- The sick node is handled up to where the reports begin, although the first one is lost. -/
def handling (clerk : Nat) : List (Move Rat) :=
  [.inside (.command (.dispatch ⟨"ADDED", sickNode⟩)), .inside (.ask clerk 0),
    .inside (.ask clerk 0), .send clerk,
    .work clerk (.failure (.broken "RuntimeError" "connection reset")), .back clerk,
    .inside (.ask clerk 0)]

/-- The sick node is reported twice, leaves, and comes back. -/
def comingBack : List (Move Rat) :=
  handling 0 ++ [.inside (.command (.dispatch ⟨"MODIFIED", sickNode⟩)), .inside (.ask 1 1),
    .inside (.command (.dispatch ⟨"DELETED", sickNode⟩)), .inside (.ask 2 2), .inside (.ask 2 2)] ++
    handling 3

theorem isSome_comingBack :
    (play? dryController comingBack { office := .opened ⟨60, none⟩ }).isSome = true := by
  decide +kernel

theorem handled_comingBack :
    Deed.handled (Event.deeds (Option.get _ isSome_comingBack).1) 0 = ["n1"] ∧
      Deed.handled (Event.deeds (Option.get _ isSome_comingBack).1) 1 = [] ∧
      Deed.handled (Event.deeds (Option.get _ isSome_comingBack).1) 3 = ["n1"] := by
  decide +kernel

/-- The sick node is handled when it is first reported and when it has come back. -/
theorem once_in_dryRun_comingBack : ∃ events agency,
    dryPlan.build = .ok (dryController, { schedule := { buffer := ⟨60, none⟩ } }) ∧
    dryPlan.dryRun = true ∧ Run dryController { office := .opened ⟨60, none⟩ } events agency ∧
    Deed.handled (Event.deeds events) 0 = ["n1"] ∧ Deed.handled (Event.deeds events) 1 = [] ∧
    Deed.handled (Event.deeds events) 3 = ["n1"] ∧
    ∃ first second notification,
      Event.deeds events = first ++ .began 3 (.command (.dispatch notification)) :: second ∧
      notification.node.name = "n1" ∧ dryPlan.Accepts notification ∧
      ¬ dryPlan.Reported (Deed.dispatched first) "n1" := by
  have run := Run.of_play? .here (Option.some_get isSome_comingBack).symm
  obtain ⟨first, again, later⟩ := handled_comingBack
  obtain ⟨_, only, _⟩ := Run.once_in_dryRun build_dryPlan rfl run
  have listed : "n1" ∈ Deed.handled (Event.deeds (Option.get _ isSome_comingBack).1) 3 := by
    rw [later]
    exact List.mem_cons_self
  exact ⟨_, _, build_dryPlan, rfl, run, first, again, later, only listed⟩

end Agency

end Evacuation
