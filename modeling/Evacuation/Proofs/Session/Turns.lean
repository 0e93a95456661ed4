import Evacuation.Proofs.Session.Mild
/-!
# What is told in a turn

In mild circumstances a turn tells one of a few things, if anything: that a node could not be
cordoned, that it was cordoned and its drain was scheduled, or that its drain went through. What is
told goes with what is counted and with the timer of the node, which is armed only by a turn that
schedules a drain and is no longer armed after one that drains (`Session.tells`).
-/
namespace Evacuation

variable {T : Type}

namespace Control

/-- The event that is told in an exchange. -/
def event? : Exchange (Control T) → Option NodeEvent
  | ⟨.announce stage node message, _⟩ => some (stage.event node message)
  | _ => none

/-- What is told along a path. -/
def told (path : List (Exchange (Control T))) : List NodeEvent := path.filterMap event?

/-- What is counted along a path. -/
def counted (path : List (Exchange (Control T))) : List (Series × Success) :=
  path.filterMap fun exchange => Request.counted? exchange.request

/-- The node whose drain is to be booked by a request. -/
def Request.booked? : Request T → Option String
  | .transact (.book node) => some node.name
  | _ => none

/-- The nodes whose drains are to be booked along a path. -/
def bookedNodes (path : List (Exchange (Control T))) : List String :=
  path.filterMap fun exchange => Request.booked? exchange.request

theorem notMem_bookedNodes_cons {name : String} {exchange : Exchange (Control T)}
    {path : List (Exchange (Control T))} : name ∉ bookedNodes (exchange :: path) ↔
      Request.booked? exchange.request ≠ some name ∧ name ∉ bookedNodes path := by
  rw [bookedNodes, bookedNodes, List.filterMap_cons]
  cases Request.booked? exchange.request with
  | none => simp
  | some node => simp [eq_comm]

theorem told_append (first second : List (Exchange (Control T))) :
    told (first ++ second) = told first ++ told second := List.filterMap_append

theorem counted_append (first second : List (Exchange (Control T))) :
    counted (first ++ second) = counted first ++ counted second := List.filterMap_append

/-- Nothing but silent requests was made along a path. -/
def Hushed (path : List (Exchange (Control T))) : Prop :=
  ∀ exchange ∈ path, Request.isSilent exchange.request = true

theorem hushed_nil : Hushed (T := T) [] := List.forall_mem_nil _

theorem hushed_singleton {exchange : Exchange (Control T)}
    (silent : Request.isSilent exchange.request = true) : Hushed [exchange] :=
  List.forall_mem_singleton.mpr silent

theorem Hushed.append {first second : List (Exchange (Control T))} (before : Hushed first)
    (after : Hushed second) : Hushed (first ++ second) :=
  fun _ asked => (List.mem_append.mp asked).elim (before _) (after _)

theorem Silent.hushed {α : Type} {program left : Controlling T α} {path : List (Exchange (Control T))}
    (silent : Silent program) (reached : program.Reaches path left) : Hushed path :=
  fun _ asked => silent.of_mem_path reached asked

theorem Hushed.told_eq {path : List (Exchange (Control T))} (hushed : Hushed path) :
    told path = [] := by
  refine List.filterMap_eq_nil_iff.mpr ?_
  rintro ⟨request, reply⟩ asked
  have silent := hushed _ asked
  cases request with
  | announce => cases silent
  | _ => rfl

theorem Hushed.counted_eq {path : List (Exchange (Control T))} (hushed : Hushed path) :
    counted path = [] := by
  refine List.filterMap_eq_nil_iff.mpr ?_
  rintro ⟨request, reply⟩ asked
  have silent := hushed _ asked
  cases request with
  | count => cases silent
  | _ => rfl

/-- The exchanges by which a node without a record is handled where nothing worse happens than
refusals. -/
inductive Handled (node : Node) : List (Exchange (Control T)) → Prop where
  | refused (failed : Bool) (refusal : Refusal) (message : String) :
      Handled node [looking node failed, cordonStarting node,
        ⟨.cordon node, .error (.cordon node.name refusal)⟩, ⟨.count .cordoned .failed, ()⟩,
        ⟨.announce .cordonFailed node.name message, .ok ()⟩]
  | unbooked (failed : Bool) (failure : Failure) :
      Handled node ([looking node failed, cordonStarting node, cordoning node] ++ cordoned node ++
        [⟨.transact (.book node), .error failure⟩])
  | booked (failed : Bool) (appointment : Appointment T) (label message : String) :
      Handled node ([looking node failed, cordonStarting node, cordoning node] ++ cordoned node ++
        [⟨.transact (.book node), .ok appointment⟩,
          ⟨.arm appointment.timer appointment.interval, ()⟩, ⟨.start appointment.timer label, ()⟩,
          ⟨.announce .drainScheduled node.name message, .ok ()⟩])

variable [TimeScale T] {controller : Controller T} {path : List (Exchange (Control T))}

/-- A mild announcement is made, and the program goes on. -/
theorem announced_of_done {α : Type} {stage : Stage} {node message : String}
    {rest : Controlling T (Except Failure α)} {result : Except Failure α}
    (reached : Program.Reaches (announcing stage node message rest) path (.done result))
    (mild : ∀ exchange ∈ path, controller.Mild exchange) :
    ∃ onward, path = ⟨.announce stage node message, .ok ()⟩ :: onward ∧
      Program.Reaches rest onward (.done result) ∧
        ∀ exchange ∈ onward, controller.Mild exchange := by
  obtain ⟨_, same⟩ | ⟨failure, rfl, _⟩ | ⟨onward, rfl, after⟩ := reaches_announcing reached
  · cases same
  · cases (mild _ (.head _)).announced
  · exact ⟨onward, rfl, after, (List.forall_mem_cons.mp mild).2⟩

/-- A drain that is scheduled in mild circumstances is booked, and then its timer is started and its
start announced. -/
theorem path_of_schedule {node : Node} {result : Except Failure T}
    (reached : Program.Reaches (schedule (T := T) node) path (.done result))
    (mild : ∀ exchange ∈ path, controller.Mild exchange) :
    (∃ failure, path = [⟨.transact (.book node), .error failure⟩]) ∨
      ∃ appointment label message, path = [⟨.transact (.book node), .ok appointment⟩,
        ⟨.arm appointment.timer appointment.interval, ()⟩, ⟨.start appointment.timer label, ()⟩,
        ⟨.announce .drainScheduled node.name message, .ok ()⟩] := by
  cases reaches_schedule reached with
  | refused failure => exact .inl ⟨failure, rfl⟩
  | @undated appointment error undated =>
    obtain ⟨text, shown⟩ := (mild _ (.head _)).shown node appointment rfl
    cases undated.symm.trans shown
  | @announced appointment text dated reply =>
    obtain rfl : reply = .ok () := (mild _ (List.mem_append_right _ (.head _))).announced
    exact .inr ⟨appointment, _, _, rfl⟩

/-- A node that is handled in mild circumstances has a record, or goes all the way. -/
theorem path_of_handleNode {node : Node} {result : Except Failure Unit}
    (reached : Program.Reaches (handleNode (T := T) node) path (.done result))
    (mild : ∀ exchange ∈ path, controller.Mild exchange) :
    (∃ failed, path = [⟨.transact (.look node.name), (true, failed)⟩]) ∨ Handled node path := by
  obtain ⟨⟨known, failed⟩, tail, rfl, after⟩ := reached.of_ask_done
  cases known with
  | true =>
    obtain ⟨rfl, _⟩ := Program.reaches_done_iff.mp after
    exact .inl ⟨failed, rfl⟩
  | false =>
  right
  obtain ⟨tail, rfl, cordoning, calm⟩ :=
    announced_of_done after (List.forall_mem_cons.mp mild).2
  obtain ⟨outcome, tail, rfl, settled⟩ := cordoning.of_ask_done
  obtain ⟨cordoned, rest⟩ := List.forall_mem_cons.mp calm
  cases outcome with
  | error failure =>
    obtain ⟨refusal, rfl⟩ := cordoned.cordoned
    obtain ⟨⟨⟩, tail, rfl, counted⟩ := settled.of_ask_done
    obtain ⟨tail, rfl, ended, _⟩ := announced_of_done counted (List.forall_mem_cons.mp rest).2
    obtain ⟨rfl, _⟩ := Program.reaches_done_iff.mp ended
    exact .refused failed refusal _
  | ok value =>
    obtain ⟨⟨⟩, tail, rfl, counted⟩ := settled.of_ask_done
    obtain ⟨tail, rfl, scheduling, last⟩ :=
      announced_of_done counted (List.forall_mem_cons.mp rest).2
    obtain ⟨first, second, value, rfl, scheduled, ended⟩ := scheduling.of_bind_done
    have empty : second = [] := by
      split at ended <;> exact (Program.reaches_done_iff.mp ended).1
    subst empty
    rw [List.append_nil] at last ⊢
    obtain ⟨failure, rfl⟩ | ⟨appointment, label, message, rfl⟩ := path_of_schedule scheduled last
    · exact .unbooked failed failure
    · exact .booked failed appointment label message

/-- What a command asks in mild circumstances is silent, or handles a node in between. -/
def Handles (path : List (Exchange (Control T))) : Prop :=
  Hushed path ∨ ∃ node lead core tail, path = lead ++ (core ++ tail) ∧ Hushed lead ∧
    Handled node core ∧ Hushed tail

theorem handles_handleNode {node : Node} {result : Except Failure Unit}
    (reached : Program.Reaches (handleNode (T := T) node) path (.done result))
    (mild : ∀ exchange ∈ path, controller.Mild exchange) : Handles path := by
  obtain ⟨failed, rfl⟩ | handled := path_of_handleNode reached mild
  · exact .inl (hushed_singleton rfl)
  · exact .inr ⟨node, [], path, [], by simp, hushed_nil, handled, hushed_nil⟩

omit [TimeScale T] in
/-- What is silent before and after a path does not change what it is. -/
theorem Handles.around {before after : List (Exchange (Control T))} (handles : Handles path)
    (first : Hushed before) (last : Hushed after) : Handles (before ++ path ++ after) := by
  obtain hushed | ⟨node, lead, core, tail, rfl, led, handled, ended⟩ := handles
  · exact .inl ((first.append hushed).append last)
  · exact .inr ⟨node, before ++ lead, core, tail ++ after, by simp, first.append led, handled,
      ended.append last⟩

theorem handles_react {notification : Notification} {result : Except Failure Unit}
    (reached : Program.Reaches (react (T := T) notification) path (.done result))
    (mild : ∀ exchange ∈ path, controller.Mild exchange) : Handles path := by
  unfold react at reached
  dsimp only at reached
  split at reached
  · exact .inl ((silent_departure _).hushed reached)
  · obtain ⟨verdict, tail, rfl, after⟩ := reached.of_ask_done
    have screened : Hushed (T := T) [⟨.screen notification.node, verdict⟩] := hushed_singleton rfl
    cases verdict with
    | none =>
      have handles := handles_handleNode after (List.forall_mem_cons.mp mild).2
      simpa using handles.around screened hushed_nil
    | some filter => exact .inl (screened.append ((silent_rejection _ filter).hushed after))

/-- Every command but the one to schedule a drain outright is silent or handles a node. -/
theorem Command.handles {command : Command} {result : Except Failure Unit}
    (indirect : ∀ node, command ≠ .schedule node)
    (reached : (command.program (T := T)).Reaches path (.done result))
    (mild : ∀ exchange ∈ path, controller.Mild exchange) : Handles path := by
  cases command with
  | handle node => exact handles_handleNode reached mild
  | schedule node => exact absurd rfl (indirect node)
  | delete node =>
    have silent : Silent ((Command.delete node).program (T := T)) :=
      (silent_deleteSchedule node).bind fun _ => trivial
    exact .inl (silent.hushed reached)
  | clear node =>
    have silent : Silent ((Command.clear node).program (T := T)) :=
      (silent_clearIfHealthy node).bind fun _ => trivial
    exact .inl (silent.hushed reached)
  | stop =>
    have silent : Silent (Command.stop.program (T := T)) := silent_stop.bind fun _ => trivial
    exact .inl (silent.hushed reached)
  | dispatch notification =>
    obtain ⟨_, dispatched, -⟩ := Program.reaches_map_iff.mp reached
    obtain ⟨before, after, outcome, rfl, reacted, complained⟩ := dispatched.of_bind_done
    have handles := handles_react reacted fun exchange asked =>
      mild exchange (List.mem_append_left _ asked)
    exact handles.around hushed_nil ((silent_complaint outcome _).hushed complained)

end Control

namespace Controller

variable [TimeScale T] {controller : Controller T} {desk later : Desk T} {name : String}
  {exchange : Exchange (Control T)} {path : List (Exchange (Control T))}

/-- Only a booking for a node makes it tracked. -/
theorem Serves.untracked (served : controller.Serves desk exchange later)
    (other : Control.Request.booked? exchange.request ≠ some name)
    (untracked : desk.schedule.tracked.get? name = none) :
    later.schedule.tracked.get? name = none := by
  cases served with
  | atDesk here now =>
    refine untracked_atDesk controller now desk here ?_ untracked
    rintro node rfl rfl
    exact other rfl
  | errand errand outcome => exact untracked

/-- Only a booking for a node arms a timer for it. -/
theorem Serves.unarmed (served : controller.Serves desk exchange later)
    (other : Control.Request.booked? exchange.request ≠ some name)
    (unarmed : desk.schedule.armed.get? name = none) :
    later.schedule.armed.get? name = none := by
  cases served with
  | atDesk here now =>
    refine unarmed_atDesk controller now desk here ?_ unarmed
    rintro node rfl rfl
    exact other rfl
  | errand errand outcome => exact unarmed

/-- A node without a record gets none along a path on which none of its drains is booked. -/
theorem ServesAll.untracked (served : controller.ServesAll desk path later)
    (unbooked : name ∉ Control.bookedNodes path)
    (untracked : desk.schedule.tracked.get? name = none) :
    later.schedule.tracked.get? name = none := by
  induction served with
  | nil => exact untracked
  | cons first rest ih =>
    obtain ⟨other, unbooked⟩ := Control.notMem_bookedNodes_cons.mp unbooked
    exact ih unbooked (first.untracked other untracked)

/-- A node without an armed timer gets none along a path on which none of its drains is booked. -/
theorem ServesAll.unarmed (served : controller.ServesAll desk path later)
    (unbooked : name ∉ Control.bookedNodes path)
    (unarmed : desk.schedule.armed.get? name = none) :
    later.schedule.armed.get? name = none := by
  induction served with
  | nil => exact unarmed
  | cons first rest ih =>
    obtain ⟨other, unbooked⟩ := Control.notMem_bookedNodes_cons.mp unbooked
    exact ih unbooked (first.unarmed other unarmed)

/-- What was counted along a path is added to the counts. -/
theorem ServesAll.count (served : controller.ServesAll desk path later) (series : Series)
    (success : Success) : later.metrics.count series success.label =
      desk.metrics.count series success.label + (Control.counted path).count (series, success) := by
  induction served with
  | nil => rfl
  | @cons desk between later exchange path first rest ih =>
    have added : between.metrics.count series success.label =
        desk.metrics.count series success.label +
          (Control.Request.counted? exchange.request).toList.count (series, success) := by
      cases first with
      | atDesk here now => exact count_atDesk controller now desk here series success
      | @errand request errand outcome => cases request <;> first | rfl | cases errand
    have split : Control.counted (exchange :: path) =
        (Control.Request.counted? exchange.request).toList ++ Control.counted path := by
      unfold Control.counted
      rw [List.filterMap_cons]
      cases Control.Request.counted? exchange.request <;> rfl
    rw [ih, added, split, List.count_append, Nat.add_assoc]

end Controller

/-- What a turn tells and counts, and what becomes of the armed timers. -/
inductive Tells (before after : Schedule T) : List NodeEvent → List (Series × Success) → Prop where
  | nothing (unarmed : ∀ {name}, before.armed.get? name = none → after.armed.get? name = none) :
      Tells before after [] []
  | refused {node : String} (message : String) (idle : after.armed.get? node = none)
      (unarmed : ∀ {name}, before.armed.get? name = none → after.armed.get? name = none) :
      Tells before after
        [Stage.cordonStarting.event node "Cordoning node", Stage.cordonFailed.event node message]
        [(.cordoned, .failed)]
  | booked {node : String} (message : String)
      (unarmed : ∀ {name}, name ≠ node → before.armed.get? name = none →
        after.armed.get? name = none) :
      Tells before after
        [Stage.cordonStarting.event node "Cordoning node",
          Stage.cordonSucceeded.event node "Cordoned node",
          Stage.drainScheduled.event node message]
        [(.cordoned, .succeeded)]
  | drained {node : String} (success : Success) (message : String)
      (armed : before.armed.get? node ≠ none) (idle : after.armed.get? node = none)
      (unarmed : ∀ {name}, before.armed.get? name = none → after.armed.get? name = none) :
      Tells before after
        [Stage.drainStarting.event node "Draining node",
          (Control.endStage success).event node message]
        [(.drained, success)]

/-- Where nothing is told before and after, and no timer is armed, the same is told in all. -/
theorem Tells.around {first before after last : Schedule T} {events : List NodeEvent}
    {counts : List (Series × Success)} (tells : Tells before after events counts)
    (lead : ∀ {name}, first.armed.get? name = none → before.armed.get? name = none)
    (tail : ∀ {name}, after.armed.get? name = none → last.armed.get? name = none) :
    Tells first last events counts := by
  cases tells with
  | nothing unarmed => exact .nothing fun idle => tail (unarmed (lead idle))
  | refused message idle unarmed =>
    exact .refused message (tail idle) fun idle => tail (unarmed (lead idle))
  | booked message unarmed => exact .booked message fun other idle => tail (unarmed other (lead idle))
  | drained success message armed idle unarmed =>
    exact .drained success message (fun unarmed => armed (lead unarmed)) (tail idle) fun idle =>
      tail (unarmed (lead idle))

variable [TimeScale T] {controller : Controller T} {desk between later : Desk T}
  {path : List (Exchange (Control T))}

/-- A silent path arms no timer. -/
theorem Control.Hushed.unarmed (hushed : Control.Hushed path)
    (served : controller.ServesAll desk path later) {name : String}
    (unarmed : desk.schedule.armed.get? name = none) : later.schedule.armed.get? name = none := by
  have unbooked : Control.bookedNodes path = [] := by
    refine List.filterMap_eq_nil_iff.mpr ?_
    rintro ⟨request, reply⟩ asked
    have silent := hushed _ asked
    cases request with
    | transact transaction =>
      cases transaction with
      | book => cases silent
      | _ => rfl
    | _ => rfl
  refine served.unarmed ?_ unarmed
  rw [unbooked]
  exact List.not_mem_nil

/-- A node that is handled at a consistent desk is told to be cordoned or not, and in the first case
its drain is scheduled: it had no record, so the booking cannot fail. -/
theorem Control.Handled.tells {node : Node} (handled : Control.Handled node path)
    (served : controller.ServesAll desk path later) (consistent : desk.schedule.Consistent) :
    Tells desk.schedule later.schedule (Control.told path) (Control.counted path) := by
  have untracked {failed : Bool} {rest : List (Exchange (Control T))}
      (served : controller.ServesAll desk (Control.looking node failed :: rest) later) :
      desk.schedule.tracked.get? node.name = none := by
    cases served with
    | cons first _ =>
      obtain ⟨now, same⟩ := first.atDesk_eq rfl
      exact consistent.untracked_of_status (congrArg (·.1.1) same)
  cases handled with
  | refused failed refusal message =>
    have unarmed {name : String} (idle : desk.schedule.armed.get? name = none) :
        later.schedule.armed.get? name = none := served.unarmed List.not_mem_nil idle
    refine .refused message (unarmed ?_) unarmed
    cases armed : desk.schedule.armed.get? node.name with
    | none => rfl
    | some timer => cases (untracked served).symm.trans (consistent.armed.mp armed).1
  | unbooked failed failure =>
    obtain ⟨before, cordoned, booking⟩ := served.split
    have free := cordoned.untracked List.not_mem_nil (untracked served)
    cases booking with
    | cons first _ =>
      obtain ⟨now, same⟩ := first.atDesk_eq rfl
      have refused : (before.schedule.book now node).1 = .error failure := congrArg Prod.fst same
      simp [Schedule.book, Table.contains, free] at refused
  | booked failed appointment label message =>
    refine .booked message fun other idle => served.unarmed ?_ idle
    exact fun same => other (List.mem_singleton.mp same)

omit [TimeScale T] in
/-- The timer of a drain that begins was armed for the node, and is not any more. -/
theorem Schedule.Agreed.armed_of_launch {schedule : Schedule T} {roster : Roster} {timer : Nat}
    {found : Timer T} (agreed : schedule.Agreed roster)
    (stands : schedule.timers[timer]? = some found)
    (ready : found.state = .pending ∨ found.state = .cancelled) {now : T}
    (launched : ((schedule.turnTimer timer .fire).launch now found.node.name found.record).1 = true) :
    schedule.armed.get? found.node.name = some timer ∧
      ((schedule.turnTimer timer .fire).launch now found.node.name found.record).2.armed.get?
        found.node.name = none := by
  have current := launch_iff.mp launched
  have unfired : found.state ≠ .fired := by
    intro fired
    rw [fired] at ready
    exact ready.elim TimerState.noConfusion TimerState.noConfusion
  refine ⟨agreed.consistent.armed.mpr ⟨?_, agreed.waits stands unfired⟩, ?_⟩
  · exact (agreed.consistent.own stands).1 ▸ current
  · rw [launch_current current, Table.get?_erase, if_pos rfl]

/-- A timer that goes off tells nothing, or that the drain of its node was begun and how it ended. -/
theorem Control.tells_runDrain {roster : Roster} {timer : Nat} {found : Timer T}
    {result : Except Failure Unit} (agreed : desk.schedule.Agreed roster)
    (stands : desk.schedule.timers[timer]? = some found)
    (ready : found.state = .pending ∨ found.state = .cancelled)
    (reached : (Control.runDrain found.node found.record).Reaches path (.done result))
    (mild : ∀ exchange ∈ path, controller.Mild exchange)
    (served : controller.ServesAll
      { desk with schedule := desk.schedule.turnTimer timer .fire } path later) :
    Tells desk.schedule later.schedule (Control.told path) (Control.counted path) := by
  obtain rfl | ⟨failure, rfl⟩ | ⟨drained, message, reply, rfl⟩ := Control.path_of_done reached
  · exact .nothing fun idle => served.unarmed List.not_mem_nil idle
  · cases (mild _ (.tail _ (.head _))).announced
  · have unarmed {name : String} (idle : desk.schedule.armed.get? name = none) :
        later.schedule.armed.get? name = none := served.unarmed List.not_mem_nil idle
    cases served with
    | cons first rest =>
      obtain ⟨now, same⟩ := first.atDesk_eq rfl
      obtain ⟨armed, idle⟩ := agreed.armed_of_launch stands ready (congrArg Prod.fst same)
      obtain rfl := congrArg Prod.snd same
      exact .drained (Control.verdict (Control.ending drained).2) message
        (armed ▸ Option.some_ne_none timer) (rest.unarmed List.not_mem_nil idle) unarmed

/-- A turn that may be taken in mild circumstances: no drain is scheduled outright, and every exchange
is mild. -/
structure Turn.Regular (controller : Controller T) (turn : Turn T) : Prop where
  indirect : ∀ node, turn.cause ≠ .command (.schedule node)
  mild : ∀ exchange ∈ turn.path, controller.Mild exchange

/-- No drain is scheduled outright, and every exchange seems mild. -/
def Turn.isTame (turn : Turn T) : Bool :=
  turn.path.all Control.isTame && match turn.cause with
    | .command (.schedule _) => false
    | _ => true

/-- What seems regular is regular for a controller that carries cordons out. -/
theorem Turn.regular_of_isTame {executor : Executor T} (live : controller.drainer = .live executor)
    {turn : Turn T} (tame : turn.isTame = true) : turn.Regular controller := by
  obtain ⟨exchanges, direct⟩ := Bool.and_eq_true_iff.mp tame
  refine ⟨fun node same => ?_, fun exchange asked => ?_⟩
  · rw [same] at direct
    cases direct
  · exact Controller.mild_of_isTame live (List.all_eq_true.mp exchanges exchange asked)

/-- What a regular turn tells. -/
theorem Session.tells {buffer : DrainBuffer T} {turns : List (Turn T)} {cause : Cause}
    {result : Except Failure Unit} (session : Session controller { schedule := { buffer } } turns desk)
    (arises : cause.Arises desk between) (reached : cause.program.Reaches path (.done result))
    (served : controller.ServesAll between path later)
    (regular : Turn.Regular controller ⟨cause, path⟩) :
    Tells desk.schedule later.schedule (Control.told path) (Control.counted path) := by
  cases arises with
  | timer desk stands ready =>
    obtain ⟨roster, agreed⟩ := session.agreed
    exact Control.tells_runDrain agreed stands ready reached regular.mild served
  | command given =>
    have handles := Control.Command.handles
      (fun node same => regular.indirect node (congrArg _ same)) reached regular.mild
    obtain hushed | ⟨node, lead, core, tail, rfl, led, handled, ended⟩ := handles
    · rw [hushed.told_eq, hushed.counted_eq]
      exact .nothing (hushed.unarmed served)
    · obtain ⟨before, leading, onward⟩ := served.split
      obtain ⟨after, handling, trailing⟩ := onward.split
      obtain ⟨left, begun, _⟩ := reached.split
      have consistent := session.consistent_within (.command given desk) begun leading
      rw [Control.told_append, Control.told_append, Control.counted_append, Control.counted_append,
        led.told_eq, ended.told_eq, led.counted_eq, ended.counted_eq]
      simpa using (handled.tells handling consistent).around (led.unarmed leading)
        (ended.unarmed trailing)

end Evacuation
