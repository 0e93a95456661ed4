import Evacuation.Proofs.Office.DispatchPaths
import Evacuation.Proofs.Office.Trails
/-!
# Watches

In a watch notifications are dispatched one after another, while timers go off at any time and a stop
may be asked for. Only one clerk at a time can make records then, so a node that was found without a
record stays without one until the drain is booked. The main statement is that every timer goes back
to a notification whose node passed the filters, had no record and was cordoned (`Watch.watched`).
-/
namespace Evacuation

variable {T : Type}

/-- A notification is dispatched. -/
def Cause.isDispatch : Cause → Bool
  | command (.dispatch _) => true
  | _ => false

/-- The notification whose dispatch begins. -/
def Deed.notification? : Deed T → Option Notification
  | .began _ (.command (.dispatch notification)) => some notification
  | _ => none

/-- The notifications whose dispatch has begun, in their order. -/
def Deed.dispatched (deeds : List (Deed T)) : List Notification :=
  deeds.filterMap Deed.notification?

/-- What may come up in a watch: a timer goes off, a stop is asked for, or a notification is
dispatched and no other one is in hand. -/
def Office.Admits (office : Office T) : Cause → Prop
  | .timer _ _ _ | .command .stop => True
  | .command (.dispatch _) =>
    ∀ worker ∈ office.clerks, worker.cause.isDispatch = true → worker.isDone = true
  | .command _ => False

namespace Office

variable [TimeScale T]

/-- The steps of a watch. -/
inductive Watch (controller : Controller T) (start : Office T) : List (Deed T) → Office T → Prop where
  | here : Watch controller start [] start
  | snoc {deeds : List (Deed T)} {deed : Deed T} {office later : Office T}
      (watch : Watch controller start deeds office) (step : Step controller office deed later)
      (admitted : ∀ {clerk cause}, deed = .began clerk cause → office.Admits cause) :
      Watch controller start (deeds ++ [deed]) later

/-- A watch is a run. -/
theorem Watch.run {controller : Controller T} {start office : Office T} {deeds : List (Deed T)}
    (watch : Watch controller start deeds office) : Run controller start deeds office := by
  induction watch with
  | here => exact .here
  | snoc _ step _ ih => exact ih.snoc step

/-- A watch of deeds in two parts passes through an office between them. -/
theorem Watch.split {controller : Controller T} {start office : Office T}
    {first second : List (Deed T)} (watch : Watch controller start (first ++ second) office) :
    ∃ middle, Watch controller start first middle ∧ Run controller middle second office := by
  generalize all : first ++ second = deeds at watch
  induction watch generalizing second with
  | here =>
    obtain ⟨rfl, rfl⟩ := List.append_eq_nil_iff.mp all
    exact ⟨start, .here, .here⟩
  | snoc watch step admitted ih =>
    obtain rfl | ⟨rest, last, rfl⟩ := List.eq_nil_or_concat second
    · rw [List.append_nil] at all
      exact ⟨_, all ▸ watch.snoc step admitted, .here⟩
    · rw [List.concat_eq_append, ← List.append_assoc] at all
      obtain ⟨rfl, same⟩ := List.append_inj' all rfl
      cases same
      obtain ⟨middle, before, after⟩ := ih rfl
      exact ⟨middle, before, List.concat_eq_append ▸ after.snoc step⟩

/-- A watch takes the step of each of its deeds. -/
theorem Watch.step_of_append {controller : Controller T} {start office : Office T}
    {before after : List (Deed T)} {deed : Deed T}
    (watch : Watch controller start (before ++ deed :: after) office) :
    ∃ middle later, Watch controller start before middle ∧ Step controller middle deed later := by
  rw [List.append_cons] at watch
  obtain ⟨later, first, _⟩ := watch.split
  generalize all : before ++ [deed] = deeds at first
  cases first with
  | here => cases List.append_ne_nil_of_right_ne_nil before (List.cons_ne_nil _ _) all
  | snoc earlier step admitted =>
    obtain ⟨rfl, same⟩ := List.append_inj' all rfl
    cases same
    exact ⟨_, later, earlier, step⟩

/-- A clerk booked the drain of the node of a notification: the notification was dispatched, no
filter dropped the node, it had no record, it was cordoned, and then a timer and a record were made
for it at their places. -/
def Booked (controller : Controller T) (start : Office T) (deeds : List (Deed T)) (clerk : Nat)
    (notification : Notification) (timer record : Nat) : Prop :=
  ∃ failed appointment before after office,
    deeds = before ++ .asked clerk (.command (.dispatch notification))
      ⟨.transact (.book notification.node), .ok appointment⟩ :: after ∧
    appointment.timer = timer ∧
    [.began clerk (.command (.dispatch notification)),
      .asked clerk (.command (.dispatch notification)) (Control.screening notification.node),
      .asked clerk (.command (.dispatch notification)) (Control.looking notification.node failed),
      .returned clerk (.command (.dispatch notification))
        (Control.cordoning notification.node)].Sublist before ∧
    Run controller start before office ∧
    office.desk.schedule.timers.length = timer ∧ office.desk.schedule.records.length = record

/-- What was booked stays booked. -/
theorem Booked.append {controller : Controller T} {start : Office T} {deeds : List (Deed T)}
    {clerk timer record : Nat} {notification : Notification}
    (booked : Booked controller start deeds clerk notification timer record) (more : List (Deed T)) :
    Booked controller start (deeds ++ more) clerk notification timer record := by
  obtain ⟨failed, appointment, before, after, office, rfl, rest⟩ := booked
  exact ⟨failed, appointment, before, after ++ more, office, by simp, rest⟩

/-- What was booked was booked in a dispatch. -/
theorem Booked.began {controller : Controller T} {start : Office T} {deeds : List (Deed T)}
    {clerk timer record : Nat} {notification : Notification}
    (booked : Booked controller start deeds clerk notification timer record) :
    .began clerk (.command (.dispatch notification)) ∈ deeds := by
  obtain ⟨_, _, before, after, _, rfl, _, part, _⟩ := booked
  exact List.mem_append_left _ (part.mem List.mem_cons_self)

end Office

namespace Controller

variable [TimeScale T] {controller : Controller T} {now : T} {desk : Desk T}
  {request : Control.Request T}

/-- A timer on the desk was there before a request that books nothing. -/
theorem timer_of_atDesk {timer : Nat} {later : Timer T} (here : request.isErrand = false)
    (unbooked : ∀ node, request ≠ .transact (.book node))
    (stands : (controller.atDesk now request desk).2.schedule.timers[timer]? = some later) :
    ∃ found, desk.schedule.timers[timer]? = some found ∧ found.node = later.node ∧
        found.record = later.record := by
  have of_turn {turned : Nat} {turn : TimerState → TimerState}
      (stood : (desk.schedule.turnTimer turned turn).timers[timer]? = some later) :
      ∃ found, desk.schedule.timers[timer]? = some found ∧ found.node = later.node ∧
        found.record = later.record := by
    rw [Schedule.timers_turnTimer] at stood
    obtain ⟨found, there, rfl⟩ := Option.map_eq_some_iff.mp stood
    exact ⟨found, there, rfl, rfl⟩
  cases request with
  | transact transaction =>
    have stood : (desk.schedule.transact now transaction).2.timers[timer]? = some later := stands
    rw [Schedule.timers_transact now fun node same => unbooked node (congrArg _ same)] at stood
    exact ⟨later, stood, rfl, rfl⟩
  | start | cancel => exact of_turn stands
  | fire other =>
    cases there : desk.schedule.timers[other]? with
    | none =>
      simp only [atDesk, answer, id, there] at stands
      exact ⟨later, stands, rfl, rfl⟩
    | some found =>
      rw [atDesk_fire controller now desk there] at stands
      exact of_turn stands
  | announce | cordon | drain => cases here
  | arm | count | screen | release | complain => exact ⟨later, stands, rfl, rfl⟩

/-- A timer on the desk was there before a booking, or was made by it. -/
theorem timer_of_book {node : Node} {timer : Nat} {later : Timer T}
    (stands : (desk.schedule.book now node).2.timers[timer]? = some later) :
    desk.schedule.timers[timer]? = some later ∨
      later.node = node ∧ desk.schedule.timers.length = timer ∧
        desk.schedule.records.length = later.record ∧ ∃ appointment,
          (desk.schedule.book now node).1 = .ok appointment ∧ appointment.timer = timer := by
  generalize booking : desk.schedule.book now node = outcome at stands
  obtain ⟨_ | appointment, made⟩ := outcome
  · rw [Schedule.book_eq_error booking] at stands
    exact .inl stands
  · obtain ⟨_, place, start, interval, buffer, rfl⟩ := Schedule.book_eq_ok booking
    rw [List.getElem?_append, List.getElem?_singleton] at stands
    split at stands
    · exact .inl stands
    · split at stands <;> cases stands
      have last : desk.schedule.timers.length = timer := by omega
      exact .inr ⟨rfl, last, rfl, appointment, rfl, place.trans last⟩

end Controller

/-- A cause that comes up in a watch. -/
inductive Cause.IsWatched : Cause → Prop where
  | timer (place : Nat) (node : Node) (record : Nat) : IsWatched (timer place node record)
  | stop : IsWatched (command .stop)
  | dispatch (notification : Notification) : IsWatched (command (.dispatch notification))

/-- Only causes of a watch are admitted. -/
theorem Office.Admits.isWatched {office : Office T} {cause : Cause}
    (admitted : office.Admits cause) : cause.IsWatched := by
  cases cause with
  | timer timer node record => exact .timer timer node record
  | command command =>
    cases command with
    | stop => exact .stop
    | dispatch notification => exact .dispatch notification
    | handle | schedule | delete | clear => exact admitted.elim

/-- When a notification is dispatched no other one is in hand. -/
theorem Office.Admits.idle {office : Office T} {cause : Cause} {worker : Clerk T}
    (admitted : office.Admits cause) (dispatch : cause.isDispatch = true)
    (there : worker ∈ office.clerks) (other : worker.cause.isDispatch = true) :
    worker.isDone = true := by
  cases admitted.isWatched with
  | timer | stop => cases dispatch
  | dispatch notification => exact admitted worker there other

/-- In a watch more than plain requests are asked for only by timers, to drain their node, and by
dispatches. -/
theorem Cause.IsWatched.asks [TimeScale T] {cause : Cause} (watched : cause.IsWatched)
    {path : List (Exchange (Control T))} {request : Control.Request T}
    {next : (Control T).Reply request → Controlling T (Except Failure Unit)}
    (reached : Program.Reaches (cause.program (T := T)) path (.ask request next))
    (grave : request.isPlain = false) :
    (∃ timer node record, cause = .timer timer node record ∧ request = .drain node) ∨
      ∃ notification, cause = .command (.dispatch notification) ∧
        notification.isDeparture = false ∧ ∃ tail,
          path = Control.screening notification.node :: tail ∧
            Control.HandlingAsks notification.node tail request := by
  cases watched with
  | timer timer node record =>
    obtain same | plain := Control.asks_runDrain reached
    · exact .inl ⟨timer, node, record, rfl, same⟩
    · cases grave.symm.trans plain
  | stop =>
    have plain : Control.Plain (Control.Command.stop.program (T := T)) :=
      Control.silent_stop.plain.bind fun _ => trivial
    cases grave.symm.trans (Control.isPlain_of_reaches plain reached)
  | dispatch notification =>
    cases Control.asks_dispatch reached with
    | handling stays asks => exact .inr ⟨notification, rfl, stays, _, rfl, asks⟩
    | plain plain => cases grave.symm.trans plain

namespace Office

variable [TimeScale T] {controller : Controller T} {start office later : Office T}
  {deeds : List (Deed T)} {deed : Deed T}

/-- A clerk of the office after a step was there before and had no less to do, or has just begun. -/
theorem Step.worker {place : Nat} {worker : Clerk T} (step : Step controller office deed later)
    (found : later.clerks[place]? = some worker) :
    (∃ before, office.clerks[place]? = some before ∧ before.cause = worker.cause ∧
      (worker.isDone = false → before.isDone = false)) ∨
        office.clerks[place]? = none ∧ deed = .began place worker.cause := by
  by_cases own : place = deed.clerk
  · subst own
    cases there : office.clerks[deed.clerk]? with
    | none =>
      obtain ⟨stands, begins⟩ := step.clerk_new there
      rw [stands] at found
      cases found
      exact .inr ⟨rfl, begins⟩
    | some before =>
      obtain ⟨after, stands, cause, same, onward, _⟩ := step.clerk there
      rw [stands] at found
      cases found
      refine .inl ⟨before, rfl, cause.trans same.symm, fun busy => ?_⟩
      rw [Clerk.isDone] at busy ⊢
      split
      · rename_i value ended
        rw [ended] at onward
        rw [(Program.reaches_done_iff.mp onward).2] at busy
        cases busy
      · rfl
  · exact .inl ⟨worker, (step.clerk_ne own).symm.trans found, rfl, id⟩

/-- What is known of a watch from the deeds that led to it. -/
structure Watched (controller : Controller T) (start : Office T) (deeds : List (Deed T))
    (office : Office T) : Prop where
  causes {place : Nat} {worker : Clerk T} : office.clerks[place]? = some worker →
    worker.cause.IsWatched
  /-- One notification at a time is in hand. -/
  alone {first second : Nat} {one two : Clerk T} : office.clerks[first]? = some one →
    office.clerks[second]? = some two → one.cause.isDispatch = true → two.cause.isDispatch = true →
    one.isDone = false → two.isDone = false → first = second
  /-- A node that was found without a record has none until its drain is booked. -/
  untracked {place : Nat} {worker : Clerk T} {notification : Notification} {failed : Bool} :
    office.clerks[place]? = some worker → worker.cause = .command (.dispatch notification) →
    worker.isDone = false → Control.looking notification.node failed ∈ Deed.log deeds place →
    (∀ reply, ⟨.transact (.book notification.node), reply⟩ ∉ Deed.log deeds place) →
    office.desk.schedule.tracked.get? notification.node.name = none
  /-- Every timer was booked. -/
  booked {timer : Nat} {found : Timer T} : office.desk.schedule.timers[timer]? = some found →
    ∃ clerk notification, notification.node = found.node ∧
      Booked controller start deeds clerk notification timer found.record

namespace Watched

variable {buffer : DrainBuffer T}

/-- In a watch a drain is booked by the dispatch of a notification, after what must come before. -/
theorem book (watched : Watched controller (opened buffer) deeds office)
    (run : Run controller (opened buffer) deeds office) {clerk : Nat} {cause : Cause} {node : Node}
    {next : Except Failure (Appointment T) → Controlling T (Except Failure Unit)}
    (found : office.clerks[clerk]? = some ⟨cause, .ask (.transact (.book node)) next, false⟩) :
    ∃ notification failed, cause = .command (.dispatch notification) ∧ notification.node = node ∧
      [.began clerk cause, .asked clerk cause (Control.screening node),
        .asked clerk cause (Control.looking node failed),
        .returned clerk cause (Control.cordoning node)].Sublist deeds := by
  obtain ⟨timer, target, record, _, same⟩ | ⟨notification, rfl, _, path, log, asks⟩ :=
    (watched.causes found).asks (run.logged.reaches found) rfl
  · cases same
  cases asks with
  | plain plain => cases plain
  | book failed =>
  obtain ⟨done, part, each⟩ := run.trail found
  rw [log] at each
  obtain _ | ⟨screened, each⟩ := each
  obtain _ | ⟨looked, each⟩ := each
  obtain _ | ⟨_, each⟩ := each
  obtain _ | ⟨cordoned, each⟩ := each
  obtain rfl := screened.asked rfl
  obtain rfl := looked.asked rfl
  obtain ⟨_, rfl, rfl⟩ := cordoned.returned rfl
  refine ⟨notification, failed, rfl, rfl, List.Sublist.trans ?_ part⟩
  refine .cons_cons _ (.cons_cons _ (.cons_cons _ (.cons _ (.cons_cons _ ?_))))
  exact List.nil_sublist _

/-- One notification at a time stays in hand. -/
theorem alone_step (watched : Watched controller start deeds office)
    (step : Step controller office deed later)
    (admitted : ∀ {clerk cause}, deed = .began clerk cause → office.Admits cause)
    {first second : Nat} {one two : Clerk T} (here : later.clerks[first]? = some one)
    (there : later.clerks[second]? = some two) (dispatch : one.cause.isDispatch = true)
    (other : two.cause.isDispatch = true) (busy : one.isDone = false) (occupied : two.isDone = false) :
    first = second := by
  obtain ⟨before, stood, same, had⟩ | ⟨_, begins⟩ := step.worker here
  · rw [← same] at dispatch
    obtain ⟨also, found, cause, left⟩ | ⟨_, begins⟩ := step.worker there
    · rw [← cause] at other
      exact watched.alone stood found dispatch other (had busy) (left occupied)
    · have idle := (admitted begins).idle other (List.mem_of_getElem? stood) dispatch
      cases (had busy).symm.trans idle
  · obtain ⟨also, found, cause, left⟩ | ⟨_, also⟩ := step.worker there
    · rw [← cause] at other
      have idle := (admitted begins).idle dispatch (List.mem_of_getElem? found) other
      cases (left occupied).symm.trans idle
    · rw [begins] at also
      exact (Deed.began.inj also).1

/-- A node that was found without a record stays without one until its drain is booked. -/
theorem untracked_step (watched : Watched controller (opened buffer) deeds office)
    (run : Run controller (opened buffer) deeds office) (step : Step controller office deed later)
    {place : Nat} {worker : Clerk T} {notification : Notification} {failed : Bool}
    (found : later.clerks[place]? = some worker)
    (cause : worker.cause = .command (.dispatch notification)) (busy : worker.isDone = false)
    (looked : Control.looking notification.node failed ∈ Deed.log (deeds ++ [deed]) place)
    (unbooked : ∀ reply, ⟨.transact (.book notification.node), reply⟩ ∉
      Deed.log (deeds ++ [deed]) place) :
    later.desk.schedule.tracked.get? notification.node.name = none := by
  obtain ⟨done, listed, own, moves⟩ := Deed.mem_log.mp looked
  obtain listed | rfl := (List.mem_append.mp listed).imp_right List.mem_singleton.mp
  · obtain ⟨before, stood, same, had⟩ | ⟨new, _⟩ := step.worker found
    · have untracked := watched.untracked stood (same.trans cause) (had busy)
        (Deed.mem_log.mpr ⟨done, listed, own, moves⟩) fun reply booked => by
          rw [Deed.log_append] at unbooked
          exact unbooked reply (List.mem_append_left _ booked)
      cases step with
      | command | send | back => exact untracked
      | fire stands ready now => exact Controller.untracked_atDesk _ _ _ rfl (fun _ => nofun) untracked
      | @ask clerk origin request next stands here now =>
        refine Controller.untracked_atDesk _ _ _ here (fun node booking => ?_) untracked
        subst booking
        exfalso
        -- Only one notification is in hand, so the clerk who books is the one who looked.
        obtain ⟨other, _, rfl, rfl, _⟩ := watched.book run stands
        have dispatch : before.cause.isDispatch = true := by
          rw [same, cause]
          rfl
        obtain rfl := watched.alone stands stood rfl dispatch rfl (had busy)
        rw [stands] at stood
        cases stood
        cases same.trans cause
        refine unbooked (controller.atDesk now _ office.desk).1 (Deed.mem_log.mpr ?_)
        exact ⟨_, List.mem_append_right deeds (.head []), rfl, rfl⟩
    · obtain ⟨_, there, _⟩ := run.logged.known listed
      rw [own, new] at there
      cases there
  · have answered := ((run.snoc step).answers (List.mem_append_right deeds (.head [])) moves).asked rfl
    rw [answered] at step
    obtain ⟨now, next, _, replied⟩ := step.of_asked
    obtain ⟨_, sound⟩ := run.sound
    have status : office.desk.schedule.status notification.node.name = (false, failed) :=
      congrArg Prod.fst replied
    have same : office.desk = later.desk := congrArg Prod.snd replied
    rw [← same]
    exact sound.agreed.consistent.untracked_of_status (congrArg Prod.fst status)

/-- A timer that was just made was booked by the dispatch of a notification. -/
theorem booked_step (watched : Watched controller (opened buffer) deeds office)
    (run : Run controller (opened buffer) deeds office) (step : Step controller office deed later)
    {timer : Nat} {found : Timer T} (stands : later.desk.schedule.timers[timer]? = some found) :
    ∃ clerk notification, notification.node = found.node ∧
      Booked controller (opened buffer) (deeds ++ [deed]) clerk notification timer found.record := by
  have earlier {old : Timer T} (stood : office.desk.schedule.timers[timer]? = some old)
      (same : old.node = found.node) (made : old.record = found.record) :
      ∃ clerk notification, notification.node = found.node ∧
        Booked controller (opened buffer) (deeds ++ [deed]) clerk notification timer found.record := by
    obtain ⟨clerk, notification, node, booked⟩ := watched.booked stood
    exact ⟨clerk, notification, node.trans same, made ▸ booked.append [deed]⟩
  cases step with
  | command | send | back => exact earlier stands rfl rfl
  | fire ready state now =>
    obtain ⟨old, stood, same, made⟩ := Controller.timer_of_atDesk rfl (fun _ => by nofun) stands
    exact earlier stood same made
  | @ask clerk cause request next asks here now =>
    by_cases booking : ∃ node, request = .transact (.book node)
    · obtain ⟨node, rfl⟩ := booking
      obtain stood | ⟨rfl, last, made, appointment, booked, own⟩ := Controller.timer_of_book stands
      · exact earlier stood rfl rfl
      · obtain ⟨notification, failed, rfl, node, part⟩ := watched.book run asks
        have same : (⟨.transact (.book found.node),
            (controller.atDesk now (.transact (.book found.node)) office.desk).1⟩ :
              Exchange (Control T)) = ⟨.transact (.book notification.node), .ok appointment⟩ := by
          rw [← node] at booked ⊢
          exact congrArg (Exchange.mk _) booked
        rw [← node] at part
        rw [same]
        exact ⟨clerk, notification, node, failed, appointment, deeds, [], office, rfl, own, part, run,
          last, made⟩
    · obtain ⟨old, stood, same, made⟩ :=
        Controller.timer_of_atDesk here (not_exists.mp booking) stands
      exact earlier stood same made

/-- Every step of a watch keeps what is known of it. -/
theorem step (watched : Watched controller (opened buffer) deeds office)
    (run : Run controller (opened buffer) deeds office) (step : Step controller office deed later)
    (admitted : ∀ {clerk cause}, deed = .began clerk cause → office.Admits cause) :
    Watched controller (opened buffer) (deeds ++ [deed]) later where
  causes found := by
    obtain ⟨before, stood, same, _⟩ | ⟨_, begins⟩ := step.worker found
    · exact same ▸ watched.causes stood
    · exact (admitted begins).isWatched
  alone := watched.alone_step step admitted
  untracked := watched.untracked_step run step
  booked := watched.booked_step run step

end Watched

/-- A watch of a fresh desk. -/
theorem Watch.watched {buffer : DrainBuffer T} (watch : Watch controller (opened buffer) deeds office) :
    Watched controller (opened buffer) deeds office := by
  induction watch with
  | here => constructor <;> simp [opened]
  | snoc watch step admitted ih => exact ih.step watch.run step admitted

/-- In a watch, who asks for more than plain requests for a notification was told before that no filter
drops its node. -/
theorem Run.screened {buffer : DrainBuffer T} {clerk : Nat} {worker : Clerk T}
    {notification : Notification} {request : Control.Request T}
    {next : (Control T).Reply request → Controlling T (Except Failure Unit)}
    (run : Run controller (opened buffer) deeds office) (found : office.clerks[clerk]? = some worker)
    (cause : worker.cause = .command (.dispatch notification))
    (asks : worker.program = .ask request next) (grave : request.isPlain = false) :
    notification.isDeparture = false ∧ ∃ processed,
      (controller.chain.firstRejecting notification.node processed).1 = none := by
  have reached := run.logged.reaches found
  rw [cause, asks] at reached
  generalize log : Deed.log deeds clerk = path at reached
  cases Control.asks_dispatch reached with
  | plain plain => cases grave.symm.trans plain
  | handling stays =>
    have logged : Control.screening notification.node ∈ Deed.log deeds clerk := by
      rw [log]
      exact List.mem_cons_self
    obtain ⟨_, _, start, now, _, _, kept⟩ := run.of_mem_log found rfl logged
    exact ⟨stays, start.desk.processed, kept⟩

/-- Who booked a drain was never told that a cordon failed. -/
theorem Booked.cordoned {buffer : DrainBuffer T} {clerk timer record : Nat}
    {notification : Notification} {target : Node} {outcome : Except Failure Unit}
    (booked : Booked controller (opened buffer) deeds clerk notification timer record)
    (run : Run controller (opened buffer) deeds office)
    (back : .returned clerk (.command (.dispatch notification)) ⟨.cordon target, outcome⟩ ∈ deeds) :
    outcome = .ok () := by
  obtain ⟨failed, appointment, before, after, _, rfl, _⟩ := booked
  -- The reply to the cordon is the fourth one, both for who comes to ask for it and for who books.
  have cordoned : (Deed.log (before ++ .asked clerk (.command (.dispatch notification))
      ⟨.transact (.book notification.node), .ok appointment⟩ :: after) clerk)[3]? =
        some (Control.cordoning notification.node) := by
    obtain ⟨start, later, earlier, step, _⟩ := run.step_of_append
    obtain ⟨_, _, found, _⟩ := step.of_asked
    have reached := earlier.logged.reaches found
    rw [Deed.log_append]
    generalize Deed.log before clerk = path at reached ⊢
    cases Control.asks_dispatch reached with
    | plain plain => cases plain
    | handling _ asks =>
      cases asks with
      | plain plain => cases plain
      | book => rfl
  obtain ⟨first, second, same⟩ := List.append_of_mem back
  rw [same] at run cordoned
  obtain ⟨start, later, earlier, step, _⟩ := run.step_of_append
  cases step with
  | back found outcome =>
  have reached := earlier.logged.reaches found
  have entry : Deed.log (.returned clerk (.command (.dispatch notification))
      ⟨.cordon target, outcome⟩ :: second) clerk =
        ⟨.cordon target, outcome⟩ :: Deed.log second clerk := Deed.log_cons rfl rfl second
  rw [Deed.log_append, entry] at cordoned
  generalize Deed.log first clerk = path at reached cordoned
  cases Control.asks_dispatch reached with
  | plain plain => cases plain
  | handling _ asks =>
    cases asks with
    | plain plain => cases plain
    | cordon failed =>
      have same : (⟨.cordon notification.node, outcome⟩ : Exchange (Control T)) =
          Control.cordoning notification.node := Option.some.inj cordoned
      cases same
      rfl

end Office

end Evacuation
