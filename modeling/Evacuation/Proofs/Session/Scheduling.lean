import Evacuation.Proofs.Office.Endings
import Evacuation.Proofs.Office.Spacing
import Evacuation.Proofs.Session.Play
import Evacuation.Proofs.Session.Turns
import Evacuation.Proofs.Time.Calendar
/-!
# What scheduling a drain comes to

A drain that is scheduled outright is turned down if its node has a record, and then nothing has
happened. Otherwise it is booked and its timer is started, and only after that its start is shown and
announced. Either of these may fail, and neither takes the booking back. So a failure tells that
nothing has happened exactly if it is the one for a node with a record (`Control.schedule_ends`). The
start can be shown as long as the spacing of the buffer stays within the years of the calendar
(`DrainBuffer.dated_iff`).
-/
namespace Evacuation

variable {T : Type}

namespace Control

/-- The timer that is started by a request. -/
def Request.started? : Request T → Option Nat
  | .start timer _ => some timer
  | _ => none

/-- The timers that are started along a path. -/
def startedTimers (path : List (Exchange (Control T))) : List Nat :=
  path.filterMap fun exchange => Request.started? exchange.request

/-- The event that announces the start of a drain, as it is shown. -/
def startEvent (node : Node) (text : String) : NodeEvent :=
  Stage.drainScheduled.event node.name s!"Will drain node after {text}"

end Control

namespace DrainBuffer

/-- With a clock in the years that are shown, the next start can be shown exactly if the spacing after
the last one does not reach past their end. -/
theorem dated_iff (buffer : DrainBuffer Rat) {now : Rat} (clock : WithinYears now) :
    (∃ text, showInstant (buffer.nextStart now) = .ok text) ↔
      ∀ last, buffer.lastReserved = some last → last + buffer.spacing < endOfYears := by
  have ahead := buffer.le_nextStart now
  rw [showInstant_isOk_iff]
  cases reserved : buffer.lastReserved with
  | none =>
    have start : buffer.nextStart now = now := by simp only [nextStart, reserved]
    rw [start]
    have free : ∀ last, none = some last → last + buffer.spacing < endOfYears := by
      intro last missing
      cases missing
    exact iff_of_true clock free
  | some last =>
    have start : buffer.nextStart now = max now (last + buffer.spacing) := by
      simp only [nextStart, reserved, TimeScale.later_eq_max]
    rw [start] at ahead ⊢
    rw [WithinYears, max_lt_iff]
    constructor
    · rintro ⟨_, _, spaced⟩ _ ⟨⟩
      exact spaced
    · intro spaced
      exact ⟨clock.1.trans ahead, clock.2, spaced last rfl⟩

end DrainBuffer

variable [TimeScale T]

namespace Schedule

/-- The drain of a node without a record is booked at a time: its start is reserved, its record and
its timer are made, and the timer runs. -/
structure Engages (before : Schedule T) (now : T) (node : Node) (after : Schedule T) : Prop where
  untracked : before.tracked.get? node.name = none
  reserved : after.buffer = (before.buffer.reserve now).2
  records : after.records =
    before.records ++ [(DrainRecord.fresh node.name).schedule (before.buffer.nextStart now)]
  timers : after.timers = before.timers ++
    [{ node, record := before.records.length
       interval := TimeScale.later (before.buffer.nextStart now - now) TimeScale.zero
       due := now + TimeScale.later (before.buffer.nextStart now - now) TimeScale.zero
       state := .pending }]
  tracked : after.tracked = before.tracked.insert node.name before.records.length
  armed : after.armed = before.armed.insert node.name before.timers.length

/-- The last member of a list is changed in its place. -/
theorem modify_concat {α : Type} (list : List α) (last : α) (update : α → α) :
    (list ++ [last]).modify list.length update = list ++ [update last] := by
  induction list with
  | nil => rfl
  | cons first rest ih => simpa using ih

/-- A drain is engaged by its booking and the start of its timer. -/
theorem engages_of_book {before booked : Schedule T} {now : T} {node : Node}
    {appointment : Appointment T} (booking : before.book now node = (.ok appointment, booked)) :
    before.Engages now node (booked.turnTimer appointment.timer .start) ∧
      appointment.timer = before.timers.length ∧
        appointment.start = before.buffer.nextStart now := by
  obtain ⟨untracked, place, _⟩ := book_eq_ok booking
  unfold book at booking
  split at booking
  · cases booking
  · cases booking
    exact ⟨⟨untracked, rfl, rfl, modify_concat before.timers _ _, rfl, rfl⟩, rfl, rfl⟩

/-- Only the booking for a node with a record is refused, and it changes nothing. -/
theorem tracked_of_refused {schedule later : Schedule T} {now : T} {node : Node} {failure : Failure}
    (refused : schedule.book now node = (.error failure, later)) :
    schedule.tracked.get? node.name ≠ none ∧ failure = .alreadyScheduled node.name ∧
      later = schedule := by
  unfold book at refused
  split at refused
  · rename_i known
    cases refused
    obtain ⟨place, tracked⟩ := Table.contains_iff.mp known
    exact ⟨tracked ▸ Option.some_ne_none place, rfl, rfl⟩
  · cases refused

end Schedule

/-! ## What the desk serves -/

namespace Controller

variable {controller : Controller T} {desk later : Desk T} {node : Node}

/-- The first exchange of a path is served, and then the rest. -/
theorem ServesAll.of_cons {exchange : Exchange (Control T)} {path : List (Exchange (Control T))}
    (served : controller.ServesAll desk (exchange :: path) later) :
    ∃ between, controller.Serves desk exchange between ∧ controller.ServesAll between path later := by
  cases served with
  | cons first rest => exact ⟨_, first, rest⟩

/-- A booking is made in the schedule at some time. -/
theorem Serves.book {reply : Except Failure (Appointment T)}
    (served : controller.Serves desk ⟨.transact (.book node), reply⟩ later) :
    ∃ now booked, desk.schedule.book now node = (reply, booked) ∧
      later = { desk with schedule := booked } := by
  obtain ⟨now, answered⟩ := served.atDesk_eq rfl
  have replied : (desk.schedule.book now node).1 = reply := congrArg Prod.fst answered
  have left : { desk with schedule := (desk.schedule.book now node).2 } = later :=
    congrArg Prod.snd answered
  exact ⟨now, (desk.schedule.book now node).2, Prod.ext replied rfl, left.symm⟩

/-- A drain is engaged at the desk by its booking and the start of its timer. -/
theorem ServesAll.engaging {appointment : Appointment T}
    (served : controller.ServesAll desk (Control.engaging node appointment) later) :
    ∃ now booked, desk.schedule.book now node = (.ok appointment, booked) ∧
      later = { desk with schedule := booked.turnTimer appointment.timer .start } := by
  obtain ⟨_, booking, rest⟩ := served.of_cons
  obtain ⟨now, booked, made, rfl⟩ := booking.book
  obtain ⟨_, arming, rest⟩ := rest.of_cons
  obtain ⟨_, armed⟩ := arming.atDesk_eq rfl
  obtain ⟨_, starting, rest⟩ := rest.of_cons
  obtain ⟨_, started⟩ := starting.atDesk_eq rfl
  cases armed
  cases started
  cases rest
  exact ⟨now, booked, made, rfl⟩

/-- The answer to an announcement lets a refusal go, and the desk is left as it is. -/
theorem ServesAll.announcement {stage : Stage} {name message : String} {reply : Except Failure Unit}
    (served : controller.ServesAll desk [⟨.announce stage name message, reply⟩] later) :
    later = desk ∧ ∃ outcome, reply = Work.letGo outcome := by
  obtain ⟨_, announcing, rest⟩ := served.of_cons
  cases rest
  cases announcing with
  | atDesk here now => cases here
  | errand errand outcome => exact ⟨rfl, outcome, rfl⟩

end Controller

namespace Control

variable {controller : Controller T} {desk later : Desk T} {node : Node}
  {path : List (Exchange (Control T))} {result : Except Failure T}

/-- The drain of a node is engaged along a path, at a time: it is booked, its timer is the only one
that is started, and what else is on the desk is left as it is. -/
structure Engaged (desk : Desk T) (now : T) (node : Node) (path : List (Exchange (Control T)))
    (later : Desk T) : Prop where
  engages : desk.schedule.Engages now node later.schedule
  started : startedTimers path = [desk.schedule.timers.length]
  kept : later = { desk with schedule := later.schedule }

/-- A drain that is engaged has one timer more. -/
theorem Engaged.desk_ne {now : T} (engaged : Engaged desk now node path later) : later ≠ desk := by
  intro same
  have timers := congrArg List.length engaged.engages.timers
  rw [same, List.length_append, List.length_singleton] at timers
  omega

/-- An announcement starts no timer. -/
theorem Engaged.announced {now : T} (engaged : Engaged desk now node path later) (stage : Stage)
    (name message : String) (reply : Except Failure Unit) :
    Engaged desk now node (path ++ [⟨.announce stage name message, reply⟩]) later := by
  have started : startedTimers (path ++ [⟨.announce stage name message, reply⟩]) =
      startedTimers path ++ [] := List.filterMap_append
  refine ⟨engaged.engages, ?_, engaged.kept⟩
  rw [started, List.append_nil, engaged.started]

/-- A drain whose booking and whose timer are served is engaged at the start that was given out. -/
theorem engaged_of_served {appointment : Appointment T}
    (served : controller.ServesAll desk (engaging node appointment) later) :
    ∃ now, Engaged desk now node (engaging node appointment) later ∧
      appointment.start = desk.schedule.buffer.nextStart now := by
  obtain ⟨now, booked, booking, rfl⟩ := served.engaging
  obtain ⟨engages, place, start⟩ := Schedule.engages_of_book booking
  have started : startedTimers (engaging node appointment) = [appointment.timer] := rfl
  exact ⟨now, ⟨engages, place ▸ started, rfl⟩, start⟩

/-- How the scheduling of a drain ends. If it fails, then the node had a record and nothing has
happened, or the drain is engaged all the same: its start could not be shown, or its announcement
failed otherwise than by a refusal. If it succeeds, the drain is engaged and its start announced. So
the desk is left as it was exactly for a node with a record. On the exact scale, with a clock in the
years that are shown, a start can be shown exactly if the spacing after the last one does not reach past
their end. -/
theorem schedule_ends (reached : (schedule node).Reaches path (.done result))
    (served : controller.ServesAll desk path later) :
    (∀ failure, result = .error failure →
      (desk.schedule.tracked.get? node.name ≠ none ∧ failure = .alreadyScheduled node.name ∧
        later = desk ∧ startedTimers path = [] ∧ told path = []) ∨
      ∃ now, Engaged desk now node path later ∧
        ((∃ error, showInstant (desk.schedule.buffer.nextStart now) = .error error ∧
            failure = .time error ∧ told path = []) ∨
          ∃ text, showInstant (desk.schedule.buffer.nextStart now) = .ok text ∧
            told path = [startEvent node text] ∧ ∀ refusal, failure ≠ .refused refusal)) ∧
    (∀ start, result = .ok start → ∃ now text, Engaged desk now node path later ∧
      start = desk.schedule.buffer.nextStart now ∧ showInstant start = .ok text ∧
        told path = [startEvent node text]) ∧
    (later = desk ↔ desk.schedule.tracked.get? node.name ≠ none) ∧
    (∀ (buffer : DrainBuffer Rat) (now : Rat), WithinYears now →
      ((∃ text, showInstant (buffer.nextStart now) = .ok text) ↔
        ∀ last, buffer.lastReserved = some last → last + buffer.spacing < endOfYears)) := by
  have dated (buffer : DrainBuffer Rat) (now : Rat) (clock : WithinYears now) :=
    buffer.dated_iff clock
  cases reaches_schedule reached with
  | refused failure =>
    obtain ⟨_, refusing, rest⟩ := served.of_cons
    cases rest
    obtain ⟨now, booked, refused, rfl⟩ := refusing.book
    obtain ⟨tracked, rfl, rfl⟩ := Schedule.tracked_of_refused refused
    refine ⟨fun failure same => ?_, nofun, iff_of_true rfl tracked, dated⟩
    cases same
    exact .inl ⟨tracked, rfl, rfl, rfl, rfl⟩
  | @undated appointment error undated =>
    obtain ⟨now, engaged, start⟩ := engaged_of_served served
    have changed := iff_of_false engaged.desk_ne (not_not.mpr engaged.engages.untracked)
    refine ⟨fun failure same => ?_, nofun, changed, dated⟩
    cases same
    exact .inr ⟨now, engaged, .inl ⟨error, start ▸ undated, rfl, rfl⟩⟩
  | @announced appointment text shown reply =>
    obtain ⟨between, engaging, announcing⟩ := served.split
    obtain ⟨rfl, outcome, let_go⟩ := announcing.announcement
    obtain ⟨now, engaged, start⟩ := engaged_of_served engaging
    have changed := iff_of_false engaged.desk_ne (not_not.mpr engaged.engages.untracked)
    have engaged := engaged.announced .drainScheduled node.name s!"Will drain node after {text}" reply
    cases reply with
    | error failure =>
      have unrefused := (Work.of_letGo let_go.symm).2
      refine ⟨fun failure same => ?_, nofun, changed, dated⟩
      cases same
      exact .inr ⟨now, engaged, .inr ⟨text, start ▸ shown, rfl, unrefused⟩⟩
    | ok value =>
      refine ⟨nofun, fun start same => ?_, changed, dated⟩
      cases same
      exact ⟨now, text, engaged, start, shown, rfl⟩

/-- The scheduling of the drain of a node a million seconds after the start of 1970, where the
cluster is not touched: its exchanges, its result and the desk afterwards. -/
def scheduledDry (name : String) (desk : Desk Rat) :
    List (Exchange (Control Rat)) × Except Failure Rat × Desk Rat :=
  Controller.work { drainer := .dryRun, chain := [] } 1000000 (schedule { name }) [] desk

/-- The desk with one drain scheduled, where the spacing is more than thirty thousand years. -/
def farDesk : Desk Rat :=
  (scheduledDry "n1" { schedule := { buffer := { spacing := 1000000000000 } } }).2.2

/-- The start of the next drain cannot be shown, since the spacing reaches past the years that are
shown. That is a failure, and yet the drain is engaged. -/
theorem schedule_ends_farDesk :
    (scheduledDry "n2" farDesk).2.1 = .error (.time (.yearOutOfRange 33658)) ∧
      (∃ now, Engaged farDesk now { name := "n2" } (scheduledDry "n2" farDesk).1
        (scheduledDry "n2" farDesk).2.2) ∧
      (scheduledDry "n2" farDesk).2.2 ≠ farDesk ∧ told (scheduledDry "n2" farDesk).1 = [] ∧
      ¬ ∃ text, showInstant (farDesk.schedule.buffer.nextStart 1000000) = .ok text := by
  have ends := schedule_ends
    (Controller.reaches_work { drainer := .dryRun, chain := [] } 1000000 (schedule { name := "n2" })
      [] farDesk)
    (Controller.servesAll_work { drainer := .dryRun, chain := [] } 1000000
      (schedule { name := "n2" }) [] farDesk)
  have failed : (scheduledDry "n2" farDesk).2.1 = .error (.time (.yearOutOfRange 33658)) := by
    decide +kernel
  have untracked : farDesk.schedule.tracked.get? "n2" = none := by decide +kernel
  have untold : told (scheduledDry "n2" farDesk).1 = [] := by decide +kernel
  have clock : WithinYears 1000000 := by decide +kernel
  have reserved : farDesk.schedule.buffer.lastReserved = some 1000000 := by decide +kernel
  have far : ¬ 1000000 + farDesk.schedule.buffer.spacing < endOfYears := by decide +kernel
  obtain ⟨fails, _, spared, dated⟩ := ends
  refine ⟨failed, ?_, fun same => spared.mp same untracked, untold, fun shown => ?_⟩
  · obtain ⟨tracked, _⟩ | ⟨now, engaged, _⟩ := fails _ failed
    · exact absurd untracked tracked
    · exact ⟨now, engaged⟩
  · exact far ((dated farDesk.schedule.buffer 1000000 clock).mp shown 1000000 reserved)

end Control

end Evacuation
