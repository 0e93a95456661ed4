import Evacuation.Proofs.Course.Standing
/-!
# What every answer keeps

Whatever is asked in a course, records are only added, and each keeps its node and its start
(`Circumstances.entries_run`); and records and timers stay filed in pairs
(`Circumstances.filed_run`). Both follow from one fact about the desk: it answers by a transaction,
by turning a timer, or without touching the schedule.
-/
namespace Evacuation

variable {T : Type} [TimeScale T]

namespace Schedule

/-- The nodes of the records and the starts they were given, which never change. -/
def entries (schedule : Schedule T) : List (String × Option T) :=
  schedule.records.map fun record => (record.node, record.scheduledFor)

variable {schedule : Schedule T}

omit [TimeScale T] in
theorem entries_change (record : Nat) {update : DrainRecord T → DrainRecord T}
    (armed : Table String Nat) (node : ∀ found, (update found).node = found.node)
    (start : ∀ found, (update found).scheduledFor = found.scheduledFor) :
    schedule.entries <+: entries { schedule.change record update with armed } := by
  have kept : entries { schedule.change record update with armed } = schedule.entries :=
    map_modify_of_kept (fun found => by rw [node, start]) schedule.records record
  exact kept ▸ List.prefix_rfl

/-- Records are added and keep their nodes and starts. -/
theorem entries_transact (now : T) (transaction : Transaction) :
    schedule.entries <+: (schedule.transact now transaction).2.entries := by
  cases transaction with
  | look => exact List.prefix_rfl
  | book node =>
    generalize booked : schedule.book now node = outcome
    obtain ⟨_ | appointment, later⟩ := outcome
    · simp only [transact, booked, book_eq_error booked]
      exact List.prefix_rfl
    · obtain ⟨_, _, start, interval, buffer, rfl⟩ := book_eq_ok booked
      simp only [transact, booked, entries, List.map_append]
      exact List.prefix_append _ _
  | launch node record =>
    by_cases current : schedule.tracked.get? node = some record
    · simp only [transact, launch_current current]
      exact entries_change record _ (fun _ => rfl) fun _ => rfl
    · simp only [transact, launch_dropped current]
      exact List.prefix_rfl
  | finish record retries error => exact entries_change record _ (fun _ => rfl) fun _ => rfl
  | forget node => exact List.prefix_rfl
  | clear node =>
    simp only [transact, clear]
    split <;> exact List.prefix_rfl
  | halt => exact List.prefix_rfl

theorem Filed.transact (filed : schedule.Filed) (now : T) (transaction : Transaction) :
    (schedule.transact now transaction).2.Filed := by
  cases transaction with
  | look => exact filed
  | book node => exact filed.book now node
  | launch node record =>
    by_cases current : schedule.tracked.get? node = some record
    · simp only [Schedule.transact, launch_current current]
      exact filed.amend record _ fun _ => rfl
    · simp only [Schedule.transact, launch_dropped current]
      exact filed
  | finish record retries error => exact filed.amend record _ fun _ => rfl
  | forget node => exact filed.change _ rfl Table.get?_of_erase
  | clear node =>
    simp only [Schedule.transact, clear]
    split
    · exact filed.change _ rfl Table.get?_of_erase
    · exact filed
  | halt =>
    refine filed.change _ rfl fun {name place} tracked => ?_
    rw [Table.get?_foldl_erase] at tracked
    split at tracked
    · cases tracked
    · exact tracked

end Schedule

namespace Schedule

variable {before after : Schedule T}

omit [TimeScale T] in
/-- A record goes on to belong to another node. -/
theorem Foreign.of_growth {name : String} {record : Nat} (foreign : before.Foreign name record)
    (grows : before.entries <+: after.entries) : after.Foreign name record := by
  obtain ⟨found, stands, other⟩ := foreign
  have entry : before.entries[record]? = some (found.node, found.scheduledFor) := by
    rw [entries, List.getElem?_map, stands]
    rfl
  obtain ⟨inside, same⟩ := List.getElem?_eq_some_iff.mp entry
  have later : after.entries[record]? = some (found.node, found.scheduledFor) := by
    rw [← same]
    exact List.prefix_iff_getElem?.mp grows record inside
  rw [entries, List.getElem?_map] at later
  obtain ⟨made, stood, equal⟩ := Option.map_eq_some_iff.mp later
  exact ⟨made, stood, fun named => other ((congrArg Prod.fst equal).symm.trans named)⟩

end Schedule

namespace Controller

/-- The desk answers by a transaction, by turning a timer, or without touching the schedule. -/
theorem schedule_atDesk {motive : Schedule T → Prop} (controller : Controller T) (now : T)
    (desk : Desk T) {request : Control.Request T} (here : request.isErrand = false)
    (kept : motive desk.schedule)
    (transacted : ∀ transaction, motive (desk.schedule.transact now transaction).2)
    (turned : ∀ timer turn, motive (desk.schedule.turnTimer timer turn)) :
    motive (controller.atDesk now request desk).2.schedule := by
  cases request with
  | transact transaction => exact transacted transaction
  | start timer => exact turned timer .start
  | cancel timer => exact turned timer .cancel
  | fire timer =>
    cases found : desk.schedule.timers[timer]? with
    | none =>
      simp only [atDesk, answer, id, found]
      exact kept
    | some made =>
      rw [atDesk_fire controller now desk found]
      exact turned timer .fire
  | arm | count | screen | release | complain => exact kept
  | announce | cordon | drain => cases here

end Controller

/-- The course after a transaction. -/
def Course.transacted (course : Course T) (later : Schedule T) : Course T :=
  { course with desk := { course.desk with schedule := later }, asked := course.asked + 1 }

/-- Starts that can be shown later could be shown before. -/
theorem Course.Shown.of_growth {before after : Course T} {name : String} (shown : after.Shown name)
    (grows : before.desk.schedule.entries <+: after.desk.schedule.entries) : before.Shown name := by
  intro record listed named start given
  have entry : (record.node, record.scheduledFor) ∈ before.desk.schedule.entries :=
    List.mem_map.mpr ⟨record, listed, rfl⟩
  obtain ⟨later, stands, equal⟩ := List.mem_map.mp (grows.subset entry)
  have node : later.node = record.node := congrArg Prod.fst equal
  have scheduled : later.scheduledFor = record.scheduledFor := congrArg Prod.snd equal
  exact shown later stands (node.trans named) start (scheduled.trans given)

/-- Every start that was given can be shown. -/
def Course.isShown (course : Course T) : Bool :=
  course.desk.schedule.records.all fun record =>
    record.scheduledFor.all fun start => (showInstant start).isOk

theorem Course.shown_of_isShown {course : Course T} {name : String}
    (shown : course.isShown = true) : course.Shown name := by
  intro record listed _ start given
  have shows := List.all_eq_true.mp shown record listed
  rw [given, Option.all_some] at shows
  cases told : showInstant start with
  | ok text => exact ⟨text, rfl⟩
  | error failure =>
    rw [told] at shows
    cases shows

/-- The start of a drain that was just booked can be shown. -/
theorem Course.Shown.of_booked {course : Course T} {before : Schedule T} {now : T} {node : Node}
    {appointment : Appointment T} (shown : course.Shown node.name)
    (booked : before.book now node = (.ok appointment, course.desk.schedule)) :
    ∃ text, showInstant appointment.start = .ok text := by
  refine shown ((DrainRecord.fresh node.name).schedule appointment.start) ?_ rfl _ rfl
  rw [(Schedule.reserves_of_book booked).records]
  exact List.mem_append_right _ List.mem_cons_self

namespace Circumstances

variable {circumstances : Circumstances T} {clock : Nat → T} {course : Course T}
  {request : Control.Request T}

/-- What the desk answers is answered so in a course. -/
theorem answer_atDesk (here : request.isErrand = false) :
    circumstances.answer clock request course =
      ((circumstances.controller.atDesk (clock course.asked) request course.desk).1,
        { course with
          desk := (circumstances.controller.atDesk (clock course.asked) request course.desk).2
          asked := course.asked + request.transactions }) := by
  cases request with
  | announce | cordon | drain => cases here
  | _ => rfl

/-- An errand leaves the desk as it is. -/
theorem desk_answer (errand : request.isErrand = true) :
    (circumstances.answer clock request course).2.desk = course.desk := by
  cases request with
  | announce | cordon | drain => rfl
  | _ => cases errand

theorem entries_answer : course.desk.schedule.entries <+:
    (circumstances.answer clock request course).2.desk.schedule.entries := by
  cases here : request.isErrand with
  | true =>
    exact (desk_answer here).symm ▸ List.prefix_rfl
  | false =>
    rw [answer_atDesk here]
    exact Controller.schedule_atDesk
      (motive := fun later => course.desk.schedule.entries <+: later.entries) _ _ _ here
      List.prefix_rfl (Schedule.entries_transact _) fun _ _ => List.prefix_rfl

theorem filed_answer (filed : course.desk.schedule.Filed) :
    (circumstances.answer clock request course).2.desk.schedule.Filed := by
  cases here : request.isErrand with
  | true =>
    rw [desk_answer here]
    exact filed
  | false =>
    rw [answer_atDesk here]
    exact Controller.schedule_atDesk _ _ _ here filed (filed.transact _) filed.turnTimer

theorem asked_answer :
    (circumstances.answer clock request course).2.asked = course.asked + request.transactions := by
  cases here : request.isErrand with
  | true =>
    cases request with
    | announce | cordon | drain => rfl
    | _ => cases here
  | false => rw [answer_atDesk here]

variable {α : Type}

/-- A program that asks goes on with the answer. -/
theorem run_of_answer {reply : (Control T).Reply request} {later : Course T}
    (answered : circumstances.answer clock request course = (reply, later))
    (next : (Control T).Reply request → Controlling T α) :
    Program.run (I := Control T) (circumstances.answer clock) (.ask request next) course =
      (next reply).run (circumstances.answer clock) later :=
  congrArg (fun answer : (Control T).Reply request × Course T =>
    (next answer.1).run (circumstances.answer clock) answer.2) answered

/-- A transaction is followed by what is done about its outcome. -/
theorem run_of_transact (circumstances : Circumstances T) (transaction : Transaction)
    {outcome : transaction.Reply T} {later : Schedule T}
    (transacted : course.desk.schedule.transact (clock course.asked) transaction = (outcome, later))
    (next : transaction.Reply T → Controlling T α) :
    Program.run (I := Control T) (circumstances.answer clock) (.ask (.transact transaction) next)
        course =
      (next outcome).run (circumstances.answer clock) (course.transacted later) :=
  congrArg (fun answer : transaction.Reply T × Schedule T =>
    (next answer.1).run (circumstances.answer clock) (course.transacted answer.2)) transacted

/-- Whatever a program does, records are added and keep their nodes and starts. -/
theorem entries_run (program : Controlling T α) (course : Course T) :
    course.desk.schedule.entries <+:
      (program.run (circumstances.answer clock) course).2.desk.schedule.entries := by
  induction program generalizing course with
  | done value => exact List.prefix_rfl
  | ask request next ih =>
    rw [Program.run_ask]
    exact entries_answer.trans (ih _ _)

/-- Whatever a program does, records and timers are filed in pairs. -/
theorem filed_run (program : Controlling T α) (filed : course.desk.schedule.Filed) :
    (program.run (circumstances.answer clock) course).2.desk.schedule.Filed := by
  induction program generalizing course with
  | done value => exact filed
  | ask request next ih =>
    rw [Program.run_ask]
    exact ih _ (filed_answer filed)

end Circumstances

end Evacuation
