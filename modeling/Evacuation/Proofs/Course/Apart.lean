import Evacuation.Proofs.Course.Answers
import Evacuation.Proofs.Office.Screening
/-!
# What is done about other nodes

A node sees nothing of what is done about others. Each request about other nodes leaves its standing,
its mark in the filters and the signs about it as they are (`Circumstances.sameFor_answer`), so a
program that asks only for such things does too, and so does a round that does not concern the node
(`Circumstances.sameFor_take`). The record that a drain writes its end into is known by its place
only; that it belongs to another node stays true, since records keep their nodes.
-/
namespace Evacuation

variable {T : Type}

namespace FilterChain

/-- Asking about a node changes nothing for another. -/
theorem contains_firstRejecting_of_apart (chain : FilterChain) {node : Node} {name : String}
    (apart : node.name ≠ name) (processed : Processed) :
    (chain.firstRejecting node processed).2.contains name = processed.contains name := by
  induction chain generalizing processed with
  | nil => rfl
  | cons filter rest ih =>
    have kept : (filter.keeps node processed).2.contains name = processed.contains name := by
      cases filter with
      | processed =>
        simp only [NodeFilter.keeps]
        split
        · rfl
        · simp [Ne.symm apart]
      | label | condition | schedulable => rfl
    unfold firstRejecting
    split
    · rename_i later verdict
      rw [ih, ← kept, verdict]
    · rename_i later verdict
      rw [← kept, verdict]

/-- Forgetting a node changes nothing for another. -/
theorem contains_forget_of_apart {name other : String} (apart : other ≠ name)
    (processed : Processed) : (forget other processed).contains name = processed.contains name := by
  unfold forget
  rw [Bool.eq_iff_iff, List.contains_iff_mem, List.contains_iff_mem, List.mem_filter]
  simp [Ne.symm apart]

end FilterChain

namespace Course

/-- Nothing changes for the node of a name. -/
structure SameFor (name : String) (before after : Course T) : Prop where
  standing : after.desk.schedule.standing name = before.desk.schedule.standing name
  processed : after.desk.processed.contains name = before.desk.processed.contains name
  signs : after.signs.filter (·.node == name) = before.signs.filter (·.node == name)

namespace SameFor

variable {name : String} {before between after : Course T}

theorem refl (name : String) (course : Course T) : course.SameFor name course := ⟨rfl, rfl, rfl⟩

theorem trans (first : before.SameFor name between) (second : between.SameFor name after) :
    before.SameFor name after where
  standing := second.standing.trans first.standing
  processed := second.processed.trans first.processed
  signs := second.signs.trans first.signs

theorem sight_eq (same : before.SameFor name after) : after.sight name = before.sight name := by
  have record : after.desk.schedule.current? name = before.desk.schedule.current? name :=
    congrArg Standing.record same.standing
  unfold sight
  rw [record, same.processed, same.signs]

end SameFor

/-- A sign about another node is nothing to this one. -/
theorem sameFor_note {name : String} (course : Course T) {sign : Sign} (apart : sign.node ≠ name) :
    course.SameFor name (course.note sign) where
  standing := rfl
  processed := rfl
  signs := by
    unfold note
    rw [List.filter_append, List.filter_singleton, beq_false_of_ne apart]
    exact List.append_nil _

end Course

/-- A request that is about other nodes than that of a name. The records that may be finished are
given. -/
def Control.Request.Apart (name : String) (strange : Nat → Prop) : Control.Request T → Prop
  | .transact (.look _) => True
  | .transact (.book node) => node.name ≠ name
  | .transact (.launch node _) | .transact (.forget node) | .transact (.clear node) => node ≠ name
  | .transact (.finish record _ _) => strange record
  | .transact .halt => False
  | .fire _ => False
  | .announce _ node _ | .release node => node ≠ name
  | .cordon node | .drain node | .screen node => node.name ≠ name
  | .arm _ _ | .start _ _ | .cancel _ | .count _ _ | .complain _ => True

variable [TimeScale T] {name : String} {strange : Nat → Prop}

namespace Schedule

/-- A transaction about other nodes leaves the standing of a node as it is. -/
theorem Filed.standing_transact_of_apart {schedule : Schedule T} (filed : schedule.Filed)
    (foreign : ∀ record, strange record → schedule.Foreign name record) (now : T)
    {transaction : Transaction}
    (apart : Control.Request.Apart (T := T) name strange (.transact transaction)) :
    (schedule.transact now transaction).2.standing name = schedule.standing name := by
  cases transaction with
  | look => rfl
  | book node =>
    generalize booked : schedule.book now node = outcome
    obtain ⟨_ | appointment, later⟩ := outcome
    · simp only [Schedule.transact, booked, book_eq_error booked]
    · simp only [Schedule.transact, booked]
      rw [filed.standing_book booked, if_neg apart]
  | launch node record =>
    exact (filed.standing_launch now node record).trans (if_neg fun both => apart both.1)
  | finish record retries error =>
    have other : ¬ schedule.isCurrent name record = true := by
      simpa [isCurrent] using filed.untracked_of_foreign (foreign record apart)
    have changed : (schedule.transact now (.finish record retries error)).2.standing name = _ :=
      standing_change record _ schedule.armed
    rw [changed, if_neg other]
    rfl
  | forget node => exact (standing_forget node).trans (if_neg apart)
  | clear node => exact (standing_clear node).trans (if_neg fun both => apart both.1)
  | halt => exact apart.elim

end Schedule

namespace Circumstances

variable {circumstances : Circumstances T} {clock : Nat → T} {course : Course T}

/-- A request about other nodes is nothing to a node. -/
theorem sameFor_answer {request : Control.Request T} (filed : course.desk.schedule.Filed)
    (foreign : ∀ record, strange record → course.desk.schedule.Foreign name record)
    (apart : request.Apart name strange) :
    course.SameFor name (circumstances.answer clock request course).2 := by
  cases request with
  | announce stage node message => exact course.sameFor_note apart
  | cordon node => exact course.sameFor_note apart
  | drain node => exact course.sameFor_note apart
  | transact transaction =>
    exact ⟨filed.standing_transact_of_apart foreign _ apart, rfl, rfl⟩
  | start timer label =>
    exact ⟨Schedule.standing_turnTimer (fun state => by cases state <;> rfl) timer, rfl, rfl⟩
  | cancel timer =>
    exact ⟨Schedule.standing_turnTimer (fun state => by cases state <;> rfl) timer, rfl, rfl⟩
  | fire timer => exact apart.elim
  | screen node => exact ⟨rfl, FilterChain.contains_firstRejecting_of_apart _ apart _, rfl⟩
  | release node => exact ⟨rfl, FilterChain.contains_forget_of_apart apart _, rfl⟩
  | arm | count | complain => exact ⟨rfl, rfl, rfl⟩

variable {α : Type}

/-- What is done about other nodes is nothing to a node. -/
theorem sameFor_run {program : Controlling T α} (filed : course.desk.schedule.Filed)
    (foreign : ∀ record, strange record → course.desk.schedule.Foreign name record)
    (apart : Program.Only (I := Control T) (Control.Request.Apart name strange) program) :
    course.SameFor name (program.run (circumstances.answer clock) course).2 := by
  induction program generalizing course with
  | done value => exact .refl name course
  | ask request next ih =>
    rw [Program.run_ask]
    have first : course.SameFor name (circumstances.answer clock request course).2 :=
      sameFor_answer filed foreign apart.1
    refine first.trans (ih _ (filed_answer filed) ?_ (apart.2 _))
    exact fun record listed => (foreign record listed).of_growth entries_answer

end Circumstances

/-! ## Rounds about other nodes -/

namespace Control

/-- The program asks only for what is about other nodes than that of a name. -/
abbrev Elsewhere {α : Type} (name : String) (strange : Nat → Prop) (program : Controlling T α) :
    Prop :=
  Program.Only (I := Control T) (Request.Apart name strange) program

variable {node : Node} {notification : Notification}

theorem elsewhere_handleNode (apart : node.name ≠ name) :
    Elsewhere name strange (handleNode (T := T) node) := by
  obtain ⟨next, same, handles⟩ := @handleNode_eq T node _
  rw [same]
  refine ⟨trivial, fun found => (handles found).mono fun request asked => ?_⟩
  cases request with
  | transact transaction =>
    cases transaction with
    | book target =>
      obtain rfl : target = node := asked
      exact apart
    | _ => cases asked
  | announce stage target message =>
    obtain rfl : target = node.name := asked
    exact apart
  | cordon target =>
    obtain rfl : target = node := asked
    exact apart
  | arm | start | count => trivial
  | fire | cancel | drain | screen | release | complain => cases asked

theorem elsewhere_dispatch (apart : notification.node.name ≠ name) :
    Elsewhere name strange (Command.dispatch notification).program (T := T) := by
  cases departs : notification.isDeparture with
  | true =>
    rw [dispatch_of_departure departs]
    refine ⟨apart, fun armed => ?_⟩
    cases armed with
    | none => exact ⟨apart, fun _ => trivial⟩
    | some timer => exact ⟨trivial, fun _ => ⟨apart, fun _ => trivial⟩⟩
  | false =>
    rw [dispatch_of_stays departs]
    refine ⟨apart, fun verdict => Program.Only.bind ?_ fun outcome => ?_⟩
    · cases verdict with
      | none => exact elsewhere_handleNode apart
      | some filter =>
        by_cases healthy : filter.isCondition = true
        · simp only [followUp, if_pos healthy]
          exact ⟨apart, fun _ => trivial⟩
        · simp only [followUp, if_neg healthy]
          trivial
    · cases outcome with
      | ok value => trivial
      | error failure => exact ⟨trivial, fun _ => trivial⟩

omit [TimeScale T] in
theorem elsewhere_concludeDrain (apart : node.name ≠ name) (record : Nat)
    (drained : Except Failure DrainReport) :
    Elsewhere name (· = record) (concludeDrain (T := T) node record drained) := by
  rw [concludeDrain_eq]
  refine ⟨rfl, fun _ => ?_⟩
  split
  · exact ⟨trivial, fun _ => only_announcing apart trivial⟩
  · exact ⟨trivial, fun _ => only_announcing apart trivial⟩

omit [TimeScale T] in
theorem elsewhere_runDrain (apart : node.name ≠ name) (record : Nat) :
    Elsewhere name (· = record) (runDrain (T := T) node record) := by
  refine ⟨apart, fun begun => ?_⟩
  cases begun with
  | false => trivial
  | true =>
    refine only_announcing apart ⟨apart, fun drained => ?_⟩
    exact elsewhere_concludeDrain apart record drained

omit [TimeScale T] in
theorem elsewhere_cancelAll (timers : List Nat) :
    Elsewhere name strange (cancelAll (T := T) timers) := by
  induction timers with
  | nil => trivial
  | cons timer others ih => exact ⟨trivial, fun _ => ih⟩

/-- To stop is to halt the schedule, and what follows is nothing to any node. -/
theorem stop_eq : ∃ next : List Nat → Controlling T (Except Failure Unit),
    Command.stop.program = .ask (.transact .halt) next ∧
      ∀ name strange timers, Elsewhere name strange (next timers) :=
  ⟨_, rfl, fun _ _ timers => (elsewhere_cancelAll timers).bind fun _ => trivial⟩

omit [TimeScale T] in
/-- A timer that goes off leads to the drain of its node for its record. -/
theorem fireTimer_eq (timer : Nat) : ∃ next, fireTimer (T := T) timer = .ask (.fire timer) next ∧
    ∀ node record, next (some (node, record)) = runDrain node record := ⟨_, rfl, fun _ _ => rfl⟩

end Control

namespace Circumstances

variable {circumstances : Circumstances T} {course : Course T} {round : Round T}

/-- A round does not undo the filing of records and timers. -/
theorem filed_take (filed : course.desk.schedule.Filed) :
    (circumstances.take course round).2.desk.schedule.Filed := by
  unfold take
  split
  · exact filed_run _ filed
  · split
    · exact filed
    · split
      · exact filed
      · exact filed_run _ filed
  · exact filed_run _ filed

theorem entries_take : course.desk.schedule.entries <+:
    (circumstances.take course round).2.desk.schedule.entries := by
  unfold take
  split
  · exact entries_run _ { course with asked := 0 }
  · split
    · exact List.prefix_rfl
    · split
      · exact List.prefix_rfl
      · exact entries_run _ { course with asked := 0 }
  · exact entries_run _ { course with asked := 0 }

/-- The course once a timer went off in a new round. -/
def rung (course : Course T) (timer : Nat) : Course T :=
  { course with
    desk := { course.desk with schedule := course.desk.schedule.turnTimer timer .fire }
    asked := 0 }

/-- When a timer goes off that was made, the drain of its node and its record is run. -/
theorem work_fireTimer (clock : Nat → T) {timer : Nat} {found : Timer T}
    (stands : course.desk.schedule.timers[timer]? = some found) :
    circumstances.work clock (Control.fireTimer timer) course =
      (Control.runDrain found.node found.record).run (circumstances.answer clock)
        (rung course timer) := by
  have fired := Controller.atDesk_fire circumstances.controller (clock 0) course.desk stands
  have answered : circumstances.answer clock (.fire timer) { course with asked := 0 } =
      (some (found.node, found.record), rung course timer) :=
    congrArg (fun answer => (answer.1, { course with desk := answer.2, asked := 0 })) fired
  obtain ⟨next, same, runs⟩ := Control.fireTimer_eq (T := T) timer
  rw [work, same]
  refine (run_of_answer answered next).trans ?_
  rw [runs]

/-- A round that does not concern a node changes nothing for it. -/
theorem sameFor_take (filed : course.desk.schedule.Filed) (apart : round.concerns name = false) :
    course.SameFor name (circumstances.take course round).2 := by
  obtain ⟨occasion, clock⟩ := round
  cases occasion with
  | dispatch notification =>
    have other : notification.node.name ≠ name := by simpa [Round.concerns] using apart
    have begun : course.SameFor name { course with asked := 0 } := ⟨rfl, rfl, rfl⟩
    have elsewhere : Control.Elsewhere (T := T) name (fun _ => False)
        (Control.Command.dispatch notification).program := Control.elsewhere_dispatch other
    exact begun.trans (sameFor_run filed nofun elsewhere)
  | timer node which =>
    have other : node ≠ name := by simpa [Round.concerns] using apart
    unfold take
    dsimp only
    split
    · exact .refl name course
    · rename_i timer there
      split
      · exact .refl name course
      · obtain ⟨found, stands, rfl⟩ := Schedule.mem_places.mp (List.mem_of_getElem? there)
        obtain ⟨record, made, at_place, named⟩ := filed.own stands
        have rang : course.SameFor name (rung course timer) :=
          ⟨Schedule.standing_fire_of_apart stands other, rfl, rfl⟩
        have foreign : course.desk.schedule.Foreign name found.record :=
          ⟨made, by rw [record, at_place], by rwa [named]⟩
        rw [work_fireTimer clock stands]
        refine rang.trans (sameFor_run (filed.turnTimer timer .fire) ?_
          (Control.elsewhere_runDrain other found.record))
        rintro _ rfl
        exact foreign
  | stop => cases apart

end Circumstances

end Evacuation
