import Evacuation.Proofs.Course.Apart
import Evacuation.Proofs.Session.Mild
/-!
# Courses in step

Two courses are in step for a node if they look alike to it: apart from its starts, its standing is
the same, and so are the signs about it and its mark in the filters. However much else there is on
one of the desks, a request about the node has the same answer in both, and leaves the courses in
step (`Circumstances.inStep_answer`).
-/
namespace Evacuation

variable {T : Type}

/-- The standing without the start of its record. -/
def Standing.withoutStart (standing : Standing T) : Standing T :=
  { standing with record := standing.record.map DrainRecord.withoutStart }

namespace Standing

theorem withoutStart_launch (standing : Standing T) (now : T) :
    (standing.launch now).withoutStart = standing.withoutStart.launch now := by
  obtain ⟨record, isArmed, alarms⟩ := standing
  cases record <;> rfl

theorem withoutStart_finish (standing : Standing T) (now : T) (retries : Int)
    (error : Option String) :
    (standing.finish now retries error).withoutStart =
      standing.withoutStart.finish now retries error := by
  obtain ⟨record, isArmed, alarms⟩ := standing
  cases record <;> rfl

/-- Standings with the same timers are the same after a booking, apart from the start. -/
theorem withoutStart_book {first second : Standing T} (same : first.alarms = second.alarms)
    {node : Node} {start other : T} :
    (first.book node start).withoutStart = (second.book node other).withoutStart := by
  unfold book withoutStart
  rw [same]
  rfl

end Standing

namespace FilterChain

/-- What is asked about a node depends on what the filters remember of it, and on nothing else that
they remember. -/
theorem firstRejecting_congr (chain : FilterChain) (node : Node) {first second : Processed}
    (same : first.contains node.name = second.contains node.name) :
    (chain.firstRejecting node first).1 = (chain.firstRejecting node second).1 ∧
      (chain.firstRejecting node first).2.contains node.name =
        (chain.firstRejecting node second).2.contains node.name := by
  induction chain generalizing first second with
  | nil => exact ⟨rfl, same⟩
  | cons filter rest ih =>
    have keeps : (filter.keeps node first).1 = (filter.keeps node second).1 ∧
        (filter.keeps node first).2.contains node.name =
          (filter.keeps node second).2.contains node.name := by
      cases filter with
      | processed =>
        simp only [NodeFilter.keeps, same]
        split
        · exact ⟨rfl, same⟩
        · exact ⟨rfl, by simp⟩
      | label | condition | schedulable => exact ⟨rfl, same⟩
    unfold firstRejecting
    generalize filter.keeps node first = one at keeps
    generalize filter.keeps node second = other at keeps
    obtain ⟨verdict, processed⟩ := one
    obtain ⟨also, remembered⟩ := other
    obtain ⟨equal, alike⟩ := keeps
    dsimp only at equal alike
    subst equal
    cases verdict with
    | true => exact ih alike
    | false => exact ⟨rfl, alike⟩

/-- A node that is forgotten is not remembered. -/
theorem contains_forget (name : String) (processed : Processed) :
    (forget name processed).contains name = false := by
  unfold forget
  rw [Bool.eq_false_iff, Ne, List.contains_iff_mem, List.mem_filter]
  simp

end FilterChain

namespace Course

/-- Two courses look alike to the node of a name, apart from its starts. -/
structure Twin (name : String) (first second : Course T) : Prop where
  standing : (first.desk.schedule.standing name).withoutStart =
    (second.desk.schedule.standing name).withoutStart
  processed : first.desk.processed.contains name = second.desk.processed.contains name
  signs : (first.signs.filter (·.node == name)).map Sign.withoutStart =
    (second.signs.filter (·.node == name)).map Sign.withoutStart
  filed : first.desk.schedule.Filed
  also_filed : second.desk.schedule.Filed

/-- Two courses look alike to a node and are equally far in a round. -/
structure InStep (name : String) (first second : Course T) : Prop
    extends Twin name first second where
  asked : first.asked = second.asked

namespace Twin

variable {name : String} {first second : Course T}

theorem record_eq (twin : Twin name first second) :
    (first.desk.schedule.current? name).map DrainRecord.withoutStart =
      (second.desk.schedule.current? name).map DrainRecord.withoutStart :=
  congrArg Standing.record twin.standing

theorem isArmed_eq (twin : Twin name first second) :
    (first.desk.schedule.standing name).isArmed = (second.desk.schedule.standing name).isArmed := by
  have same := congrArg Standing.isArmed twin.standing
  exact same

theorem alarms_eq (twin : Twin name first second) :
    (first.desk.schedule.standing name).alarms = (second.desk.schedule.standing name).alarms := by
  have same := congrArg Standing.alarms twin.standing
  exact same

/-- The same timer of a node is to it the same in both courses. -/
theorem alarm_eq (twin : Twin name first second) (which : Nat) :
    ((first.desk.schedule.places name)[which]?).map (first.desk.schedule.alarm? name) =
      ((second.desk.schedule.places name)[which]?).map (second.desk.schedule.alarm? name) := by
  have same := congrArg (·[which]?) twin.alarms_eq
  simpa only [Schedule.standing, List.getElem?_map] using same

theorem sight_eq (twin : Twin name first second) :
    (first.sight name).withoutStart = (second.sight name).withoutStart := by
  unfold sight Sight.withoutStart
  rw [twin.record_eq, twin.processed, twin.signs]

/-- Whatever is asked of the record apart from its start has the same answer. -/
theorem any_record_eq (twin : Twin name first second) (asked : DrainRecord T → Bool)
    (blind : ∀ record, asked record.withoutStart = asked record) :
    (first.desk.schedule.current? name).any asked =
      (second.desk.schedule.current? name).any asked := by
  have same := congrArg (Option.any asked) twin.record_eq
  simpa only [Option.any_map, Function.comp_def, blind] using same

theorem isTracked_eq (twin : Twin name first second) :
    first.desk.schedule.tracked.contains name = second.desk.schedule.tracked.contains name := by
  rw [← twin.filed.isSome_current?, ← twin.also_filed.isSome_current?]
  simpa using congrArg Option.isSome twin.record_eq

/-- The status of the node is the same in both. -/
theorem status_eq (twin : Twin name first second) :
    first.desk.schedule.status name = second.desk.schedule.status name := by
  have failed := twin.any_record_eq (fun record => decide (record.phase = .failed)) fun _ => rfl
  rw [Schedule.status_eq, Schedule.status_eq, twin.filed.isSome_current?,
    twin.also_filed.isSome_current?, twin.isTracked_eq, failed]

/-- The record of the node is given up in both or in neither. -/
theorem clear_eq (twin : Twin name first second) :
    (first.desk.schedule.clear name).1 = (second.desk.schedule.clear name).1 ∧
      ((first.desk.schedule.clear name).2.standing name).withoutStart =
        ((second.desk.schedule.clear name).2.standing name).withoutStart := by
  have ended := twin.any_record_eq (·.phase.isTerminal) fun _ => rfl
  constructor
  · rw [Schedule.fst_clear, Schedule.fst_clear, ended]
  · rw [Schedule.standing_clear, Schedule.standing_clear, ended]
    split
    · exact congrArg Standing.drop twin.standing
    · exact twin.standing

/-- As many signs of a kind were seen in both. -/
theorem countP_signs_eq (twin : Twin name first second) {kind : Sign → Bool}
    (about : ∀ sign, kind sign = true → sign.node = name)
    (blind : ∀ sign, kind sign.withoutStart = kind sign) :
    first.signs.countP kind = second.signs.countP kind := by
  have counted (signs : List Sign) :
      ((signs.filter (·.node == name)).map Sign.withoutStart).countP kind = signs.countP kind := by
    rw [List.countP_map, List.countP_filter]
    refine List.countP_congr fun sign _ => ?_
    rw [Function.comp_apply, blind]
    constructor
    · exact fun both => (Bool.and_eq_true_iff.mp both).1
    · intro of_kind
      rw [of_kind, about sign of_kind, beq_self_eq_true]
      rfl
  rw [← counted first.signs, ← counted second.signs, twin.signs]

/-- What is nothing to the node leaves the courses alike. -/
theorem of_sameFor (twin : Twin name first second) {one other : Course T}
    (same : first.SameFor name one) (also : second.SameFor name other)
    (filed : one.desk.schedule.Filed) (also_filed : other.desk.schedule.Filed) :
    Twin name one other where
  standing := by rw [same.standing, also.standing, twin.standing]
  processed := by rw [same.processed, also.processed, twin.processed]
  signs := by rw [same.signs, also.signs, twin.signs]
  filed := filed
  also_filed := also_filed

/-- A round begins with courses in step. -/
theorem begin (twin : Twin name first second) :
    InStep name { first with asked := 0 } { second with asked := 0 } :=
  ⟨⟨twin.standing, twin.processed, twin.signs, twin.filed, twin.also_filed⟩, rfl⟩

end Twin

namespace InStep

variable {name : String} {first second : Course T}

/-- Signs that are the same apart from a start are seen in both. -/
theorem note (inStep : InStep name first second) {sign other : Sign}
    (same : sign.withoutStart = other.withoutStart) (node : sign.node = other.node) :
    InStep name (first.note sign) (second.note other) where
  standing := inStep.standing
  processed := inStep.processed
  signs := by
    unfold Course.note
    rw [List.filter_append, List.filter_append, List.map_append, List.map_append, inStep.signs,
      List.filter_singleton, List.filter_singleton, node]
    refine congrArg _ ?_
    cases other.node == name with
    | true => rw [cond_true, cond_true, List.map_singleton, List.map_singleton, same]
    | false => rfl
  filed := inStep.filed
  also_filed := inStep.also_filed
  asked := inStep.asked

/-- The schedules may change as long as the standing of the node stays the same in both. -/
theorem transacted (inStep : InStep name first second) {one other : Schedule T}
    (standing : (one.standing name).withoutStart = (other.standing name).withoutStart)
    (filed : one.Filed) (also_filed : other.Filed) :
    InStep name (first.transacted one) (second.transacted other) where
  standing := standing
  processed := inStep.processed
  signs := inStep.signs
  filed := filed
  also_filed := also_filed
  asked := congrArg (· + 1) inStep.asked

end InStep

end Course

/-- What the cluster makes of events is at most to refuse them. -/
def Circumstances.IsMild (circumstances : Circumstances T) : Prop :=
  ∀ signs, Failure.AtMostRefused (circumstances.filing signs)

/-- The circumstances with something else becoming of events. -/
def Circumstances.refiled (circumstances : Circumstances T)
    (filing : List Sign → Except Failure Unit) : Circumstances T :=
  { circumstances with filing }

/-- A request whose answer depends on no other node than that of a name. -/
def Control.Request.IsOwn (name : String) : Control.Request T → Prop
  | .transact (.look node) | .transact (.clear node) => node = name
  | .transact _ => False
  | .announce _ node _ | .release node => node = name
  | .cordon node | .drain node | .screen node => node.name = name
  | .count _ _ | .complain _ => True
  | .arm _ _ | .start _ _ | .cancel _ | .fire _ => False

namespace Circumstances

variable [TimeScale T] {circumstances : Circumstances T} {filing : List Sign → Except Failure Unit}
  {clock : Nat → T} {name : String} {first second : Course T}

omit [TimeScale T] in
/-- An event that is at most refused is let go. -/
theorem letGo_filing (mild : circumstances.IsMild) (signs : List Sign) :
    Work.letGo (circumstances.filing signs) = .ok () := by
  cases filed : circumstances.filing signs with
  | ok value => rfl
  | error failure =>
    obtain ⟨refusal, rfl⟩ := mild signs failure filed
    rfl

/-- What is announced is seen, and the program goes on. -/
theorem run_announcing (mild : circumstances.IsMild) {α : Type} {stage : Stage}
    {node message : String} {rest : Controlling T (Except Failure α)} {course : Course T} :
    (Control.announcing stage node message rest).run (circumstances.answer clock) course =
      rest.run (circumstances.answer clock) (course.note (.told (stage.event node message))) := by
  have told : circumstances.answer clock (.announce stage node message) course =
      (.ok (), course.note (.told (stage.event node message))) :=
    Prod.ext (letGo_filing mild course.signs) rfl
  exact run_of_answer told _

open Course

/-- Courses in step stay so if transactions leave the same of the node's standing. -/
theorem inStep_transact {transaction other : Transaction} (inStep : InStep name first second)
    (standing :
      ((first.desk.schedule.transact (clock first.asked) transaction).2.standing name).withoutStart =
        ((second.desk.schedule.transact (clock second.asked) other).2.standing name).withoutStart) :
    InStep name (circumstances.answer clock (.transact transaction) first).2
      ((circumstances.refiled filing).answer clock (.transact other) second).2 :=
  inStep.transacted standing (inStep.filed.transact _ _) (inStep.also_filed.transact _ _)

/-- In courses in step a request about the node has the same answer, and they stay in step. -/
theorem inStep_answer (clock : Nat → T) (mild : circumstances.IsMild)
    (also_mild : (circumstances.refiled filing).IsMild) {request : Control.Request T}
    (own : request.IsOwn name) (inStep : InStep name first second) :
    (circumstances.answer clock request first).1 =
        ((circumstances.refiled filing).answer clock request second).1 ∧
      InStep name (circumstances.answer clock request first).2
        ((circumstances.refiled filing).answer clock request second).2 := by
  have filed := inStep.filed
  have also_filed := inStep.also_filed
  cases request with
  | announce stage node message =>
    refine ⟨?_, inStep.note rfl rfl⟩
    exact (letGo_filing mild _).trans (letGo_filing also_mild _).symm
  | cordon node =>
    obtain rfl : node.name = name := own
    refine ⟨congrArg (circumstances.fortune.cordon node) ?_, inStep.note rfl rfl⟩
    refine inStep.countP_signs_eq (fun sign of_kind => ?_) fun sign => by cases sign <;> rfl
    cases sign with
    | cordoned other => exact eq_of_beq of_kind
    | drained | told => cases of_kind
  | drain node =>
    obtain rfl : node.name = name := own
    refine ⟨congrArg (circumstances.fortune.drain node) ?_, inStep.note rfl rfl⟩
    refine inStep.countP_signs_eq (fun sign of_kind => ?_) fun sign => by cases sign <;> rfl
    cases sign with
    | drained other => exact eq_of_beq of_kind
    | cordoned | told => cases of_kind
  | transact transaction =>
    cases transaction with
    | look node =>
      obtain rfl : node = name := own
      exact ⟨inStep.status_eq, inStep_transact inStep inStep.standing⟩
    | clear node =>
      obtain rfl : node = name := own
      exact ⟨inStep.clear_eq.1, inStep_transact inStep inStep.clear_eq.2⟩
    | _ => cases own
  | screen node =>
    obtain rfl : node.name = name := own
    have same := circumstances.controller.chain.firstRejecting_congr node inStep.processed
    exact ⟨same.1, ⟨inStep.standing, same.2, inStep.signs, filed, also_filed⟩, inStep.asked⟩
  | release node =>
    obtain rfl : node = name := own
    have gone (processed : Processed) := FilterChain.contains_forget node processed
    refine ⟨rfl, ⟨inStep.standing, ?_, inStep.signs, filed, also_filed⟩, inStep.asked⟩
    exact (gone _).trans (gone _).symm
  | count | complain =>
    exact ⟨rfl, ⟨inStep.standing, inStep.processed, inStep.signs, filed, also_filed⟩, inStep.asked⟩
  | arm | start | cancel | fire => cases own

end Circumstances

end Evacuation
