import Evacuation.Proofs.Course.Lockstep
/-!
# Nodes do not interfere

A round that concerns a node leaves courses that look alike to the node alike
(`Circumstances.twin_take`); any other round leaves the course as it was to the node. By induction
on the rounds, a node sees in a run with other nodes just what it sees in the run that consists of
its own rounds and the stops, apart from its starts (`Circumstances.isolated`).
-/
namespace Evacuation

open Course

variable {T : Type} [TimeScale T]

namespace Circumstances

variable {circumstances : Circumstances T} {filing : List Sign → Except Failure Unit}
  {name : String} {first second : Course T} {round : Round T}

/-- A stop drops the record of a node in both courses or in neither. -/
theorem twin_stop (clock : Nat → T) (inStep : InStep name first second) :
    Twin name (Control.Command.stop.program.run (circumstances.answer clock) first).2
      (Control.Command.stop.program.run ((circumstances.refiled filing).answer clock) second).2 := by
  obtain ⟨next, program, elsewhere⟩ := Control.stop_eq (T := T)
  rw [program]
  have halted : InStep name (first.transacted first.desk.schedule.halt.2)
      (second.transacted second.desk.schedule.halt.2) := by
    refine inStep.transacted ?_ (inStep.filed.transact (clock 0) .halt)
      (inStep.also_filed.transact (clock 0) .halt)
    rw [Schedule.standing_halt, Schedule.standing_halt, inStep.isArmed_eq]
    split
    · exact congrArg (fun standing => { standing.drop with isArmed := false }) inStep.standing
    · exact inStep.standing
  have ran := run_of_transact circumstances .halt
    (rfl : first.desk.schedule.transact (clock first.asked) .halt = _) next
  have also_ran := run_of_transact (circumstances.refiled filing) .halt
    (rfl : second.desk.schedule.transact (clock second.asked) .halt = _) next
  rw [ran, also_ran]
  exact halted.of_sameFor (sameFor_run halted.filed nofun (elsewhere name (fun _ => False) _))
    (sameFor_run halted.also_filed nofun (elsewhere name (fun _ => False) _))
    (filed_run _ halted.filed) (filed_run _ halted.also_filed)

/-- A timer of the node goes off in both courses. -/
theorem twin_fire (clock : Nat → T) (mild : circumstances.IsMild)
    (also_mild : (circumstances.refiled filing).IsMild) (twin : Twin name first second)
    {which one other : Nat} (there : (first.desk.schedule.places name)[which]? = some one)
    (also_there : (second.desk.schedule.places name)[which]? = some other)
    (same : first.desk.schedule.alarm? name one = second.desk.schedule.alarm? name other)
    (shown : (circumstances.work clock (Control.fireTimer one) first).2.Shown name)
    (also_shown : ((circumstances.refiled filing).work clock (Control.fireTimer other)
      second).2.Shown name) :
    Twin name (circumstances.work clock (Control.fireTimer one) first).2
      ((circumstances.refiled filing).work clock (Control.fireTimer other) second).2 := by
  obtain ⟨found, stands, named⟩ := Schedule.mem_places.mp (List.mem_of_getElem? there)
  obtain ⟨also, stood, _⟩ := Schedule.mem_places.mp (List.mem_of_getElem? also_there)
  have record := (twin.filed.own stands).1
  have also_record := (twin.also_filed.own stood).1
  unfold Schedule.alarm? at same
  rw [stands, stood, Option.map_some, Option.map_some] at same
  injection same with same
  injection same with node fired current
  rw [work_fireTimer clock stands] at shown ⊢
  rw [work_fireTimer clock stood, ← node] at also_shown ⊢
  have rang : InStep name (rung first one) (rung second other) := by
    refine ⟨⟨?_, twin.processed, twin.signs, twin.filed.turnTimer _ _,
      twin.also_filed.turnTimer _ _⟩, rfl⟩
    show ((first.desk.schedule.turnTimer one .fire).standing name).withoutStart =
      ((second.desk.schedule.turnTimer other .fire).standing name).withoutStart
    rw [Schedule.standing_fire there, Schedule.standing_fire also_there]
    exact congrArg (fun standing : Standing T =>
      { standing with alarms := standing.alarms.modify which (·.map Alarm.ring) }) twin.standing
  subst named
  have currents : (rung first one).desk.schedule.isCurrent found.node.name found.record =
      (rung second other).desk.schedule.isCurrent found.node.name also.record := by
    rw [record, also_record]
    exact current
  exact (Control.inStep_runDrain mild also_mild rang currents shown also_shown).toTwin

/-- A place in the list of the node's timers holds in both courses a timer that is the same to the
node, or in neither one. -/
theorem twin_timer (clock : Nat → T) (mild : circumstances.IsMild)
    (also_mild : (circumstances.refiled filing).IsMild) (twin : Twin name first second) (which : Nat)
    (shown : (circumstances.take first ⟨.timer name which, clock⟩).2.Shown name)
    (also_shown : ((circumstances.refiled filing).take second ⟨.timer name which, clock⟩).2.Shown
      name) :
    Twin name (circumstances.take first ⟨.timer name which, clock⟩).2
      ((circumstances.refiled filing).take second ⟨.timer name which, clock⟩).2 := by
  have same := twin.alarm_eq which
  unfold take at shown also_shown ⊢
  dsimp only at shown also_shown ⊢
  cases there : (first.desk.schedule.places name)[which]? with
  | none =>
    cases also_there : (second.desk.schedule.places name)[which]? with
    | none => exact twin
    | some other =>
      rw [there, also_there] at same
      cases same
  | some one =>
    cases also_there : (second.desk.schedule.places name)[which]? with
    | none =>
      rw [there, also_there] at same
      cases same
    | some other =>
      rw [there, also_there] at same
      rw [there] at shown
      rw [also_there] at also_shown
      have alarm := Option.some.inj same
      have gone : first.desk.schedule.hasGoneOff one = second.desk.schedule.hasGoneOff other := by
        rw [Schedule.hasGoneOff_eq name, Schedule.hasGoneOff_eq name, alarm]
      dsimp only at shown also_shown ⊢
      rw [gone] at shown ⊢
      split
      · exact twin
      · rename_i waits
        rw [if_neg waits] at shown also_shown
        exact twin_fire clock mild also_mild twin there also_there alarm shown also_shown

/-- A round that concerns a node leaves courses that look alike to it alike. -/
theorem twin_take (mild : circumstances.IsMild) (also_mild : (circumstances.refiled filing).IsMild)
    (twin : Twin name first second) (concerns : round.concerns name = true)
    (shown : (circumstances.take first round).2.Shown name)
    (also_shown : ((circumstances.refiled filing).take second round).2.Shown name) :
    Twin name (circumstances.take first round).2
      ((circumstances.refiled filing).take second round).2 := by
  obtain ⟨occasion, clock⟩ := round
  cases occasion with
  | dispatch notification =>
    obtain rfl : notification.node.name = name := eq_of_beq concerns
    have tied : circumstances.Tied filing notification.node.name clock Eq
        (Control.Command.dispatch notification).program
        (Control.Command.dispatch notification).program :=
      Control.tied_dispatch mild also_mild notification
    exact (tied _ _ twin.begin shown also_shown).2.toTwin
  | timer node which =>
    obtain rfl : node = name := eq_of_beq concerns
    exact twin_timer clock mild also_mild twin which shown also_shown
  | stop => exact twin_stop clock twin.begin

/-! ## Nothing goes wrong -/

theorem ok_concludeDrain (clock : Nat → T) (mild : circumstances.IsMild) (node : Node) (record : Nat)
    (drained : Except Failure DrainReport) (course : Course T) :
    ((Control.concludeDrain node record drained).run (circumstances.answer clock) course).1 =
      .ok () := by
  have announced (stage : Stage) (message : String) (course : Course T) :
      ((Control.announcing stage node.name message (.done (.ok ()))).run
        (circumstances.answer clock) course).1 = .ok () := by
    rw [run_announcing mild]
    rfl
  rw [Control.concludeDrain_eq]
  cases fault : DrainRecord.isFault (Control.ending drained).2 with
  | false => exact announced _ _ _
  | true => exact announced _ _ _

theorem ok_runDrain (clock : Nat → T) (mild : circumstances.IsMild) (node : Node) (record : Nat)
    (course : Course T) :
    ((Control.runDrain node record).run (circumstances.answer clock) course).1 = .ok () := by
  obtain ⟨next, program, dismissed, begun⟩ := Control.runDrain_eq (T := T) node record
  rw [program]
  cases launched : course.desk.schedule.launch (clock course.asked) node.name record with
  | mk reply later =>
    rw [run_of_transact circumstances (.launch node.name record) launched next]
    cases reply with
    | false =>
      rw [dismissed]
      rfl
    | true =>
      rw [begun, run_announcing mild]
      exact ok_concludeDrain clock mild node record _ _

/-- Every round comes to its end without failure. -/
theorem ok_take (mild : circumstances.IsMild) (course : Course T) (round : Round T) :
    (circumstances.take course round).1 = .ok () := by
  obtain ⟨occasion, clock⟩ := round
  cases occasion with
  | dispatch notification =>
    have program : (Control.Command.dispatch notification).program =
        (Control.dispatch (T := T) notification).bind fun _ => .done (.ok ()) := rfl
    unfold take work
    dsimp only
    rw [program, Program.run_bind, Program.run_done]
  | timer node which =>
    unfold take
    dsimp only
    split
    · rfl
    · rename_i timer there
      split
      · rfl
      · obtain ⟨found, stands, _⟩ := Schedule.mem_places.mp (List.mem_of_getElem? there)
        rw [work_fireTimer clock stands]
        exact ok_runDrain clock mild _ _ _
  | stop =>
    have program : Control.Command.stop.program =
        (Control.stop (T := T)).bind fun _ => .done (.ok ()) := rfl
    unfold take work
    dsimp only
    rw [program, Program.run_bind, Program.run_done]

/-! ## Whole runs -/

theorem filed_after {course : Course T} (filed : course.desk.schedule.Filed)
    (rounds : List (Round T)) : (circumstances.after course rounds).desk.schedule.Filed := by
  induction rounds generalizing course with
  | nil => exact filed
  | cons round rest ih => exact ih (filed_take filed)

theorem entries_after (course : Course T) (rounds : List (Round T)) :
    course.desk.schedule.entries <+: (circumstances.after course rounds).desk.schedule.entries := by
  induction rounds generalizing course with
  | nil => exact List.prefix_rfl
  | cons round rest ih => exact entries_take.trans (ih _)

theorem sights_of_concerns (concerns : round.concerns name = true) (course : Course T)
    (rest : List (Round T)) : circumstances.sights name course (round :: rest) =
      (circumstances.take course round).2.sight name ::
        circumstances.sights name (circumstances.take course round).2 rest := if_pos concerns

theorem sights_of_apart (apart : round.concerns name = false) (course : Course T)
    (rest : List (Round T)) : circumstances.sights name course (round :: rest) =
      circumstances.sights name (circumstances.take course round).2 rest :=
  if_neg (by rw [apart]; exact Bool.false_ne_true)

/-- What a node sees of courses that look alike to it is alike, if in the other one only the rounds
take place that concern it. -/
theorem sights_eq (mild : circumstances.IsMild) (also_mild : (circumstances.refiled filing).IsMild)
    (rounds : List (Round T)) (twin : Twin name first second)
    (shown : (circumstances.after first rounds).Shown name)
    (also_shown : ((circumstances.refiled filing).after second
      (rounds.filter (·.concerns name))).Shown name) :
    (circumstances.sights name first rounds).map Sight.withoutStart =
      ((circumstances.refiled filing).sights name second
        (rounds.filter (·.concerns name))).map Sight.withoutStart := by
  induction rounds generalizing first second with
  | nil => rfl
  | cons round rest ih =>
    cases concerns : round.concerns name with
    | false =>
      have left : (round :: rest).filter (·.concerns name) = rest.filter (·.concerns name) :=
        List.filter_cons_of_neg (by rw [concerns]; exact Bool.false_ne_true)
      rw [left] at also_shown ⊢
      have onward : Twin name (circumstances.take first round).2 second :=
        twin.of_sameFor (sameFor_take twin.filed concerns) (.refl name second)
          (filed_take twin.filed) twin.also_filed
      rw [sights_of_apart concerns]
      exact ih onward shown also_shown
    | true =>
      have kept : (round :: rest).filter (·.concerns name) =
          round :: rest.filter (·.concerns name) := List.filter_cons_of_pos concerns
      rw [kept] at also_shown ⊢
      have onward : Twin name (circumstances.take first round).2
          ((circumstances.refiled filing).take second round).2 :=
        twin_take mild also_mild twin concerns (shown.of_growth (entries_after _ rest))
          (also_shown.of_growth (entries_after _ _))
      rw [sights_of_concerns concerns, sights_of_concerns concerns, List.map_cons, List.map_cons,
        onward.sight_eq, ih onward shown also_shown]

omit [TimeScale T] in
theorem filed_opened (buffer : DrainBuffer T) : (opened buffer).desk.schedule.Filed :=
  (Schedule.consistent_opened buffer).filed

/-- Nodes do not interfere. In a run of dispatches, timers that go off and stops, over any nodes and
with any outcomes of cordons and drains, every round comes to its end without failure. A round that
does not concern a node changes nothing that the node sees. And apart from its starts the node sees
just what it sees if only the rounds take place that concern it, whatever becomes of the events
there. -/
theorem isolated (mild : circumstances.IsMild) (also_mild : (circumstances.refiled filing).IsMild)
    (buffer : DrainBuffer T) (rounds : List (Round T)) (name : String)
    (shown : (circumstances.after (.opened buffer) rounds).Shown name)
    (also_shown : ((circumstances.refiled filing).after (.opened buffer)
      (rounds.filter (·.concerns name))).Shown name) :
    (∀ before round later, rounds = before ++ round :: later →
      (circumstances.take (circumstances.after (.opened buffer) before) round).1 = .ok () ∧
        (round.concerns name = false →
          (circumstances.after (.opened buffer) (before ++ [round])).sight name =
            (circumstances.after (.opened buffer) before).sight name)) ∧
      (circumstances.sights name (.opened buffer) rounds).map Sight.withoutStart =
        ((circumstances.refiled filing).sights name (.opened buffer)
          (rounds.filter (·.concerns name))).map Sight.withoutStart := by
  have filed := filed_opened buffer
  refine ⟨fun before round later _ => ⟨ok_take mild _ round, fun apart => ?_⟩, ?_⟩
  · unfold after
    rw [List.foldl_append]
    exact (sameFor_take (filed_after filed before) apart).sight_eq
  · exact sights_eq mild also_mild rounds ⟨rfl, rfl, rfl, filed, filed⟩ shown also_shown

/-- Two unhealthy nodes in a dry run. The cordon of the first one succeeds, and the drain of the
second one fails. -/
def neighbours : Circumstances Rat where
  controller := { drainer := .dryRun, chain := [.processed] }
  fortune :=
    { cordon := fun _ _ => .ok ()
      drain := fun node _ =>
        if node.name = "n2" then .error (.broken "RuntimeError" "") else .ok { node := node.name } }
  filing := fun _ => .ok ()

/-- Both nodes turn up at once, the timer of the second one goes off, and everything is stopped. -/
def neighbourhood : List (Round Rat) :=
  [⟨.dispatch ⟨"ADDED", { name := "n1" }⟩, fun _ => 0⟩,
    ⟨.dispatch ⟨"ADDED", { name := "n2" }⟩, fun _ => 0⟩,
    ⟨.timer "n2" 0, fun asked => 60 + asked⟩, ⟨.stop, fun _ => 90⟩]

/-- The second node is the first one's neighbour, and all it sees of that is a later start. -/
theorem isolated_neighbours :
    (neighbours.sights "n2" (.opened ⟨60, none⟩) neighbourhood).map Sight.withoutStart =
        ((neighbours.refiled fun _ => .error (.refused ⟨some 500, none⟩)).sights "n2"
          (.opened ⟨60, none⟩) (neighbourhood.filter (·.concerns "n2"))).map Sight.withoutStart ∧
      (neighbours.sights "n2" (.opened ⟨60, none⟩) neighbourhood).map
          (fun sight => sight.record.map fun record => (record.phase, record.scheduledFor)) =
        [some (.scheduled, some 60), some (.failed, some 60), some (.failed, some 60)] ∧
      ((neighbours.refiled fun _ => .error (.refused ⟨some 500, none⟩)).sights "n2"
          (.opened ⟨60, none⟩) (neighbourhood.filter (·.concerns "n2"))).map
          (fun sight => sight.record.map fun record => (record.phase, record.scheduledFor)) =
        [some (.scheduled, some 0), some (.failed, some 0), some (.failed, some 0)] := by
  have mild : neighbours.IsMild := fun _ => Work.atMostRefused_ok ()
  have also_mild : (neighbours.refiled fun _ => .error (.refused ⟨some 500, none⟩)).IsMild :=
    fun _ => Work.atMostRefused_refused _
  have shown : (neighbours.after (.opened ⟨60, none⟩) neighbourhood).Shown "n2" :=
    shown_of_isShown (by decide +kernel)
  have also_shown : ((neighbours.refiled fun _ => .error (.refused ⟨some 500, none⟩)).after
      (.opened ⟨60, none⟩) (neighbourhood.filter (·.concerns "n2"))).Shown "n2" :=
    shown_of_isShown (by decide +kernel)
  refine ⟨(isolated mild also_mild ⟨60, none⟩ neighbourhood "n2" shown also_shown).2, ?_, ?_⟩
  · decide +kernel
  · decide +kernel

end Circumstances

end Evacuation
