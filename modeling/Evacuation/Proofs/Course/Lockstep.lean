import Evacuation.Proofs.Course.Twins
/-!
# Programs in lockstep

Two programs are tied if, worked through in courses in step, they come to alike values and leave the
courses in step. The rules follow the structure of programs: what is done, one program after the
other, a request that is answered alike. A dispatch is tied to itself (`Control.tied_dispatch`),
although the starts it books may differ, as long as they can be shown. The drains for two places are
run alike if each place is that of the current record, or neither is (`Control.inStep_runDrain`).
-/
namespace Evacuation

open Course Circumstances

variable {T : Type} [TimeScale T] {α β γ δ : Type}

/-- Two programs, worked through in courses in step, come to alike values and leave the courses in
step, provided that the starts that the node has by then can be shown. -/
def Circumstances.Tied (circumstances : Circumstances T) (filing : List Sign → Except Failure Unit)
    (name : String) (clock : Nat → T) (alike : α → β → Prop) (program : Controlling T α)
    (other : Controlling T β) : Prop :=
  ∀ first second, InStep name first second →
    (program.run (circumstances.answer clock) first).2.Shown name →
    (other.run ((circumstances.refiled filing).answer clock) second).2.Shown name →
    alike (program.run (circumstances.answer clock) first).1
        (other.run ((circumstances.refiled filing).answer clock) second).1 ∧
      InStep name (program.run (circumstances.answer clock) first).2
        (other.run ((circumstances.refiled filing).answer clock) second).2

namespace Circumstances.Tied

variable {circumstances : Circumstances T} {filing : List Sign → Except Failure Unit}
  {clock : Nat → T} {name : String}

theorem done {alike : α → β → Prop} {value : α} {other : β} (same : alike value other) :
    circumstances.Tied filing name clock alike (.done value) (.done other) :=
  fun _ _ inStep _ _ => ⟨same, inStep⟩

theorem bind {alike : α → β → Prop} {related : γ → δ → Prop} {program : Controlling T α}
    {other : Controlling T β} {onward : α → Controlling T γ} {further : β → Controlling T δ}
    (tied : circumstances.Tied filing name clock alike program other)
    (rest : ∀ value also, alike value also →
      circumstances.Tied filing name clock related (onward value) (further also)) :
    circumstances.Tied filing name clock related (program.bind onward) (other.bind further) := by
  intro first second inStep shown also_shown
  rw [Program.run_bind] at shown also_shown ⊢
  rw [Program.run_bind]
  obtain ⟨same, between⟩ := tied first second inStep (shown.of_growth (entries_run _ _))
    (also_shown.of_growth (entries_run _ _))
  exact rest _ _ same _ _ between shown also_shown

/-- Requests that are answered alike may be followed by programs that are tied whenever the answers
are alike. -/
theorem ask {related : γ → δ → Prop} {request other : Control.Request T}
    (alike : (Control T).Reply request → (Control T).Reply other → Prop)
    {next : (Control T).Reply request → Controlling T γ}
    {further : (Control T).Reply other → Controlling T δ}
    (answers : ∀ first second, InStep name first second →
      alike (circumstances.answer clock request first).1
          ((circumstances.refiled filing).answer clock other second).1 ∧
        InStep name (circumstances.answer clock request first).2
          ((circumstances.refiled filing).answer clock other second).2)
    (rest : ∀ reply also, alike reply also →
      circumstances.Tied filing name clock related (next reply) (further also)) :
    circumstances.Tied filing name clock related (.ask request next) (.ask other further) := by
  intro first second inStep shown also_shown
  obtain ⟨same, between⟩ := answers first second inStep
  exact rest _ _ same _ _ between shown also_shown

/-- Requests that are nothing to the node may be made, be they the same or not. -/
theorem aside {related : γ → δ → Prop} {request other : Control.Request T}
    {next : (Control T).Reply request → Controlling T γ}
    {further : (Control T).Reply other → Controlling T δ}
    (apart : request.Apart name fun _ => False) (also_apart : other.Apart name fun _ => False)
    (same : request.transactions = other.transactions)
    (rest : ∀ reply also,
      circumstances.Tied filing name clock related (next reply) (further also)) :
    circumstances.Tied filing name clock related (.ask request next) (.ask other further) := by
  refine ask (fun _ _ => True) (fun first second inStep => ⟨trivial, ?_⟩)
    fun reply also _ => rest reply also
  refine ⟨inStep.of_sameFor (sameFor_answer inStep.filed nofun apart)
    (sameFor_answer inStep.also_filed nofun also_apart) (filed_answer inStep.filed)
    (filed_answer inStep.also_filed), ?_⟩
  rw [asked_answer, asked_answer, inStep.asked, same]

variable (mild : circumstances.IsMild) (also_mild : (circumstances.refiled filing).IsMild)
include mild also_mild

/-- A request about the node may be made in both courses. -/
theorem own {related : γ → δ → Prop} {request : Control.Request T}
    {next : (Control T).Reply request → Controlling T γ}
    {further : (Control T).Reply request → Controlling T δ} (own : request.IsOwn name)
    (rest : ∀ reply, circumstances.Tied filing name clock related (next reply) (further reply)) :
    circumstances.Tied filing name clock related (.ask request next) (.ask request further) := by
  refine ask Eq (fun first second inStep => inStep_answer clock mild also_mild own inStep) ?_
  rintro reply _ rfl
  exact rest reply

/-- The same may be announced about the node in both courses, apart from a start. -/
theorem announcing {stage : Stage} {message also : String}
    {rest : Controlling T (Except Failure γ)} {further : Controlling T (Except Failure δ)}
    {related : Except Failure γ → Except Failure δ → Prop}
    (same : (Sign.told (stage.event name message)).withoutStart =
      (Sign.told (stage.event name also)).withoutStart)
    (tied : circumstances.Tied filing name clock related rest further) :
    circumstances.Tied filing name clock related (Control.announcing stage name message rest)
      (Control.announcing stage name also further) := by
  intro first second inStep shown also_shown
  rw [run_announcing mild] at shown ⊢
  rw [run_announcing also_mild] at also_shown ⊢
  exact tied _ _ (inStep.note same rfl) shown also_shown

end Circumstances.Tied

namespace Control

variable {circumstances : Circumstances T} {filing : List Sign → Except Failure Unit}
  {clock : Nat → T}

/-- The program of a booking goes on with what the booking came to. -/
theorem schedule_eq (node : Node) : ∃ next : _ → Controlling T (Except Failure T),
    schedule node = .ask (.transact (.book node)) next ∧
      (∀ failure, next (.error failure) = .done (.error failure)) ∧
      ∀ appointment text, showInstant appointment.start = .ok text →
        next (.ok appointment) =
          .ask (.arm appointment.timer appointment.interval) fun _ =>
            .ask (.start appointment.timer s!"drain-{node.name}") fun _ =>
              announcing .drainScheduled node.name s!"Will drain node after {text}"
                (.done (.ok appointment.start)) := by
  refine ⟨_, rfl, fun _ => rfl, fun appointment text shown => ?_⟩
  refine congrArg (Program.ask _) (funext fun _ => congrArg (Program.ask _) (funext fun _ => ?_))
  rw [shown]
  rfl

variable (mild : circumstances.IsMild) (also_mild : (circumstances.refiled filing).IsMild)
include mild also_mild

/-- What follows a booking that succeeded is tied, though the drains have starts of their own. -/
theorem tied_booked {node : Node} {one other : Appointment T} {text also : String}
    {next : Except Failure (Appointment T) → Controlling T (Except Failure T)}
    (booked : ∀ appointment text, showInstant appointment.start = .ok text →
      next (.ok appointment) =
        .ask (.arm appointment.timer appointment.interval) fun _ =>
          .ask (.start appointment.timer s!"drain-{node.name}") fun _ =>
            announcing .drainScheduled node.name s!"Will drain node after {text}"
              (.done (.ok appointment.start)))
    (shown : showInstant one.start = .ok text) (also_shown : showInstant other.start = .ok also) :
    circumstances.Tied filing node.name clock
      (fun result other => result.map (fun _ => ()) = other.map fun _ => ())
      (next (.ok one)) (next (.ok other)) := by
  rw [booked one text shown, booked other also also_shown]
  refine .aside trivial trivial rfl fun _ _ => .aside trivial trivial rfl fun _ _ => ?_
  exact .announcing mild also_mild rfl (.done rfl)

/-- A drain is scheduled in both courses, each at a start of its own. -/
theorem tied_schedule (node : Node) : circumstances.Tied filing node.name clock
    (fun result other => result.map (fun _ => ()) = other.map fun _ => ())
    (schedule node) (schedule node) := by
  obtain ⟨next, same, refused, booked⟩ := schedule_eq (T := T) node
  rw [same]
  intro first second inStep shown also_shown
  have tracked := inStep.isTracked_eq
  cases known : first.desk.schedule.tracked.contains node.name with
  | true =>
    have one := Schedule.book_of_tracked (clock first.asked) known
    have two := Schedule.book_of_tracked (clock second.asked) (tracked ▸ known)
    have ran := run_of_transact circumstances (.book node) one next
    have also_ran := run_of_transact (circumstances.refiled filing) (.book node) two next
    rw [refused] at ran also_ran
    refine ⟨?_, ?_⟩
    · rw [ran, also_ran]
      rfl
    · rw [ran, also_ran]
      exact inStep.transacted inStep.standing inStep.filed inStep.also_filed
  | false =>
    obtain ⟨appointment, later, one⟩ := Schedule.book_of_untracked (clock first.asked) known
    obtain ⟨other, further, two⟩ := Schedule.book_of_untracked (clock second.asked) (tracked ▸ known)
    have ran := run_of_transact circumstances (.book node) one next
    have also_ran := run_of_transact (circumstances.refiled filing) (.book node) two next
    rw [ran] at shown ⊢
    rw [also_ran] at also_shown ⊢
    have filed := inStep.filed.book (clock first.asked) node
    have also_filed := inStep.also_filed.book (clock second.asked) node
    rw [one] at filed
    rw [two] at also_filed
    have standing : (later.standing node.name).withoutStart =
        (further.standing node.name).withoutStart := by
      rw [inStep.filed.standing_book one, inStep.also_filed.standing_book two, if_pos rfl,
        if_pos rfl]
      exact Standing.withoutStart_book inStep.alarms_eq
    obtain ⟨text, shows⟩ := (shown.of_growth (entries_run _ _)).of_booked one
    obtain ⟨also, also_shows⟩ := (also_shown.of_growth (entries_run _ _)).of_booked two
    exact tied_booked mild also_mild booked shows also_shows _ _
      (inStep.transacted standing filed also_filed) shown also_shown

theorem tied_scheduleOnce (node : Node) :
    circumstances.Tied filing node.name clock Eq (scheduleOnce node) (scheduleOnce node) := by
  have scheduled : circumstances.Tied filing node.name clock
      (fun result other => result.map (fun _ => ()) = other.map fun _ => ())
      (schedule node) (schedule node) := tied_schedule mild also_mild node
  show circumstances.Tied filing node.name clock Eq ((schedule node).bind _) ((schedule node).bind _)
  refine scheduled.bind fun result other alike => ?_
  cases result with
  | error failure =>
    cases other with
    | error also =>
      cases alike
      cases failure <;> exact .done rfl
    | ok start => cases alike
  | ok start =>
    cases other with
    | error failure => cases alike
    | ok also => exact .done rfl

/-- What is done about an unhealthy node is tied: the cordon comes to the same, and so does what
follows it. -/
theorem tied_handleNode (node : Node) :
    circumstances.Tied filing node.name clock Eq (handleNode node) (handleNode node) := by
  refine .own mild also_mild rfl fun (known, failed) => ?_
  cases known with
  | true => exact .done rfl
  | false =>
    refine .announcing mild also_mild rfl (.own mild also_mild rfl fun cordoned => ?_)
    cases cordoned with
    | error failure =>
      cases failure with
      | cordon name refusal =>
        refine .own mild also_mild trivial fun _ => ?_
        exact .announcing mild also_mild rfl (.done rfl)
      | _ => exact .done rfl
    | ok value =>
      refine .own mild also_mild trivial fun _ => ?_
      exact .announcing mild also_mild rfl (tied_scheduleOnce mild also_mild node)

omit mild also_mild in
/-- A node that has left is forgotten in both courses. -/
theorem tied_forget {name : String} {next : Option Nat → Controlling T α}
    {alike : α → α → Prop}
    (none_armed : circumstances.Tied filing name clock alike (next none) (next none))
    (armed : ∀ timer other,
      circumstances.Tied filing name clock alike (next (some timer)) (next (some other))) :
    circumstances.Tied filing name clock alike (.ask (.transact (.forget name)) next)
      (.ask (.transact (.forget name)) next) := by
  intro first second inStep shown also_shown
  have between : InStep name (first.transacted (first.desk.schedule.forget name).2)
      (second.transacted (second.desk.schedule.forget name).2) := by
    refine inStep.transacted ?_ (inStep.filed.transact (clock 0) (.forget name))
      (inStep.also_filed.transact (clock 0) (.forget name))
    rw [Schedule.standing_forget, Schedule.standing_forget, if_pos rfl, if_pos rfl]
    exact congrArg (fun standing => { standing.drop with isArmed := false }) inStep.standing
  have rest (one other : Option Nat) (same : one.isSome = other.isSome) :
      circumstances.Tied filing name clock alike (next one) (next other) := by
    cases one with
    | none =>
      cases other with
      | none => exact none_armed
      | some timer => cases same
    | some timer =>
      cases other with
      | none => cases same
      | some also => exact armed timer also
  exact rest _ _ inStep.isArmed_eq _ _ between shown also_shown

theorem tied_dispatch (notification : Notification) :
    circumstances.Tied filing notification.node.name clock Eq
      (Command.dispatch notification).program (Command.dispatch notification).program := by
  cases departs : notification.isDeparture with
  | true =>
    rw [dispatch_of_departure departs]
    refine tied_forget ?_ fun timer other => ?_
    · exact .own mild also_mild rfl fun _ => .done rfl
    · exact .aside trivial trivial rfl fun _ _ => .own mild also_mild rfl fun _ => .done rfl
  | false =>
    rw [dispatch_of_stays departs]
    refine .own mild also_mild rfl fun verdict => ?_
    have followed : circumstances.Tied filing notification.node.name clock Eq
        (followUp notification.node verdict) (followUp notification.node verdict) := by
      cases verdict with
      | none => exact tied_handleNode mild also_mild notification.node
      | some filter =>
        by_cases healthy : filter.isCondition = true
        · simp only [followUp, if_pos healthy]
          exact .own mild also_mild rfl fun _ => .done rfl
        · simp only [followUp, if_neg healthy]
          exact .done rfl
    refine followed.bind fun result other same => ?_
    subst same
    cases result with
    | ok value => exact .done rfl
    | error failure => exact .own mild also_mild trivial fun _ => .done rfl

/-- The end of a drain is written down, counted and announced in both courses, if its record is the
current one in both. -/
theorem inStep_concludeDrain {node : Node} {one other : Nat} {first second : Course T}
    (drained : Except Failure DrainReport) (inStep : InStep node.name first second)
    (current : first.desk.schedule.isCurrent node.name one = true)
    (also_current : second.desk.schedule.isCurrent node.name other = true)
    (shown : ((concludeDrain node one drained).run
      (circumstances.answer clock) first).2.Shown node.name)
    (also_shown : ((concludeDrain node other drained).run
      ((circumstances.refiled filing).answer clock) second).2.Shown node.name) :
    InStep node.name ((concludeDrain node one drained).run (circumstances.answer clock) first).2
      ((concludeDrain node other drained).run
        ((circumstances.refiled filing).answer clock) second).2 := by
  rw [concludeDrain_eq] at shown also_shown ⊢
  have finished : InStep node.name
      (circumstances.answer clock
        (.transact (.finish one (ending drained).1 (ending drained).2)) first).2
      ((circumstances.refiled filing).answer clock
        (.transact (.finish other (ending drained).1 (ending drained).2)) second).2 := by
    refine inStep_transact inStep ?_
    have written := Schedule.standing_finish current (clock first.asked) (ending drained).1
      (ending drained).2
    have also_written := Schedule.standing_finish also_current (clock second.asked)
      (ending drained).1 (ending drained).2
    refine (congrArg Standing.withoutStart written).trans
      (Eq.trans ?_ (congrArg Standing.withoutStart also_written).symm)
    rw [Standing.withoutStart_finish, Standing.withoutStart_finish, inStep.standing, inStep.asked]
  have rest : circumstances.Tied filing node.name clock Eq
      (if DrainRecord.isFault (ending drained).2 then
        ask (.count .drained .failed) >>= fun _ => announcing .drainFailed node.name
          ("Draining failed: " ++ (ending drained).2.getD "") (return .ok ())
      else
        ask (.count .drained .succeeded) >>= fun _ =>
          announcing .drainSucceeded node.name "Drained node" (return .ok ()))
      (if DrainRecord.isFault (ending drained).2 then
        ask (.count .drained .failed) >>= fun _ => announcing .drainFailed node.name
          ("Draining failed: " ++ (ending drained).2.getD "") (return .ok ())
      else
        ask (.count .drained .succeeded) >>= fun _ =>
          announcing .drainSucceeded node.name "Drained node" (return .ok ())) := by
    split
    · refine .own mild also_mild trivial fun _ => ?_
      exact .announcing mild also_mild rfl (.done rfl)
    · refine .own mild also_mild trivial fun _ => ?_
      exact .announcing mild also_mild rfl (.done rfl)
  exact (rest _ _ finished shown also_shown).2

/-- A drain is carried out and comes to its end in both courses. -/
theorem inStep_execute {node : Node} {one other : Nat} {first second : Course T}
    (inStep : InStep node.name first second)
    (current : first.desk.schedule.isCurrent node.name one = true)
    (also_current : second.desk.schedule.isCurrent node.name other = true)
    (shown : (Program.run (I := Control T) (circumstances.answer clock)
      (.ask (.drain node) fun drained => concludeDrain node one drained) first).2.Shown node.name)
    (also_shown : (Program.run (I := Control T) ((circumstances.refiled filing).answer clock)
      (.ask (.drain node) fun drained => concludeDrain node other drained)
      second).2.Shown node.name) :
    InStep node.name
      (Program.run (I := Control T) (circumstances.answer clock)
        (.ask (.drain node) fun drained => concludeDrain node one drained) first).2
      (Program.run (I := Control T) ((circumstances.refiled filing).answer clock)
        (.ask (.drain node) fun drained => concludeDrain node other drained) second).2 := by
  have own : (Request.drain node : Request T).IsOwn node.name := rfl
  have answers : circumstances.fortune.drain node (first.signs.countP (·.isDrainOf node.name)) =
      circumstances.fortune.drain node (second.signs.countP (·.isDrainOf node.name)) ∧
        InStep node.name (first.note (.drained node)) (second.note (.drained node)) :=
    inStep_answer clock mild also_mild own inStep
  obtain ⟨same, drained⟩ := answers
  have ran := run_of_answer (rfl : circumstances.answer clock (.drain node) first = _)
    (fun drained => concludeDrain node one drained)
  have also_ran := run_of_answer (Prod.ext same.symm rfl :
    (circumstances.refiled filing).answer clock (.drain node) second =
      (circumstances.fortune.drain node (first.signs.countP (·.isDrainOf node.name)),
        second.note (.drained node))) (fun drained => concludeDrain node other drained)
  rw [ran] at shown ⊢
  rw [also_ran] at also_shown ⊢
  exact inStep_concludeDrain mild also_mild _ drained current also_current shown also_shown

omit [TimeScale T] mild also_mild in
/-- The program of a drain goes on if its record is the current one. -/
theorem runDrain_eq (node : Node) (record : Nat) :
    ∃ next : Bool → Controlling T (Except Failure Unit),
    runDrain node record = .ask (.transact (.launch node.name record)) next ∧
      next false = .done (.ok ()) ∧
      next true = announcing .drainStarting node.name "Draining node"
        (.ask (.drain node) fun drained => concludeDrain node record drained) :=
  ⟨_, rfl, rfl, rfl⟩

/-- The drain of a node runs alike in both courses, if its record is the current one in both or in
neither. -/
theorem inStep_runDrain {node : Node} {one other : Nat} {first second : Course T}
    (inStep : InStep node.name first second)
    (same : first.desk.schedule.isCurrent node.name one =
      second.desk.schedule.isCurrent node.name other)
    (shown : ((runDrain node one).run (circumstances.answer clock) first).2.Shown node.name)
    (also_shown : ((runDrain node other).run
      ((circumstances.refiled filing).answer clock) second).2.Shown node.name) :
    InStep node.name ((runDrain node one).run (circumstances.answer clock) first).2
      ((runDrain node other).run ((circumstances.refiled filing).answer clock) second).2 := by
  obtain ⟨next, program, dismissed, begun⟩ := runDrain_eq (T := T) node one
  obtain ⟨further, also_program, also_dismissed, also_begun⟩ := runDrain_eq (T := T) node other
  rw [program] at shown ⊢
  rw [also_program] at also_shown ⊢
  cases current : first.desk.schedule.isCurrent node.name one with
  | false =>
    have also_current := same.symm.trans current
    have ran := run_of_transact circumstances (.launch node.name one)
      (Schedule.launch_of_not_current (clock first.asked) current) next
    have also_ran := run_of_transact (circumstances.refiled filing) (.launch node.name other)
      (Schedule.launch_of_not_current (clock second.asked) also_current) further
    rw [ran, also_ran, dismissed, also_dismissed]
    exact inStep.transacted inStep.standing inStep.filed inStep.also_filed
  | true =>
    have also_current := same.symm.trans current
    obtain ⟨later, launched, filed, stays, standing⟩ :=
      inStep.filed.launch_of_current (clock first.asked) current
    obtain ⟨also_later, also_launched, also_filed, also_stays, also_standing⟩ :=
      inStep.also_filed.launch_of_current (clock second.asked) also_current
    have ran := run_of_transact circumstances (.launch node.name one) launched next
    have also_ran := run_of_transact (circumstances.refiled filing) (.launch node.name other)
      also_launched further
    rw [ran, begun, run_announcing mild] at shown ⊢
    rw [also_ran, also_begun, run_announcing also_mild] at also_shown ⊢
    have begins : InStep node.name (first.transacted later) (second.transacted also_later) := by
      refine inStep.transacted ?_ filed also_filed
      rw [standing, also_standing, Standing.withoutStart_launch, Standing.withoutStart_launch,
        inStep.standing, inStep.asked]
    exact inStep_execute mild also_mild (begins.note rfl rfl) stays also_stays shown also_shown

end Control

end Evacuation
