import Evacuation.Proofs.Office.DispatchPaths
import Evacuation.Proofs.Office.Trails
/-!
# What comes right before a request

Two requests come only right after another one: a timer is set up right after its drain was booked,
at the place and with the interval that the booking answered, and the beginning of a cordon is
announced right after the node was found without a record. `Control.InOrder` says so of a request and
the exchange before it, and every cause has a program that keeps to it (`Cause.inOrder`). In a run,
who sets a timer up has booked it (`Run.booked_of_arm`).
-/
namespace Evacuation

variable {T : Type}

namespace Control

/-- A request may come right after an exchange, or before any exchange. -/
def InOrder (last : Option (Exchange (Control T))) : Request T → Prop
  | .arm timer interval => ∃ node appointment,
      last = some ⟨.transact (.book node), .ok appointment⟩ ∧
        appointment.timer = timer ∧ appointment.interval = interval
  | .announce .cordonStarting node _ => ∃ failed,
      last = some ⟨.transact (.look node), (false, failed)⟩
  | _ => True

/-- A silent request may come at any time. -/
theorem inOrder_of_isSilent {request : Request T} (silent : request.isSilent = true)
    (last : Option (Exchange (Control T))) : InOrder last request := by
  unfold Request.isSilent at silent
  split at silent <;> trivial

/-- The program asks for things in their order, after an exchange or none. -/
abbrev Orderly {α : Type} (last : Option (Exchange (Control T))) (program : Controlling T α) : Prop :=
  program.OnlyAfter InOrder last

section Rules

variable {α : Type} {last : Option (Exchange (Control T))}

theorem Silent.orderly {program : Controlling T α} (silent : Silent program) : Orderly last program :=
  .of_only (silent.mono fun _ => inOrder_of_isSilent) last

theorem orderly_announcing {stage : Stage} (node message : String)
    {rest : Controlling T (Except Failure α)} (first : InOrder (T := T) last (.announce stage node message))
    (onward : ∀ last, Orderly last rest) :
    Orderly last (announcing stage node message rest) := by
  refine ⟨first, fun reply => ?_⟩
  cases reply with
  | error failure => trivial
  | ok value => exact onward _

theorem orderly_concludeDrain (node : Node) (record : Nat) (drained : Except Failure DrainReport) :
    Orderly last (concludeDrain (T := T) node record drained) := by
  unfold concludeDrain
  obtain ⟨retries, error⟩ := ending drained
  refine ⟨trivial, fun _ => ?_⟩
  dsimp only
  split
  · exact ⟨trivial, fun _ => orderly_announcing _ _ trivial fun _ => trivial⟩
  · exact ⟨trivial, fun _ => orderly_announcing _ _ trivial fun _ => trivial⟩

theorem orderly_runDrain (node : Node) (record : Nat) :
    Orderly last (runDrain (T := T) node record) := by
  refine ⟨trivial, fun begun => ?_⟩
  cases begun with
  | false => trivial
  | true =>
    refine orderly_announcing _ _ trivial fun _ => ⟨trivial, fun drained => ?_⟩
    exact orderly_concludeDrain node record drained

end Rules

variable [TimeScale T] {last : Option (Exchange (Control T))}

/-- To schedule a drain is to book it and then to set up the timer that was booked. -/
theorem orderly_schedule (node : Node) : Orderly last (schedule (T := T) node) := by
  refine ⟨trivial, fun reply => ?_⟩
  cases reply with
  | error failure => trivial
  | ok appointment =>
    refine ⟨⟨node, appointment, rfl, rfl, rfl⟩, fun _ => ⟨trivial, fun _ => ?_⟩⟩
    dsimp only
    split
    · trivial
    · exact orderly_announcing _ _ trivial fun _ => trivial

/-- A node is cordoned right after it was found without a record. -/
theorem orderly_handleNode (node : Node) : Orderly last (handleNode (T := T) node) := by
  refine ⟨trivial, fun ⟨known, failed⟩ => ?_⟩
  cases known with
  | true => trivial
  | false =>
    refine orderly_announcing _ _ ⟨failed, rfl⟩ fun _ => ⟨trivial, fun cordoned => ?_⟩
    obtain failure | ⟨⟩ := cordoned
    · cases failure with
      | cordon name refusal =>
        exact ⟨trivial, fun _ => orderly_announcing _ _ trivial fun _ => trivial⟩
      | _ => trivial
    · refine ⟨trivial, fun _ => orderly_announcing _ _ trivial fun _ => ?_⟩
      refine (orderly_schedule node).bind fun value _ => ?_
      split <;> trivial

theorem orderly_react (notification : Notification) :
    Orderly last (react (T := T) notification) := by
  unfold react
  dsimp only
  split
  · exact (silent_departure _).orderly
  · refine ⟨trivial, fun verdict => ?_⟩
    cases verdict with
    | none => exact orderly_handleNode notification.node
    | some filter => exact (silent_rejection _ filter).orderly

theorem Command.orderly_program (command : Command) :
    Orderly none (command.program (T := T)) := by
  cases command with
  | handle node => exact orderly_handleNode node
  | schedule node => exact (orderly_schedule node).bind fun _ _ => trivial
  | delete node => exact (silent_deleteSchedule node).orderly.bind fun _ _ => trivial
  | clear node => exact (silent_clearIfHealthy node).orderly.bind fun _ _ => trivial
  | stop => exact silent_stop.orderly.bind fun _ _ => trivial
  | dispatch notification =>
    refine ((orderly_react notification).bind fun outcome _ => ?_).bind fun _ _ => trivial
    exact (silent_complaint outcome _).orderly

end Control

variable [TimeScale T]

/-- The program of every cause asks for things in their order. -/
theorem Cause.inOrder (cause : Cause) : Control.Orderly none (cause.program (T := T)) := by
  cases cause with
  | command given => exact given.orderly_program
  | timer _ node record => exact Control.orderly_runDrain node record

namespace Office

variable {controller : Controller T} {buffer : DrainBuffer T} {office : Office T}

/-- Who sets a timer up has booked it before, with the interval. -/
theorem Run.booked_of_arm {before after : List (Deed T)} {clerk : Nat} {cause : Cause}
    {timer : Nat} {interval : T} {reply : (Control T).Reply (.arm timer interval)}
    (run : Run controller (opened buffer)
      (before ++ .asked clerk cause ⟨.arm timer interval, reply⟩ :: after) office) :
    ∃ node appointment, .asked clerk cause ⟨.transact (.book node), .ok appointment⟩ ∈ before ∧
      appointment.timer = timer ∧ appointment.interval = interval := by
  obtain ⟨start, later, earlier, step, _⟩ := run.step_of_append
  obtain ⟨now, next, found, _⟩ := step.of_asked
  have reached := earlier.logged.reaches found
  obtain ⟨node, appointment, last, same, waits⟩ := cause.inOrder.of_reaches reached
  rw [Option.or_none] at last
  obtain ⟨first, rest, _, _, split, _⟩ :=
    earlier.of_mem_log found rfl (List.mem_of_getLast? last)
  have booked : .asked clerk cause ⟨.transact (.book node), .ok appointment⟩ ∈ before := by
    rw [split]
    exact List.mem_append_right first (.head rest)
  exact ⟨node, appointment, booked, same, waits⟩

end Office

end Evacuation
