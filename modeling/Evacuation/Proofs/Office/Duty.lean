import Evacuation.Proofs.Office.Basic
/-!
# Duties

What a clerk still owes to the timers and records of the schedule is its duty: a timer that was made
for a drain must be started, the timers of dropped records must be cancelled, a drain for which a
timer went off must be begun if its record still stands, and one that was begun must be carried out
once and then concluded.
The rules say which requests a duty allows and what is owed after the reply. The main statement is
that the program of every cause keeps to the rules, whatever it is replied
(`Cause.follows_program`); the sharing of the desk among clerks is reasoned about with duties alone.
-/
namespace Evacuation

/-- What a clerk still owes to the schedule. -/
inductive Duty where
  /-- Nothing is owed; a command may go on in any way. -/
  | free
  /-- A timer is to be started. -/
  | start (timer : Nat)
  /-- Timers are to be cancelled, one after another. -/
  | cancel (timer : Nat) (others : List Nat)
  /-- The drain of a node is to be begun for a record. -/
  | launch (node : String) (record : Nat)
  /-- The drain that was begun for a record is to be carried out. -/
  | execute (record : Nat)
  /-- The drain that was carried out for a record is to be concluded. -/
  | conclude (record : Nat)
  /-- The record of the drain was dropped, and nothing is left to be done. -/
  | dismissed
  /-- The drain was concluded, and is still to be counted and announced. -/
  | concluded
  deriving DecidableEq

namespace Duty

variable {T : Type}

/-- The duty to cancel timers. -/
def ofTimers : List Nat → Duty
  | [] => free
  | timer :: others => cancel timer others

/-- An announcement may be made, and a program may end if that fails. -/
inductive MaySpeak : Duty → Prop where
  | free : MaySpeak free
  | execute (record : Nat) : MaySpeak (execute record)
  | concluded : MaySpeak concluded

/-- A program may end with the duty; a failed announcement can leave a drain undone. -/
inductive MayEnd : Duty → Prop where
  | speak {duty : Duty} (speaks : duty.MaySpeak) : MayEnd duty
  | dismissed : MayEnd dismissed

/-- Nothing is owed. -/
inductive IsFree : Duty → Prop where
  | free : IsFree free

/-- Requests that a duty allows, with the reply and the duty after it. -/
inductive Allows : Duty → (request : Control.Request T) → (Control T).Reply request → Duty → Prop
    where
  | look (node : String) (reply : Bool × Bool) : Allows free (.transact (.look node)) reply free
  | booked (node : Node) (appointment : Appointment T) :
      Allows free (.transact (.book node)) (.ok appointment) (start appointment.timer)
  | unbooked (node : Node) (failure : Failure) :
      Allows free (.transact (.book node)) (.error failure) free
  | arm (timer : Nat) (interval : T) : Allows (start timer) (.arm timer interval) () (start timer)
  | start (timer : Nat) (label : String) : Allows (start timer) (.start timer label) () free
  | forget (node : String) (reply : Option Nat) :
      Allows free (.transact (.forget node)) reply (ofTimers reply.toList)
  | clear (node : String) (reply : Bool) : Allows free (.transact (.clear node)) reply free
  | halt (reply : List Nat) : Allows free (.transact .halt) reply (ofTimers reply)
  | cancel (timer : Nat) (others : List Nat) :
      Allows (cancel timer others) (.cancel timer) () (ofTimers others)
  | launched (node : String) (record : Nat) :
      Allows (launch node record) (.transact (.launch node record)) true (execute record)
  | dismissed (node : String) (record : Nat) :
      Allows (launch node record) (.transact (.launch node record)) false dismissed
  | drain (record : Nat) (node : Node) (reply : Except Failure DrainReport) :
      Allows (execute record) (.drain node) reply (conclude record)
  | finish (record : Nat) (retries : Int) (error : Option String) :
      Allows (conclude record) (.transact (.finish record retries error)) () concluded
  | announce {duty : Duty} (speaks : duty.MaySpeak) (stage : Stage) (node message : String)
      (reply : Except Failure Unit) : Allows duty (.announce stage node message) reply duty
  | cordon (node : Node) (reply : Except Failure Unit) : Allows free (.cordon node) reply free
  | countCordon (success : Success) : Allows free (.count .cordoned success) () free
  | countDrain (success : Success) : Allows concluded (.count .drained success) () concluded
  | screen (node : Node) (reply : Option NodeFilter) : Allows free (.screen node) reply free
  | release (node : String) : Allows free (.release node) () free
  | complain (message : String) : Allows free (.complain message) () free

namespace Allows

variable {request : (Control T).Request} {reply : (Control T).Reply request} {later : Duty}

/-- Who was dismissed asks nothing. -/
theorem not_dismissed : ¬ Allows .dismissed request reply later := by
  intro allowed
  cases allowed with
  | announce speaks => cases speaks

/-- Who is to begin a drain asks for that first. -/
theorem of_launch {node : String} {record : Nat}
    (allowed : Allows (.launch node record) request reply later) :
    ∃ begun, (⟨request, reply⟩ : Exchange (Control T)) =
      ⟨.transact (.launch node record), begun⟩ := by
  cases allowed with
  | launched => exact ⟨true, rfl⟩
  | dismissed => exact ⟨false, rfl⟩
  | announce speaks => cases speaks

end Allows

/-- A program that has a duty keeps to the rules and ends with a duty that is allowed. -/
def Follows {α : Type} (ends : Duty → Prop) : Controlling T α → Duty → Prop
  | .done _, duty => ends duty
  | .ask request next, duty =>
    ∀ reply, ∃ later, Allows duty request reply later ∧ Follows ends (next reply) later

variable {α β : Type} {ends goal : Duty → Prop}

/-- A program that keeps to the rules may be followed by one that does from there. -/
theorem follows_bind {program : Controlling T α} {rest : α → Controlling T β} {duty : Duty}
    (first : Follows goal program duty)
    (onward : ∀ value later, goal later → Follows ends (rest value) later) :
    Follows ends (program.bind rest) duty := by
  induction program generalizing duty with
  | done value => exact onward value duty first
  | ask request next ih =>
    intro reply
    obtain ⟨later, allowed, follows⟩ := first reply
    exact ⟨later, allowed, ih reply follows⟩

/-- The duties with which a program may end can be widened. -/
theorem follows_mono {program : Controlling T α} {duty : Duty} (wider : ∀ duty, goal duty → ends duty)
    (follows : Follows goal program duty) : Follows ends program duty := by
  rw [← Program.bind_done program]
  exact follows_bind follows fun _ later ended => wider later ended

end Duty

namespace Control

open Duty

section Rules

variable {T α β : Type} {ends : Duty → Prop} {duty : Duty}

/-- A program that asks first keeps to the rules if it does so whatever it is replied. -/
theorem follows_ask_bind {request : Request T} {rest : (Control T).Reply request → Controlling T α}
    (onward : ∀ reply, ∃ later, Allows duty request reply later ∧ Follows ends (rest reply) later) :
    Follows ends (ask request >>= rest) duty := onward

/-- A program that returns ends with the duty it has. -/
theorem follows_pure {value : α} (ended : ends duty) :
    Follows ends (pure value : Controlling T α) duty := ended

/-- An announcement leaves the duty as it is, whether it fails or not. -/
theorem follows_announcing (speaks : duty.MaySpeak) (ended : ends duty) (stage : Stage)
    (node message : String) {rest : Controlling T (Except Failure α)}
    (onward : Follows ends rest duty) :
    Follows ends (announcing stage node message rest) duty := by
  refine follows_ask_bind fun reply => ⟨duty, .announce speaks _ _ _ _, ?_⟩
  cases reply with
  | error failure => exact follows_pure ended
  | ok value => exact onward

theorem follows_deleteSchedule (node : String) :
    Follows IsFree (deleteSchedule (T := T) node) free := by
  refine follows_ask_bind fun armed => ⟨ofTimers armed.toList, .forget _ _, ?_⟩
  cases armed with
  | none => exact follows_pure .free
  | some timer => exact fun _ => ⟨free, .cancel _ _, .free⟩

theorem follows_clearIfHealthy (node : String) :
    Follows IsFree (clearIfHealthy (T := T) node) free :=
  fun _ => ⟨free, .clear _ _, .free⟩

/-- Timers that are to be cancelled are cancelled one after another. -/
theorem follows_cancelAll (timers : List Nat) :
    Follows IsFree (cancelAll (T := T) timers) (ofTimers timers) := by
  induction timers with
  | nil => exact follows_pure .free
  | cons timer others ih =>
    exact follows_ask_bind fun _ => ⟨ofTimers others, .cancel _ _, ih⟩

theorem follows_stop : Follows IsFree (stop (T := T)) free :=
  follows_ask_bind fun timers => ⟨ofTimers timers, .halt _, follows_cancelAll timers⟩

/-- A drain that was carried out is concluded, counted and announced. -/
theorem follows_concludeDrain (node : Node) (record : Nat) (drained : Except Failure DrainReport) :
    Follows MayEnd (concludeDrain (T := T) node record drained) (conclude record) := by
  unfold concludeDrain
  obtain ⟨retries, error⟩ := ending drained
  refine follows_ask_bind fun _ => ⟨concluded, .finish _ _ _, ?_⟩
  split
  · exact follows_ask_bind fun _ => ⟨concluded, .countDrain _,
      follows_announcing .concluded (.speak .concluded) _ _ _ (follows_pure (.speak .concluded))⟩
  · exact follows_ask_bind fun _ => ⟨concluded, .countDrain _,
      follows_announcing .concluded (.speak .concluded) _ _ _ (follows_pure (.speak .concluded))⟩

/-- A drain is begun for its record or dismissed, and one that was begun is carried out and concluded
unless its first announcement fails. -/
theorem follows_runDrain (node : Node) (record : Nat) :
    Follows MayEnd (runDrain (T := T) node record) (launch node.name record) := by
  unfold runDrain
  refine follows_ask_bind fun begun => ?_
  cases begun with
  | false => exact ⟨dismissed, .dismissed _ _, follows_pure .dismissed⟩
  | true =>
    refine ⟨execute record, .launched _ _, ?_⟩
    refine follows_announcing (.execute record) (.speak (.execute record)) _ _ _ ?_
    exact follows_ask_bind fun drained => ⟨conclude record, .drain _ _ _,
      follows_concludeDrain node record drained⟩

end Rules

variable {T : Type} [TimeScale T]

/-- Booking starts the timer it made and owes nothing in the end. -/
theorem follows_schedule (node : Node) : Follows IsFree (schedule (T := T) node) free := by
  unfold schedule
  refine follows_ask_bind fun booked => ?_
  cases booked with
  | error failure => exact ⟨free, .unbooked _ _, follows_pure .free⟩
  | ok appointment =>
    refine ⟨start appointment.timer, .booked _ _, ?_⟩
    refine follows_ask_bind fun _ => ⟨_, .arm _ _, ?_⟩
    refine follows_ask_bind fun _ => ⟨free, .start _ _, ?_⟩
    split
    · exact follows_pure .free
    · exact follows_announcing .free .free _ _ _ (follows_pure .free)

theorem follows_scheduleOnce (node : Node) :
    Follows IsFree (scheduleOnce (T := T) node) free := by
  refine follows_bind (follows_schedule node) ?_
  rintro value _ ⟨⟩
  split <;> exact follows_pure .free

theorem follows_handleNode (node : Node) : Follows IsFree (handleNode (T := T) node) free := by
  unfold handleNode
  refine follows_ask_bind fun known => ⟨free, .look _ _, ?_⟩
  split
  · exact follows_pure .free
  · refine follows_announcing .free .free _ _ _ ?_
    refine follows_ask_bind fun cordoned => ⟨free, .cordon _ _, ?_⟩
    split
    · exact follows_ask_bind fun _ => ⟨free, .countCordon _,
        follows_announcing .free .free _ _ _ (follows_pure .free)⟩
    · exact follows_pure .free
    · exact follows_ask_bind fun _ => ⟨free, .countCordon _,
        follows_announcing .free .free _ _ _ (follows_scheduleOnce node)⟩

theorem follows_react (notification : Notification) :
    Follows IsFree (react (T := T) notification) free := by
  unfold react
  dsimp only
  split
  · refine follows_bind (follows_deleteSchedule notification.node.name) ?_
    rintro _ _ ⟨⟩
    exact follows_ask_bind fun _ => ⟨free, .release _, follows_pure .free⟩
  · refine follows_ask_bind fun verdict => ⟨free, .screen _ _, ?_⟩
    split
    · exact follows_handleNode notification.node
    · split
      · refine follows_bind (follows_clearIfHealthy notification.node.name) ?_
        rintro _ _ ⟨⟩
        exact follows_pure .free
      · exact follows_pure .free

theorem follows_dispatch (notification : Notification) :
    Follows IsFree (dispatch (T := T) notification) free := by
  refine follows_bind (follows_react notification) ?_
  rintro value _ ⟨⟩
  split
  · exact follows_pure .free
  · exact fun _ => ⟨free, .complain _, .free⟩

/-- Every command owes nothing in the beginning and in the end. -/
theorem Command.follows_program (command : Command) :
    Follows IsFree (command.program (T := T)) free := by
  cases command with
  | handle node => exact follows_handleNode node
  | schedule node =>
    refine follows_bind (follows_schedule node) ?_
    rintro _ _ ⟨⟩
    exact follows_pure .free
  | delete node =>
    refine follows_bind (follows_deleteSchedule node) ?_
    rintro _ _ ⟨⟩
    exact follows_pure .free
  | clear node =>
    refine follows_bind (follows_clearIfHealthy node) ?_
    rintro _ _ ⟨⟩
    exact follows_pure .free
  | stop =>
    refine follows_bind follows_stop ?_
    rintro _ _ ⟨⟩
    exact follows_pure .free
  | dispatch notification =>
    refine follows_bind (follows_dispatch notification) ?_
    rintro _ _ ⟨⟩
    exact follows_pure .free

end Control

/-- The duty with which a cause begins. -/
def Cause.duty : Cause → Duty
  | command _ => .free
  | timer _ node record => .launch node.name record

/-- The program of every cause keeps to the rules. -/
theorem Cause.follows_program {T : Type} [TimeScale T] (cause : Cause) :
    Duty.Follows Duty.MayEnd (cause.program (T := T)) cause.duty := by
  cases cause with
  | command given =>
    refine Duty.follows_mono ?_ (given.follows_program (T := T))
    rintro _ ⟨⟩
    exact .speak .free
  | timer _ node record => exact Control.follows_runDrain node record

end Evacuation
