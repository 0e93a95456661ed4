import Evacuation.Proofs.Office.Basic
import Evacuation.Proofs.Office.DrainPaths
/-!
# Paths through a dispatch

When the dispatch of a notification asks for a cordon or books a drain, and what it has been
answered by then: no filter dropped the node and the node had no record, and before the booking the
cordon came back without failure (`Control.asks_dispatch`). A dispatch never drains; a timer drains
its own node at most (`Control.asks_runDrain`), and to stop asks for neither.
-/
namespace Evacuation

variable {T : Type}

namespace Control

/-- A request that neither cordons nor drains a node nor books a drain. -/
def Request.isPlain : Request T → Bool
  | .cordon _ | .drain _ | .transact (.book _) => false
  | _ => true

/-- A request by which nothing is told about a node, and no drain is taken any further. -/
def Request.isSilent : Request T → Bool
  | .transact (.look _) | .transact (.forget _) | .transact (.clear _) | .transact .halt
  | .cancel _ | .screen _ | .release _ | .complain _ => true
  | _ => false

theorem Request.isPlain_of_isSilent {request : Request T} (silent : request.isSilent = true) :
    request.isPlain = true := by
  unfold isSilent at silent
  split at silent <;> trivial

/-- The program asks for nothing but plain requests. -/
abbrev Plain {α : Type} (program : Controlling T α) : Prop :=
  program.Only (Request.isPlain · = true)

/-- The program asks for nothing but silent requests. -/
abbrev Silent {α : Type} (program : Controlling T α) : Prop :=
  program.Only (Request.isSilent · = true)

theorem Silent.plain {α : Type} {program : Controlling T α} (silent : Silent program) :
    Plain program := silent.mono fun _ => Request.isPlain_of_isSilent

/-- The exchange in which no filter drops a node. -/
def screening (node : Node) : Exchange (Control T) := ⟨.screen node, none⟩

/-- The exchange in which a node turns out to have no record. -/
def looking (node : Node) (failed : Bool) : Exchange (Control T) :=
  ⟨.transact (.look node.name), (false, failed)⟩

/-- The exchange in which the beginning of a cordon is announced. -/
def cordonStarting (node : Node) : Exchange (Control T) :=
  ⟨.announce .cordonStarting node.name "Cordoning node", .ok ()⟩

/-- The exchange in which a node is cordoned. -/
def cordoning (node : Node) : Exchange (Control T) := ⟨.cordon node, .ok ()⟩

/-- The exchanges that follow a cordon. -/
def cordoned (node : Node) : List (Exchange (Control T)) :=
  [⟨.count .cordoned .succeeded, ()⟩,
    ⟨.announce .cordonSucceeded node.name "Cordoned node", .ok ()⟩]

/-- What a node that is handled makes the controller ask for, and what it was answered by then. -/
inductive HandlingAsks (node : Node) : List (Exchange (Control T)) → Request T → Prop where
  | cordon (failed : Bool) :
      HandlingAsks node [looking node failed, cordonStarting node] (.cordon node)
  | book (failed : Bool) :
      HandlingAsks node ([looking node failed, cordonStarting node, cordoning node] ++ cordoned node)
        (.transact (.book node))
  | plain {path : List (Exchange (Control T))} {request : Request T}
      (plain : request.isPlain = true) : HandlingAsks node path request

section Plain

variable {α : Type} (stage : Stage) (node message : String)

theorem isPlain_of_reaches {program : Controlling T α} {path : List (Exchange (Control T))}
    {request : Request T} {next : (Control T).Reply request → Controlling T α}
    (plain : Plain program) (reached : Program.Reaches program path (.ask request next)) :
    request.isPlain = true := plain.of_reaches reached

theorem plain_announcing {rest : Controlling T (Except Failure α)} (plain : Plain rest) :
    Plain (announcing stage node message rest) := by
  refine ⟨rfl, fun reply => ?_⟩
  cases reply with
  | error failure => trivial
  | ok value => exact plain

theorem silent_deleteSchedule : Silent (deleteSchedule (T := T) node) := by
  refine ⟨rfl, fun armed => ?_⟩
  cases armed with
  | none => trivial
  | some timer => exact ⟨rfl, fun _ => trivial⟩

theorem silent_clearIfHealthy : Silent (clearIfHealthy (T := T) node) := ⟨rfl, fun _ => trivial⟩

theorem silent_cancelAll (timers : List Nat) : Silent (cancelAll (T := T) timers) := by
  induction timers with
  | nil => trivial
  | cons timer others ih => exact ⟨rfl, fun _ => ih⟩

theorem silent_stop : Silent (stop (T := T)) := ⟨rfl, silent_cancelAll⟩

/-- A node that has left is forgotten without a word. -/
theorem silent_departure : Silent (α := Except Failure Unit) (do
    deleteSchedule (T := T) node
    ask (T := T) (.release node)
    return .ok ()) :=
  (silent_deleteSchedule node).bind fun _ => ⟨rfl, fun _ => trivial⟩

/-- A node that a filter drops gives up the record of a drain that has ended, or nothing is done. -/
theorem silent_rejection (filter : NodeFilter) : Silent (α := Except Failure Unit)
    (if filter.isCondition then do
      let _ ← clearIfHealthy (T := T) node
      return .ok ()
    else return .ok ()) := by
  split
  · exact (silent_clearIfHealthy node).bind fun _ => trivial
  · trivial

/-- What is done about the outcome of a notification. -/
theorem silent_complaint (outcome : Except Failure Unit) (text : String) :
    Silent (match outcome with
      | .ok () => (return () : Controlling T Unit)
      | .error _ => ask (T := T) (.complain text)) := by
  cases outcome with
  | ok value => trivial
  | error failure => exact ⟨rfl, fun _ => trivial⟩

end Plain

variable [TimeScale T] {path : List (Exchange (Control T))} {request : Request T}

/-- To schedule a drain is to book it first. -/
theorem asks_schedule {node : Node} {next : (Control T).Reply request → Controlling T (Except Failure T)}
    (reached : Program.Reaches (Control.schedule (T := T) node) path (.ask request next)) :
    path = [] ∧ request = .transact (.book node) ∨ request.isPlain = true := by
  obtain ⟨rfl, same⟩ | ⟨booked, tail, rfl, after⟩ := Program.reaches_ask_iff.mp reached
  · cases same
    exact .inl ⟨rfl, rfl⟩
  · right
    cases booked with
    | error failure => cases (Program.reaches_done_iff.mp after).2
    | ok appointment =>
      refine isPlain_of_reaches ?_ after
      refine ⟨rfl, fun _ => ⟨rfl, fun _ => ?_⟩⟩
      dsimp only
      split
      · trivial
      · exact plain_announcing _ _ _ trivial

/-- A node that is handled is cordoned if it had no record, and its drain is booked if the cordon
came back without failure. -/
theorem asks_handleNode {node : Node}
    {next : (Control T).Reply request → Controlling T (Except Failure Unit)}
    (reached : Program.Reaches (handleNode (T := T) node) path (.ask request next)) :
    HandlingAsks node path request := by
  obtain ⟨rfl, same⟩ | ⟨⟨known, failed⟩, tail, rfl, after⟩ := Program.reaches_ask_iff.mp reached
  · cases same
    exact .plain rfl
  cases known with
  | true => cases (Program.reaches_done_iff.mp after).2
  | false =>
  obtain ⟨rfl, same⟩ | ⟨failure, rfl, same⟩ | ⟨tail, rfl, onward⟩ := reaches_announcing after
  · cases same
    exact .plain rfl
  · cases same
  obtain ⟨rfl, same⟩ | ⟨outcome, tail, rfl, settled⟩ := Program.reaches_ask_iff.mp onward
  · cases same
    exact .cordon failed
  obtain failure | ⟨⟩ := outcome
  · cases failure with
    | cordon name refusal =>
      refine .plain (isPlain_of_reaches ?_ settled)
      exact ⟨rfl, fun _ => plain_announcing _ _ _ trivial⟩
    | _ => cases (Program.reaches_done_iff.mp settled).2
  obtain ⟨rfl, same⟩ | ⟨⟨⟩, tail, rfl, counted⟩ := Program.reaches_ask_iff.mp settled
  · cases same
    exact .plain rfl
  obtain ⟨rfl, same⟩ | ⟨failure, rfl, same⟩ | ⟨tail, rfl, booking⟩ := reaches_announcing counted
  · cases same
    exact .plain rfl
  · cases same
  obtain ⟨_, booking⟩ | ⟨first, second, value, rfl, _, ended⟩ := booking.of_bind_ask
  · obtain ⟨rfl, rfl⟩ | plain := asks_schedule booking
    · exact .book failed
    · exact .plain plain
  · split at ended <;> cases (Program.reaches_done_iff.mp ended).2

/-- What a notification makes the controller ask for, and what it was answered by then. -/
inductive DispatchAsks (notification : Notification) :
    List (Exchange (Control T)) → Request T → Prop where
  | handling {path : List (Exchange (Control T))} {request : Request T}
      (stays : notification.isDeparture = false) (asks : HandlingAsks notification.node path request) :
      DispatchAsks notification (screening notification.node :: path) request
  | plain {path : List (Exchange (Control T))} {request : Request T}
      (plain : request.isPlain = true) : DispatchAsks notification path request

/-- A node is handled if it has not left and no filter drops it. -/
theorem asks_react {notification : Notification}
    {next : (Control T).Reply request → Controlling T (Except Failure Unit)}
    (reached : Program.Reaches (react (T := T) notification) path (.ask request next)) :
    DispatchAsks notification path request := by
  unfold react at reached
  dsimp only at reached
  split at reached
  · exact .plain (isPlain_of_reaches (silent_departure _).plain reached)
  · rename_i stays
    obtain ⟨rfl, same⟩ | ⟨verdict, tail, rfl, after⟩ := Program.reaches_ask_iff.mp reached
    · cases same
      exact .plain rfl
    cases verdict with
    | none => exact .handling (Bool.eq_false_iff.mpr stays) (asks_handleNode after)
    | some filter => exact .plain (isPlain_of_reaches (silent_rejection _ filter).plain after)

/-- What a dispatch asks for. -/
theorem asks_dispatch {notification : Notification}
    {next : (Control T).Reply request → Controlling T (Except Failure Unit)}
    (reached : Program.Reaches (Command.dispatch notification).program path (.ask request next)) :
    DispatchAsks notification path request := by
  obtain ⟨_, dispatching⟩ | ⟨_, _, _, _, _, ended⟩ := reached.of_bind_ask
  · obtain ⟨_, reacting⟩ | ⟨first, second, value, rfl, _, complaining⟩ := dispatching.of_bind_ask
    · exact asks_react reacting
    · exact .plain (isPlain_of_reaches (silent_complaint value _).plain complaining)
  · cases (Program.reaches_done_iff.mp ended).2

omit [TimeScale T] in
/-- A timer asks for nothing else than plain requests and the drain of its node. -/
theorem asks_runDrain {node : Node} {record : Nat}
    {next : (Control T).Reply request → Controlling T (Except Failure Unit)}
    (reached : Program.Reaches (runDrain (T := T) node record) path (.ask request next)) :
    request = .drain node ∨ request.isPlain = true := by
  generalize same : (Program.ask request next : Controlling T _) = left at reached
  cases reaches_runDrain reached with
  | waiting | begun =>
    cases same
    exact .inr rfl
  | dismissed | unannounced => cases same
  | announced =>
    cases same
    exact .inl rfl
  | carriedOut drained onward =>
    cases onward with
    | waiting | finished | counted =>
      cases same
      exact .inr rfl
    | announced => cases same

end Control

end Evacuation
