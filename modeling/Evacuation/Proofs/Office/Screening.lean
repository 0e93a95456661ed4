import Evacuation.Blueprint
import Evacuation.Proofs.NodeFilter.History
import Evacuation.Proofs.Office.Watch
/-!
# Screening

Only two requests concern the nodes that the filters remember: a node is screened, or it is released.
The dispatch of a notification makes exactly one of them: it screens the node of the notification
first of all, or, if the node has left, releases it last (`dispatch_of_stays`, `dispatch_of_departure`).
No timer and no stop makes any. What the filters remember once some notifications were dispatched is
therefore a fold over these (`FilterChain.remembers`).
-/
namespace Evacuation

variable {T : Type}

/-- What is built from a blueprint. -/
theorem Blueprint.chain_of_build [TimeScale T] {plan : Blueprint T} {controller : Controller T}
    {desk : Desk T} (built : plan.build = .ok (controller, desk)) :
    controller.chain = plan.chain ∧ ∃ buffer, desk = { schedule := { buffer } } := by
  unfold build at built
  split at built
  · cases built
  · split at built <;> cases built
    exact ⟨rfl, _, rfl⟩

namespace Control

/-- A request about the nodes that the filters remember. -/
def Request.isScreening : Request T → Bool
  | .screen _ | .release _ => true
  | _ => false

/-- The program asks nothing about the nodes that the filters remember. -/
abbrev Unscreened {α : Type} (program : Controlling T α) : Prop :=
  program.Only (Request.isScreening · = false)

section OfHandling

/-- A request by which the drain of a node is booked. -/
def Request.IsOfBooking (node : Node) : Request T → Prop
  | .transact (.book target) => target = node
  | .announce _ name _ => name = node.name
  | .arm _ _ | .start _ _ => True
  | _ => False

/-- A request by which a node that has no record is handled. -/
def Request.IsOfHandling (node : Node) : Request T → Prop
  | .cordon target => target = node
  | .count series _ => series = .cordoned
  | request => request.IsOfBooking node

theorem Request.isOfHandling_of_isOfBooking {node : Node} {request : Request T}
    (books : request.IsOfBooking node) : request.IsOfHandling node := by
  cases request with
  | transact transaction =>
    cases transaction with
    | book target => exact books
    | _ => cases books
  | announce | arm | start => exact books
  | _ => cases books

/-- The program asks for nothing but what the handling of a node without a record asks for. -/
abbrev OfHandling {α : Type} (node : Node) (program : Controlling T α) : Prop :=
  program.Only (Request.IsOfHandling node)

variable {α : Type} {node : Node}

/-- What may be announced of a node is announced where the rest of the program may be. -/
theorem only_announcing {allowed : Request T → Prop} {stage : Stage} {message : String}
    {rest : Controlling T (Except Failure α)} (tells : allowed (.announce stage node.name message))
    (only : Program.Only (I := Control T) allowed rest) :
    Program.Only (I := Control T) allowed (announcing stage node.name message rest) := by
  refine ⟨tells, fun reply => ?_⟩
  cases reply with
  | error failure => trivial
  | ok value => exact only

variable [TimeScale T]

/-- To schedule a drain is to book it, to set its timer up and to announce it. -/
theorem ofBooking_schedule :
    Program.Only (I := Control T) (Request.IsOfBooking node) (schedule (T := T) node) := by
  refine ⟨rfl, fun booked => ?_⟩
  cases booked with
  | error failure => trivial
  | ok appointment =>
    refine ⟨trivial, fun _ => ⟨trivial, fun _ => ?_⟩⟩
    dsimp only
    split
    · trivial
    · exact only_announcing rfl trivial

/-- To handle a node is to look for a record of it, once. -/
theorem handleNode_eq : ∃ next, handleNode (T := T) node = .ask (.transact (.look node.name)) next ∧
    ∀ found, OfHandling node (next found) := by
  refine ⟨_, rfl, fun ⟨known, failed⟩ => ?_⟩
  cases known with
  | true => trivial
  | false =>
  refine only_announcing rfl ⟨rfl, fun cordoned => ?_⟩
  cases cordoned with
  | error failure =>
    cases failure with
    | cordon name refusal => exact ⟨rfl, fun _ => only_announcing rfl trivial⟩
    | _ => trivial
  | ok value =>
    refine ⟨rfl, fun _ => only_announcing rfl ?_⟩
    have books : Program.Only (I := Control T) (Request.IsOfBooking node) (schedule node) :=
      ofBooking_schedule
    refine (books.mono fun _ => Request.isOfHandling_of_isOfBooking).bind fun booked => ?_
    split <;> trivial

theorem unscreened_handleNode : Unscreened (handleNode (T := T) node) := by
  obtain ⟨next, same, handles⟩ := @handleNode_eq T node _
  rw [same]
  refine ⟨rfl, fun found => (handles found).mono fun request asked => ?_⟩
  cases request with
  | screen | release => cases asked
  | _ => rfl

end OfHandling

section OfDrains

/-- A request that the drains of nodes make, or a stop of them. -/
def Request.isOfDrains : Request T → Bool
  | .transact (.launch _ _) | .transact (.finish _ _ _) | .transact .halt | .cancel _
  | .announce _ _ _ | .drain _ | .count _ _ => true
  | _ => false

/-- The program asks for nothing but what the drains of nodes and a stop of them ask for. -/
abbrev OfDrains {α : Type} (program : Controlling T α) : Prop :=
  program.Only (Request.isOfDrains · = true)

variable {node : Node}

theorem ofDrains_concludeDrain (record : Nat) (drained : Except Failure DrainReport) :
    OfDrains (concludeDrain (T := T) node record drained) := by
  rw [concludeDrain_eq]
  refine ⟨rfl, fun _ => ?_⟩
  split
  · exact ⟨rfl, fun _ => only_announcing rfl trivial⟩
  · exact ⟨rfl, fun _ => only_announcing rfl trivial⟩

theorem ofDrains_runDrain (record : Nat) : OfDrains (runDrain (T := T) node record) := by
  refine ⟨rfl, fun begun => ?_⟩
  cases begun with
  | false => trivial
  | true =>
    refine only_announcing rfl ?_
    exact ⟨rfl, fun drained => ofDrains_concludeDrain record drained⟩

theorem ofDrains_cancelAll (timers : List Nat) : OfDrains (cancelAll (T := T) timers) := by
  induction timers with
  | nil => trivial
  | cons timer others ih => exact ⟨rfl, fun _ => ih⟩

end OfDrains

/-! ## The course of a dispatch -/

/-- How a dispatch ends: with a report if something failed. -/
def closing (notification : Notification) : Except Failure Unit → Controlling T (Except Failure Unit)
  | .ok () => .done (.ok ())
  | .error _ => .ask (.complain
      s!"Failed to handle {notification.type} notification for node '{notification.node.name}'")
      fun _ => .done (.ok ())

/-- What is done about a node that was screened. -/
def followUp [TimeScale T] (node : Node) : Option NodeFilter → Controlling T (Except Failure Unit)
  | none => handleNode node
  | some filter =>
    if filter.isCondition then .ask (.transact (.clear node.name)) fun _ => .done (.ok ())
    else .done (.ok ())

/-- What is done about a node that has left, once it is forgotten. -/
def farewell (node : String) : Option Nat → Controlling T (Except Failure Unit)
  | none => .ask (.release node) fun _ => .done (.ok ())
  | some timer => .ask (.cancel timer) fun _ => .ask (.release node) fun _ => .done (.ok ())

variable [TimeScale T] {notification : Notification}

/-- A node that has left is forgotten first and released last. -/
theorem dispatch_of_departure (departs : notification.isDeparture = true) :
    (Command.dispatch notification).program (T := T) =
      .ask (.transact (.forget notification.node.name)) (farewell notification.node.name) := by
  show Program.bind (Program.bind (react notification) _) _ = _
  unfold react
  rw [if_pos departs]
  refine congrArg (Program.ask _) (funext fun armed => ?_)
  cases armed <;> rfl

/-- Any other node is screened first. -/
theorem dispatch_of_stays (stays : notification.isDeparture = false) :
    (Command.dispatch notification).program (T := T) =
      .ask (.screen notification.node) fun verdict =>
        (followUp notification.node verdict).bind (closing notification) := by
  have ends : (fun outcome : Except Failure Unit => Program.bind (match outcome with
      | .ok () => (.done () : Controlling T Unit)
      | .error _ => ask (T := T) (.complain
          s!"Failed to handle {notification.type} notification for node '{notification.node.name}'"))
        fun _ => .done (.ok ())) = closing notification := by
    funext outcome
    cases outcome <;> rfl
  show Program.bind (Program.bind (react notification) _) _ = _
  rw [Program.bind_assoc]
  unfold react
  rw [if_neg (by rw [stays]; exact Bool.false_ne_true)]
  refine congrArg (Program.ask _) (funext fun verdict => ?_)
  rw [← ends]
  cases verdict with
  | none => rfl
  | some filter =>
    show Program.bind (if filter.isCondition = true then _ else _) _ =
      Program.bind (if filter.isCondition = true then _ else _) _
    split <;> rfl

/-- A dispatch has something to do. -/
theorem dispatch_ne_done {value : Except Failure Unit} :
    (Command.dispatch notification).program (T := T) ≠ .done value := by
  cases departs : notification.isDeparture with
  | false =>
    rw [dispatch_of_stays departs]
    exact nofun
  | true =>
    rw [dispatch_of_departure departs]
    exact nofun

end Control

/-! ## What the filters remember -/

namespace FilterChain

/-- What the filters remember once a notification was dispatched. -/
def after (chain : FilterChain) (processed : Processed) (notification : Notification) : Processed :=
  if notification.isDeparture then forget notification.node.name processed
  else (chain.firstRejecting notification.node processed).2

/-- What the filters remember of notifications that were dispatched one after another. -/
def remembers (chain : FilterChain) (notifications : List Notification) : Processed :=
  notifications.foldl chain.after []

theorem remembers_concat (chain : FilterChain) (notifications : List Notification)
    (notification : Notification) :
    chain.remembers (notifications ++ [notification]) =
      chain.after (chain.remembers notifications) notification := by
  rw [remembers, List.foldl_append]
  rfl

/-- An exchange as it passes when the filters remember some nodes, and what they remember then. -/
def Answers (chain : FilterChain) (processed : Processed) :
    Exchange (Control T) → Processed → Prop
  | ⟨.screen node, verdict⟩, later => chain.firstRejecting node processed = (verdict, later)
  | ⟨.release node, _⟩, later => later = forget node processed
  | _, later => later = processed

/-- Exchanges one after another, among all of which the filters are asked about no other node. -/
inductive Replays (chain : FilterChain) :
    Processed → List (Exchange (Control T)) → Processed → Prop where
  | here (processed : Processed) : Replays chain processed [] processed
  | next {processed between later : Processed} {exchange : Exchange (Control T)}
      {path : List (Exchange (Control T))} (answers : chain.Answers processed exchange between)
      (rest : Replays chain between path later) : Replays chain processed (exchange :: path) later

variable {chain : FilterChain} {processed later : Processed} {exchange : Exchange (Control T)}
  {path : List (Exchange (Control T))}

/-- Nothing else changes what the filters remember. -/
theorem answers_iff_of_not_isScreening (unscreened : exchange.request.isScreening = false) :
    chain.Answers processed exchange later ↔ later = processed := by
  obtain ⟨request, reply⟩ := exchange
  cases request with
  | screen node | release node => cases unscreened
  | _ => rfl

namespace Replays

theorem snoc {between : Processed} (replays : chain.Replays processed path between)
    (answers : chain.Answers between exchange later) :
    chain.Replays processed (path ++ [exchange]) later := by
  induction replays with
  | here => exact .next answers (.here _)
  | next first rest ih => exact .next first (ih answers)

/-- Exchanges about other things change nothing. -/
theorem eq_of_unscreened (replays : chain.Replays processed path later)
    (unscreened : ∀ exchange ∈ path, exchange.request.isScreening = false) : later = processed := by
  induction replays with
  | here => rfl
  | next answers rest ih =>
    have first := unscreened _ List.mem_cons_self
    rw [answers_iff_of_not_isScreening first] at answers
    rw [ih fun exchange listed => unscreened exchange (List.mem_cons_of_mem _ listed)]
    exact answers

end Replays

end FilterChain

namespace Control

variable [TimeScale T] {chain : FilterChain} {notification : Notification} {before later : Processed}
  {path : List (Exchange (Control T))} {left : Controlling T (Except Failure Unit)}

/-- After a node was screened, no more is asked about what the filters remember. -/
theorem unscreened_followUp (verdict : Option NodeFilter) :
    Unscreened ((followUp (T := T) notification.node verdict).bind (closing notification)) := by
  refine Program.Only.bind ?_ fun outcome => ?_
  · cases verdict with
    | none => exact unscreened_handleNode
    | some filter =>
      by_cases healthy : filter.isCondition = true
      · simp only [followUp, if_pos healthy]
        exact ⟨rfl, fun _ => trivial⟩
      · simp only [followUp, if_neg healthy]
        trivial
  · cases outcome with
    | ok value => trivial
    | error failure => exact ⟨rfl, fun _ => trivial⟩

/-- The verdict that a dispatch was told is that of its first exchange. -/
theorem told_first {verdict : Option NodeFilter} (stays : notification.isDeparture = false)
    (reached : Program.Reaches (Command.dispatch notification).program path left)
    (told : ⟨.screen notification.node, verdict⟩ ∈ path) :
    ∃ tail, path = ⟨.screen notification.node, verdict⟩ :: tail ∧ Program.Reaches
      ((followUp notification.node verdict).bind (closing notification)) tail left := by
  rw [dispatch_of_stays stays] at reached
  cases reached with
  | here => cases told
  | next reply onward =>
  obtain same | later := List.mem_cons.mp told
  · cases same
    exact ⟨_, rfl, onward⟩
  · cases (unscreened_followUp reply).of_mem_path onward later

/-- The verdict on a node that was screened, and what the filters remember ever after. -/
theorem verdict_of_replays (stays : notification.isDeparture = false)
    {exchange : Exchange (Control T)}
    (reached : Program.Reaches (Command.dispatch notification).program (exchange :: path) left)
    (replays : chain.Replays before (exchange :: path) later) :
    ∃ verdict, exchange = ⟨.screen notification.node, verdict⟩ ∧
      chain.firstRejecting notification.node before = (verdict, later) := by
  rw [dispatch_of_stays stays] at reached
  cases reached with
  | next verdict onward =>
  cases replays with
  | next screened rest =>
  have same := rest.eq_of_unscreened fun exchange listed =>
    (unscreened_followUp verdict).of_mem_path onward listed
  rw [← same] at screened
  exact ⟨verdict, rfl, screened⟩

/-- A dispatch that comes to its end leaves the filters what they then remember. -/
theorem after_of_replays {result : Except Failure Unit}
    (reached : Program.Reaches (Command.dispatch notification).program path (.done result))
    (replays : chain.Replays before path later) : later = chain.after before notification := by
  unfold FilterChain.after
  cases departs : notification.isDeparture with
  | false =>
    rw [if_neg Bool.false_ne_true]
    have asks := reached
    rw [dispatch_of_stays departs] at asks
    obtain ⟨verdict, tail, rfl, _⟩ := asks.of_ask_done
    obtain ⟨_, _, screened⟩ := verdict_of_replays departs reached replays
    rw [screened]
  | true =>
    rw [if_pos rfl]
    rw [dispatch_of_departure departs] at reached
    obtain ⟨armed, tail, rfl, onward⟩ := reached.of_ask_done
    cases replays with
    | next forgotten rest =>
    obtain rfl := forgotten
    cases armed with
    | none =>
      obtain ⟨_, _, rfl, ended⟩ := onward.of_ask_done
      obtain ⟨rfl, _⟩ := Program.reaches_done_iff.mp ended
      cases rest with
      | next released nothing =>
      cases nothing
      exact released
    | some timer =>
      obtain ⟨_, _, rfl, releasing⟩ := onward.of_ask_done
      obtain ⟨_, _, rfl, ended⟩ := releasing.of_ask_done
      obtain ⟨rfl, _⟩ := Program.reaches_done_iff.mp ended
      cases rest with
      | next cancelled rest =>
      obtain rfl := cancelled
      cases rest with
      | next released nothing =>
      cases nothing
      exact released

end Control

end Evacuation
