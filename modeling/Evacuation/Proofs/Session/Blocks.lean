import Evacuation.Proofs.Office.Precedence
import Evacuation.Proofs.Session.Play
import Evacuation.Proofs.Session.Turns
/-!
# The events of a session

In a session where nothing worse than refusals happens, what is told about a node follows the states
its record goes through. It falls into blocks, each of which begins with the beginning of a cordon,
when the node has no record, and ends where the node could not be cordoned, where its drain was
scheduled, or where that drain ended. What carries this through a session is that a block may be open
only at the end, and that a timer is armed for the node only as long as the last block is open
(`Schedule.InBlocks`). The counts on the desk are those of the events that tell how something ended
(`Session.told_in_blocks`).
-/
namespace Evacuation

variable {T : Type}

/-- A stretch of what is told about a node. -/
inductive Block where
  /-- The node could not be cordoned. -/
  | refused
  /-- The node was cordoned and its drain was scheduled. -/
  | booked
  /-- The node was cordoned, its drain was scheduled, and the drain ended. -/
  | drained (success : Success)

/-- The reasons of the events in a block. -/
def Block.reasons : Block → List String
  | refused => ["CordonStarting", "CordonFailed"]
  | booked => ["CordonStarting", "CordonSucceeded", "DrainScheduled"]
  | drained .succeeded =>
    ["CordonStarting", "CordonSucceeded", "DrainScheduled", "DrainStarting", "DrainSucceeded"]
  | drained .failed =>
    ["CordonStarting", "CordonSucceeded", "DrainScheduled", "DrainStarting", "DrainFailed"]

/-- The reason of the event that tells what is counted. -/
def Series.reason : Series → Success → String
  | .cordoned, .succeeded => "CordonSucceeded"
  | .cordoned, .failed => "CordonFailed"
  | .drained, .succeeded => "DrainSucceeded"
  | .drained, .failed => "DrainFailed"

/-- The reasons of the events about a node. -/
def NodeEvent.reasons (events : List NodeEvent) (node : String) : List String :=
  (events.filter (·.node == node)).map (·.reason)

theorem NodeEvent.reasons_append (first second : List NodeEvent) (node : String) :
    reasons (first ++ second) node = reasons first node ++ reasons second node := by
  simp [reasons]

/-- What is told in turns. -/
def Turn.told (turns : List (Turn T)) : List NodeEvent :=
  turns.flatMap fun turn => Control.told turn.path

theorem Turn.told_concat (turns : List (Turn T)) (turn : Turn T) :
    told (turns ++ [turn]) = told turns ++ Control.told turn.path := by
  simp [told]

/-- What was told about a node is in blocks, and unless the last one only says that its drain was
scheduled, no timer is armed for the node. -/
def Schedule.InBlocks (schedule : Schedule T) (events : List NodeEvent) (node : String) : Prop :=
  ∃ blocks : List Block, NodeEvent.reasons events node = blocks.flatMap Block.reasons ∧
    (schedule.armed.get? node = none ∨ ∃ earlier, blocks = earlier ++ [.booked])

/-- A turn adds a block for its node, or closes the one that is open. -/
theorem Tells.inBlocks {before after : Schedule T} {told events : List NodeEvent}
    {counts : List (Series × Success)} {name : String} (tells : Tells before after events counts)
    (blocked : before.InBlocks told name) : after.InBlocks (told ++ events) name := by
  obtain ⟨blocks, trace, last⟩ := blocked
  have elsewhere (other : NodeEvent.reasons events name = [])
      (unarmed : before.armed.get? name = none → after.armed.get? name = none) :
      after.InBlocks (told ++ events) name :=
    ⟨blocks, by rw [NodeEvent.reasons_append, other, List.append_nil, trace], last.imp_left unarmed⟩
  cases tells with
  | nothing unarmed => exact elsewhere rfl unarmed
  | @refused node message idle unarmed =>
    by_cases same : node = name
    · subst same
      refine ⟨blocks ++ [.refused], ?_, .inl idle⟩
      rw [NodeEvent.reasons_append, trace, List.flatMap_append]
      simp [NodeEvent.reasons, Stage.event, Stage.reason, Block.reasons]
    · exact elsewhere (by simp [NodeEvent.reasons, Stage.event, same]) unarmed
  | @booked node message unarmed =>
    by_cases same : node = name
    · subst same
      refine ⟨blocks ++ [.booked], ?_, .inr ⟨blocks, rfl⟩⟩
      rw [NodeEvent.reasons_append, trace, List.flatMap_append]
      simp [NodeEvent.reasons, Stage.event, Stage.reason, Block.reasons]
    · exact elsewhere (by simp [NodeEvent.reasons, Stage.event, same]) (unarmed (Ne.symm same))
  | @drained node success message armed idle unarmed =>
    by_cases same : node = name
    · subst same
      -- The timer was armed, so the last block was left open when the drain was scheduled.
      obtain ⟨earlier, rfl⟩ := last.resolve_left armed
      refine ⟨earlier ++ [.drained success], ?_, .inl idle⟩
      rw [NodeEvent.reasons_append, trace, List.flatMap_append, List.flatMap_append]
      cases success <;>
        simp [NodeEvent.reasons, Stage.event, Stage.reason, Block.reasons, Control.endStage]
    · exact elsewhere (by simp [NodeEvent.reasons, Stage.event, same]) unarmed

/-- What a turn counts is what it tells. -/
theorem Tells.count_eq {before after : Schedule T} {events : List NodeEvent}
    {counts : List (Series × Success)} (tells : Tells before after events counts) (series : Series)
    (success : Success) : counts.count (series, success) =
      events.countP fun event => event.reason = series.reason success := by
  cases tells with
  | nothing => rfl
  | refused | booked => cases series <;> cases success <;> rfl
  | drained ended => cases series <;> cases success <;> cases ended <;> rfl

/-- Events are warnings where something failed. -/
theorem Stage.type_event (stage : Stage) (node message : String) :
    (stage.event node message).type =
      if (stage.event node message).reason = "CordonFailed" ∨
        (stage.event node message).reason = "DrainFailed" then "Warning" else "Normal" := by
  cases stage <;> rfl

/-- What is told along a path announces some stage. -/
theorem Control.of_mem_told {path : List (Exchange (Control T))} {event : NodeEvent}
    (listed : event ∈ told path) : ∃ (stage : Stage) (node message : String),
      event = stage.event node message := by
  obtain ⟨⟨request, reply⟩, _, tells⟩ := List.mem_filterMap.mp listed
  cases request with
  | announce stage node message => exact ⟨stage, node, message, (Option.some.inj tells).symm⟩
  | _ => cases tells

variable [TimeScale T] {controller : Controller T} {buffer : DrainBuffer T} {turns : List (Turn T)}
  {desk between later : Desk T}

namespace Session

/-- In regular turns all that is told about a node is in blocks. -/
theorem inBlocks (session : Session controller { schedule := { buffer } } turns desk)
    (regular : ∀ turn ∈ turns, turn.Regular controller) (node : String) :
    desk.schedule.InBlocks (Turn.told turns) node := by
  induction session with
  | here => exact ⟨[], rfl, .inl rfl⟩
  | @snoc turns _ _ _ cause path _ session arises reached served ih =>
    obtain ⟨earlier, last⟩ := List.forall_mem_append.mp regular
    rw [Turn.told_concat]
    have own := last ⟨cause, path⟩ (.head _)
    exact (session.tells arises reached served own).inBlocks (ih earlier)

/-- In regular turns the counts are those of what is told. -/
theorem count_eq (session : Session controller { schedule := { buffer } } turns desk)
    (regular : ∀ turn ∈ turns, turn.Regular controller) (series : Series) (success : Success) :
    desk.metrics.count series success.label =
      (Turn.told turns).countP fun event => event.reason = series.reason success := by
  induction session with
  | here => exact Metrics.count_empty _ _
  | @snoc turns desk between later cause path _ session arises reached served ih =>
    obtain ⟨earlier, last⟩ := List.forall_mem_append.mp regular
    have own := last ⟨cause, path⟩ (.head _)
    have begins : between.metrics = desk.metrics := by
      cases arises <;> rfl
    rw [served.count, begins, ih earlier, Turn.told_concat, List.countP_append,
      (session.tells arises reached served own).count_eq]

/-- When the beginning of a cordon is announced, the node has no record. -/
theorem untracked_of_cordonStarting
    (session : Session controller { schedule := { buffer } } turns desk) {cause : Cause}
    {path : List (Exchange (Control T))} {name message : String}
    {next : Except Failure Unit → Controlling T (Except Failure Unit)}
    (arises : cause.Arises desk between)
    (reached : cause.program.Reaches path (.ask (.announce .cordonStarting name message) next))
    (served : controller.ServesAll between path later) :
    later.schedule.tracked.get? name = none := by
  obtain ⟨failed, last⟩ := cause.inOrder.of_reaches reached
  rw [Option.or_none] at last
  obtain ⟨earlier, rfl⟩ := List.getLast?_eq_some_iff.mp last
  obtain ⟨left, begun, _⟩ := reached.split
  obtain ⟨before, leading, looking⟩ := served.split
  have consistent := session.consistent_within arises begun leading
  cases looking with
  | cons first rest =>
    cases rest
    obtain ⟨now, same⟩ := first.atDesk_eq rfl
    obtain rfl := congrArg Prod.snd same
    exact consistent.untracked_of_status (congrArg (·.1.1) same)

/-- In regular turns from a fresh desk all that is told about a node is a sequence of blocks. At any
time in any session a block begins only while the node has no record. Exactly the events of what
failed are warnings, and the counts are the numbers of the events that tell how something ended. -/
theorem told_in_blocks (session : Session controller { schedule := { buffer } } turns desk)
    (regular : ∀ turn ∈ turns, turn.Regular controller) :
    (∀ node, ∃ blocks : List Block,
      NodeEvent.reasons (Turn.told turns) node = blocks.flatMap Block.reasons) ∧
    (∀ {cause : Cause} {between later : Desk T} {path : List (Exchange (Control T))}
        {name message : String}
        {next : Except Failure Unit → Controlling T (Except Failure Unit)},
      cause.Arises desk between →
      cause.program.Reaches path (.ask (.announce .cordonStarting name message) next) →
      controller.ServesAll between path later → later.schedule.tracked.get? name = none) ∧
    (∀ event ∈ Turn.told turns, event.type =
      if event.reason = "CordonFailed" ∨ event.reason = "DrainFailed" then "Warning"
      else "Normal") ∧
    (∀ (series : Series) (success : Success), desk.metrics.count series success.label =
      (Turn.told turns).countP fun event => event.reason = series.reason success) := by
  refine ⟨fun node => ?_, session.untracked_of_cordonStarting, fun event listed => ?_,
    session.count_eq regular⟩
  · obtain ⟨blocks, trace, _⟩ := session.inBlocks regular node
    exact ⟨blocks, trace⟩
  · obtain ⟨turn, _, told⟩ := List.mem_flatMap.mp listed
    obtain ⟨stage, node, message, rfl⟩ := Control.of_mem_told told
    exact stage.type_event node message

/-- A controller that acts on every notification and tries every cordon once. -/
def plainController : Controller Rat where
  drainer := .live
    { filters := [], maxGrace := 480, headroom := 30, retryInterval := 5, pollInterval := 1
      cordonAttempts := 1, turns := 10 }
  chain := []

/-- A node is drained, which fails and cannot be announced, leaves, and comes back; another one cannot
be cordoned. In the end all that waits is stopped. -/
def relapse : List (Move Rat) :=
  [.command (.dispatch ⟨"ADDED", { name := "n1" }⟩) 0 [],
    .command (.dispatch ⟨"ADDED", { name := "n2" }⟩) 5
      [.ok { node := "n2" }, .error (.cordon "n2" ⟨some 403, some "Forbidden"⟩)],
    .fire 0 60 [.ok { node := "n1" }, .error (.broken "RuntimeError" "eviction lost"),
      .error (.refused ⟨some 500, none⟩)],
    .command (.delete "n1") 61 [], .command (.dispatch ⟨"ADDED", { name := "n1" }⟩) 70 [],
    .command .stop 80 []]

theorem isSome_relapse :
    (play? plainController relapse { schedule := { buffer := ⟨60, none⟩ } }).isSome = true := by
  decide +kernel

/-- Two blocks are told about the node that comes back, and one about the other. -/
theorem told_in_blocks_relapse : ∃ (turns : List (Turn Rat)) (desk : Desk Rat),
    Session plainController { schedule := { buffer := ⟨60, none⟩ } } turns desk ∧
    (∀ turn ∈ turns, turn.Regular plainController) ∧
    (∃ blocks : List Block, NodeEvent.reasons (Turn.told turns) "n1" = blocks.flatMap Block.reasons) ∧
    NodeEvent.reasons (Turn.told turns) "n1" =
      ["CordonStarting", "CordonSucceeded", "DrainScheduled", "DrainStarting", "DrainFailed",
        "CordonStarting", "CordonSucceeded", "DrainScheduled"] ∧
    NodeEvent.reasons (Turn.told turns) "n2" = ["CordonStarting", "CordonFailed"] ∧
    desk.metrics.count .cordoned "succeeded" = 2 ∧ desk.metrics.count .drained "failed" = 1 := by
  have session := of_play? (Option.some_get isSome_relapse).symm
  have tame : (Option.get _ isSome_relapse).1.all (·.isTame) = true := by
    decide +kernel
  have regular : ∀ turn ∈ (Option.get _ isSome_relapse).1, turn.Regular plainController :=
    fun turn taken => Turn.regular_of_isTame rfl (List.all_eq_true.mp tame turn taken)
  obtain ⟨blocks, _, _, counts⟩ := session.told_in_blocks regular
  have first : NodeEvent.reasons (Turn.told (Option.get _ isSome_relapse).1) "n1" =
      ["CordonStarting", "CordonSucceeded", "DrainScheduled", "DrainStarting", "DrainFailed",
        "CordonStarting", "CordonSucceeded", "DrainScheduled"] := by
    decide +kernel
  have second : NodeEvent.reasons (Turn.told (Option.get _ isSome_relapse).1) "n2" =
      ["CordonStarting", "CordonFailed"] := by
    decide +kernel
  have cordoned : ((Turn.told (Option.get _ isSome_relapse).1).countP fun event =>
      event.reason = Series.reason .cordoned .succeeded) = 2 := by
    decide +kernel
  have drained : ((Turn.told (Option.get _ isSome_relapse).1).countP fun event =>
      event.reason = Series.reason .drained .failed) = 1 := by
    decide +kernel
  exact ⟨_, _, session, regular, blocks "n1", first, second, (counts .cordoned .succeeded).trans cordoned,
    (counts .drained .failed).trans drained⟩

end Session

end Evacuation
