import Evacuation.Drain.Drainer
import Evacuation.Schedule.Control
/-!
# The controller

The controller keeps a desk with the schedule, the nodes its filters remember and the counts, and
answers what the control of drains asks: from the desk, or by work in the cluster. The desk lies
within the state of the surroundings, so work in the cluster may find it changed by others when it
is done.
-/
namespace Evacuation

/-- A part of a state. -/
structure Place (σ δ : Type) where
  get : σ → δ
  put : δ → σ → σ

/-- What the controller keeps. -/
structure Desk (T : Type) where
  schedule : Schedule T
  processed : Processed := []
  metrics : Metrics := {}

/-- How the controller was set up. -/
structure Controller (T : Type) where
  drainer : Drainer T
  chain : FilterChain
  recorder : EventRecorder := {}

namespace Controller

variable {T σ α : Type} [TimeScale T]

/-- The state with another schedule on the desk. -/
def withSchedule (desk : Place σ (Desk T)) (schedule : Schedule T) (state : σ) : σ :=
  desk.put { desk.get state with schedule } state

/-- Tell the surroundings something. -/
def tell (world : Surroundings (World T) σ) (notice : Notice T) (state : σ) : Unit × σ :=
  world (.tell notice) state

/-- The answers to the control of drains, in a world that holds the desk. -/
def answer (controller : Controller T) (desk : Place σ (Desk T))
    (world : Surroundings (World T) σ) : Surroundings (Control T) σ
  | .transact transaction, state =>
    let (now, state) := world .clock state
    let (reply, schedule) := (desk.get state).schedule.transact now transaction
    (reply, withSchedule desk schedule state)
  | .arm timer interval, state => tell world (.armed timer interval) state
  | .start timer label, state =>
    tell world (.started timer label)
      (withSchedule desk ((desk.get state).schedule.turnTimer timer .start) state)
  | .cancel timer, state =>
    tell world (.cancelled timer)
      (withSchedule desk ((desk.get state).schedule.turnTimer timer .cancel) state)
  | .fire timer, state =>
    match (desk.get state).schedule.timers[timer]? with
    | none => (none, state)
    | some found =>
      (some (found.node, found.record),
        withSchedule desk ((desk.get state).schedule.turnTimer timer .fire) state)
  | .announce stage node message, state =>
    (Work.record controller.recorder (stage.event node message)).run world state
  | .cordon node, state => (controller.drainer.cordon node).run world state
  | .drain node, state => (controller.drainer.drain node).run world state
  | .count series success, state =>
    let found := desk.get state
    ((), desk.put { found with metrics := found.metrics.record series success.label } state)
  | .screen node, state =>
    let found := desk.get state
    let (filter, processed) := controller.chain.firstRejecting node found.processed
    (filter, desk.put { found with processed } state)
  | .release node, state =>
    let found := desk.get state
    ((), desk.put { found with processed := FilterChain.forget node found.processed } state)
  | .complain message, state => tell world (.complaint message) state

/-- Run a program of the control of drains. -/
def run (controller : Controller T) (desk : Place σ (Desk T)) (world : Surroundings (World T) σ)
    (program : Controlling T α) (state : σ) : α × σ :=
  Program.run (controller.answer desk world) program state

end Controller

end Evacuation
