import Evacuation.Rehearsal.Scene
/-!
# Performing a rehearsal

The steps of a rehearsal are taken one after another. A step that fails leaves the scene as far as
it came, and the next step is taken all the same. The steps of a hook are taken in the middle of
another step; since a hook is used up when its steps begin, hooks within hooks come to an end, and
their number bounds how deep they can lie.
-/
namespace Evacuation.Rehearsal

variable {T : Type} [TimeScale T]

/-- The timer that goes off next: of those that are due the one with the earliest time, the one made
first among several. -/
def nextDue (now : T) : (timers : List (Timer T)) → (place : Nat) → Option (Nat × T)
  | [], _ => none
  | timer :: rest, place =>
    let others := nextDue now rest (place + 1)
    if timer.state = .pending ∧ TimeScale.upTo timer.due now then
      match others with
      | some (other, due) =>
        if TimeScale.before due timer.due then some (other, due) else some (place, timer.due)
      | none => some (place, timer.due)
    else others

/-- A step that only changes the scene. -/
def silently (scene : Scene T) : Except Failure (Answer T) × Scene T := (.ok .nothing, scene)

/-- The answer made from what a program answered. -/
def report {α : Type} (view : α → Answer T) (result : Except Failure α × Scene T) :
    Except Failure (Answer T) × Scene T :=
  (result.1.map view, result.2)

/-- Let the timers go off that are due, in the order of their times, and name them. A failure of
what a timer begins ends it. -/
def goOff (run : Controlling T (Except Failure Unit) → Scene T → Except Failure Unit × Scene T) :
    (turns : Nat) → (fired : List Nat) → Scene T → Except Failure (Answer T) × Scene T
  | 0, _, scene => (.error .outOfTurns, scene)
  | turns + 1, fired, scene =>
    match nextDue scene.now scene.desk.schedule.timers 0 with
    | none => (.ok (.fired fired.reverse), scene)
    | some (timer, _) =>
      match run (Control.fireTimer timer) (scene.note (.fired timer)) with
      | (.ok (), scene) => goOff run turns (timer :: fired) scene
      | (.error failure, scene) => (.error failure, scene)

/-- The place of a timer among so many, given by its number from the front or, if that is negative,
from the end. -/
def placeOf (timer : Int) (count : Nat) : Option Nat :=
  let place := if timer < 0 then timer + count else timer
  if 0 ≤ place ∧ place < count then some place.toNat else none

/-- The failure of a step that names a timer that there is not. -/
def noTimer : Failure := .broken "IndexError" "list index out of range"

/-- Take one step, in a world that is given. -/
def Step.take (controller : Controller T) (world : Surroundings (World T) (Scene T)) (turns : Nat)
    (step : Step T) (scene : Scene T) : Except Failure (Answer T) × Scene T :=
  let control {α : Type} (program : Controlling T α) : α × Scene T :=
    controller.run Scene.deskPlace world program scene
  let work {α : Type} (program : Work T α) : α × Scene T := program.run world scene
  let plainly (program : Controlling T Unit) : Except Failure (Answer T) × Scene T :=
    silently (control program).2
  match step with
  | .dispatch notification => plainly (Control.dispatch notification)
  | .handleNode node => report (fun _ => .nothing) (control (Control.handleNode node))
  | .schedule node => report .time (control (Control.schedule node))
  | .hasSchedule node =>
    let status := scene.desk.schedule.status node
    (.ok (.flags status.1 status.2), scene)
  | .getRecord node => (.ok (.record (scene.desk.schedule.current? node)), scene)
  | .deleteSchedule node => plainly (Control.deleteSchedule node)
  | .clearIfHealthy node =>
    let (cleared, scene) := control (Control.clearIfHealthy node)
    (.ok (.flag cleared), scene)
  | .stop => plainly Control.stop
  | .fire timer =>
    match placeOf timer scene.desk.schedule.timers.length with
    | some place => report (fun _ => .nothing) (control (Control.fireTimer place))
    | none => (.error noTimer, scene)
  | .tick span =>
    goOff (controller.run Scene.deskPlace world) turns [] { scene with now := scene.now + span }
  | .cordon node => report (fun _ => .nothing) (work (controller.drainer.cordon node))
  | .drain node => report .report (work (controller.drainer.drain node))
  | .reserve now =>
    let schedule := scene.desk.schedule
    let (start, buffer) := schedule.buffer.reserve (now.getD scene.now)
    (.ok (.time start), Controller.withSchedule Scene.deskPlace { schedule with buffer } scene)
  | .timers => (.ok (.timers scene.desk.schedule.timers), scene)
  | .nodes => (.ok (.nodes scene.cluster.nodes.values), scene)
  | .pods => (.ok (.keys scene.cluster.actors.keys), scene)
  | .putNode node => silently { scene with cluster := scene.cluster.putNode node }
  | .deleteNode name => silently { scene with cluster := scene.cluster.deleteNode name }
  | .putPod pod fate => silently { scene with cluster := scene.cluster.putPod pod fate }
  | .deletePod key => silently { scene with cluster := scene.cluster.deletePod key }
  | .putDaemonSet daemonSet =>
    silently { scene with cluster := scene.cluster.putDaemonSet daemonSet }
  | .deleteDaemonSet daemonSet =>
    silently { scene with cluster := scene.cluster.deleteDaemonSet daemonSet }
  | .script key failures => silently { scene with script := scene.script.append key failures }
  | .stand key failure => silently { scene with script := scene.script.stand key failure }
  | .getNode name => report (fun node => .node node.name) (work (Work.getNode name))
  | .disableScheduling name => report (fun _ => .node name) (work (Work.disableScheduling name))
  | .podsOn node => report (fun pods => .keys (pods.map (·.key))) (work (Work.podsOn node))
  | .getPod name ns => report (fun pod => .pod pod.name) (work (Work.getPod name ns))
  | .evictPod pod grace => report (fun _ => .nothing) (work (Work.evictPod pod grace))
  | .getDaemonSet name ns =>
    report (fun daemonSet => .daemonSet daemonSet.name) (work (Work.getDaemonSet name ns))

/-- Take the steps of a hook, and note after each one what it answered. -/
def takeHooked (take : Step T → Scene T → Except Failure (Answer T) × Scene T)
    (steps : List (Step T)) (scene : Scene T) : Scene T :=
  steps.foldl (fun scene step =>
    let (result, scene) := take step scene
    scene.note (.hooked result)) scene

/-- Use the hooks on a request up, one after another. -/
def useHooks (take : Step T → Scene T → Except Failure (Answer T) × Scene T) (key : String) :
    (count : Nat) → Scene T → Scene T
  | 0, scene => scene
  | count + 1, scene =>
    match scene.takeHook? key with
    | none => scene
    | some (hook, scene) => useHooks take key count (takeHooked take hook.steps scene)

/-- The world of a rehearsal in which hooks may lie so deep. -/
def worldWithin (controller : Controller T) (turns : Nat) :
    (depth : Nat) → Surroundings (World T) (Scene T)
  | 0 => Scene.world fun _ scene => scene
  | depth + 1 =>
    let take := Step.take controller (worldWithin controller turns depth) turns
    Scene.world fun key scene => useHooks take key scene.hooks.length scene

/-- The world of a rehearsal. -/
def worldOf (controller : Controller T) (turns : Nat) (scene : Scene T) :
    Surroundings (World T) (Scene T) :=
  worldWithin controller turns scene.hooks.length

/-- Take one step of a rehearsal. -/
def perform (controller : Controller T) (turns : Nat) (step : Step T) (scene : Scene T) :
    Except Failure (Answer T) × Scene T :=
  step.take controller (worldOf controller turns scene) turns scene

end Evacuation.Rehearsal
