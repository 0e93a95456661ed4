import Evacuation.Rehearsal.Cluster
import Evacuation.Rehearsal.Script
import Evacuation.Schedule.Controller
/-!
# Scenes

The state of a rehearsal: one clock, a cluster, a script of failures, the desk of the controller
and a journal of all that happened. A hook holds steps that are taken just before a certain
request is answered, which is how others come in between while the controller waits.
-/
namespace Evacuation.Rehearsal

variable {T : Type} [TimeScale T]

/-- A step of a rehearsal. -/
inductive Step (T : Type) where
  | dispatch (notification : Notification)
  | handleNode (node : Node)
  | schedule (node : Node)
  | hasSchedule (node : String)
  | getRecord (node : String)
  | deleteSchedule (node : String)
  | clearIfHealthy (node : String)
  | stop
  /-- Let a timer go off, whatever its state. A negative number counts from the last timer. -/
  | fire (timer : Int)
  /-- Let time pass, and then let the timers go off that are due. -/
  | tick (span : T)
  | cordon (node : Node)
  | drain (node : Node)
  /-- Reserve a start, at the time of the clock if none is given. -/
  | reserve (now : Option T)
  | timers
  | nodes
  | pods
  | putNode (node : Node)
  | deleteNode (name : String)
  | putPod (pod : Pod) (fate : Fate T)
  | deletePod (key : String)
  | putDaemonSet (daemonSet : DaemonSet)
  | deleteDaemonSet (daemonSet : DaemonSet)
  | script (key : String) (failures : List (Option Failure))
  | stand (key : String) (failure : Option Failure)
  | getNode (name : String)
  | disableScheduling (name : String)
  | podsOn (node : String)
  | getPod (name ns : String)
  | evictPod (pod : Pod) (grace : Int)
  | getDaemonSet (name ns : String)

/-- What a step answers. -/
inductive Answer (T : Type) where
  | nothing
  | flag (value : Bool)
  | flags (first second : Bool)
  | time (value : T)
  | record (record : Option (DrainRecord T))
  | fired (timers : List Nat)
  | timers (timers : List (Timer T))
  | nodes (nodes : List Node)
  | keys (keys : List String)
  | report (report : DrainReport)
  | node (name : String)
  | pod (name : String)
  | daemonSet (name : String)

/-- An entry of the journal. -/
inductive Entry (T : Type) where
  | called (call : Call)
  | raised (failure : Failure)
  | hooked (result : Except Failure (Answer T))
  | slept (span : T)
  | pool (workers : Nat) (name : String)
  | worker (index : Nat) (time : T)
  | notice (notice : Notice T)
  /-- A timer went off in its time. -/
  | fired (timer : Nat)
  /-- A stream of notifications was opened. -/
  | opened (position : Option String)
  | waited
  | closed
  /-- The queue of notifications was asked for the next one. -/
  | polled
  /-- The stream of notifications will not be opened again. -/
  | streamed

/-- Steps to be taken before a request is answered for the first time. -/
structure Hook (T : Type) where
  before : String
  steps : List (Step T)

/-- The state of a rehearsal. -/
structure Scene (T : Type) where
  now : T
  cluster : Cluster T := {}
  script : Script := {}
  hooks : List (Hook T) := []
  desk : Desk T
  /-- What happened, the latest first. -/
  journal : List (Entry T) := []

namespace Scene

/-- The scene with one more entry in its journal. -/
def note (scene : Scene T) (entry : Entry T) : Scene T :=
  { scene with journal := entry :: scene.journal }

/-- The desk of the controller. -/
def deskPlace : Place (Scene T) (Desk T) := ⟨Scene.desk, fun desk scene => { scene with desk }⟩

/-- The first hook on a request, and the scene without it. -/
def takeHook? (scene : Scene T) (key : String) : Option (Hook T × Scene T) :=
  match scene.hooks.findIdx? (·.before == key) with
  | none => none
  | some place =>
    (scene.hooks[place]?).map fun hook => (hook, { scene with hooks := scene.hooks.eraseIdx place })

/-- Answer a request, or let it fail as the script says. -/
def respond (scene : Scene T) (call : Call) : Except Failure call.Answer × Scene T :=
  let (failure, script) := scene.script.next call
  let scene := { scene with script }
  match failure with
  | some failure => (.error failure, scene.note (.raised failure))
  | none =>
    let (reply, cluster) := Cluster.answer scene.now call scene.cluster
    let scene := { scene with cluster }
    match reply with
    | .ok value => (.ok value, scene)
    | .error failure => (.error failure, scene.note (.raised failure))

/-- The scene as surroundings of the controller's work. What the hooks on a request do is given. -/
def world (hooks : String → Scene T → Scene T) : Surroundings (World T) (Scene T)
  | .call call, scene => (hooks call.key (scene.note (.called call))).respond call
  | .clock, scene => (scene.now, scene)
  | .sleep span, scene => ((), { scene.note (.slept span) with now := scene.now + span })
  | .openPool workers name, scene => ((), scene.note (.pool workers name))
  | .resume worker time, scene => ((), { scene.note (.worker worker time) with now := time })
  | .closePool time, scene => ((), { scene with now := time })
  | .tell notice, scene => ((), scene.note (.notice notice))

end Scene

end Evacuation.Rehearsal
