import Evacuation.Event
import Evacuation.Failure
import Evacuation.Node
import Evacuation.Pod
import Evacuation.Program
/-!
# Talking to the cluster

The requests that the controller sends to the cluster, and the rest of what its work asks of its
surroundings: the time, pauses, and a pool of workers on which several pieces of work run side by
side, each worker with a time of its own. Most requests are sent exactly once per call. Listing
the pods of a node and looking a daemon set up are sent again after a transient refusal, two
seconds later and at most three times in all (`readAgain`).
-/
namespace Evacuation

/-- A daemon set, as far as its existence matters. -/
structure DaemonSet where
  ns : String
  name : String
  deriving DecidableEq, Repr

/-- A request to the cluster. -/
inductive Call where
  | readNode (name : String)
  /-- Disable scheduling on a node. -/
  | patchNode (name : String)
  | listPods (node : String)
  | evict (pod : Pod) (grace : Int)
  | readPod (name ns : String)
  | readDaemonSet (name ns : String)
  | createEvent (ns : String) (event : FiledEvent)

/-- What an accepted request answers. -/
def Call.Answer : Call → Type
  | .readNode _ => Node
  | .patchNode _ => Unit
  | .listPods _ => List Pod
  | .evict _ _ => Unit
  | .readPod _ _ => Pod
  | .readDaemonSet _ _ => DaemonSet
  | .createEvent _ _ => Unit

/-- What the surroundings are told without an answer. -/
inductive Notice (T : Type) where
  /-- A timer is set up. -/
  | armed (timer : Nat) (interval : T)
  /-- A timer begins to run, under a name. -/
  | started (timer : Nat) (name : String)
  | cancelled (timer : Nat)
  /-- A failure went no further. -/
  | complaint (message : String)
  /-- Something is amiss, and is tried again. -/
  | warning (message : String)

/-- What the work of the controller asks of its surroundings. -/
inductive World.Request (T : Type) where
  | call (call : Call)
  | clock
  | sleep (span : T)
  /-- Set workers up under a name. -/
  | openPool (workers : Nat) (name : String)
  /-- Give the next piece of work to a worker, at the worker's time. -/
  | resume (worker : Nat) (time : T)
  /-- Wait for all workers; the last one is done at the given time. -/
  | closePool (time : T)
  | tell (notice : Notice T)

/-- The interface of the work of the controller. -/
def World (T : Type) : Interface where
  Request := World.Request T
  Reply
    | .call call => Except Failure call.Answer
    | .clock => T
    | .sleep _ => Unit
    | .openPool _ _ => Unit
    | .resume _ _ => Unit
    | .closePool _ => Unit
    | .tell _ => Unit

/-- A program of the controller's work. -/
abbrev Work (T α : Type) := Program (World T) α

namespace Work

variable {T α : Type}

/-- Send a request to the cluster. -/
def call (call : Call) : Work T (Except Failure call.Answer) :=
  Program.request (I := World T) (.call call)

/-- Read the clock. -/
def clock : Work T T := Program.request (I := World T) .clock

/-- Pause. -/
def sleep (span : T) : Work T Unit := Program.request (I := World T) (.sleep span)

/-- Repeat a piece of work as long as its failure is a transient refusal and a pause is planned.
The pause after each attempt is planned from the number of attempts so far; no pause means that
the last failure stands. The result comes with the number of attempts. -/
def retry (work : Work T (Except Failure α)) (plan : Nat → Work T (Option T)) :
    (turns : Nat) → (attempt : Nat) → Work T (Except Failure α × Nat)
  | 0, attempt => pure (.error .outOfTurns, attempt)
  | turns + 1, attempt => do
    match ← work with
    | .error (.refused refusal) =>
      if refusal.isTransient then
        match ← plan attempt with
        | none => return (.error (.refused refusal), attempt)
        | some pause =>
          sleep pause
          retry work plan turns (attempt + 1)
      else return (.error (.refused refusal), attempt)
    | result => return (result, attempt)

/-- How often a read is sent before its last refusal stands. -/
def readAttempts : Nat := 3

/-- Send a read again after a transient refusal, two seconds later, three times in all. -/
def readAgain [TimeScale T] (read : Work T (Except Failure α)) : Work T (Except Failure α) := do
  let plan := fun attempt =>
    pure (if attempt < readAttempts then some (TimeScale.ofInt 2) else none)
  return (← retry read plan readAttempts 1).1

/-- Read a node. -/
def getNode (name : String) : Work T (Except Failure Node) := call (.readNode name)

/-- Disable scheduling on a node. -/
def disableScheduling (name : String) : Work T (Except Failure Unit) := call (.patchNode name)

/-- The pods on a node. -/
def podsOn [TimeScale T] (node : String) : Work T (Except Failure (List Pod)) :=
  readAgain (call (.listPods node))

/-- Read a pod. -/
def getPod (name ns : String) : Work T (Except Failure Pod) := call (.readPod name ns)

/-- Request the eviction of a pod with a grace period. -/
def evictPod (pod : Pod) (grace : Int) : Work T (Except Failure Unit) := call (.evict pod grace)

/-- Look a daemon set up. -/
def getDaemonSet [TimeScale T] (name ns : String) : Work T (Except Failure DaemonSet) :=
  readAgain (call (.readDaemonSet name ns))

/-- What is left of a result when a refusal is let go: any other failure is passed on. -/
def letGo (result : Except Failure Unit) : Except Failure Unit :=
  match result with
  | .error (.refused _) => .ok ()
  | _ => result

/-- File an event, and let a refusal go. -/
def record (recorder : EventRecorder) (event : NodeEvent) : Work T (Except Failure Unit) := do
  return letGo (← call (.createEvent recorder.ns (recorder.file event)))

end Work

end Evacuation
