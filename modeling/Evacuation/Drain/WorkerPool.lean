import Evacuation.Cluster
/-!
# Worker pools

Pieces of work are done side by side by a fixed number of workers. Every worker has a time of its
own, which begins when the pool is set up. Each piece of work goes to the worker that is free
first, the one with the lowest number among several, and moves that worker's time forward. The
results are reported in the order in which the pieces were finished, those finished at the same
time in the order in which they were given; the pool is closed at the time of its last worker.

An undefined time comes neither before nor after any other. Where times are undefined, the order
of the results depends on which of them are compared, so this is fixed: results that are in order
already stay as they are, and each further one is placed by halving the ones before it.
-/
namespace Evacuation

variable {T α : Type} [TimeScale T]

namespace WorkerPool

/-- The worker that is free first, with its time, among the best one found so far and the workers
from a number on. -/
def freeFirstFrom (best : Nat × T) (worker : Nat) : List T → Nat × T
  | [] => best
  | time :: rest =>
    freeFirstFrom (if TimeScale.before time best.2 then (worker, time) else best) (worker + 1) rest

/-- The worker that is free first, with its time. -/
def freeFirst : List T → Option (Nat × T)
  | [] => none
  | time :: rest => some (freeFirstFrom (0, time) 1 rest)

/-- The time at which the last worker is free. -/
def lastFree (start : T) : List T → T
  | [] => start
  | time :: rest => rest.foldl TimeScale.later time

/-- One result ended before another. -/
def endedBefore (a b : T × α) : Bool := TimeScale.before a.1 b.1

/-- The place of a result among the sorted ones between two places: after those that ended no
later. The places are halved until one is left. -/
def placeBetween (finished : T × α) (sorted : List (T × α)) (low high : Nat) : Nat :=
  if low < high then
    let middle := low + (high - low) / 2
    match sorted[middle]? with
    | some other =>
      if endedBefore finished other then placeBetween finished sorted low middle
      else placeBetween finished sorted (middle + 1) high
    | none => low
  else low
termination_by high - low
decreasing_by all_goals omega

/-- A result placed among sorted ones. -/
def place (finished : T × α) (sorted : List (T × α)) : List (T × α) :=
  let position := placeBetween finished sorted 0 sorted.length
  sorted.take position ++ finished :: sorted.drop position

/-- The results after one that each ended before the one in front of them, last first, put in front
of those given, and the results that follow. -/
def fallingRun (before : T × α) (run : List (T × α)) :
    List (T × α) → List (T × α) × List (T × α)
  | [] => (run, [])
  | next :: rest =>
    if endedBefore next before then fallingRun next (next :: run) rest else (run, next :: rest)

/-- The results after one none of which ended before the one in front of it, and those that
follow. -/
def risingRun (before : T × α) : List (T × α) → List (T × α) × List (T × α)
  | [] => ([], [])
  | next :: rest =>
    if endedBefore next before then ([], next :: rest)
    else
      let (run, others) := risingRun next rest
      (next :: run, others)

/-- Results in the order of their ends. A run at the front that is in order, or in the opposite
one, is taken as a whole. -/
def byFinish : List (T × α) → List (T × α)
  | [] => []
  | [only] => [only]
  | first :: second :: rest =>
    let (run, others) :=
      if endedBefore second first then fallingRun second [second, first] rest
      else
        let (run, others) := risingRun second rest
        (first :: second :: run, others)
    others.foldl (fun sorted finished => place finished sorted) run

/-- Do one piece of work after another, each on the worker that is free first. -/
def perform (start : T) : (times : List T) → List (Work T α) → Work T (List (T × α) × List T)
  | times, [] => return ([], times)
  | times, task :: rest => do
    let (worker, time) := (freeFirst times).getD (0, start)
    Program.request (I := World T) (.resume worker time)
    let result ← task
    let finish ← Work.clock
    let (results, times) ← perform start (times.set worker finish) rest
    return ((finish, result) :: results, times)

/-- Do pieces of work with a number of workers. The results come in the order of their ends. -/
def run (workers : Nat) (name : String) (tasks : List (Work T α)) : Work T (List α) := do
  let start ← Work.clock
  Program.request (I := World T) (.openPool workers name)
  let (results, times) ← perform start (List.replicate workers start) tasks
  Program.request (I := World T) (.closePool (lastFree start times))
  return (byFinish results).map (·.2)

end WorkerPool

end Evacuation
