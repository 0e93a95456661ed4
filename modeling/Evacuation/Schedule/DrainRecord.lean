import Evacuation.Time.Scale
/-!
# Drain records

What is kept about the drain of one node. A record is made when its node has been cordoned, gets a
start time, is drained once, and ends as succeeded or failed. Each step is one function, and each
field it fills in is described by the step's equations.
-/
namespace Evacuation

/-- How far the drain of a node has come. -/
inductive Phase where
  | cordoned
  | scheduled
  | draining
  | succeeded
  | failed
  deriving DecidableEq, Repr

namespace Phase

/-- All phases, in the order in which a record goes through them. -/
def all : List Phase := [.cordoned, .scheduled, .draining, .succeeded, .failed]

/-- The name of a phase. -/
def label : Phase → String
  | .cordoned => "cordoned"
  | .scheduled => "scheduled"
  | .draining => "draining"
  | .succeeded => "succeeded"
  | .failed => "failed"

/-- The drain has ended. -/
def isTerminal : Phase → Bool
  | .succeeded | .failed => true
  | .cordoned | .scheduled | .draining => false

end Phase

/-- What is kept about the drain of one node. -/
structure DrainRecord (T : Type) where
  node : String
  phase : Phase := .cordoned
  /-- When the drain may start. -/
  scheduledFor : Option T := none
  startedAt : Option T := none
  finishedAt : Option T := none
  /-- Requests for evictions beyond the first one of each pod. -/
  retries : Int := 0
  /-- Why the drain failed. -/
  lastError : Option String := none
  deriving Repr

namespace DrainRecord

variable {T : Type}

/-- The record of a node that was cordoned. -/
def fresh (node : String) : DrainRecord T := { node }

/-- The record with a start time. -/
def schedule (record : DrainRecord T) (start : T) : DrainRecord T :=
  { record with phase := .scheduled, scheduledFor := some start }

/-- The record once its drain has begun. -/
def begun (record : DrainRecord T) (now : T) : DrainRecord T :=
  { record with phase := .draining, startedAt := some now }

/-- An error text that says something makes a drain a failure. -/
def isFault : Option String → Bool
  | none => false
  | some text => !text.isEmpty

/-- The record once its drain has ended. -/
def finish (record : DrainRecord T) (now : T) (retries : Int) (error : Option String) :
    DrainRecord T :=
  { record with
    phase := if isFault error then .failed else .succeeded
    finishedAt := some now
    retries
    lastError := error }

@[simp] theorem node_schedule (record : DrainRecord T) (start : T) :
    (record.schedule start).node = record.node := rfl

@[simp] theorem node_begun (record : DrainRecord T) (now : T) :
    (record.begun now).node = record.node := rfl

@[simp] theorem node_finish (record : DrainRecord T) (now : T) (retries : Int)
    (error : Option String) : (record.finish now retries error).node = record.node := rfl

/-- A finished record is in a terminal phase. -/
@[simp] theorem isTerminal_finish (record : DrainRecord T) (now : T) (retries : Int)
    (error : Option String) : (record.finish now retries error).phase.isTerminal = true := by
  unfold finish
  cases isFault error <;> rfl

end DrainRecord

end Evacuation
