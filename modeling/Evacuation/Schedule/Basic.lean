import Evacuation.DrainBuffer
import Evacuation.Node
import Evacuation.Schedule.DrainRecord
/-!
# Schedules

The bookkeeping of all drains. Every record and every timer that was ever made keeps its place in
a list, and its place is its identity: two records of one node are told apart by it. `tracked`
names the current record of a node, `armed` the timer that will begin its drain. A node without a
tracked record may be scheduled.
-/
namespace Evacuation

/-- How far a timer has come. -/
inductive TimerState where
  /-- It was made but not started. -/
  | fresh
  | pending
  | cancelled
  | fired
  deriving DecidableEq, Repr

namespace TimerState

/-- A timer is told to run. One that was cancelled before stays cancelled. -/
def start : TimerState → TimerState
  | .fresh => .pending
  | state => state

/-- A timer is cancelled. One that went off before has gone off. -/
def cancel : TimerState → TimerState
  | .fired => .fired
  | _ => .cancelled

/-- A timer goes off, as it may even after it was cancelled. -/
def fire (_ : TimerState) : TimerState := .fired

end TimerState

/-- A timer that begins the drain of a node. -/
structure Timer (T : Type) where
  node : Node
  /-- The place of the record it was made for. -/
  record : Nat
  interval : T
  /-- When it goes off. -/
  due : T
  state : TimerState := .fresh
  deriving Repr

/-- The bookkeeping of all drains. -/
structure Schedule (T : Type) where
  buffer : DrainBuffer T
  /-- Every record ever made. -/
  records : List (DrainRecord T) := []
  /-- Every timer ever made. -/
  timers : List (Timer T) := []
  /-- The current record of each node, by its place. -/
  tracked : Table String Nat := ∅
  /-- The timer of each node that waits for its drain, by its place. -/
  armed : Table String Nat := ∅

namespace Schedule

variable {T : Type}

/-- The current record of a node. -/
def current? (schedule : Schedule T) (node : String) : Option (DrainRecord T) :=
  (schedule.tracked.get? node).bind (schedule.records[·]?)

/-- The current records, in the order in which their nodes came. -/
def current (schedule : Schedule T) : List (DrainRecord T) :=
  schedule.tracked.values.filterMap (schedule.records[·]?)

/-- A node has a record, and its drain has failed. -/
def status (schedule : Schedule T) (node : String) : Bool × Bool :=
  match schedule.current? node with
  | none => (false, false)
  | some record => (true, decide (record.phase = .failed))

/-- A record is the current one of its node. -/
def isCurrent (schedule : Schedule T) (node : String) (record : Nat) : Bool :=
  schedule.tracked.get? node == some record

/-- The schedule with one record changed. -/
def change (schedule : Schedule T) (record : Nat) (update : DrainRecord T → DrainRecord T) :
    Schedule T :=
  { schedule with records := schedule.records.modify record update }

/-- The schedule with the state of one timer moved on. -/
def turnTimer (schedule : Schedule T) (timer : Nat) (turn : TimerState → TimerState) :
    Schedule T :=
  { schedule with timers := schedule.timers.modify timer fun t => { t with state := turn t.state } }

end Schedule

end Evacuation
