import Evacuation.Failure
import Evacuation.Schedule.Basic
/-!
# Transactions

Everything that looks at the schedule or changes it does so in one of seven transactions, and a
transaction is never interrupted by another. What happens between two transactions of a program is
open to others, so a program looks again at what it relies on: a drain begins only if the record
it was scheduled with is still the current one of the node.
-/
namespace Evacuation

/-- The place of a drain in the schedule, as it was booked. -/
structure Appointment (T : Type) where
  timer : Nat
  interval : T
  start : T

/-- The transactions on a schedule. -/
inductive Transaction where
  /-- See whether a node has a record, and whether its drain has failed. -/
  | look (node : String)
  /-- Make a record and a timer for a node that has no record. -/
  | book (node : Node)
  /-- Begin a drain, if its record is the current one of the node. -/
  | launch (node : String) (record : Nat)
  /-- Write the end of a drain into its record. -/
  | finish (record : Nat) (retries : Int) (error : Option String)
  /-- Drop the record and the timer of a node. -/
  | forget (node : String)
  /-- Drop the record of a node whose drain has ended. -/
  | clear (node : String)
  /-- Drop the records of all drains that wait for their timers, and the timers. -/
  | halt
  deriving DecidableEq

/-- What a transaction answers. -/
abbrev Transaction.Reply (T : Type) : Transaction → Type
  | .look _ => Bool × Bool
  | .book _ => Except Failure (Appointment T)
  | .launch _ _ => Bool
  | .finish _ _ _ => Unit
  | .forget _ => Option Nat
  | .clear _ => Bool
  | .halt => List Nat

namespace Schedule

variable {T : Type} [TimeScale T]

/-- Make a record and a timer for a node. -/
def book (schedule : Schedule T) (now : T) (node : Node) :
    Except Failure (Appointment T) × Schedule T :=
  if schedule.tracked.contains node.name then (.error (.alreadyScheduled node.name), schedule)
  else
    let (start, buffer) := schedule.buffer.reserve now
    let record := schedule.records.length
    let timer := schedule.timers.length
    let interval := TimeScale.later (start - now) TimeScale.zero
    (.ok ⟨timer, interval, start⟩,
      { buffer
        records := schedule.records ++ [(DrainRecord.fresh node.name).schedule start]
        timers := schedule.timers ++ [⟨node, record, interval, now + interval, .fresh⟩]
        tracked := schedule.tracked.insert node.name record
        armed := schedule.armed.insert node.name timer })

/-- Begin a drain. -/
def launch (schedule : Schedule T) (now : T) (node : String) (record : Nat) : Bool × Schedule T :=
  if schedule.isCurrent node record then
    (true, { schedule.change record (·.begun now) with armed := schedule.armed.erase node })
  else (false, schedule)

/-- Drop the record and the timer of a node. -/
def forget (schedule : Schedule T) (node : String) : Option Nat × Schedule T :=
  (schedule.armed.get? node,
    { schedule with
      tracked := schedule.tracked.erase node
      armed := schedule.armed.erase node })

/-- Drop the record of a node whose drain has ended. -/
def clear (schedule : Schedule T) (node : String) : Bool × Schedule T :=
  if (schedule.current? node).any (·.phase.isTerminal) then
    (true, { schedule with tracked := schedule.tracked.erase node })
  else (false, schedule)

/-- Drop all that waits. -/
def halt (schedule : Schedule T) : List Nat × Schedule T :=
  (schedule.armed.values,
    { schedule with
      tracked := schedule.armed.keys.foldl Table.erase schedule.tracked
      armed := ∅ })

/-- One transaction at a time of the clock. -/
def transact (schedule : Schedule T) (now : T) :
    (transaction : Transaction) → transaction.Reply T × Schedule T
  | .look node => (schedule.status node, schedule)
  | .book node => schedule.book now node
  | .launch node record => schedule.launch now node record
  | .finish record retries error => ((), schedule.change record (·.finish now retries error))
  | .forget node => schedule.forget node
  | .clear node => schedule.clear node
  | .halt => schedule.halt

end Schedule

end Evacuation
