import Evacuation.Time.Scale
/-!
# Drain buffers

A drain buffer hands out start times so that any two drains start at least a spacing apart. A
reservation never waits: the caller is told when its drain may start. The first start is the time
asked for, and each later one is the time asked for or the last start plus the spacing, whichever
is later.
-/
namespace Evacuation

/-- Start times handed out with a spacing between them. -/
structure DrainBuffer (T : Type) where
  spacing : T
  lastReserved : Option T := none

namespace DrainBuffer

variable {T : Type} [TimeScale T]

/-- A buffer with a spacing, which must not be negative. -/
def ofSpacing? (spacing : T) : Option (DrainBuffer T) :=
  if TimeScale.before spacing TimeScale.zero then none else some { spacing }

/-- The text that reports a negative spacing. -/
def negativeSpacing : String := "drain buffer spacing must not be negative"

/-- The start that a reservation at a time gets. -/
def nextStart (buffer : DrainBuffer T) (now : T) : T :=
  match buffer.lastReserved with
  | none => now
  | some last => TimeScale.later now (last + buffer.spacing)

/-- The start reserved at a time, and the buffer that remembers it. -/
def reserve (buffer : DrainBuffer T) (now : T) : T × DrainBuffer T :=
  let start := buffer.nextStart now
  (start, { buffer with lastReserved := some start })

/-- The starts of a sequence of reservations, one at each time. -/
def starts (buffer : DrainBuffer T) : List T → List T
  | [] => []
  | now :: rest =>
    let reserved := buffer.reserve now
    reserved.1 :: reserved.2.starts rest

@[simp] theorem lastReserved_reserve (buffer : DrainBuffer T) (now : T) :
    (buffer.reserve now).2.lastReserved = some (buffer.reserve now).1 := rfl

@[simp] theorem spacing_reserve (buffer : DrainBuffer T) (now : T) :
    (buffer.reserve now).2.spacing = buffer.spacing := rfl

end DrainBuffer

end Evacuation
