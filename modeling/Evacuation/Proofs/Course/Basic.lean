import Evacuation.Proofs.Office.Basic
/-!
# Courses

A course is what becomes of a controller when one thing is done at a time: a notification is
dispatched, a timer goes off, or the drains that wait are stopped. The executor and the clock are
given: what a cordon or a drain of a node comes to depends on the node and on how many there were
before. A course keeps the signs of its work that can be seen from outside, and a node has its own
sight of it: its record, whether the filters remember it, and the signs about it.
-/
namespace Evacuation

/-- What an executor makes of its work: the outcome of each cordon and each drain of a node, by how
many of that node there were before. -/
structure Fortune where
  cordon : Node → Nat → Except Failure Unit
  drain : Node → Nat → Except Failure DrainReport

/-- The event without its text, if that tells a start. -/
def NodeEvent.withoutStart (event : NodeEvent) : NodeEvent :=
  { event with
    message := if event.reason = Stage.drainScheduled.reason then "" else event.message }

/-- What can be seen from outside. -/
inductive Sign where
  | cordoned (node : Node)
  | drained (node : Node)
  | told (event : NodeEvent)
  deriving DecidableEq

namespace Sign

/-- The name of the node it is about. -/
def node : Sign → String
  | cordoned node | drained node => node.name
  | told event => event.node

/-- The sign without a text that tells a start. -/
def withoutStart : Sign → Sign
  | told event => told event.withoutStart
  | sign => sign

/-- It is a cordon of the node of a name. -/
def isCordonOf (name : String) : Sign → Bool
  | cordoned node => node.name == name
  | _ => false

/-- It is a drain of the node of a name. -/
def isDrainOf (name : String) : Sign → Bool
  | drained node => node.name == name
  | _ => false

end Sign

/-- A desk and what was seen of the work at it. -/
structure Course (T : Type) where
  desk : Desk T
  signs : List Sign := []
  /-- How many transactions there were in the round. -/
  asked : Nat := 0

/-- What comes up. The timers of a node are counted in the order in which they were made. -/
inductive Occasion where
  | dispatch (notification : Notification)
  | timer (node : String) (which : Nat)
  | stop

/-- What comes up, and the times of the transactions that it leads to. -/
structure Round (T : Type) where
  occasion : Occasion
  clock : Nat → T

/-- It comes up about the node of a name. A stop is about all nodes. -/
def Round.concerns {T : Type} (round : Round T) (name : String) : Bool :=
  match round.occasion with
  | .dispatch notification => notification.node.name == name
  | .timer node _ => node == name
  | .stop => true

/-- What a course depends on besides what comes up. -/
structure Circumstances (T : Type) where
  controller : Controller T
  fortune : Fortune
  /-- What becomes of recording an event, by what was seen before. -/
  filing : List Sign → Except Failure Unit

namespace Schedule

variable {T : Type}

/-- The places of the timers that were made for a node. -/
def places (schedule : Schedule T) (name : String) : List Nat :=
  (List.range schedule.timers.length).filter fun place =>
    schedule.timers[place]?.any (·.node.name == name)

/-- A timer has gone off. -/
def hasGoneOff (schedule : Schedule T) (timer : Nat) : Bool :=
  schedule.timers[timer]?.any (·.state == .fired)

end Schedule

/-- What a node sees of a course. -/
structure Sight (T : Type) where
  /-- Its current record. -/
  record : Option (DrainRecord T)
  /-- The filters remember it. -/
  processed : Bool
  /-- The signs about it. -/
  signs : List Sign

/-- The record without its start. -/
def DrainRecord.withoutStart {T : Type} (record : DrainRecord T) : DrainRecord T :=
  { record with scheduledFor := none }

/-- What a node sees apart from the starts that it is given. -/
def Sight.withoutStart {T : Type} (sight : Sight T) : Sight T :=
  { record := sight.record.map DrainRecord.withoutStart
    processed := sight.processed
    signs := sight.signs.map Sign.withoutStart }

namespace Course

variable {T : Type}

/-- A course at its beginning. -/
def opened (buffer : DrainBuffer T) : Course T := { desk := { schedule := { buffer } } }

/-- The course with one more sign. -/
def note (course : Course T) (sign : Sign) : Course T :=
  { course with signs := course.signs ++ [sign] }

/-- What the node of a name sees of a course. -/
def sight (course : Course T) (name : String) : Sight T :=
  { record := course.desk.schedule.current? name
    processed := course.desk.processed.contains name
    signs := course.signs.filter (·.node == name) }

/-- Every start that the node of a name was given can be shown. -/
def Shown (course : Course T) [TimeScale T] (name : String) : Prop :=
  ∀ record ∈ course.desk.schedule.records, record.node = name → ∀ start,
    record.scheduledFor = some start → ∃ text, showInstant start = .ok text

end Course

/-- How many transactions a request is. -/
def Control.Request.transactions {T : Type} : Control.Request T → Nat
  | .transact _ => 1
  | _ => 0

namespace Circumstances

variable {T : Type} [TimeScale T] (circumstances : Circumstances T)

/-- The answers to the control of drains in a round. The k-th transaction takes place at the k-th
time of its clock. -/
def answer (clock : Nat → T) : Surroundings (Control T) (Course T)
  | .announce stage node message, course =>
    (Work.letGo (circumstances.filing course.signs), course.note (.told (stage.event node message)))
  | .cordon node, course =>
    (circumstances.fortune.cordon node (course.signs.countP (·.isCordonOf node.name)),
      course.note (.cordoned node))
  | .drain node, course =>
    (circumstances.fortune.drain node (course.signs.countP (·.isDrainOf node.name)),
      course.note (.drained node))
  | request, course =>
    let answered := circumstances.controller.atDesk (clock course.asked) request course.desk
    (answered.1, { course with desk := answered.2, asked := course.asked + request.transactions })

/-- A program worked through in a round. -/
def work {α : Type} (clock : Nat → T) (program : Controlling T α) (course : Course T) :
    α × Course T :=
  program.run (circumstances.answer clock) { course with asked := 0 }

/-- What a round comes to. A timer goes off at most once, and nothing comes up for a timer that was
not made or went off. -/
def take (course : Course T) (round : Round T) : Except Failure Unit × Course T :=
  match round.occasion with
  | .dispatch notification =>
    circumstances.work round.clock (Control.Command.dispatch notification).program course
  | .timer node which =>
    match (course.desk.schedule.places node)[which]? with
    | none => (.ok (), course)
    | some timer =>
      if course.desk.schedule.hasGoneOff timer then (.ok (), course)
      else circumstances.work round.clock (Control.fireTimer timer) course
  | .stop => circumstances.work round.clock Control.Command.stop.program course

/-- The course after rounds. -/
def after (course : Course T) (rounds : List (Round T)) : Course T :=
  rounds.foldl (fun course round => (circumstances.take course round).2) course

/-- What the node of a name sees after each of the rounds that concern it. -/
def sights (name : String) : Course T → List (Round T) → List (Sight T)
  | _, [] => []
  | course, round :: rest =>
    let later := (circumstances.take course round).2
    if round.concerns name then later.sight name :: sights name later rest
    else sights name later rest

end Circumstances

end Evacuation
