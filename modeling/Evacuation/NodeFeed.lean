import Evacuation.Document.Basic
import Evacuation.Schedule.Control
/-!
# The feed of notifications

Changes of nodes come in streams. A stream is opened at a position in the history of the cluster,
or at the present if there is none, and delivers notifications and reports of errors until it
ends or breaks. The position moves with every notification taken over and is given up only when
it has expired. A stream that ends or has expired is followed by the next one at once, one that
breaks after a pause. A report of an error that is no object breaks its stream. When the feed is to
stop, the stream in hand is closed and no other is opened.
-/
namespace Evacuation

/-- What a stream delivers. -/
inductive Delivery where
  | notification (notification : Notification)
  /-- An error was reported, with a document about it. -/
  | error (report : Option Document)
  /-- The stream broke. -/
  | failure (failure : Failure)

/-- A delivery, and whether the feed is told to stop just before it. -/
structure Arrival where
  delivery : Delivery
  stopping : Bool := false

/-- What the feed does apart from taking notifications over. -/
inductive FeedAct where
  /-- A stream is opened at a position. -/
  | opened (position : Option String)
  /-- The stream in hand is closed. -/
  | closed
  /-- A pause before the next stream. -/
  | paused
  | warned (message : String)
  deriving DecidableEq, Repr

/-- The state of a feed. -/
structure Feed where
  /-- Where the next stream goes on. -/
  position : Option String := none
  stopped : Bool := false
  /-- The notifications taken over, in their order. -/
  queue : List Notification := []
  /-- What the feed did, in its order. -/
  acts : List FeedAct := []

namespace Feed

/-- The document about an error; an empty one counts as missing. -/
def reportOf (report : Option Document) : Document :=
  match report with
  | some document => if document.isEmpty then .object [] else document
  | none => .object []

/-- An error report that says that the position has expired. -/
def isExpiry (report : Document) : Bool := (report.get? "code").any (·.isNumber 410)

/-- The failure of a stream that reports an error by something else than an object. -/
def misreported (report : Document) : Failure :=
  .broken "AttributeError" s!"'{report.kindName}' object has no attribute 'get'"

/-- The text of an error report: its message, or else the whole of it. -/
def reportText (report : Document) : String := ((report.get? "message").getD report).plain

/-- The feed after one more act. -/
def act (feed : Feed) (done : FeedAct) : Feed := { feed with acts := feed.acts ++ [done] }

/-- The feed after a stream broke. -/
def broken (feed : Feed) (failure : Failure) : Feed :=
  match failure with
  | .refused refusal =>
    if refusal.isGone then { feed with position := none }
    else (feed.act (.warned s!"Node watch failed: {refusal.describe}")).act .paused
  | failure => (feed.act (.warned s!"Node watch stream broke: {failure.message}")).act .paused

/-- The feed after a notification was taken over. -/
def take (feed : Feed) (notification : Notification) : Feed :=
  { feed with
    position := notification.node.resourceVersion
    queue := feed.queue ++ [notification] }

/-- Read a stream as far as it is read. -/
def read : List Arrival → Feed → Feed
  | [], feed => feed
  | arrival :: rest, before =>
    let feed := { before with stopped := before.stopped || arrival.stopping }
    match arrival.delivery with
    | .failure failure => feed.broken failure
    | .error report =>
      let document := reportOf report
      if feed.stopped then feed.act .closed
      else if !document.isObject then feed.broken (misreported document)
      else if isExpiry document then { feed with position := none }
      else read rest (feed.act (.warned s!"Node watch returned an error: {reportText document}"))
    | .notification notification =>
      if feed.stopped then feed.act .closed else read rest (feed.take notification)

/-- Read streams one after another until the feed is to stop. After the last one a stream is opened
that delivers nothing, and the feed stops. -/
def watch : List (List Arrival) → Feed → Feed
  | [], feed =>
    if feed.stopped then feed
    else { feed.act (.opened feed.position) with stopped := true }
  | stream :: rest, feed =>
    if feed.stopped then feed
    else watch rest ((feed.act (.opened feed.position)).read stream)

/-- A stopped feed opens no stream. -/
theorem watch_of_stopped {feed : Feed} (stopped : feed.stopped = true)
    (streams : List (List Arrival)) : watch streams feed = feed := by
  cases streams <;> simp [watch, stopped]

end Feed

/-- How nodes are watched. Times are in seconds. -/
structure NodeWatch (T : Type) where
  /-- How long a stream is kept open. -/
  timeout : T
  /-- The pause after a stream broke. -/
  retryInterval : T

/-- How nodes are watched unless something else is said. -/
def NodeWatch.usual {T : Type} [TimeScale T] : NodeWatch T :=
  ⟨TimeScale.ofInt 300, TimeScale.ofInt 5⟩

end Evacuation
