import Evacuation.NodeFeed
import Evacuation.Rehearsal.Performance
/-!
# Rehearsing the watch

The streams of a rehearsal are given beforehand. The feed reads them all, and then its
notifications are dispatched one after another, in their order. When the queue has been found
empty often enough the watch ends; if a stream was ever opened, it is closed.
-/
namespace Evacuation.Rehearsal

variable {T : Type} [TimeScale T]

/-- The entry of the journal for what the feed did. -/
def feedEntry : FeedAct → Entry T
  | .opened position => .opened position
  | .closed => .closed
  | .paused => .waited
  | .warned message => .notice (.warning message)

/-- The scene with what a feed did in its journal. -/
def noteFeed (feed : Feed) (scene : Scene T) : Scene T :=
  feed.acts.foldl (fun scene done => scene.note (feedEntry done)) scene

/-- A stream was opened. -/
def everOpened (feed : Feed) : Bool :=
  feed.acts.any fun done =>
    match done with
    | .opened _ => true
    | _ => false

/-- Dispatch notifications one after another. -/
def dispatchAll (controller : Controller T) (turns : Nat) (queue : List Notification)
    (scene : Scene T) : Scene T :=
  queue.foldl (fun scene notification =>
    (perform controller turns (.dispatch notification) (scene.note .polled)).2) scene

/-- Find the queue empty a number of times. -/
def pollEmpty : Nat → Scene T → Scene T
  | 0, scene => scene
  | count + 1, scene => pollEmpty count (scene.note .polled)

/-- Watch nodes: dispatch what a feed has taken over, and look a few times more. -/
def watchNodes (controller : Controller T) (turns : Nat) (feed : Feed) (extraPolls : Nat)
    (scene : Scene T) : Scene T :=
  let scene := (noteFeed feed scene).note .streamed
  let scene := pollEmpty extraPolls (dispatchAll controller turns feed.queue scene)
  if everOpened feed then scene.note .closed else scene

end Evacuation.Rehearsal
