import Evacuation.Proofs.Feed.Resumption
import Evacuation.Proofs.Office.Watch
/-!
# Attending to the feed

While the streams are still delivering, notifications are taken from the front of the queue and
dispatched, one at a time. What has been delivered so far is the beginning of a script, and the queue
at that time is what the feed takes over from it; the queue only grows at its end
(`Feed.prefix_queueOf`). So what has been dispatched at any time is the beginning of the queue, in its
order (`Office.Attends.dispatched_eq`). To attend to a feed is to watch (`Office.Attends.watch`).
-/
namespace Evacuation

variable {T : Type}

namespace Feed

/-- The notifications that are taken over from streams. -/
def queueOf (script : List (List Arrival)) : List Notification := (follow script {}).queue

theorem queueOf_eq (script : List (List Arrival)) :
    queueOf script = (history script).filterMap Arrival.taken? := (tells_follow script).queue

/-- One delivery more. -/
inductive Delivers : List (List Arrival) → List (List Arrival) → Prop where
  /-- Another stream comes up. -/
  | stream (script : List (List Arrival)) : Delivers script (script ++ [[]])
  /-- The stream in hand delivers something. -/
  | arrival (script : List (List Arrival)) (stream : List Arrival) (arrival : Arrival) :
      Delivers (script ++ [stream]) (script ++ [stream ++ [arrival]])

/-- What is read of a longer stream begins as what is read of the stream. -/
theorem prefix_reads (stream more : List Arrival) : reads stream <+: reads (stream ++ more) := by
  rw [reads, reads, upToFirst_append]
  split
  · exact List.prefix_rfl
  · rename_i none
    have whole := upToFirst_append Arrival.isLast stream []
    rw [if_neg none, List.append_nil] at whole
    rw [whole]
    exact (List.prefix_append_right_inj stream).mpr (List.nil_prefix)

/-- The history of a script grows at its end. -/
theorem prefix_history {script later : List (List Arrival)} (delivers : Delivers script later) :
    history script <+: history later := by
  have parts (first second : List (List Arrival)) : history (first ++ second) =
      if first.any stopsIn then history first else first.flatMap reads ++ history second := by
    rw [history, opened, upToFirst_append]
    split
    · rfl
    · rw [List.flatMap_append]
      rfl
  have single (stream : List Arrival) : history [stream] = reads stream := by
    have one : opened [stream] = [stream] := by
      rw [opened, upToFirst]
      split <;> rfl
    rw [history, one, List.flatMap_singleton]
  cases delivers with
  | stream script =>
    have whole := parts script []
    rw [List.append_nil] at whole
    rw [parts script [[]], whole]
    split
    · exact List.prefix_rfl
    · exact (List.prefix_append_right_inj _).mpr List.nil_prefix
  | arrival script stream arrival =>
    rw [parts, parts]
    split
    · exact List.prefix_rfl
    · rw [single, single]
      exact (List.prefix_append_right_inj _).mpr (prefix_reads stream [arrival])

/-- The queue grows at its end. -/
theorem prefix_queueOf {script later : List (List Arrival)} (delivers : Delivers script later) :
    queueOf script <+: queueOf later := by
  rw [queueOf_eq, queueOf_eq]
  exact (prefix_history delivers).filterMap _

end Feed

namespace Office

variable [TimeScale T]

/-- The work in an office that attends to a feed. A notification is dispatched when it is the first one
in the queue that was not, and no other one is in hand. -/
inductive Attends (controller : Controller T) (start : Office T) :
    List (List Arrival) → List (Deed T) → Office T → Prop where
  | here : Attends controller start [] [] start
  | deliver {script later : List (List Arrival)} {deeds : List (Deed T)} {office : Office T}
      (attends : Attends controller start script deeds office)
      (delivers : Feed.Delivers script later) : Attends controller start later deeds office
  | work {script : List (List Arrival)} {deeds : List (Deed T)} {deed : Deed T}
      {office later : Office T} (attends : Attends controller start script deeds office)
      (step : Step controller office deed later)
      (admitted : ∀ {clerk cause}, deed = .began clerk cause → office.Admits cause)
      (front : ∀ notification ∈ deed.notification?,
        (Feed.queueOf script)[(Deed.dispatched deeds).length]? = some notification) :
      Attends controller start script (deeds ++ [deed]) later

namespace Attends

variable {controller : Controller T} {start office : Office T} {script : List (List Arrival)}
  {deeds : List (Deed T)}

/-- To attend to a feed is to watch. -/
theorem watch (attends : Attends controller start script deeds office) :
    Watch controller start deeds office := by
  induction attends with
  | here => exact .here
  | deliver _ _ ih => exact ih
  | work _ step admitted _ ih => exact ih.snoc step admitted

/-- What has been dispatched is the beginning of the queue. -/
theorem dispatched_eq (attends : Attends controller start script deeds office) :
    Deed.dispatched deeds = (Feed.queueOf script).take (Deed.dispatched deeds).length := by
  induction attends with
  | here => rfl
  | @deliver script later deeds office _ delivers ih =>
    obtain ⟨more, grown⟩ := Feed.prefix_queueOf delivers
    have short : (Deed.dispatched deeds).length ≤ (Feed.queueOf script).length := by
      rw [ih]
      exact List.length_take_le' _ _
    rw [← grown, List.take_append_of_le_length short]
    exact ih
  | @work script deeds deed office later _ _ _ front ih =>
    cases begun : deed.notification? with
    | none =>
      have same : Deed.dispatched (deeds ++ [deed]) = Deed.dispatched deeds := by
        rw [Deed.dispatched, List.filterMap_append, List.filterMap_cons_none begun,
          List.filterMap_nil, List.append_nil]
        rfl
      rw [same]
      exact ih
    | some notification =>
      have longer : Deed.dispatched (deeds ++ [deed]) = Deed.dispatched deeds ++ [notification] := by
        rw [Deed.dispatched, List.filterMap_append, List.filterMap_cons_some begun,
          List.filterMap_nil]
        rfl
      have next := front notification begun
      rw [longer, List.length_append, List.length_singleton, List.take_add_one, ← ih, next]
      rfl

end Attends

end Office

namespace Feed

/-- A feed has come through streams: what it has taken over, where it went on and when it paused. -/
structure Comes (streams : List (List Arrival)) (feed : Feed) : Prop where
  /-- The queue is what was read and taken over, in its order. -/
  queue : feed.queue = (history streams).filterMap Arrival.taken?
  /-- What the feed did is told stream by stream. -/
  acts : feed.acts = actsOver [] (opened streams)
  /-- Every stream is opened where the last notification has come from that was taken over since the
  position last expired. -/
  positions : feed.acts.filterMap position? = (List.range (opened streams).length).map fun place =>
    positionAfter (((opened streams).take place).flatMap reads)
  /-- There are as many pauses as breaks. -/
  pauses : feed.acts.count .paused = (history streams).countP Arrival.breaks
  /-- The feed stops if it was found to be told so. -/
  stopped : feed.stopped = (history streams).any (·.stopping)

/-- What a feed comes to that follows streams from the beginning. -/
theorem comes_follow (streams : List (List Arrival)) : Comes streams (follow streams {}) := by
  have tells := tells_follow streams
  refine ⟨tells.queue, tells.acts, ?_, ?_, tells.stopped⟩
  · rw [tells.acts, filterMap_position?_actsOver]
    rfl
  · rw [tells.acts, count_paused_actsOver]
    rfl

variable [TimeScale T]

/-- Whatever the streams deliver, nothing is lost, repeated or moved. A stream is read to its end or up
to the first arrival at which it fails, the position has expired or the feed is to stop; streams are
opened up to the one in which the feed stops, or to the last one, after which the feed waits in one
more for the word to stop. The queue, the positions and the pauses are those of what was read. And
what has been dispatched at any time is the beginning of the queue at that time, which only grows at
its end. -/
theorem resumes (controller : Controller T) (start : Office T) :
    (∀ stream, (reads stream = stream ∧ ∀ arrival ∈ stream, arrival.isLast = false) ∨
      ∃ before last after, stream = before ++ last :: after ∧ reads stream = before ++ [last] ∧
        last.isLast = true ∧ ∀ arrival ∈ before, arrival.isLast = false) ∧
    (∀ streams, (opened streams = streams ∧ ∀ stream ∈ streams, stopsIn stream = false) ∨
      ∃ before last after, streams = before ++ last :: after ∧ opened streams = before ++ [last] ∧
        stopsIn last = true ∧ ∀ stream ∈ before, stopsIn stream = false) ∧
    (∀ streams, Comes streams (follow streams {}) ∧ watch streams {} =
      if (follow streams {}).stopped then follow streams {}
      else { (follow streams {}).act (.opened (positionAfter (history streams))) with
        stopped := true }) ∧
    ∀ script deeds office, Office.Attends controller start script deeds office →
      Deed.dispatched deeds = (queueOf script).take (Deed.dispatched deeds).length ∧
        ∀ later, Delivers script later → queueOf script <+: queueOf later := by
  refine ⟨upToFirst_cases Arrival.isLast, upToFirst_cases stopsIn, fun streams => ?_, ?_⟩
  · refine ⟨comes_follow streams, ?_⟩
    rw [watch_eq_follow]
    by_cases stopped : (follow streams {}).stopped = true
    · rw [if_pos stopped, if_pos stopped]
    · rw [if_neg stopped, if_neg stopped,
        (tells_follow streams).position (Bool.eq_false_iff.mpr stopped)]
  · intro script deeds office attends
    exact ⟨attends.dispatched_eq, fun later delivers => prefix_queueOf delivers⟩

/-- Three streams: the first one breaks after a notification, in the second one the position expires
after another, and in the third one the feed stops. -/
def threeStreams : List (List Arrival) :=
  [[⟨.notification ⟨"ADDED", { name := "n1", resourceVersion := some "5" }⟩, false⟩,
      ⟨.failure (.refused ⟨some 500, some "Internal Server Error"⟩), false⟩],
    [⟨.notification ⟨"MODIFIED", { name := "n2", resourceVersion := some "6" }⟩, false⟩,
      ⟨.error (some (.object [("code", .integer 410)])), false⟩],
    [⟨.notification ⟨"DELETED", { name := "n1", resourceVersion := some "9" }⟩, true⟩]]

/-- The three streams are opened at the present, where the first one broke, and at the present again,
with one pause; the first notification is dispatched as soon as it has been delivered. -/
theorem resumes_threeStreams :
    Comes threeStreams (follow threeStreams {}) ∧
    (follow threeStreams {}).acts.filterMap position? = [none, some "5", none] ∧
    (follow threeStreams {}).acts.count .paused = 1 ∧
    (queueOf threeStreams).map (·.node.name) = ["n1", "n2"] ∧
    ∃ (script : List (List Arrival)) (deeds : List (Deed Rat)) (office : Office Rat),
      Office.Attends { drainer := .dryRun, chain := [] } (.opened ⟨60, none⟩) script deeds office ∧
        Deed.dispatched deeds = (queueOf script).take 1 ∧
          (Deed.dispatched deeds).map (·.node.name) = ["n1"] := by
  obtain ⟨_, _, comes, attended⟩ :=
    resumes { drainer := .dryRun, chain := [] } (.opened (T := Rat) ⟨60, none⟩)
  refine ⟨(comes threeStreams).1, rfl, rfl, rfl, ?_⟩
  have first : Office.Attends { drainer := .dryRun, chain := [] } (.opened (T := Rat) ⟨60, none⟩)
      [[⟨.notification ⟨"ADDED", { name := "n1", resourceVersion := some "5" }⟩, false⟩]] []
      (.opened ⟨60, none⟩) :=
    (Office.Attends.here.deliver (.stream [])).deliver (.arrival [] [] _)
  have begun := first.work (.command _ (.dispatch ⟨"ADDED",
    { name := "n1", resourceVersion := some "5" }⟩)) ?_ ?_
  · exact ⟨_, _, _, begun, (attended _ _ _ begun).1, rfl⟩
  · rintro clerk cause ⟨⟩
    exact nofun
  · rintro notification ⟨⟩
    rfl

end Feed

end Evacuation
