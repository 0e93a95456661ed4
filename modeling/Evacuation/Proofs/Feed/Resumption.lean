import Evacuation.NodeFeed
/-!
# How the feed resumes

What a feed takes over and where it goes on is told by the arrivals it has read, whichever streams
they came in. A stream is read up to its first arrival that ends the reading (`Feed.reads`), streams
are opened up to the one in which the feed was told to stop (`Feed.opened`), and all that was read so
far is the history. The queue is then the notifications of the history, in their order; every stream
is opened at the position of the last notification taken over since the position has expired; and a
pause follows each break and nothing else (`Feed.tells_follow`). What carries the proof is that one
arrival more does to the feed what it does to the history (`Feed.Tells.read`).
-/
namespace Evacuation

namespace Arrival

/-- The position has expired: an error report says so, or a refusal does. -/
def expires (arrival : Arrival) : Bool :=
  match arrival.delivery with
  | .notification _ => false
  | .error report => Feed.isExpiry (Feed.reportOf report)
  | .failure (.refused refusal) => refusal.isGone
  | .failure _ => false

/-- The stream breaks otherwise: it fails, or an error is reported by something else than an
object. -/
def breaks (arrival : Arrival) : Bool :=
  match arrival.delivery with
  | .notification _ => false
  | .error report => !arrival.stopping && !(Feed.reportOf report).isObject
  | .failure _ => !arrival.expires

/-- The arrival is a failure of the stream. -/
def fails (arrival : Arrival) : Bool :=
  match arrival.delivery with
  | .failure _ => true
  | _ => false

/-- The stream is not read beyond the arrival: it fails there, the position has expired, or the feed is
to stop. -/
def isLast (arrival : Arrival) : Bool :=
  arrival.fails || arrival.breaks || arrival.expires || arrival.stopping

/-- The notification that is taken over, unless the feed is to stop. -/
def taken? (arrival : Arrival) : Option Notification :=
  match arrival.delivery with
  | .notification notification => if arrival.stopping then none else some notification
  | _ => none

/-- The warning about a stream that breaks. -/
def breakText : Failure → String
  | .refused refusal => s!"Node watch failed: {refusal.describe}"
  | failure => s!"Node watch stream broke: {failure.message}"

/-- What the feed does at an arrival. -/
def acts (arrival : Arrival) : List FeedAct :=
  match arrival.delivery with
  | .notification _ => if arrival.stopping then [.closed] else []
  | .error report =>
    let document := Feed.reportOf report
    if arrival.stopping then [.closed]
    else if arrival.breaks then [.warned (breakText (Feed.misreported document)), .paused]
    else if arrival.expires then []
    else [.warned s!"Node watch returned an error: {Feed.reportText document}"]
  | .failure failure => if arrival.expires then [] else [.warned (breakText failure), .paused]

end Arrival

namespace Feed

/-- A list up to its first member of a kind, with that member. -/
def upToFirst {α : Type} (kind : α → Bool) : List α → List α
  | [] => []
  | first :: rest => if kind first then [first] else first :: upToFirst kind rest

/-- The arrivals of a stream that are read. -/
def reads (stream : List Arrival) : List Arrival := upToFirst Arrival.isLast stream

/-- The feed is found to be told to stop in a stream. -/
def stopsIn (stream : List Arrival) : Bool := (reads stream).any (·.stopping)

/-- The streams that are opened. -/
def opened (streams : List (List Arrival)) : List (List Arrival) := upToFirst stopsIn streams

/-- All that is read of streams. -/
def history (streams : List (List Arrival)) : List Arrival := (opened streams).flatMap reads

/-- What was read since the position last expired. -/
def sinceExpiry (past : List Arrival) : List Arrival :=
  (past.reverse.takeWhile fun arrival => !arrival.expires).reverse

/-- The position of the last notification that was taken over since the position last expired. -/
def positionAfter (past : List Arrival) : Option String :=
  ((sinceExpiry past).filterMap Arrival.taken?).getLast?.bind (·.node.resourceVersion)

/-- What the feed does while it reads streams, after what it has read before. -/
def actsOver (past : List Arrival) : List (List Arrival) → List FeedAct
  | [] => []
  | stream :: rest =>
    .opened (positionAfter past) ::
      (reads stream).flatMap Arrival.acts ++ actsOver (past ++ reads stream) rest

/-- Read streams one after another until there are no more or the feed is to stop. -/
def follow : List (List Arrival) → Feed → Feed
  | [], feed => feed
  | stream :: rest, feed =>
    if feed.stopped then feed else follow rest ((feed.act (.opened feed.position)).read stream)

/-- To watch is to read the streams that there are, and then to wait for the word to stop in one that
delivers nothing. -/
theorem watch_eq_follow (streams : List (List Arrival)) (feed : Feed) :
    feed.watch streams =
      if (feed.follow streams).stopped then feed.follow streams
      else { (feed.follow streams).act (.opened (feed.follow streams).position) with
        stopped := true } := by
  induction streams generalizing feed with
  | nil => rfl
  | cons stream rest ih =>
    by_cases stopped : feed.stopped = true
    · simp only [watch, follow, if_pos stopped]
    · simp only [watch, follow, if_neg stopped, ih]

/-! ## The history -/

/-- After one arrival more the position is given up, taken from the arrival, or what it was. -/
theorem positionAfter_concat (past : List Arrival) (arrival : Arrival) :
    positionAfter (past ++ [arrival]) =
      if arrival.expires then none
      else match arrival.taken? with
        | some notification => notification.node.resourceVersion
        | none => positionAfter past := by
  have since : sinceExpiry (past ++ [arrival]) =
      if arrival.expires then [] else sinceExpiry past ++ [arrival] := by
    rw [sinceExpiry, List.reverse_concat, List.takeWhile_cons]
    by_cases expires : arrival.expires = true
    · simp [expires]
    · simp [expires, sinceExpiry]
  rw [positionAfter, since]
  by_cases expires : arrival.expires = true
  · rw [if_pos expires, if_pos expires]
    rfl
  · rw [if_neg expires, if_neg expires, List.filterMap_append]
    cases taken : arrival.taken? with
    | none =>
      rw [List.filterMap_cons_none taken, List.filterMap_nil, List.append_nil]
      rfl
    | some notification =>
      rw [List.filterMap_cons_some taken, List.filterMap_nil, List.getLast?_concat]
      rfl

/-- A list is taken as a whole, or up to a member of the kind, before which there is none. -/
theorem upToFirst_cases {α : Type} (kind : α → Bool) (list : List α) :
    (upToFirst kind list = list ∧ ∀ member ∈ list, kind member = false) ∨
      ∃ before last after, list = before ++ last :: after ∧
        upToFirst kind list = before ++ [last] ∧ kind last = true ∧
          ∀ member ∈ before, kind member = false := by
  induction list with
  | nil => exact .inl ⟨rfl, nofun⟩
  | cons first rest ih =>
    by_cases ends : kind first = true
    · exact .inr ⟨[], first, rest, rfl, if_pos ends, ends, nofun⟩
    have goes : upToFirst kind (first :: rest) = first :: upToFirst kind rest := if_neg ends
    have with_first {others : List α} (none : ∀ member ∈ others, kind member = false) :
        ∀ member ∈ first :: others, kind member = false :=
      List.forall_mem_cons.mpr ⟨Bool.eq_false_iff.mpr ends, none⟩
    rw [goes]
    obtain ⟨whole, others⟩ | ⟨before, last, after, rfl, taken, ends, others⟩ := ih
    · exact .inl ⟨by rw [whole], with_first others⟩
    · exact .inr ⟨first :: before, last, after, rfl, by rw [taken, List.cons_append], ends,
        with_first others⟩

/-- Of two lists one after the other the second one is reached only if the kind is not met in the
first. -/
theorem upToFirst_append {α : Type} (kind : α → Bool) (first second : List α) :
    upToFirst kind (first ++ second) =
      if first.any kind then upToFirst kind first else first ++ upToFirst kind second := by
  induction first with
  | nil => rfl
  | cons member rest ih =>
    rw [List.cons_append, upToFirst, upToFirst, List.any_cons, ih]
    cases kind member <;> cases rest.any kind <;> rfl

/-! ## What a feed tells of the history -/

/-- The feed is what the history says, and did what it says. -/
structure Tells (feed : Feed) (past : List Arrival) (done : List FeedAct) : Prop where
  queue : feed.queue = past.filterMap Arrival.taken?
  stopped : feed.stopped = past.any (·.stopping)
  position : feed.stopped = false → feed.position = positionAfter past
  acts : feed.acts = done

/-- The report of an error that is no object does not say that the position has expired. -/
theorem isExpiry_eq_false {document : Document} (misreported : ¬ document.isObject = true) :
    isExpiry document = false := by
  cases document with
  | object members => exact absurd rfl misreported
  | _ => rfl

/-- A stream that fails lets the position go if that has expired, and else is waited for. -/
theorem broken_eq (stopping : Bool) (feed : Feed) (failure : Failure) :
    feed.broken failure =
      if Arrival.expires ⟨.failure failure, stopping⟩ then { feed with position := none }
      else (feed.act (.warned (Arrival.breakText failure))).act .paused := by
  cases failure with
  | refused refusal => rfl
  | _ => exact (if_neg Bool.false_ne_true).symm

namespace Tells

variable {feed : Feed} {past : List Arrival} {done : List FeedAct}

/-- One arrival more does to the feed what it does to the history. -/
theorem arrive (tells : feed.Tells past done) (going : feed.stopped = false) (arrival : Arrival)
    (rest : List Arrival) :
    ∃ next : Feed, next.Tells (past ++ [arrival]) (done ++ arrival.acts) ∧
      feed.read (arrival :: rest) = if arrival.isLast then next else next.read rest := by
  obtain ⟨place, stopped, queue, acts⟩ := feed
  obtain ⟨queued, stops, position, rfl⟩ := tells
  dsimp only at going queued stops position
  subst going queued
  have position := position rfl
  subst position
  obtain ⟨delivery, stopping⟩ := arrival
  -- What is left to show once the delivery is known: the history has one arrival more.
  have tell {next : Feed} {arrival : Arrival}
      (queued : next.queue = past.filterMap Arrival.taken? ++ arrival.taken?.toList)
      (stopped : next.stopped = arrival.stopping)
      (position : arrival.stopping = false → next.position =
        if arrival.expires then none
        else match arrival.taken? with
          | some notification => notification.node.resourceVersion
          | none => positionAfter past)
      (done : next.acts = acts ++ arrival.acts) :
      next.Tells (past ++ [arrival]) (acts ++ arrival.acts) := by
    refine ⟨?_, ?_, fun goes => ?_, done⟩
    · rw [queued, List.filterMap_append]
      cases taken : arrival.taken? <;> simp [taken]
    · rw [stopped, List.any_append, ← stops]
      simp
    · rw [positionAfter_concat]
      exact position (stopped ▸ goes)
  cases delivery with
  | notification notification =>
    cases stopping with
    | true => exact ⟨_, tell (List.append_nil _).symm rfl nofun rfl, rfl⟩
    | false => exact ⟨_, tell rfl rfl (fun _ => rfl) (List.append_nil _).symm, rfl⟩
  | error report =>
    cases stopping with
    | true =>
      have ends : Arrival.isLast ⟨.error report, true⟩ = true := by simp [Arrival.isLast]
      rw [ends]
      exact ⟨_, tell (List.append_nil _).symm rfl nofun rfl, rfl⟩
    | false =>
      by_cases object : (reportOf report).isObject = true
      · by_cases expired : isExpiry (reportOf report) = true
        · refine ⟨⟨none, false, past.filterMap Arrival.taken?, acts⟩, tell ?_ rfl ?_ ?_, ?_⟩
          · simp [Arrival.taken?]
          · simp [Arrival.expires, expired]
          · simp [Arrival.acts, Arrival.breaks, Arrival.expires, object, expired]
          · simp [read, Arrival.isLast, Arrival.expires, object, expired]
        · refine ⟨act ⟨positionAfter past, false, past.filterMap Arrival.taken?, acts⟩
            (.warned s!"Node watch returned an error: {reportText (reportOf report)}"),
            tell ?_ rfl ?_ ?_, ?_⟩
          · simp [act, Arrival.taken?]
          · simp [act, Arrival.expires, Arrival.taken?, expired]
          · simp [act, Arrival.acts, Arrival.breaks, Arrival.expires, object, expired]
          · simp [read, Arrival.isLast, Arrival.fails, Arrival.breaks, Arrival.expires, object, expired]
      · have kept : isExpiry (reportOf report) = false := isExpiry_eq_false object
        have ends : Arrival.isLast ⟨.error report, false⟩ = true := by
          simp [Arrival.isLast, Arrival.breaks, object]
        refine ⟨act (act ⟨positionAfter past, false, past.filterMap Arrival.taken?, acts⟩
          (.warned (Arrival.breakText (misreported (reportOf report))))) .paused,
          tell ?_ rfl ?_ ?_, ?_⟩
        · simp [act, Arrival.taken?]
        · simp [act, Arrival.expires, Arrival.taken?, kept]
        · simp [act, Arrival.acts, Arrival.breaks, object]
        · simp only [ends, if_true]
          simp only [read, object, Bool.or_self, Bool.false_eq_true, if_false, Bool.not_false, if_true]
          exact (broken_eq false _ _).trans (if_neg Bool.false_ne_true)
  | failure failure =>
    have ends : Arrival.isLast ⟨.failure failure, stopping⟩ = true := rfl
    simp only [ends, if_true]
    by_cases expired : Arrival.expires ⟨.failure failure, stopping⟩ = true
    · refine ⟨⟨none, stopping, past.filterMap Arrival.taken?, acts⟩, tell ?_ rfl ?_ ?_, ?_⟩
      · simp [Arrival.taken?]
      · simp [expired]
      · simp [Arrival.acts, expired]
      · exact (broken_eq stopping _ _).trans (if_pos expired)
    · refine ⟨act (act ⟨positionAfter past, stopping, past.filterMap Arrival.taken?, acts⟩
        (.warned (Arrival.breakText failure))) .paused, tell ?_ rfl ?_ ?_, ?_⟩
      · simp [act, Arrival.taken?]
      · simp [act, Arrival.taken?, expired]
      · simp [act, Arrival.acts, expired]
      · exact (broken_eq stopping _ _).trans (if_neg expired)

/-- Reading a stream does to the feed what the arrivals that are read do to the history. -/
theorem read (tells : feed.Tells past done) (going : feed.stopped = false)
    (stream : List Arrival) :
    (feed.read stream).Tells (past ++ reads stream)
      (done ++ (reads stream).flatMap Arrival.acts) := by
  induction stream generalizing feed past done with
  | nil =>
    have none : reads [] = [] := rfl
    rw [none, List.flatMap_nil, List.append_nil, List.append_nil]
    exact tells
  | cons arrival rest ih =>
    obtain ⟨next, told, same⟩ := tells.arrive going arrival rest
    rw [same]
    by_cases ends : arrival.isLast = true
    · have last : reads (arrival :: rest) = [arrival] := if_pos ends
      rw [if_pos ends, last, List.flatMap_singleton]
      exact told
    · have goes : reads (arrival :: rest) = arrival :: reads rest := if_neg ends
      have unstopped : arrival.stopping = false := by
        simp only [Arrival.isLast, Bool.or_eq_true, not_or] at ends
        exact Bool.eq_false_iff.mpr ends.2
      have on : next.stopped = false := by
        rw [told.stopped, List.any_append, ← tells.stopped, going, List.any_cons, unstopped]
        rfl
      rw [if_neg ends, goes, List.flatMap_cons, List.append_cons, ← List.append_assoc]
      exact ih told on

/-- The feed opens its next stream where the history says. -/
theorem act_opened (tells : feed.Tells past done) (going : feed.stopped = false) :
    (feed.act (.opened feed.position)).Tells past (done ++ [.opened (positionAfter past)]) := by
  refine ⟨tells.queue, tells.stopped, tells.position, ?_⟩
  rw [act, tells.acts, tells.position going]

/-- Following streams does to the feed what all that is read of them does to the history. -/
theorem follow (tells : feed.Tells past done) (going : feed.stopped = false)
    (streams : List (List Arrival)) :
    (feed.follow streams).Tells (past ++ history streams)
      (done ++ actsOver past (opened streams)) := by
  induction streams generalizing feed past done with
  | nil =>
    have none : history [] = [] := rfl
    have idle : actsOver past (opened []) = [] := rfl
    rw [none, idle, List.append_nil, List.append_nil]
    exact tells
  | cons stream rest ih =>
    have told := (tells.act_opened going).read going stream
    rw [List.append_assoc] at told
    have follows : feed.follow (stream :: rest) =
        ((feed.act (.opened feed.position)).read stream).follow rest :=
      if_neg (by rw [going]; exact Bool.false_ne_true)
    rw [follows]
    have found : ((feed.act (.opened feed.position)).read stream).stopped = stopsIn stream := by
      rw [told.stopped, List.any_append, ← tells.stopped, going]
      rfl
    by_cases stops : stopsIn stream = true
    · have last : opened (stream :: rest) = [stream] := if_pos stops
      have stays : ((feed.act (.opened feed.position)).read stream).follow rest =
          (feed.act (.opened feed.position)).read stream := by
        cases rest with
        | nil => rfl
        | cons _ _ => exact if_pos (found.trans stops)
      have one : history (stream :: rest) = reads stream := by
        rw [history, last, List.flatMap_singleton]
      rw [stays, one, last]
      simpa [actsOver] using told
    · have goes : opened (stream :: rest) = stream :: opened rest := if_neg stops
      have more : history (stream :: rest) = reads stream ++ history rest := by
        rw [history, goes, List.flatMap_cons]
        rfl
      have onward := ih told (found.trans (Bool.eq_false_iff.mpr stops))
      rw [more, goes]
      simpa [actsOver] using onward

end Tells

/-- What a feed comes to that follows streams from the beginning. -/
theorem tells_follow (streams : List (List Arrival)) :
    (follow streams {}).Tells (history streams) (actsOver [] (opened streams)) := by
  have fresh : Tells {} [] [] := ⟨rfl, rfl, fun _ => rfl, rfl⟩
  exact fresh.follow rfl streams

/-! ## Positions and pauses -/

/-- The position at which a stream is opened. -/
def position? : FeedAct → Option (Option String)
  | .opened position => some position
  | _ => none

/-- At a break there are a warning and a pause, and else one act at most, which is no pause. -/
theorem acts_cases (arrival : Arrival) :
    (arrival.breaks = true ∧ ∃ text, arrival.acts = [.warned text, .paused]) ∨
      arrival.breaks = false ∧
        (arrival.acts = [] ∨ arrival.acts = [.closed] ∨ ∃ text, arrival.acts = [.warned text]) := by
  obtain ⟨delivery, stopping⟩ := arrival
  cases delivery with
  | notification notification =>
    right
    cases stopping with
    | true => exact ⟨rfl, .inr (.inl rfl)⟩
    | false => exact ⟨rfl, .inl rfl⟩
  | error report =>
    cases stopping with
    | true => exact .inr ⟨rfl, .inr (.inl rfl)⟩
    | false =>
      by_cases breaks : Arrival.breaks ⟨.error report, false⟩ = true
      · exact .inl ⟨breaks, _, if_pos breaks⟩
      · have whole := Bool.eq_false_iff.mpr breaks
        by_cases expires : Arrival.expires ⟨.error report, false⟩ = true
        · exact .inr ⟨whole, .inl ((if_neg breaks).trans (if_pos expires))⟩
        · exact .inr ⟨whole, .inr (.inr ⟨_, (if_neg breaks).trans (if_neg expires)⟩)⟩
  | failure failure =>
    by_cases expires : Arrival.expires ⟨.failure failure, stopping⟩ = true
    · refine .inr ⟨?_, .inl (if_pos expires)⟩
      show (!Arrival.expires ⟨.failure failure, stopping⟩) = false
      rw [expires]
      rfl
    · refine .inl ⟨?_, _, if_neg expires⟩
      show (!Arrival.expires ⟨.failure failure, stopping⟩) = true
      rw [Bool.eq_false_iff.mpr expires]
      rfl

/-- Nothing but the opening of a stream has a position. -/
theorem filterMap_position?_acts (arrivals : List Arrival) :
    (arrivals.flatMap Arrival.acts).filterMap position? = [] := by
  refine List.filterMap_eq_nil_iff.mpr fun done listed => ?_
  obtain ⟨arrival, _, did⟩ := List.mem_flatMap.mp listed
  obtain ⟨_, text, same⟩ | ⟨_, same | same | ⟨text, same⟩⟩ := acts_cases arrival
  all_goals
    rw [same] at did
    simp only [List.mem_cons, List.not_mem_nil, or_false] at did
  · obtain rfl | rfl := did <;> rfl
  · rw [did]
    rfl
  · rw [did]
    rfl

/-- There is one pause for each break. -/
theorem count_paused_acts (arrivals : List Arrival) :
    (arrivals.flatMap Arrival.acts).count .paused = arrivals.countP Arrival.breaks := by
  induction arrivals with
  | nil => rfl
  | cons arrival rest ih =>
    rw [List.flatMap_cons, List.count_append, List.countP_cons, ih]
    obtain ⟨breaks, text, same⟩ | ⟨breaks, same | same | ⟨text, same⟩⟩ := acts_cases arrival
    all_goals
      rw [same, breaks]
      simp [Nat.add_comm]

/-- The streams are opened one after another, each where what was read before says. -/
theorem filterMap_position?_actsOver (past : List Arrival) (streams : List (List Arrival)) :
    (actsOver past streams).filterMap position? =
      (List.range streams.length).map fun place =>
        positionAfter (past ++ (streams.take place).flatMap reads) := by
  induction streams generalizing past with
  | nil => rfl
  | cons stream rest ih =>
    have first : actsOver past (stream :: rest) = .opened (positionAfter past) ::
        ((reads stream).flatMap Arrival.acts ++ actsOver (past ++ reads stream) rest) := rfl
    have opens : position? (.opened (positionAfter past)) = some (positionAfter past) := rfl
    rw [first, List.filterMap_cons_some opens, List.filterMap_append, filterMap_position?_acts,
      List.nil_append, ih, List.length_cons, List.range_succ_eq_map, List.map_cons, List.map_map]
    simp [Function.comp_def]

/-- There is one pause for each break in all that is read. -/
theorem count_paused_actsOver (past : List Arrival) (streams : List (List Arrival)) :
    (actsOver past streams).count .paused = (streams.flatMap reads).countP Arrival.breaks := by
  induction streams generalizing past with
  | nil => rfl
  | cons stream rest ih =>
    have first : actsOver past (stream :: rest) = .opened (positionAfter past) ::
        ((reads stream).flatMap Arrival.acts ++ actsOver (past ++ reads stream) rest) := rfl
    have other : FeedAct.opened (positionAfter past) ≠ .paused := nofun
    rw [first, List.count_cons_of_ne other, List.count_append, count_paused_acts, ih,
      List.flatMap_cons, List.countP_append]

end Feed

end Evacuation
