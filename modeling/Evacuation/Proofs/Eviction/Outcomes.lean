import Mathlib.Algebra.Order.Field.Rat
import Evacuation.Proofs.Cluster.Reads
import Evacuation.Proofs.Eviction.Rounds
/-!
# How an eviction is judged

What the report of an eviction says is read off the answers of the cluster. Every request but the
last was refused for the time being, all of them ask for the same grace period, and the attempts that
are reported are the requests. If the last request is refused, its status tells the outcome and the
pod is not looked at; if it is accepted, the last look at the pod tells it. The main statement,
`Executor.evict_judges`, says so for every path to a report (`Executor.Judged`), and names what can
keep an eviction from its report (`Executor.Unreported`).
-/
namespace Evacuation

variable {T : Type}

/-! ## What was asked and answered -/

namespace World

/-- The eviction that an exchange requests, with its grace period and the answer. -/
def requested? : Exchange (World T) → Option (Pod × Int × Except Failure Unit)
  | ⟨.call (.evict pod grace), answer⟩ => some (pod, grace, answer)
  | _ => none

/-- The requests for evictions along a path. -/
def requests (path : List (Exchange (World T))) : List (Pod × Int × Except Failure Unit) :=
  path.filterMap requested?

/-- The name and the namespace of the pod that is read in an exchange, with the answer. -/
def looked? : Exchange (World T) → Option (String × String × Except Failure Pod)
  | ⟨.call (.readPod name ns), seen⟩ => some (name, ns, seen)
  | _ => none

/-- The looks at pods along a path. -/
def looks (path : List (Exchange (World T))) : List (String × String × Except Failure Pod) :=
  path.filterMap looked?

/-- A request was answered with a failure. -/
def Fails (path : List (Exchange (World T))) (failure : Failure) : Prop :=
  ∃ call : Call, (⟨.call call, .error failure⟩ : Exchange (World T)) ∈ path

@[simp] theorem requests_append (first second : List (Exchange (World T))) :
    requests (first ++ second) = requests first ++ requests second := List.filterMap_append

@[simp] theorem looks_append (first second : List (Exchange (World T))) :
    looks (first ++ second) = looks first ++ looks second := List.filterMap_append

@[simp] theorem requests_clock (now : T) (path : List (Exchange (World T))) :
    requests (⟨.clock, now⟩ :: path) = requests path := rfl

@[simp] theorem looks_clock (now : T) (path : List (Exchange (World T))) :
    looks (⟨.clock, now⟩ :: path) = looks path := rfl

end World

namespace Eviction

/-- A look shows that the pod is gone: there is none of its name, or another one. -/
def GoneBy (pod : Pod) : Except Failure Pod → Prop
  | .ok current => current.uid ≠ pod.uid
  | .error (.refused refusal) => refusal.status = some 404
  | .error _ => False

/-- A look was refused for good, so that it cannot be told whether the pod is gone. -/
def Barred : Except Failure Pod → Prop
  | .error (.refused refusal) => refusal.status ≠ some 404 ∧ ¬ refusal.Passing
  | _ => False

/-- A look decides what becomes of the pod. -/
def Decisive (pod : Pod) (seen : Except Failure Pod) : Prop := GoneBy pod seen ∨ Barred seen

/-- What the decision on a look says of it. -/
theorem decide?_spec (pod : Pod) (seen : Except Failure Pod) :
    match decide? pod seen with
    | none => ¬ Decisive pod seen
    | some (.ok ()) => GoneBy pod seen ∧ ¬ Barred seen
    | some (.error failure) => seen = .error failure ∧ ¬ GoneBy pod seen ∧
        ∀ refusal, failure = .refused refusal → Barred seen := by
  cases seen with
  | ok current =>
    by_cases same : current.uid = pod.uid <;> simp [decide?, Decisive, GoneBy, Barred, same]
  | error failure =>
    cases failure with
    | refused refusal =>
      by_cases missing : refusal.status = some 404
      · have found : refusal.isNotFound = true := by simp [Refusal.isNotFound, missing]
        simp [decide?, GoneBy, Barred, found, missing]
      · have found : refusal.isNotFound = false := by simp [Refusal.isNotFound, missing]
        cases transient : refusal.isTransient with
        | true =>
          have passing := Refusal.isTransient_iff.mp transient
          simp [decide?, Decisive, GoneBy, Barred, found, missing, transient, passing]
        | false =>
          have lasting : ¬ refusal.Passing := by
            rw [← Refusal.isTransient_iff, transient]
            exact Bool.false_ne_true
          simp [decide?, GoneBy, Barred, found, missing, transient, lasting]
    | _ => simp [decide?, GoneBy]

/-- The answers to requests of which all but the last were refused. -/
def answers (refusals : List Refusal) (last : Except Refusal Unit) :
    List (Except Refusal Unit) :=
  refusals.map .error ++ [last]

/-- Requests of which all but the last were refused, by their answers. -/
theorem map_answers (pod : Pod) (grace : Int) (rounds : List (Refused T)) (last : Except Refusal Unit) :
    ((answers (rounds.map (·.refusal)) last).map fun answer =>
      ((pod, grace, answer.mapError .refused) : Pod × Int × Except Failure Unit)) =
      (rounds.map fun round => (pod, grace, .error (.refused round.refusal))) ++
        [(pod, grace, last.mapError .refused)] := by
  simp [answers, Except.mapError]

end Eviction

variable [TimeScale T]

/-- A pod is given the least whole number of seconds that is not below what it asks for, thirty
seconds if it asks for nothing, or not below the longest grace period, whichever is less. -/
def Executor.Grants (executor : Executor T) (pod : Pod) (grace : Int) : Prop :=
  match TimeScale.reading executor.maxGrace with
  | .finite longest => grace = (min ((pod.grace.getD 30 : Int) : Rat) longest).ceil
  | _ => grace = pod.grace.getD 30

theorem Executor.grants_of_graceFor {executor : Executor T} {pod : Pod} {grace : Int}
    (granted : executor.graceFor pod = .ok grace) : executor.Grants pod grace := by
  unfold graceFor TimeScale.beforeInt TimeScale.ceil usualGrace at granted
  unfold Grants
  cases read : TimeScale.reading executor.maxGrace with
  | finite longest =>
    simp only [read, decide_eq_true_eq] at granted ⊢
    split at granted
    · rename_i shorter
      cases granted
      rw [min_eq_right shorter.le]
    · rename_i longer
      cases granted
      rw [min_eq_left (not_lt.mp longer), Rat.ceil_intCast]
  | infinite negative => cases negative <;> simp_all
  | undefined => simp_all

/-- What a last request that was refused says of the pod. The pod is not looked at, and a refusal that
may pass stands only when the clock has reached the deadline. -/
structure Executor.TurnedDown (executor : Executor T) (path : List (Exchange (World T)))
    (report : PodReport) (refusal : Refusal) : Prop where
  unseen : World.looks path = []
  outcome : report.outcome =
    if refusal.status = some 404 then .evicted
    else if refusal.status = some 429 then .timedOut
    else .failed
  late : refusal.Passing → ∃ (start : T) (before : List (Exchange (World T))) (now : T),
    path = ⟨.clock, start⟩ :: (before ++ [⟨.clock, now⟩]) ∧
      TimeScale.upTo (start + executor.timeLimit) now = true

/-- The path ends with the clock at the end of the time that an accepted eviction is waited for: the
grace period and the headroom, or what was left of the deadline after the request, if that is less. -/
def Executor.WaitsOut (executor : Executor T) (pod : Pod) (grace : Int)
    (path : List (Exchange (World T))) : Prop :=
  ∃ (start accepted began now granted timeout : T) (requests looks : List (Exchange (World T))),
    path = ⟨.clock, start⟩ :: (requests ++ ⟨.call (.evict pod grace), .ok ()⟩ :: ⟨.clock, accepted⟩ ::
      ⟨.clock, began⟩ :: (looks ++ [⟨.clock, now⟩])) ∧
    TimeScale.ofInt? grace = .ok granted ∧
    timeout = TimeScale.earlier (granted + executor.headroom)
      (TimeScale.later (start + executor.timeLimit - accepted) TimeScale.zero) ∧
    TimeScale.upTo (began + timeout - now) TimeScale.zero = true

/-- What the looks at an evicted pod say of it. None but the last one decides, and where that one does
not either, the time has been waited out. -/
structure Executor.SeenOff (executor : Executor T) (pod : Pod) (path : List (Exchange (World T)))
    (report : PodReport) (grace : Int) (earlier : List (Except Failure Pod))
    (last : Except Failure Pod) : Prop where
  looks : World.looks path = (earlier ++ [last]).map fun seen => (pod.name, pod.ns, seen)
  undecided : ∀ seen ∈ earlier, ¬ Eviction.Decisive pod seen
  evicted : report.outcome = .evicted ↔ Eviction.GoneBy pod last
  failed : report.outcome = .failed ↔ Eviction.Barred last
  timedOut : report.outcome = .timedOut ↔ ∀ seen ∈ earlier ++ [last], ¬ Eviction.Decisive pod seen
  waited : report.outcome = .timedOut → executor.WaitsOut pod grace path

/-- A pod is seen off if the last look decides what the report says of it, or does not decide and the
time has been waited out. -/
theorem Executor.SeenOff.of_verdict {executor : Executor T} {pod : Pod}
    {path : List (Exchange (World T))} {report : PodReport} {grace : Int}
    {earlier : List (Except Failure Pod)} {last : Except Failure Pod}
    (looks : World.looks path = (earlier ++ [last]).map fun seen => (pod.name, pod.ns, seen))
    (undecided : ∀ seen ∈ earlier, ¬ Eviction.Decisive pod seen)
    (verdict : report.outcome = .evicted ∧ Eviction.GoneBy pod last ∧ ¬ Eviction.Barred last ∨
      report.outcome = .failed ∧ ¬ Eviction.GoneBy pod last ∧ Eviction.Barred last ∨
      report.outcome = .timedOut ∧ ¬ Eviction.Decisive pod last ∧ executor.WaitsOut pod grace path) :
    executor.SeenOff pod path report grace earlier last := by
  obtain ⟨outcome, gone, clear⟩ | ⟨outcome, there, barred⟩ | ⟨outcome, unsure, waited⟩ := verdict
  · have decisive : Eviction.Decisive pod last := .inl gone
    exact ⟨looks, undecided, by simp [outcome, gone], by simp [outcome, clear],
      by simp [outcome, decisive], by simp [outcome]⟩
  · have decisive : Eviction.Decisive pod last := .inr barred
    exact ⟨looks, undecided, by simp [outcome, there], by simp [outcome, barred],
      by simp [outcome, decisive], by simp [outcome]⟩
  · obtain ⟨there, clear⟩ := not_or.mp unsure
    have all : ∀ seen ∈ earlier ++ [last], ¬ Eviction.Decisive pod seen :=
      List.forall_mem_append.mpr ⟨undecided, List.forall_mem_singleton.mpr unsure⟩
    exact ⟨looks, undecided, by simp [outcome, there], by simp [outcome, clear],
      iff_of_true outcome all, fun _ => waited⟩

/-- What a report of an eviction says, by the refusals of all requests but the last and the answer to
that one. -/
structure Executor.Judged (executor : Executor T) (pod : Pod) (path : List (Exchange (World T)))
    (report : PodReport) (grace : Int) (refusals : List Refusal) (last : Except Refusal Unit) :
    Prop where
  named : report.ns = pod.ns ∧ report.name = pod.name
  grants : executor.Grants pod grace
  requests : World.requests path =
    (Eviction.answers refusals last).map fun answer => (pod, grace, answer.mapError .refused)
  passing : ∀ refusal ∈ refusals, refusal.Passing
  attempts : report.attempts = (Eviction.answers refusals last).length
  refused : ∀ refusal, last = .error refusal → executor.TurnedDown path report refusal
  accepted : last = .ok () → ∃ earlier seen, executor.SeenOff pod path report grace earlier seen

/-- What keeps an eviction from its report. -/
inductive Executor.Unreported (executor : Executor T) (pod : Pod) (path : List (Exchange (World T))) :
    Failure → Prop where
  /-- The longest grace period is below every number. -/
  | ungranted {error : TimeError} (grants : executor.graceFor pod = .error error) :
      Unreported executor pod path (.time error)
  /-- The grace period is beyond the scale of time. -/
  | unmeasured {grace : Int} {error : TimeError} (grants : executor.Grants pod grace)
      (measures : (TimeScale.ofInt? grace : Except TimeError T) = .error error) :
      Unreported executor pod path (.time error)
  /-- A request failed otherwise than by a refusal. -/
  | failed {failure : Failure} (fails : World.Fails path failure)
      (other : ∀ refusal, failure ≠ .refused refusal) : Unreported executor pod path failure
  | outOfTurns (spent : (World.requests path).length = executor.turns ∨
      (World.looks path).length = executor.turns) : Unreported executor pod path .outOfTurns

namespace Eviction

/-! ## Along the requests -/

section Requests

variable {pod : Pod} {grace : Int} {interval deadline : T}

theorem requests_refused (rounds : List (Refused T)) :
    World.requests (rounds.flatMap (Refused.path pod grace interval deadline)) =
      rounds.map fun round => (pod, grace, .error (.refused round.refusal)) := by
  rw [World.requests, List.filterMap_flatMap]
  exact List.map_eq_flatMap.symm

theorem looks_refused (rounds : List (Refused T)) :
    World.looks (rounds.flatMap (Refused.path pod grace interval deadline)) = [] := by
  rw [World.looks, List.filterMap_flatMap]
  exact List.flatMap_eq_nil_iff.mpr fun _ _ => rfl

theorem LastRequest.requests {closing : List (Exchange (World T))} {answer : Except Failure Unit}
    (last : LastRequest pod grace deadline closing answer) :
    World.requests closing = [(pod, grace, answer)] := by
  cases last <;> rfl

/-- The requests of an eviction, when there is an answer to the last one. -/
theorem requests_ended {rounds : List (Refused T)} {closing : List (Exchange (World T))}
    {answer : Except Failure Unit} (last : LastRequest pod grace deadline closing answer) :
    World.requests (rounds.flatMap (Refused.path pod grace interval deadline) ++ closing) =
      (rounds.map fun round => (pod, grace, .error (.refused round.refusal))) ++
        [(pod, grace, answer)] := by
  rw [World.requests_append, requests_refused, last.requests]

/-- No pod is looked at while its eviction is requested. -/
theorem Requested.looks {turns : Nat} {path : List (Exchange (World T))} {rounds : List (Refused T)}
    {answer : Except Failure Unit}
    (requested : Requested pod grace interval deadline turns path rounds answer) :
    World.looks path = [] := by
  cases requested with
  | ended goes last =>
    rw [World.looks_append, looks_refused]
    cases last <;> rfl
  | outOfTurns goes spent => exact looks_refused rounds

theorem passing_of_goesOn {rounds : List (Refused T)}
    (goes : ∀ round ∈ rounds, round.GoesOn deadline) :
    ∀ refusal ∈ rounds.map (·.refusal), refusal.Passing := by
  intro refusal listed
  obtain ⟨round, there, rfl⟩ := List.mem_map.mp listed
  exact Refusal.isTransient_iff.mp (goes round there).transient

end Requests

/-! ## Along the looks -/

section Looks

variable {pollInterval : T} {pod : Pod} {giveUp : T}

theorem looks_undecided (rounds : List (Undecided T)) :
    World.looks (rounds.flatMap (Undecided.path pollInterval pod giveUp)) =
      (rounds.map (·.seen)).map fun seen => (pod.name, pod.ns, seen) := by
  rw [World.looks, List.filterMap_flatMap, List.map_map]
  exact List.map_eq_flatMap.symm

theorem LastLook.looks {closing : List (Exchange (World T))} {seen : Except Failure Pod}
    {gone : Except Failure Bool} (last : LastLook pod giveUp closing seen gone) :
    World.looks closing = [(pod.name, pod.ns, seen)] := by
  cases last <;> rfl

/-- No eviction is requested while a pod is looked at. -/
theorem Watched.requests {turns : Nat} {path : List (Exchange (World T))}
    {rounds : List (Undecided T)} {seen : Option (Except Failure Pod)} {gone : Except Failure Bool}
    (watched : Watched pollInterval pod giveUp turns path rounds seen gone) :
    World.requests path = [] := by
  have undecided : World.requests (rounds.flatMap (Undecided.path pollInterval pod giveUp)) = [] := by
    rw [World.requests, List.filterMap_flatMap]
    exact List.flatMap_eq_nil_iff.mpr fun _ _ => rfl
  cases watched with
  | ended goes last =>
    rw [World.requests_append, undecided]
    cases last <;> rfl
  | outOfTurns goes spent => exact undecided

theorem not_decisive_of_goesOn {rounds : List (Undecided T)}
    (goes : ∀ round ∈ rounds, round.GoesOn pod giveUp) :
    ∀ seen ∈ rounds.map (·.seen), ¬ Decisive pod seen := by
  intro seen listed
  obtain ⟨round, there, rfl⟩ := List.mem_map.mp listed
  have spec := decide?_spec pod round.seen
  rwa [(goes round there).undecided] at spec

end Looks

/-- No eviction is requested while an accepted one is followed. -/
theorem Followed.requests {executor : Executor T} {pod : Pod} {grace : Int} {deadline : T}
    {path : List (Exchange (World T))} {ending : Except Failure (Outcome × String)}
    (followed : Followed executor pod grace deadline path ending) : World.requests path = [] := by
  cases followed with
  | unmeasured => rfl
  | watched accepted began measures watched => exact watched.requests

theorem timeout_of_patience {executor : Executor T} {grace : Int} {deadline accepted timeout : T}
    (measures : patience executor grace deadline accepted = .ok timeout) :
    ∃ granted, TimeScale.ofInt? grace = .ok granted ∧
      timeout = TimeScale.earlier (granted + executor.headroom)
        (TimeScale.later (deadline - accepted) TimeScale.zero) := by
  unfold patience at measures
  cases reaches : (TimeScale.ofInt? grace : Except TimeError T) with
  | error error => simp [reaches] at measures
  | ok granted =>
    rw [reaches] at measures
    cases measures
    exact ⟨granted, rfl, rfl⟩

theorem error_of_patience {executor : Executor T} {grace : Int} {deadline accepted : T}
    {error : TimeError} (measures : patience executor grace deadline accepted = .error error) :
    (TimeScale.ofInt? grace : Except TimeError T) = .error error := by
  unfold patience at measures
  cases reaches : (TimeScale.ofInt? grace : Except TimeError T) with
  | error other =>
    rw [reaches] at measures
    cases measures
    rfl
  | ok granted =>
    rw [reaches] at measures
    cases measures

/-- What the looks at an evicted pod say, once they have come to an end. -/
theorem seenOff_of_followed {executor : Executor T} {pod : Pod} {start : T} {grace : Int}
    {before following : List (Exchange (World T))} {result : Except Failure (Outcome × String)}
    {ending : Outcome × String} {report : PodReport} (unseen : World.looks before = [])
    (followed : Followed executor pod grace (start + executor.timeLimit) following result)
    (ended : result = .ok ending) (outcome : report.outcome = ending.1) :
    ∃ earlier last, executor.SeenOff pod (⟨.clock, start⟩ ::
      (before ++ ⟨.call (.evict pod grace), .ok ()⟩ :: following)) report grace earlier last := by
  cases followed with
  | unmeasured => cases ended
  | @watched accepted began timeout path rounds seen gone measures watched =>
    cases watched with
    | outOfTurns => cases ended
    | @ended _ closing seen _ goes last =>
      have looks : World.looks (rounds.flatMap (Undecided.path executor.pollInterval pod
          (began + timeout)) ++ closing) =
          (rounds.map (·.seen) ++ [seen]).map fun seen => (pod.name, pod.ns, seen) := by
        rw [World.looks_append, looks_undecided, last.looks, List.map_append]
        rfl
      refine ⟨rounds.map (·.seen), seen, .of_verdict ?_ (not_decisive_of_goesOn goes) ?_⟩
      · rw [World.looks_clock, World.looks_append, unseen]
        exact looks
      have spec := decide?_spec pod seen
      cases last with
      | @decided _ decision decides =>
        rw [decides] at spec
        cases decision with
        | ok value =>
          cases ended
          exact .inl ⟨outcome, spec⟩
        | error failure =>
          cases failure with
          | refused refusal =>
            cases ended
            exact .inr (.inl ⟨outcome, spec.2.1, spec.2.2 refusal rfl⟩)
          | _ => cases ended
      | @tooLate _ unsure now late =>
        rw [unsure] at spec
        cases ended
        obtain ⟨granted, reaches, same⟩ := timeout_of_patience measures
        refine .inr (.inr ⟨outcome, spec, start, accepted, began, now, granted, timeout, before,
          rounds.flatMap (Undecided.path executor.pollInterval pod (began + timeout)) ++
            [⟨.call (.readPod pod.name pod.ns), seen⟩], ?_, reaches, same, late⟩)
        simp

/-- If nothing can be told of an evicted pod, its grace period is beyond the scale of time, a look at
it failed, or the turns have run out. -/
theorem unreported_of_followed {executor : Executor T} {pod : Pod} {grace : Int} {deadline : T}
    {before following : List (Exchange (World T))} {result : Except Failure (Outcome × String)}
    {failure : Failure} (grants : executor.Grants pod grace) (unseen : World.looks before = [])
    (followed : Followed executor pod grace deadline following result)
    (ended : result = .error failure) : executor.Unreported pod (before ++ following) failure := by
  cases followed with
  | @unmeasured accepted error measures =>
    cases ended
    exact .unmeasured grants (error_of_patience measures)
  | @watched accepted began timeout path rounds seen gone measures watched =>
    cases watched with
    | outOfTurns goes spent =>
      cases ended
      refine .outOfTurns (.inr ?_)
      rw [World.looks_append, unseen, World.looks_clock, World.looks_clock, looks_undecided]
      simpa using spent
    | @ended _ closing seen _ goes last =>
      have spec := decide?_spec pod seen
      cases last with
      | tooLate => cases ended
      | @decided _ decision decides =>
        rw [decides] at spec
        cases decision with
        | ok value => cases ended
        | error given =>
          obtain ⟨rfl, -⟩ := spec
          have same : given = failure ∧ ∀ refusal, failure ≠ .refused refusal := by
            cases given <;> cases ended <;> exact ⟨rfl, nofun⟩
          obtain ⟨rfl, other⟩ := same
          exact .failed ⟨.readPod pod.name pod.ns, List.mem_append_right _
            (.tail _ (.tail _ (List.mem_append_right _ (.head _))))⟩ other

theorem outcome_ofRefusal_eq (refusal : Refusal) :
    (ofRefusal refusal).1 = if refusal.status = some 404 then .evicted
      else if refusal.status = some 429 then .timedOut
      else .failed := by
  unfold ofRefusal Refusal.isNotFound Refusal.isTooManyRequests
  simp only [beq_iff_eq]
  split
  · rfl
  · split <;> rfl

/-- A refusal that may pass is the last one only at the deadline. -/
theorem LastRequest.late {pod : Pod} {grace : Int} {deadline : T}
    {closing : List (Exchange (World T))} {answer : Except Failure Unit} {refusal : Refusal}
    (last : LastRequest pod grace deadline closing answer)
    (refused : answer = .error (.refused refusal)) (passing : refusal.Passing) :
    ∃ before now, closing = before ++ [⟨.clock, now⟩] ∧ TimeScale.upTo deadline now = true := by
  cases last with
  | decided final =>
    have transient := Refusal.isTransient_iff.mpr passing
    rw [final refusal refused] at transient
    cases transient
  | @tooLate given _ planned checked late =>
    exact ⟨[⟨.call (.evict pod grace), .error (.refused given)⟩, ⟨.clock, planned⟩], checked, rfl, late⟩

/-- The last request is accepted at once, or not at all. -/
theorem LastRequest.eq_of_accepted {pod : Pod} {grace : Int} {deadline : T}
    {closing : List (Exchange (World T))} (last : LastRequest pod grace deadline closing (.ok ())) :
    closing = [⟨.call (.evict pod grace), .ok ()⟩] := by
  cases last
  rfl

end Eviction

open Eviction

/-- How an eviction comes to a report. -/
theorem Executor.judged_of_course {executor : Executor T} {pod : Pod}
    {path : List (Exchange (World T))} {result : Except Failure PodReport} {report : PodReport}
    (course : executor.Course pod path result) (reported : result = .ok report) :
    ∃ grace refusals last, executor.Judged pod path report grace refusals last := by
  cases course with
  | ungranted => cases reported
  | failed => cases reported
  | @refused start grace _ rounds refusal grants requested =>
    cases reported
    have unseen := requested.looks
    cases requested with
    | @ended _ closing _ goes last =>
      have turnedDown (passing : refusal.Passing) := last.late rfl passing
      refine ⟨grace, rounds.map (·.refusal), .error refusal,
        { named := ⟨rfl, rfl⟩
          grants := grants_of_graceFor grants
          requests := by
            rw [map_answers]
            exact requests_ended last
          passing := passing_of_goesOn goes
          attempts := by simp [answers]
          refused := ?_
          accepted := nofun }⟩
      rintro _ ⟨⟩
      refine ⟨unseen, outcome_ofRefusal_eq refusal, fun passing => ?_⟩
      obtain ⟨before, now, rfl, late⟩ := turnedDown passing
      exact ⟨start, _, now, by rw [List.append_assoc], late⟩
  | @accepted start grace _ following rounds ending grants requested followed =>
    cases ending with
    | error failure => cases reported
    | ok ending =>
      cases reported
      cases requested with
      | @ended _ closing _ goes last =>
        refine ⟨grace, rounds.map (·.refusal), .ok (),
          { named := ⟨rfl, rfl⟩
            grants := grants_of_graceFor grants
            requests := ?_
            passing := passing_of_goesOn goes
            attempts := by simp [answers]
            refused := nofun
            accepted := fun _ => ?_ }⟩
        · rw [World.requests_clock, World.requests_append, followed.requests, List.append_nil,
            map_answers]
          exact requests_ended last
        · rw [last.eq_of_accepted, List.append_assoc]
          exact seenOff_of_followed (looks_refused rounds) followed rfl rfl

/-- How an eviction comes to no report. -/
theorem Executor.unreported_of_course {executor : Executor T} {pod : Pod}
    {path : List (Exchange (World T))} {result : Except Failure PodReport} {failure : Failure}
    (course : executor.Course pod path result) (failed : result = .error failure) :
    executor.Unreported pod path failure := by
  cases course with
  | refused => cases failed
  | ungranted start grants =>
    cases failed
    exact .ungranted grants
  | @failed start grace _ rounds failure grants requested other =>
    cases failed
    cases requested with
    | @ended _ closing _ goes last =>
      cases last with
      | tooLate => exact absurd rfl (other _)
      | decided final =>
        exact .failed ⟨.evict pod grace, .tail _ (List.mem_append_right _ (.head _))⟩ other
    | outOfTurns goes spent =>
      refine .outOfTurns (.inl ?_)
      rw [World.requests_clock, requests_refused, List.length_map]
      exact spent
  | @accepted start grace before following rounds ending grants requested followed =>
    cases ending with
    | ok ending => cases failed
    | error failure =>
      cases failed
      rw [← List.cons_append]
      exact unreported_of_followed (grants_of_graceFor grants) requested.looks followed rfl

/-- The report of an eviction is read off the answers of the cluster, and an eviction without a report
met a failure that is no refusal, had no grace period to give, or ran out of turns. -/
theorem Executor.evict_judges (executor : Executor T) (pod : Pod) :
    (∀ path report, (executor.evict pod).Reaches path (.done (.ok report)) →
      ∃ grace refusals last, executor.Judged pod path report grace refusals last) ∧
    ∀ path failure, (executor.evict pod).Reaches path (.done (.error failure)) →
      executor.Unreported pod path failure :=
  ⟨fun _ _ reached => judged_of_course (course_of_evict reached) rfl,
    fun _ _ reached => unreported_of_course (course_of_evict reached) rfl⟩

namespace Eviction

/-- What is still to happen around an eviction: the time, and the answers to requests for evictions and
to looks at pods. -/
structure Script where
  now : Rat
  answers : List (Except Failure Unit)
  looks : List (Except Failure Pod)

/-- A cluster that answers by a script, and a clock that moves with pauses only. After the script,
evictions are refused for the time being and pods are gone. -/
def scripted : Surroundings (World Rat) Script
  | .call (.evict _ _), script =>
    (script.answers.headD (.error (.refused ⟨some 429, some "Too Many Requests"⟩)),
      { script with answers := script.answers.tail })
  | .call (.readPod _ _), script =>
    (script.looks.headD (.error (.refused .notFound)), { script with looks := script.looks.tail })
  | .call _, script => (.error (.refused .notFound), script)
  | .clock, script => (script.now, script)
  | .sleep span, script => ((), { script with now := script.now + span })
  | .openPool _ _, script | .resume _ _, script | .closePool _, script | .tell _, script =>
    ((), script)

/-- An executor with six and a half seconds for an eviction. -/
def shortExecutor : Executor Rat :=
  { filters := []
    maxGrace := 7 / 2
    headroom := 3
    retryInterval := 4
    pollInterval := 1
    cordonAttempts := 5
    turns := 10 }

/-- A pod that asks for no grace period. -/
def lonePod : Pod := { name := "p1", ns := "default", node := "n1", uid := "u1" }

/-- Two refusals in time, and an eviction that is accepted at the deadline. -/
def acceptedLate : Script :=
  { now := 100
    answers := [.error (.refused ⟨some 429, some "Too Many Requests"⟩),
      .error (.refused ⟨some 409, some "Conflict"⟩), .ok ()]
    looks := [.ok lonePod] }

theorem run_acceptedLate : ((shortExecutor.evict lonePod).run scripted acceptedLate).1 =
    .ok ⟨"default", "p1", .timedOut, "still present 0s after eviction", 3⟩ := by
  decide +kernel

/-- An eviction that is accepted at the deadline leaves no time, and the pod is looked at once. -/
theorem judged_acceptedLate : ∃ path grace refusals last,
    (shortExecutor.evict lonePod).Reaches path
      (.done (.ok ⟨"default", "p1", .timedOut, "still present 0s after eviction", 3⟩)) ∧
    shortExecutor.Judged lonePod path
      ⟨"default", "p1", .timedOut, "still present 0s after eviction", 3⟩ grace refusals last := by
  obtain ⟨path, reached⟩ :=
    Program.Reaches.of_run scripted (shortExecutor.evict lonePod) acceptedLate
  rw [run_acceptedLate] at reached
  obtain ⟨grace, refusals, last, judged⟩ :=
    (shortExecutor.evict_judges lonePod).1 path _ reached
  exact ⟨path, grace, refusals, last, reached, judged⟩

end Eviction

end Evacuation
