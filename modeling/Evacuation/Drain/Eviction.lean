import Evacuation.Drain.Executor
import Evacuation.DrainReport
/-!
# Evictions

The eviction of one pod. Its deadline is set when it begins. The request to evict is sent again
after every transient refusal, at the retry interval but never past the deadline, until the clock
has reached the deadline. Once it is accepted, the pod is looked at, at the poll interval, until it
is gone or another pod has taken its name, or until its grace period and the headroom or what is
left of the deadline has passed. A look that is refused for a while decides nothing.
-/
namespace Evacuation

variable {T : Type} [TimeScale T]

namespace Eviction

/-- What a refused request to evict says about the pod. -/
def ofRefusal (refusal : Refusal) : Outcome × String :=
  if refusal.isNotFound then (.evicted, "already gone")
  else if refusal.isTooManyRequests then
    (.timedOut, s!"eviction still rejected when the eviction deadline passed: {refusal.describe}")
  else (.failed, s!"cannot evict: {refusal.describe}")

/-- The pause before the next request: the retry interval, cut at the deadline. None is planned
once the clock has reached the deadline. -/
def plan (interval deadline : T) (_attempt : Nat) : Work T (Option T) := do
  let left := deadline - (← Work.clock)
  let pause := TimeScale.later TimeScale.zero (TimeScale.earlier interval left)
  return if TimeScale.upTo deadline (← Work.clock) then none else some pause

/-- What one look at an evicted pod decides; nothing if it must be looked at again. -/
def decide? (pod : Pod) : Except Failure Pod → Option (Except Failure Unit)
  | .ok current => if current.uid == pod.uid then none else some (.ok ())
  | .error (.refused refusal) =>
    if refusal.isNotFound then some (.ok ())
    else if refusal.isTransient then none
    else some (.error (.refused refusal))
  | .error failure => some (.error failure)

/-- Look at an evicted pod until it is gone or the time to give up has come. Whether it is gone. -/
def awaitGone (pollInterval : T) (pod : Pod) (giveUp : T) : Nat → Work T (Except Failure Bool)
  | 0 => return .error .outOfTurns
  | turns + 1 => do
    match decide? pod (← Work.getPod pod.name pod.ns) with
    | some decision => return decision.map fun _ => true
    | none =>
      let left := giveUp - (← Work.clock)
      if TimeScale.upTo left TimeScale.zero then return .ok false
      Work.sleep (TimeScale.earlier pollInterval left)
      awaitGone pollInterval pod giveUp turns

/-- How long an accepted eviction is waited for: the grace period and the headroom, but not past
the deadline. -/
def patience (executor : Executor T) (grace : Int) (deadline now : T) : Except TimeError T := do
  let granted ← TimeScale.ofInt? grace
  return TimeScale.earlier (granted + executor.headroom)
    (TimeScale.later (deadline - now) TimeScale.zero)

/-- Wait for an accepted eviction. -/
def follow (executor : Executor T) (pod : Pod) (grace : Int) (deadline : T) :
    Work T (Except Failure (Outcome × String)) := do
  match patience executor grace deadline (← Work.clock) with
  | .error error => return .error (.time error)
  | .ok timeout =>
    let giveUp := (← Work.clock) + timeout
    match ← awaitGone executor.pollInterval pod giveUp executor.turns with
    | .ok true => return .ok (.evicted, "")
    | .ok false =>
      return .ok (.timedOut, s!"still present {TimeScale.wholeText timeout}s after eviction")
    | .error (.refused refusal) =>
      return .ok (.failed, s!"cannot confirm deletion: {refusal.describe}")
    | .error failure => return .error failure

end Eviction

/-- Evict a pod and wait until it is gone. -/
def Executor.evict (executor : Executor T) (pod : Pod) : Work T (Except Failure PodReport) := do
  let deadline := (← Work.clock) + executor.timeLimit
  match executor.graceFor pod with
  | .error error => return .error (.time error)
  | .ok grace =>
    let report := fun (ending : Outcome × String) (attempts : Nat) =>
      (⟨pod.ns, pod.name, ending.1, ending.2, attempts⟩ : PodReport)
    let (result, attempts) ← Work.retry (Work.evictPod pod grace)
      (Eviction.plan executor.retryInterval deadline) executor.turns 1
    match result with
    | .error (.refused refusal) => return .ok (report (Eviction.ofRefusal refusal) attempts)
    | .error failure => return .error failure
    | .ok () =>
      match ← Eviction.follow executor pod grace deadline with
      | .ok ending => return .ok (report ending attempts)
      | .error failure => return .error failure

end Evacuation
