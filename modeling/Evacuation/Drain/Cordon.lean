import Evacuation.Drain.Executor
/-!
# Cordoning

A node is cordoned by disabling its scheduling. Every attempt reads the node afresh and sends a
patch only if the node is still schedulable; a node that does not exist needs no cordon. A
transient refusal is tried again after one second, two, four, eight and then ten seconds each, up
to the number of attempts. A node that is seen to be cordoned beforehand costs no request.
-/
namespace Evacuation

variable {T : Type} [TimeScale T]

namespace Cordon

/-- The end of an attempt, where a missing node counts as done. -/
def settle (result : Except Failure Unit) : Except Failure Unit :=
  match result with
  | .error (.refused refusal) => if refusal.isNotFound then .ok () else result
  | _ => result

/-- One attempt to cordon a node. -/
def attempt (node : String) : Work T (Except Failure Unit) := do
  match ← Work.getNode node with
  | .error failure => return settle (.error failure)
  | .ok fresh =>
    if fresh.isUnschedulable then return .ok ()
    else return settle (← Work.disableScheduling node)

/-- The longest pause between two attempts, in seconds. -/
def longestPause : Nat := 10

/-- The pause after an attempt, in seconds: doubled each time, up to the longest pause. -/
def pauseAfter (attempt : Nat) : Nat :=
  if attempt < 5 then min (Decimal.power 2 (attempt - 1)) longestPause else longestPause

/-- The plan of attempts: no pause is planned after the last one. -/
def plan (attempts : Int) (attempt : Nat) : Work T (Option T) :=
  return if attempts ≤ attempt then none else some (TimeScale.ofInt (pauseAfter attempt))

/-- Pauses double until they would pass the longest one. -/
theorem pauseAfter_eq (attempt : Nat) :
    pauseAfter attempt = min (Decimal.power 2 (attempt - 1)) longestPause := by
  unfold pauseAfter
  split
  · rfl
  · obtain ⟨k, rfl⟩ : ∃ k, attempt = k + 5 := ⟨attempt - 5, by omega⟩
    have grown : Decimal.power 2 4 ≤ Decimal.power 2 (k + 4) :=
      Decimal.power_le_power (by decide) (by omega)
    have start : Decimal.power 2 4 = 16 := by decide
    simp only [longestPause, show k + 5 - 1 = k + 4 by omega]
    omega

end Cordon

/-- Cordon a node that was seen in a given state. -/
def Executor.cordon (executor : Executor T) (node : Node) : Work T (Except Failure Unit) := do
  if node.isUnschedulable then return .ok ()
  let turns := max 1 executor.cordonAttempts.toNat
  match (← Work.retry (Cordon.attempt node.name) (Cordon.plan executor.cordonAttempts) turns 1).1 with
  | .error (.refused refusal) => return .error (.cordon node.name refusal)
  | result => return result

end Evacuation
