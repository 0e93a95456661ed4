import Evacuation.Drain.Cordon
import Evacuation.Drain.Drain
/-!
# Drainers

A drainer carries cordons and drains out, either on the cluster or, in a dry run, only in name: a
dry run asks nothing of the cluster and reports a drain without pods.
-/
namespace Evacuation

/-- How cordons and drains are carried out. -/
inductive Drainer (T : Type) where
  | dryRun
  | live (executor : Executor T)

namespace Drainer

variable {T : Type} [TimeScale T]

/-- Cordon a node. -/
def cordon : Drainer T → Node → Work T (Except Failure Unit)
  | dryRun, _ => return .ok ()
  | live executor, node => executor.cordon node

/-- Drain a node. -/
def drain : Drainer T → Node → Work T (Except Failure DrainReport)
  | dryRun, node => return .ok { node := node.name }
  | live executor, node => executor.drain node

end Drainer

end Evacuation
