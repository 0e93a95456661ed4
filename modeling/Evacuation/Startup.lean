import Evacuation.Blueprint
import Evacuation.ClusterAccess
import Evacuation.Collector
import Evacuation.Lifecycle
import Evacuation.NodeFeed
import Evacuation.Settings.Basic
import Evacuation.Web
/-!
# Starting up

The program reads its settings, sets its reports up, finds the cluster and the host that collects
counts, and builds the controller. The first of these that fails ends it with a report. Then its
components run side by side, the watch of nodes and the web pages, until one ends or a signal
comes; a failure of theirs is the last report, and the drains that have not begun are cancelled.
-/
namespace Evacuation

/-- How much is reported while the program runs. -/
inductive Level where
  | debug
  | info
  /-- Only what is amiss; so it is before the settings are known. -/
  | warning
  deriving DecidableEq, Repr

/-- The name of a level. -/
def Level.label : Level → String
  | .debug => "DEBUG"
  | .info => "INFO"
  | .warning => "WARNING"

/-- Why the program ends before its components run. -/
inductive StartError where
  | settings (stop : SettingsStop)
  | access (error : AccessError)
  | collector (error : HostError)
  | flaw (flaw : Flaw)

/-- The program ends with a report of its own: so it does if it is not told well enough what to work
on. Wrong settings are reported with the usage instead, and what is wrong with the content of an
access file, with a port or with the controller ends the program as it is. -/
def StartError.isReported : StartError → Bool
  | .access error => error.isReported
  | .collector error => error.isReported
  | .settings _ | .flaw _ => false

/-- A program that is ready to run. -/
structure Launch (T : Type) where
  settings : Settings T
  /-- The address of the cluster. -/
  host : String
  collector : Option Collector
  blueprint : Blueprint T
  controller : Controller T
  desk : Desk T
  watch : NodeWatch T

namespace Startup

variable {T : Type} [TimeScale T]

/-- The blueprint of the controller that settings ask for. -/
def blueprintOf (settings : Settings T) : Blueprint T :=
  { Blueprint.usual settings.rules settings.maxGracePeriod settings.evictionHeadroom
      settings.drainBuffer settings.conditions with
    dryRun := settings.dryRun
    labels := settings.nodeLabels }

/-- The level that settings ask for. -/
def levelOf (settings : Settings T) : Level := if settings.debug then .debug else .info

/-- Make ready to run with settings. -/
def launch (machine : Access.Machine) (settings : Settings T) : Except StartError (Launch T) := do
  let host ← (ClusterAccess.locate machine settings.kubeconfig settings.master).mapError .access
  let collector ← (Collector.at? settings.statsdHost settings.statsdPort).mapError .collector
  let blueprint := blueprintOf settings
  let (controller, desk) ← blueprint.build.mapError .flaw
  return { settings, host, collector, blueprint, controller, desk, watch := NodeWatch.usual }

/-- Make ready to run: the level of reports, and the program or why it ends. -/
def prepare (environment : Environment) (file : Option String) (machine : Access.Machine)
    (words : List String) : Level × Except StartError (Launch T) :=
  match Settings.load environment file words with
  | .error stop => (.warning, .error (.settings stop))
  | .ok settings => (levelOf settings, launch machine settings)

/-- The last report of a program that could not start, if it ends with one of its own. -/
def report? (error : StartError) : Option String :=
  match error with
  | .access cause =>
    if error.isReported then some s!"cannot create Kubernetes client: {cause.message}" else none
  | .collector cause =>
    if error.isReported then some s!"cannot create metrics: {cause.message}" else none
  | .settings _ | .flaw _ => none

/-- The last report of a program whose components ended. -/
def endReport? : Ending → Option String
  | .ok () => none
  | .error failure => some s!"error serving: {failure.message}"

/-- The run of the components as it begins: the watch of nodes and the web pages. -/
def firstRun : Lifecycle := Lifecycle.start 2 false

end Startup

end Evacuation
