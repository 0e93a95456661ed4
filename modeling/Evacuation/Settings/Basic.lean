import Evacuation.KeyValue
import Evacuation.ListenAddress
import Evacuation.PodFilter
import Evacuation.Settings.Arguments
import Evacuation.Time.Duration
/-!
# Settings

The settings of the program, read from the raw ones. There must be a condition, every value must be
well written, and no duration may be negative; the first fault is reported. A setting that needs a
value and was given without one is a fault of its own kind, found when its value is read.
-/
namespace Evacuation

/-- What is wrong with the raw settings. -/
inductive SettingsError where
  | noCondition
  | malformed (cause : Malformed)
  /-- A setting that needs a value has none. -/
  | valueless (setting : Setting)
  /-- A duration is negative. -/
  | negative (setting : Setting)
  deriving DecidableEq, Repr

/-- What the value of a setting would be asked for first, where it is missing. -/
def Setting.neededStep : Setting → String
  | .listen => "rpartition"
  | .nodeLabel | .protectedPods => "partition"
  | _ => "strip"

/-- The text that reports a setting without a value. -/
def Setting.valuelessReport (setting : Setting) : String :=
  s!"'list' object has no attribute '{setting.neededStep}'"

/-- The text that reports wrong settings. -/
def SettingsError.message : SettingsError → String
  | .noCondition => "at least one node condition is required"
  | .malformed cause => cause.message
  | .valueless setting => setting.valuelessReport
  | .negative setting => s!"{setting.flag} must not be negative"

/-- The settings of the program. Times are in seconds. -/
structure Settings (T : Type) where
  conditions : List ConditionSpec
  nodeLabels : Table String String := ∅
  debug : Bool := false
  listen : String
  kubeconfig : Option String := none
  master : Option String := none
  dryRun : Bool := false
  maxGracePeriod : T
  evictionHeadroom : T
  drainBuffer : T
  rules : EvictionRules := {}
  statsdHost : Option String := none
  statsdPort : Option Int

namespace Settings

variable {T : Type} [TimeScale T]

/-- An empty text counts as missing. -/
def unlessEmpty (text : Option String) : Option String := text.filter (!·.isEmpty)

/-- A reading whose fault is a fault of the settings. -/
def reading {α : Type} (result : Except Malformed α) : Except SettingsError α :=
  result.mapError .malformed

/-- The value of a setting, which must have one. -/
def required (setting : Setting) : Option String → Except SettingsError String
  | none => .error (.valueless setting)
  | some text => .ok text

/-- The duration of a setting. -/
def durationOf (setting : Setting) (value : Option String) : Except SettingsError T := do
  reading (Duration.read (← required setting value))

/-- Refuse a negative duration. -/
def requireNonNegative (setting : Setting) (span : T) : Except SettingsError Unit :=
  if TimeScale.before span TimeScale.zero then .error (.negative setting) else .ok ()

/-- The label written in a value. -/
def labelOf (value : Option String) : Except SettingsError KeyValue := do
  reading (KeyValue.read (← required .nodeLabel value))

/-- The text of an address to listen at, which must be well written. -/
def listenText (value : Option String) : Except SettingsError String := do
  let text ← required .listen value
  let _ ← reading (ListenAddress.read text)
  return text

/-- The text of an annotation that protects a pod, which must be well written. -/
def markerText (value : Option String) : Except SettingsError String := do
  let text ← required .protectedPods value
  let _ ← reading (AnnotationMarker.read text)
  return text

/-- The settings written in raw ones. -/
def ofArguments (arguments : Arguments) : Except SettingsError (Settings T) := do
  if arguments.conditions.isEmpty then throw .noCondition
  let conditions ← reading (arguments.conditions.mapM ConditionSpec.read)
  let maxGracePeriod ← durationOf .maxGracePeriod arguments.maxGracePeriod
  let evictionHeadroom ← durationOf .evictionHeadroom arguments.evictionHeadroom
  let drainBuffer ← durationOf .drainBuffer arguments.drainBuffer
  requireNonNegative .maxGracePeriod maxGracePeriod
  requireNonNegative .evictionHeadroom evictionHeadroom
  requireNonNegative .drainBuffer drainBuffer
  let listen ← listenText arguments.listen
  let protectedAnnotations ← arguments.protectedPodAnnotations.mapM markerText
  let labels ← arguments.nodeLabels.mapM labelOf
  return {
    conditions
    nodeLabels := KeyValue.labels labels
    debug := arguments.debug
    listen
    kubeconfig := unlessEmpty arguments.kubeconfig
    master := unlessEmpty arguments.master
    dryRun := arguments.dryRun
    maxGracePeriod
    evictionHeadroom
    drainBuffer
    rules :=
      { evictDaemonSetPods := arguments.evictDaemonSetPods
        evictLocalStoragePods := arguments.evictEmptyDirPods
        evictUnreplicatedPods := arguments.evictUnreplicatedPods
        protectedAnnotations }
    statsdHost := unlessEmpty arguments.statsdHost
    statsdPort := arguments.statsdPort }

/-- The environment with the values of a settings file, if there is one. -/
def environmentOf (environment : Environment) (file : Option String) :
    Except IllegalEntry Environment :=
  match file with
  | none => .ok environment
  | some text => environment.extend text

/-- How wrong settings end the program: with a report about the command line, unless a value is
missing altogether. -/
def stopOf : SettingsError → SettingsStop
  | .valueless setting => .valueless setting
  | error => .usage error.message

/-- Read the settings from the environment, a settings file and the command line. -/
def load (environment : Environment) (file : Option String) (words : List String) :
    Except SettingsStop (Settings T) :=
  match environmentOf environment file with
  | .error cause => .error (.entry cause)
  | .ok environment =>
    match Arguments.read environment words with
    | .error stop => .error stop
    | .ok arguments => (ofArguments arguments).mapError stopOf

end Settings

end Evacuation
