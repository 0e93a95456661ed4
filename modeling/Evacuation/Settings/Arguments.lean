import Evacuation.Settings.CommandLine
import Evacuation.Settings.EnvFile
/-!
# Arguments

The raw settings of the program. Each one is named by an option, by an environment variable or by
both. For a single value the last occurrence of the option counts, then the variable, then what is
usual; a flag is on if the option occurs or the variable says so; a list holds the items of the
variable and then those of the options; and the conditions are the plain arguments, or the items
of the variable if there are none. An option that was given without a value leaves its setting
without one, whatever the variable says.
-/
namespace Evacuation

/-- The settings that an option names. -/
inductive Setting where
  | help
  | debug
  | listen
  | kubeconfig
  | master
  | dryRun
  | maxGracePeriod
  | evictionHeadroom
  | drainBuffer
  | nodeLabel
  | evictDaemonSetPods
  | evictEmptyDirPods
  | evictUnreplicatedPods
  | protectedPods
  | statsdHost
  | statsdPort
  deriving DecidableEq, Repr

namespace Setting

/-- The long name of the option, without its dashes. -/
def longName : Setting → String
  | .help => "help"
  | .debug => "debug"
  | .listen => "listen"
  | .kubeconfig => "kubeconfig"
  | .master => "master"
  | .dryRun => "dry-run"
  | .maxGracePeriod => "max-grace-period"
  | .evictionHeadroom => "eviction-headroom"
  | .drainBuffer => "drain-buffer"
  | .nodeLabel => "node-label"
  | .evictDaemonSetPods => "evict-daemonset-pods"
  | .evictEmptyDirPods => "evict-emptydir-pods"
  | .evictUnreplicatedPods => "evict-unreplicated-pods"
  | .protectedPods => "protected-pod-annotation"
  | .statsdHost => "statsd-host"
  | .statsdPort => "statsd-port"

/-- The option of a setting. -/
def flag (setting : Setting) : String := "--" ++ setting.longName

/-- The name of one letter, for the settings that have one. -/
def shortName? : Setting → Option String
  | .help => some "-h"
  | .debug => some "-d"
  | _ => none

/-- What the option takes. -/
def kind : Setting → CommandLine.Kind
  | .help => .help
  | .debug | .dryRun | .evictDaemonSetPods | .evictEmptyDirPods | .evictUnreplicatedPods => .flag
  | .statsdPort => .number
  | _ => .value

/-- All settings with options, in the order in which the options are listed. -/
def all : List Setting :=
  [.help, .debug, .listen, .kubeconfig, .master, .dryRun, .maxGracePeriod, .evictionHeadroom,
    .drainBuffer, .nodeLabel, .evictDaemonSetPods, .evictEmptyDirPods, .evictUnreplicatedPods,
    .protectedPods, .statsdHost, .statsdPort]

/-- The option in the grammar of the command line. -/
def form (setting : Setting) : CommandLine.Form Setting :=
  { option := setting
    names := setting.shortName?.toList ++ [setting.flag]
    kind := setting.kind }

/-- The options of the program. -/
def grammar : CommandLine.Grammar Setting := all.map form

/-- A character of the name of a variable for one of the name of an option. -/
def variableChar (c : Char) : Char := if c == '-' then '_' else c.toUpper

/-- What the names of all variables begin with. -/
def variableStart : String := "NODE_DRAINER_"

/-- The environment variable of a setting. -/
def variableName (setting : Setting) : String :=
  variableStart ++ String.ofList (setting.longName.toList.map variableChar)

end Setting

/-- The environment variable of the conditions. -/
def conditionsVariable : String := Setting.variableStart ++ "NODE_CONDITIONS"

/-- The environment variables of all settings. -/
def settingVariables : List String := conditionsVariable :: Setting.all.map Setting.variableName

namespace Environment

/-- The texts that switch a flag on. -/
def affirmations : List String := ["1", "true", "yes", "on"]

/-- A variable says that a flag is on. -/
def isOn (environment : Environment) (name : String) : Bool :=
  match environment.get? name with
  | none => false
  | some text =>
    affirmations.contains (String.ofList ((Text.strip text.toList).map Char.toLower))

/-- The items of a text, separated by commas. Empty ones are left out. -/
def itemsOf (text : String) : List String :=
  (((Text.splitAll ',' text.toList).map Text.strip).filter (!·.isEmpty)).map String.ofList

/-- The items of a variable. -/
def items (environment : Environment) (name : String) : List String :=
  itemsOf ((environment.get? name).getD "")

end Environment

/-- The raw settings of the program. Where a text is needed, none stands for an option that was given
without a value. -/
structure Arguments where
  conditions : List String
  debug : Bool := false
  listen : Option String
  kubeconfig : Option String := none
  master : Option String := none
  dryRun : Bool := false
  maxGracePeriod : Option String
  evictionHeadroom : Option String
  drainBuffer : Option String
  nodeLabels : List (Option String) := []
  evictDaemonSetPods : Bool := false
  evictEmptyDirPods : Bool := false
  evictUnreplicatedPods : Bool := false
  protectedPodAnnotations : List (Option String) := []
  statsdHost : Option String := none
  statsdPort : Option Int
  deriving DecidableEq, Repr

/-- Why the program does not get its settings. -/
inductive SettingsStop where
  /-- The help was asked for. -/
  | help
  /-- The command line is wrong, with a report about it. -/
  | usage (report : String)
  /-- A setting that needs a value was given without one. -/
  | valueless (setting : Setting)
  /-- The variable of the port is no whole number. -/
  | port (cause : Malformed)
  /-- The settings file has an entry that no environment can hold. -/
  | entry (cause : IllegalEntry)
  deriving DecidableEq, Repr

namespace Arguments

/-- The values that an option was given, in their order. -/
def givenTo (given : CommandLine.Given Setting) (setting : Setting) : List (Option String) :=
  (given.options.filter (·.1 = setting)).map (·.2)

/-- The option of a flag occurs, or its variable says that it is on. -/
def flag (environment : Environment) (given : CommandLine.Given Setting) (setting : Setting) :
    Bool :=
  !(givenTo given setting).isEmpty || environment.isOn setting.variableName

/-- A single value: the last one given, or else that of the variable. -/
def value? (environment : Environment) (given : CommandLine.Given Setting) (setting : Setting) :
    Option String :=
  match (givenTo given setting).getLast? with
  | some value => value
  | none => environment.get? setting.variableName

/-- A single value: the last one given, or else that of the variable, or else what is usual. -/
def value (environment : Environment) (given : CommandLine.Given Setting) (setting : Setting)
    (usual : String) : Option String :=
  match (givenTo given setting).getLast? with
  | some value => value
  | none => some ((environment.get? setting.variableName).getD usual)

/-- A list of values: the items of the variable and then the ones given. -/
def values (environment : Environment) (given : CommandLine.Given Setting) (setting : Setting) :
    List (Option String) :=
  (environment.items setting.variableName).map some ++ givenTo given setting

/-- The port that is used if none is given. -/
def usualPort (environment : Environment) : Except Malformed Int :=
  Decimal.readInteger ((environment.get? Setting.statsdPort.variableName).getD "8125")

/-- The port: the last one given, or else the one of the variable. -/
def port (given : CommandLine.Given Setting) (usual : Int) : Option Int :=
  match (givenTo given .statsdPort).getLast? with
  | none => some usual
  | some text => text.bind fun text => (Decimal.readInteger text).toOption

/-- The raw settings that a command line and an environment give. -/
def resolve (environment : Environment) (port : Int) (given : CommandLine.Given Setting) :
    Arguments :=
  { conditions :=
      if given.words.isEmpty then environment.items conditionsVariable else given.words
    debug := flag environment given .debug
    listen := value environment given .listen ":10002"
    kubeconfig := value? environment given .kubeconfig
    master := value? environment given .master
    dryRun := flag environment given .dryRun
    maxGracePeriod := value environment given .maxGracePeriod "8m"
    evictionHeadroom := value environment given .evictionHeadroom "30s"
    drainBuffer := value environment given .drainBuffer "10m"
    nodeLabels := values environment given .nodeLabel
    evictDaemonSetPods := flag environment given .evictDaemonSetPods
    evictEmptyDirPods := flag environment given .evictEmptyDirPods
    evictUnreplicatedPods := flag environment given .evictUnreplicatedPods
    protectedPodAnnotations := values environment given .protectedPods
    statsdHost := value? environment given .statsdHost
    statsdPort := Arguments.port given port }

/-- Read the raw settings. The port of the environment is read before the command line. -/
def read (environment : Environment) (words : List String) : Except SettingsStop Arguments :=
  match usualPort environment with
  | .error cause => .error (.port cause)
  | .ok port =>
    match CommandLine.read Setting.grammar words with
    | .error .help => .error .help
    | .error (.usage error) => .error (.usage error.message)
    | .ok given => .ok (resolve environment port given)

end Arguments

end Evacuation
