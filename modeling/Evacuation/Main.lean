import Evacuation.Startup
/-!
# The command line program

The outer layer of the program: it reads the environment, the settings file and the access files,
makes the controller ready with the settings they give, and shows what was made ready. The
connection to a cluster is not part of the library; whoever has one runs the programs of the
controller with it.
-/
namespace Evacuation.Main

/-- The name of the settings file. -/
def settingsFile : String := ".env"

/-- The text of a file, if it can be read. -/
def readText? (file : String) : IO (Option String) := do
  try
    return some (← IO.FS.readFile file)
  catch _ => return none

/-- The values that some names have in the environment of the process. -/
def readEnvironment (names : List String) : IO Environment :=
  names.foldlM (fun (environment : Environment) name => do
    match ← IO.getEnv name with
    | some value => return environment.insert name value
    | none => return environment) ∅

/-! ## The machine -/

/-- What was found on the machine so far, by its path from the root on. -/
abbrev Findings := Table String Access.FileEntry

/-- The path of names one inside the other from the root on. -/
def pathOf (names : List String) : String := "/" ++ "/".intercalate names

/-- What a path leads to. -/
def readEntry (path : String) : IO Access.FileEntry := do
  if ← ((← IO.currentDir) / path).isDir then return .directory
  else
    match ← readText? path with
    | some content => return .text content true
    | none => return .missing

/-- What was found so far, and what stands at every step of a way. -/
def walk (found : Findings) (reached : List String) : List String → IO Findings
  | [] => do return found.insert (pathOf reached) (← readEntry (pathOf reached))
  | name :: rest => do
    let found := found.insert (pathOf reached) (← readEntry (pathOf reached))
    if name = "" ∨ name = "." then walk found reached rest
    else if name = ".." then walk found reached.dropLast rest
    else walk found (reached ++ [name]) rest

/-- The machine, as far as it is known. -/
def machineOf (found : Findings) (directory : List String) (home : Option String) :
    Access.Machine :=
  { entry := fun names => (found.get? (pathOf names)).getD .missing
    workingDirectory := directory
    home := fun user => if user.isEmpty then home else none }

/-- The paths that are looked for first. -/
def firstPaths (machine : Access.Machine) (settings : Settings Float) : List String :=
  Access.filePaths machine (settings.kubeconfig.getD ClusterAccess.homeFile)

/-- The path that could not be found. -/
def soughtPath? : StartError → Option String
  | .access (.missingFile path) | .access (.notFound path) => some path
  | _ => none

/-- Make ready to run on a machine. What is sought is looked for and the start tried again, as long
as something new is found. -/
def launchOn (directory : List String) (home : Option String) (settings : Settings Float) :
    (tries : Nat) → (paths : List String) → Findings → IO (Except StartError (Launch Float))
  | 0, _, found => return Startup.launch (machineOf found directory home) settings
  | tries + 1, paths, found => do
    let found ← paths.foldlM (fun found path =>
      let start := if Access.Machine.isRooted path then [] else directory
      walk found [] (start ++ Access.Machine.namesOf path)) found
    let outcome := Startup.launch (machineOf found directory home) settings
    match outcome with
    | .ok _ => return outcome
    | .error error =>
      match soughtPath? error with
      | none => return outcome
      | some path => launchOn directory home settings tries [path] found

/-- The most files that are looked for one after another: a token, and the certificates and the key of
a cluster and a user. -/
def mostSought : Nat := 5

/-! ## The run -/

/-- The line that tells how the program is called. -/
def usageLine : String := "usage: node-drainer [options] [TYPE[=STATE] ...]"

/-- End with a line of report. -/
def endWith (report : String) : IO UInt32 := do
  IO.eprintln report
  return 1

/-- End with a report about the settings. -/
def endWithStop : SettingsStop → IO UInt32
  | .help => do
    IO.println usageLine
    IO.println ("options: " ++ " ".intercalate (Setting.all.map Setting.flag))
    return 0
  | .usage report => do
    IO.eprintln usageLine
    IO.eprintln s!"node-drainer: error: {report}"
    return 2
  | .port cause => endWith cause.message
  | .entry cause => endWith cause.message
  | .valueless setting => endWith setting.valuelessReport

/-- End with a report about a failed start. -/
def endWithError (error : StartError) : IO UInt32 :=
  match error with
  | .settings stop => endWithStop stop
  | .access cause => endWith ((Startup.report? error).getD cause.message)
  | .collector cause => endWith ((Startup.report? error).getD cause.message)
  | .flaw flaw => endWith flaw.message

/-- What was made ready, in lines. -/
def describe (launch : Launch Float) : List String :=
  let conditions := ", ".intercalate (launch.settings.conditions.map (·.render))
  let dryRun := if launch.settings.dryRun then " (dry run)" else ""
  [s!"Draining nodes matching {conditions}{dryRun}",
    s!"Cluster at {launch.host}",
    s!"Pages at {launch.settings.listen}",
    "Filters: " ++ ", ".intercalate (launch.controller.chain.map NodeFilter.name)]

/-- Make ready to run and show what was made ready. -/
def run (words : List String) : IO UInt32 := do
  let file ← readText? settingsFile
  let names := Environment.disablingVariable :: settingVariables ++
    EnvFile.references (file.getD "").toList
  let environment ← readEnvironment names
  match (Settings.load environment file words : Except SettingsStop (Settings Float)) with
  | .error stop => endWithStop stop
  | .ok settings =>
    let directory := (Access.Machine.namesOf (← IO.currentDir).toString).filter (!·.isEmpty)
    let home ← IO.getEnv "HOME"
    let first := firstPaths (machineOf ∅ directory home) settings
    match ← launchOn directory home settings (mostSought + 1) first ∅ with
    | .error error => endWithError error
    | .ok launch =>
      for line in describe launch do
        IO.println line
      return 0

end Evacuation.Main

/-- Run the program with the words of its command line. -/
def main (words : List String) : IO UInt32 := Evacuation.Main.run words
