import Evacuation.Proofs.Settings.Variables
import Evacuation.Proofs.Settings.Words
/-!
# Where the settings come from

Each setting is named by an option and a variable, and a variable may stand in the environment or in
the settings file. The main statement, `Sources.determine_of_load`, says of every environment, every
settings file and every command line of options in full around one group of other words: when the
settings are read at all, they are the ones that `Sources.Determine` describes.

There are four ways to put the sources together. For a single value the later source is only asked
where the earlier ones have none (`Sources.origin`); a flag is on if either source says so
(`Sources.On`); a list has the items of the variable and then those of the options
(`Sources.gathered`); and the conditions are wholly the words that are no options or wholly the
items of the variable (`Sources.conditionTexts`).

A bare double dash behind the equals sign of an option is an exception. As the last occurrence of the
option it takes the value of the setting away: neither the two dashes nor the variable nor what is
usual counts, and a setting that needs a value is then not read at all. In a list it is never read.

What was merged and parsed on the way is compared with the sources once, in `Sources.ReadAs`, and each
way of putting together has one lemma about it.
-/
namespace Evacuation

/-- What the settings are read from: the environment, a settings file if there is one, and a command
line of options in full around one group of other words. -/
structure Sources where
  environment : Environment
  file : Option String := none
  before : List Written := []
  words : List String := []
  after : List Written := []
  operands : ∀ word ∈ words, IsOperand word

namespace Sources

variable {T : Type} [TimeScale T]

/-- The words of the command line. -/
def commandLine (sources : Sources) : List String :=
  sources.before.map Written.word ++ (sources.words ++ sources.after.map Written.word)

/-- The options of the command line, in their order. -/
def options (sources : Sources) : List Written := sources.before ++ sources.after

/-- The texts behind the equals signs of an option, in the order of its occurrences. -/
def occurrences (sources : Sources) (setting : Setting) : List String :=
  (sources.options.filter (·.setting = setting)).filterMap Written.argument

/-- The value of a variable: that of the environment, or else the last one of the settings file. -/
def standing? (sources : Sources) (name : String) : Option String :=
  sources.environment.standing? sources.file name

/-- What a single value is computed from: the last occurrence of the option, or else the variable,
or else what is usual. A last occurrence that is a bare double dash leaves nothing to compute it from,
whatever the variable says. -/
def origin (sources : Sources) (setting : Setting) (usual : Option String) : Option String :=
  match (sources.occurrences setting).getLast? with
  | some text => if text = "--" then none else some text
  | none => (sources.standing? setting.variableName).or usual

/-- A flag is on: its option occurs, or its variable says so, however written. -/
def On (sources : Sources) (setting : Setting) : Prop :=
  (∃ written ∈ sources.options, written.setting = setting) ∨
    ∃ text, sources.standing? setting.variableName = some text ∧
      String.ofList ((Text.strip text.toList).map Char.toLower) ∈ ["1", "true", "yes", "on"]

/-- The items of a variable, which are separated by commas. -/
def items (sources : Sources) (name : String) : List String :=
  Environment.itemsOf ((sources.standing? name).getD "")

/-- What a list is computed from: the items of the variable and then the occurrences of the
option. -/
def gathered (sources : Sources) (setting : Setting) : List String :=
  sources.items setting.variableName ++ sources.occurrences setting

/-- What the conditions are read from: the words that are no options, or else the items of the
variable. -/
def conditionTexts (sources : Sources) : List String :=
  if sources.words = [] then sources.items conditionsVariable else sources.words

/-- The settings are those that the sources determine. An empty kubeconfig, master or host for
statistics counts as none. So does one whose option was last given a bare double dash, and a port as
well. The address to listen at and the durations have an origin, so that the last occurrence of none of
them is a bare double dash; and no label or marker is given as one. -/
structure Determine (sources : Sources) (settings : Settings T) : Prop where
  conditions : sources.conditionTexts.mapM ConditionSpec.read = .ok settings.conditions
  nodeLabels : ∃ labels, (sources.gathered .nodeLabel).mapM KeyValue.read = .ok labels ∧
    ∀ key, settings.nodeLabels.get? key =
      (labels.reverse.find? (·.key = key)).map KeyValue.value
  debug : settings.debug = true ↔ sources.On .debug
  listen : sources.origin .listen (some ":10002") = some settings.listen
  kubeconfig : settings.kubeconfig = (sources.origin .kubeconfig none).filter (· ≠ "")
  master : settings.master = (sources.origin .master none).filter (· ≠ "")
  dryRun : settings.dryRun = true ↔ sources.On .dryRun
  maxGracePeriod : (sources.origin .maxGracePeriod (some "8m")).map Duration.read =
    some (.ok settings.maxGracePeriod)
  evictionHeadroom : (sources.origin .evictionHeadroom (some "30s")).map Duration.read =
    some (.ok settings.evictionHeadroom)
  drainBuffer : (sources.origin .drainBuffer (some "10m")).map Duration.read =
    some (.ok settings.drainBuffer)
  evictDaemonSetPods : settings.rules.evictDaemonSetPods = true ↔ sources.On .evictDaemonSetPods
  evictLocalStoragePods :
    settings.rules.evictLocalStoragePods = true ↔ sources.On .evictEmptyDirPods
  evictUnreplicatedPods :
    settings.rules.evictUnreplicatedPods = true ↔ sources.On .evictUnreplicatedPods
  protectedAnnotations : settings.rules.protectedAnnotations = sources.gathered .protectedPods
  dashless : ∀ setting ∈ [Setting.nodeLabel, .protectedPods], "--" ∉ sources.occurrences setting
  statsdHost : settings.statsdHost = (sources.origin .statsdHost none).filter (· ≠ "")
  statsdPort :
    (sources.origin .statsdPort (some "8125")).mapM Decimal.readInteger = .ok settings.statsdPort

/-! ## What was read of the sources -/

/-- An environment and a command line were read from the sources. -/
structure ReadAs (sources : Sources) (whole : Environment) (given : CommandLine.Given Setting) :
    Prop where
  standing : ∀ name, whole.get? name = sources.standing? name
  options : given.options =
    sources.options.map fun written => (written.setting, written.value?)
  words : given.words = sources.words
  readable : ∀ written ∈ sources.options, written.Readable

namespace ReadAs

variable {sources : Sources} {whole : Environment} {given : CommandLine.Given Setting}

theorem givenTo_eq (read : sources.ReadAs whole given) (setting : Setting) :
    Arguments.givenTo given setting =
      (sources.options.filter (·.setting = setting)).map Written.value? := by
  rw [Arguments.givenTo, read.options, List.filter_map, List.map_map]
  rfl

/-- An option that takes an argument is given the texts of its occurrences, but for those that are a
bare double dash. -/
theorem givenTo_of_taken (read : sources.ReadAs whole given) (setting : Setting)
    (taken : setting.form.takesArgument = true) :
    Arguments.givenTo given setting =
      (sources.occurrences setting).map fun text => if text = "--" then none else some text := by
  rw [read.givenTo_eq, occurrences]
  induction sources.options with
  | nil => rfl
  | cons written rest ih =>
    by_cases own : written.setting = setting
    · cases written with
      | bare other alone =>
        obtain rfl : other = setting := own
        rw [taken] at alone
        cases alone
      | assigned other assignable text =>
        have value : (Written.assigned other assignable text).value? =
            if text = "--" then none else some text := CommandLine.Given.valueOf_some text
        simp only [List.filter_cons, own, decide_true, if_true, List.map_cons, value, ih,
          List.filterMap_cons, Written.argument]
    · simp only [List.filter_cons, own, decide_false, Bool.false_eq_true, if_false, ih]

/-- The last value of an option that takes an argument is that of its last occurrence. -/
theorem getLast?_givenTo (read : sources.ReadAs whole given) (setting : Setting)
    (taken : setting.form.takesArgument = true) :
    (Arguments.givenTo given setting).getLast? =
      (sources.occurrences setting).getLast?.map fun text =>
        if text = "--" then none else some text := by
  rw [read.givenTo_of_taken setting taken, List.getLast?_map]

/-- A single value is the origin, with what is usual at the end. -/
theorem value_eq (read : sources.ReadAs whole given) (setting : Setting)
    (taken : setting.form.takesArgument = true) (usual : String) :
    Arguments.value whole given setting usual = sources.origin setting (some usual) := by
  rw [Arguments.value, origin, read.getLast?_givenTo setting taken, read.standing]
  cases (sources.occurrences setting).getLast? with
  | none => cases sources.standing? setting.variableName <;> rfl
  | some text => rfl

theorem value?_eq (read : sources.ReadAs whole given) (setting : Setting)
    (taken : setting.form.takesArgument = true) :
    Arguments.value? whole given setting = sources.origin setting none := by
  rw [Arguments.value?, origin, read.getLast?_givenTo setting taken, read.standing]
  cases (sources.occurrences setting).getLast? with
  | none => exact Option.or_none.symm
  | some text => rfl

theorem items_eq (read : sources.ReadAs whole given) (name : String) :
    whole.items name = sources.items name := by
  rw [Environment.items, items, read.standing]

/-- A list whose members all have texts has those that were gathered, and no option of it was given a
bare double dash. -/
theorem gathered_of_values (read : sources.ReadAs whole given) (setting : Setting)
    (taken : setting.form.takesArgument = true) {texts : List String}
    (filled : Arguments.values whole given setting = texts.map some) :
    sources.gathered setting = texts ∧ "--" ∉ sources.occurrences setting := by
  rw [Arguments.values, read.items_eq, read.givenTo_of_taken setting taken] at filled
  have dashless : "--" ∉ sources.occurrences setting := by
    intro dashes
    have missing : none ∈ texts.map some := by
      rw [← filled]
      exact List.mem_append_right _ (List.mem_map.mpr ⟨"--", dashes, if_pos rfl⟩)
    obtain ⟨text, -, same⟩ := List.mem_map.mp missing
    cases same
  have given : (sources.occurrences setting).map (fun text => if text = "--" then none else some text) =
      (sources.occurrences setting).map some := by
    refine List.map_congr_left fun text listed => if_neg ?_
    rintro rfl
    exact dashless listed
  rw [given, ← List.map_append] at filled
  exact ⟨(List.map_inj_right fun _ _ => Option.some.inj).mp filled, dashless⟩

theorem conditions_eq (read : sources.ReadAs whole given) :
    (if given.words.isEmpty then whole.items conditionsVariable else given.words) =
      sources.conditionTexts := by
  rw [conditionTexts, read.words, read.items_eq]
  simp only [List.isEmpty_iff]

theorem isOn_iff (read : sources.ReadAs whole given) (name : String) :
    whole.isOn name = true ↔ ∃ text, sources.standing? name = some text ∧
      String.ofList ((Text.strip text.toList).map Char.toLower) ∈ ["1", "true", "yes", "on"] := by
  rw [Environment.isOn, read.standing]
  cases sources.standing? name with
  | none => simp
  | some text => simp [Environment.affirmations]

theorem flag_iff (read : sources.ReadAs whole given) (setting : Setting) :
    Arguments.flag whole given setting = true ↔ sources.On setting := by
  have occurs : (!(Arguments.givenTo given setting).isEmpty) = true ↔
      ∃ written ∈ sources.options, written.setting = setting := by
    rw [read.givenTo_eq]
    simp
  rw [Arguments.flag, Bool.or_eq_true, occurs, read.isOn_iff, On]

/-- The number that is given last can be read, unless it is a bare double dash. -/
theorem number_of_occurs (read : sources.ReadAs whole given) {text : String}
    (occurs : text ∈ sources.occurrences .statsdPort) (given : text ≠ "--") :
    ∃ number, Decimal.readInteger text = .ok number := by
  obtain ⟨written, listed, isText⟩ := List.mem_filterMap.mp occurs
  obtain ⟨listed, same⟩ := List.mem_filter.mp listed
  have isPort : written.setting = .statsdPort := of_decide_eq_true same
  obtain ⟨number, isNumber⟩ := read.readable written listed (isPort ▸ rfl)
  have value : written.value? = some text := by
    rw [Written.value?, isText, CommandLine.Given.valueOf_some, if_neg given]
  rw [value, Option.mapM_some] at isNumber
  obtain ⟨port, isPort, -⟩ := ok_of_bind isNumber
  exact ⟨port, isPort⟩

/-- The port is the number that its origin is. -/
theorem port_eq (read : sources.ReadAs whole given) {usual : Int}
    (ok : Arguments.usualPort whole = .ok usual) :
    (sources.origin .statsdPort (some "8125")).mapM Decimal.readInteger =
      .ok (Arguments.port given usual) := by
  rw [Arguments.port, origin, read.getLast?_givenTo .statsdPort rfl]
  cases last : (sources.occurrences .statsdPort).getLast? with
  | none =>
    rw [Arguments.usualPort, read.standing] at ok
    have isNumber : ((sources.standing? Setting.statsdPort.variableName).or (some "8125")) =
        some ((sources.standing? Setting.statsdPort.variableName).getD "8125") := by
      cases sources.standing? Setting.statsdPort.variableName <;> rfl
    rw [isNumber, Option.mapM_some, ok]
    rfl
  | some text =>
    by_cases dashes : text = "--"
    · subst dashes
      rfl
    · obtain ⟨port, isPort⟩ := read.number_of_occurs (List.mem_of_getLast? last) dashes
      simp only [Option.map_some, if_neg dashes, Option.mapM_some, isPort]
      simp [isPort, Except.toOption]

end ReadAs

end Sources

/-! ## Raw settings and what they are read as -/

/-- The last value of a key is found. -/
theorem KeyValue.get?_labels (pairs : List KeyValue) (key : String) :
    (labels pairs).get? key = (pairs.reverse.find? (·.key = key)).map value := by
  unfold labels
  induction pairs using List.reverseRecOn with
  | nil => rfl
  | append_singleton earlier pair ih =>
    rw [List.foldl_append, List.foldl_cons, List.foldl_nil, Table.get?_insert, ih,
      List.reverse_concat, List.find?_cons]
    by_cases same : pair.key = key <;> simp [same]

namespace Settings

variable {T : Type} [TimeScale T]

theorem required_ok {setting : Setting} {value : Option String} {text : String}
    (ok : required setting value = .ok text) : value = some text := by
  cases value with
  | none => cases ok
  | some _ => exact congrArg some (Except.ok.inj ok)

theorem durationOf_ok {setting : Setting} {value : Option String} {span : T}
    (ok : durationOf setting value = .ok span) :
    value.map Duration.read = some (.ok span) := by
  obtain ⟨text, isText, ok⟩ := ok_of_bind ok
  rw [required_ok isText, Option.map_some, ok_of_mapError ok]

/-- A text that is required and checked is the value itself. -/
theorem checked_ok {α : Type} {setting : Setting} {check : String → Except SettingsError α}
    {value : Option String} {text : String}
    (ok : (do
      let text ← required setting value
      let _ ← check text
      return text) = .ok text) : value = some text := by
  obtain ⟨given, isText, ok⟩ := ok_of_bind ok
  obtain ⟨_, _, same⟩ := ok_of_bind ok
  rw [required_ok isText, Except.ok.inj same]

theorem labelOf_ok {value : Option String} {label : KeyValue} (ok : labelOf value = .ok label) :
    ∃ text, value = some text ∧ KeyValue.read text = .ok label := by
  obtain ⟨text, isText, ok⟩ := ok_of_bind ok
  exact ⟨text, required_ok isText, ok_of_mapError ok⟩

/-- Where each value must have a text, all of them have one. -/
theorem mapM_texts_ok {α : Type} {read : Option String → Except SettingsError α}
    {ofText : String → Except Malformed α} (isRead : ∀ {value result},
      read value = .ok result → ∃ text, value = some text ∧ ofText text = .ok result)
    {values : List (Option String)} {results : List α} (ok : values.mapM read = .ok results) :
    ∃ texts : List String, values = texts.map some ∧ texts.mapM ofText = .ok results := by
  induction values generalizing results with
  | nil =>
    cases ok
    exact ⟨[], rfl, rfl⟩
  | cons value values ih =>
    rw [List.mapM_cons] at ok
    obtain ⟨result, first, ok⟩ := ok_of_bind ok
    obtain ⟨others, rest, same⟩ := ok_of_bind ok
    cases same
    obtain ⟨text, rfl, ofFirst⟩ := isRead first
    obtain ⟨texts, rfl, ofRest⟩ := ih rest
    refine ⟨text :: texts, rfl, ?_⟩
    rw [List.mapM_cons, ofFirst, ofRest]
    rfl

theorem mapM_labelOf_ok {values : List (Option String)} {labels : List KeyValue}
    (ok : values.mapM labelOf = .ok labels) :
    ∃ texts : List String, values = texts.map some ∧ texts.mapM KeyValue.read = .ok labels :=
  mapM_texts_ok labelOf_ok ok

theorem mapM_markerText_ok {values : List (Option String)} {texts : List String}
    (ok : values.mapM markerText = .ok texts) : values = texts.map some := by
  have itself {value : Option String} {text : String} (ok : markerText value = .ok text) :
      ∃ given, value = some given ∧ (pure given : Except Malformed String) = .ok text :=
    ⟨text, checked_ok ok, rfl⟩
  obtain ⟨given, rfl, same⟩ := mapM_texts_ok itself ok
  rw [List.mapM_pure, List.map_id'] at same
  rw [Except.ok.inj same]

theorem unlessEmpty_eq (text : Option String) : unlessEmpty text = text.filter (· ≠ "") := by
  cases text with
  | none => rfl
  | some text =>
    rw [unlessEmpty]
    congr 1
    funext text
    rw [Bool.eq_iff_iff]
    simp

/-- Settings that are written in what was read of the sources are those that the sources
determine. -/
theorem determine_of_ofArguments {sources : Sources} {whole : Environment}
    {given : CommandLine.Given Setting} {port : Int} {settings : Settings T}
    (read : sources.ReadAs whole given) (isPort : Arguments.usualPort whole = .ok port)
    (ok : ofArguments (Arguments.resolve whole port given) = .ok settings) :
    sources.Determine settings := by
  unfold ofArguments at ok
  split at ok
  · cases ok
  obtain ⟨conditions, areConditions, ok⟩ := ok_of_bind ok
  obtain ⟨maxGracePeriod, isMaxGracePeriod, ok⟩ := ok_of_bind ok
  obtain ⟨evictionHeadroom, isEvictionHeadroom, ok⟩ := ok_of_bind ok
  obtain ⟨drainBuffer, isDrainBuffer, ok⟩ := ok_of_bind ok
  -- No duration is negative, of which nothing is said here.
  obtain ⟨_, _, ok⟩ := ok_of_bind ok
  obtain ⟨_, _, ok⟩ := ok_of_bind ok
  obtain ⟨_, _, ok⟩ := ok_of_bind ok
  obtain ⟨listen, isListen, ok⟩ := ok_of_bind ok
  obtain ⟨markers, areMarkers, ok⟩ := ok_of_bind ok
  obtain ⟨labels, areLabels, ok⟩ := ok_of_bind ok
  cases ok
  obtain ⟨texts, areTexts, areLabels⟩ := mapM_labelOf_ok areLabels
  obtain ⟨rfl, undashedLabels⟩ := read.gathered_of_values .nodeLabel rfl areTexts
  obtain ⟨areMarkers, undashedMarkers⟩ := read.gathered_of_values .protectedPods rfl
    (mapM_markerText_ok areMarkers)
  exact {
    conditions := read.conditions_eq ▸ ok_of_mapError areConditions
    nodeLabels := ⟨labels, areLabels, KeyValue.get?_labels labels⟩
    debug := read.flag_iff .debug
    listen := read.value_eq .listen rfl ":10002" ▸ checked_ok isListen
    kubeconfig := read.value?_eq .kubeconfig rfl ▸ unlessEmpty_eq _
    master := read.value?_eq .master rfl ▸ unlessEmpty_eq _
    dryRun := read.flag_iff .dryRun
    maxGracePeriod := read.value_eq .maxGracePeriod rfl "8m" ▸ durationOf_ok isMaxGracePeriod
    evictionHeadroom := read.value_eq .evictionHeadroom rfl "30s" ▸ durationOf_ok isEvictionHeadroom
    drainBuffer := read.value_eq .drainBuffer rfl "10m" ▸ durationOf_ok isDrainBuffer
    evictDaemonSetPods := read.flag_iff .evictDaemonSetPods
    evictLocalStoragePods := read.flag_iff .evictEmptyDirPods
    evictUnreplicatedPods := read.flag_iff .evictUnreplicatedPods
    protectedAnnotations := areMarkers.symm
    dashless := List.forall_mem_cons.mpr
      ⟨undashedLabels, List.forall_mem_singleton.mpr undashedMarkers⟩
    statsdHost := read.value?_eq .statsdHost rfl ▸ unlessEmpty_eq _
    statsdPort := read.port_eq isPort }

end Settings

/-- Raw settings come from a port that the environment allows and from a command line that was
read. -/
theorem Arguments.read_ok {environment : Environment} {words : List String} {arguments : Arguments}
    (ok : Arguments.read environment words = .ok arguments) :
    ∃ port given, usualPort environment = .ok port ∧
      CommandLine.read Setting.grammar words = .ok given ∧
      arguments = resolve environment port given := by
  unfold Arguments.read at ok
  split at ok
  case h_1 => cases ok
  case h_2 port isPort =>
    split at ok
    case h_1 => cases ok
    case h_2 => cases ok
    case h_3 given isGiven =>
      cases ok
      exact ⟨port, given, isPort, isGiven, rfl⟩

namespace Sources

/-- What is read of an environment, a settings file and a command line agrees with them. -/
theorem readAs {sources : Sources} {whole : Environment} {given : CommandLine.Given Setting}
    (merged : Settings.environmentOf sources.environment sources.file = .ok whole)
    (ok : CommandLine.read Setting.grammar sources.commandLine = .ok given) :
    sources.ReadAs whole given := by
  obtain ⟨options, words, readable⟩ := read_written sources.operands ok
  exact ⟨Settings.get?_environmentOf merged, options, words, readable⟩

/-- The settings that are read are those that the environment, the settings file and the command line
determine, where a bare double dash behind the equals sign of an option takes the value of its setting
away. -/
theorem determine_of_load {T : Type} [TimeScale T] (sources : Sources) (settings : Settings T)
    (loaded : Settings.load sources.environment sources.file sources.commandLine = .ok settings) :
    sources.Determine settings := by
  unfold Settings.load at loaded
  split at loaded
  case h_1 => cases loaded
  case h_2 whole merged =>
    split at loaded
    case h_1 => cases loaded
    case h_2 arguments isRead =>
      obtain ⟨port, given, isPort, isGiven, rfl⟩ := Arguments.read_ok isRead
      exact Settings.determine_of_ofArguments (readAs merged isGiven) isPort
        (ok_of_mapError loaded)

/-- Sources of every sort. The address to listen at has a variable and an assignment in the file,
the master has two assignments, the buffer has two options, labels come from both sides, and the host
for statistics has a variable and a bare double dash. -/
def mixed : Sources where
  environment := .ofList [("NODE_DRAINER_DEBUG", " Yes "), ("NODE_DRAINER_LISTEN", ":8080"),
    ("NODE_DRAINER_NODE_LABEL", "pool=a, zone=1"), ("NODE_DRAINER_NODE_CONDITIONS", "Ready"),
    ("NODE_DRAINER_STATSD_HOST", "stats")]
  file := some "NODE_DRAINER_LISTEN=:9\nNODE_DRAINER_MASTER=first\nNODE_DRAINER_MASTER=second\n"
  before := [.assigned .nodeLabel rfl "pool=b", .assigned .drainBuffer rfl "5m"]
  words := ["KernelDeadlock", "Ready=False"]
  after := [.assigned .drainBuffer rfl "7m", .assigned .kubeconfig rfl "", .bare .dryRun rfl,
    .assigned .statsdHost rfl "--"]
  operands := by
    intro word listed
    apply isOperand_of_head
    revert word
    decide

/-- The mixed sources determine settings. -/
theorem mixed_determine : ∃ settings : Settings Rat,
    Settings.load mixed.environment mixed.file mixed.commandLine = .ok settings ∧
      mixed.Determine settings := by
  have returns : (Settings.load mixed.environment mixed.file mixed.commandLine :
      Except SettingsStop (Settings Rat)).toOption.isSome = true := by decide +kernel
  obtain ⟨settings, kept⟩ := Option.isSome_iff_exists.mp returns
  have loaded := ok_of_toOption kept
  exact ⟨settings, loaded, determine_of_load mixed settings loaded⟩

/-- A master that has a variable, and whose option is given a bare double dash. -/
def dashed : Sources where
  environment := .ofList [("NODE_DRAINER_MASTER", "https://x")]
  before := [.assigned .master rfl "--"]
  words := ["Ready"]
  operands := by
    intro word listed
    apply isOperand_of_head
    revert word
    decide

/-- The settings of these sources are read, and yet the master is neither what its last occurrence says
nor what its variable says. -/
theorem master_dashed_ne : ∃ settings : Settings Rat,
    Settings.load dashed.environment dashed.file dashed.commandLine = .ok settings ∧
      settings.master ≠ ((dashed.occurrences .master).getLast?.or
        (dashed.standing? Setting.master.variableName)).filter (· ≠ "") ∧
      settings.master ≠ dashed.standing? Setting.master.variableName := by
  have unset : (Settings.load dashed.environment dashed.file dashed.commandLine :
      Except SettingsStop (Settings Rat)).toOption.map Settings.master = some none := by
    decide +kernel
  have last : ((dashed.occurrences .master).getLast?.or
      (dashed.standing? Setting.master.variableName)).filter (· ≠ "") = some "--" := by
    decide +kernel
  have standing : dashed.standing? Setting.master.variableName = some "https://x" := by decide +kernel
  obtain ⟨settings, kept, missing⟩ := Option.map_eq_some_iff.mp unset
  refine ⟨settings, ok_of_toOption kept, ?_, ?_⟩
  · rw [last, missing]
    exact (Option.some_ne_none "--").symm
  · rw [standing, missing]
    exact (Option.some_ne_none "https://x").symm

end Sources

end Evacuation
