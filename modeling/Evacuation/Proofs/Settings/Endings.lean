import Evacuation.Proofs.Settings.Acceptance
/-!
# How the reading of the settings ends

Wrong settings end the program with a report about the command line, but for three ways out, each of
which is open before or beside the checks that report (`Settings.Loose`): the settings file gives a
variable what no environment can hold; the variable of the port, which is read before the command line
is, holds no whole number; and an option that needs a value was written so that its value is lost. The
main statement, `Settings.load_ends`, says that there are no others, and when each of them is taken.
-/
namespace Evacuation

/-- The program ends as it does after a command line, with the help or with a report. -/
def SettingsStop.isExit : SettingsStop → Bool
  | .help | .usage _ => true
  | .valueless _ | .port _ | .entry _ => false

/-! ## Entries that no environment can hold -/

/-- What is wrong with a value under a name. A character that ends texts is noticed first. -/
inductive IllegalEntry.Spoils (name value : String) : IllegalEntry → Prop where
  | endMark (marked : Char.ofNat 0 ∈ name.toList ∨ Char.ofNat 0 ∈ value.toList) :
      Spoils name value .endMark
  | equalsSign (unmarked : ¬ (Char.ofNat 0 ∈ name.toList ∨ Char.ofNat 0 ∈ value.toList))
      (sign : '=' ∈ name.toList) : Spoils name value .equalsSign

namespace Environment

variable {environment : Environment} {name value : String} {cause : IllegalEntry}
  {entries : List (String × Option String)}

theorem get?_eq_none_of_contains (absent : environment.contains name = false) :
    environment.get? name = none :=
  Option.not_isSome_iff_eq_none.mp (Bool.eq_false_iff.mp absent)

theorem hasEndMark_iff (text : String) : hasEndMark text = true ↔ Char.ofNat 0 ∈ text.toList :=
  List.contains_iff_mem

/-- A value is refused for what is wrong with it, if the name has none yet. -/
theorem supply_eq_error_iff : environment.supply name value = .error cause ↔
    environment.get? name = none ∧ cause.Spoils name value := by
  have marks : (hasEndMark name || hasEndMark value) = true ↔
      Char.ofNat 0 ∈ name.toList ∨ Char.ofNat 0 ∈ value.toList := by
    rw [Bool.or_eq_true, hasEndMark_iff, hasEndMark_iff]
  unfold supply
  constructor
  · intro refused
    split at refused
    · cases refused
    · rename_i absent
      refine ⟨get?_eq_none_of_contains (Bool.eq_false_iff.mpr absent), ?_⟩
      split at refused
      · rename_i marked
        cases refused
        exact .endMark (marks.mp marked)
      · rename_i unmarked
        split at refused <;> cases refused
        rename_i sign
        exact .equalsSign (mt marks.mpr unmarked) (List.contains_iff_mem.mp sign)
  · rintro ⟨missing, spoils⟩
    rw [if_neg (by simp [Table.contains, missing])]
    cases spoils with
    | endMark marked => rw [if_pos (marks.mpr marked)]
    | equalsSign unmarked sign =>
      rw [if_neg (mt marks.mp unmarked), if_pos (List.contains_iff_mem.mpr sign)]

/-- Entries that are refused have one among them that is wrong and whose name has no value. -/
theorem of_foldlM_supplyEntry (refused : entries.foldlM supplyEntry environment = .error cause) :
    ∃ name value, (name, some value) ∈ entries ∧ environment.get? name = none ∧
      cause.Spoils name value := by
  induction entries generalizing environment with
  | nil => cases refused
  | cons entry rest ih =>
    rw [List.foldlM_cons] at refused
    cases step : environment.supplyEntry entry with
    | error given =>
      rw [step] at refused
      cases refused
      obtain ⟨name, _ | value⟩ := entry
      · cases step
      · obtain ⟨missing, spoils⟩ := supply_eq_error_iff.mp step
        exact ⟨name, value, .head _, missing, spoils⟩
    | ok supplied =>
      rw [step] at refused
      obtain ⟨name, value, listed, missing, spoils⟩ := ih refused
      rw [get?_supplyEntry step, Option.or_eq_none_iff] at missing
      exact ⟨name, value, .tail _ listed, missing.1, spoils⟩

/-- Entries without repeated names are refused if one of them is wrong and its name has no value. -/
theorem foldlM_supplyEntry_ne_ok (proper : (Table.mk entries).Proper)
    (listed : (name, some value) ∈ entries) (missing : environment.get? name = none)
    (spoils : cause.Spoils name value) (whole : Environment) :
    entries.foldlM supplyEntry environment ≠ .ok whole := by
  induction entries generalizing environment with
  | nil => cases listed
  | cons entry rest ih =>
    obtain ⟨unlisted, proper⟩ := List.nodup_cons.mp proper
    rw [List.foldlM_cons]
    intro ok
    obtain ⟨supplied, step, ok⟩ := ok_of_bind ok
    obtain rfl | later := List.mem_cons.mp listed
    · cases step.symm.trans (supply_eq_error_iff.mpr ⟨missing, spoils⟩)
    · -- The first entry has another name, so this one still has no value.
      have other : entry.1 ≠ name := by
        rintro rfl
        exact unlisted (List.mem_map.mpr ⟨_, later, rfl⟩)
      refine ih proper later ?_ ok
      rw [get?_supplyEntry step, missing, if_neg other, Option.none_or]

end Environment

namespace Settings

variable {environment whole : Environment} {file : Option String} {words : List String}
  {name value : String} {cause : IllegalEntry}

/-- A settings file that is refused gives a variable what no environment can hold. -/
theorem of_environmentOf_error (refused : environmentOf environment file = .error cause) :
    ∃ name value, environment.get? name = none ∧ environment.assigned? file name = some value ∧
      cause.Spoils name value := by
  cases file with
  | none => cases refused
  | some text =>
    have extended : environment.extend text = .error cause := refused
    rw [Environment.extend] at extended
    split at extended
    · cases extended
    · rename_i enabled
      obtain ⟨name, value, listed, missing, spoils⟩ := Environment.of_foldlM_supplyEntry extended
      refine ⟨name, value, missing, ?_, spoils⟩
      have found := (EnvFile.proper_values environment text).get?_of_mem listed
      rw [EnvFile.values_eq, EnvFile.get?_foldl_assign] at found
      rw [Environment.assigned?, if_neg enabled, found]
      rfl

/-- A settings file that gives a variable what no environment can hold is refused. -/
theorem environmentOf_ne_ok (missing : environment.get? name = none)
    (assigned : environment.assigned? file name = some value) (spoils : cause.Spoils name value)
    (whole : Environment) : environmentOf environment file ≠ .ok whole := by
  cases file with
  | none => cases assigned
  | some text =>
    rw [Environment.assigned?] at assigned
    split at assigned
    · cases assigned
    · rename_i enabled
      rw [Option.join_eq_some_iff, ← EnvFile.get?_foldl_assign, ← EnvFile.values_eq] at assigned
      have ne_ok := Environment.foldlM_supplyEntry_ne_ok (EnvFile.proper_values environment text)
        (Table.mem_entries_of_get? assigned) missing spoils whole
      intro ok
      have extended : environment.extend text = .ok whole := ok
      rw [Environment.extend, if_neg enabled] at extended
      exact ne_ok extended

/-! ## Ways out -/

/-- The name of the variable of the port. -/
def portVariable : String := Setting.statsdPort.variableName

/-- The ways out that are no report about the command line: the settings file gives a variable what no
environment can hold, the variable of the port is no whole number, or a value that is needed was
lost. -/
inductive Loose (environment : Environment) (file : Option String) (words : List String) :
    SettingsStop → Prop where
  | entry {name value : String} {cause : IllegalEntry} (missing : environment.get? name = none)
      (assigned : environment.assigned? file name = some value) (spoils : cause.Spoils name value) :
      Loose environment file words (.entry cause)
  | port {whole : Environment} {text : String} {cause : Malformed}
      (merged : environmentOf environment file = .ok whole)
      (stands : environment.standing? file portVariable = some text)
      (malformed : Decimal.readInteger text = .error cause) :
      Loose environment file words (.port cause)
  | valueless {whole : Environment} {arguments : Arguments} {setting : Setting}
      (merged : environmentOf environment file = .ok whole)
      (read : Arguments.read whole words = .ok arguments) (lacks : arguments.Lacks setting) :
      Loose environment file words (.valueless setting)

/-- The port that is used if none is given is the variable's, or it is well written. -/
theorem usualPort_eq_error_iff {cause : Malformed} (merged : environmentOf environment file = .ok whole) :
    Arguments.usualPort whole = .error cause ↔
      ∃ text, environment.standing? file portVariable = some text ∧
        Decimal.readInteger text = .error cause := by
  rw [Arguments.usualPort, ← portVariable, get?_environmentOf merged]
  cases environment.standing? file portVariable with
  | none =>
    have usual : Decimal.readInteger "8125" = .ok 8125 := by decide +kernel
    rw [Option.getD_none, usual]
    constructor
    · intro refused
      cases refused
    · rintro ⟨_, given, _⟩
      cases given
  | some text =>
    rw [Option.getD_some]
    constructor
    · exact fun malformed => ⟨text, rfl, malformed⟩
    · rintro ⟨_, given, malformed⟩
      cases given
      exact malformed

end Settings

namespace Arguments

variable {whole : Environment} {words : List String} {arguments : Arguments} {setting : Setting}

/-- Raw settings are not read because of the port, or because of the command line. -/
theorem of_read_error {stop : SettingsStop} (stopped : Arguments.read whole words = .error stop) :
    (∃ cause, stop = .port cause ∧ usualPort whole = .error cause) ∨ stop.isExit = true := by
  unfold Arguments.read at stopped
  split at stopped
  · rename_i cause isPort
    cases stopped
    exact .inl ⟨cause, rfl, isPort⟩
  · split at stopped <;> cases stopped <;> exact .inr rfl

/-- A value is missing where an option was given without one. -/
theorem mem_of_value_eq_none {given : CommandLine.Given Setting} {usual : String}
    (missing : value whole given setting usual = none) : (setting, none) ∈ given.options := by
  unfold value at missing
  split at missing
  · rename_i last found
    subst missing
    obtain ⟨option, listed, same⟩ := List.mem_map.mp (List.mem_of_getLast? found)
    obtain ⟨there, rfl⟩ := (List.mem_filter.mp listed).imp_right of_decide_eq_true
    exact same ▸ there
  · cases missing

theorem mem_of_mem_values {given : CommandLine.Given Setting}
    (listed : none ∈ values whole given setting) : (setting, none) ∈ given.options := by
  obtain item | listed := List.mem_append.mp listed
  · obtain ⟨_, -, same⟩ := List.mem_map.mp item
    cases same
  · obtain ⟨option, listed, same⟩ := List.mem_map.mp listed
    obtain ⟨there, rfl⟩ := (List.mem_filter.mp listed).imp_right of_decide_eq_true
    exact same ▸ there

/-- A setting that lacks its value has an option on the command line that was given without one. -/
theorem Lacks.mem_options (read : Arguments.read whole words = .ok arguments)
    (lacks : arguments.Lacks setting) :
    ∃ given, CommandLine.read Setting.grammar words = .ok given ∧ (setting, none) ∈ given.options := by
  obtain ⟨port, given, -, isGiven, rfl⟩ := read_ok read
  refine ⟨given, isGiven, ?_⟩
  cases lacks with
  | duration listed =>
    simp only [durations, List.mem_cons, List.not_mem_nil, or_false, Prod.mk.injEq] at listed
    obtain ⟨rfl, missing⟩ | ⟨rfl, missing⟩ | ⟨rfl, missing⟩ := listed
    all_goals exact mem_of_value_eq_none missing.symm
  | listen missing => exact mem_of_value_eq_none missing
  | marker listed | label listed => exact mem_of_mem_values listed

end Arguments

namespace Settings

variable {T : Type} [TimeScale T] {environment whole : Environment} {file : Option String}
  {words : List String} {name value : String} {cause : IllegalEntry}

/-- Raw settings that are not accepted end the program with a report, unless a value is missing. -/
theorem of_ofArguments_error {arguments : Arguments} {stop : SettingsStop}
    (stopped : (ofArguments arguments : Except SettingsError (Settings T)).mapError stopOf =
      .error stop) :
    stop.isExit = true ∨ ∃ setting, stop = .valueless setting ∧ arguments.Lacks setting := by
  have yields := yields_ofArguments (T := T) arguments
  cases refused : (ofArguments arguments : Except SettingsError (Settings T)) with
  | ok settings =>
    rw [refused] at stopped
    cases stopped
  | error error =>
    rw [refused] at stopped yields
    cases stopped
    cases error with
    | valueless setting =>
      obtain ⟨setting, same, lacks⟩ | faulty := yields
      · cases same
        exact .inr ⟨setting, rfl, lacks⟩
      · cases faulty
    | noCondition | malformed | negative => exact .inl rfl

/-- Settings that are not read end the program with a report, or in one of the three other ways. -/
theorem of_load_error {stop : SettingsStop}
    (stopped : (load environment file words : Except SettingsStop (Settings T)) = .error stop) :
    stop.isExit = true ∨ Loose environment file words stop := by
  unfold load at stopped
  split at stopped
  · rename_i cause refused
    cases stopped
    obtain ⟨name, value, missing, assigned, spoils⟩ := of_environmentOf_error refused
    exact .inr (.entry missing assigned spoils)
  · rename_i whole merged
    split at stopped
    · rename_i notRead
      cases stopped
      obtain ⟨cause, rfl, isPort⟩ | exits := Arguments.of_read_error notRead
      · obtain ⟨text, stands, malformed⟩ := (usualPort_eq_error_iff merged).mp isPort
        exact .inr (.port merged stands malformed)
      · exact .inl exits
    · rename_i arguments read
      obtain exits | ⟨setting, rfl, lacks⟩ := of_ofArguments_error stopped
      · exact .inl exits
      · exact .inr (.valueless merged read lacks)

/-- What the settings file may not say stops the program before anything else is read. -/
theorem load_of_spoiled (missing : environment.get? name = none)
    (assigned : environment.assigned? file name = some value) (spoils : cause.Spoils name value) :
    ∃ other, (load environment file words : Except SettingsStop (Settings T)) =
      .error (.entry other) := by
  unfold load
  cases merged : environmentOf environment file with
  | error other => exact ⟨other, rfl⟩
  | ok whole => exact absurd merged (environmentOf_ne_ok missing assigned spoils whole)

/-- The variable of the port stops the program whatever the command line says. -/
theorem load_of_malformed_port {text : String} {cause : Malformed}
    (merged : environmentOf environment file = .ok whole)
    (stands : environment.standing? file portVariable = some text)
    (malformed : Decimal.readInteger text = .error cause) :
    (load environment file words : Except SettingsStop (Settings T)) = .error (.port cause) := by
  have usual := (usualPort_eq_error_iff merged).mpr ⟨text, stands, malformed⟩
  simp only [load, merged, Arguments.read, usual]

/-- A lost value stops the program if nothing else is wrong. -/
theorem load_of_lacks {arguments : Arguments} {setting : Setting}
    (merged : environmentOf environment file = .ok whole)
    (read : Arguments.read whole words = .ok arguments) (lacks : arguments.Lacks setting)
    (faultless : ∀ error, ¬ arguments.Faulty T error) :
    ∃ other, (load environment file words : Except SettingsStop (Settings T)) =
      .error (.valueless other) := by
  have yields := yields_ofArguments (T := T) arguments
  simp only [load, merged, read]
  cases result : (ofArguments arguments : Except SettingsError (Settings T)) with
  | ok settings =>
    rw [result] at yields
    exact absurd (.inl ⟨setting, rfl, lacks⟩) (yields.2.not_reportable _)
  | error error =>
    rw [result] at yields
    obtain ⟨other, rfl, -⟩ | faulty := yields
    · exact ⟨other, rfl⟩
    · exact absurd faulty (faultless error)

/-- Reading the settings gives settings or ends the program with the help or a report about the command
line, with three exceptions, and each of them is met: an entry of the settings file that no environment
can hold, a variable of the port that is no whole number, whatever the command line says, and a value
that an option of the command line lost, if there is no fault beside it. -/
theorem load_ends (environment : Environment) (file : Option String) (words : List String) :
    (∀ stop, (load environment file words : Except SettingsStop (Settings T)) = .error stop →
      stop.isExit = true ∨ Loose environment file words stop) ∧
    (∀ cause, Loose environment file words (.entry cause) →
      ∃ other, (load environment file words : Except SettingsStop (Settings T)) =
        .error (.entry other)) ∧
    (∀ cause, Loose environment file words (.port cause) →
      (load environment file words : Except SettingsStop (Settings T)) = .error (.port cause)) ∧
    ∀ setting, Loose environment file words (.valueless setting) →
      (∃ given, CommandLine.read Setting.grammar words = .ok given ∧
        (setting, none) ∈ given.options) ∧
      ((∃ other, (load environment file words : Except SettingsStop (Settings T)) =
          .error (.valueless other)) ∨
        ∃ whole arguments error, environmentOf environment file = .ok whole ∧
          Arguments.read whole words = .ok arguments ∧ arguments.Faulty T error) := by
  refine ⟨fun stop => of_load_error, ?_, ?_, ?_⟩
  · intro cause loose
    cases loose with
    | entry missing assigned spoils => exact load_of_spoiled missing assigned spoils
  · intro cause loose
    cases loose with
    | port merged stands malformed => exact load_of_malformed_port merged stands malformed
  · intro setting loose
    cases loose with
    | valueless merged read lacks =>
      rename_i whole arguments
      refine ⟨lacks.mem_options read, ?_⟩
      by_cases faultless : ∀ error, ¬ arguments.Faulty T error
      · exact .inl (load_of_lacks merged read lacks faultless)
      · obtain ⟨error, faulty⟩ := not_forall_not.mp faultless
        exact .inr ⟨whole, arguments, error, merged, read, faulty⟩

/-- A port that is no number is a report about the command line if it stands there. In the variable it
stops the program in another way, though the same condition is read without it. -/
theorem load_ends_wordy_port :
    (load (.ofList []) none ["--statsd-port", "http", "Ready"] :
      Except SettingsStop (Settings Rat)).map (fun _ => ()) =
        .error (.usage "argument --statsd-port: invalid int value: 'http'") ∧
    (load (.ofList [(portVariable, "http")]) none ["Ready"] :
      Except SettingsStop (Settings Rat)) = .error (.port (.integer "http")) ∧
    (load (.ofList []) none ["Ready"] : Except SettingsStop (Settings Rat)).toOption.isSome = true := by
  refine ⟨by decide +kernel, ?_, by decide +kernel⟩
  have stands : Environment.standing? (.ofList [(portVariable, "http")]) none portVariable =
      some "http" := by decide +kernel
  have malformed : Decimal.readInteger "http" = .error (.integer "http") := by decide +kernel
  exact (load_ends (T := Rat) _ none ["Ready"]).2.2.1 _ (.port rfl stands malformed)

end Settings

end Evacuation
