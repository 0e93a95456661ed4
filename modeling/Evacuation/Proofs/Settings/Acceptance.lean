import Evacuation.Proofs.KeyValue
import Evacuation.Proofs.Lists
import Evacuation.Proofs.Settings.Precedence
import Evacuation.Startup
/-!
# What settings are accepted

A value is checked when the settings are read, and some values are read again when they are put to
use: the markers by the filters of pods, the buffer by the reservations of starts, the address by the
web pages. The main statement, `Settings.acceptance`, says of all raw settings that those which are
accepted can be put to use (`Settings.Usable`) and have no fault, and that those which are not have
the fault that is reported (`Arguments.Faulty`), unless a value is missing where one is needed
(`Arguments.Lacks`).

Each check is described once, by what it yields and by the faults it may report (`Settings.Yields`),
and the checks are put together in their order.
-/
namespace Evacuation

/-! ## Faults -/

namespace Arguments

variable (T : Type) [TimeScale T]

/-- The settings that are durations, with their values. -/
def durations (arguments : Arguments) : List (Setting × Option String) :=
  [(.maxGracePeriod, arguments.maxGracePeriod), (.evictionHeadroom, arguments.evictionHeadroom),
    (.drainBuffer, arguments.drainBuffer)]

/-- A fault of raw settings: there is no condition, a value that is given is refused, or a duration is
negative. -/
inductive Faulty (arguments : Arguments) : SettingsError → Prop where
  | noCondition (none : arguments.conditions = []) : Faulty arguments .noCondition
  | condition {text : String} {cause : Malformed} (listed : text ∈ arguments.conditions)
      (refused : ConditionSpec.read text = .error cause) : Faulty arguments (.malformed cause)
  | duration {setting : Setting} {text : String} {cause : Malformed}
      (listed : (setting, some text) ∈ arguments.durations)
      (refused : (Duration.read text : Except Malformed T) = .error cause) :
      Faulty arguments (.malformed cause)
  | negative {setting : Setting} {text : String} {span : T}
      (listed : (setting, some text) ∈ arguments.durations) (reads : Duration.read text = .ok span)
      (negative : TimeScale.before span TimeScale.zero = true) :
      Faulty arguments (.negative setting)
  | listen {text : String} {cause : Malformed} (given : arguments.listen = some text)
      (refused : ListenAddress.read text = .error cause) : Faulty arguments (.malformed cause)
  | marker {text : String} {cause : Malformed} (listed : some text ∈ arguments.protectedPodAnnotations)
      (refused : AnnotationMarker.read text = .error cause) : Faulty arguments (.malformed cause)
  | label {text : String} {cause : Malformed} (listed : some text ∈ arguments.nodeLabels)
      (refused : KeyValue.read text = .error cause) : Faulty arguments (.malformed cause)

/-- A setting that needs a value was given without one. -/
inductive Lacks (arguments : Arguments) : Setting → Prop where
  | duration {setting : Setting} (listed : (setting, none) ∈ arguments.durations) :
      Lacks arguments setting
  | listen (missing : arguments.listen = none) : Lacks arguments .listen
  | marker (listed : none ∈ arguments.protectedPodAnnotations) : Lacks arguments .protectedPods
  | label (listed : none ∈ arguments.nodeLabels) : Lacks arguments .nodeLabel

end Arguments

variable {T : Type} [TimeScale T]

/-- Settings whose values hold wherever they are used. -/
structure Settings.Usable (settings : Settings T) : Prop where
  conditions : settings.conditions ≠ []
  types : ∀ spec ∈ settings.conditions, spec.type ≠ "" ∧ Text.Trimmed spec.type.toList
  statuses : ∀ spec ∈ settings.conditions, spec.status ≠ "" ∧ Text.Trimmed spec.status.toList
  maxGracePeriod : TimeScale.before settings.maxGracePeriod TimeScale.zero = false
  evictionHeadroom : TimeScale.before settings.evictionHeadroom TimeScale.zero = false
  drainBuffer : TimeScale.before settings.drainBuffer TimeScale.zero = false
  labels : ∀ key ∈ settings.nodeLabels.keys, key ≠ ""
  builds : ∃ built, (Startup.blueprintOf settings).build = .ok built
  serves : ∃ acts, Web.serve settings.listen = .ok acts

/-- The keys of labels are keys of the pairs that were given. -/
theorem KeyValue.mem_of_mem_keys_labels {pairs : List KeyValue} {key : String}
    (listed : key ∈ (labels pairs).keys) : ∃ pair ∈ pairs, pair.key = key := by
  obtain ⟨value, found⟩ := Table.mem_keys_iff.mp listed
  rw [get?_labels] at found
  obtain ⟨pair, found, -⟩ := Option.map_eq_some_iff.mp found
  have same := List.find?_some found
  exact ⟨pair, List.mem_reverse.mp (List.mem_of_find?_eq_some found), of_decide_eq_true same⟩

namespace Settings

/-! ## What checks yield -/

/-- A check comes to a value as it is wanted, or it reports a fault. -/
def Yields {ε α : Type} (fault : ε → Prop) (wanted : α → Prop) : Except ε α → Prop
  | .ok value => wanted value
  | .error error => fault error

namespace Yields

variable {ε α β : Type} {fault : ε → Prop} {wanted : α → Prop}

/-- A check after another may build on what that one came to. -/
theorem bind {first : Except ε α} {second : α → Except ε β} {goal : β → Prop}
    (yields : Yields fault wanted first)
    (onward : ∀ value, wanted value → Yields fault goal (second value)) :
    Yields fault goal (first >>= second) := by
  cases first with
  | error error => exact yields
  | ok value => exact onward value yields

theorem mono {goal : α → Prop} {result : Except ε α} (yields : Yields fault wanted result)
    (onward : ∀ value, wanted value → goal value) : Yields fault goal result := by
  cases result with
  | error error => exact yields
  | ok value => exact onward value yields

/-- What is checked one by one yields results, each of one of the values. -/
theorem mapM {check : α → Except ε β} {wanted : α → β → Prop} {values : List α}
    (each : ∀ value ∈ values, Yields fault (wanted value) (check value)) :
    Yields fault (fun results => (∀ value ∈ values, ∃ result ∈ results, wanted value result) ∧
      ∀ result ∈ results, ∃ value ∈ values, wanted value result) (values.mapM check) := by
  induction values with
  | nil => exact ⟨nofun, nofun⟩
  | cons value values ih =>
    rw [List.mapM_cons]
    obtain ⟨first, others⟩ := List.forall_mem_cons.mp each
    refine first.bind fun result good => (ih others).bind fun results rest => ?_
    obtain ⟨forth, back⟩ := rest
    refine ⟨List.forall_mem_cons.mpr ⟨⟨result, .head _, good⟩, fun other there => ?_⟩,
      List.forall_mem_cons.mpr ⟨⟨value, .head _, good⟩, fun other there => ?_⟩⟩
    · obtain ⟨partner, listed, goes⟩ := forth other there
      exact ⟨partner, .tail _ listed, goes⟩
    · obtain ⟨partner, listed, goes⟩ := back other there
      exact ⟨partner, .tail _ listed, goes⟩

/-- A text that is read yields its reading. -/
theorem read {read : String → Except ε α} {text : String}
    (faulty : ∀ cause, read text = .error cause → fault cause) :
    Yields fault (fun value => read text = .ok value) (read text) := by
  cases result : read text with
  | error cause => exact faulty cause result
  | ok value => exact rfl

/-- The reason for which a value is not read is a fault of the settings. -/
theorem reading {fault : SettingsError → Prop} {result : Except Malformed α}
    (yields : Yields (fun cause => fault (.malformed cause)) wanted result) :
    Yields fault wanted (reading result) := by
  cases result <;> exact yields

/-- The value of a setting is there, or it is missing. -/
theorem required {fault : SettingsError → Prop} {setting : Setting} {value : Option String}
    (missing : value = none → fault (.valueless setting)) :
    Yields fault (fun text => value = some text) (required setting value) := by
  cases value with
  | none => exact missing rfl
  | some text => exact rfl

end Yields

/-! ## The checks of the settings -/

/-- What may be reported of raw settings. -/
def Reportable (T : Type) [TimeScale T] (arguments : Arguments) (error : SettingsError) : Prop :=
  (∃ setting, error = .valueless setting ∧ arguments.Lacks setting) ∨ arguments.Faulty T error

variable {arguments : Arguments}

theorem yields_conditions :
    Yields (Reportable T arguments)
      (fun specs =>
        (∀ text ∈ arguments.conditions, ∃ spec ∈ specs, ConditionSpec.read text = .ok spec) ∧
          ∀ spec ∈ specs, ∃ text ∈ arguments.conditions, ConditionSpec.read text = .ok spec)
      (reading (arguments.conditions.mapM ConditionSpec.read)) :=
  .reading (.mapM fun _ listed => .read fun _ refused => .inr (.condition listed refused))

theorem yields_durationOf {setting : Setting} {value : Option String}
    (listed : (setting, value) ∈ arguments.durations) :
    Yields (Reportable T arguments)
      (fun span : T => ∃ text, value = some text ∧ Duration.read text = .ok span)
      (durationOf setting value) := by
  refine (Yields.required fun missing => ?_).bind fun text given => ?_
  · exact .inl ⟨setting, rfl, .duration (missing ▸ listed)⟩
  · subst given
    have reads : Yields (Reportable T arguments) (fun span : T => Duration.read text = .ok span)
        (reading (Duration.read text)) :=
      .reading (.read fun _ refused => .inr (.duration listed refused))
    exact reads.mono fun span reads => ⟨text, rfl, reads⟩

theorem yields_requireNonNegative {setting : Setting} {value : Option String} {span : T}
    (listed : (setting, value) ∈ arguments.durations)
    (reads : ∃ text, value = some text ∧ Duration.read text = .ok span) :
    Yields (Reportable T arguments) (fun _ => TimeScale.before span TimeScale.zero = false)
      (requireNonNegative setting span) := by
  obtain ⟨text, rfl, reads⟩ := reads
  unfold requireNonNegative
  cases negative : TimeScale.before span TimeScale.zero with
  | true => exact .inr (.negative listed reads negative)
  | false => exact rfl

theorem yields_listenText :
    Yields (Reportable T arguments)
      (fun text => arguments.listen = some text ∧ ∃ address, ListenAddress.read text = .ok address)
      (listenText arguments.listen) := by
  refine (Yields.required fun missing => ?_).bind fun text given => ?_
  · exact .inl ⟨.listen, rfl, .listen missing⟩
  · have reads : Yields (Reportable T arguments) (fun address => ListenAddress.read text = .ok address)
        (reading (ListenAddress.read text)) :=
      .reading (.read fun _ refused => .inr (.listen given refused))
    exact reads.bind fun address reads => ⟨given, address, reads⟩

theorem yields_markerTexts :
    Yields (Reportable T arguments)
      (fun texts =>
        (∀ value ∈ arguments.protectedPodAnnotations, ∃ text ∈ texts, value = some text ∧
          ∃ marker, AnnotationMarker.read text = .ok marker) ∧
        ∀ text ∈ texts, ∃ value ∈ arguments.protectedPodAnnotations, value = some text ∧
          ∃ marker, AnnotationMarker.read text = .ok marker)
      (arguments.protectedPodAnnotations.mapM markerText) := by
  refine .mapM fun value listed => (Yields.required fun missing => ?_).bind fun text given => ?_
  · exact .inl ⟨.protectedPods, rfl, .marker (missing ▸ listed)⟩
  · have reads : Yields (Reportable T arguments) (fun marker => AnnotationMarker.read text = .ok marker)
        (reading (AnnotationMarker.read text)) :=
      .reading (.read fun _ refused => .inr (.marker (given ▸ listed) refused))
    exact reads.bind fun marker reads => ⟨given, marker, reads⟩

theorem yields_labels :
    Yields (Reportable T arguments)
      (fun labels =>
        (∀ value ∈ arguments.nodeLabels, ∃ label ∈ labels, ∃ text, value = some text ∧
          KeyValue.read text = .ok label) ∧
        ∀ label ∈ labels, ∃ value ∈ arguments.nodeLabels, ∃ text, value = some text ∧
          KeyValue.read text = .ok label)
      (arguments.nodeLabels.mapM labelOf) := by
  refine .mapM fun value listed => (Yields.required fun missing => ?_).bind fun text given => ?_
  · exact .inl ⟨.nodeLabel, rfl, .label (missing ▸ listed)⟩
  · have reads : Yields (Reportable T arguments) (fun label => KeyValue.read text = .ok label)
        (reading (KeyValue.read text)) :=
      .reading (.read fun _ refused => .inr (.label (given ▸ listed) refused))
    exact reads.mono fun label reads => ⟨text, given, reads⟩

end Settings

/-- Raw settings in which every value that is needed is there and well written. -/
structure Arguments.WellWritten (T : Type) [TimeScale T] (arguments : Arguments) : Prop where
  some_condition : arguments.conditions ≠ []
  conditions : ∀ text ∈ arguments.conditions, ∃ spec, ConditionSpec.read text = .ok spec
  durations : ∀ entry ∈ arguments.durations, ∃ text, ∃ span : T, entry.2 = some text ∧
    Duration.read text = .ok span ∧ TimeScale.before span TimeScale.zero = false
  listen : ∃ text, arguments.listen = some text ∧ ∃ address, ListenAddress.read text = .ok address
  markers : ∀ value ∈ arguments.protectedPodAnnotations, ∃ text, value = some text ∧
    ∃ marker, AnnotationMarker.read text = .ok marker
  labels : ∀ value ∈ arguments.nodeLabels, ∃ text, value = some text ∧
    ∃ label, KeyValue.read text = .ok label

/-- Nothing can be reported of raw settings that are well written. -/
theorem Arguments.WellWritten.not_reportable {arguments : Arguments}
    (written : arguments.WellWritten T) (error : SettingsError) :
    ¬ Settings.Reportable T arguments error := by
  rintro (⟨setting, rfl, lacks⟩ | faulty)
  · cases lacks with
    | duration listed =>
      obtain ⟨text, span, given, -⟩ := written.durations _ listed
      cases given
    | listen missing =>
      obtain ⟨text, given, -⟩ := written.listen
      cases missing.symm.trans given
    | marker listed =>
      obtain ⟨text, given, -⟩ := written.markers _ listed
      cases given
    | label listed =>
      obtain ⟨text, given, -⟩ := written.labels _ listed
      cases given
  · cases faulty with
    | noCondition none => exact written.some_condition none
    | condition listed refused =>
      obtain ⟨spec, reads⟩ := written.conditions _ listed
      cases refused.symm.trans reads
    | duration listed refused =>
      obtain ⟨text, span, given, reads, -⟩ := written.durations _ listed
      cases given
      cases refused.symm.trans reads
    | negative listed read negative =>
      obtain ⟨text, span, given, reads, positive⟩ := written.durations _ listed
      cases given
      cases read.symm.trans reads
      cases negative.symm.trans positive
    | listen given refused =>
      obtain ⟨text, same, address, reads⟩ := written.listen
      cases given.symm.trans same
      cases refused.symm.trans reads
    | marker listed refused =>
      obtain ⟨text, given, marker, reads⟩ := written.markers _ listed
      cases given
      cases refused.symm.trans reads
    | label listed refused =>
      obtain ⟨text, given, label, reads⟩ := written.labels _ listed
      cases given
      cases refused.symm.trans reads

/-- A controller can be built if its markers can be read and its spacing is not negative. -/
theorem Blueprint.build_ok {plan : Blueprint T} {rules : EvictionRules} (ruled : plan.rules = some rules)
    (markers : ∀ text ∈ rules.protectedAnnotations, ∃ marker, AnnotationMarker.read text = .ok marker)
    (spacing : TimeScale.before plan.spacing TimeScale.zero = false) :
    ∃ built, plan.build = .ok built := by
  have drains : ∃ drainer, plan.drainer = .ok drainer := by
    obtain ⟨markers, reads⟩ := mapM_ok_of_forall markers
    unfold drainer podFilters EvictionRules.filters
    rw [ruled]
    split
    · exact ⟨_, rfl⟩
    · simp only [reads]
      exact ⟨_, rfl⟩
  obtain ⟨drainer, drains⟩ := drains
  have buffered : DrainBuffer.ofSpacing? plan.spacing = some { spacing := plan.spacing } := by
    rw [DrainBuffer.ofSpacing?, spacing]
    rfl
  unfold build
  rw [drains, buffered]
  exact ⟨_, rfl⟩

namespace Settings

/-- Settings that are accepted can be put to use, and what they were read from is well written. -/
theorem yields_ofArguments (arguments : Arguments) :
    Yields (Reportable T arguments)
      (fun settings : Settings T => settings.Usable ∧ arguments.WellWritten T)
      (ofArguments arguments) := by
  have first : (.maxGracePeriod, arguments.maxGracePeriod) ∈ arguments.durations := .head _
  have second : (.evictionHeadroom, arguments.evictionHeadroom) ∈ arguments.durations :=
    .tail _ (.head _)
  have third : (.drainBuffer, arguments.drainBuffer) ∈ arguments.durations :=
    .tail _ (.tail _ (.head _))
  unfold ofArguments
  split
  · rename_i none
    exact .inr (.noCondition (List.isEmpty_iff.mp none))
  rename_i some
  refine yields_conditions.bind fun conditions areConditions => ?_
  refine (yields_durationOf first).bind fun maxGracePeriod isMaxGracePeriod => ?_
  refine (yields_durationOf second).bind fun evictionHeadroom isEvictionHeadroom => ?_
  refine (yields_durationOf third).bind fun drainBuffer isDrainBuffer => ?_
  refine (yields_requireNonNegative first isMaxGracePeriod).bind fun _ graceful => ?_
  refine (yields_requireNonNegative second isEvictionHeadroom).bind fun _ roomy => ?_
  refine (yields_requireNonNegative third isDrainBuffer).bind fun _ spaced => ?_
  refine yields_listenText.bind fun listen isListen => ?_
  refine yields_markerTexts.bind fun markers areMarkers => ?_
  refine yields_labels.bind fun labels areLabels => ?_
  have written : arguments.WellWritten T :=
    { some_condition := fun none => some (List.isEmpty_iff.mpr none)
      conditions := fun text listed =>
        (areConditions.1 text listed).imp fun _ reads => reads.2
      durations := by
        obtain ⟨_, givenGrace, grace⟩ := isMaxGracePeriod
        obtain ⟨_, givenHeadroom, headroom⟩ := isEvictionHeadroom
        obtain ⟨_, givenBuffer, buffer⟩ := isDrainBuffer
        exact List.forall_mem_cons.mpr ⟨⟨_, _, givenGrace, grace, graceful⟩,
          List.forall_mem_cons.mpr ⟨⟨_, _, givenHeadroom, headroom, roomy⟩,
            List.forall_mem_singleton.mpr ⟨_, _, givenBuffer, buffer, spaced⟩⟩⟩
      listen := ⟨listen, isListen⟩
      markers := fun value listed => (areMarkers.1 value listed).imp fun _ reads => reads.2
      labels := fun value listed => by
        obtain ⟨label, -, text, given, reads⟩ := areLabels.1 value listed
        exact ⟨text, given, label, reads⟩ }
  refine ⟨?_, written⟩
  exact
    { conditions := by
        obtain ⟨text, listed⟩ := List.exists_mem_of_ne_nil _ written.some_condition
        obtain ⟨spec, there, -⟩ := areConditions.1 text listed
        exact List.ne_nil_of_mem there
      types := fun spec there => by
        obtain ⟨text, -, reads⟩ := areConditions.2 spec there
        obtain ⟨type, -, -⟩ := ConditionSpec.of_read reads
        exact ⟨type.filled, type.trimmed⟩
      statuses := fun spec there => by
        obtain ⟨text, -, reads⟩ := areConditions.2 spec there
        exact (ConditionSpec.of_read reads).2
      maxGracePeriod := graceful
      evictionHeadroom := roomy
      drainBuffer := spaced
      labels := fun key there => by
        obtain ⟨label, listed, rfl⟩ := KeyValue.mem_of_mem_keys_labels there
        obtain ⟨_, -, text, -, reads⟩ := areLabels.2 label listed
        exact (KeyValue.read_iff.mp reads).2
      builds := by
        refine Blueprint.build_ok rfl (fun text there => ?_) spaced
        obtain ⟨_, -, -, reads⟩ := areMarkers.2 text there
        exact reads
      serves := by
        obtain ⟨-, address, reads⟩ := isListen
        exact ⟨_, by rw [Web.serve, reads]; rfl⟩ }

/-- Raw settings are accepted exactly if nothing is wrong with them, and what is accepted can be put to
use. What is reported of the others is a fault of theirs, or a value that is missing. -/
theorem acceptance (arguments : Arguments) :
    (∀ settings : Settings T, ofArguments arguments = .ok settings →
      settings.Usable ∧ (∀ error, ¬ arguments.Faulty T error) ∧
        ∀ setting, ¬ arguments.Lacks setting) ∧
    ∀ error, (ofArguments arguments : Except SettingsError (Settings T)) = .error error →
      arguments.Faulty T error ∨ ∃ setting, error = .valueless setting ∧ arguments.Lacks setting := by
  have yields := yields_ofArguments (T := T) arguments
  constructor
  · intro settings accepted
    rw [accepted] at yields
    obtain ⟨usable, written⟩ := yields
    exact ⟨usable, fun error faulty => written.not_reportable error (.inr faulty),
      fun setting lacks => written.not_reportable _ (.inl ⟨setting, rfl, lacks⟩)⟩
  · intro error refused
    rw [refused] at yields
    exact yields.symm

/-- The raw settings of a command line that gives the address to listen at no value. -/
def unaddressed : Arguments :=
  { conditions := ["Ready"]
    listen := none
    maxGracePeriod := some "8m"
    evictionHeadroom := some "30s"
    drainBuffer := some "10m"
    statsdPort := some 8125 }

/-- An address to listen at that is a double dash is lost on the way, so that its value is missing. With
the usual address the same settings are accepted. -/
theorem acceptance_unaddressed :
    Arguments.read (.ofList []) ["--listen=--", "Ready"] = .ok unaddressed ∧
      unaddressed.Lacks .listen ∧
      ∃ settings : Settings Rat,
        ofArguments { unaddressed with listen := some ":10002" } = .ok settings ∧
          settings.Usable := by
  have refused : ((ofArguments unaddressed : Except SettingsError (Settings Rat)).map fun _ => ()) =
      .error (.valueless .listen) := by decide +kernel
  have accepted : (ofArguments { unaddressed with listen := some ":10002" } :
      Except SettingsError (Settings Rat)).toOption.isSome = true := by decide +kernel
  refine ⟨by decide +kernel, ?_, ?_⟩
  · cases given : (ofArguments unaddressed : Except SettingsError (Settings Rat)) with
    | ok settings =>
      rw [given] at refused
      cases refused
    | error error =>
      rw [given] at refused
      cases refused
      obtain faulty | ⟨setting, same, lacks⟩ := (acceptance (T := Rat) unaddressed).2 _ given
      · cases faulty
      · cases same
        exact lacks
  · obtain ⟨settings, kept⟩ := Option.isSome_iff_exists.mp accepted
    have given := ok_of_toOption kept
    exact ⟨settings, given, ((acceptance (T := Rat) _).1 settings given).1⟩

end Settings

end Evacuation
