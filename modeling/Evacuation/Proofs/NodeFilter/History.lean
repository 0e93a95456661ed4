import Evacuation.NodeFilter
import Evacuation.Proofs.KeyValue
/-!
# Histories of a filter chain

What a chain of filters answers about a node is one equation (`firstRejecting_build`): the filter that
remembers nodes is asked last, so it remembers exactly the nodes that all others keep. The main
statement, `FilterChain.decides`, follows a chain from the texts it was built from through any
sequence of queries. It says when a node is kept, which filter drops it first, that no later filter has
a say, and what is remembered: the nodes that were kept and not forgotten since (`mem_memory_iff`, by
induction on the queries).
-/
namespace Evacuation

/-! ## What the filters look at -/

namespace Node

/-- The node carries, for every key that is given, the value that is given last for it. -/
def CarriesGiven (node : Node) (labels : List String) : Prop :=
  ∀ key value, KeyValue.GivenLast labels key value →
    ∃ carried, node.labels = some carried ∧ carried.get? key = some value

/-- The node shows a condition that some text asks for. -/
def ShowsAsked (node : Node) (conditions : List String) : Prop :=
  ∃ status shown condition text, node.status = some status ∧ status.conditions = some shown ∧
    condition ∈ shown ∧ text ∈ conditions ∧
    ConditionSpec.Asked text condition.type condition.status

/-- The node is not marked unschedulable. -/
def IsOpen (node : Node) : Prop := ∀ spec, node.spec = some spec → spec.unschedulable ≠ some true

theorem isOpen_iff {node : Node} : node.isUnschedulable = false ↔ node.IsOpen := by
  unfold isUnschedulable IsOpen
  cases node.spec with
  | none => simp
  | some spec => cases marked : spec.unschedulable <;> simp [marked]

theorem label?_eq_some_iff {node : Node} {key value : String} : node.label? key = some value ↔
    ∃ carried, node.labels = some carried ∧ carried.get? key = some value :=
  Option.bind_eq_some_iff

theorem mem_conditions_iff {node : Node} {condition : NodeCondition} :
    condition ∈ node.conditions ↔ ∃ status shown, node.status = some status ∧
      status.conditions = some shown ∧ condition ∈ shown := by
  unfold conditions
  cases node.status with
  | none => simp
  | some status => cases shown : status.conditions <;> simp [shown]

end Node

/-- A node carries the labels that were read exactly if it carries what was given. -/
theorem carriesLabels_iff {texts : List String} {labels : Table String String}
    (read : KeyValue.readLabels texts = .ok labels) (node : Node) :
    carriesLabels labels node = true ↔ node.CarriesGiven texts := by
  have proper := KeyValue.proper_readLabels read
  rw [carriesLabels, List.all_eq_true]
  constructor
  · intro carries key value given
    have found := (KeyValue.get?_readLabels read).mpr given
    have carried := carries (key, value) (Table.mem_entries_of_get? found)
    exact Node.label?_eq_some_iff.mp (beq_iff_eq.mp carried)
  · rintro carries ⟨key, value⟩ listed
    have given := (KeyValue.get?_readLabels read).mp (proper.get?_of_mem listed)
    exact beq_iff_eq.mpr (Node.label?_eq_some_iff.mpr (carries key value given))

/-- The conditions of a node offend the specs that were read exactly if the node shows what was asked
for. -/
theorem offendingConditions_iff {texts : List String} {specs : List ConditionSpec}
    (read : texts.mapM ConditionSpec.read = .ok specs) (node : Node) :
    (offendingConditions specs node).isEmpty = false ↔ node.ShowsAsked texts := by
  have offends : (offendingConditions specs node).isEmpty = false ↔
      ∃ condition ∈ node.conditions, ∃ spec ∈ specs, spec.accepts condition = true := by
    simp [offendingConditions, List.any_eq_true]
  rw [offends]
  constructor
  · rintro ⟨condition, there, spec, listed, accepts⟩
    obtain ⟨status, shown, reported, shows, member⟩ := Node.mem_conditions_iff.mp there
    obtain ⟨text, given, ok⟩ := exists_mem_of_forall₂ (forall₂_of_mapM read).flip listed
    obtain ⟨asked, -, -⟩ := ConditionSpec.read_iff.mp ok
    have same : condition.type = spec.type ∧ condition.status = spec.status := by
      simpa [ConditionSpec.accepts] using accepts
    rw [← same.1, ← same.2] at asked
    exact ⟨status, shown, condition, text, reported, shows, member, given, asked⟩
  · rintro ⟨status, shown, condition, text, reported, shows, member, given, asked⟩
    have there := Node.mem_conditions_iff.mpr ⟨status, shown, reported, shows, member⟩
    obtain ⟨spec, listed, ok⟩ := exists_mem_of_forall₂ (forall₂_of_mapM read) given
    obtain ⟨types, statuses⟩ := asked.unique (ConditionSpec.read_iff.mp ok).1
    exact ⟨condition, there, spec, listed, by simp [ConditionSpec.accepts, types, statuses]⟩

/-! ## The verdict of a chain -/

namespace FilterChain

/-- The first filter that drops a node, filter by filter. -/
theorem firstRejecting_build (labels : Table String String) (specs : List ConditionSpec)
    (dryRun : Bool) (node : Node) (processed : Processed) :
    (build labels specs dryRun).firstRejecting node processed =
      if carriesLabels labels node = false then (some (.label labels), processed)
      else if (offendingConditions specs node).isEmpty = true then (some (.condition specs), processed)
      else if node.isUnschedulable = true then (some .schedulable, processed)
      else if dryRun = false then (none, processed)
      else if node.name ∈ processed then (some .processed, processed)
      else (none, node.name :: processed) := by
  cases labelled : carriesLabels labels node <;>
    cases offending : (offendingConditions specs node).isEmpty <;>
    cases closed : node.isUnschedulable <;> cases dryRun <;>
    by_cases known : node.name ∈ processed <;>
    simp [build, firstRejecting, NodeFilter.keeps, labelled, offending, closed, known]

/-- A node that is screened a second time is dropped as before, or it was kept and is kept again if
the filters remember nothing, and dropped without being taken for healthy if they do. -/
theorem firstRejecting_again {labels : Table String String} {specs : List ConditionSpec}
    {dryRun : Bool} {node : Node} {before after : Processed} {verdict : Option NodeFilter}
    (screened : (build labels specs dryRun).firstRejecting node before = (verdict, after)) :
    (build labels specs dryRun).firstRejecting node after = (verdict, after) ∨
      verdict = none ∧
        (build labels specs dryRun).firstRejecting node after = (some .processed, after) := by
  rw [firstRejecting_build] at screened ⊢
  by_cases unlabelled : carriesLabels labels node = false
  · rw [if_pos unlabelled] at screened ⊢
    cases screened
    exact .inl rfl
  rw [if_neg unlabelled] at screened ⊢
  by_cases sound : (offendingConditions specs node).isEmpty = true
  · rw [if_pos sound] at screened ⊢
    cases screened
    exact .inl rfl
  rw [if_neg sound] at screened ⊢
  by_cases closed : node.isUnschedulable = true
  · rw [if_pos closed] at screened ⊢
    cases screened
    exact .inl rfl
  rw [if_neg closed] at screened ⊢
  by_cases live : dryRun = false
  · rw [if_pos live] at screened ⊢
    cases screened
    exact .inl rfl
  rw [if_neg live] at screened ⊢
  by_cases known : node.name ∈ before
  · rw [if_pos known] at screened
    cases screened
    exact .inl (if_pos known)
  · rw [if_neg known] at screened
    cases screened
    exact .inr ⟨rfl, if_pos List.mem_cons_self⟩

section Verdicts

variable {labels : Table String String} {specs : List ConditionSpec} {dryRun : Bool} {node : Node}
  {processed : Processed}

/-- A node is kept exactly if all filters keep it, the last one only in a dry run. -/
theorem firstRejecting_build_eq_none :
    ((build labels specs dryRun).firstRejecting node processed).1 = none ↔
      carriesLabels labels node = true ∧ (offendingConditions specs node).isEmpty = false ∧
        node.isUnschedulable = false ∧ (dryRun = true → node.name ∉ processed) := by
  rw [firstRejecting_build]
  cases carriesLabels labels node <;> cases (offendingConditions specs node).isEmpty <;>
    cases node.isUnschedulable <;> cases dryRun <;> by_cases known : node.name ∈ processed <;>
    simp [known]

/-- A node that is kept is remembered in a dry run. -/
theorem remembers_of_kept
    (kept : ((build labels specs dryRun).firstRejecting node processed).1 = none) :
    ((build labels specs dryRun).firstRejecting node processed).2 =
      if dryRun then node.name :: processed else processed := by
  obtain ⟨carries, offends, opened, unknown⟩ := firstRejecting_build_eq_none.mp kept
  rw [firstRejecting_build, carries, offends, opened]
  cases dryRun with
  | false => rfl
  | true => simp [unknown rfl]

/-- A node that is dropped changes nothing. -/
theorem remembers_of_dropped
    (dropped : ((build labels specs dryRun).firstRejecting node processed).1 ≠ none) :
    ((build labels specs dryRun).firstRejecting node processed).2 = processed := by
  rw [firstRejecting_build] at dropped ⊢
  split_ifs at dropped ⊢ <;> first | rfl | exact absurd rfl dropped

/-- The filters before the one that drops a node decide, and those after it are not consulted: any
others in their place would leave both the answer and what is remembered as they are. -/
theorem exists_of_firstRejecting {chain : FilterChain} {filter : NodeFilter} {later : Processed}
    (dropped : chain.firstRejecting node processed = (some filter, later)) :
    ∃ earlier after, chain = earlier ++ filter :: after ∧
      ∀ others, firstRejecting (earlier ++ filter :: others) node processed =
        (some filter, later) := by
  induction chain generalizing processed with
  | nil => cases dropped
  | cons first rest ih =>
    rw [firstRejecting] at dropped
    split at dropped
    case h_1 between keeps =>
      obtain ⟨earlier, after, rfl, unconsulted⟩ := ih dropped
      refine ⟨first :: earlier, after, rfl, fun others => ?_⟩
      rw [List.cons_append, firstRejecting, keeps]
      exact unconsulted others
    case h_2 unchanged drops =>
      cases dropped
      refine ⟨[], rest, rfl, fun others => ?_⟩
      rw [List.nil_append, firstRejecting, drops]

/-! ## Queries -/

/-- What is asked of a chain. -/
inductive Query where
  | evaluate (node : Node)
  | firstRejecting (node : Node)
  | forget (name : String)

/-- The node for which a query wants a verdict. -/
def Query.node? : Query → Option Node
  | .evaluate node | .firstRejecting node => some node
  | .forget _ => none

/-- The nodes remembered once a query is answered. -/
def serve (chain : FilterChain) (processed : Processed) : Query → Processed
  | .evaluate node => (chain.evaluate node processed).2
  | .firstRejecting node => (chain.firstRejecting node processed).2
  | .forget name => forget name processed

/-- The nodes remembered after some queries, none at first. -/
def memory (chain : FilterChain) (queries : List Query) : Processed :=
  queries.foldl chain.serve []

/-- A node of that name was kept, and the name was not forgotten since. -/
def KeptSince (chain : FilterChain) (queries : List Query) (name : String) : Prop :=
  ∃ before query node after, queries = before ++ query :: after ∧ query.node? = some node ∧
    node.name = name ∧ (chain.evaluate node (chain.memory before)).1 = true ∧
    .forget name ∉ after

theorem memory_concat (chain : FilterChain) (queries : List Query) (query : Query) :
    chain.memory (queries ++ [query]) = chain.serve (chain.memory queries) query := by
  rw [memory, List.foldl_append]
  rfl

/-- Both queries for a verdict leave the same behind. -/
theorem serve_of_node? {chain : FilterChain} {query : Query} (asks : query.node? = some node) :
    chain.serve processed query = (chain.firstRejecting node processed).2 := by
  cases query with
  | forget name => cases asks
  | evaluate | firstRejecting =>
    cases asks
    rfl

theorem evaluate_eq_true {chain : FilterChain} :
    (chain.evaluate node processed).1 = true ↔ (chain.firstRejecting node processed).1 = none :=
  Option.isNone_iff_eq_none

theorem mem_forget {name other : String} :
    other ∈ forget name processed ↔ other ∈ processed ∧ other ≠ name := by
  simp [forget]

/-- What one more query makes of it. -/
theorem keptSince_concat {chain : FilterChain} {queries : List Query} {query : Query}
    {name : String} : chain.KeptSince (queries ++ [query]) name ↔
      (∃ node, query.node? = some node ∧ node.name = name ∧
        (chain.evaluate node (chain.memory queries)).1 = true) ∨
      query ≠ .forget name ∧ chain.KeptSince queries name := by
  constructor
  · rintro ⟨before, asked, node, after, parts, asks, named, kept, unforgotten⟩
    obtain ⟨rfl, rfl, rfl⟩ | ⟨between, rfl, rfl⟩ := concat_eq_append_cons_iff.mp parts
    · exact .inl ⟨node, asks, named, kept⟩
    · rw [List.mem_append, List.mem_singleton, not_or] at unforgotten
      exact .inr ⟨Ne.symm unforgotten.2, before, asked, node, between, rfl, asks, named, kept,
        unforgotten.1⟩
  · rintro (⟨node, asks, named, kept⟩ | ⟨other, before, asked, node, after, rfl, asks, named, kept,
      unforgotten⟩)
    · exact ⟨queries, query, node, [], rfl, asks, named, kept, List.not_mem_nil⟩
    · refine ⟨before, asked, node, after ++ [query], by simp, asks, named, kept, ?_⟩
      rw [List.mem_append, List.mem_singleton, not_or]
      exact ⟨unforgotten, Ne.symm other⟩

/-- One query in a dry run: a name is remembered afterwards if a node of that name is kept, or if it
was remembered and is not forgotten. -/
theorem mem_serve_iff {query : Query} {name : String} :
    name ∈ (build labels specs true).serve processed query ↔
      (∃ node, query.node? = some node ∧ node.name = name ∧
        ((build labels specs true).evaluate node processed).1 = true) ∨
      query ≠ .forget name ∧ name ∈ processed := by
  cases asks : query.node? with
  | none =>
    cases query with
    | evaluate | firstRejecting => cases asks
    | forget other =>
      have differs : Query.forget other ≠ .forget name ↔ name ≠ other :=
        not_congr ⟨fun same => (Query.forget.inj same).symm, fun same => same ▸ rfl⟩
      show name ∈ forget other processed ↔ _
      rw [mem_forget, differs, and_comm]
      simp
  | some node =>
    have lasting : query ≠ .forget name := by
      rintro rfl
      cases asks
    rw [serve_of_node? asks]
    by_cases kept : ((build labels specs true).firstRejecting node processed).1 = none
    · have verdict := evaluate_eq_true.mpr kept
      rw [remembers_of_kept kept, if_pos rfl, List.mem_cons, eq_comm]
      simp [verdict, lasting]
    · have verdict := mt evaluate_eq_true.mp kept
      rw [remembers_of_dropped kept]
      simp [verdict, lasting]

/-- In a dry run the nodes are remembered that were kept and not forgotten since. -/
theorem mem_memory_iff {queries : List Query} {name : String} :
    name ∈ (build labels specs true).memory queries ↔
      (build labels specs true).KeptSince queries name := by
  induction queries using List.reverseRecOn with
  | nil =>
    refine iff_of_false List.not_mem_nil ?_
    rintro ⟨before, query, node, after, nothing, -⟩
    exact List.append_ne_nil_of_right_ne_nil before (List.cons_ne_nil query after) nothing.symm
  | append_singleton queries query ih =>
    rw [memory_concat, mem_serve_iff, keptSince_concat, ih]

/-- Outside a dry run nothing is remembered. -/
theorem memory_live {queries : List Query} : (build labels specs false).memory queries = [] := by
  induction queries using List.reverseRecOn with
  | nil => rfl
  | append_singleton queries query ih =>
    rw [memory_concat, ih]
    cases asks : query.node? with
    | none =>
      cases query with
      | evaluate | firstRejecting => cases asks
      | forget other => rfl
    | some node =>
      rw [serve_of_node? asks]
      by_cases kept : ((build labels specs false).firstRejecting node []).1 = none
      · exact remembers_of_kept kept
      · exact remembers_of_dropped kept

end Verdicts

/-! ## Decisions -/

variable (texts conditions : List String) (dryRun : Bool) (chain : FilterChain)
  (queries : List Query) (node : Node)

/-- The node has what is asked for, and in a dry run it was not kept before. -/
structure Wanted : Prop where
  labels : node.CarriesGiven texts
  conditions : node.ShowsAsked conditions
  schedulable : node.IsOpen
  processed : dryRun = true → ¬ chain.KeptSince queries node.name

/-- The first thing that the node lacks, by the name of the filter that looks for it. -/
inductive Lacks : String → Prop where
  | label (unlabelled : ¬ node.CarriesGiven texts) : Lacks "label"
  | condition (labelled : node.CarriesGiven texts) (healthy : ¬ node.ShowsAsked conditions) :
      Lacks "condition"
  | schedulable (labelled : node.CarriesGiven texts) (shows : node.ShowsAsked conditions)
      (closed : ¬ node.IsOpen) : Lacks "schedulable"
  | processed (labelled : node.CarriesGiven texts) (shows : node.ShowsAsked conditions)
      (opened : node.IsOpen) (dry : dryRun = true) (known : chain.KeptSince queries node.name) :
      Lacks "processed"

/-- How a chain answers about a node after some queries. -/
structure Decides : Prop where
  recalled : ∀ name, name ∈ chain.memory queries ↔ dryRun = true ∧ chain.KeptSince queries name
  kept : (chain.evaluate node (chain.memory queries)).1 = true ↔
    Wanted texts conditions dryRun chain queries node
  unnamed : (chain.firstRejecting node (chain.memory queries)).1 = none ↔
    Wanted texts conditions dryRun chain queries node
  named : ∀ name, (chain.firstRejecting node (chain.memory queries)).1.map NodeFilter.name =
    some name ↔ Lacks texts conditions dryRun chain queries node name
  unconsulted : ∀ filter, (chain.firstRejecting node (chain.memory queries)).1 = some filter →
    ∃ earlier after, chain = earlier ++ filter :: after ∧ ∀ others,
      firstRejecting (earlier ++ filter :: others) node (chain.memory queries) =
        (some filter, chain.memory queries)
  remembered : ∀ query : Query, query.node? = some node →
    Wanted texts conditions dryRun chain queries node →
      chain.memory (queries ++ [query]) =
        if dryRun then node.name :: chain.memory queries else chain.memory queries
  unchanged : ∀ query : Query, query.node? = some node →
    ¬ Wanted texts conditions dryRun chain queries node →
      chain.memory (queries ++ [query]) = chain.memory queries
  forgotten : ∀ name other, other ∈ chain.memory (queries ++ [.forget name]) ↔
    other ∈ chain.memory queries ∧ other ≠ name

section Decisions

variable {texts conditions : List String} {labels : Table String String} {specs : List ConditionSpec}

/-- The node is kept exactly if it is wanted. -/
theorem firstRejecting_eq_none_iff (labelsRead : KeyValue.readLabels texts = .ok labels)
    (conditionsRead : conditions.mapM ConditionSpec.read = .ok specs) :
    ((build labels specs dryRun).firstRejecting node ((build labels specs dryRun).memory queries)).1 =
      none ↔ Wanted texts conditions dryRun (build labels specs dryRun) queries node := by
  have unknown : (dryRun = true → node.name ∉ (build labels specs dryRun).memory queries) ↔
      (dryRun = true → ¬ (build labels specs dryRun).KeptSince queries node.name) := by
    refine imp_congr_right fun dry => ?_
    rw [dry, mem_memory_iff]
  rw [firstRejecting_build_eq_none, carriesLabels_iff labelsRead,
    offendingConditions_iff conditionsRead, Node.isOpen_iff, unknown]
  exact ⟨fun ⟨carries, shows, opened, known⟩ => ⟨carries, shows, opened, known⟩,
    fun ⟨carries, shows, opened, known⟩ => ⟨carries, shows, opened, known⟩⟩

/-- The filter that drops the node first looks for the first thing that the node lacks. -/
theorem name_of_firstRejecting_iff (labelsRead : KeyValue.readLabels texts = .ok labels)
    (conditionsRead : conditions.mapM ConditionSpec.read = .ok specs) (name : String) :
    ((build labels specs dryRun).firstRejecting node
        ((build labels specs dryRun).memory queries)).1.map NodeFilter.name = some name ↔
      Lacks texts conditions dryRun (build labels specs dryRun) queries node name := by
  have unlabelled : carriesLabels labels node = false ↔ ¬ node.CarriesGiven texts := by
    rw [← carriesLabels_iff labelsRead, Bool.not_eq_true]
  have healthy : (offendingConditions specs node).isEmpty = true ↔
      ¬ node.ShowsAsked conditions := by
    rw [← offendingConditions_iff conditionsRead, Bool.not_eq_false]
  have closed : node.isUnschedulable = true ↔ ¬ node.IsOpen := by
    rw [← Node.isOpen_iff, Bool.not_eq_false]
  rw [firstRejecting_build]
  constructor
  · intro named
    split_ifs at named with lacks sound marked live known <;> cases named
    · exact .label (unlabelled.mp lacks)
    · have carries := not_not.mp (mt unlabelled.mpr lacks)
      exact .condition carries (healthy.mp sound)
    · have carries := not_not.mp (mt unlabelled.mpr lacks)
      have shows := not_not.mp (mt healthy.mpr sound)
      exact .schedulable carries shows (closed.mp marked)
    · have carries := not_not.mp (mt unlabelled.mpr lacks)
      have shows := not_not.mp (mt healthy.mpr sound)
      have isOpen := not_not.mp (mt closed.mpr marked)
      obtain rfl : dryRun = true := Bool.not_eq_false _ ▸ live
      exact .processed carries shows isOpen rfl (mem_memory_iff.mp known)
  · rintro (lacks | ⟨carries, sound⟩ | ⟨carries, shows, marked⟩ | ⟨carries, shows, isOpen, rfl, known⟩)
    · rw [if_pos (unlabelled.mpr lacks)]
      rfl
    · rw [if_neg (mt unlabelled.mp (not_not.mpr carries)), if_pos (healthy.mpr sound)]
      rfl
    · rw [if_neg (mt unlabelled.mp (not_not.mpr carries)),
        if_neg (mt healthy.mp (not_not.mpr shows)), if_pos (closed.mpr marked)]
      rfl
    · rw [if_neg (mt unlabelled.mp (not_not.mpr carries)),
        if_neg (mt healthy.mp (not_not.mpr shows)), if_neg (mt closed.mp (not_not.mpr isOpen)),
        if_neg (Bool.false_ne_true ∘ Eq.symm), if_pos (mem_memory_iff.mpr known)]
      rfl

/-- **Decisions over any history.** A chain built from the texts of labels and conditions keeps a node
after any queries exactly if the node carries every label as it was given last, shows a condition that
is asked for, is not marked unschedulable and, in a dry run, was not kept since its name was last
forgotten. Otherwise the filter for the first thing that the node lacks is named and no later one is
consulted. What is remembered is changed by keeping a node and by forgetting a name, and by nothing
else. -/
theorem decides (labelsRead : KeyValue.readLabels texts = .ok labels)
    (conditionsRead : conditions.mapM ConditionSpec.read = .ok specs) :
    Decides texts conditions dryRun (build labels specs dryRun) queries node := by
  have wanted := firstRejecting_eq_none_iff dryRun queries node labelsRead conditionsRead
  exact {
    recalled := by
      intro name
      cases dryRun with
      | false => simp [memory_live]
      | true => simp [mem_memory_iff]
    kept := evaluate_eq_true.trans wanted
    unnamed := wanted
    named := name_of_firstRejecting_iff dryRun queries node labelsRead conditionsRead
    unconsulted := by
      intro filter named
      have dropped := remembers_of_dropped (named.trans_ne (Option.some_ne_none filter))
      exact exists_of_firstRejecting (Prod.ext named dropped)
    remembered := by
      intro query asks want
      rw [memory_concat, serve_of_node? asks]
      exact remembers_of_kept (wanted.mpr want)
    unchanged := by
      intro query asks unwanted
      rw [memory_concat, serve_of_node? asks]
      exact remembers_of_dropped (mt wanted.mp unwanted)
    forgotten := by
      intro name other
      rw [memory_concat]
      exact mem_forget }

/-- A node that was kept once and forgotten is wanted again: its pool is the one named last, and a
condition without a state is asked for in the usual one. -/
theorem decides_forgotten :
    let node : Node := {
      name := "worker"
      labels := some (Table.insert ∅ "pool" "b")
      status := some { conditions := some [⟨"Ready", "True"⟩, ⟨"KernelDeadlock", "True"⟩] } }
    let labels : Table String String := Table.insert ∅ "pool" "b"
    let chain := build labels [⟨"KernelDeadlock", "True"⟩, ⟨"Ready", "False"⟩] true
    KeyValue.readLabels ["pool=a", " pool = b "] = .ok labels ∧
      ["KernelDeadlock", "Ready = False"].mapM ConditionSpec.read =
        .ok [⟨"KernelDeadlock", "True"⟩, ⟨"Ready", "False"⟩] ∧
      Decides ["pool=a", " pool = b "] ["KernelDeadlock", "Ready = False"] true chain
        [.evaluate node, .firstRejecting node, .forget "worker"] node ∧
      Wanted ["pool=a", " pool = b "] ["KernelDeadlock", "Ready = False"] true chain
        [.evaluate node, .firstRejecting node, .forget "worker"] node := by
  intro node labels chain
  have labelsRead : KeyValue.readLabels ["pool=a", " pool = b "] = .ok labels := by decide +kernel
  have conditionsRead : ["KernelDeadlock", "Ready = False"].mapM ConditionSpec.read =
      .ok [⟨"KernelDeadlock", "True"⟩, ⟨"Ready", "False"⟩] := by decide +kernel
  have answers := decides true [.evaluate node, .firstRejecting node, .forget "worker"] node
    labelsRead conditionsRead
  exact ⟨labelsRead, conditionsRead, answers, answers.kept.mp (by decide +kernel)⟩

end Decisions

end FilterChain

end Evacuation
