import Evacuation.Settings.Arguments
/-!
# Command lines with options in full

An option is written in full as its long name, with its argument behind an equals sign if it takes
one. A command line of such options around one group of other words is read exactly as it stands,
which is the main statement, `read_written`: every option is noted with its value, in order, and the
group is read whole.

The words are told apart one by one, since none of them is a bare double dash, and are then acted on
one by one, since no option waits for the next word.
-/
namespace Evacuation

/-- A step that gives a result was preceded by one that did. -/
theorem ok_of_bind {ε α β : Type} {first : Except ε α} {step : α → Except ε β} {result : β}
    (ok : first >>= step = .ok result) :
    ∃ intermediate, first = .ok intermediate ∧ step intermediate = .ok result := by
  cases first with
  | error error => cases ok
  | ok intermediate => exact ⟨intermediate, rfl, ok⟩

/-- A result is the same however errors are reported. -/
theorem ok_of_mapError {ε δ α : Type} {report : ε → δ} {outcome : Except ε α} {result : α}
    (ok : outcome.mapError report = .ok result) : outcome = .ok result := by
  cases outcome with
  | error error => cases ok
  | ok _ => exact congrArg Except.ok (Except.ok.inj ok)

/-- What is left when errors are dropped is the result. -/
theorem ok_of_toOption {ε α : Type} {outcome : Except ε α} {result : α}
    (kept : outcome.toOption = some result) : outcome = .ok result := by
  cases outcome with
  | error error => cases kept
  | ok _ => exact congrArg Except.ok (Option.some.inj kept)

namespace CommandLine

variable {O : Type}

/-- Words that are each told apart stand in front of what is made of the rest. -/
theorem classifyAll_append {α : Type} {grammar : Grammar O} {word : α → String}
    {token : α → Token O} {items : List α}
    (told : ∀ item ∈ items, word item ≠ "--" ∧ classify grammar (word item) = .ok (token item))
    {rest : List String} {tokens : List (Token O)}
    (ok : classifyAll grammar (items.map word ++ rest) = .ok tokens) :
    ∃ others, classifyAll grammar rest = .ok others ∧ tokens = items.map token ++ others := by
  induction items generalizing tokens with
  | nil => exact ⟨tokens, ok, rfl⟩
  | cons item items ih =>
    obtain ⟨noSeparator, isToken⟩ := told item List.mem_cons_self
    rw [List.map_cons, List.cons_append, classifyAll, if_neg noSeparator] at ok
    obtain ⟨first, isFirst, ok⟩ := ok_of_bind ok
    obtain rfl : token item = first := Except.ok.inj (isToken.symm.trans isFirst)
    obtain ⟨further, ofFurther, ok⟩ := ok_of_bind ok
    cases ok
    have toldLater : ∀ item ∈ items,
        word item ≠ "--" ∧ classify grammar (word item) = .ok (token item) :=
      fun item listed => told item (List.mem_cons_of_mem _ listed)
    obtain ⟨others, ofRest, rfl⟩ := ih toldLater ofFurther
    exact ⟨others, ofRest, rfl⟩

/-- Words that are no options join the group one after another. -/
theorem consume_plain (grammar : Grammar O) (words : List String) (rest : List (Token O))
    (given : Given O) :
    consume grammar (words.map .plain ++ rest) given =
      consume grammar rest (words.foldl Given.plain given) := by
  induction words generalizing given with
  | nil => rfl
  | cons word words ih =>
    rw [List.map_cons, List.cons_append, consume.eq_def]
    exact ih (given.plain word)

namespace Given

/-- An argument gives its text, unless it is a bare double dash. -/
theorem valueOf_some (text : String) :
    valueOf (some text) = if text = "--" then none else some text := by
  by_cases dashes : text = "--" <;> simp [valueOf, dashes]

/-- What was read, after one more option with its argument. -/
def noted (given : Given O) (option : O) (argument : Option String) : Given O :=
  { given.interrupted with options := given.options ++ [(option, valueOf argument)] }

/-- An option that is acted on is noted, and a number that it is given can be read. -/
theorem act_ok {given acted : Given O} {form : Form O} {argument : Option String}
    (ok : given.act form argument = .ok acted) :
    acted = given.noted form.option argument ∧
      (form.kind = .number →
        ∃ number, (valueOf argument).mapM Decimal.readInteger = .ok number) := by
  unfold act at ok
  cases kind : form.kind with
  | help =>
    simp only [kind] at ok
    cases ok
  | flag | value =>
    simp only [kind] at ok
    cases ok
    exact ⟨rfl, nofun⟩
  | number =>
    cases value : valueOf argument with
    | none =>
      simp only [kind, value] at ok
      cases ok
      rw [noted, value]
      exact ⟨rfl, fun _ => ⟨none, rfl⟩⟩
    | some text =>
      simp only [kind, value] at ok
      split at ok
      case h_1 number isNumber =>
        cases ok
        rw [noted, value]
        refine ⟨rfl, fun _ => ⟨some number, ?_⟩⟩
        rw [Option.mapM_some, isNumber]
        rfl
      case h_2 => cases ok

/-- Words that join an open group are added to it and to nothing else. -/
theorem foldl_plain (words : List String) {given : Given O} (unfinished : given.group ≠ .over) :
    (words.foldl plain given).options = given.options ∧
      (words.foldl plain given).words = given.words ++ words ∧
      (words.foldl plain given).extras = given.extras := by
  induction words generalizing given with
  | nil => simp
  | cons word words ih =>
    have joined : given.plain word =
        { given with words := given.words ++ [word], group := .gathering } := by
      unfold plain
      split
      case h_1 ended => exact absurd ended unfinished
      case h_2 => rfl
      case h_3 => rfl
    have stillOpen : (given.plain word).group ≠ .over := by simp [joined]
    obtain ⟨options, group, extras⟩ := ih stillOpen
    rw [List.foldl_cons, options, group, extras, joined]
    simp

end Given

end CommandLine

open CommandLine

/-! ## The words of options -/

/-- An option that is written in full. -/
inductive Written where
  /-- The name alone, of an option that takes no argument. -/
  | bare (setting : Setting) (alone : setting.form.takesArgument = false)
  /-- The name and an argument behind an equals sign. -/
  | assigned (setting : Setting) (taken : setting.form.takesArgument = true) (text : String)

namespace Written

/-- The setting that is meant. -/
def setting : Written → Setting
  | .bare setting _ => setting
  | .assigned setting _ _ => setting

/-- The argument behind the equals sign. -/
def argument : Written → Option String
  | .bare _ _ => none
  | .assigned _ _ text => some text

/-- The value that the setting is given. An argument that is a bare double dash is none. -/
def value? (written : Written) : Option String := Given.valueOf written.argument

/-- The word on the command line. -/
def word : Written → String
  | .bare setting _ => setting.flag
  | .assigned setting _ text => setting.flag ++ "=" ++ text

/-- What the reader makes of the word. -/
def token (written : Written) : Token Setting :=
  .known written.setting.form written.setting.flag written.argument

end Written

theorem Setting.flag_toList (setting : Setting) :
    setting.flag.toList = '-' :: '-' :: setting.longName.toList := by
  cases setting <;> decide +kernel

theorem Setting.equals_not_mem_flag (setting : Setting) : '=' ∉ setting.flag.toList := by
  cases setting <;> decide +kernel

theorem Setting.named?_flag (setting : Setting) :
    named? grammar setting.flag = some setting.form := by
  cases setting <;> rfl

/-- No option has a name with an equals sign. -/
theorem Setting.named?_eq_none {word : String} (holds : '=' ∈ word.toList) :
    named? grammar word = none := by
  have names_free : ∀ entry ∈ names grammar, '=' ∉ entry.1.toList := by decide +kernel
  rw [named?, Option.map_eq_none_iff, List.find?_eq_none]
  intro entry listed same
  have isWord : entry.1 = word := by simpa using same
  exact names_free entry listed (isWord ▸ holds)

namespace Written

/-- The word of an option starts with two dashes. -/
theorem word_toList (written : Written) : ∃ rest, written.word.toList = '-' :: '-' :: rest := by
  cases written with
  | bare setting _ => exact ⟨_, setting.flag_toList⟩
  | assigned setting _ text =>
    exact ⟨setting.longName.toList ++ '=' :: text.toList, by simp [word, Setting.flag_toList]⟩

theorem word_ne (written : Written) : written.word ≠ "--" := by
  cases written with
  | bare setting _ =>
    show setting.flag ≠ "--"
    cases setting <;> decide +kernel
  | assigned setting _ text =>
    intro same
    have holds : '=' ∈ (setting.flag ++ "=" ++ text).toList := by simp
    have free : '=' ∉ "--".toList := by decide
    exact free (same ▸ holds)

/-- An option is found under its full name. -/
theorem exactly?_word (written : Written) :
    exactly? Setting.grammar written.word = some written.token := by
  cases written with
  | bare setting alone =>
    rw [word, exactly?, setting.named?_flag]
    rfl
  | assigned setting taken text =>
    have characters : (setting.flag ++ "=" ++ text).toList =
        setting.flag.toList ++ '=' :: text.toList := by simp
    have unnamed : named? Setting.grammar (setting.flag ++ "=" ++ text) = none :=
      Setting.named?_eq_none (by simp)
    rw [word, exactly?, unnamed, characters, Text.splitFirst_append setting.equals_not_mem_flag]
    simp only [String.ofList_toList, setting.named?_flag]
    rfl

theorem classify_word (written : Written) :
    classify Setting.grammar written.word = .ok written.token := by
  obtain ⟨rest, characters⟩ := written.word_toList
  rw [classify, characters]
  simp only [exactly?_word]

/-- The word of an option holds that option and no other. -/
theorem optionsOf_token (written : Written) :
    optionsOf Setting.grammar written.setting.form written.setting.flag written.argument =
      .ok [(written.setting.form, written.argument)] := by
  cases written with
  | bare setting alone => rfl
  | assigned setting taken text =>
    show bundle Setting.grammar setting.form (isShort setting.flag) text.toList = _
    rw [bundle.eq_def, if_pos taken, String.ofList_toList]
    rfl

/-- No option waits for the next word. -/
theorem lacking?_token (written : Written) :
    lacking? [(written.setting.form, written.argument)] = none := by
  cases written with
  | bare setting alone =>
    show (if setting.form.takesArgument then some setting.form else none) = none
    rw [alone]
    rfl
  | assigned setting taken text => rfl

/-! ## Reading -/

/-- What was read, after one more option. -/
def note (given : Given Setting) (written : Written) : Given Setting :=
  given.noted written.setting written.argument

/-- An argument that has to be a number is one. -/
def Readable (written : Written) : Prop :=
  written.setting.kind = .number →
    ∃ number, written.value?.mapM Decimal.readInteger = .ok number

/-- Options that are written in full are noted one after another. -/
theorem consume_tokens {options : List Written} {rest : List (Token Setting)}
    {given result : Given Setting}
    (ok : consume Setting.grammar (options.map token ++ rest) given = .ok result) :
    consume Setting.grammar rest (options.foldl note given) = .ok result ∧
      ∀ written ∈ options, written.Readable := by
  induction options generalizing given with
  | nil => exact ⟨ok, nofun⟩
  | cons written options ih =>
    rw [List.map_cons, List.cons_append, token, consume.eq_def] at ok
    simp only [optionsOf_token, lacking?_token, actAll, List.foldlM_cons, List.foldlM_nil] at ok
    obtain ⟨acted, acting, ok⟩ := ok_of_bind ok
    obtain ⟨_, acting, same⟩ := ok_of_bind acting
    cases same
    obtain ⟨rfl, readable⟩ := Given.act_ok acting
    obtain ⟨consumed, readableLater⟩ := ih ok
    exact ⟨consumed, List.forall_mem_cons.mpr ⟨readable, readableLater⟩⟩

/-- Options are noted in their order. They end no group that has not begun. -/
theorem foldl_note (options : List Written) (given : Given Setting) :
    (options.foldl note given).options =
        given.options ++ options.map (fun written => (written.setting, written.value?)) ∧
      (options.foldl note given).words = given.words ∧
      (options.foldl note given).extras = given.extras ∧
      (given.group = .awaited → (options.foldl note given).group = .awaited) := by
  induction options generalizing given with
  | nil => simp
  | cons written options ih =>
    obtain ⟨noted, words, extras, group⟩ := ih (note given written)
    rw [List.foldl_cons, noted, words, extras]
    refine ⟨by simp [note, Given.noted, value?], rfl, rfl, fun awaited => group ?_⟩
    simp [note, Given.noted, Given.interrupted, awaited]

end Written

/-- The reader takes a word for no option. -/
def IsOperand (word : String) : Prop := classify Setting.grammar word = .ok (.plain word)

/-- A word without a dash in front is no option. -/
theorem isOperand_of_head {word : String} (noDash : word.toList.head? ≠ some '-') :
    IsOperand word := by
  unfold IsOperand classify
  split
  case h_1 second rest characters =>
    rw [characters] at noDash
    exact absurd rfl noDash
  case h_2 => rfl

theorem IsOperand.word_ne {word : String} (operand : IsOperand word) : word ≠ "--" := by
  rintro rfl
  have ambiguous : (classify Setting.grammar "--").toOption.isNone = true := by decide +kernel
  rw [operand] at ambiguous
  cases ambiguous

/-- The words of a command line of options in full around one group are told apart one by one. -/
theorem classifyAll_written {before after : List Written} {words : List String}
    {tokens : List (Token Setting)} (operands : ∀ word ∈ words, IsOperand word)
    (ok : classifyAll Setting.grammar
      (before.map Written.word ++ (words ++ after.map Written.word)) = .ok tokens) :
    tokens = before.map Written.token ++ (words.map .plain ++ after.map Written.token) := by
  have isOption (options : List Written) : ∀ written ∈ options, written.word ≠ "--" ∧
      classify Setting.grammar written.word = .ok written.token :=
    fun written _ => ⟨written.word_ne, written.classify_word⟩
  have isPlain : ∀ word ∈ words, id word ≠ "--" ∧
      classify Setting.grammar (id word) = .ok (.plain word) :=
    fun word listed => ⟨(operands word listed).word_ne, operands word listed⟩
  obtain ⟨others, later, rfl⟩ := classifyAll_append (isOption before) ok
  have ofWords : classifyAll Setting.grammar
      (words.map id ++ after.map Written.word) = .ok others := by rwa [List.map_id]
  obtain ⟨last, ofAfter, rfl⟩ := classifyAll_append isPlain ofWords
  rw [← List.append_nil (after.map Written.word)] at ofAfter
  obtain ⟨none, atEnd, rfl⟩ := classifyAll_append (isOption after) ofAfter
  cases atEnd
  rw [List.append_nil]

/-- Options that are written in full around one group of other words are read as they stand. -/
theorem read_written {before after : List Written} {words : List String} {given : Given Setting}
    (operands : ∀ word ∈ words, IsOperand word)
    (ok : CommandLine.read Setting.grammar
      (before.map Written.word ++ (words ++ after.map Written.word)) = .ok given) :
    given.options = (before ++ after).map (fun written => (written.setting, written.value?)) ∧
      given.words = words ∧ ∀ written ∈ before ++ after, written.Readable := by
  obtain ⟨tokens, classified, ok⟩ := ok_of_bind ok
  obtain ⟨final, consumed, ok⟩ := ok_of_bind ok
  have isFinal : final = given := by
    split at ok
    · exact Except.ok.inj ok
    · cases ok
  subst isFinal
  obtain rfl := classifyAll_written operands (ok_of_mapError classified)
  obtain ⟨consumed, readableBefore⟩ := Written.consume_tokens consumed
  rw [consume_plain, ← List.append_nil (after.map Written.token)] at consumed
  obtain ⟨consumed, readableAfter⟩ := Written.consume_tokens consumed
  rw [consume.eq_def] at consumed
  obtain ⟨noted, noWords, _, awaited⟩ := Written.foldl_note before {}
  have unfinished : (before.foldl Written.note {}).group ≠ .over := by simp [awaited]
  obtain ⟨kept, gathered, _⟩ := Given.foldl_plain words unfinished
  obtain ⟨notedAll, wordsAll, _⟩ :=
    Written.foldl_note after (words.foldl Given.plain (before.foldl Written.note {}))
  rw [← Except.ok.inj consumed, notedAll, wordsAll, kept, gathered, noted, noWords]
  refine ⟨by simp, rfl, fun written listed => ?_⟩
  obtain inBefore | inAfter := List.mem_append.mp listed
  · exact readableBefore written inBefore
  · exact readableAfter written inAfter

end Evacuation
