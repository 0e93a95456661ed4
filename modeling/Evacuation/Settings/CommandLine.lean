import Evacuation.Decimal.Integer
import Evacuation.Text.Split
/-!
# Command lines

A command line consists of options and other arguments. An option has names of one letter after
one dash, or of several letters after two; a name of the second sort may be cut short as long as
only one option is meant. An option that takes an argument has it after an equals sign or as the
next word; options of one letter that take none may be written together. A word that starts with
a dash is no option if it is a negative number or holds a blank, and after a bare double dash no
word is one. Other arguments have to stand together: only the first group of them is read, and any
later one is reported as not recognized, as is an unknown option. An argument that is itself a bare
double dash is dropped, so that its option is given without a value.

All words are told apart before any of them is acted on, so an ambiguous option is reported first.
-/
namespace Evacuation.CommandLine

/-- What an option takes and does. -/
inductive Kind where
  /-- It shows the help and ends the program. -/
  | help
  | flag
  | value
  | number
  deriving DecidableEq, Repr

/-- An option with its names. -/
structure Form (O : Type) where
  option : O
  names : List String
  kind : Kind

/-- The option takes an argument. -/
def Form.takesArgument {O : Type} (form : Form O) : Bool :=
  match form.kind with
  | .value | .number => true
  | .help | .flag => false

/-- The options of a program, in the order in which they are listed. -/
abbrev Grammar (O : Type) := List (Form O)

/-- What is wrong with a command line. Options are given by all their names. -/
inductive UsageError where
  | ambiguous (written : String) (candidates : List String)
  | ignored (names : List String) (argument : String)
  | missingArgument (names : List String)
  | invalidNumber (names : List String) (argument : String)
  | unrecognized (words : List String)
  deriving DecidableEq, Repr

/-- The text that reports an error about an option. -/
def aboutOption (names : List String) (report : String) : String :=
  "argument " ++ "/".intercalate names ++ ": " ++ report

/-- The text that reports a wrong command line. -/
def UsageError.message : UsageError → String
  | .ambiguous written candidates =>
    "ambiguous option: " ++ written ++ " could match " ++ ", ".intercalate candidates
  | .ignored names argument => aboutOption names s!"ignored explicit argument {Text.quoted argument}"
  | .missingArgument names => aboutOption names "expected one argument"
  | .invalidNumber names argument => aboutOption names s!"invalid int value: {Text.quoted argument}"
  | .unrecognized words => "unrecognized arguments: " ++ " ".intercalate words

/-- Why reading a command line ended early. -/
inductive Stop where
  | help
  | usage (error : UsageError)
  deriving DecidableEq, Repr

/-! ## Telling words apart -/

/-- A word of a command line. -/
inductive Token (O : Type) where
  | plain (text : String)
  /-- The bare double dash. -/
  | separator
  /-- An option under one of its names, with an argument after an equals sign or its name. -/
  | known (form : Form O) (name : String) (argument : Option String)
  | unknown (text : String)

variable {O : Type}

/-- All names with their options, in order. -/
def names (grammar : Grammar O) : List (String × Form O) :=
  grammar.flatMap fun form => form.names.map (·, form)

/-- The option with a name. -/
def named? (grammar : Grammar O) (name : String) : Option (Form O) :=
  ((names grammar).find? (·.1 == name)).map (·.2)

/-- A negative number in decimal digits of any script, with or without a point. One line feed at
its end is allowed. -/
def isNegativeNumber (text : List Char) : Bool :=
  match text with
  | '-' :: rest =>
    let digits := if rest.getLast? = some '\n' then rest.dropLast else rest
    match Text.splitFirst '.' digits with
    | none => !digits.isEmpty && digits.all Text.isDecimal
    | some (whole, fraction) =>
      whole.all Text.isDecimal && !fraction.isEmpty && fraction.all Text.isDecimal
  | _ => false

/-- One text begins with another. -/
def begins (beginning text : List Char) : Bool := (Text.dropStart? beginning text).isSome

/-- The options that a word with two dashes may mean. -/
def longCandidates (grammar : Grammar O) (word : List Char) :
    List (String × Form O × Option String) :=
  let (beginning, argument) :=
    match Text.splitFirst '=' word with
    | some (front, back) => (front, some (String.ofList back))
    | none => (word, none)
  (names grammar).filterMap fun entry =>
    if begins beginning entry.1.toList then some (entry.1, entry.2, argument) else none

/-- The options that a word with one dash may mean. -/
def shortCandidates (grammar : Grammar O) (word : List Char) :
    List (String × Form O × Option String) :=
  (names grammar).filterMap fun entry =>
    if entry.1.toList = word.take 2 then some (entry.1, entry.2, some (String.ofList (word.drop 2)))
    else if begins word entry.1.toList then some (entry.1, entry.2, none)
    else none

/-- The options that a word may mean which is not the name of one. -/
def candidates (grammar : Grammar O) (word : List Char) : List (String × Form O × Option String) :=
  match word with
  | '-' :: '-' :: _ => longCandidates grammar word
  | _ => shortCandidates grammar word

/-- An option by its full name, alone or before an equals sign. -/
def exactly? (grammar : Grammar O) (word : String) : Option (Token O) :=
  match named? grammar word with
  | some form => some (.known form word none)
  | none =>
    match Text.splitFirst '=' word.toList with
    | none => none
    | some (front, back) =>
      (named? grammar (String.ofList front)).map fun form =>
        .known form (String.ofList front) (some (String.ofList back))

/-- Tell what a word is. -/
def classify (grammar : Grammar O) (word : String) : Except UsageError (Token O) :=
  match word.toList with
  | '-' :: second :: rest =>
    match exactly? grammar word with
    | some token => .ok token
    | none =>
      match candidates grammar ('-' :: second :: rest) with
      | [(name, form, argument)] => .ok (.known form name argument)
      | first :: others => .error (.ambiguous word ((first :: others).map (·.1)))
      | [] =>
        if isNegativeNumber word.toList || word.toList.contains ' ' then .ok (.plain word)
        else .ok (.unknown word)
  | _ => .ok (.plain word)

/-- Tell all words apart. -/
def classifyAll (grammar : Grammar O) : List String → Except UsageError (List (Token O))
  | [] => .ok []
  | word :: rest =>
    if word = "--" then .ok (.separator :: rest.map .plain)
    else do
      let token ← classify grammar word
      return token :: (← classifyAll grammar rest)

/-! ## Acting on the words -/

/-- How far the group of other arguments has come. -/
inductive Group where
  | awaited
  | gathering
  | over
  deriving DecidableEq, Repr

/-- What was read of a command line. -/
structure Given (O : Type) where
  /-- The options, in their order, with the values that they were given. -/
  options : List (O × Option String) := []
  /-- The first group of other arguments. -/
  words : List String := []
  group : Group := .awaited
  /-- What was not recognized. -/
  extras : List String := []

namespace Given

/-- The group of other arguments ends where an option stands. -/
def interrupted (given : Given O) : Given O :=
  { given with group := match given.group with
      | .awaited => .awaited
      | .gathering | .over => .over }

/-- After a word that is no option. -/
def plain (given : Given O) (text : String) : Given O :=
  match given.group with
  | .over => { given with extras := given.extras ++ [text] }
  | .awaited | .gathering => { given with words := given.words ++ [text], group := .gathering }

/-- After the bare double dash, which belongs to the group but is no argument. -/
def separator (given : Given O) : Given O :=
  match given.group with
  | .over => { given with extras := given.extras ++ ["--"] }
  | .awaited | .gathering => { given with group := .gathering }

/-- After an unknown option. -/
def unknown (given : Given O) (text : String) : Given O :=
  { given.interrupted with extras := given.extras ++ [text] }

/-- The value that an argument gives: none if it is a bare double dash. -/
def valueOf (argument : Option String) : Option String := argument.filter (· != "--")

/-- Act on one option. -/
def act (given : Given O) (form : Form O) (argument : Option String) : Except Stop (Given O) :=
  let value := valueOf argument
  let done : Given O :=
    { given.interrupted with options := given.options ++ [(form.option, value)] }
  match form.kind, value with
  | .help, _ => .error .help
  | .flag, _ | .value, _ | .number, none => .ok done
  | .number, some text =>
    match Decimal.readInteger text with
    | .ok _ => .ok done
    | .error _ => .error (.usage (.invalidNumber form.names text))

end Given

/-- The options written together in one word: an option, and what stands behind its name. Each one
but the last takes no argument. -/
def bundle (grammar : Grammar O) (form : Form O) (short : Bool) (argument : List Char) :
    Except UsageError (List (Form O × Option String)) :=
  if form.takesArgument then .ok [(form, some (String.ofList argument))]
  else
    match argument with
    | [] => .error (.ignored form.names "")
    | letter :: more =>
      let refused : UsageError := .ignored form.names (String.ofList (letter :: more))
      if !short then .error refused
      else
        match named? grammar (String.ofList ['-', letter]) with
        | none => .error refused
        | some next =>
          match more with
          | [] => .ok [(form, none), (next, none)]
          | c :: others => do return (form, none) :: (← bundle grammar next short (c :: others))
termination_by argument.length

/-- A name with one dash. -/
def isShort (name : String) : Bool :=
  match name.toList with
  | '-' :: '-' :: _ => false
  | _ => true

/-- The options in a word that is one. -/
def optionsOf (grammar : Grammar O) (form : Form O) (name : String) (argument : Option String) :
    Except UsageError (List (Form O × Option String)) :=
  match argument with
  | none => .ok [(form, none)]
  | some text => bundle grammar form (isShort name) text.toList

/-- The last of some options lacks its argument. -/
def lacking? (options : List (Form O × Option String)) : Option (Form O) :=
  match options.getLast? with
  | some (form, none) => if form.takesArgument then some form else none
  | _ => none

/-- The options with the argument that the last one lacked. -/
def supply (options : List (Form O × Option String)) (argument : String) :
    List (Form O × Option String) :=
  match options.getLast? with
  | some (form, _) => options.dropLast ++ [(form, some argument)]
  | none => []

/-- Act on options one after another. -/
def actAll (given : Given O) (options : List (Form O × Option String)) : Except Stop (Given O) :=
  options.foldlM (fun given option => given.act option.1 option.2) given

/-- Act on words one after another. -/
def consume (grammar : Grammar O) : List (Token O) → Given O → Except Stop (Given O)
  | [], given => .ok given
  | .plain text :: rest, given => consume grammar rest (given.plain text)
  | .separator :: rest, given => consume grammar rest given.separator
  | .unknown text :: rest, given => consume grammar rest (given.unknown text)
  | .known form name argument :: rest, given =>
    match optionsOf grammar form name argument with
    | .error error => .error (.usage error)
    | .ok options =>
      match lacking? options, rest with
      | none, rest => do consume grammar rest (← actAll given options)
      | some _, .plain text :: rest => do consume grammar rest (← actAll given (supply options text))
      | some form, _ => .error (.usage (.missingArgument form.names))
termination_by tokens => tokens.length

/-- Read a command line. -/
def read (grammar : Grammar O) (words : List String) : Except Stop (Given O) := do
  let tokens ← (classifyAll grammar words).mapError Stop.usage
  let given ← consume grammar tokens {}
  if given.extras.isEmpty then return given else .error (.usage (.unrecognized given.extras))

end Evacuation.CommandLine
