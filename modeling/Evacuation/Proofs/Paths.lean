import Evacuation.Program
/-!
# Paths through programs

A path is a sequence of requests with the replies they got, and it leads from a program to what is
left of it. Surroundings of every kind, also those that change their mind, lead a program along a
path, so a statement about all paths holds of all runs. The main statement splits a path through a
sequence of programs (`Reaches.of_bind`): either the first one is not yet done, or the path goes
through all of it and on into the second. Four predicates on programs say what all paths have in
common: what may be asked at all (`Only`), what may be asked right after what (`OnlyAfter`), and if
the replies are of some kind, what may be asked (`OnlyWhile`) and what comes of it (`Ensures`).
-/
namespace Evacuation

/-- A request with the reply it got. -/
structure Exchange (I : Interface) where
  request : I.Request
  reply : I.Reply request

namespace Program

variable {I : Interface} {α β : Type}

/-- What is left of a program after exchanges with its surroundings. -/
inductive Reaches : Program I α → List (Exchange I) → Program I α → Prop where
  | here (program : Program I α) : Reaches program [] program
  | next {request : I.Request} {next : I.Reply request → Program I α} {rest : Program I α}
      {path : List (Exchange I)} (reply : I.Reply request) (onward : Reaches (next reply) path rest) :
      Reaches (ask request next) (⟨request, reply⟩ :: path) rest

/-- The exchanges of a program with given surroundings. -/
def course {σ : Type} (surroundings : Surroundings I σ) : Program I α → σ → List (Exchange I)
  | done _, _ => []
  | ask request next, state =>
    let reply := surroundings request state
    ⟨request, reply.1⟩ :: course surroundings (next reply.1) reply.2

/-- A program that is done goes no further. -/
@[simp] theorem reaches_done_iff {value : α} {path : List (Exchange I)} {rest : Program I α} :
    Reaches (done value) path rest ↔ path = [] ∧ rest = done value := by
  constructor
  · intro reached
    cases reached
    exact ⟨rfl, rfl⟩
  · rintro ⟨rfl, rfl⟩
    exact .here _

/-- A program that asks either has not yet asked or goes on with some reply. -/
theorem reaches_ask_iff {request : I.Request} {next : I.Reply request → Program I α}
    {path : List (Exchange I)} {rest : Program I α} :
    Reaches (ask request next) path rest ↔
      path = [] ∧ rest = ask request next ∨
        ∃ reply onward, path = ⟨request, reply⟩ :: onward ∧ Reaches (next reply) onward rest := by
  constructor
  · intro reached
    cases reached with
    | here => exact .inl ⟨rfl, rfl⟩
    | next reply onward => exact .inr ⟨reply, _, rfl, onward⟩
  · rintro (⟨rfl, rfl⟩ | ⟨reply, onward, rfl, reached⟩)
    · exact .here _
    · exact .next reply reached

namespace Reaches

/-- A path goes on with a path. -/
theorem trans {program middle rest : Program I α} {first second : List (Exchange I)}
    (start : Reaches program first middle) (onward : Reaches middle second rest) :
    Reaches program (first ++ second) rest := by
  induction start with
  | here => exact onward
  | next reply _ ih => exact .next reply (ih onward)

/-- A path goes on with one more exchange. -/
theorem snoc {program : Program I α} {path : List (Exchange I)} {request : I.Request}
    {next : I.Reply request → Program I α} (start : Reaches program path (ask request next))
    (reply : I.Reply request) : Reaches program (path ++ [⟨request, reply⟩]) (next reply) :=
  start.trans (.next reply (.here _))

/-- A path in two parts passes by what was left of the program between them. -/
theorem split {program rest : Program I α} {first second : List (Exchange I)}
    (reached : Reaches program (first ++ second) rest) :
    ∃ middle, Reaches program first middle ∧ Reaches middle second rest := by
  induction first generalizing program with
  | nil => exact ⟨program, .here _, reached⟩
  | cons exchange first ih =>
    cases reached with
    | next reply onward =>
      obtain ⟨middle, before, after⟩ := ih onward
      exact ⟨middle, .next reply before, after⟩

/-- A path through a sequence of programs ends in the first one, or goes through it into the
second. -/
theorem of_bind {program : Program I α} {onward : α → Program I β} {path : List (Exchange I)}
    {rest : Program I β} (reached : Reaches (program.bind onward) path rest) :
    (∃ left, Reaches program path left ∧ rest = left.bind onward) ∨
      ∃ first second value, path = first ++ second ∧ Reaches program first (done value) ∧
        Reaches (onward value) second rest := by
  induction program generalizing path with
  | done value => exact .inr ⟨[], path, value, rfl, .here _, reached⟩
  | ask request next ih =>
    rw [ask_bind, reaches_ask_iff] at reached
    obtain ⟨rfl, rfl⟩ | ⟨reply, tail, rfl, reached⟩ := reached
    · exact .inl ⟨_, .here _, rfl⟩
    · obtain ⟨left, before, rfl⟩ | ⟨first, second, value, rfl, before, after⟩ := ih reply reached
      · exact .inl ⟨left, .next reply before, rfl⟩
      · exact .inr ⟨_ :: first, second, value, rfl, .next reply before, after⟩

/-- If the path ends where the sequence asks, then the first program asks there, or is done. -/
theorem of_bind_ask {program : Program I α} {onward : α → Program I β} {path : List (Exchange I)}
    {request : I.Request} {next : I.Reply request → Program I β}
    (reached : Reaches (program.bind onward) path (ask request next)) :
    (∃ before, Reaches program path (ask request before)) ∨
      ∃ first second value, path = first ++ second ∧ Reaches program first (done value) ∧
        Reaches (onward value) second (ask request next) := by
  obtain ⟨left, before, same⟩ | through := reached.of_bind
  · cases left with
    | done value =>
      refine .inr ⟨path, [], value, (List.append_nil path).symm, before, ?_⟩
      rw [same]
      exact .here _
    | ask request' next' =>
      cases same
      exact .inl ⟨_, before⟩
  · exact .inr through

/-- If the path ends where the sequence is done, it went through both programs. -/
theorem of_bind_done {program : Program I α} {onward : α → Program I β} {path : List (Exchange I)}
    {result : β} (reached : Reaches (program.bind onward) path (done result)) :
    ∃ first second value, path = first ++ second ∧ Reaches program first (done value) ∧
      Reaches (onward value) second (done result) := by
  obtain ⟨left, before, same⟩ | through := reached.of_bind
  · cases left with
    | done value =>
      refine ⟨path, [], value, (List.append_nil path).symm, before, ?_⟩
      rw [same]
      exact .here _
    | ask request next => cases same
  · exact through

/-- A program that is done somewhere along a path goes no further. -/
theorem of_done {program rest : Program I α} {first second : List (Exchange I)} {value : α}
    (ended : Reaches program first (done value)) (reached : Reaches program (first ++ second) rest) :
    second = [] ∧ rest = done value := by
  induction first generalizing program with
  | nil =>
    cases ended
    exact reaches_done_iff.mp reached
  | cons exchange first ih =>
    cases ended with
    | next reply onward =>
    cases reached with
    | next _ further => exact ih onward further

/-- A path through a program goes on with a path through what follows it. -/
theorem bind {program : Program I α} {onward : α → Program I β} {first second : List (Exchange I)}
    {value : α} {rest : Program I β} (before : Reaches program first (done value))
    (after : Reaches (onward value) second rest) :
    Reaches (program.bind onward) (first ++ second) rest := by
  induction first generalizing program with
  | nil =>
    cases before
    exact after
  | cons exchange first ih =>
    cases before with
    | next reply going => exact .next reply (ih going)

/-- In any surroundings a program goes along its course to its value. -/
theorem course {σ : Type} (surroundings : Surroundings I σ) (program : Program I α) (state : σ) :
    Reaches program (program.course surroundings state)
      (done (program.run surroundings state).1) := by
  induction program generalizing state with
  | done value => exact .here _
  | ask request next ih =>
    exact .next _ (ih (surroundings request state).1 (surroundings request state).2)

/-- In any surroundings a program goes along some path to its value. -/
theorem of_run {σ : Type} (surroundings : Surroundings I σ) (program : Program I α) (state : σ) :
    ∃ path, Reaches program path (done (program.run surroundings state).1) :=
  ⟨_, course surroundings program state⟩

/-- If the path ends where a program that asks is done, it was replied to. -/
theorem of_ask_done {request : I.Request} {next : I.Reply request → Program I α}
    {path : List (Exchange I)} {result : α}
    (reached : Reaches (ask request next) path (done result)) :
    ∃ reply onward, path = ⟨request, reply⟩ :: onward ∧
      Reaches (next reply) onward (done result) := by
  obtain ⟨_, same⟩ | replied := reaches_ask_iff.mp reached
  · cases same
  · exact replied

/-- The path through one request is its exchange. -/
theorem of_request {request : I.Request} {path : List (Exchange I)} {reply : I.Reply request}
    (reached : Reaches (Program.request request) path (done reply)) : path = [⟨request, reply⟩] := by
  obtain ⟨given, tail, rfl, ended⟩ := of_ask_done reached
  obtain ⟨rfl, same⟩ := reaches_done_iff.mp ended
  cases same
  rfl

end Reaches

/-- A program of which only the value is turned into another one goes its own way. -/
theorem reaches_map_iff {program : Program I α} {turn : α → β} {path : List (Exchange I)}
    {result : β} : Reaches (program.bind fun value => done (turn value)) path (done result) ↔
      ∃ value, Reaches program path (done value) ∧ turn value = result := by
  constructor
  · intro reached
    obtain ⟨first, second, value, rfl, before, ended⟩ := reached.of_bind_done
    obtain ⟨rfl, same⟩ := reaches_done_iff.mp ended
    rw [List.append_nil]
    exact ⟨value, before, (done.inj same).symm⟩
  · rintro ⟨value, before, rfl⟩
    rw [← List.append_nil path]
    exact before.bind (.here _)

/-- Whatever the replies, a program asks only for what is allowed. -/
def Only (allowed : I.Request → Prop) : Program I α → Prop
  | done _ => True
  | ask request next => allowed request ∧ ∀ reply, Only allowed (next reply)

namespace Only

variable {allowed : I.Request → Prop}

theorem bind {program : Program I α} {onward : α → Program I β} (first : Only allowed program)
    (second : ∀ value, Only allowed (onward value)) : Only allowed (program.bind onward) := by
  induction program with
  | done value => exact second value
  | ask request next ih => exact ⟨first.1, fun reply => ih reply (first.2 reply)⟩

theorem mono {wider : I.Request → Prop} {program : Program I α} (only : Only allowed program)
    (within : ∀ request, allowed request → wider request) : Only wider program := by
  induction program with
  | done value => trivial
  | ask request next ih => exact ⟨within request only.1, fun reply => ih reply (only.2 reply)⟩

/-- What was asked along a path is allowed. -/
theorem of_mem_path {program rest : Program I α} {path : List (Exchange I)} {exchange : Exchange I}
    (only : Only allowed program) (reached : Reaches program path rest) (asked : exchange ∈ path) :
    allowed exchange.request := by
  induction reached with
  | here => cases asked
  | next reply _ ih =>
    obtain rfl | later := List.mem_cons.mp asked
    · exact only.1
    · exact ih (only.2 reply) later

/-- What is asked on some path is allowed. -/
theorem of_reaches {program : Program I α} {path : List (Exchange I)} {request : I.Request}
    {next : I.Reply request → Program I α} (only : Only allowed program)
    (reached : Reaches program path (ask request next)) : allowed request := by
  induction path generalizing program with
  | nil =>
    cases reached
    exact only.1
  | cons exchange path ih =>
    cases reached with
    | next reply onward => exact ih (only.2 reply) onward

end Only

/-- Whatever the replies, a program asks for each thing only right after an exchange that allows it.
The exchange before the program begins is given, if there was one. -/
def OnlyAfter (allowed : Option (Exchange I) → I.Request → Prop) :
    Option (Exchange I) → Program I α → Prop
  | _, done _ => True
  | last, ask request next =>
    allowed last request ∧ ∀ reply, OnlyAfter allowed (some ⟨request, reply⟩) (next reply)

namespace OnlyAfter

variable {allowed : Option (Exchange I) → I.Request → Prop} {last : Option (Exchange I)}

theorem bind {program : Program I α} {onward : α → Program I β}
    (first : OnlyAfter allowed last program)
    (second : ∀ value last, OnlyAfter allowed last (onward value)) :
    OnlyAfter allowed last (program.bind onward) := by
  induction program generalizing last with
  | done value => exact second value last
  | ask request next ih => exact ⟨first.1, fun reply => ih reply (first.2 reply)⟩

/-- What is allowed at any time is allowed right after any exchange. -/
theorem of_only {program : Program I α} (only : Only (fun request => ∀ last, allowed last request) program)
    (last : Option (Exchange I)) : OnlyAfter allowed last program := by
  induction program generalizing last with
  | done value => trivial
  | ask request next ih => exact ⟨only.1 last, fun reply => ih reply (only.2 reply) _⟩

/-- What is asked on some path is allowed right after the last exchange of the path. -/
theorem of_reaches {program : Program I α} {path : List (Exchange I)} {request : I.Request}
    {next : I.Reply request → Program I α} (after : OnlyAfter allowed last program)
    (reached : Reaches program path (ask request next)) : allowed (path.getLast?.or last) request := by
  induction path generalizing program last with
  | nil =>
    cases reached
    exact after.1
  | cons exchange path ih =>
    cases reached with
    | next reply onward =>
      have allows := ih (after.2 reply) onward
      rw [List.getLast?_cons]
      cases ended : path.getLast? <;> rwa [ended] at allows

end OnlyAfter

/-- As long as the replies are as they are taken to be, a program asks only for what is allowed. -/
def OnlyWhile (taken : Exchange I → Prop) (allowed : I.Request → Prop) : Program I α → Prop
  | done _ => True
  | ask request next =>
    allowed request ∧ ∀ reply, taken ⟨request, reply⟩ → OnlyWhile taken allowed (next reply)

namespace OnlyWhile

variable {taken : Exchange I → Prop} {allowed : I.Request → Prop}

theorem bind {program : Program I α} {onward : α → Program I β}
    (first : OnlyWhile taken allowed program)
    (second : ∀ value, OnlyWhile taken allowed (onward value)) :
    OnlyWhile taken allowed (program.bind onward) := by
  induction program with
  | done value => exact second value
  | ask request next ih =>
    exact ⟨first.1, fun reply usual => ih reply (first.2 reply usual)⟩

/-- What is allowed whatever the replies are is allowed. -/
theorem of_only {program : Program I α} (only : Only allowed program) :
    OnlyWhile taken allowed program := by
  induction program with
  | done value => trivial
  | ask request next ih => exact ⟨only.1, fun reply _ => ih reply (only.2 reply)⟩

/-- What was asked along such a path is allowed. -/
theorem of_mem_path {program rest : Program I α} {path : List (Exchange I)} {exchange : Exchange I}
    (only : OnlyWhile taken allowed program) (reached : Reaches program path rest)
    (usual : ∀ exchange ∈ path, taken exchange) (asked : exchange ∈ path) :
    allowed exchange.request := by
  induction reached with
  | here => cases asked
  | next reply _ ih =>
    obtain rfl | later := List.mem_cons.mp asked
    · exact only.1
    · have first := usual _ List.mem_cons_self
      have onward := only.2 reply first
      exact ih onward (fun exchange there => usual exchange (List.mem_cons_of_mem _ there)) later

end OnlyWhile

/-- Along every path on which the replies are as they are taken to be, the program comes to a value
that is wanted. -/
def Ensures (taken : Exchange I → Prop) (wanted : α → Prop) : Program I α → Prop
  | done value => wanted value
  | ask request next =>
    ∀ reply, taken ⟨request, reply⟩ → Ensures taken wanted (next reply)

namespace Ensures

variable {taken : Exchange I → Prop} {wanted : α → Prop} {goal : β → Prop}

theorem bind {program : Program I α} {onward : α → Program I β}
    (first : Ensures taken wanted program)
    (second : ∀ value, wanted value → Ensures taken goal (onward value)) :
    Ensures taken goal (program.bind onward) := by
  induction program with
  | done value => exact second value first
  | ask request next ih => exact fun reply usual => ih reply (first reply usual)

/-- What a program comes to on such a path is wanted. -/
theorem of_reaches {program : Program I α} {path : List (Exchange I)} {value : α}
    (ensures : Ensures taken wanted program) (reached : Reaches program path (done value))
    (usual : ∀ exchange ∈ path, taken exchange) : wanted value := by
  induction path generalizing program with
  | nil =>
    cases reached
    exact ensures
  | cons exchange path ih =>
    cases reached with
    | next reply onward =>
      exact ih (ensures reply (usual _ (.head _))) onward fun asked there =>
        usual asked (.tail _ there)

end Ensures

end Program

end Evacuation
