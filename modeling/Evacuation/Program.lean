/-!
# Programs over an interface

A program computes a value and on the way asks its surroundings for what it cannot do itself:
answers of the cluster, the time, a pause. What it may ask, and what type each reply has, is an
`Interface`; a program is a tree of requests with one continuation per reply. The same program
runs in any surroundings (`Program.run`), a sequence of programs one after the other (`run_bind`).
Programs obey the monad laws (`bind_assoc`).
-/
namespace Evacuation

/-- What a program may ask of its surroundings, and the type of each reply. -/
structure Interface where
  Request : Type
  Reply : Request → Type

/-- A computation that asks its surroundings one request after another. -/
inductive Program (I : Interface) (α : Type) : Type where
  | done (value : α)
  | ask (request : I.Request) (next : I.Reply request → Program I α)

/-- Surroundings with a state, as the reply to each request and the state after it. -/
abbrev Surroundings (I : Interface) (σ : Type) :=
  (request : I.Request) → σ → I.Reply request × σ

namespace Program

variable {I : Interface} {α β γ σ : Type}

/-- Go on with the value of a program. -/
def bind : Program I α → (α → Program I β) → Program I β
  | done value, rest => rest value
  | ask request next, rest => ask request fun reply => (next reply).bind rest

instance : Monad (Program I) where
  pure := done
  bind := bind

/-- The program that asks one request. -/
def request (r : I.Request) : Program I (I.Reply r) := ask r done

/-- The value of a program in given surroundings, and their state afterwards. -/
def run (surroundings : Surroundings I σ) : Program I α → σ → α × σ
  | done value, state => (value, state)
  | ask r next, state =>
    let reply := surroundings r state
    run surroundings (next reply.1) reply.2

@[simp] theorem pure_eq_done (value : α) : (pure value : Program I α) = done value := rfl

@[simp] theorem bind_eq_bind (program : Program I α) (rest : α → Program I β) :
    program >>= rest = program.bind rest := rfl

@[simp] theorem done_bind (value : α) (rest : α → Program I β) :
    (done value).bind rest = rest value := rfl

@[simp] theorem ask_bind (r : I.Request) (next : I.Reply r → Program I α)
    (rest : α → Program I β) : (ask r next).bind rest = ask r fun reply => (next reply).bind rest :=
  rfl

@[simp] theorem request_bind (r : I.Request) (rest : I.Reply r → Program I β) :
    (request r).bind rest = ask r rest := rfl

@[simp] theorem bind_done (program : Program I α) : program.bind done = program := by
  induction program with
  | done value => rfl
  | ask r next ih => simp [ih]

@[simp] theorem bind_assoc (program : Program I α) (f : α → Program I β) (g : β → Program I γ) :
    (program.bind f).bind g = program.bind fun value => (f value).bind g := by
  induction program with
  | done value => rfl
  | ask r next ih => simp [ih]

@[simp] theorem run_done (surroundings : Surroundings I σ) (value : α) (state : σ) :
    (done value : Program I α).run surroundings state = (value, state) := rfl

@[simp] theorem run_ask (surroundings : Surroundings I σ) (r : I.Request)
    (next : I.Reply r → Program I α) (state : σ) :
    (ask r next).run surroundings state =
      (next (surroundings r state).1).run surroundings (surroundings r state).2 := rfl

/-- A sequence of programs runs one after the other. -/
@[simp] theorem run_bind (surroundings : Surroundings I σ) (program : Program I α)
    (rest : α → Program I β) (state : σ) :
    (program.bind rest).run surroundings state =
      (rest (program.run surroundings state).1).run surroundings
        (program.run surroundings state).2 := by
  induction program generalizing state with
  | done value => rfl
  | ask r next ih => simp [ih]

instance : LawfulMonad (Program I) :=
  .mk' _ (fun program => bind_done program) (fun _ _ => rfl) bind_assoc

end Program

end Evacuation
