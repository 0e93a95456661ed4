import Mathlib.Data.List.Forall2
import Mathlib.Algebra.BigOperators.Group.List.Basic
import Mathlib.Algebra.Ring.Nat
import Evacuation.Drain.WorkerPool
import Evacuation.Proofs.Paths
/-!
# Work done side by side

A pool has a number of workers, and each worker goes on with one piece of work, whatever the others
do meanwhile. A piece of work begins when a worker is free, every request of it is answered on its
own, and the results are reported in any order. `Pool.Does` says that pieces of work were done like
this along a path. Nothing is lost in between: the path is shared out among the pieces of work, each
of which goes its own way to its own result (`Pool.Does.shares`).

A worker pool does its work one piece after another and reports the results in the order of the
times at which they would have ended. That is one of the ways in which the work can be done side by
side (`WorkerPool.does_of_reaches`).
-/
namespace Evacuation

variable {T α : Type}

/-- A program that is done. -/
def Program.isDone {I : Interface} : Program I α → Bool
  | .done _ => true
  | .ask _ _ => false

/-- The request is made by a pool on its own account. -/
def World.Request.isManagement : World.Request T → Bool
  | .clock | .openPool _ _ | .resume _ _ | .closePool _ => true
  | _ => false

/-- A piece of work in a pool, with what it was answered so far and what is left of it. -/
structure Job (T α : Type) where
  task : Work T α
  begun : Bool := false
  log : List (Exchange (World T)) := []
  left : Work T α := task

namespace Job

/-- A piece of work that was given to a pool. -/
def given (task : Work T α) : Job T α := { task }

/-- A worker is at it. -/
def isBusy (job : Job T α) : Bool := job.begun && !job.left.isDone

/-- The job after it was answered. -/
def answered (job : Job T α) (part : List (Exchange (World T))) (left : Work T α) : Job T α :=
  { job with log := job.log ++ part, left }

/-- The piece of work was done, with a result. -/
structure Ended (job : Job T α) (result : α) : Prop where
  begun : job.begun = true
  left : job.left = .done result

theorem Ended.isBusy_eq {job : Job T α} {result : α} (ended : job.Ended result) :
    job.isBusy = false := by
  rw [isBusy, ended.left]
  exact Bool.and_false _

end Job

namespace Pool

/-- One step in a pool, and what was asked and answered in it. -/
inductive Step (workers : Nat) :
    List (Job T α) → List (Exchange (World T)) → List (Job T α) → Prop where
  /-- A free worker begins a piece of work. -/
  | begin {before after : List (Job T α)} {job : Job T α} (waits : job.begun = false)
      (free : (before ++ job :: after).countP Job.isBusy < workers) :
      Step workers (before ++ job :: after) [] (before ++ { job with begun := true } :: after)
  /-- A piece of work that was begun goes on. -/
  | work {before after : List (Job T α)} {job : Job T α} {request : (World T).Request}
      {next : (World T).Reply request → Work T α} (begun : job.begun = true)
      (asks : job.left = .ask request next) (reply : (World T).Reply request) :
      Step workers (before ++ job :: after) [⟨request, reply⟩]
        (before ++ job.answered [⟨request, reply⟩] (next reply) :: after)
  /-- The pool looks after its workers. -/
  | manage (jobs : List (Job T α)) {exchange : Exchange (World T)}
      (managed : World.Request.isManagement exchange.request = true) : Step workers jobs [exchange] jobs

/-- Steps one after another. -/
inductive Run (workers : Nat) (start : List (Job T α)) :
    List (Exchange (World T)) → List (Job T α) → Prop where
  | here : Run workers start [] start
  | snoc {path part : List (Exchange (World T))} {jobs later : List (Job T α)}
      (run : Run workers start path jobs) (step : Step workers jobs part later) :
      Run workers start (path ++ part) later

variable {workers : Nat}

namespace Run

variable {start jobs later : List (Job T α)} {path part : List (Exchange (World T))}

/-- A run goes on with a run. -/
theorem trans (run : Run workers start path jobs) (onward : Run workers jobs part later) :
    Run workers start (path ++ part) later := by
  induction onward with
  | here => rwa [List.append_nil]
  | snoc _ step ih =>
    rw [← List.append_assoc]
    exact ih.snoc step

/-- A step goes on with a run. -/
theorem of_step (step : Step workers start part jobs) (onward : Run workers jobs path later) :
    Run workers start (part ++ path) later := by
  have first : Run workers start ([] ++ part) jobs := .snoc .here step
  exact first.trans onward

/-- A piece of work that was begun may go all the way while the others wait. -/
theorem work {before after : List (Job T α)} {job : Job T α} {rest : Work T α}
    (begun : job.begun = true) (reached : Program.Reaches job.left path rest) :
    Run workers (before ++ job :: after) path (before ++ job.answered path rest :: after) := by
  obtain ⟨task, began, log, left⟩ := job
  dsimp only at reached
  induction reached generalizing log with
  | here program =>
    simp only [Job.answered, List.append_nil]
    exact .here
  | @next request next rest path reply onward ih =>
    have step : Step workers (before ++ ⟨task, began, log, .ask request next⟩ :: after)
        [⟨request, reply⟩] (before ++ ⟨task, began, log ++ [⟨request, reply⟩], next reply⟩ :: after) :=
      .work begun rfl reply
    have rest := ih (log ++ [⟨request, reply⟩]) begun
    simp only [Job.answered, List.append_assoc] at rest ⊢
    exact of_step step rest

end Run

/-! ## What a run in a pool comes to -/

/-- The exchange is one of a piece of work, and not one that a pool may have on its own account. -/
def isTaskwork (exchange : Exchange (World T)) : Bool :=
  !World.Request.isManagement exchange.request

/-- What was asked and answered along a path is, order apart, what the jobs were answered and what
the pool asked on its own account. -/
structure Logged (path : List (Exchange (World T))) (jobs : List (Job T α)) : Prop where
  /-- Every job went along its log. -/
  reaches {job : Job T α} : job ∈ jobs → Program.Reaches job.task job.log job.left
  taskwork : (path.filter isTaskwork).Perm ((jobs.flatMap (·.log)).filter isTaskwork)

/-- Jobs that were only given have no logs. -/
theorem logged_given (tasks : List (Work T α)) : Logged [] (tasks.map Job.given) where
  reaches listed := by
    obtain ⟨task, _, rfl⟩ := List.mem_map.mp listed
    exact .here task
  taskwork := by
    have empty : (tasks.map Job.given).flatMap (·.log) = [] := by
      simp [List.flatMap_eq_nil_iff, Job.given]
    rw [empty]

/-- Every step writes what was answered to the job that asked. -/
theorem Logged.step {path part : List (Exchange (World T))} {jobs later : List (Job T α)}
    (logged : Logged path jobs) (step : Step workers jobs part later) :
    Logged (path ++ part) later := by
  -- The job in the middle is replaced, and the others stay as they are.
  have replaced {before after : List (Job T α)} {old : Job T α} (new : Job T α)
      (stood : Logged path (before ++ old :: after))
      (reached : Program.Reaches new.task new.log new.left) :
      ∀ {job}, job ∈ before ++ new :: after → Program.Reaches job.task job.log job.left := by
    intro job listed
    obtain there | rfl | there := List.mem_append.mp listed |>.imp_right List.mem_cons.mp
    · exact stood.reaches (List.mem_append_left _ there)
    · exact reached
    · exact stood.reaches (List.mem_append_right _ (List.mem_cons_of_mem _ there))
  have own {before after : List (Job T α)} {job : Job T α} : job ∈ before ++ job :: after :=
    List.mem_append_right _ List.mem_cons_self
  cases step with
  | @begin before after job waits free =>
    have reached : Program.Reaches job.task job.log job.left := logged.reaches own
    refine ⟨replaced { job with begun := true } logged reached, ?_⟩
    simpa using logged.taskwork
  | @work before after job request next begun asks reply =>
    have reached := logged.reaches own
    rw [asks] at reached
    refine ⟨replaced _ logged (reached.snoc reply), ?_⟩
    have logs : (path.filter isTaskwork ++ [⟨request, reply⟩].filter isTaskwork).Perm
        ((before ++ job :: after).flatMap (·.log) |>.filter isTaskwork |>.append
          ([⟨request, reply⟩].filter isTaskwork)) := logged.taskwork.append_right _
    rw [List.filter_append]
    refine logs.trans ?_
    simp only [List.append_eq, List.flatMap_append, List.flatMap_cons, List.filter_append,
      Job.answered, List.append_assoc]
    exact ((List.perm_append_comm).append_left _).append_left _
  | manage _ managed =>
    refine ⟨logged.reaches, ?_⟩
    have left_out : ([_].filter isTaskwork : List (Exchange (World T))) = [] :=
      List.filter_eq_nil_iff.mpr fun exchange listed => by
        rw [List.mem_singleton.mp listed, isTaskwork, managed]
        exact Bool.false_ne_true
    rw [List.filter_append, left_out, List.append_nil]
    exact logged.taskwork

/-- The jobs of a run are the pieces of work that were given, in their places. -/
theorem Step.tasks {jobs later : List (Job T α)} {part : List (Exchange (World T))}
    (step : Step workers jobs part later) : later.map (·.task) = jobs.map (·.task) := by
  cases step with
  | begin | work => simp [Job.answered]
  | manage => rfl

/-- No worker is at work that was only given. -/
theorem countP_given (tasks : List (Work T α)) : (tasks.map Job.given).countP Job.isBusy = 0 := by
  refine List.countP_eq_zero.mpr fun job listed => ?_
  obtain ⟨task, _, rfl⟩ := List.mem_map.mp listed
  exact Bool.false_ne_true

namespace Run

variable {tasks : List (Work T α)} {jobs : List (Job T α)} {path : List (Exchange (World T))}

theorem tasks_eq (run : Run workers (tasks.map Job.given) path jobs) :
    jobs.map (·.task) = tasks := by
  induction run with
  | here =>
    rw [List.map_map]
    exact List.map_id tasks
  | snoc _ step ih => rw [step.tasks, ih]

theorem logged (run : Run workers (tasks.map Job.given) path jobs) : Logged path jobs := by
  induction run with
  | here => exact logged_given tasks
  | snoc _ step ih => exact ih.step step

end Run

/-- Pieces of work are done side by side along a path, and their results are reported in some
order. -/
def Does (workers : Nat) (tasks : List (Work T α)) (path : List (Exchange (World T)))
    (results : List α) : Prop :=
  ∃ jobs ended, Run workers (tasks.map Job.given) path jobs ∧ List.Forall₂ Job.Ended jobs ended ∧
    results.Perm ended

/-- A path is made up, order apart, of the ways of pieces of work, and of what the pool asked on its
own account. -/
def Shares (path : List (Exchange (World T))) (ways : List (List (Exchange (World T)))) : Prop :=
  (path.filter isTaskwork).Perm (ways.flatten.filter isTaskwork)

/-- Each piece of work goes its own way to its own result, and these are the results reported. -/
theorem Does.shares {tasks : List (Work T α)} {path : List (Exchange (World T))} {results : List α}
    (does : Does workers tasks path results) :
    ∃ ways : List (List (Exchange (World T)) × α),
      List.Forall₂ (fun task way => Program.Reaches task way.1 (.done way.2)) tasks ways ∧
        Shares path (ways.map (·.1)) ∧ results.Perm (ways.map (·.2)) := by
  obtain ⟨jobs, ended, run, each, reported⟩ := does
  have logged := run.logged
  have ways : ∃ ways : List (List (Exchange (World T)) × α),
      List.Forall₂ (fun task way => Program.Reaches task way.1 (.done way.2))
        (jobs.map (·.task)) ways ∧ ways.map (·.1) = jobs.map (·.log) ∧ ways.map (·.2) = ended := by
    have reaches {job : Job T α} (listed : job ∈ jobs) := logged.reaches listed
    clear run reported logged
    induction each with
    | nil => exact ⟨[], .nil, rfl, rfl⟩
    | @cons job result jobs ended first _ ih =>
      obtain ⟨ways, others, logs, results⟩ := ih fun listed =>
        reaches (List.mem_cons_of_mem _ listed)
      have reached : Program.Reaches job.task job.log job.left := reaches List.mem_cons_self
      rw [first.left] at reached
      refine ⟨(job.log, result) :: ways, .cons reached others, ?_, ?_⟩
      · rw [List.map_cons, List.map_cons, logs]
      · rw [List.map_cons, results]
  obtain ⟨ways, reaches, logs, rfl⟩ := ways
  refine ⟨ways, run.tasks_eq ▸ reaches, ?_, reported⟩
  rw [Shares, logs, ← List.flatMap_def]
  exact logged.taskwork

namespace Shares

variable {path way : List (Exchange (World T))} {ways : List (List (Exchange (World T)))}
  {exchange : Exchange (World T)}

/-- What a piece of work was answered stands in the path. -/
theorem mem_path (shares : Shares path ways) (listed : way ∈ ways) (answered : exchange ∈ way)
    (own : isTaskwork exchange = true) : exchange ∈ path := by
  have there : exchange ∈ ways.flatten.filter isTaskwork :=
    List.mem_filter.mpr ⟨List.mem_flatten.mpr ⟨way, listed, answered⟩, own⟩
  exact (List.mem_filter.mp ((List.Perm.mem_iff shares).mpr there)).1

/-- What stands in the path was answered to a piece of work. -/
theorem of_mem_path (shares : Shares path ways) (listed : exchange ∈ path)
    (own : isTaskwork exchange = true) : ∃ way ∈ ways, exchange ∈ way := by
  have there : exchange ∈ path.filter isTaskwork := List.mem_filter.mpr ⟨listed, own⟩
  exact List.mem_flatten.mp (List.mem_filter.mp ((List.Perm.mem_iff shares).mp there)).1

/-- The exchanges of a kind are those of all pieces of work together. -/
theorem countP_path (shares : Shares path ways) {p : Exchange (World T) → Bool}
    (own : ∀ exchange, p exchange = true → isTaskwork exchange = true) :
    path.countP p = (ways.map (List.countP p)).sum := by
  have kept (exchanges : List (Exchange (World T))) :
      (exchanges.filter isTaskwork).countP p = exchanges.countP p := by
    rw [List.countP_filter]
    refine List.countP_congr fun exchange _ => ?_
    rw [Bool.and_eq_true]
    exact ⟨And.left, fun counted => ⟨counted, own exchange counted⟩⟩
  calc
    path.countP p = (path.filter isTaskwork).countP p := (kept path).symm
    _ = (ways.flatten.filter isTaskwork).countP p := List.Perm.countP_eq p shares
    _ = ways.flatten.countP p := kept ways.flatten
    _ = (ways.map (List.countP p)).sum := List.countP_flatten

end Shares

end Pool

/-! ## The worker pool -/

namespace WorkerPool

variable [TimeScale T]

/-- A result is put somewhere among the others. -/
theorem perm_place (finished : T × α) (sorted : List (T × α)) :
    (place finished sorted).Perm (finished :: sorted) := by
  generalize cut : placeBetween finished sorted 0 sorted.length = position
  have parts : (sorted.take position ++ finished :: sorted.drop position).Perm
      (finished :: (sorted.take position ++ sorted.drop position)) := List.perm_middle
  rw [List.take_append_drop] at parts
  rw [place, cut]
  exact parts

/-- A run that falls and what follows it are the results that were there. -/
theorem perm_fallingRun (before : T × α) (run results : List (T × α)) :
    ((fallingRun before run results).1 ++ (fallingRun before run results).2).Perm
      (run ++ results) := by
  induction results generalizing before run with
  | nil => exact .refl _
  | cons next rest ih =>
    unfold fallingRun
    split
    · exact (ih next (next :: run)).trans List.perm_middle.symm
    · exact .refl _

/-- A run that rises and what follows it are the results that were there. -/
theorem append_risingRun (before : T × α) (results : List (T × α)) :
    (risingRun before results).1 ++ (risingRun before results).2 = results := by
  induction results generalizing before with
  | nil => rfl
  | cons next rest ih =>
    unfold risingRun
    split
    · rfl
    · exact congrArg (next :: ·) (ih next)

/-- No result is lost or made up when the results are put in order. -/
theorem perm_byFinish (results : List (T × α)) : (byFinish results).Perm results := by
  have inserted (run others : List (T × α)) :
      (others.foldl (fun sorted finished => place finished sorted) run).Perm (run ++ others) := by
    induction others generalizing run with
    | nil =>
      rw [List.append_nil]
      exact .refl run
    | cons next rest ih =>
      calc
        (rest.foldl (fun sorted finished => place finished sorted) (place next run)).Perm
            (place next run ++ rest) := ih (place next run)
        _ |>.Perm (next :: run ++ rest) := (perm_place next run).append_right rest
        _ |>.Perm (run ++ next :: rest) := List.perm_middle.symm
  match results with
  | [] => exact .refl _
  | [only] => exact .refl _
  | first :: second :: rest =>
    by_cases falls : endedBefore second first = true
    · simp only [byFinish, if_pos falls]
      refine (inserted _ _).trans ((perm_fallingRun second [second, first] rest).trans ?_)
      exact .swap first second rest
    · simp only [byFinish, if_neg falls]
      refine (inserted _ _).trans ?_
      rw [List.cons_append, List.cons_append, append_risingRun]

/-- One piece of work after another is done while those that follow wait. -/
theorem run_of_perform {workers : Nat} (enough : 1 ≤ workers) {start : T} {times rest : List T}
    {tasks : List (Work T α)} {path : List (Exchange (World T))} {results : List (T × α)}
    (reached : Program.Reaches (perform start times tasks) path (.done (results, rest)))
    {before : List (Job T α)} (idle : before.countP Job.isBusy = 0) :
    ∃ jobs, Pool.Run workers (before ++ tasks.map Job.given) path (before ++ jobs) ∧
      List.Forall₂ Job.Ended jobs (results.map (·.2)) := by
  induction tasks generalizing times path results rest before with
  | nil =>
    obtain ⟨rfl, same⟩ := Program.reaches_done_iff.mp reached
    cases same
    exact ⟨[], .here, .nil⟩
  | cons task tasks ih =>
    unfold perform at reached
    obtain ⟨resumed, second, _, rfl, resuming, onward⟩ := reached.of_bind_done
    obtain ⟨worked, third, result, rfl, working, onward⟩ := onward.of_bind_done
    obtain ⟨read, fourth, finish, rfl, reading, onward⟩ := onward.of_bind_done
    obtain ⟨others, last, ⟨more, times'⟩, rfl, performing, ended⟩ := onward.of_bind_done
    obtain ⟨rfl, same⟩ := Program.reaches_done_iff.mp ended
    cases same
    obtain rfl := resuming.of_request
    obtain rfl := reading.of_request
    let begun : Job T α := { Job.given task with begun := true }
    let done := begun.answered worked (.done result)
    have finished : done.Ended result := ⟨rfl, rfl⟩
    have still : (before ++ [done]).countP Job.isBusy = 0 := by
      rw [List.countP_append, idle, List.countP_singleton, finished.isBusy_eq]
      rfl
    obtain ⟨jobs, onward, each⟩ := ih performing still
    have waiting : (tasks.map Job.given).countP Job.isBusy = 0 := Pool.countP_given tasks
    have free : (before ++ Job.given task :: tasks.map Job.given).countP Job.isBusy < workers := by
      rw [List.countP_append, idle, List.countP_cons, waiting]
      exact enough
    rw [List.append_assoc, List.append_assoc] at onward
    rw [List.append_nil]
    have begins : Pool.Step workers (before ++ Job.given task :: tasks.map Job.given) []
        (before ++ begun :: tasks.map Job.given) := .begin rfl free
    have works : Pool.Run workers (before ++ begun :: tasks.map Job.given) worked
        (before ++ done :: tasks.map Job.given) := .work rfl working
    refine ⟨done :: jobs, ?_, .cons finished each⟩
    have goes := Pool.Run.of_step begins works
    refine .of_step (.manage _ rfl) (goes.trans ?_)
    exact .of_step (.manage _ rfl) onward

/-- A worker pool does its pieces of work side by side. -/
theorem does_of_reaches {workers : Nat} (enough : 1 ≤ workers) {name : String}
    {tasks : List (Work T α)} {path : List (Exchange (World T))} {results : List α}
    (reached : Program.Reaches (run workers name tasks) path (.done results)) :
    Pool.Does workers tasks path results := by
  unfold run at reached
  obtain ⟨read, second, start, rfl, reading, onward⟩ := reached.of_bind_done
  obtain ⟨opened, third, _, rfl, opening, onward⟩ := onward.of_bind_done
  obtain ⟨performed, fourth, ⟨finished, times⟩, rfl, performing, onward⟩ := onward.of_bind_done
  obtain ⟨closed, last, _, rfl, closing, ended⟩ := onward.of_bind_done
  obtain ⟨rfl, same⟩ := Program.reaches_done_iff.mp ended
  cases same
  obtain rfl := reading.of_request
  obtain rfl := opening.of_request
  obtain rfl := closing.of_request
  have idle : ([] : List (Job T α)).countP Job.isBusy = 0 := rfl
  obtain ⟨jobs, run, each⟩ := run_of_perform enough performing idle
  refine ⟨jobs, finished.map (·.2), ?_, each, (perm_byFinish finished).map _⟩
  refine .of_step (.manage _ rfl) (.of_step (.manage _ rfl) ?_)
  exact run.trans (.of_step (.manage _ rfl) .here)

end WorkerPool

end Evacuation
