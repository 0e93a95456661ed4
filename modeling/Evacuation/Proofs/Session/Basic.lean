import Evacuation.Proofs.Office.Sound
/-!
# Sessions

In a session one thing is done at a time: a command is given or a timer goes off, and the program
this sets going is worked through to its end before anything else comes up. A turn is one such piece
of work, with all the exchanges of its program. Requests that the desk answers are answered at any
times of the clock, and errands come back with any outcome. The main statement is that sessions are
runs in an office (`Session.run`), in which the clerks happen not to get in each other's way, so what
holds of the schedule in every run holds in every session, also in the middle of a turn.
-/
namespace Evacuation

variable {T : Type} [TimeScale T]

namespace Controller

/-- One exchange at a desk at which nobody else works. -/
inductive Serves (controller : Controller T) (desk : Desk T) :
    Exchange (Control T) → Desk T → Prop where
  | atDesk {request : Control.Request T} (here : request.isErrand = false) (now : T) :
      Serves controller desk ⟨request, (controller.atDesk now request desk).1⟩
        (controller.atDesk now request desk).2
  | errand {request : Control.Request T} (errand : request.isErrand = true)
      (outcome : (Control T).Reply request) :
      Serves controller desk ⟨request, Control.settle request outcome⟩ desk

/-- Exchanges one after another. -/
inductive ServesAll (controller : Controller T) :
    Desk T → List (Exchange (Control T)) → Desk T → Prop where
  | nil (desk : Desk T) : ServesAll controller desk [] desk
  | cons {desk between later : Desk T} {exchange : Exchange (Control T)}
      {path : List (Exchange (Control T))} (first : Serves controller desk exchange between)
      (rest : ServesAll controller between path later) :
      ServesAll controller desk (exchange :: path) later

variable {controller : Controller T} {desk later : Desk T} {request : Control.Request T}
  {reply : (Control T).Reply request}

/-- What the desk replies to a request that is no errand. -/
theorem Serves.atDesk_eq (served : controller.Serves desk ⟨request, reply⟩ later)
    (here : request.isErrand = false) : ∃ now, controller.atDesk now request desk = (reply, later) := by
  cases served with
  | atDesk here now => exact ⟨now, rfl⟩
  | errand errand outcome => cases here.symm.trans errand

/-- A path in two parts passes by a desk between them. -/
theorem ServesAll.split {first second : List (Exchange (Control T))}
    (served : controller.ServesAll desk (first ++ second) later) :
    ∃ between, controller.ServesAll desk first between ∧
      controller.ServesAll between second later := by
  induction first generalizing desk with
  | nil => exact ⟨desk, .nil desk, served⟩
  | cons exchange first ih =>
    cases served with
    | cons here onward =>
      obtain ⟨between, before, after⟩ := ih onward
      exact ⟨between, .cons here before, after⟩

end Controller

/-- Something comes up at a desk: a command is given, or a timer goes off that was started. -/
inductive Cause.Arises : Cause → Desk T → Desk T → Prop where
  | command (given : Control.Command) (desk : Desk T) : Cause.Arises (.command given) desk desk
  | timer (desk : Desk T) {timer : Nat} {found : Timer T}
      (stands : desk.schedule.timers[timer]? = some found)
      (ready : found.state = .pending ∨ found.state = .cancelled) :
      Cause.Arises (.timer timer found.node found.record) desk
        { desk with schedule := desk.schedule.turnTimer timer .fire }

/-- What is done in one go: what came up, and the exchanges of its program. -/
structure Turn (T : Type) where
  cause : Cause
  path : List (Exchange (Control T))

/-- Turns one after another, each from the beginning of its program to the end. -/
inductive Session (controller : Controller T) (start : Desk T) : List (Turn T) → Desk T → Prop where
  | here : Session controller start [] start
  | snoc {turns : List (Turn T)} {desk between later : Desk T} {cause : Cause}
      {path : List (Exchange (Control T))} {result : Except Failure Unit}
      (session : Session controller start turns desk) (arises : cause.Arises desk between)
      (reached : cause.program.Reaches path (.done result))
      (served : controller.ServesAll between path later) :
      Session controller start (turns ++ [⟨cause, path⟩]) later

/-! ## Sessions are runs -/

namespace Office

variable {controller : Controller T} {office : Office T} {later : Desk T} {clerk : Nat} {cause : Cause}

/-- What the desk serves is done in a step, or in two if it is an errand. -/
theorem Run.of_serves {request : Control.Request T} {reply : (Control T).Reply request}
    {next : (Control T).Reply request → Controlling T (Except Failure Unit)}
    (found : office.clerks[clerk]? = some ⟨cause, .ask request next, false⟩)
    (served : controller.Serves office.desk ⟨request, reply⟩ later) :
    ∃ deeds, Run controller office deeds
      ⟨later, office.clerks.set clerk ⟨cause, next reply, false⟩⟩ := by
  cases served with
  | atDesk at_desk now =>
    exact ⟨_, Run.here.snoc (.ask office found at_desk now)⟩
  | errand errand outcome =>
    have inside := (List.getElem?_eq_some_iff.mp found).1
    have run : Run controller office _ _ := Run.here.snoc (.send office found errand)
    have back := run.snoc (.back _ (List.getElem?_set_self inside) outcome)
    rw [List.set_set] at back
    exact ⟨_, back⟩

/-- A clerk whose program goes along a path that the desk serves. -/
theorem Run.of_servesAll {program left : Controlling T (Except Failure Unit)}
    {path : List (Exchange (Control T))}
    (found : office.clerks[clerk]? = some ⟨cause, program, false⟩)
    (reached : program.Reaches path left) (served : controller.ServesAll office.desk path later) :
    ∃ deeds, Run controller office deeds
      ⟨later, office.clerks.set clerk ⟨cause, left, false⟩⟩ := by
  induction reached generalizing office with
  | here program =>
    cases served
    have same := (List.getElem?_eq_some_iff.mp found).2
    rw [← same, List.set_getElem_self]
    exact ⟨[], .here⟩
  | next reply onward ih =>
    cases served with
    | cons first rest =>
      have inside := (List.getElem?_eq_some_iff.mp found).1
      obtain ⟨deeds, run⟩ := Run.of_serves found first
      obtain ⟨more, further⟩ := @ih ⟨_, office.clerks.set clerk _⟩
        (List.getElem?_set_self inside) rest
      rw [List.set_set] at further
      exact ⟨deeds ++ more, run.trans further⟩

/-- Whatever comes up, its program may be worked through alone, or up to some point. -/
theorem Run.of_arises {between : Desk T} {path : List (Exchange (Control T))}
    {left : Controlling T (Except Failure Unit)} (arises : cause.Arises office.desk between)
    (reached : cause.program.Reaches path left)
    (served : controller.ServesAll between path later) :
    ∃ deeds further, Run controller office deeds further ∧ further.desk = later := by
  -- The program is worked through by the clerk who begins it.
  have begins {engaged : Office T} {deed : Deed T} (step : Step controller office deed engaged)
      (desk : engaged.desk = between)
      (clerks : engaged.clerks = office.clerks ++ [{ cause, program := cause.program }]) :
      ∃ deeds further, Run controller office deeds further ∧ further.desk = later := by
    subst desk
    have found : engaged.clerks[office.clerks.length]? = some ⟨cause, cause.program, false⟩ := by
      rw [clerks, List.getElem?_concat_length]
    obtain ⟨deeds, run⟩ := Run.of_servesAll found reached served
    exact ⟨_, _, (Run.here.snoc step).trans run, rfl⟩
  generalize there : office.desk = desk at arises
  cases arises with
  | command given =>
    subst there
    exact begins (.command office given) rfl rfl
  | timer desk stands ready =>
    subst there
    have now : T := TimeScale.zero
    refine begins (.fire office stands ready now) ?_ rfl
    exact congrArg Prod.snd (Controller.atDesk_fire controller now office.desk stands)

end Office

namespace Session

variable {controller : Controller T} {buffer : DrainBuffer T} {turns : List (Turn T)}
  {desk between later : Desk T}

/-- Every session from a fresh desk is a run in an office. -/
theorem run (session : Session controller { schedule := { buffer } } turns desk) :
    ∃ deeds office, Office.Run controller (.opened buffer) deeds office ∧ office.desk = desk := by
  induction session with
  | here => exact ⟨[], _, .here, rfl⟩
  | snoc session arises reached served ih =>
    obtain ⟨deeds, office, run, rfl⟩ := ih
    obtain ⟨more, further, onward, desk⟩ := Office.Run.of_arises arises reached served
    exact ⟨_, further, run.trans onward, desk⟩

/-- In a session the schedule agrees with what is still to be done about it. -/
theorem agreed (session : Session controller { schedule := { buffer } } turns desk) :
    ∃ roster, desk.schedule.Agreed roster := by
  obtain ⟨deeds, office, run, rfl⟩ := session.run
  obtain ⟨roster, sound⟩ := run.sound
  exact ⟨roster, sound.agreed⟩

/-- In the middle of a turn the schedule is consistent. -/
theorem consistent_within (session : Session controller { schedule := { buffer } } turns desk)
    {cause : Cause} {path : List (Exchange (Control T))}
    {left : Controlling T (Except Failure Unit)} (arises : cause.Arises desk between)
    (reached : cause.program.Reaches path left) (served : controller.ServesAll between path later) :
    later.schedule.Consistent := by
  obtain ⟨deeds, office, run, rfl⟩ := session.run
  obtain ⟨more, further, onward, rfl⟩ := Office.Run.of_arises arises reached served
  obtain ⟨roster, sound⟩ := (run.trans onward).sound
  exact sound.agreed.consistent

end Session

end Evacuation
