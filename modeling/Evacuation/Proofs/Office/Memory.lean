import Evacuation.Proofs.Office.Screening
/-!
# Memory

In a watch the dispatch of a notification finds the filters as the notifications before it left them,
whatever timers do meanwhile: as long as it is in hand nobody else asks the filters anything. So the
exchanges of each dispatch replay from what the filters remembered when it began, and when none is in
hand they remember what the notifications dispatched so far have left (`Watch.remembered`).
-/
namespace Evacuation

variable {T : Type}

namespace Deed

theorem dispatched_append (first second : List (Deed T)) :
    dispatched (first ++ second) = dispatched first ++ dispatched second :=
  List.filterMap_append

/-- What is done for something else than the dispatch of a notification dispatches none. -/
theorem dispatched_singleton {deed : Deed T}
    (other : ∀ {clerk cause}, deed = .began clerk cause → cause.isDispatch = false) :
    dispatched [deed] = [] := by
  cases deed with
  | began clerk cause =>
    have idle := other rfl
    cases cause with
    | timer timer node record => rfl
    | command command =>
      cases command with
      | dispatch notification => cases idle
      | _ => rfl
  | asked | sent | returned => rfl

end Deed

namespace Controller

variable [TimeScale T] (controller : Controller T) (now : T) (desk : Desk T)

/-- What the desk answers passes as the filters have it. -/
theorem answers_atDesk {request : Control.Request T} (here : request.isErrand = false) :
    controller.chain.Answers desk.processed
      ⟨request, (controller.atDesk now request desk).1⟩
      (controller.atDesk now request desk).2.processed := by
  cases request with
  | fire timer =>
    cases there : desk.schedule.timers[timer]? with
    | none =>
      simp only [atDesk, answer, id, there]
      rfl
    | some found =>
      rw [atDesk_fire controller now desk there]
      rfl
  | announce | cordon | drain => cases here
  | transact | start | cancel | arm | count | screen | release | complain => rfl

end Controller

/-- An errand is no matter of the filters. -/
theorem Control.Request.not_isScreening_of_isErrand {request : Control.Request T}
    (errand : request.isErrand = true) : request.isScreening = false := by
  cases request with
  | announce | cordon | drain => rfl
  | _ => cases errand

/-- What comes up in a watch and is no dispatch asks for nothing else. -/
theorem Cause.IsWatched.ofDrains [TimeScale T] {cause : Cause}
    (watched : cause.IsWatched) (other : cause.isDispatch = false) :
    Control.OfDrains (cause.program (T := T)) := by
  cases watched with
  | timer timer node record => exact Control.ofDrains_runDrain record
  | stop =>
    refine Program.Only.bind ?_ fun _ => trivial
    exact ⟨rfl, fun timers => Control.ofDrains_cancelAll timers⟩
  | dispatch notification => cases other

/-- So it asks nothing about what the filters remember. -/
theorem Cause.IsWatched.unscreened [TimeScale T] {cause : Cause} (watched : cause.IsWatched)
    (other : cause.isDispatch = false) : Control.Unscreened (cause.program (T := T)) := by
  refine (watched.ofDrains other).mono fun request ofDrains => ?_
  cases request with
  | screen | release => cases ofDrains
  | _ => rfl

/-- A cause that is a dispatch is the dispatch of some notification. -/
theorem Cause.of_isDispatch {cause : Cause} (dispatch : cause.isDispatch = true) :
    ∃ notification, cause = .command (.dispatch notification) := by
  unfold isDispatch at dispatch
  split at dispatch
  · exact ⟨_, rfl⟩
  · cases dispatch

/-- Who has nothing left to do has come to a value. -/
theorem Clerk.program_of_isDone {worker : Clerk T} (done : worker.isDone = true) :
    ∃ value, worker.program = .done value := by
  unfold Clerk.isDone at done
  split at done
  · rename_i value ended
    exact ⟨value, ended⟩
  · cases done

namespace Office

variable [TimeScale T] {controller : Controller T} {office later : Office T}
  {deeds : List (Deed T)} {deed : Deed T}

/-- A step leaves what the filters remember as its exchange does. -/
theorem Step.answers (step : Step controller office deed later)
    (sound : ∃ roster, office.Sound roster) :
    (∃ exchange, deed.exchange? = some exchange ∧
        controller.chain.Answers office.desk.processed exchange later.desk.processed) ∨
      deed.exchange? = none ∧ later.desk.processed = office.desk.processed := by
  cases step with
  | command | send => exact .inr ⟨rfl, rfl⟩
  | fire stands ready now =>
    rw [Controller.atDesk_fire controller now office.desk stands]
    exact .inr ⟨rfl, rfl⟩
  | ask found here now => exact .inl ⟨_, rfl, controller.answers_atDesk now office.desk here⟩
  | @back _ _ request _ found outcome =>
    obtain ⟨roster, sound⟩ := sound
    have unscreened := Control.Request.not_isScreening_of_isErrand (sound.errand found)
    refine .inl ⟨_, rfl, ?_⟩
    rw [FilterChain.answers_iff_of_not_isScreening unscreened]

/-- What is known of the filters in a watch from the deeds that led to it. -/
structure Remembered (controller : Controller T) (deeds : List (Deed T)) (office : Office T) : Prop where
  /-- When no notification is in hand, they remember what those dispatched so far have left. -/
  idle : (∀ worker ∈ office.clerks, worker.cause.isDispatch = true → worker.isDone = true) →
    office.desk.processed = controller.chain.remembers (Deed.dispatched deeds)
  /-- A dispatch found them as those before it left them, and is the only one until it is done. -/
  replays {place : Nat} {worker : Clerk T} {notification : Notification} :
    office.clerks[place]? = some worker → worker.cause = .command (.dispatch notification) →
    ∃ first second processed, deeds = first ++ .began place worker.cause :: second ∧
      controller.chain.Replays (controller.chain.remembers (Deed.dispatched first))
        (Deed.log deeds place) processed ∧
      (worker.isDone = false → Deed.dispatched second = [] ∧ processed = office.desk.processed)

section Steps

variable {start : Office T} {place : Nat} {worker : Clerk T}

/-- Who takes a step had something left to do. -/
theorem Step.isDone_eq_false (step : Step controller office deed later)
    (found : office.clerks[deed.clerk]? = some worker) : worker.isDone = false := by
  cases step with
  | command | fire => simp [Deed.clerk] at found
  | ask stands | send stands | back stands =>
    cases stands.symm.trans found
    rfl

/-- What is done for something else than the dispatch of a notification leaves alone what the filters
remember. -/
theorem Watched.processed_eq {buffer : DrainBuffer T}
    (watched : Watched controller (opened buffer) deeds office)
    (run : Run controller (opened buffer) deeds office) (step : Step controller office deed later)
    (other : ∀ worker, office.clerks[deed.clerk]? = some worker → worker.cause.isDispatch = false) :
    later.desk.processed = office.desk.processed := by
  obtain ⟨exchange, moves, answers⟩ | ⟨_, same⟩ := step.answers run.sound
  · cases there : office.clerks[deed.clerk]? with
    | none =>
      rw [(step.clerk_new there).2] at moves
      cases moves
    | some worker =>
      obtain ⟨after, stands, cause, same, _⟩ := step.clerk there
      have unscreened := (watched.causes there).unscreened (T := T) (other worker there)
      have reached := (run.snoc step).logged.reaches stands
      rw [same, ← cause] at reached
      have asked : exchange ∈ Deed.log (deeds ++ [deed]) deed.clerk := by
        rw [Deed.log_concat, moves]
        exact List.mem_append_right _ List.mem_cons_self
      have other := unscreened.of_mem_path reached asked
      exact (FilterChain.answers_iff_of_not_isScreening other).mp answers
  · exact same

/-- While the dispatch of a notification is in hand, others neither dispatch one nor change what the
filters remember. -/
theorem Watched.others {buffer : DrainBuffer T}
    (watched : Watched controller (opened buffer) deeds office)
    (run : Run controller (opened buffer) deeds office) (step : Step controller office deed later)
    (admitted : ∀ {clerk cause}, deed = .began clerk cause → office.Admits cause)
    (found : office.clerks[place]? = some worker) (dispatch : worker.cause.isDispatch = true)
    (busy : worker.isDone = false) (other : deed.clerk ≠ place) :
    Deed.dispatched [deed] = [] ∧ later.desk.processed = office.desk.processed := by
  constructor
  · refine Deed.dispatched_singleton fun {clerk cause} begins => ?_
    refine Bool.eq_false_iff.mpr fun also => ?_
    have idle := (admitted begins).idle also (List.mem_of_getElem? found) dispatch
    cases busy.symm.trans idle
  · refine watched.processed_eq run step fun second there => ?_
    refine Bool.eq_false_iff.mpr fun also => other ?_
    exact watched.alone there found also dispatch (step.isDone_eq_false there) busy

/-- A step after which all notifications are done dispatches none. -/
theorem Step.dispatched_of_idle (step : Step controller office deed later)
    (idle : ∀ worker ∈ later.clerks, worker.cause.isDispatch = true → worker.isDone = true) :
    Deed.dispatched [deed] = [] := by
  refine Deed.dispatched_singleton fun {clerk cause} begins => ?_
  refine Bool.eq_false_iff.mpr fun dispatch => ?_
  obtain ⟨notification, rfl⟩ := Cause.of_isDispatch dispatch
  cases there : office.clerks[deed.clerk]? with
  | some worker =>
    subst begins
    cases step with
    | command => simp [Deed.clerk] at there
  | none =>
    obtain ⟨stands, _⟩ := step.clerk_new there
    rw [begins] at stands
    have done := idle _ (List.mem_of_getElem? stands) rfl
    obtain ⟨value, ended⟩ := Clerk.program_of_isDone done
    exact Control.dispatch_ne_done ended

end Steps

namespace Remembered

variable {buffer : DrainBuffer T}

/-- A dispatch that goes on leaves the filters as its exchanges so far do. -/
theorem replays_own (remembered : Remembered controller deeds office)
    (run : Run controller (opened buffer) deeds office) (step : Step controller office deed later)
    {worker : Clerk T} {notification : Notification}
    (found : office.clerks[deed.clerk]? = some worker)
    (cause : worker.cause = .command (.dispatch notification)) :
    ∃ first second, deeds ++ [deed] = first ++ .began deed.clerk worker.cause :: second ∧
      Deed.dispatched second = [] ∧
      controller.chain.Replays (controller.chain.remembers (Deed.dispatched first))
        (Deed.log (deeds ++ [deed]) deed.clerk) later.desk.processed := by
  obtain ⟨first, second, processed, rfl, replays, busy⟩ := remembered.replays found cause
  obtain ⟨none_more, rfl⟩ := busy (step.isDone_eq_false found)
  refine ⟨first, second ++ [deed], ?_, ?_, ?_⟩
  · rw [List.append_assoc, List.cons_append]
  · rw [Deed.dispatched_append, none_more, List.nil_append]
    refine Deed.dispatched_singleton ?_
    rintro clerk cause rfl
    cases step with
    | command | fire => simp [Deed.clerk] at found
  · rw [Deed.log_concat]
    obtain ⟨exchange, moves, answers⟩ | ⟨rests, unchanged⟩ := step.answers run.sound
    · rw [moves]
      exact replays.snoc answers
    · rw [rests, unchanged, Option.toList_none, List.append_nil]
      exact replays

/-- A dispatch goes on from what the filters remembered when it began. -/
theorem replays_step (remembered : Remembered controller deeds office)
    (watched : Watched controller (opened buffer) deeds office)
    (run : Run controller (opened buffer) deeds office) (step : Step controller office deed later)
    (admitted : ∀ {clerk cause}, deed = .began clerk cause → office.Admits cause)
    {place : Nat} {worker : Clerk T} {notification : Notification}
    (found : later.clerks[place]? = some worker)
    (cause : worker.cause = .command (.dispatch notification)) :
    ∃ first second processed, deeds ++ [deed] = first ++ .began place worker.cause :: second ∧
      controller.chain.Replays (controller.chain.remembers (Deed.dispatched first))
        (Deed.log (deeds ++ [deed]) place) processed ∧
      (worker.isDone = false → Deed.dispatched second = [] ∧ processed = later.desk.processed) := by
  have dispatch : worker.cause.isDispatch = true := by
    rw [cause]
    rfl
  by_cases own : deed.clerk = place
  · subst own
    cases there : office.clerks[deed.clerk]? with
    | none =>
      obtain ⟨stands, begins⟩ := step.clerk_new there
      rw [stands] at found
      cases found
      have idle : office.desk.processed = controller.chain.remembers (Deed.dispatched deeds) :=
        remembered.idle fun other listed also => (admitted begins).idle dispatch listed also
      have none_logged : Deed.log (deeds ++ [deed]) deed.clerk = [] := by
        rw [Deed.log_concat, run.logged.log_eq_nil there, begins]
        rfl
      have same : later.desk.processed = office.desk.processed :=
        watched.processed_eq run step fun before stood => by
          rw [there] at stood
          cases stood
      refine ⟨deeds, [], _, by rw [← begins], ?_, fun _ => ⟨rfl, rfl⟩⟩
      rw [none_logged, same, idle]
      exact .here _
    | some before =>
      obtain ⟨after, stands, origin, same, _⟩ := step.clerk there
      rw [stands] at found
      cases found
      have began : before.cause = worker.cause := origin.trans same.symm
      obtain ⟨first, second, parts, none_more, replays⟩ :=
        remembered.replays_own run step there (began.trans cause)
      exact ⟨first, second, _, began ▸ parts, replays, fun _ => ⟨none_more, rfl⟩⟩
  · rw [step.clerk_ne (Ne.symm own)] at found
    obtain ⟨first, second, processed, rfl, replays, busy⟩ := remembered.replays found cause
    refine ⟨first, second ++ [deed], processed, ?_, ?_, fun occupied => ?_⟩
    · rw [List.append_assoc, List.cons_append]
    · rw [Deed.log_concat_of_ne own]
      exact replays
    · obtain ⟨none_more, rfl⟩ := busy occupied
      obtain ⟨none_dispatched, unchanged⟩ :=
        watched.others run step admitted found dispatch occupied own
      rw [Deed.dispatched_append, none_more, none_dispatched]
      exact ⟨rfl, unchanged.symm⟩

/-- When the notification in hand is done, the filters remember what it has left. -/
theorem idle_step (remembered : Remembered controller deeds office)
    (watched : Watched controller (opened buffer) deeds office)
    (run : Run controller (opened buffer) deeds office) (step : Step controller office deed later)
    (idle : ∀ worker ∈ later.clerks, worker.cause.isDispatch = true → worker.isDone = true) :
    later.desk.processed = controller.chain.remembers (Deed.dispatched (deeds ++ [deed])) := by
  by_cases own : ∃ worker, office.clerks[deed.clerk]? = some worker ∧ worker.cause.isDispatch = true
  · obtain ⟨worker, found, dispatch⟩ := own
    obtain ⟨notification, cause⟩ := Cause.of_isDispatch dispatch
    obtain ⟨after, stands, origin, same, _⟩ := step.clerk found
    have done := idle after (List.mem_of_getElem? stands) (by rwa [same, ← origin])
    obtain ⟨value, ended⟩ := Clerk.program_of_isDone done
    obtain ⟨first, second, parts, none_more, replays⟩ := remembered.replays_own run step found cause
    have reached := (run.snoc step).logged.reaches stands
    rw [same, ← origin, cause, ended] at reached
    have dispatched : Deed.dispatched (deeds ++ [deed]) =
        Deed.dispatched first ++ [notification] := by
      rw [parts, Deed.dispatched_append, cause]
      show _ ++ notification :: Deed.dispatched second = _
      rw [none_more]
    rw [dispatched, FilterChain.remembers_concat]
    exact Control.after_of_replays reached replays
  · have others : ∀ worker, office.clerks[deed.clerk]? = some worker →
        worker.cause.isDispatch = false := fun worker found =>
      Bool.eq_false_iff.mpr fun dispatch => own ⟨worker, found, dispatch⟩
    have rests : ∀ worker ∈ office.clerks, worker.cause.isDispatch = true →
        worker.isDone = true := fun worker listed dispatch => by
      obtain ⟨place, found⟩ := List.mem_iff_getElem?.mp listed
      have other : place ≠ deed.clerk := by
        rintro rfl
        exact own ⟨worker, found, dispatch⟩
      rw [← step.clerk_ne other] at found
      exact idle worker (List.mem_of_getElem? found) dispatch
    rw [watched.processed_eq run step others, remembered.idle rests, Deed.dispatched_append,
      step.dispatched_of_idle idle, List.append_nil]

end Remembered

/-- In a watch each notification finds the filters as those before it left them. -/
theorem Watch.remembered {buffer : DrainBuffer T}
    (watch : Watch controller (opened buffer) deeds office) : Remembered controller deeds office := by
  induction watch with
  | here => exact ⟨fun _ => rfl, fun found => by simp [opened] at found⟩
  | snoc watch step admitted ih =>
    exact ⟨ih.idle_step watch.watched watch.run step,
      ih.replays_step watch.watched watch.run step admitted⟩

end Office

end Evacuation
