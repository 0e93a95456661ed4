import Evacuation.Proofs.Office.DrainPaths
import Evacuation.Proofs.Office.Sound
/-!
# What is done for a record stays with it

The clerk who works for a record changes nothing that belongs to another (`Sound.confined`): not its
record, not its timer, not what is tracked or armed for its node, whatever was booked meanwhile
under the same name. If the record was dropped while it waited, it stays so (`Sound.dropped`), and
the clerk changes nothing at all but the state of the timer that went off (`Sound.quiet`).
-/
namespace Evacuation

variable {T : Type}

namespace Schedule

/-- Two schedules differ in one record at most, in its timer, and in whether that is armed. -/
structure SameBut (record : Nat) (before after : Schedule T) : Prop where
  records {place : Nat} : place ≠ record → after.records[place]? = before.records[place]?
  timers {timer : Nat} : timer ≠ record → after.timers[timer]? = before.timers[timer]?
  tracked : after.tracked = before.tracked
  armed {node : String} {timer : Nat} : timer ≠ record →
    (after.armed.get? node = some timer ↔ before.armed.get? node = some timer)

theorem SameBut.refl (record : Nat) (schedule : Schedule T) : schedule.SameBut record schedule :=
  ⟨fun _ => rfl, fun _ => rfl, rfl, fun _ => .rfl⟩

variable {schedule : Schedule T} {roster : Roster} {clerk : Nat} {cause : Cause}
  {duty later : Duty}

/-- Changing a record concerns no other. -/
theorem sameBut_change {record : Nat} {update : DrainRecord T → DrainRecord T}
    {armed : Table String Nat}
    (kept : ∀ {node timer}, timer ≠ record →
      (armed.get? node = some timer ↔ schedule.armed.get? node = some timer)) :
    schedule.SameBut record { schedule.change record update with armed } where
  records {place} other := by
    simp only [change, List.getElem?_modify, if_neg (Ne.symm other)]
    exact Option.map_id'
  timers _ := rfl
  tracked := rfl
  armed := kept

/-- Turning a timer concerns no other. -/
theorem sameBut_turnTimer (timer : Nat) (turn : TimerState → TimerState) :
    schedule.SameBut timer (schedule.turnTimer timer turn) where
  records _ := rfl
  timers {place} other := by
    rw [timers_turnTimer]
    simp only [if_neg (Ne.symm other)]
    exact Option.map_id'
  tracked := rfl
  armed _ := .rfl

/-- A record that waits is dropped when its node is forgotten. -/
theorem Consistent.dropped_forget (consistent : schedule.Consistent) {node : String}
    {record : Nat} (tracked : schedule.tracked.get? node = some record)
    (waits : schedule.InPhase record .scheduled) : (schedule.forget node).2.Dropped record := by
  refine ⟨waits, fun name still => ?_⟩
  have erased : (schedule.tracked.erase node).get? name = some record := still
  obtain rfl := consistent.tracked_unique tracked (Table.get?_of_erase erased)
  rw [Table.get?_erase, if_pos rfl] at erased
  cases erased

/-- A record that waits is dropped when everything halts. -/
theorem Consistent.dropped_halt (consistent : schedule.Consistent) {node : String} {record : Nat}
    (tracked : schedule.tracked.get? node = some record)
    (waits : schedule.InPhase record .scheduled) : schedule.halt.2.Dropped record := by
  refine ⟨waits, fun name still => ?_⟩
  have erased : (schedule.armed.keys.foldl Table.erase schedule.tracked).get? name =
    some record := still
  rw [Table.get?_foldl_erase] at erased
  split at erased
  · cases erased
  · rename_i unarmed
    obtain rfl := consistent.tracked_unique tracked erased
    exact unarmed (Table.mem_keys_iff.mpr ⟨record, consistent.armed.mpr ⟨tracked, waits⟩⟩)

/-- All that is still asked for a record that was dropped while it waited is that its drain begins. -/
theorem Fits.asks_of_dropped {timer record : Nat} {node : Node} {request : Control.Request T}
    {reply : (Control T).Reply request} (fits : schedule.Fits (.timer timer node record) duty)
    (allowed : Duty.Allows duty request reply later) (dropped : schedule.Dropped record) :
    ∃ begun, (⟨request, reply⟩ : Exchange (Control T)) = Control.launching node record begun := by
  cases fits with
  | launch => exact allowed.of_launch
  | execute _ begun => cases begun.unique dropped.1
  | conclude _ begun => cases begun.unique dropped.1
  | dismissed => exact absurd allowed Duty.Allows.not_dismissed
  | concluded _ terminal ended =>
    rw [ended.unique dropped.1] at terminal
    cases terminal

variable [TimeScale T] {controller : Controller T} {now : T} {desk : Desk T}
  {request : Control.Request T} {reply : (Control T).Reply request}

/-- What the desk answers to the clerk of a record concerns no other record. -/
theorem Agreed.confined {timer record : Nat} {node : Node} (agreed : desk.schedule.Agreed roster)
    (here : roster[clerk]? = some (.timer timer node record, duty))
    (at_desk : request.isErrand = false) (given : (controller.atDesk now request desk).1 = reply)
    (allowed : Duty.Allows duty request reply later) :
    desk.schedule.SameBut record (controller.atDesk now request desk).2.schedule := by
  have fits := agreed.fits here
  cases allowed with
  | launched name =>
    cases fits with
    | launch went waits =>
    have current : desk.schedule.tracked.get? node.name = some record := launch_iff.mp given
    show SameBut record desk.schedule (desk.schedule.launch now node.name record).2
    rw [launch_current current]
    refine sameBut_change fun {name place} other => ?_
    rw [Table.get?_erase]
    split
    · rename_i same
      subst same
      refine ⟨nofun, fun armed => absurd ?_ other⟩
      have tracked := (agreed.consistent.armed.mp armed).1
      rw [current] at tracked
      exact (Option.some.inj tracked).symm
    · exact .rfl
  | dismissed name place =>
    have gone : (desk.schedule.launch now name place).1 = false := given
    show SameBut record desk.schedule (desk.schedule.launch now name place).2
    rw [(launch_dismissed gone).2]
    exact .refl record _
  | finish =>
    cases fits with
    | conclude went begun => exact sameBut_change fun _ => .rfl
  | countDrain success => exact .refl record _
  | drain | announce | cordon => cases at_desk
  | look | booked | unbooked | arm | start | forget | clear | halt | cancel | countCordon | screen
  | release | complain => cases fits

/-- What the desk answers to a clerk touches no record but the one the clerk works for. -/
theorem Agreed.grows (agreed : desk.schedule.Agreed roster)
    (here : roster[clerk]? = some (cause, duty)) (at_desk : request.isErrand = false)
    (given : (controller.atDesk now request desk).1 = reply)
    (allowed : Duty.Allows duty request reply later) :
    desk.schedule.Grows (fun record => ∃ timer node, cause = .timer timer node record)
      (controller.atDesk now request desk).2.schedule := by
  have fits := agreed.fits here
  have same : desk.schedule.Grows (fun record => ∃ timer node, cause = .timer timer node record)
      desk.schedule := (Grows.refl _).mono fun _ => False.elim
  cases allowed with
  | booked node appointment => exact (grows_book (Prod.ext given rfl)).mono fun _ => False.elim
  | unbooked node failure =>
    have unchanged : (desk.schedule.book now node).2 = desk.schedule :=
      book_eq_error (Prod.ext given rfl)
    show desk.schedule.Grows _ (desk.schedule.book now node).2
    rwa [unchanged]
  | start | cancel => exact (grows_turnTimer rfl).mono fun _ => False.elim
  | forget node reply =>
    exact (grows_drop Table.get?_of_erase Table.get?_of_erase).mono fun _ => False.elim
  | clear node reply =>
    show desk.schedule.Grows _ (desk.schedule.clear node).2
    unfold Schedule.clear
    split
    · exact (grows_drop Table.get?_of_erase id).mono fun _ => False.elim
    · exact same
  | halt reply =>
    refine (grows_drop (fun {node place} found => ?_) fun {node timer} found => ?_).mono
      fun _ => False.elim
    · rw [Table.get?_foldl_erase] at found
      split at found
      · cases found
      · exact found
    · rw [Table.get?_empty] at found
      cases found
  | launched node place =>
    have current : desk.schedule.tracked.get? node = some place := launch_iff.mp given
    show desk.schedule.Grows _ (desk.schedule.launch now node place).2
    rw [launch_current current]
    cases fits with
    | launch went waits =>
    refine (grows_change Table.get?_of_erase).mono ?_
    rintro _ rfl
    exact ⟨_, _, rfl⟩
  | dismissed node place =>
    have gone : (desk.schedule.launch now node place).1 = false := given
    show desk.schedule.Grows _ (desk.schedule.launch now node place).2
    rwa [(launch_dismissed gone).2]
  | finish place retries error =>
    cases fits with
    | conclude went begun =>
    refine (grows_change id).mono ?_
    rintro _ rfl
    exact ⟨_, _, rfl⟩
  | drain | announce | cordon => cases at_desk
  | look | arm | countCordon | countDrain | screen | release | complain => exact same

/-- A record that waited and was dropped stays as it is, whatever is answered to whom. -/
theorem Agreed.dropped {record : Nat} (agreed : desk.schedule.Agreed roster)
    (here : roster[clerk]? = some (cause, duty)) (at_desk : request.isErrand = false)
    (given : (controller.atDesk now request desk).1 = reply)
    (allowed : Duty.Allows duty request reply later) (dropped : desk.schedule.Dropped record) :
    (controller.atDesk now request desk).2.schedule.Dropped record := by
  by_cases own : ∃ timer node, cause = .timer timer node record
  · obtain ⟨timer, node, rfl⟩ := own
    obtain ⟨begun, same⟩ := (agreed.fits here).asks_of_dropped allowed dropped
    cases same
    show Dropped (desk.schedule.launch now node.name record).2 record
    rwa [launch_dropped (dropped.2 node.name)]
  · exact (agreed.grows here at_desk given allowed).dropped own dropped

end Schedule

namespace Office

variable [TimeScale T] {controller : Controller T} {office later : Office T} {roster : Roster}
  {deed : Deed T} {record : Nat}

/-- A record that waited and was dropped stays as it is. -/
theorem Sound.dropped (sound : office.Sound roster) (step : Step controller office deed later)
    (dropped : office.desk.schedule.Dropped record) : later.desk.schedule.Dropped record := by
  cases step with
  | command | send | back => exact dropped
  | fire stands ready now =>
    rw [Controller.atDesk_fire controller now office.desk stands]
    exact (Schedule.grows_turnTimer rfl).dropped not_false dropped
  | ask found here now =>
    obtain ⟨duty, entry, follows⟩ := sound.follows found
    obtain ⟨_, allowed, _⟩ := follows (controller.atDesk now _ office.desk).1
    exact sound.agreed.dropped entry here rfl allowed dropped

/-- What is done for a record concerns no other. -/
theorem Sound.confined {timer : Nat} {node : Node} (sound : office.Sound roster)
    (step : Step controller office deed later) (cause : deed.cause = .timer timer node record) :
    office.desk.schedule.SameBut record later.desk.schedule := by
  cases step with
  | command given => cases cause
  | send | back => exact .refl record _
  | fire stands ready now =>
    cases cause
    rw [Controller.atDesk_fire controller now office.desk stands,
      (sound.agreed.consistent.own stands).1]
    exact Schedule.sameBut_turnTimer _ _
  | ask found here now =>
    cases cause
    obtain ⟨duty, entry, follows⟩ := sound.follows found
    obtain ⟨_, allowed, _⟩ := follows (controller.atDesk now _ office.desk).1
    exact sound.agreed.confined entry here rfl allowed

/-- What is done for a record that was dropped changes nothing but the state of its timer: the timer
goes off, and the drain does not begin. -/
theorem Sound.quiet {timer : Nat} {node : Node} (sound : office.Sound roster)
    (step : Step controller office deed later) (cause : deed.cause = .timer timer node record)
    (dropped : office.desk.schedule.Dropped record) :
    (deed = .began deed.clerk deed.cause ∨
      deed = .asked deed.clerk deed.cause (Control.launching node record false)) ∧
    later.desk = { office.desk with
      schedule := { office.desk.schedule with timers := later.desk.schedule.timers } } := by
  cases step with
  | command given => cases cause
  | fire stands ready now =>
    rw [Controller.atDesk_fire controller now office.desk stands]
    exact ⟨.inl rfl, rfl⟩
  | @ask place _ request next found here now =>
    cases cause
    obtain ⟨duty, entry, follows⟩ := sound.follows found
    obtain ⟨_, allowed, _⟩ := follows (controller.atDesk now request office.desk).1
    obtain ⟨begun, same⟩ := (sound.agreed.fits entry).asks_of_dropped allowed dropped
    obtain rfl : request = .transact (.launch node.name record) := congrArg Exchange.request same
    have unchanged : office.desk.schedule.launch now node.name record =
        (false, office.desk.schedule) := Schedule.launch_dropped (dropped.2 node.name)
    have answered : controller.atDesk now (.transact (.launch node.name record)) office.desk =
        (false, office.desk) := by
      show ((office.desk.schedule.launch now node.name record).1,
        { office.desk with schedule := (office.desk.schedule.launch now node.name record).2 }) = _
      rw [unchanged]
    rw [answered]
    exact ⟨.inr rfl, rfl⟩
  | @send place _ request next found errand =>
    cases cause
    obtain ⟨duty, entry, follows⟩ := sound.follows found
    obtain ⟨reply⟩ := Control.nonempty_reply request
    obtain ⟨_, allowed, _⟩ := follows reply
    obtain ⟨begun, same⟩ := (sound.agreed.fits entry).asks_of_dropped allowed dropped
    cases same
    cases errand
  | @back place _ request next found outcome =>
    cases cause
    obtain ⟨duty, entry, follows⟩ := sound.follows found
    obtain ⟨_, allowed, _⟩ := follows outcome
    have errand := sound.errand found
    obtain ⟨begun, same⟩ := (sound.agreed.fits entry).asks_of_dropped allowed dropped
    cases same
    cases errand

end Office

end Evacuation
