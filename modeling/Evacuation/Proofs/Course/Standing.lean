import Mathlib.Data.List.Nodup
import Evacuation.Proofs.Course.Basic
import Evacuation.Proofs.Office.Sound
import Evacuation.Proofs.Office.Spacing
/-!
# The standing of a node

Records and timers lie in lists that all nodes share, and their places depend on all nodes. The
standing of a node is what the schedule says about the node without any places: its current record,
whether a timer is armed for it, and of each of its timers whether it has gone off and whether it
was made for the current record. Each transaction is described by what it does to the standing of a
node, be it the node's own transaction or another's (`Schedule.Filed.standing_book`, and so on).
-/
namespace Evacuation

variable {T : Type}

/-- A timer as its node sees it. -/
structure Alarm where
  node : Node
  wentOff : Bool
  /-- The record it was made for is the current one. -/
  isCurrent : Bool
  deriving DecidableEq

/-- The alarm once it has gone off. -/
def Alarm.ring (alarm : Alarm) : Alarm := { alarm with wentOff := true }

/-- The alarm once the record it was made for is dropped. -/
def Alarm.drop (alarm : Alarm) : Alarm := { alarm with isCurrent := false }

/-- What a schedule says about a node, without places. -/
structure Standing (T : Type) where
  record : Option (DrainRecord T)
  isArmed : Bool
  /-- The timers made for the node, in the order in which they were made. -/
  alarms : List (Option Alarm)

namespace Standing

/-- The standing with the current record dropped. -/
def drop (standing : Standing T) : Standing T :=
  { standing with record := none, alarms := standing.alarms.map (·.map Alarm.drop) }

/-- The standing once the drain for its record has begun. -/
def launch (standing : Standing T) (now : T) : Standing T :=
  { standing with record := standing.record.map (·.begun now), isArmed := false }

/-- The standing once the drain for its record has ended. -/
def finish (standing : Standing T) (now : T) (retries : Int) (error : Option String) : Standing T :=
  { standing with record := standing.record.map (·.finish now retries error) }

/-- The standing with another record and a timer for it. -/
def book (standing : Standing T) (node : Node) (start : T) : Standing T :=
  { record := some ((DrainRecord.fresh node.name).schedule start)
    isArmed := true
    alarms := standing.alarms ++ [some ⟨node, false, true⟩] }

end Standing

namespace Schedule

/-- A timer as the node of a name sees it. -/
def alarm? (schedule : Schedule T) (name : String) (place : Nat) : Option Alarm :=
  schedule.timers[place]?.map fun timer =>
    ⟨timer.node, timer.state == .fired, schedule.isCurrent name place⟩

/-- The standing of the node of a name. -/
def standing (schedule : Schedule T) (name : String) : Standing T :=
  { record := schedule.current? name
    isArmed := schedule.armed.contains name
    alarms := (schedule.places name).map (schedule.alarm? name) }

/-- Whether a timer has gone off is seen by its node. -/
theorem hasGoneOff_eq {schedule : Schedule T} (name : String) (place : Nat) :
    schedule.hasGoneOff place = (schedule.alarm? name place).any (·.wentOff) := by
  rw [hasGoneOff, alarm?, Option.any_map]

/-! ## The places of timers -/

theorem mem_places {schedule : Schedule T} {name : String} {place : Nat} :
    place ∈ schedule.places name ↔
      ∃ found, schedule.timers[place]? = some found ∧ found.node.name = name := by
  rw [places, List.mem_filter, List.mem_range, Option.any_eq_true]
  constructor
  · rintro ⟨_, found, stands, named⟩
    exact ⟨found, stands, eq_of_beq named⟩
  · rintro ⟨found, stands, rfl⟩
    exact ⟨(List.getElem?_eq_some_iff.mp stands).1, found, stands, beq_self_eq_true _⟩

theorem nodup_places (schedule : Schedule T) (name : String) : (schedule.places name).Nodup :=
  List.nodup_range.filter _

/-- The places of a node's timers do not change as long as no timer is made and none changes its
node. -/
theorem places_congr {before after : Schedule T} (name : String)
    (kept : after.timers.map (·.node) = before.timers.map (·.node)) :
    after.places name = before.places name := by
  have length : after.timers.length = before.timers.length := by
    simpa using congrArg List.length kept
  unfold places
  rw [length]
  refine List.filter_congr fun place _ => ?_
  have same := congrArg (·[place]?.any (·.name == name)) kept
  simpa only [List.getElem?_map, Option.any_map] using same

/-- A timer that is made is one more timer of its node, and none of any other. -/
theorem places_concat {before after : Schedule T} {made : Timer T} (name : String)
    (timers : after.timers = before.timers ++ [made]) :
    after.places name =
      before.places name ++ if made.node.name = name then [before.timers.length] else [] := by
  unfold places
  rw [timers, List.length_append, List.length_singleton, List.range_succ, List.filter_append]
  congr 1
  · refine List.filter_congr fun place listed => ?_
    rw [List.getElem?_append_left (List.mem_range.mp listed)]
  · rw [List.filter_singleton, List.getElem?_concat_length, Option.any_some]
    by_cases named : made.node.name = name
    · rw [if_pos named, named, beq_self_eq_true]
      rfl
    · rw [if_neg named, beq_false_of_ne named]
      rfl

/-! ## Records and timers are filed in pairs -/

/-- Records and timers are filed in pairs under the names of their nodes. -/
structure Filed (schedule : Schedule T) : Prop where
  paired : schedule.records.length = schedule.timers.length
  /-- A timer was made for the record at its own place, and for the node of that record. -/
  own {timer : Nat} {found : Timer T} : schedule.timers[timer]? = some found →
    found.record = timer ∧
      ∃ record, schedule.records[timer]? = some record ∧ record.node = found.node.name
  tracked {node : String} {place : Nat} : schedule.tracked.get? node = some place →
    ∃ record, schedule.records[place]? = some record ∧ record.node = node

theorem Consistent.filed {schedule : Schedule T} (consistent : schedule.Consistent) :
    schedule.Filed :=
  ⟨consistent.paired, consistent.own, consistent.tracked⟩

/-- A record belongs to another node than that of a name. -/
def Foreign (schedule : Schedule T) (name : String) (record : Nat) : Prop :=
  ∃ found, schedule.records[record]? = some found ∧ found.node ≠ name

namespace Filed

variable {schedule : Schedule T}

/-- The current record of a node is not that of another. -/
theorem untracked_of_foreign (filed : schedule.Filed) {name : String} {record : Nat}
    (foreign : schedule.Foreign name record) : schedule.tracked.get? name ≠ some record := by
  intro tracked
  obtain ⟨found, stands, other⟩ := foreign
  obtain ⟨also, stood, named⟩ := filed.tracked tracked
  rw [stands] at stood
  cases stood
  exact other named

/-- The record that another node tracks belongs to another node. -/
theorem foreign_of_tracked (filed : schedule.Filed) {name other : String} {record : Nat}
    (tracked : schedule.tracked.get? other = some record) (apart : other ≠ name) :
    schedule.Foreign name record := by
  obtain ⟨found, stands, rfl⟩ := filed.tracked tracked
  exact ⟨found, stands, apart⟩

/-- A node is tracked exactly if it has a current record. -/
theorem isSome_current? (filed : schedule.Filed) (name : String) :
    (schedule.current? name).isSome = schedule.tracked.contains name := by
  unfold current? Table.contains
  cases tracked : schedule.tracked.get? name with
  | none => rfl
  | some place =>
    obtain ⟨found, stands, _⟩ := filed.tracked tracked
    rw [Option.bind_some, stands]
    rfl

/-- Records may be changed, and what is tracked may be dropped. -/
theorem change (filed : schedule.Filed) {records : List (DrainRecord T)}
    {tracked : Table String Nat} (armed : Table String Nat)
    (kept : records.map (·.node) = schedule.records.map (·.node))
    (fewer : ∀ {node place}, tracked.get? node = some place →
      schedule.tracked.get? node = some place) :
    Filed { schedule with records, tracked, armed } := by
  have found {place : Nat} {record : DrainRecord T}
      (stands : schedule.records[place]? = some record) :
      ∃ later, records[place]? = some later ∧ later.node = record.node := by
    have same : (records.map (·.node))[place]? = some record.node := by
      rw [kept, List.getElem?_map, stands]
      rfl
    rw [List.getElem?_map] at same
    exact Option.map_eq_some_iff.mp same
  refine ⟨?_, fun {timer made} stands => ?_, fun {name place} tracks => ?_⟩
  · have length : records.length = schedule.records.length := by
      simpa using congrArg List.length kept
    exact length.trans filed.paired
  · obtain ⟨same, record, stood, named⟩ := filed.own stands
    obtain ⟨later, at_place, node⟩ := found stood
    exact ⟨same, later, at_place, node.trans named⟩
  · obtain ⟨record, stood, named⟩ := filed.tracked (fewer tracks)
    obtain ⟨later, at_place, node⟩ := found stood
    exact ⟨later, at_place, node.trans named⟩

/-- One record may be changed, with what is armed. -/
theorem amend (filed : schedule.Filed) (record : Nat) {update : DrainRecord T → DrainRecord T}
    (armed : Table String Nat) (kept : ∀ found, (update found).node = found.node) :
    Filed { schedule.change record update with armed } :=
  filed.change armed (map_modify_of_kept kept schedule.records record) id

theorem turnTimer (filed : schedule.Filed) (timer : Nat) (turn : TimerState → TimerState) :
    (schedule.turnTimer timer turn).Filed where
  paired := by simpa [Schedule.turnTimer] using filed.paired
  own {other later} stands := by
    rw [timers_turnTimer] at stands
    obtain ⟨found, stood, rfl⟩ := Option.map_eq_some_iff.mp stands
    have own := filed.own stood
    exact own
  tracked := filed.tracked

variable [TimeScale T]

theorem book (filed : schedule.Filed) (now : T) (node : Node) :
    (schedule.book now node).2.Filed := by
  generalize booked : schedule.book now node = outcome
  obtain ⟨_ | appointment, later⟩ := outcome
  · rw [book_eq_error booked]
    exact filed
  obtain ⟨unknown, _, start, interval, buffer, rfl⟩ := book_eq_ok booked
  have paired := filed.paired
  refine ⟨by simp [paired], fun {timer found} stands => ?_, fun {name place} tracked => ?_⟩
  · simp only [List.getElem?_append, List.getElem?_singleton] at stands ⊢
    split at stands
    · obtain ⟨same, record, at_place, named⟩ := filed.own stands
      exact ⟨same, record, by rwa [if_pos (by omega)], named⟩
    · split at stands <;> cases stands
      refine ⟨by dsimp only; omega, (DrainRecord.fresh node.name).schedule start, ?_, rfl⟩
      rw [if_neg (by omega), if_pos (by omega)]
  · rw [Table.get?_insert] at tracked
    split at tracked
    · rename_i same
      cases tracked
      exact ⟨_, List.getElem?_concat_length, same⟩
    · obtain ⟨record, at_place, named⟩ := filed.tracked tracked
      have inside := (List.getElem?_eq_some_iff.mp at_place).1
      exact ⟨record, by rwa [List.getElem?_append_left inside], named⟩

end Filed

/-! ## What transactions do to a standing -/

section Effects

variable {schedule : Schedule T} {name : String}

/-- Nothing changes for a node that stays tracked as it is but what is armed. -/
theorem standing_of_kept {tracked : Table String Nat} (armed : Table String Nat)
    (kept : tracked.get? name = schedule.tracked.get? name) :
    standing { schedule with tracked, armed } name =
      { schedule.standing name with isArmed := armed.contains name } := by
  have alarms (place : Nat) :
      alarm? { schedule with tracked, armed } name place = schedule.alarm? name place := by
    simp only [alarm?, isCurrent, kept]
  simp only [standing, current?, kept, places]
  exact congrArg (Standing.mk _ _) (List.map_congr_left fun place _ => alarms place)

/-- A node that is no longer tracked has its record dropped. -/
theorem standing_of_untracked {tracked : Table String Nat} (armed : Table String Nat)
    (gone : tracked.get? name = none) :
    standing { schedule with tracked, armed } name =
      { (schedule.standing name).drop with isArmed := armed.contains name } := by
  have alarms (place : Nat) : alarm? { schedule with tracked, armed } name place =
      (schedule.alarm? name place).map Alarm.drop := by
    simp only [alarm?, isCurrent, gone, Option.map_map]
    rfl
  simp only [standing, Standing.drop, current?, gone, Option.bind_none, places, List.map_map]
  congr 1
  exact List.map_congr_left fun place _ => alarms place

/-- What a look at a node shows is in its record. -/
theorem status_eq (schedule : Schedule T) (node : String) : schedule.status node =
    ((schedule.current? node).isSome,
      (schedule.current? node).any fun record => decide (record.phase = .failed)) := by
  unfold status
  cases schedule.current? node <;> rfl

theorem standing_forget (node : String) : (schedule.forget node).2.standing name =
    if node = name then { (schedule.standing name).drop with isArmed := false }
    else schedule.standing name := by
  unfold forget
  split
  · rename_i same
    rw [standing_of_untracked _ (by rw [Table.get?_erase, if_pos same]), Table.contains,
      Table.get?_erase, if_pos same, Option.isSome_none]
  · rename_i other
    rw [standing_of_kept _ (by rw [Table.get?_erase, if_neg other]), Table.contains,
      Table.get?_erase, if_neg other]
    rfl

theorem standing_clear (node : String) : (schedule.clear node).2.standing name =
    if node = name ∧ (schedule.current? name).any (·.phase.isTerminal) then
      (schedule.standing name).drop
    else schedule.standing name := by
  unfold clear
  by_cases ended : (schedule.current? node).any (·.phase.isTerminal) = true
  · rw [if_pos ended]
    by_cases same : node = name
    · subst same
      rw [if_pos ⟨rfl, ended⟩, standing_of_untracked schedule.armed (by simp)]
      rfl
    · rw [if_neg fun both => same both.1, standing_of_kept schedule.armed (by simp [same])]
      rfl
  · rw [if_neg ended, if_neg]
    rintro ⟨rfl, now⟩
    exact ended now

theorem fst_clear (node : String) :
    (schedule.clear node).1 = (schedule.current? node).any (·.phase.isTerminal) := by
  unfold clear
  split
  · rename_i ended
    exact ended.symm
  · rename_i going
    exact (Bool.eq_false_iff.mpr going).symm

theorem standing_halt : schedule.halt.2.standing name =
    if (schedule.standing name).isArmed then { (schedule.standing name).drop with isArmed := false }
    else schedule.standing name := by
  unfold halt
  have listed : name ∈ schedule.armed.keys ↔ (schedule.standing name).isArmed = true :=
    Table.mem_keys_iff.trans Table.contains_iff.symm
  split
  · rename_i armed
    rw [standing_of_untracked _ (by rw [Table.get?_foldl_erase, if_pos (listed.mpr armed)])]
    rfl
  · rename_i unarmed
    rw [standing_of_kept _
      (by rw [Table.get?_foldl_erase, if_neg fun armed => unarmed (listed.mp armed)])]
    rw [Bool.not_eq_true] at unarmed
    exact congrArg (fun armed => { schedule.standing name with isArmed := armed }) unarmed.symm

/-- A change of a record shows in the standing of the node whose current record it is. -/
theorem standing_change (record : Nat) (update : DrainRecord T → DrainRecord T)
    (armed : Table String Nat) :
    standing { schedule.change record update with armed } name =
      { record :=
          if schedule.isCurrent name record then (schedule.current? name).map update
          else schedule.current? name
        isArmed := armed.contains name
        alarms := (schedule.standing name).alarms } := by
  have current : current? { schedule.change record update with armed } name =
      if schedule.isCurrent name record then (schedule.current? name).map update
      else schedule.current? name := by
    unfold current? isCurrent Schedule.change
    cases tracked : schedule.tracked.get? name with
    | none => rfl
    | some place =>
      rw [Option.bind_some, Option.bind_some, List.getElem?_modify]
      by_cases same : record = place
      · subst same
        simp
      · have other : ¬ place = record := fun equal => same equal.symm
        simp [same, other]
  unfold standing
  rw [current]
  rfl

theorem places_turnTimer (schedule : Schedule T) (timer : Nat) (turn : TimerState → TimerState) :
    (schedule.turnTimer timer turn).places name = schedule.places name :=
  places_congr name (@map_modify_of_kept _ _ (·.node)
    (fun found => { found with state := turn found.state }) (fun _ => rfl) schedule.timers timer)

/-- Whatever happens to a timer, the others are to the node what they were. -/
theorem alarm?_turnTimer_of_ne {timer place : Nat} (other : timer ≠ place)
    (turn : TimerState → TimerState) :
    (schedule.turnTimer timer turn).alarm? name place = schedule.alarm? name place := by
  unfold alarm?
  rw [timers_turnTimer, Option.map_map]
  refine congrArg (Option.map · _) (funext fun found => ?_)
  simp only [Function.comp_apply, if_neg other]
  rfl

/-- A timer that is started or cancelled is to its node what it was. -/
theorem standing_turnTimer {turn : TimerState → TimerState}
    (kept : ∀ state, (turn state == .fired) = (state == .fired)) (timer : Nat) :
    (schedule.turnTimer timer turn).standing name = schedule.standing name := by
  unfold standing
  rw [places_turnTimer]
  refine congrArg (Standing.mk _ _) (List.map_congr_left fun place _ => ?_)
  by_cases same : timer = place
  · subst same
    unfold alarm?
    rw [timers_turnTimer, Option.map_map]
    refine congrArg (Option.map · _) (funext fun found => ?_)
    simp only [Function.comp_apply, if_pos, kept]
    rfl
  · exact alarm?_turnTimer_of_ne same turn

/-- The end of a drain shows in the standing of the node whose current record it is about. -/
theorem standing_finish {record : Nat} (current : schedule.isCurrent name record = true) (now : T)
    (retries : Int) (error : Option String) :
    (schedule.change record (·.finish now retries error)).standing name =
      (schedule.standing name).finish now retries error := by
  refine (standing_change record _ schedule.armed).trans ?_
  rw [if_pos current]
  rfl

/-- What changes for one member of a list without repetitions changes at one place. -/
theorem map_eq_modify {α β : Type} {list : List α} (nodup : list.Nodup) {which : Nat} {member : α}
    (there : list[which]? = some member) {before after : α → β} {update : β → β}
    (here : after member = update (before member))
    (elsewhere : ∀ other, member ≠ other → after other = before other) :
    list.map after = (list.map before).modify which update := by
  apply List.ext_getElem?
  intro place
  rw [List.getElem?_modify, List.getElem?_map, List.getElem?_map]
  cases found : list[place]? with
  | none => rfl
  | some other =>
    refine congrArg some ?_
    by_cases same : which = place
    · subst same
      cases there.symm.trans found
      exact here.trans (if_pos rfl).symm
    · have apart : member ≠ other := by
        rintro rfl
        obtain ⟨inside, at_which⟩ := List.getElem?_eq_some_iff.mp there
        obtain ⟨within, at_place⟩ := List.getElem?_eq_some_iff.mp found
        exact same (nodup.getElem_inj_iff.mp (at_which.trans at_place.symm))
      exact (elsewhere other apart).trans (if_neg same).symm

/-- A timer that goes off does so for its node, whichever of the node's timers it is. -/
theorem standing_fire {timer which : Nat} (there : (schedule.places name)[which]? = some timer) :
    (schedule.turnTimer timer .fire).standing name =
      { schedule.standing name with
        alarms := (schedule.standing name).alarms.modify which (·.map Alarm.ring) } := by
  unfold standing
  rw [places_turnTimer]
  refine congrArg (Standing.mk _ _) (map_eq_modify (schedule.nodup_places name) there ?_ ?_)
  · unfold alarm?
    rw [timers_turnTimer, Option.map_map, Option.map_map]
    refine congrArg (Option.map · _) (funext fun found => ?_)
    simp only [Function.comp_apply, if_pos, TimerState.fire]
    rfl
  · exact fun place other => alarm?_turnTimer_of_ne other _

/-- A timer that goes off for another node is to this one what it was. -/
theorem standing_fire_of_apart {timer : Nat} {found : Timer T}
    (stands : schedule.timers[timer]? = some found) (apart : found.node.name ≠ name) :
    (schedule.turnTimer timer .fire).standing name = schedule.standing name := by
  unfold standing
  rw [places_turnTimer]
  refine congrArg (Standing.mk _ _) (List.map_congr_left fun place listed => ?_)
  obtain ⟨made, stood, named⟩ := mem_places.mp listed
  have other : timer ≠ place := by
    rintro rfl
    rw [stands] at stood
    cases stood
    exact apart named
  exact alarm?_turnTimer_of_ne other _

/-- A drain whose record is not the current one does not begin. -/
theorem launch_of_not_current (now : T) {node : String} {record : Nat}
    (dropped : schedule.isCurrent node record = false) :
    schedule.launch now node record = (false, schedule) :=
  if_neg (by rw [dropped]; exact Bool.false_ne_true)

/-- The beginning of a drain shows in the standing of its node only. -/
theorem Filed.standing_launch (filed : schedule.Filed) (now : T) (node : String) (record : Nat) :
    (schedule.launch now node record).2.standing name =
      if node = name ∧ schedule.isCurrent name record = true then (schedule.standing name).launch now
      else schedule.standing name := by
  by_cases current : schedule.tracked.get? node = some record
  · rw [launch_current current, standing_change, Table.contains, Table.get?_erase]
    by_cases same : node = name
    · subst same
      have own : schedule.isCurrent node record = true := by simpa [isCurrent] using current
      rw [if_pos own, if_pos rfl, if_pos ⟨rfl, own⟩]
      rfl
    · have foreign := filed.foreign_of_tracked current same
      have other : ¬ schedule.isCurrent name record = true := by
        simpa [isCurrent] using filed.untracked_of_foreign foreign
      rw [if_neg other, if_neg same, if_neg fun both => same both.1]
      rfl
  · rw [launch_dropped current, if_neg]
    rintro ⟨rfl, own⟩
    exact current (by simpa [isCurrent] using own)

/-- A drain whose record is the current one begins, and its record stays the current one. -/
theorem Filed.launch_of_current (filed : schedule.Filed) (now : T) {node : String} {record : Nat}
    (current : schedule.isCurrent node record = true) :
    ∃ later, schedule.launch now node record = (true, later) ∧ later.Filed ∧
      later.isCurrent node record = true ∧
      later.standing node = (schedule.standing node).launch now := by
  have launched : (schedule.launch now node record).2.standing node = _ :=
    filed.standing_launch now node record
  rw [if_pos ⟨rfl, current⟩] at launched
  have begins : schedule.launch now node record =
      (true, { schedule.change record (·.begun now) with armed := schedule.armed.erase node }) :=
    if_pos current
  rw [begins] at launched
  refine ⟨_, begins, ?_, current, launched⟩
  exact filed.amend record _ fun _ => rfl

variable [TimeScale T]

/-- A node that has a record is not booked. -/
theorem book_of_tracked (now : T) {node : Node}
    (known : schedule.tracked.contains node.name = true) :
    schedule.book now node = (.error (.alreadyScheduled node.name), schedule) := if_pos known

/-- A node that has no record is booked. -/
theorem book_of_untracked (now : T) {node : Node}
    (unknown : schedule.tracked.contains node.name = false) :
    ∃ appointment later, schedule.book now node = (.ok appointment, later) :=
  ⟨_, _, if_neg (by rw [unknown]; exact Bool.false_ne_true)⟩

/-- A booking makes a record and a timer for its own node. -/
theorem Filed.standing_book (filed : schedule.Filed) {now : T} {node : Node}
    {appointment : Appointment T} {later : Schedule T}
    (booked : schedule.book now node = (.ok appointment, later)) :
    later.standing name =
      if node.name = name then (schedule.standing name).book node appointment.start
      else schedule.standing name := by
  have unknown := (book_eq_ok booked).1
  unfold Schedule.book at booked
  split at booked
  · cases booked
  cases booked
  have inside {place : Nat} (listed : place ∈ schedule.places name) :
      place < schedule.timers.length := by
    obtain ⟨found, stands, _⟩ := mem_places.mp listed
    exact (List.getElem?_eq_some_iff.mp stands).1
  have paired := filed.paired
  split
  · rename_i same
    subst same
    simp only [standing, Standing.book]
    congr 1
    · simp [current?]
    · simp [Table.contains]
    · rw [places_concat _ rfl, if_pos rfl, List.map_append]
      congr 1
      · refine List.map_congr_left fun place listed => ?_
        have old := inside listed
        have newer : (schedule.records.length == place) = false :=
          beq_false_of_ne (by omega)
        simp [alarm?, isCurrent, List.getElem?_append_left old, unknown, newer]
      · simp [alarm?, isCurrent, paired]
  · rename_i other
    simp only [standing]
    congr 1
    · rw [current?, Table.get?_insert, if_neg other]
      cases tracked : schedule.tracked.get? name with
      | none => simp [current?, tracked]
      | some place =>
        obtain ⟨found, stands, _⟩ := filed.tracked tracked
        have old := (List.getElem?_eq_some_iff.mp stands).1
        simp [current?, tracked, List.getElem?_append_left old]
    · simp [Table.contains, other]
    · rw [places_concat _ rfl, if_neg other, List.append_nil]
      refine List.map_congr_left fun place listed => ?_
      simp [alarm?, isCurrent, List.getElem?_append_left (inside listed), other]

end Effects

end Schedule

end Evacuation
