import Evacuation.Proofs.Paths
import Evacuation.Schedule.Control
/-!
# Paths through a drain

What the program of a drain can have been answered, and what is then left of it: the drain was
dismissed, was begun but could not be announced, or was carried out once, written down, counted once
and announced (`Control.reaches_runDrain`, `Control.reaches_concludeDrain`). A drain that is to be
scheduled was refused, or it was engaged, and then its start was shown and announced, as far as that
went (`Control.reaches_schedule`).
-/
namespace Evacuation

variable {T : Type}

namespace Control

/-- An announcement is still to be made, has failed, or was made and the program goes on. -/
theorem reaches_announcing {α : Type} {stage : Stage} {node message : String}
    {rest : Controlling T (Except Failure α)} {path : List (Exchange (Control T))}
    {left : Controlling T (Except Failure α)}
    (reached : Program.Reaches (announcing stage node message rest) path left) :
    path = [] ∧ left = announcing stage node message rest ∨
      (∃ failure, path = [⟨.announce stage node message, .error failure⟩] ∧
        left = .done (.error failure)) ∨
      ∃ onward, path = ⟨.announce stage node message, .ok ()⟩ :: onward ∧
        Program.Reaches rest onward left := by
  obtain ⟨rfl, rfl⟩ | ⟨reply, tail, rfl, after⟩ := Program.reaches_ask_iff.mp reached
  · exact .inl ⟨rfl, rfl⟩
  · cases reply with
    | error failure =>
      obtain ⟨rfl, rfl⟩ := Program.reaches_done_iff.mp after
      exact .inr (.inl ⟨failure, rfl, rfl⟩)
    | ok value => exact .inr (.inr ⟨tail, rfl, after⟩)

/-- How a drain is counted that left an error text, or none. -/
def verdict (error : Option String) : Success :=
  if DrainRecord.isFault error then .failed else .succeeded

/-- The stage that announces how a drain was counted. -/
def endStage : Success → Stage
  | .succeeded => .drainSucceeded
  | .failed => .drainFailed

/-- The exchange by which the end of a drain is written down. -/
def finishing (record : Nat) (drained : Except Failure DrainReport) : Exchange (Control T) :=
  ⟨.transact (.finish record (ending drained).1 (ending drained).2), ()⟩

/-- The exchange by which a drain is counted. -/
def counting (drained : Except Failure DrainReport) : Exchange (Control T) :=
  ⟨.count .drained (verdict (ending drained).2), ()⟩

/-- How far the conclusion of a drain can have come, by what it was answered and what is left. -/
inductive ConclusionPath (node : Node) (record : Nat) (drained : Except Failure DrainReport) :
    List (Exchange (Control T)) → Controlling T (Except Failure Unit) → Prop where
  | waiting : ConclusionPath node record drained [] (concludeDrain node record drained)
  | finished (message : String) :
      ConclusionPath node record drained [finishing record drained]
        (.ask (.count .drained (verdict (ending drained).2)) fun _ =>
          announcing (endStage (verdict (ending drained).2)) node.name message (.done (.ok ())))
  | counted (message : String) :
      ConclusionPath node record drained [finishing record drained, counting drained]
        (announcing (endStage (verdict (ending drained).2)) node.name message (.done (.ok ())))
  | announced (message : String) (reply : Except Failure Unit) :
      ConclusionPath node record drained
        [finishing record drained, counting drained,
          ⟨.announce (endStage (verdict (ending drained).2)) node.name message, reply⟩]
        (.done reply)

/-- A drain is counted and announced in the same way, whether it failed or not. -/
theorem conclusionPath_of_counting {node : Node} {record : Nat}
    {drained : Except Failure DrainReport} {success : Success} {message : String}
    {tail : List (Exchange (Control T))} {left : Controlling T (Except Failure Unit)}
    (same : verdict (ending drained).2 = success)
    (reached : Program.Reaches (ask (.count .drained success) >>= fun _ =>
      announcing (endStage success) node.name message (return .ok ())) tail left) :
    ConclusionPath node record drained (finishing record drained :: tail) left := by
  subst same
  obtain ⟨rfl, rfl⟩ | ⟨⟨⟩, tail, rfl, counted⟩ := Program.reaches_ask_iff.mp reached
  · exact .finished message
  obtain ⟨rfl, rfl⟩ | ⟨failure, rfl, rfl⟩ | ⟨tail, rfl, told⟩ := reaches_announcing counted
  · exact .counted message
  · exact .announced message (.error failure)
  · obtain ⟨rfl, rfl⟩ := Program.reaches_done_iff.mp told
    exact .announced message (.ok ())

/-- The conclusion of a drain writes down how it went and then counts and announces it. -/
theorem concludeDrain_eq (node : Node) (record : Nat) (drained : Except Failure DrainReport) :
    concludeDrain (T := T) node record drained =
      .ask (.transact (.finish record (ending drained).1 (ending drained).2)) fun _ =>
        if DrainRecord.isFault (ending drained).2 then
          ask (.count .drained .failed) >>= fun _ => announcing .drainFailed node.name
            ("Draining failed: " ++ (ending drained).2.getD "") (return .ok ())
        else
          ask (.count .drained .succeeded) >>= fun _ =>
            announcing .drainSucceeded node.name "Drained node" (return .ok ()) := rfl

/-- Every path through the conclusion of a drain is one of these. -/
theorem reaches_concludeDrain {node : Node} {record : Nat} {drained : Except Failure DrainReport}
    {path : List (Exchange (Control T))} {left : Controlling T (Except Failure Unit)}
    (reached : Program.Reaches (concludeDrain node record drained) path left) :
    ConclusionPath node record drained path left := by
  rw [concludeDrain_eq] at reached
  obtain ⟨rfl, rfl⟩ | ⟨⟨⟩, tail, rfl, after⟩ := Program.reaches_ask_iff.mp reached
  · exact .waiting
  split at after
  · rename_i fault
    exact conclusionPath_of_counting (if_pos fault) after
  · rename_i sound
    exact conclusionPath_of_counting (if_neg sound) after

/-- The exchange by which a drain begins or is dismissed. -/
def launching (node : Node) (record : Nat) (begun : Bool) : Exchange (Control T) :=
  ⟨.transact (.launch node.name record), begun⟩

/-- The exchange by which the beginning of a drain is announced. -/
def starting (node : Node) (outcome : Except Failure Unit) : Exchange (Control T) :=
  ⟨.announce .drainStarting node.name "Draining node", outcome⟩

/-- How far a drain can have come, by what it was answered and what is left of it. -/
inductive DrainPath (node : Node) (record : Nat) :
    List (Exchange (Control T)) → Controlling T (Except Failure Unit) → Prop where
  | waiting : DrainPath node record [] (runDrain node record)
  | dismissed : DrainPath node record [launching node record false] (.done (.ok ()))
  | begun : DrainPath node record [launching node record true]
      (announcing .drainStarting node.name "Draining node"
        (.ask (.drain node) (concludeDrain node record)))
  | unannounced (failure : Failure) :
      DrainPath node record [launching node record true, starting node (.error failure)]
        (.done (.error failure))
  | announced : DrainPath node record [launching node record true, starting node (.ok ())]
      (.ask (.drain node) (concludeDrain node record))
  | carriedOut (drained : Except Failure DrainReport) {tail : List (Exchange (Control T))}
      {left : Controlling T (Except Failure Unit)}
      (onward : ConclusionPath node record drained tail left) :
      DrainPath node record (launching node record true :: starting node (.ok ()) ::
        ⟨.drain node, drained⟩ :: tail) left

/-- Every path through a drain is one of these. -/
theorem reaches_runDrain {node : Node} {record : Nat} {path : List (Exchange (Control T))}
    {left : Controlling T (Except Failure Unit)}
    (reached : Program.Reaches (runDrain node record) path left) :
    DrainPath node record path left := by
  obtain ⟨rfl, rfl⟩ | ⟨begun, tail, rfl, after⟩ := Program.reaches_ask_iff.mp reached
  · exact .waiting
  cases begun with
  | false =>
    obtain ⟨rfl, rfl⟩ := Program.reaches_done_iff.mp after
    exact .dismissed
  | true =>
    obtain ⟨rfl, rfl⟩ | ⟨failure, rfl, rfl⟩ | ⟨tail, rfl, onward⟩ := reaches_announcing after
    · exact .begun
    · exact .unannounced failure
    · obtain ⟨rfl, rfl⟩ | ⟨drained, tail, rfl, concluding⟩ := Program.reaches_ask_iff.mp onward
      · exact .announced
      · exact .carriedOut drained (reaches_concludeDrain concluding)

/-- A drain is carried out once, for the node it began with. -/
theorem path_of_drain {node target : Node} {record : Nat} {path : List (Exchange (Control T))}
    {next : Except Failure DrainReport → Controlling T (Except Failure Unit)}
    (reached : Program.Reaches (runDrain node record) path (.ask (.drain target) next)) :
    target = node ∧ path = [launching node record true, starting node (.ok ())] := by
  generalize same : (Program.ask (.drain target) next : Controlling T _) = left at reached
  cases reaches_runDrain reached with
  | waiting | dismissed | begun | unannounced => cases same
  | announced =>
    cases same
    exact ⟨rfl, rfl⟩
  | carriedOut drained onward =>
    cases onward <;> cases same

/-- A drain that is done was dismissed, could not be announced, or was carried out, written down,
counted and announced. -/
theorem path_of_done {node : Node} {record : Nat} {path : List (Exchange (Control T))}
    {result : Except Failure Unit}
    (reached : Program.Reaches (runDrain node record) path (.done result)) :
    path = [launching node record false] ∨
      (∃ failure, path = [launching node record true, starting node (.error failure)]) ∨
      ∃ drained message reply, path = [launching node record true, starting node (.ok ()),
        ⟨.drain node, drained⟩, finishing record drained, counting drained,
        ⟨.announce (endStage (verdict (ending drained).2)) node.name message, reply⟩] := by
  generalize same : (Program.done result : Controlling T _) = left at reached
  cases reaches_runDrain reached with
  | waiting | begun | announced => cases same
  | dismissed => exact .inl rfl
  | unannounced failure => exact .inr (.inl ⟨failure, rfl⟩)
  | carriedOut drained onward =>
    cases onward with
    | waiting | finished | counted => cases same
    | announced message reply => exact .inr (.inr ⟨drained, message, reply, rfl⟩)

/-! ## Scheduling a drain -/

/-- The exchanges by which a drain is booked and its timer is set up and started. -/
def engaging (node : Node) (appointment : Appointment T) : List (Exchange (Control T)) :=
  [⟨.transact (.book node), .ok appointment⟩, ⟨.arm appointment.timer appointment.interval, ()⟩,
    ⟨.start appointment.timer s!"drain-{node.name}", ()⟩]

section Scheduling

variable [TimeScale T] {node : Node} {path : List (Exchange (Control T))} {result : Except Failure T}

/-- The exchanges by which the drain of a node can be scheduled, and what comes of them. -/
inductive Scheduling (node : Node) : List (Exchange (Control T)) → Except Failure T → Prop where
  | refused (failure : Failure) :
      Scheduling node [⟨.transact (.book node), .error failure⟩] (.error failure)
  | undated {appointment : Appointment T} {error : TimeError}
      (undated : showInstant appointment.start = .error error) :
      Scheduling node (engaging node appointment) (.error (.time error))
  | announced {appointment : Appointment T} {text : String}
      (dated : showInstant appointment.start = .ok text) (reply : Except Failure Unit) :
      Scheduling node (engaging node appointment ++
          [⟨.announce .drainScheduled node.name s!"Will drain node after {text}", reply⟩])
        (reply.map fun _ => appointment.start)

/-- Every path through the scheduling of a drain is one of these. -/
theorem reaches_schedule (reached : (schedule node).Reaches path (.done result)) :
    Scheduling node path result := by
  obtain ⟨booking, tail, rfl, after⟩ := reached.of_ask_done
  cases booking with
  | error failure =>
    obtain ⟨rfl, ended⟩ := Program.reaches_done_iff.mp after
    cases ended
    exact .refused failure
  | ok appointment =>
    obtain ⟨⟨⟩, tail, rfl, armed⟩ := after.of_ask_done
    obtain ⟨⟨⟩, tail, rfl, started⟩ := armed.of_ask_done
    cases shown : showInstant appointment.start with
    | error error =>
      simp only [shown] at started
      obtain ⟨rfl, ended⟩ := Program.reaches_done_iff.mp started
      cases ended
      exact .undated shown
    | ok text =>
      simp only [shown] at started
      obtain ⟨_, same⟩ | ⟨failure, rfl, ended⟩ | ⟨onward, rfl, ended⟩ := reaches_announcing started
      · cases same
      · cases ended
        exact .announced shown (.error failure)
      · obtain ⟨rfl, ended⟩ := Program.reaches_done_iff.mp ended
        cases ended
        exact .announced shown (.ok ())

end Scheduling

end Control

end Evacuation
