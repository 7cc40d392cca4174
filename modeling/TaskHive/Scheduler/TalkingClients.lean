import Mathlib.Tactic.IntervalCases
import TaskHive.Fairness
import TaskHive.Scheduler.Shutdown

namespace TaskHive.Scheduler.Shutdown

/-! # Stopping among clients that send

Clients go on connecting while the scheduler is being stopped, and their
connections come before the one that `stop` makes.  The thread gets out as long
as the client whose connection it reads does not stand still. -/

/-- `stop` gets its own connection; any other call may fail. -/
def Connects (_ : State) : Action → Prop
  | .connectFails => False
  | _ => True

/-- The process, and the client whose connection is read. -/
def Involved (_ : State) : Action → Prop
  | .thread _ | .stop | .arriveReading _ => True
  | _ => False

variable {before after state : State} {action : Action}

theorem Own.involved (own : Own state action) : Involved state action := by
  cases action with
  | thread now => trivial
  | stop => trivial
  | connect | arriveQueued _ _ | arriveReading _ | acceptFails | connectFails => exact own.elim

theorem ClientMove.invited (move : ClientMove before action after) (invited : Invited before) : Invited after := by
  have sound := move.sound invited.sound
  cases move with
  | connect => exact ⟨sound, by simp⟩
  | arriveQueued index arrival =>
      apply Invited.mk sound
      intro connected accepts
      simpa using invited.invited connected accepts
  | arriveReading => exact ⟨sound, by simp [State.accepts]⟩

theorem invited_of_reachable (reached : receiver.ReachableBy Connects state) : Invited state := by
  apply reached.invariant
  · exact ⟨⟨by simp [receiver], rfl⟩, by simp [receiver, StopPc.hasConnected]⟩
  · intro before action after invited connects stepped
    cases transition_of_step stepped with
    | thread _ move => exact move.invited invited
    | stop move => exact move.invited invited
    | client _ move => exact move.invited invited
    | acceptFails => exact ⟨invited.sound.frame rfl rfl rfl, by simp [State.accepts]⟩
    | connectFails => exact connects.elim

/-- Once `running_` is cleared, a step leads on, or it is the step of a client
that the thread does not wait for. -/
theorem Transition.progress (transition : Transition before action after) (sound : Sound before)
    (begun : before.stop ≠ .idle) (connects : Connects before action) :
    after.stop ≠ .idle ∧ (after.left < before.left ∨ after.left = before.left ∧ ¬ Involved before action) := by
  cases transition with
  | thread now move => exact ⟨move.stop ▸ begun, .inl (move.left (sound.cleared begun))⟩
  | stop move => exact ⟨(move.left begun).1, .inl (move.left begun).2⟩
  | client _ move =>
      cases move with
      | connect | arriveQueued => exact ⟨begun, .inr ⟨rfl, id⟩⟩
      | arriveReading _ pc => exact ⟨begun, .inl (by simp [State.left, pc, ReceivePc.left])⟩
  | acceptFails pc => exact ⟨begun, .inl (by simp [State.left, pc, ReceivePc.left])⟩
  | connectFails => exact connects.elim

theorem Invited.enabled (invited : Invited state) (begun : state.stop ≠ .idle) (unfinished : state.stop ≠ .returned) :
    receiver.Enabled Connects Involved state := by
  rcases invited.own_step begun unfinished with ⟨action, own, can⟩ | reading
  · have connects : Connects state action := by
      cases action with
      | connectFails => exact own
      | thread _ | stop | connect | arriveQueued _ _ | arriveReading _ | acceptFails => trivial
    exact ⟨action, own.involved, connects, can⟩
  · have can : (receiver.step state (.arriveReading .reset)).isSome := by
      simp [receiver, receiverStep, clientStep, reading]
    exact ⟨.arriveReading .reset, trivial, trivial, can⟩

theorem descent (run : receiver.Trace Connects) :
    Machine.Trace.Descent run (· < ·) (fun _ => Involved)
      (fun left state => state.stop ≠ .idle ∧ state.stop ≠ .returned ∧ state.left = left)
      (fun state => state.stop = .returned) := by
  constructor
  · intro now left action stands acted
    obtain ⟨begun, _, rfl⟩ := stands
    obtain ⟨connects, stepped⟩ := run.steps now action acted
    have sound := (invited_of_reachable (run.reachable now)).sound
    obtain ⟨still, progress⟩ := (transition_of_step stepped).progress sound begun connects
    by_cases returned : (run.state (now + 1)).stop = .returned
    · exact .inl returned
    · rcases progress with lower | ⟨same, other⟩
      · exact .inr (.inl ⟨_, lower, still, returned, rfl⟩)
      · exact .inr (.inr ⟨⟨still, returned, same⟩, other⟩)
  · intro now left always
    obtain ⟨begun, unfinished, _⟩ := always now (Nat.le_refl now)
    exact ⟨now, Nat.le_refl now, (invited_of_reachable (run.reachable now)).enabled begun unfinished⟩

/-- However many clients connect and whichever calls of `accept` fail, `stop`
gets past the receiving thread in every run in which the process and the client
whose connection is read do not stand still for ever. -/
theorem stop_passes_talking_clients (run : receiver.Trace Connects) (fair : run.Fair Involved) (now : Nat)
    (begun : (run.state now).stop ≠ .idle) : run.Eventually (fun state => state.stop = .returned) now := by
  by_cases returned : (run.state now).stop = .returned
  · exact ⟨now, Nat.le_refl now, returned⟩
  · exact (descent run).eventually Nat.lt_wfRel.wf (fun _ => fair) ⟨begun, returned, rfl⟩

/-- A client connects and is silent until the scheduler has closed its socket. -/
def lateClient : List Action :=
  [.thread 0, .thread 0, .connect, .thread 0, .stop, .stop, .stop, .stop, .arriveReading (.data []), .thread 0,
    .thread 0, .stop]

def lateClientRun : receiver.Trace Connects :=
  Machine.Trace.ofList lateClient (by
    intro now action taken
    have inside : now < 12 := (List.getElem?_eq_some_iff.mp taken).1
    interval_cases now <;> cases taken <;> exact ⟨trivial, rfl⟩)

theorem lateClientRun_fair : lateClientRun.Fair Involved := by
  have disabled (now : Nat) (ended : 12 ≤ now) :
      ¬ receiver.Enabled Connects Involved (lateClientRun.state now) := by
    have last : lateClientRun.state now = Machine.Trace.visitedBy receiver lateClient 12 := by
      change Machine.Trace.visitedBy receiver lateClient now = _
      rw [Machine.Trace.visitedBy, List.take_of_length_le ended]
      rfl
    rw [last]
    intro enabled
    obtain ⟨action, involved, _, can⟩ := enabled
    cases action with
    | thread | stop | arriveReading => cases can
    | connect | arriveQueued | acceptFails | connectFails => exact involved
  exact .of_disabled disabled

theorem late_client_lets_stop_return :
    (lateClientRun.state 5).thread = .reading none ∧ (lateClientRun.state 5).stop = .flagged ∧
      lateClientRun.Fair Involved ∧ lateClientRun.Eventually (fun state => state.stop = .returned) 5 :=
  ⟨rfl, rfl, lateClientRun_fair, stop_passes_talking_clients lateClientRun lateClientRun_fair 5 (by decide)⟩

end TaskHive.Scheduler.Shutdown
