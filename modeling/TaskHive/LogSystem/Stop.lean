import TaskHive.LogSystem.Stream

namespace TaskHive.LogSystem

open Wire

variable {κ : Type} {setup : Setup κ}

/-! # What `Stop` leaves behind

`ThreadFunc` decides to exit by reading `stop_` and the producer buffer without
the lock.  A call that has read `stop_` for the last time and has not written
yet is invisible to both reads. -/

/-- When the thread leaves its loop, no call is about to write. -/
def ExitsClean (setup : Setup κ) (state : State κ) : Action κ → Prop
  | .consumer => state.consumer = .testingEmpty → state.bufferProductor.isEmpty = true →
      ∀ caller, state.push caller = .writing → setup.data caller = []
  | _ => True

instance {calls : Nat} (setup : Setup (Fin calls)) (state : State (Fin calls)) :
    (action : Action (Fin calls)) → Decidable (ExitsClean setup state action)
  | .consumer => inferInstanceAs (Decidable (_ → _ → ∀ _, _ → _))
  | .push _ | .stop => inferInstanceAs (Decidable True)

def PushPc.isSettled : PushPc → Bool
  | .idle | .returned | .rejected => true
  | _ => false

/-- Once `Stop` and all calls have returned, the callback has been given the
data of every call that was not rejected. -/
def LosesNothing (setup : Setup κ) (state : State κ) : Prop :=
  state.stopper = .returned → (∀ caller, (state.push caller).isSettled = true) →
    (∀ caller, state.push caller = .returned → caller ∈ state.accepted) ∧
      state.handed = state.accepted.flatMap setup.data

/-- After the exit there is nothing in the producer buffer and nothing to come. -/
structure Ending (setup : Setup κ) (state : State κ) : Prop where
  joined : state.stopper = .returned → state.consumer = .exited
  testing : state.consumer = .testingEmpty → state.stop = true
  stopped : state.consumer = .exited → state.stop = true
  empty : state.consumer = .exited → state.bufferProductor.unread = []
  quiet : state.consumer = .exited → ∀ caller, state.push caller = .writing → setup.data caller = []

/-- The thread moves on and does not exit. -/
theorem Ending.setConsumer {state : State κ} (ending : Ending setup state) {old : ConsumerPc}
    (pc : state.consumer = old) (inside : old ≠ .exited) (new : ConsumerPc) (stays : new ≠ .exited)
    (testing : new = .testingEmpty → state.stop = true) : Ending setup (state.setConsumer new) where
  joined returned := absurd (pc.symm.trans (ending.joined returned)) inside
  testing := testing
  stopped exited := absurd exited stays
  empty exited := absurd exited stays
  quiet exited := absurd exited stays

variable [DecidableEq κ]

theorem Ending.setPush {state : State κ} (ending : Ending setup state) (caller : κ) (pc : PushPc)
    (quiet : state.stop = true → pc ≠ .writing) : Ending setup (state.setPush caller pc) where
  joined := ending.joined
  testing := ending.testing
  stopped := ending.stopped
  empty := ending.empty
  quiet exited :=
    (Function.forall_update_iff state.push fun other pc => pc = .writing → setup.data other = []).mpr
      ⟨fun writing => absurd writing (quiet (ending.stopped exited)), fun other _ => ending.quiet exited other⟩

theorem Transition.ending {before after : State κ} {action : Action κ}
    (transition : Transition setup before action after) (permitted : ExitsClean setup before action)
    (ending : Ending setup before) : Ending setup after := by
  cases transition with
  | pushEnter caller => exact { ending.setPush caller .locked (by simp) with }
  | pushWake caller => exact { ending.setPush caller .awaiting (by simp) with }
  | pushReject caller => exact { ending.setPush caller .rejected (by simp) with }
  | pushWait caller => exact { ending.setPush caller .waiting (by simp) with }
  | pushFits caller => exact ending.setPush caller .rechecking (by simp)
  | pushReturn caller => exact { ending.setPush caller .returned (by simp) with }
  | pushPass caller _ running | pushRecheck caller _ running =>
      -- A call that passes a test of the flag does so before the thread exits.
      exact ending.setPush caller _ (by simp [running])
  | pushWrite caller writing pushed written =>
      have kept := ending.setPush caller .written (by simp)
      refine { kept with empty := fun exited => ?_ }
      change pushed.unread = []
      rw [ValidBuffer.unread_push written, ending.empty exited, ending.quiet exited caller writing]
      rfl
  | consumerEnter top => exact { ending.setConsumer top (by simp) .locked (by simp) (by simp) with }
  | consumerWake sleeping => exact { ending.setConsumer sleeping (by simp) .awaiting (by simp) (by simp) with }
  | consumerWait locked => exact ending.setConsumer locked (by simp) .awaiting (by simp) (by simp)
  | consumerReady inside =>
      rcases inside with locked | awaiting
      · exact ending.setConsumer locked (by simp) .swapping (by simp) (by simp)
      · exact ending.setConsumer awaiting (by simp) .swapping (by simp) (by simp)
  | consumerSleep awaiting => exact { ending.setConsumer awaiting (by simp) .sleeping (by simp) (by simp) with }
  | consumerSwap swapping =>
      have kept := ending.setConsumer swapping (by simp) .swapped (by simp) (by simp)
      exact { kept with empty := by simp [State.setConsumer] }
  | consumerRelease swapped => exact { ending.setConsumer swapped (by simp) .calling (by simp) (by simp) with }
  | consumerCall calling => exact { ending.setConsumer calling (by simp) (.flushing 0) (by simp) (by simp) with }
  | consumerFlush index flushing =>
      exact { ending.setConsumer flushing (by simp) (.flushing (index + 1)) (by simp) (by simp) with }
  | consumerReturn index flushing => exact ending.setConsumer flushing (by simp) .called (by simp) (by simp)
  | consumerReset called => exact { ending.setConsumer called (by simp) .testingStop (by simp) (by simp) with }
  | consumerRepeat testing =>
      rcases testing with stop | empty
      · exact ending.setConsumer stop (by simp) .top (by simp) (by simp)
      · exact ending.setConsumer empty (by simp) .top (by simp) (by simp)
  | consumerStopped testing stopped =>
      exact ending.setConsumer testing (by simp) .testingEmpty (by simp) (fun _ => stopped)
  | consumerExit testing empty =>
      refine ⟨fun _ => rfl, by simp [State.setConsumer], fun _ => ending.testing testing, ?_, ?_⟩
      · exact fun _ => before.bufferProductor.isEmpty_iff.mp empty
      · exact fun _ => permitted testing empty
  | stopCall => exact ⟨by simp, fun _ => rfl, fun _ => rfl, ending.empty, ending.quiet⟩
  | stopJoin _ exited => exact { ending with joined := fun _ => exited }

theorem ending_of_reachable {state : State κ}
    (reached : (asyncWorker setup).ReachableBy (ExitsClean setup) state) : Ending setup state := by
  refine reached.invariant ?_ ?_
  · exact ⟨by simp [asyncWorker], by simp [asyncWorker], by simp [asyncWorker], by simp [asyncWorker],
      by simp [asyncWorker]⟩
  · intro before action after ending permitted stepped
    exact (asyncStep_transition stepped).ending permitted ending

/-- `Stop` loses nothing in the runs in which the thread exits while no call is
about to write. -/
theorem stop_loses_nothing (setup : Setup κ) {state : State κ}
    (reached : (asyncWorker setup).ReachableBy (ExitsClean setup) state) : LosesNothing setup state := by
  intro returned _
  have delivering := delivering_of_reachable reached
  have ending := ending_of_reachable reached
  have exited := ending.joined returned
  refine ⟨fun caller pushed => (delivering.logged.members caller).mpr (by rw [pushed]; rfl), ?_⟩
  have stream := delivering.streaming.stream
  simp only [State.pending, exited, ConsumerPc.holds, ending.empty exited, Bool.false_eq_true, if_false,
    List.append_nil] at stream
  exact stream

/-- Two calls of a growing logger with one sink. -/
def twoCalls : Setup (Fin 2) where
  config := { bufferSize := 2, threshold := 8, linearGrowth := 4 }
  asyncType := .nonblockingGrow
  callback := realFlush 1
  data caller := [UInt8.ofNat caller]

/-- Both calls return before `Stop` is called. -/
theorem stop_loses_nothing_after_calls :
    ∃ state, (asyncWorker twoCalls).ReachableBy (ExitsClean twoCalls) state ∧ state.stopper = .returned ∧
      (∀ caller, (state.push caller).isSettled = true) ∧ state.handed = [0, 1] ∧ LosesNothing twoCalls state := by
  obtain ⟨state, reached, returned, settled, handed⟩ :=
    (asyncWorker twoCalls).reachableBy_of_any (ExitsClean twoCalls)
      (fun state => state.stopper = .returned ∧ (∀ caller, (state.push caller).isSettled = true) ∧
        state.handed = [0, 1])
      (List.replicate 4 (Action.push 0) ++ List.replicate 4 (Action.push 1) ++ [.stop] ++
        List.replicate 10 Action.consumer ++ [.stop]) (by decide)
  exact ⟨state, reached, returned, settled, handed, stop_loses_nothing twoCalls reached⟩

/-- The second call reads the flag before `Stop` sets it and writes after the
thread has found the producer buffer empty. -/
theorem stop_loses_pending_push :
    ∃ state, (asyncWorker twoCalls).Reachable state ∧ state.stopper = .returned ∧
      (∀ caller, state.push caller = .returned) ∧ state.accepted = [0, 1] ∧ state.handed = [0] ∧
      ¬ LosesNothing twoCalls state := by
  obtain ⟨state, reached, returned, pushed, accepted, handed⟩ :=
    (asyncWorker twoCalls).reachableBy_of_any (fun _ _ => True)
      (fun state => state.stopper = .returned ∧ (∀ caller, state.push caller = .returned) ∧
        state.accepted = [0, 1] ∧ state.handed = [0])
      (List.replicate 4 (Action.push 0) ++ List.replicate 8 Action.consumer ++ [.push 1, .push 1, .stop] ++
        [.consumer, .consumer, .push 1, .push 1, .stop]) (by decide)
  refine ⟨state, reached, returned, pushed, accepted, handed, fun keeps => ?_⟩
  have complete := (keeps returned fun caller => by rw [pushed caller]; rfl).2
  rw [handed, accepted] at complete
  exact absurd complete (by decide)

end TaskHive.LogSystem
