import TaskHive.Handoff.Service

namespace TaskHive.Handoff

variable {κ α : Type} {loop : Loop} {items : κ → List α}

/-! # When `stop` returns

`stop` clears `running_` and notifies without the mutex.  A thread that has
found its predicate false and has not begun to sleep hears neither, and nobody
notifies it again.  The bodies return here without an exception, no further
call begins, and no spurious wake-up comes to help. -/

/-- What is left to do after `running_` is cleared: no further call begins. -/
def Closing (state : State κ α) : Action κ → Prop
  | .call caller => state.call caller ≠ .idle
  | .thread .returned | .stop => True
  | .thread .threw | .wakeSpuriously => False

instance (state : State κ α) : (action : Action κ) → Decidable (Closing state action)
  | .call _ => inferInstanceAs (Decidable (¬ _))
  | .thread .returned | .stop => inferInstanceAs (Decidable True)
  | .thread .threw | .wakeSpuriously => inferInstanceAs (Decidable False)

theorem Closing.calm {state : State κ α} : {action : Action κ} → Closing state action → Calm state action
  | .call _, _ | .thread .returned, _ | .stop, _ => trivial

/-- No call is in progress. -/
def State.Quiet (state : State κ α) : Prop := ∀ caller, state.call caller = .idle ∨ state.call caller = .returned

/-- `stop` has cleared the flag, and the thread is not between its last look at
the flag and its sleep, nor asleep for ever. -/
structure Stopping (loop : Loop) (items : κ → List α) (state : State κ α) : Prop where
  sound : Sound loop items state
  quiet : state.Quiet
  stopped : state.stop ≠ .idle
  unparked : state.thread ≠ .parking
  notified : state.stop ≠ .flagged → state.thread = .sleeping → state.woken = true

/-! ## The way out -/

/-- The steps that are left when the flag is cleared. -/
def ThreadPc.way : ThreadPc α → Nat
  | .exited => 0
  | .top => 1
  | .settled => 2
  | .working _ => 3
  | .holding => 4
  | .locked | .testing => 5
  | .locking | .sleeping => 6
  | .parking => 7

def StopPc.way : StopPc → Nat
  | .returned => 0
  | .joining => 1
  | .flagged => 2
  | .idle => 3

def State.way (state : State κ α) : Nat := state.thread.way + state.stop.way

section Stopping

variable [DecidableEq κ] {before after : State κ α}

omit [DecidableEq κ] in
/-- The thread gets nearer to its exit. -/
theorem Stopping.thread {next : State κ α} (stopping : Stopping loop items before) (sound : Sound loop items next)
    (calls : next.call = before.call) (stop : next.stop = before.stop)
    (awake : next.thread ≠ .parking ∧ next.thread ≠ .sleeping) (nearer : next.thread.way < before.thread.way) :
    Stopping loop items next ∧ next.way < before.way := by
  refine ⟨⟨sound, ?_, ?_, awake.1, fun _ sleeping => absurd sleeping awake.2⟩, ?_⟩
  · intro caller
    rw [calls]
    exact stopping.quiet caller
  · rw [stop]
    exact stopping.stopped
  · rw [State.way, State.way, stop]
    omega

theorem ThreadMove.stopping (move : ThreadMove loop before after) (stopping : Stopping loop items before) :
    Stopping loop items after ∧ after.way < before.way := by
  have sound := move.sound stopping.sound
  have unset : before.running ≠ true := fun running => stopping.stopped (stopping.sound.flag.mp running)
  cases move with
  | again _ running | wait _ _ running | park _ _ running => exact absurd running unset
  | sleep pc => exact absurd pc stopping.unparked
  | leave pc | enter pc | wake pc | stopped pc | around pc | drained pc | take pc =>
      exact stopping.thread sound rfl rfl (by simp [State.setThread, State.unlock])
        (by simp [State.setThread, State.unlock, pc, ThreadPc.way])
  | ready inside =>
      refine stopping.thread sound rfl rfl (by simp [State.setThread]) ?_
      rcases inside with pc | pc <;> simp [State.setThread, pc, ThreadPc.way]
  | nothing pc empty next same | done _ pc next same =>
      subst same
      cases early : loop.unlocksEarly <;> simp only [early, if_true, Bool.false_eq_true, if_false] at sound ⊢ <;>
        exact stopping.thread sound rfl rfl (by simp [State.setThread]) (by simp [State.setThread, pc, ThreadPc.way])

theorem StopMove.stopping (move : StopMove before after) (stopping : Stopping loop items before) :
    Stopping loop items after ∧ after.way < before.way := by
  have sound := move.sound stopping.sound
  cases move with
  | call idle => exact absurd idle stopping.stopped
  | notify flagged =>
      refine ⟨⟨sound, stopping.quiet, by simp, stopping.unparked, fun _ sleeping => ?_⟩, ?_⟩
      · have asleep : before.thread = .sleeping := sleeping
        simp [State.notify, asleep, ThreadPc.sleeps]
      · simp [State.way, State.notify, flagged, StopPc.way]
  | join joining exited =>
      refine ⟨⟨sound, stopping.quiet, by simp, stopping.unparked, fun _ sleeping => ?_⟩, ?_⟩
      · have asleep : before.thread = .sleeping := sleeping
        rw [asleep] at exited
        cases exited
      · simp [State.way, joining, StopPc.way]

theorem Stopping.step {action : Action κ} (stopping : Stopping loop items before) (closing : Closing before action)
    (stepped : (handoff loop items).step before action = some after) :
    Stopping loop items after ∧ after.way < before.way := by
  cases handoffStep_transition closing.calm stepped with
  | call caller _ move =>
      -- No call is in progress, and none begins.
      rcases stopping.quiet caller with idle | returned
      · exact absurd idle closing
      · cases move <;> simp_all
  | thread _ move => exact move.stopping stopping
  | stop _ move => exact move.stopping stopping
  | wake => exact closing.elim

omit [DecidableEq κ] in
/-- The thread is the only one that may have the mutex. -/
theorem Stopping.lock (stopping : Stopping loop items before) :
    before.mutex = none ∨ before.thread.owns loop = true := by
  cases owner : before.mutex with
  | none => exact .inl rfl
  | some agent =>
      have entered := (stopping.sound.guarded agent).mpr owner
      cases agent with
      | thread => exact .inr entered
      | call caller =>
          have inside : (before.call caller).owns = true := entered
          rcases stopping.quiet caller with pc | pc <;> simp [pc, CallPc.owns] at inside

theorem Stopping.returned (stopping : Stopping loop items before)
    (halted : (handoff loop items).Halted Closing before) : before.stop = .returned := by
  have stuck (action : Action κ) (closing : Closing before action) := halted action closing
  simp only [handoff, handoffStep, stopping.sound.alive, Bool.false_eq_true, if_false] at stuck
  have unflagged : before.stop ≠ .flagged := by
    intro flagged
    have halts := stuck .stop trivial
    simp [stopStep, flagged] at halts
  have exited : before.thread = .exited := by
    by_contra inside
    exact threadStep_ne_none stopping.lock ⟨inside, stopping.notified unflagged⟩ .returned
      (stuck (.thread .returned) trivial)
  cases pc : before.stop with
  | idle => exact absurd pc stopping.stopped
  | flagged => exact absurd pc unflagged
  | joining =>
      have halts := stuck .stop trivial
      simp [stopStep, pc, exited] at halts
  | returned => rfl

end Stopping

end TaskHive.Handoff
