import Mathlib.Data.Fintype.Basic
import TaskHive.LogSystem.Bounded

namespace TaskHive.LogSystem

open Wire

/-! # The notifications of an `AsyncWorker`

The same thread and the same calls, with what wakes them: a sleeper goes on only
after somebody has notified it, or for no reason at all.  `Push` notifies the
thread when it returns, and the thread notifies one of the waiting calls after
each swap.  `Stop` is not called. -/

/-- The worker, and who has been woken and has not got the lock back. -/
structure Notified (κ : Type) where
  worker : State κ
  consumer : Bool := false
  push : κ → Bool := fun _ => false

/-- The thread's step names the call that `notify_one` wakes. -/
inductive Signal (κ : Type) where
  | push (caller : κ)
  | consumer (woken : Option κ)
  | wakePush (caller : κ)
  | wakeConsumer
deriving DecidableEq

section Steps

variable {κ : Type} [DecidableEq κ]

/-- The call sleeps and nobody has woken it. -/
def Notified.pushSleeps (state : Notified κ) (caller : κ) : Bool :=
  decide (state.worker.push caller = .waiting) && !state.push caller

def Notified.consumerSleeps (state : Notified κ) : Bool :=
  decide (state.worker.consumer = .sleeping) && !state.consumer

/-- The next step of the thread is `cond_productor_.notify_one()`. -/
def Notified.notifies (setup : Setup κ) (state : Notified κ) : Prop :=
  setup.asyncType = .blockingBounded ∧ state.worker.consumer = .swapped

instance (setup : Setup κ) (state : Notified κ) : Decidable (state.notifies setup) :=
  inferInstanceAs (Decidable (_ ∧ _))

/-- `notify_one` wakes one of the sleeping calls, whichever, if there is one. -/
def Notified.MayWake (setup : Setup κ) (state : Notified κ) : Option κ → Prop
  | some caller => state.notifies setup ∧ state.pushSleeps caller = true
  | none => state.notifies setup → ∀ caller, state.pushSleeps caller = false

instance [Fintype κ] (setup : Setup κ) (state : Notified κ) : (woken : Option κ) → Decidable (state.MayWake setup woken)
  | some _ => inferInstanceAs (Decidable (_ ∧ _))
  | none => inferInstanceAs (Decidable (_ → ∀ _, _))

def wake (flags : κ → Bool) : Option κ → κ → Bool
  | some caller => Function.update flags caller true
  | none => flags

/-- What a step of a call leaves: `next` is the worker after it.  The call that
returns notifies the thread. -/
def Notified.afterPush (state : Notified κ) (caller : κ) (next : State κ) : Notified κ where
  worker := next
  consumer := state.consumer || decide (state.worker.push caller = .written ∧ state.worker.consumer = .sleeping)
  push := Function.update state.push caller false

def Notified.afterConsumer (state : Notified κ) (woken : Option κ) (next : State κ) : Notified κ where
  worker := next
  consumer := false
  push := wake state.push woken

variable [Fintype κ]

def notifyingStep (setup : Setup κ) (state : Notified κ) : Signal κ → Option (Notified κ)
  | .push caller =>
      if state.pushSleeps caller then none
      else (pushStep setup state.worker caller).map (state.afterPush caller)
  | .consumer woken =>
      if state.consumerSleeps then none
      else if state.MayWake setup woken then (consumerStep setup state.worker).map (state.afterConsumer woken)
      else none
  | .wakePush caller =>
      if state.pushSleeps caller then some { state with push := Function.update state.push caller true } else none
  | .wakeConsumer => if state.consumerSleeps then some { state with consumer := true } else none

def notifyingWorker (setup : Setup κ) : Machine (Notified κ) (Signal κ) where
  init := { worker := (asyncWorker setup).init }
  step := notifyingStep setup

end Steps

/-! ## What one step can do -/

section Transitions

variable {κ : Type} [DecidableEq κ] {setup : Setup κ}

inductive Notified.Step (setup : Setup κ) (before : Notified κ) : Signal κ → Notified κ → Prop where
  | push (caller : κ) (awake : before.pushSleeps caller = false) (next : State κ)
      (stepped : pushStep setup before.worker caller = some next) :
      Notified.Step setup before (.push caller) (before.afterPush caller next)
  | consumer (woken : Option κ) (awake : before.consumerSleeps = false) (chosen : before.MayWake setup woken)
      (next : State κ) (stepped : consumerStep setup before.worker = some next) :
      Notified.Step setup before (.consumer woken) (before.afterConsumer woken next)
  | wakePush (caller : κ) (sleeps : before.pushSleeps caller = true) :
      Notified.Step setup before (.wakePush caller) { before with push := Function.update before.push caller true }
  | wakeConsumer (sleeps : before.consumerSleeps = true) :
      Notified.Step setup before .wakeConsumer { before with consumer := true }

theorem notifyingStep_step [Fintype κ] {before after : Notified κ} {signal : Signal κ}
    (stepped : notifyingStep setup before signal = some after) : Notified.Step setup before signal after := by
  cases signal with
  | push caller =>
      simp only [notifyingStep] at stepped
      split at stepped
      · cases stepped
      · rename_i awake
        obtain ⟨next, moved, rfl⟩ := Option.map_eq_some_iff.mp stepped
        exact .push caller (by simpa using awake) next moved
  | consumer woken =>
      simp only [notifyingStep] at stepped
      split at stepped
      · cases stepped
      · rename_i awake
        split at stepped
        · rename_i chosen
          obtain ⟨next, moved, rfl⟩ := Option.map_eq_some_iff.mp stepped
          exact .consumer woken (by simpa using awake) chosen next moved
        · cases stepped
  | wakePush caller =>
      simp only [notifyingStep] at stepped
      split at stepped
      · rename_i sleeps
        cases stepped
        exact .wakePush caller sleeps
      · cases stepped
  | wakeConsumer =>
      simp only [notifyingStep] at stepped
      split at stepped
      · rename_i sleeps
        cases stepped
        exact .wakeConsumer sleeps
      · cases stepped

/-- Every run with notifications is a run of the worker that was modelled
without them. -/
theorem reachable_worker [Fintype κ] {state : Notified κ} (reached : (notifyingWorker setup).Reachable state) :
    (asyncWorker setup).Reachable state.worker := by
  induction reached with
  | init => exact .init
  | step _ _ stepped ih =>
      cases notifyingStep_step stepped with
      | push caller _ next moved =>
          have stepped : (asyncWorker setup).step _ (.push caller) = some next := moved
          exact .step ih trivial stepped
      | consumer woken _ _ next moved =>
          have stepped : (asyncWorker setup).step _ .consumer = some next := moved
          exact .step ih trivial stepped
      | wakePush | wakeConsumer => exact ih

end Transitions

end TaskHive.LogSystem
