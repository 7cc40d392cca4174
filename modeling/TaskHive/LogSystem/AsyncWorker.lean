import TaskHive.Exclusion
import TaskHive.LogSystem.Buffer
import TaskHive.Machine

namespace TaskHive.LogSystem

open Wire

/-! # `AsyncWorker`

Calls of `Push`, the thread of `ThreadFunc` and one call of `Stop` interleave.
Each statement of the critical sections is a step, and so is each read of
`stop_` and the read of the producer buffer that `ThreadFunc` makes after it
has given the lock back.  A sleeper may wake whenever the mutex is free; it then
evaluates its predicate again. -/

inductive AsyncType where
  | blockingBounded
  | nonblockingGrow
deriving DecidableEq, Repr

/-- The statements of a callback in order: what the one with the given number
leaves of the buffer, or `none` when the callback returns there. -/
abbrev Callback := Nat → ValidBuffer → Option ValidBuffer

/-- `AsyncLogger::RealFlush` with so many sinks. -/
def realFlush (sinks : Nat) : Callback := fun index buffer =>
  if buffer.isEmpty then none
  else if index < sinks then some buffer
  else none

structure Setup (κ : Type) where
  config : Config
  asyncType : AsyncType
  callback : Callback
  data : κ → Bytes

/-- A call that is `waiting` sleeps on `cond_productor_`.  In `writing` it has
read `stop_` for the last time. -/
inductive PushPc where
  | idle
  | locked
  | awaiting
  | waiting
  | rechecking
  | writing
  | written
  | returned
  | rejected
deriving DecidableEq, Repr

inductive ConsumerPc where
  | top
  | locked
  | awaiting
  | sleeping
  | swapping
  | swapped
  | calling
  | flushing (index : Nat)
  | called
  | testingStop
  | testingEmpty
  | exited
deriving DecidableEq, Repr

inductive StopPc where
  | idle
  | joining
  | returned
deriving DecidableEq, Repr

inductive Owner (κ : Type) where
  | push (caller : κ)
  | consumer
deriving DecidableEq

/-- The last four fields are a history: the calls that were given the lock, one
entry each time, the calls that wrote their data, the bytes handed to the
callback, and those that its statements have seen. -/
structure State (κ : Type) where
  bufferProductor : ValidBuffer
  buffConsumer : ValidBuffer
  stop : Bool := false
  mutex : Option (Owner κ) := none
  push : κ → PushPc := fun _ => .idle
  consumer : ConsumerPc := .top
  stopper : StopPc := .idle
  granted : List κ := []
  accepted : List κ := []
  handed : Bytes := []
  received : Nat → Bytes := fun _ => []

inductive Action (κ : Type) where
  | push (caller : κ)
  | consumer
  | stop
deriving DecidableEq

section Steps

variable {κ : Type} [DecidableEq κ]

def State.setPush (state : State κ) (caller : κ) (pc : PushPc) : State κ :=
  { state with push := Function.update state.push caller pc }

def State.setConsumer (state : State κ) (pc : ConsumerPc) : State κ := { state with consumer := pc }

/-- The call gets the lock. -/
def State.grant (state : State κ) (caller : κ) (pc : PushPc) : State κ :=
  { state.setPush caller pc with mutex := some (.push caller), granted := state.granted ++ [caller] }

/-- The call gives it back. -/
def State.release (state : State κ) (caller : κ) (pc : PushPc) : State κ :=
  { state.setPush caller pc with mutex := none }

def pushStep (setup : Setup κ) (state : State κ) (caller : κ) : Option (State κ) :=
  match state.push caller with
  | .idle => if state.mutex = none then some (state.grant caller .locked) else none
  | .locked =>
      if state.stop then some (state.release caller .rejected)
      else some (state.setPush caller (if setup.asyncType = .blockingBounded then .awaiting else .writing))
  | .awaiting =>
      if (setup.data caller).length ≤ state.bufferProductor.1.writeableSize then
        some (state.setPush caller .rechecking)
      else some (state.release caller .waiting)
  | .waiting => if state.mutex = none then some (state.grant caller .awaiting) else none
  | .rechecking =>
      if state.stop then some (state.release caller .rejected) else some (state.setPush caller .writing)
  | .writing =>
      (state.bufferProductor.push setup.config (setup.data caller)).map fun pushed =>
        { state.setPush caller .written with bufferProductor := pushed, accepted := state.accepted ++ [caller] }
  | .written => some (state.release caller .returned)
  | .returned | .rejected => none

def consumerStep (setup : Setup κ) (state : State κ) : Option (State κ) :=
  match state.consumer with
  | .top =>
      if state.mutex = none then some { state.setConsumer .locked with mutex := some .consumer } else none
  | .locked =>
      some (state.setConsumer (if state.bufferProductor.isEmpty && !state.stop then .awaiting else .swapping))
  | .awaiting =>
      if state.stop || !state.bufferProductor.isEmpty then some (state.setConsumer .swapping)
      else some { state.setConsumer .sleeping with mutex := none }
  | .sleeping =>
      if state.mutex = none then some { state.setConsumer .awaiting with mutex := some .consumer } else none
  | .swapping =>
      some { state.setConsumer .swapped with
        bufferProductor := state.buffConsumer, buffConsumer := state.bufferProductor }
  | .swapped => some { state.setConsumer .calling with mutex := none }
  | .calling => some { state.setConsumer (.flushing 0) with handed := state.handed ++ state.buffConsumer.unread }
  | .flushing index =>
      match setup.callback index state.buffConsumer with
      | some left =>
          some { state.setConsumer (.flushing (index + 1)) with
            buffConsumer := left
            received := Function.update state.received index
              (state.received index ++ state.buffConsumer.unread) }
      | none => some (state.setConsumer .called)
  | .called => some { state.setConsumer .testingStop with buffConsumer := state.buffConsumer.reset }
  | .testingStop => some (state.setConsumer (if state.stop then .testingEmpty else .top))
  | .testingEmpty => some (state.setConsumer (if state.bufferProductor.isEmpty then .exited else .top))
  | .exited => none

/-- `Stop` sets the flag without the lock and joins the thread. -/
def stopStep (state : State κ) : Option (State κ) :=
  match state.stopper with
  | .idle => some { state with stop := true, stopper := .joining }
  | .joining => if state.consumer = .exited then some { state with stopper := .returned } else none
  | .returned => none

def asyncStep (setup : Setup κ) (state : State κ) : Action κ → Option (State κ)
  | .push caller => pushStep setup state caller
  | .consumer => consumerStep setup state
  | .stop => stopStep state

def asyncWorker (setup : Setup κ) : Machine (State κ) (Action κ) where
  init := { bufferProductor := .new setup.config, buffConsumer := .new setup.config }
  step := asyncStep setup

end Steps

/-! ## What one step can do -/

section Transitions

variable {κ : Type} [DecidableEq κ] {setup : Setup κ}

inductive Transition (setup : Setup κ) (state : State κ) : Action κ → State κ → Prop where
  | pushEnter (caller : κ) (idle : state.push caller = .idle) (free : state.mutex = none) :
      Transition setup state (.push caller) (state.grant caller .locked)
  | pushWake (caller : κ) (waiting : state.push caller = .waiting) (free : state.mutex = none) :
      Transition setup state (.push caller) (state.grant caller .awaiting)
  | pushReject (caller : κ) (checking : state.push caller = .locked ∨ state.push caller = .rechecking)
      (stopped : state.stop = true) :
      Transition setup state (.push caller) (state.release caller .rejected)
  | pushPass (caller : κ) (locked : state.push caller = .locked) (running : state.stop = false) :
      Transition setup state (.push caller)
        (state.setPush caller (if setup.asyncType = .blockingBounded then .awaiting else .writing))
  | pushWait (caller : κ) (awaiting : state.push caller = .awaiting) :
      Transition setup state (.push caller) (state.release caller .waiting)
  | pushFits (caller : κ) (awaiting : state.push caller = .awaiting)
      (room : (setup.data caller).length ≤ state.bufferProductor.1.writeableSize) :
      Transition setup state (.push caller) (state.setPush caller .rechecking)
  | pushRecheck (caller : κ) (rechecking : state.push caller = .rechecking) (running : state.stop = false) :
      Transition setup state (.push caller) (state.setPush caller .writing)
  | pushWrite (caller : κ) (writing : state.push caller = .writing) (pushed : ValidBuffer)
      (written : state.bufferProductor.push setup.config (setup.data caller) = some pushed) :
      Transition setup state (.push caller)
        { state.setPush caller .written with bufferProductor := pushed, accepted := state.accepted ++ [caller] }
  | pushReturn (caller : κ) (written : state.push caller = .written) :
      Transition setup state (.push caller) (state.release caller .returned)
  | consumerEnter (top : state.consumer = .top) (free : state.mutex = none) :
      Transition setup state .consumer { state.setConsumer .locked with mutex := some .consumer }
  | consumerWake (sleeping : state.consumer = .sleeping) (free : state.mutex = none) :
      Transition setup state .consumer { state.setConsumer .awaiting with mutex := some .consumer }
  | consumerWait (locked : state.consumer = .locked) :
      Transition setup state .consumer (state.setConsumer .awaiting)
  | consumerReady (inside : state.consumer = .locked ∨ state.consumer = .awaiting) :
      Transition setup state .consumer (state.setConsumer .swapping)
  | consumerSleep (awaiting : state.consumer = .awaiting) :
      Transition setup state .consumer { state.setConsumer .sleeping with mutex := none }
  | consumerSwap (swapping : state.consumer = .swapping) :
      Transition setup state .consumer
        { state.setConsumer .swapped with
          bufferProductor := state.buffConsumer, buffConsumer := state.bufferProductor }
  | consumerRelease (swapped : state.consumer = .swapped) :
      Transition setup state .consumer { state.setConsumer .calling with mutex := none }
  | consumerCall (calling : state.consumer = .calling) :
      Transition setup state .consumer
        { state.setConsumer (.flushing 0) with handed := state.handed ++ state.buffConsumer.unread }
  | consumerFlush (index : Nat) (flushing : state.consumer = .flushing index) (left : ValidBuffer)
      (continues : setup.callback index state.buffConsumer = some left) :
      Transition setup state .consumer
        { state.setConsumer (.flushing (index + 1)) with
          buffConsumer := left
          received := Function.update state.received index (state.received index ++ state.buffConsumer.unread) }
  | consumerReturn (index : Nat) (flushing : state.consumer = .flushing index)
      (ended : setup.callback index state.buffConsumer = none) :
      Transition setup state .consumer (state.setConsumer .called)
  | consumerReset (called : state.consumer = .called) :
      Transition setup state .consumer
        { state.setConsumer .testingStop with buffConsumer := state.buffConsumer.reset }
  | consumerRepeat (testing : state.consumer = .testingStop ∨ state.consumer = .testingEmpty) :
      Transition setup state .consumer (state.setConsumer .top)
  | consumerStopped (testing : state.consumer = .testingStop) (stopped : state.stop = true) :
      Transition setup state .consumer (state.setConsumer .testingEmpty)
  | consumerExit (testing : state.consumer = .testingEmpty) (empty : state.bufferProductor.isEmpty = true) :
      Transition setup state .consumer (state.setConsumer .exited)
  | stopCall (idle : state.stopper = .idle) :
      Transition setup state .stop { state with stop := true, stopper := .joining }
  | stopJoin (joining : state.stopper = .joining) (exited : state.consumer = .exited) :
      Transition setup state .stop { state with stopper := .returned }

theorem pushStep_transition {before after : State κ} {caller : κ}
    (stepped : pushStep setup before caller = some after) : Transition setup before (.push caller) after := by
  cases pc : before.push caller with
  | idle =>
      simp only [pushStep, pc] at stepped
      split at stepped
      · rename_i free
        cases stepped
        exact .pushEnter caller pc free
      · cases stepped
  | locked =>
      simp only [pushStep, pc] at stepped
      split at stepped
      · rename_i stopped
        cases stepped
        exact .pushReject caller (.inl pc) stopped
      · rename_i running
        cases stepped
        exact .pushPass caller pc (by simpa using running)
  | awaiting =>
      simp only [pushStep, pc] at stepped
      split at stepped
      · rename_i room
        cases stepped
        exact .pushFits caller pc room
      · cases stepped
        exact .pushWait caller pc
  | waiting =>
      simp only [pushStep, pc] at stepped
      split at stepped
      · rename_i free
        cases stepped
        exact .pushWake caller pc free
      · cases stepped
  | rechecking =>
      simp only [pushStep, pc] at stepped
      split at stepped
      · rename_i stopped
        cases stepped
        exact .pushReject caller (.inr pc) stopped
      · rename_i running
        cases stepped
        exact .pushRecheck caller pc (by simpa using running)
  | writing =>
      simp only [pushStep, pc] at stepped
      obtain ⟨pushed, written, rfl⟩ := Option.map_eq_some_iff.mp stepped
      exact .pushWrite caller pc pushed written
  | written =>
      simp only [pushStep, pc] at stepped
      cases stepped
      exact .pushReturn caller pc
  | returned | rejected => simp [pushStep, pc] at stepped

theorem consumerStep_transition {before after : State κ} (stepped : consumerStep setup before = some after) :
    Transition setup before .consumer after := by
  cases pc : before.consumer with
  | top =>
      simp only [consumerStep, pc] at stepped
      split at stepped
      · rename_i free
        cases stepped
        exact .consumerEnter pc free
      · cases stepped
  | locked =>
      simp only [consumerStep, pc] at stepped
      cases stepped
      split
      · exact .consumerWait pc
      · exact .consumerReady (.inl pc)
  | awaiting =>
      simp only [consumerStep, pc] at stepped
      split at stepped
      · cases stepped
        exact .consumerReady (.inr pc)
      · cases stepped
        exact .consumerSleep pc
  | sleeping =>
      simp only [consumerStep, pc] at stepped
      split at stepped
      · rename_i free
        cases stepped
        exact .consumerWake pc free
      · cases stepped
  | swapping =>
      simp only [consumerStep, pc] at stepped
      cases stepped
      exact .consumerSwap pc
  | swapped =>
      simp only [consumerStep, pc] at stepped
      cases stepped
      exact .consumerRelease pc
  | calling =>
      simp only [consumerStep, pc] at stepped
      cases stepped
      exact .consumerCall pc
  | flushing index =>
      simp only [consumerStep, pc] at stepped
      split at stepped
      · rename_i left continues
        cases stepped
        exact .consumerFlush index pc left continues
      · rename_i ended
        cases stepped
        exact .consumerReturn index pc ended
  | called =>
      simp only [consumerStep, pc] at stepped
      cases stepped
      exact .consumerReset pc
  | testingStop =>
      simp only [consumerStep, pc] at stepped
      cases stepped
      split
      · rename_i stopped
        exact .consumerStopped pc stopped
      · exact .consumerRepeat (.inl pc)
  | testingEmpty =>
      simp only [consumerStep, pc] at stepped
      cases stepped
      split
      · rename_i empty
        exact .consumerExit pc empty
      · exact .consumerRepeat (.inr pc)
  | exited => simp [consumerStep, pc] at stepped

theorem stopStep_transition {before after : State κ} (stepped : stopStep before = some after) :
    Transition setup before .stop after := by
  cases pc : before.stopper with
  | idle =>
      simp only [stopStep, pc] at stepped
      cases stepped
      exact .stopCall pc
  | joining =>
      simp only [stopStep, pc] at stepped
      split at stepped
      · rename_i exited
        cases stepped
        exact .stopJoin pc exited
      · cases stepped
  | returned => simp [stopStep, pc] at stepped

theorem asyncStep_transition {before after : State κ} {action : Action κ}
    (stepped : asyncStep setup before action = some after) : Transition setup before action after := by
  cases action with
  | push caller => exact pushStep_transition stepped
  | consumer => exact consumerStep_transition stepped
  | stop => exact stopStep_transition stepped

end Transitions

end TaskHive.LogSystem
