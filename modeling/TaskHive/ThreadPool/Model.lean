import Mathlib.Logic.Function.Basic
import TaskHive.Machine

namespace TaskHive.ThreadPool

/-! # `ThreadPool`

Worker threads, callers of `submit` and `submit_for`, and the callers of
`start` and `stop` interleave.  `taskQueMtx_` has an explicit owner, and
everything that reads or writes outside of it is a step of its own: the flag
`running_`, the atomic counters, and the creation of a thread before it is
registered and counted.  A call is identified with the task it submits. -/

inductive Mode where
  | fixed
  | cache
deriving DecidableEq, Repr

/-- The bound of the queue is compared as an unsigned number. -/
structure Config where
  mode : Mode
  initThreadSize : Nat
  taskQueMaxThreshold : UInt32
  threadSizeThreadHold : Int

inductive CallKind where
  | submit
  | submitFor
deriving DecidableEq, Repr

/-- The phases of adding a thread; it runs from the first one on. -/
inductive Spawn where
  | create
  | register (tid : Nat)
  | countCurrent
  | countIdle
deriving DecidableEq, Repr

/-- A worker that is `waiting` contends for the mutex or sleeps on
`notEmpty_`; one that is `locked` owns the mutex. -/
inductive WorkerPc (κ : Type) where
  | unborn
  | waiting
  | locked
  | running (task : κ)
  | ran
  | scaleCheck
  | scaling (phase : Spawn)
  | exited
deriving DecidableEq

/-- A call that is `locked` or `checked` owns the mutex. -/
inductive CallPc where
  | idle
  | entered
  | locked
  | checked
  | returned
  | threw (what : String)
deriving DecidableEq

inductive Owner (κ : Type) where
  | worker (tid : Nat)
  | call (caller : κ)
deriving DecidableEq

/-- The number of threads that `start` still has to add, the current one
included. -/
inductive StartPc where
  | idle
  | spawning (left : Nat) (phase : Spawn)
  | returned
deriving DecidableEq, Repr

inductive StopPc where
  | idle
  | syncing
  | joining
  | clearing
  | returned
deriving DecidableEq, Repr

/-- The last four fields record the history of tasks: entered into the queue,
taken from it, executed, and thrown away by the final clean-up of `stop`. -/
structure State (κ : Type) where
  running : Bool := false
  mutex : Option (Owner κ) := none
  taskQue : List κ := []
  taskSize : UInt32 := 0
  threads : List Nat := []
  curThreadSize : Int := 0
  idleThreadSize : Int := 0
  threadIdCounter : Nat := 0
  worker : Nat → WorkerPc κ := fun _ => .unborn
  call : κ → CallPc := fun _ => .idle
  starter : StartPc := .idle
  stopper : StopPc := .idle
  enqueued : List κ := []
  taken : List κ := []
  finished : List κ := []
  discarded : List κ := []

inductive WorkerAction where
  | acquire
  | timeout
  | decide
  | run
  | settle
  | scale
  | spawn
deriving DecidableEq, Repr

inductive CallAction where
  | enter
  | acquire
  | timeout
  | check
  | push
deriving DecidableEq, Repr

inductive StartAction where
  | call
  | spawn
deriving DecidableEq, Repr

inductive StopAction where
  | call
  | sync
  | join
  | clear
deriving DecidableEq, Repr

inductive Action (κ : Type) where
  | worker (tid : Nat) (action : WorkerAction)
  | call (caller : κ) (action : CallAction)
  | start (action : StartAction)
  | stop (action : StopAction)

section Steps

variable {κ : Type} [DecidableEq κ]

def State.setWorker (state : State κ) (tid : Nat) (pc : WorkerPc κ) : State κ :=
  { state with worker := Function.update state.worker tid pc }

def State.setCall (state : State κ) (caller : κ) (pc : CallPc) : State κ :=
  { state with call := Function.update state.call caller pc }

/-- The predicate of the waits on `notEmpty_`. -/
def State.wakes (state : State κ) : Bool := !state.taskQue.isEmpty || !state.running

/-- The predicate of the waits on `notFull_`. -/
def State.hasRoom (config : Config) (state : State κ) : Bool :=
  decide (state.taskSize < config.taskQueMaxThreshold) || !state.running

/-- One phase of adding a thread, and the phase that follows. -/
def spawnStep (state : State κ) : Spawn → State κ × Option Spawn
  | .create =>
      let tid := state.threadIdCounter + 1
      ({ state.setWorker tid .waiting with threadIdCounter := tid }, some (.register tid))
  | .register tid => ({ state with threads := state.threads ++ [tid] }, some .countCurrent)
  | .countCurrent => ({ state with curThreadSize := state.curThreadSize + 1 }, some .countIdle)
  | .countIdle => ({ state with idleThreadSize := state.idleThreadSize + 1 }, none)

/-- Only the idle wait of CACHE mode times out. -/
def workerTimeout (config : Config) (state : State κ) (tid : Nat) : Option (State κ) :=
  if config.mode = .cache ∧ state.worker tid = .waiting ∧ state.mutex = none ∧ state.wakes = false then
    if state.running = true ∧ config.initThreadSize < state.curThreadSize then
      some { state.setWorker tid .exited with
        curThreadSize := state.curThreadSize - 1, idleThreadSize := state.idleThreadSize - 1 }
    else some { state.setWorker tid .locked with mutex := some (.worker tid) }
  else none

/-- The rest of the critical section: leave the loop, go round again, or take
the front task. -/
def workerDecide (state : State κ) (tid : Nat) : Option (State κ) :=
  if state.worker tid = .locked then
    match state.taskQue with
    | [] => some { state.setWorker tid (if state.running then .waiting else .exited) with mutex := none }
    | task :: rest =>
        some { state.setWorker tid (.running task) with
          mutex := none
          taskQue := rest
          taskSize := state.taskSize - 1
          idleThreadSize := state.idleThreadSize - 1
          taken := state.taken ++ [task] }
  else none

def workerStep (config : Config) (state : State κ) (tid : Nat) : WorkerAction → Option (State κ)
  | .acquire =>
      if state.worker tid = .waiting ∧ state.mutex = none ∧ state.wakes = true then
        some { state.setWorker tid .locked with mutex := some (.worker tid) }
      else none
  | .timeout => workerTimeout config state tid
  | .decide => workerDecide state tid
  | .run =>
      match state.worker tid with
      | .running task => some { state.setWorker tid .ran with finished := state.finished ++ [task] }
      | _ => none
  | .settle =>
      if state.worker tid = .ran then
        some { state.setWorker tid (if config.mode = .cache then .scaleCheck else .waiting) with
          idleThreadSize := state.idleThreadSize + 1 }
      else none
  | .scale =>
      if state.worker tid = .scaleCheck then
        if state.idleThreadSize = 0 ∧ 0 < state.taskSize ∧
            state.curThreadSize < config.threadSizeThreadHold then
          some (state.setWorker tid (.scaling .create))
        else some (state.setWorker tid .waiting)
      else none
  | .spawn =>
      match state.worker tid with
      | .scaling phase =>
          match spawnStep state phase with
          | (next, some following) => some (next.setWorker tid (.scaling following))
          | (next, none) => some (next.setWorker tid .waiting)
      | _ => none

/-- `submit` and `submit_for` differ only in the timeout of their wait. -/
def callStep (config : Config) (kind : κ → CallKind) (state : State κ) (caller : κ) :
    CallAction → Option (State κ)
  | .enter =>
      if state.call caller = .idle then
        some (state.setCall caller (if state.running then .entered else .threw "thread pool not running"))
      else none
  | .acquire =>
      if state.call caller = .entered ∧ state.mutex = none ∧ state.hasRoom config = true then
        some { state.setCall caller .locked with mutex := some (.call caller) }
      else none
  | .timeout =>
      if kind caller = .submitFor ∧ state.call caller = .entered ∧ state.mutex = none ∧
          state.hasRoom config = false then
        some (state.setCall caller (.threw "submit timeout"))
      else none
  | .check =>
      if state.call caller = .locked then
        if state.running then some (state.setCall caller .checked)
        else some { state.setCall caller (.threw "thread pool stopped") with mutex := none }
      else none
  | .push =>
      if state.call caller = .checked then
        some { state.setCall caller .returned with
          mutex := none
          taskQue := state.taskQue ++ [caller]
          taskSize := state.taskSize + 1
          enqueued := state.enqueued ++ [caller] }
      else none

/-- `start` is accepted whenever the pool is not running. -/
def startStep (config : Config) (state : State κ) : StartAction → Option (State κ)
  | .call =>
      match state.starter with
      | .spawning _ _ => none
      | _ =>
          if state.running then none
          else
            some { state with
              running := true
              starter := if config.initThreadSize = 0 then .returned
                else .spawning config.initThreadSize .create }
  | .spawn =>
      match state.starter with
      | .spawning left phase =>
          match spawnStep state phase with
          | (next, some following) => some { next with starter := .spawning left following }
          | (next, none) =>
              some { next with starter := if left ≤ 1 then .returned else .spawning (left - 1) .create }
      | _ => none

/-- The `stop` call that finds the pool running.  It takes and releases the
mutex once before it wakes all sleepers.  The walk over `threads_` ends with its
last join; nobody else may be at the map until then. -/
def stopStep (state : State κ) : StopAction → Option (State κ)
  | .call =>
      if (state.stopper = .idle ∨ state.stopper = .returned) ∧ state.running = true then
        some { state with running := false, stopper := .syncing }
      else none
  | .sync =>
      if state.stopper = .syncing ∧ state.mutex = none then some { state with stopper := .joining } else none
  | .join =>
      if state.stopper = .joining ∧ ∀ tid ∈ state.threads, state.worker tid = .exited then
        some { state with threads := [], stopper := .clearing }
      else none
  | .clear =>
      if state.stopper = .clearing ∧ state.mutex = none then
        some { state with
          taskQue := [], taskSize := 0, discarded := state.discarded ++ state.taskQue, stopper := .returned }
      else none

def poolStep (config : Config) (kind : κ → CallKind) (state : State κ) : Action κ → Option (State κ)
  | .worker tid action => workerStep config state tid action
  | .call caller action => callStep config kind state caller action
  | .start action => startStep config state action
  | .stop action => stopStep state action

def pool (config : Config) (kind : κ → CallKind) : Machine (State κ) (Action κ) where
  init := {}
  step := poolStep config kind

end Steps

end TaskHive.ThreadPool
