import TaskHive.Exclusion
import TaskHive.Machine

namespace TaskHive.Handoff

/-! # Handing over through a queue and a condition variable

The submit thread of a client, the submit thread of a scheduler, and the
executing and the reporting thread of a worker take what others push from a
queue.  All four loop while `running_` is set, sleep on a condition variable
when the queue is empty, and are stopped by clearing `running_` and notifying,
both without the mutex.  Here is what wakes them: a sleeper goes on only after a
notification, or for no reason at all.  The predicate is evaluated under the
mutex, and so is everything until the sleep begins; `stop` does not wait for
it. -/

/-- The thread functions. -/
inductive Loop where
  | clientSubmitTask
  | schedulerSubmitTask
  | workerExecTask
  | workerReportTaskResult
deriving DecidableEq, Repr

/-- What an exception of the loop's body does. -/
inductive Handler where
  | continues
  | leaves
  | terminates
deriving DecidableEq, Repr

/-- The client catches inside the loop and the scheduler around it; the worker
does not catch. -/
def Loop.handler : Loop → Handler
  | .clientSubmitTask => .continues
  | .schedulerSubmitTask => .leaves
  | .workerExecTask | .workerReportTaskResult => .terminates

/-- `exec_task` leaves as soon as it finds `running_` cleared, and it gives the
mutex back before it hands the task to the pool. -/
def Loop.unlocksEarly : Loop → Bool
  | .workerExecTask => true
  | _ => false

/-- The loop ends with `if (!running_ && queue.empty()) break;`. -/
def Loop.testsAtEnd : Loop → Bool
  | .schedulerSubmitTask | .workerReportTaskResult => true
  | _ => false

/-- A call that pushes: the mutex is given back before the notification. -/
inductive CallPc where
  | idle
  | locked
  | pushed
  | unlocked
  | returned
deriving DecidableEq, Repr

/-- In `parking` the predicate has been found false and the mutex is still
held. -/
inductive ThreadPc (α : Type) where
  | top
  | locking
  | locked
  | testing
  | parking
  | sleeping
  | holding
  | working (item : α)
  | settled
  | exited
deriving DecidableEq

/-- `flagged` is reached when `running_` is cleared and nobody is notified yet. -/
inductive StopPc where
  | idle
  | flagged
  | joining
  | returned
deriving DecidableEq, Repr

inductive Owner (κ : Type) where
  | call (caller : κ)
  | thread
deriving DecidableEq

/-- The last two fields are a history: the calls in the order of their pushes,
and what the thread has taken. -/
structure State (κ α : Type) where
  running : Bool := true
  queue : List α := []
  mutex : Option (Owner κ) := none
  call : κ → CallPc := fun _ => .idle
  thread : ThreadPc α := .top
  woken : Bool := false
  stop : StopPc := .idle
  terminated : Bool := false
  order : List κ := []
  taken : List α := []

inductive Outcome where
  | returned
  | threw
deriving DecidableEq, Repr

/-- The outcome is that of the loop's body and matters only there. -/
inductive Action (κ : Type) where
  | call (caller : κ)
  | thread (outcome : Outcome)
  | wakeSpuriously
  | stop
deriving DecidableEq

section Steps

variable {κ α : Type} [DecidableEq κ]

def State.setCall (state : State κ α) (caller : κ) (pc : CallPc) : State κ α :=
  { state with call := Function.update state.call caller pc }

def State.setThread (state : State κ α) (pc : ThreadPc α) : State κ α := { state with thread := pc }

/-- The thread goes on without the mutex. -/
def State.unlock (state : State κ α) (pc : ThreadPc α) : State κ α := { state with thread := pc, mutex := none }

def ThreadPc.sleeps : ThreadPc α → Bool
  | .sleeping => true
  | _ => false

/-- There is one thread to notify, so `notify_one` and `notify_all` do the
same. -/
def State.notify (state : State κ α) : State κ α := { state with woken := state.woken || state.thread.sleeps }

def callStep (items : κ → List α) (state : State κ α) (caller : κ) : Option (State κ α) :=
  match state.call caller with
  | .idle =>
      if state.mutex = none then some { state.setCall caller .locked with mutex := some (.call caller) } else none
  | .locked =>
      some { state.setCall caller .pushed with
        queue := state.queue ++ items caller, order := state.order ++ [caller] }
  | .pushed => some { state.setCall caller .unlocked with mutex := none }
  | .unlocked => some (state.setCall caller .returned).notify
  | .returned => none

/-- The statements between the wait and the work. -/
def hold (loop : Loop) (state : State κ α) : State κ α :=
  if loop.unlocksEarly then
    if !state.running then state.unlock .exited
    else match state.queue with
      | [] => state.unlock .top
      | item :: rest => { state.unlock (.working item) with queue := rest, taken := state.taken ++ [item] }
  else match state.queue with
    | [] => state.setThread .settled
    | item :: rest => { state.setThread (.working item) with queue := rest, taken := state.taken ++ [item] }

/-- An exception unwinds the lock. -/
def work (loop : Loop) (state : State κ α) : Outcome → State κ α
  | .returned => if loop.unlocksEarly then state.setThread .top else state.setThread .settled
  | .threw =>
      match loop.handler with
      | .continues => state.setThread .settled
      | .leaves => state.unlock .exited
      | .terminates => { state with terminated := true }

def threadStep (loop : Loop) (state : State κ α) (outcome : Outcome) : Option (State κ α) :=
  match state.thread with
  | .top => some (state.setThread (if state.running then .locking else .exited))
  | .locking => if state.mutex = none then some { state.setThread .locked with mutex := some .thread } else none
  | .locked => some (state.setThread (if state.queue.isEmpty && state.running then .testing else .holding))
  | .testing => some (state.setThread (if !state.running || !state.queue.isEmpty then .holding else .parking))
  | .parking => some { state.unlock .sleeping with woken := false }
  | .sleeping =>
      if state.woken ∧ state.mutex = none then some { state.setThread .testing with mutex := some .thread } else none
  | .holding => some (hold loop state)
  | .working _ => some (work loop state outcome)
  | .settled =>
      some (state.unlock (if loop.testsAtEnd && !state.running && state.queue.isEmpty then .exited else .top))
  | .exited => none

def stopStep (state : State κ α) : Option (State κ α) :=
  match state.stop with
  | .idle => some { state with running := false, stop := .flagged }
  | .flagged => some { state.notify with stop := .joining }
  | .joining =>
      match state.thread with
      | .exited => some { state with stop := .returned }
      | _ => none
  | .returned => none

def handoffStep (loop : Loop) (items : κ → List α) (state : State κ α) (action : Action κ) : Option (State κ α) :=
  if state.terminated then none
  else match action with
    | .call caller => callStep items state caller
    | .thread outcome => threadStep loop state outcome
    | .wakeSpuriously =>
        match state.thread with
        | .sleeping => some { state with woken := true }
        | _ => none
    | .stop => stopStep state

/-- One thread of the given kind, and calls that each push their items once. -/
def handoff (loop : Loop) (items : κ → List α) : Machine (State κ α) (Action κ) where
  init := {}
  step := handoffStep loop items

end Steps

/-! ## What one step can do -/

section Transitions

variable {κ α : Type} [DecidableEq κ] {loop : Loop} {items : κ → List α}

inductive CallMove (items : κ → List α) (state : State κ α) (caller : κ) : State κ α → Prop where
  | enter (idle : state.call caller = .idle) (free : state.mutex = none) :
      CallMove items state caller { state.setCall caller .locked with mutex := some (.call caller) }
  | push (locked : state.call caller = .locked) :
      CallMove items state caller { state.setCall caller .pushed with
        queue := state.queue ++ items caller, order := state.order ++ [caller] }
  | unlock (pushed : state.call caller = .pushed) :
      CallMove items state caller { state.setCall caller .unlocked with mutex := none }
  | notify (unlocked : state.call caller = .unlocked) :
      CallMove items state caller (state.setCall caller .returned).notify

theorem callStep_move {before after : State κ α} {caller : κ} (stepped : callStep items before caller = some after) :
    CallMove items before caller after := by
  cases pc : before.call caller with
  | idle =>
      simp only [callStep, pc] at stepped
      split at stepped
      · rename_i free
        cases stepped
        exact .enter pc free
      · cases stepped
  | locked =>
      simp only [callStep, pc] at stepped
      cases stepped
      exact .push pc
  | pushed =>
      simp only [callStep, pc] at stepped
      cases stepped
      exact .unlock pc
  | unlocked =>
      simp only [callStep, pc] at stepped
      cases stepped
      exact .notify pc
  | returned => simp [callStep, pc] at stepped

/-- The steps of the thread whose body does not throw. -/
inductive ThreadMove (loop : Loop) (state : State κ α) : State κ α → Prop where
  | again (top : state.thread = .top) (running : state.running = true) :
      ThreadMove loop state (state.setThread .locking)
  | leave (top : state.thread = .top) (stopped : state.running = false) :
      ThreadMove loop state (state.setThread .exited)
  | enter (locking : state.thread = .locking) (free : state.mutex = none) :
      ThreadMove loop state { state.setThread .locked with mutex := some .thread }
  | wait (locked : state.thread = .locked) (empty : state.queue = []) (running : state.running = true) :
      ThreadMove loop state (state.setThread .testing)
  | ready (inside : state.thread = .locked ∨ state.thread = .testing)
      (cause : state.running = false ∨ state.queue ≠ []) : ThreadMove loop state (state.setThread .holding)
  | park (testing : state.thread = .testing) (empty : state.queue = []) (running : state.running = true) :
      ThreadMove loop state (state.setThread .parking)
  | sleep (parking : state.thread = .parking) : ThreadMove loop state { state.unlock .sleeping with woken := false }
  | wake (sleeping : state.thread = .sleeping) (woken : state.woken = true) (free : state.mutex = none) :
      ThreadMove loop state { state.setThread .testing with mutex := some .thread }
  | stopped (holding : state.thread = .holding) (early : loop.unlocksEarly = true) (stopped : state.running = false) :
      ThreadMove loop state (state.unlock .exited)
  | nothing (holding : state.thread = .holding) (empty : state.queue = []) (pc : ThreadPc α)
      (next : pc = if loop.unlocksEarly then .top else .settled) (mutex : Option (Owner κ))
      (lock : mutex = if loop.unlocksEarly then none else state.mutex) :
      ThreadMove loop state { state.setThread pc with mutex }
  | take (holding : state.thread = .holding) (item : α) (rest : List α) (front : state.queue = item :: rest)
      (mutex : Option (Owner κ)) (lock : mutex = if loop.unlocksEarly then none else state.mutex) :
      ThreadMove loop state { state.setThread (.working item) with
        mutex, queue := rest, taken := state.taken ++ [item] }
  | done (item : α) (working : state.thread = .working item) (pc : ThreadPc α)
      (next : pc = if loop.unlocksEarly then .top else .settled) : ThreadMove loop state (state.setThread pc)
  | around (settled : state.thread = .settled) : ThreadMove loop state (state.unlock .top)
  | drained (settled : state.thread = .settled) (stopped : state.running = false) :
      ThreadMove loop state (state.unlock .exited)

omit [DecidableEq κ] in
theorem hold_move {state : State κ α} (holding : state.thread = .holding) :
    ThreadMove loop state (hold loop state) := by
  unfold hold
  split
  · rename_i early
    split
    · rename_i stopped
      exact .stopped holding early (by simpa using stopped)
    · split
      · rename_i empty
        exact .nothing holding empty .top (by rw [if_pos early]) none (by rw [if_pos early])
      · rename_i item rest front
        exact .take holding item rest front none (by rw [if_pos early])
  · rename_i late
    split
    · rename_i empty
      exact .nothing holding empty .settled (by rw [if_neg late]) state.mutex (by rw [if_neg late])
    · rename_i item rest front
      exact .take holding item rest front state.mutex (by rw [if_neg late])

omit [DecidableEq κ] in
theorem threadStep_move {before after : State κ α} (stepped : threadStep loop before .returned = some after) :
    ThreadMove loop before after := by
  cases pc : before.thread with
  | top =>
      simp only [threadStep, pc] at stepped
      cases stepped
      split
      · rename_i running
        exact .again pc running
      · rename_i stopped
        exact .leave pc (by simpa using stopped)
  | locking =>
      simp only [threadStep, pc] at stepped
      split at stepped
      · rename_i free
        cases stepped
        exact .enter pc free
      · cases stepped
  | locked =>
      simp only [threadStep, pc] at stepped
      cases stepped
      split
      · rename_i waits
        simp only [Bool.and_eq_true, List.isEmpty_iff] at waits
        exact .wait pc waits.1 waits.2
      · rename_i ready
        refine .ready (.inl pc) ?_
        cases running : before.running with
        | false => exact .inl rfl
        | true => exact .inr (by simpa [running] using ready)
  | testing =>
      simp only [threadStep, pc] at stepped
      cases stepped
      split
      · rename_i ready
        refine .ready (.inr pc) ?_
        simpa using ready
      · rename_i unready
        simp only [Bool.or_eq_true, Bool.not_eq_true', List.isEmpty_eq_false_iff, not_or, not_not,
          Bool.not_eq_false] at unready
        exact .park pc unready.2 unready.1
  | parking =>
      simp only [threadStep, pc] at stepped
      cases stepped
      exact .sleep pc
  | sleeping =>
      simp only [threadStep, pc] at stepped
      split at stepped
      · rename_i ready
        cases stepped
        exact .wake pc ready.1 ready.2
      · cases stepped
  | holding =>
      simp only [threadStep, pc] at stepped
      cases stepped
      exact hold_move pc
  | working item =>
      simp only [threadStep, pc, work] at stepped
      split at stepped
      · rename_i early
        cases stepped
        exact .done item pc .top (by rw [if_pos early])
      · rename_i late
        cases stepped
        exact .done item pc .settled (by rw [if_neg late])
  | settled =>
      simp only [threadStep, pc] at stepped
      cases stepped
      split
      · rename_i drained
        simp only [Bool.and_eq_true, Bool.not_eq_true'] at drained
        exact .drained pc drained.1.2
      · exact .around pc
  | exited => simp [threadStep, pc] at stepped

inductive StopMove (state : State κ α) : State κ α → Prop where
  | call (idle : state.stop = .idle) : StopMove state { state with running := false, stop := .flagged }
  | notify (flagged : state.stop = .flagged) : StopMove state { state.notify with stop := .joining }
  | join (joining : state.stop = .joining) (exited : state.thread = .exited) :
      StopMove state { state with stop := .returned }

omit [DecidableEq κ] in
theorem stopStep_move {before after : State κ α} (stepped : stopStep before = some after) : StopMove before after := by
  cases pc : before.stop with
  | idle =>
      simp only [stopStep, pc] at stepped
      cases stepped
      exact .call pc
  | flagged =>
      simp only [stopStep, pc] at stepped
      cases stepped
      exact .notify pc
  | joining =>
      simp only [stopStep, pc] at stepped
      split at stepped
      · rename_i exited
        cases stepped
        exact .join pc exited
      · cases stepped
  | returned => simp [stopStep, pc] at stepped

/-- No body throws. -/
def Calm (_ : State κ α) : Action κ → Prop
  | .thread .threw => False
  | _ => True

instance (state : State κ α) : (action : Action κ) → Decidable (Calm state action)
  | .thread .threw => inferInstanceAs (Decidable False)
  | .thread .returned | .call _ | .wakeSpuriously | .stop => inferInstanceAs (Decidable True)

inductive Transition (loop : Loop) (items : κ → List α) (before : State κ α) : Action κ → State κ α → Prop where
  | call (caller : κ) (after : State κ α) (move : CallMove items before caller after) :
      Transition loop items before (.call caller) after
  | thread (after : State κ α) (move : ThreadMove loop before after) :
      Transition loop items before (.thread .returned) after
  | wake (sleeping : before.thread = .sleeping) :
      Transition loop items before .wakeSpuriously { before with woken := true }
  | stop (after : State κ α) (move : StopMove before after) : Transition loop items before .stop after

theorem handoffStep_transition {before after : State κ α} {action : Action κ} (calm : Calm before action)
    (stepped : handoffStep loop items before action = some after) : Transition loop items before action after := by
  unfold handoffStep at stepped
  split at stepped
  · cases stepped
  · cases action with
    | call caller => exact .call caller after (callStep_move stepped)
    | thread outcome =>
        cases outcome with
        | returned => exact .thread after (threadStep_move stepped)
        | threw => exact calm.elim
    | wakeSpuriously =>
        simp only at stepped
        split at stepped
        · rename_i sleeping
          cases stepped
          exact .wake sleeping
        · cases stepped
    | stop => exact .stop after (stopStep_move stepped)

end Transitions

end TaskHive.Handoff
