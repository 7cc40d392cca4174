import TaskHive.AckQueue
import TaskHive.Machine

namespace TaskHive.Delivery

/-! # Tasks and results when things fail

A task is on its way from the scheduler that accepted it, through the broker
and a worker, to Redis, while processes crash, connections break, calls fail and
the broker restarts.  A task stands for itself and for its result.

A worker acknowledges a task as soon as it has cached it, and a scheduler
acknowledges a result whether Redis took it or not.  Tasks are published without
properties, so that they are not persistent; results are persistent and expire.
A consumer that loses its connection leaves its loop; nothing reconnects but a
new process.  The calls of `amqp_basic_publish` fail once the broker has gone.
No process is stopped, and what Redis has taken counts as arrived. -/

/-- `submitting` and `storing` tell whether `submit_task_thread_function` and
`get_task_result_thread_function` are in their loops. -/
structure SchedulerProcess where
  up : Bool := false
  linked : Bool := false
  submitting : Bool := false
  storing : Bool := false
  pendingTasks : List Nat := []
deriving DecidableEq

/-- `receiving` tells whether `receive_task` is in its loop. -/
structure WorkerProcess where
  up : Bool := false
  linked : Bool := false
  receiving : Bool := false
  pendingTasks : List Nat := []
  threadPool : List Nat := []
  taskResultQueue : List Nat := []
deriving DecidableEq

/-- `stored` and `executed` record what has ever been written to Redis and what
has ever been run. -/
structure State (S W : Type) where
  issued : Nat := 0
  scheduler : S → SchedulerProcess := fun _ => {}
  taskQueue : AckQueue W Nat := {}
  worker : W → WorkerProcess := fun _ => {}
  resultQueue : AckQueue S Nat := {}
  stored : List Nat := []
  executed : List Nat := []

/-- `publishFailed` and `reportFailed` are exceptions of `publishTask` and
`publishResult`; `storeFailed` is a `setTaskResult` that returns false. -/
inductive Fault where
  | publishFailed
  | reportFailed
  | storeFailed
  | taskConnectionLost
  | resultConnectionLost
  | schedulerCrash
  | workerCrash
  | brokerRestart
  | resultExpired
deriving DecidableEq, Repr

inductive Action (S W : Type) where
  | startScheduler (scheduler : S)
  | startWorker (worker : W)
  | receive (scheduler : S)
  | publishTask (scheduler : S) (published : Bool)
  | deliverTask (worker : W) (index : Nat)
  | cacheTask (worker : W) (index : Nat)
  | ackTask (index : Nat)
  | dispatch (worker : W)
  | execute (worker : W) (index : Nat)
  | publishResult (worker : W) (published : Bool)
  | deliverResult (scheduler : S) (index : Nat)
  | storeResult (scheduler : S) (index : Nat) (stored : Bool)
  | ackResult (index : Nat)
  | loseTaskConnection (worker : W)
  | loseResultConnection (scheduler : S)
  | crashScheduler (scheduler : S)
  | crashWorker (worker : W)
  | restartBroker
  | expireResult (index : Nat)

def Action.fault {S W : Type} : Action S W → Option Fault
  | .publishTask _ false => some .publishFailed
  | .publishResult _ false => some .reportFailed
  | .storeResult _ _ false => some .storeFailed
  | .loseTaskConnection _ => some .taskConnectionLost
  | .loseResultConnection _ => some .resultConnectionLost
  | .crashScheduler _ => some .schedulerCrash
  | .crashWorker _ => some .workerCrash
  | .restartBroker => some .brokerRestart
  | .expireResult _ => some .resultExpired
  | _ => none

section Steps

variable {S W : Type} [DecidableEq S] [DecidableEq W]

def State.setScheduler (state : State S W) (scheduler : S) (process : SchedulerProcess) : State S W :=
  { state with scheduler := Function.update state.scheduler scheduler process }

def State.setWorker (state : State S W) (worker : W) (process : WorkerProcess) : State S W :=
  { state with worker := Function.update state.worker worker process }

/-- The memory of a worker is gone, and the broker takes back what it has not
acknowledged. -/
def State.endWorker (state : State S W) (worker : W) : State S W :=
  { state.setWorker worker {} with taskQueue := state.taskQueue.requeue worker }

def schedulerStep (state : State S W) : Action S W → Option (State S W)
  | .startScheduler scheduler =>
      if (state.scheduler scheduler).up then none
      else some (state.setScheduler scheduler { up := true, linked := true, submitting := true, storing := true })
  | .receive scheduler =>
      let process := state.scheduler scheduler
      if process.up then
        some { state.setScheduler scheduler { process with pendingTasks := process.pendingTasks ++ [state.issued] } with
          issued := state.issued + 1 }
      else none
  | .publishTask scheduler published =>
      let process := state.scheduler scheduler
      match process.up && process.submitting, process.pendingTasks with
      | true, task :: rest =>
          if published then
            if process.linked then
              some { state.setScheduler scheduler { process with pendingTasks := rest } with
                taskQueue := state.taskQueue.publish task }
            else none
          -- the exception ends the thread, and the task has been popped
          else some (state.setScheduler scheduler { process with pendingTasks := rest, submitting := false })
      | _, _ => none
  | .deliverResult scheduler index =>
      let process := state.scheduler scheduler
      if process.up && process.storing then
        (state.resultQueue.deliver scheduler index).map fun queue => { state with resultQueue := queue }
      else none
  | .storeResult scheduler index stored =>
      let process := state.scheduler scheduler
      if process.up && process.storing then
        (state.resultQueue.handle scheduler index).map fun handled =>
          { state with
            resultQueue := handled.2
            stored := if stored then state.stored ++ [handled.1] else state.stored }
      else none
  | .ackResult index => (state.resultQueue.ack index).map fun queue => { state with resultQueue := queue }
  | .loseResultConnection scheduler =>
      let process := state.scheduler scheduler
      if process.up then
        some { state.setScheduler scheduler { process with storing := false } with
          resultQueue := state.resultQueue.requeue scheduler }
      else none
  | .crashScheduler scheduler =>
      if (state.scheduler scheduler).up then
        some { state.setScheduler scheduler {} with resultQueue := state.resultQueue.requeue scheduler }
      else none
  | _ => none

def workerStep (state : State S W) : Action S W → Option (State S W)
  | .startWorker worker =>
      if (state.worker worker).up then none
      else some (state.setWorker worker { up := true, linked := true, receiving := true })
  | .deliverTask worker index =>
      let process := state.worker worker
      if process.up && process.receiving then
        (state.taskQueue.deliver worker index).map fun queue => { state with taskQueue := queue }
      else none
  | .cacheTask worker index =>
      let process := state.worker worker
      if process.up && process.receiving then
        (state.taskQueue.handle worker index).map fun handled =>
          { state.setWorker worker { process with pendingTasks := process.pendingTasks ++ [handled.1] } with
            taskQueue := handled.2 }
      else none
  | .ackTask index => (state.taskQueue.ack index).map fun queue => { state with taskQueue := queue }
  | .dispatch worker =>
      let process := state.worker worker
      match process.pendingTasks with
      | task :: rest =>
          some (state.setWorker worker
            { process with pendingTasks := rest, threadPool := process.threadPool ++ [task] })
      | [] => none
  | .execute worker index =>
      let process := state.worker worker
      process.threadPool[index]?.map fun task =>
        { state.setWorker worker { process with
            threadPool := process.threadPool.eraseIdx index
            taskResultQueue := process.taskResultQueue ++ [task] } with
          executed := state.executed ++ [task] }
  | .publishResult worker published =>
      let process := state.worker worker
      match process.taskResultQueue with
      | task :: rest =>
          if published then
            if process.linked then
              some { state.setWorker worker { process with taskResultQueue := rest } with
                resultQueue := state.resultQueue.publish task }
            else none
          -- nobody catches the exception
          else some (state.endWorker worker)
      | [] => none
  | .loseTaskConnection worker =>
      let process := state.worker worker
      if process.up then
        some { state.setWorker worker { process with receiving := false } with
          taskQueue := state.taskQueue.requeue worker }
      else none
  | .crashWorker worker => if (state.worker worker).up then some (state.endWorker worker) else none
  | _ => none

def brokerStep (state : State S W) : Action S W → Option (State S W)
  | .restartBroker =>
      some { state with
        taskQueue := {}
        resultQueue := state.resultQueue.requeueAll
        scheduler := fun scheduler => { state.scheduler scheduler with linked := false, storing := false }
        worker := fun worker => { state.worker worker with linked := false, receiving := false } }
  | .expireResult index =>
      if index < state.resultQueue.ready.length then
        some { state with
          resultQueue := { state.resultQueue with ready := state.resultQueue.ready.eraseIdx index } }
      else none
  | _ => none

def deliveryStep (state : State S W) (action : Action S W) : Option (State S W) :=
  match action with
  | .startScheduler _ | .receive _ | .publishTask _ _ | .deliverResult _ _ | .storeResult _ _ _ | .ackResult _
  | .loseResultConnection _ | .crashScheduler _ => schedulerStep state action
  | .startWorker _ | .deliverTask _ _ | .cacheTask _ _ | .ackTask _ | .dispatch _ | .execute _ _
  | .publishResult _ _ | .loseTaskConnection _ | .crashWorker _ => workerStep state action
  | .restartBroker | .expireResult _ => brokerStep state action

def delivery : Machine (State S W) (Action S W) where
  init := {}
  step := deliveryStep

end Steps

/-! ## What one step can do -/

section Transitions

variable {S W : Type} [DecidableEq S] [DecidableEq W]

inductive Transition (before : State S W) : Action S W → State S W → Prop where
  | startScheduler (scheduler : S) (down : (before.scheduler scheduler).up = false) :
      Transition before (.startScheduler scheduler)
        (before.setScheduler scheduler { up := true, linked := true, submitting := true, storing := true })
  | receive (scheduler : S) (up : (before.scheduler scheduler).up = true) :
      Transition before (.receive scheduler)
        { before.setScheduler scheduler { before.scheduler scheduler with
            pendingTasks := (before.scheduler scheduler).pendingTasks ++ [before.issued] } with
          issued := before.issued + 1 }
  | publishTask (scheduler : S) (task : Nat) (rest : List Nat) (up : (before.scheduler scheduler).up = true)
      (front : (before.scheduler scheduler).pendingTasks = task :: rest) :
      Transition before (.publishTask scheduler true)
        { before.setScheduler scheduler { before.scheduler scheduler with pendingTasks := rest } with
          taskQueue := before.taskQueue.publish task }
  | publishThrows (scheduler : S) (task : Nat) (rest : List Nat) (up : (before.scheduler scheduler).up = true)
      (front : (before.scheduler scheduler).pendingTasks = task :: rest) :
      Transition before (.publishTask scheduler false)
        (before.setScheduler scheduler
          { before.scheduler scheduler with pendingTasks := rest, submitting := false })
  | deliverTask (worker : W) (index : Nat) (queue : AckQueue W Nat)
      (delivered : before.taskQueue.deliver worker index = some queue) :
      Transition before (.deliverTask worker index) { before with taskQueue := queue }
  | cacheTask (worker : W) (index : Nat) (task : Nat) (queue : AckQueue W Nat)
      (up : (before.worker worker).up = true)
      (handled : before.taskQueue.handle worker index = some (task, queue)) :
      Transition before (.cacheTask worker index)
        { before.setWorker worker { before.worker worker with
            pendingTasks := (before.worker worker).pendingTasks ++ [task] } with taskQueue := queue }
  | ackTask (index : Nat) (queue : AckQueue W Nat) (acked : before.taskQueue.ack index = some queue) :
      Transition before (.ackTask index) { before with taskQueue := queue }
  | dispatch (worker : W) (task : Nat) (rest : List Nat) (front : (before.worker worker).pendingTasks = task :: rest) :
      Transition before (.dispatch worker)
        (before.setWorker worker { before.worker worker with
          pendingTasks := rest, threadPool := (before.worker worker).threadPool ++ [task] })
  | execute (worker : W) (index : Nat) (task : Nat) (found : (before.worker worker).threadPool[index]? = some task) :
      Transition before (.execute worker index)
        { before.setWorker worker { before.worker worker with
            threadPool := (before.worker worker).threadPool.eraseIdx index
            taskResultQueue := (before.worker worker).taskResultQueue ++ [task] } with
          executed := before.executed ++ [task] }
  | publishResult (worker : W) (task : Nat) (rest : List Nat)
      (front : (before.worker worker).taskResultQueue = task :: rest) :
      Transition before (.publishResult worker true)
        { before.setWorker worker { before.worker worker with taskResultQueue := rest } with
          resultQueue := before.resultQueue.publish task }
  | reportThrows (worker : W) : Transition before (.publishResult worker false) (before.endWorker worker)
  | deliverResult (scheduler : S) (index : Nat) (queue : AckQueue S Nat)
      (delivered : before.resultQueue.deliver scheduler index = some queue) :
      Transition before (.deliverResult scheduler index) { before with resultQueue := queue }
  | storeResult (scheduler : S) (index : Nat) (stored : Bool) (task : Nat) (queue : AckQueue S Nat)
      (handled : before.resultQueue.handle scheduler index = some (task, queue)) :
      Transition before (.storeResult scheduler index stored)
        { before with
          resultQueue := queue
          stored := if stored then before.stored ++ [task] else before.stored }
  | ackResult (index : Nat) (queue : AckQueue S Nat) (acked : before.resultQueue.ack index = some queue) :
      Transition before (.ackResult index) { before with resultQueue := queue }
  | loseTaskConnection (worker : W) (up : (before.worker worker).up = true) :
      Transition before (.loseTaskConnection worker)
        { before.setWorker worker { before.worker worker with receiving := false } with
          taskQueue := before.taskQueue.requeue worker }
  | loseResultConnection (scheduler : S) (up : (before.scheduler scheduler).up = true) :
      Transition before (.loseResultConnection scheduler)
        { before.setScheduler scheduler { before.scheduler scheduler with storing := false } with
          resultQueue := before.resultQueue.requeue scheduler }
  | crashScheduler (scheduler : S) :
      Transition before (.crashScheduler scheduler)
        { before.setScheduler scheduler {} with resultQueue := before.resultQueue.requeue scheduler }
  | crashWorker (worker : W) : Transition before (.crashWorker worker) (before.endWorker worker)
  | restartBroker :
      Transition before .restartBroker
        { before with
          taskQueue := {}
          resultQueue := before.resultQueue.requeueAll
          scheduler := fun scheduler => { before.scheduler scheduler with linked := false, storing := false }
          worker := fun worker => { before.worker worker with linked := false, receiving := false } }
  | expireResult (index : Nat) :
      Transition before (.expireResult index)
        { before with
          resultQueue := { before.resultQueue with ready := before.resultQueue.ready.eraseIdx index } }
  | startWorker (worker : W) (down : (before.worker worker).up = false) :
      Transition before (.startWorker worker)
        (before.setWorker worker { up := true, linked := true, receiving := true })

theorem schedulerStep_transition {before after : State S W} {action : Action S W}
    (stepped : schedulerStep before action = some after) : Transition before action after := by
  cases action with
  | startScheduler scheduler =>
      simp only [schedulerStep] at stepped
      split at stepped
      · cases stepped
      · rename_i down
        cases stepped
        exact .startScheduler scheduler (by simpa using down)
  | receive scheduler =>
      simp only [schedulerStep] at stepped
      split at stepped
      · rename_i up
        cases stepped
        exact .receive scheduler up
      · cases stepped
  | publishTask scheduler published =>
      simp only [schedulerStep] at stepped
      split at stepped
      · rename_i task rest ready front
        have up := ((Bool.and_eq_true _ _).mp ready).1
        cases published with
        | true =>
            simp only [if_true] at stepped
            split at stepped
            · cases stepped
              exact .publishTask scheduler task rest up front
            · cases stepped
        | false =>
            cases stepped
            exact .publishThrows scheduler task rest up front
      · cases stepped
  | deliverResult scheduler index =>
      simp only [schedulerStep] at stepped
      split at stepped
      · obtain ⟨queue, delivered, rfl⟩ := Option.map_eq_some_iff.mp stepped
        exact .deliverResult scheduler index queue delivered
      · cases stepped
  | storeResult scheduler index stored =>
      simp only [schedulerStep] at stepped
      split at stepped
      · obtain ⟨⟨task, queue⟩, handled, rfl⟩ := Option.map_eq_some_iff.mp stepped
        exact .storeResult scheduler index stored task queue handled
      · cases stepped
  | ackResult index =>
      obtain ⟨queue, acked, rfl⟩ := Option.map_eq_some_iff.mp stepped
      exact .ackResult index queue acked
  | loseResultConnection scheduler =>
      simp only [schedulerStep] at stepped
      split at stepped
      · rename_i up
        cases stepped
        exact .loseResultConnection scheduler up
      · cases stepped
  | crashScheduler scheduler =>
      simp only [schedulerStep] at stepped
      split at stepped
      · cases stepped
        exact .crashScheduler scheduler
      · cases stepped
  | _ => cases stepped

theorem workerStep_transition {before after : State S W} {action : Action S W}
    (stepped : workerStep before action = some after) : Transition before action after := by
  cases action with
  | startWorker worker =>
      simp only [workerStep] at stepped
      split at stepped
      · cases stepped
      · rename_i down
        cases stepped
        exact .startWorker worker (by simpa using down)
  | deliverTask worker index =>
      simp only [workerStep] at stepped
      split at stepped
      · obtain ⟨queue, delivered, rfl⟩ := Option.map_eq_some_iff.mp stepped
        exact .deliverTask worker index queue delivered
      · cases stepped
  | cacheTask worker index =>
      simp only [workerStep] at stepped
      split at stepped
      · rename_i ready
        obtain ⟨⟨task, queue⟩, handled, rfl⟩ := Option.map_eq_some_iff.mp stepped
        exact .cacheTask worker index task queue ((Bool.and_eq_true _ _).mp ready).1 handled
      · cases stepped
  | ackTask index =>
      obtain ⟨queue, acked, rfl⟩ := Option.map_eq_some_iff.mp stepped
      exact .ackTask index queue acked
  | dispatch worker =>
      simp only [workerStep] at stepped
      split at stepped
      · rename_i task rest front
        cases stepped
        exact .dispatch worker task rest front
      · cases stepped
  | execute worker index =>
      obtain ⟨task, found, rfl⟩ := Option.map_eq_some_iff.mp stepped
      exact .execute worker index task found
  | publishResult worker published =>
      simp only [workerStep] at stepped
      split at stepped
      · rename_i task rest front
        cases published with
        | true =>
            simp only [if_true] at stepped
            split at stepped
            · cases stepped
              exact .publishResult worker task rest front
            · cases stepped
        | false =>
            cases stepped
            exact .reportThrows worker
      · cases stepped
  | loseTaskConnection worker =>
      simp only [workerStep] at stepped
      split at stepped
      · rename_i up
        cases stepped
        exact .loseTaskConnection worker up
      · cases stepped
  | crashWorker worker =>
      simp only [workerStep] at stepped
      split at stepped
      · cases stepped
        exact .crashWorker worker
      · cases stepped
  | _ => cases stepped

theorem brokerStep_transition {before after : State S W} {action : Action S W}
    (stepped : brokerStep before action = some after) : Transition before action after := by
  cases action with
  | restartBroker =>
      cases stepped
      exact .restartBroker
  | expireResult index =>
      simp only [brokerStep] at stepped
      split at stepped
      · cases stepped
        exact .expireResult index
      · cases stepped
  | _ => cases stepped

theorem deliveryStep_transition {before after : State S W} {action : Action S W}
    (stepped : deliveryStep before action = some after) : Transition before action after := by
  cases action with
  | startScheduler | receive | publishTask | deliverResult | storeResult | ackResult | loseResultConnection
  | crashScheduler => exact schedulerStep_transition stepped
  | startWorker | deliverTask | cacheTask | ackTask | dispatch | execute | publishResult | loseTaskConnection
  | crashWorker => exact workerStep_transition stepped
  | restartBroker | expireResult => exact brokerStep_transition stepped

end Transitions

/-- Only such faults happen. -/
def Only {S W : Type} (faults : Fault → Bool) (_ : State S W) (action : Action S W) : Prop :=
  ∀ fault ∈ action.fault, faults fault = true

instance {S W : Type} (faults : Fault → Bool) (state : State S W) (action : Action S W) :
    Decidable (Only faults state action) :=
  inferInstanceAs (Decidable (∀ _ ∈ _, _))

end TaskHive.Delivery
