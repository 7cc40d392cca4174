import TaskHive.Machine
import TaskHive.MessageQueue.Queue
import TaskHive.Scheduler.Receive

namespace TaskHive.Scheduler

open TaskHive.Wire TaskHive.MessageQueue

/-! # Accepted tasks between arrival, publishing and `stop`

The receive thread, the submit thread and the caller of `stop` interleave.
The submit thread owns `pending_tasks_mutex_` while it is `holding` or has
`settled` the front task; everything it does in between is invisible to the
other threads. -/

inductive ReceivePc where
  | top
  | accepting
  | pushing (task : Task)
  | exited
deriving DecidableEq

inductive SubmitPc where
  | top
  | locking
  | waiting
  | holding
  | settled
  | exited
deriving DecidableEq, Repr

inductive StopPc where
  | idle
  | closing
  | joining
  | returned
deriving DecidableEq, Repr

/-- `pushed` and `published` record what the receive thread has ever pushed and
what the broker has ever been given. -/
structure State where
  running : Bool := true
  taskQueue : Queue
  pendingTasks : List Task := []
  receive : ReceivePc := .top
  submit : SubmitPc := .top
  stop : StopPc := .idle
  log : List String := []
  pushed : List Task := []
  published : List Task := []
deriving DecidableEq

inductive Action where
  | receiveCheck
  | accept (now : Int64) (accept : Accept)
  | push
  | submitCheck
  | lock
  | wake
  | publish (now : Int64) (accepted : Bool) (order : List (Bytes × Bytes))
  | unlock
  | stopCall
  | stopClose
  | stopReturn

def SubmitPc.mutexFree : SubmitPc → Bool
  | .holding | .settled => false
  | _ => true

def receiveStep (state : State) : Action → Option State
  | .receiveCheck =>
      match state.receive with
      | .top => some { state with receive := if state.running then .accepting else .exited }
      | _ => none
  | .accept now accept =>
      match state.receive with
      | .accepting =>
          -- a failed accept ends the loop only after `stop`
          if accept = .failed ∧ state.running = false then some { state with receive := .exited }
          else match acceptTask now accept with
            | none => some { state with receive := .top }
            | some task => some { state with receive := .pushing task }
      | _ => none
  | .push =>
      match state.receive with
      | .pushing task =>
          if state.submit.mutexFree then
            some { state with
              pendingTasks := state.pendingTasks ++ [task]
              pushed := state.pushed ++ [task]
              receive := .top }
          else none
      | _ => none
  | _ => none

/-- The front task is popped before it is published; an exception releases the
mutex and ends the thread. -/
def publishFront (now : Int64) (accepted : Bool) (order : List (Bytes × Bytes)) (state : State) : State :=
  match state.pendingTasks with
  | [] => { state with submit := .settled }
  | task :: rest =>
      let task := { task with endSchedTime := now }
      match publishTaskImpl state.taskQueue accepted order task with
      | .ok _ =>
          { state with pendingTasks := rest, published := state.published ++ [task], submit := .settled }
      | .error what =>
          { state with pendingTasks := rest, log := state.log ++ [what], submit := .exited }

def submitStep (state : State) : Action → Option State
  | .submitCheck =>
      match state.submit with
      | .top => some { state with submit := if state.running then .locking else .exited }
      | _ => none
  | .lock =>
      match state.submit with
      | .locking =>
          some { state with
            submit := if state.pendingTasks.isEmpty && state.running then .waiting else .holding }
      | _ => none
  | .wake =>
      match state.submit with
      | .waiting =>
          if !state.running || !state.pendingTasks.isEmpty then some { state with submit := .holding }
          else none
      | _ => none
  | .publish now accepted order =>
      match state.submit with
      | .holding => some (publishFront now accepted order state)
      | _ => none
  | .unlock =>
      match state.submit with
      | .settled =>
          some { state with
            submit := if !state.running && state.pendingTasks.isEmpty then .exited else .top }
      | _ => none
  | _ => none

/-- `stop` returns at once when the scheduler is not running; `joining` covers
the joins of both threads. -/
def stopStep (state : State) : Action → Option State
  | .stopCall =>
      match state.stop with
      | .idle => if state.running then some { state with running := false, stop := .closing } else none
      | _ => none
  | .stopClose =>
      match state.stop with
      | .closing => some { state with taskQueue := state.taskQueue.close, stop := .joining }
      | _ => none
  | .stopReturn =>
      match state.stop with
      | .joining =>
          if state.receive = .exited ∧ state.submit = .exited then some { state with stop := .returned }
          else none
      | _ => none
  | _ => none

def lifecycleStep (state : State) (action : Action) : Option State :=
  match action with
  | .receiveCheck | .accept _ _ | .push => receiveStep state action
  | .submitCheck | .lock | .wake | .publish _ _ _ | .unlock => submitStep state action
  | .stopCall | .stopClose | .stopReturn => stopStep state action

def lifecycle (taskQueue : Queue) : Machine State Action where
  init := { taskQueue }
  step := lifecycleStep

/-- A published task as it was when it was pushed. -/
def arrival (task : Task) : Task := { task with endSchedTime := 0 }

/-- Whenever the mutex is free, the pushed tasks are the published ones followed
by the pending ones; after `stop` they are all published. -/
def TasksConserved (state : State) : Prop :=
  (state.submit.mutexFree = true → state.pushed = state.published.map arrival ++ state.pendingTasks) ∧
    (state.stop = .returned → state.pushed = state.published.map arrival)

instance : DecidablePred TasksConserved := fun _ => inferInstanceAs (Decidable (_ ∧ _))

/-- No publish throws, and the submit thread leaves its loop only when nothing
is pending and the receive thread has ended. -/
def Drains (state : State) : Action → Prop
  | .publish _ accepted _ =>
      state.pendingTasks ≠ [] →
        state.taskQueue.isConnected = true ∧ state.taskQueue.conn = true ∧ accepted = true
  | .submitCheck => state.running = false → state.pendingTasks = [] ∧ state.receive = .exited
  | .unlock => state.running = false → state.pendingTasks = [] → state.receive = .exited
  | _ => True

instance (state : State) (action : Action) : Decidable (Drains state action) := by
  cases action <;> unfold Drains <;> infer_instance

structure Accounted (state : State) : Prop where
  conserved : state.pushed = state.published.map arrival ++ state.pendingTasks
  fresh : ∀ task ∈ state.pendingTasks, arrival task = task
  pushing : ∀ task, state.receive = .pushing task → arrival task = task
  drained : state.submit = .exited → state.pendingTasks = [] ∧ state.receive = .exited
  joined : state.stop = .returned → state.submit = .exited

theorem arrival_of_acceptTask {now : Int64} {accept : Accept} {task : Task}
    (accepted : acceptTask now accept = some task) : arrival task = task := by
  unfold acceptTask at accepted
  split at accepted
  any_goals cases accepted
  obtain ⟨parsed, _, rfl⟩ := Option.map_eq_some_iff.mp accepted
  rfl

theorem Accounted.submitting {state : State} (accounted : Accounted state)
    (receiving : state.receive ≠ .exited) : state.submit ≠ .exited :=
  fun exited => receiving (accounted.drained exited).2

theorem receiveStep_accounted {before after : State} {action : Action} (accounted : Accounted before)
    (stepped : receiveStep before action = some after) : Accounted after := by
  have submitting := accounted.submitting
  obtain ⟨conserved, fresh, pushing, _, joined⟩ := accounted
  cases action with
  | receiveCheck =>
      simp only [receiveStep] at stepped
      split at stepped
      · rename_i pc
        cases stepped
        refine ⟨conserved, fresh, ?_, fun exited => absurd exited (submitting (by simp [pc])), joined⟩
        intro task pushes
        simp only at pushes
        split at pushes <;> cases pushes
      · cases stepped
  | accept now accept =>
      simp only [receiveStep] at stepped
      split at stepped
      · rename_i pc
        have alive := submitting (by simp [pc])
        split at stepped
        · cases stepped
          exact ⟨conserved, fresh, nofun, fun exited => absurd exited alive, joined⟩
        · split at stepped
          · cases stepped
            exact ⟨conserved, fresh, nofun, fun exited => absurd exited alive, joined⟩
          · rename_i task accepted
            cases stepped
            refine ⟨conserved, fresh, ?_, fun exited => absurd exited alive, joined⟩
            intro other same
            cases same
            exact arrival_of_acceptTask accepted
      · cases stepped
  | push =>
      simp only [receiveStep] at stepped
      split at stepped
      · rename_i task pc
        split at stepped
        · cases stepped
          refine ⟨?_, ?_, nofun, fun exited => absurd exited (submitting (by simp [pc])), joined⟩
          · simp only [conserved, List.append_assoc]
          · intro other member
            rcases List.mem_append.mp member with old | new
            · exact fresh other old
            · cases List.mem_singleton.mp new
              exact pushing task pc
        · cases stepped
      · cases stepped
  | _ => cases stepped

theorem publishFront_accounted {before : State} (accounted : Accounted before) (pc : before.submit = .holding)
    {now : Int64} {accepted : Bool} {order : List (Bytes × Bytes)}
    (drains : Drains before (.publish now accepted order)) :
    Accounted (publishFront now accepted order before) := by
  obtain ⟨conserved, fresh, pushing, _, joined⟩ := accounted
  have notReturned : before.stop ≠ .returned := by
    intro returned
    have := joined returned
    rw [pc] at this
    cases this
  unfold publishFront
  split
  · exact ⟨conserved, fresh, pushing, nofun, fun returned => absurd returned notReturned⟩
  · rename_i task rest pending
    obtain ⟨connected, conn, rfl⟩ := drains (by simp [pending])
    have taskFresh := fresh task (by simp [pending])
    simp only [publishTaskImpl, publishBytes, connected, conn, Bool.not_true, Bool.or_self,
      Bool.false_eq_true, if_false, if_true]
    refine ⟨?_, ?_, pushing, nofun, fun returned => absurd returned notReturned⟩
    · -- the time that is set on publishing is not part of the arrival
      have stamped : arrival { task with endSchedTime := now } = task := taskFresh
      simp only [conserved, pending, List.map_append, List.map_cons, List.map_nil, stamped,
        List.append_assoc, List.singleton_append]
    · intro other member
      exact fresh other (by simp [pending, member])

theorem submitStep_accounted {before after : State} {action : Action} (accounted : Accounted before)
    (drains : Drains before action) (stepped : submitStep before action = some after) :
    Accounted after := by
  have notReturned (submitting : before.submit ≠ .exited) : before.stop ≠ .returned :=
    fun returned => submitting (accounted.joined returned)
  cases action with
  | submitCheck =>
      simp only [submitStep] at stepped
      split at stepped
      · rename_i pc
        cases stepped
        obtain ⟨conserved, fresh, pushing, _, _⟩ := accounted
        refine ⟨conserved, fresh, pushing, ?_, fun returned => absurd returned (notReturned (by simp [pc]))⟩
        intro exited
        cases running : before.running with
        | false => exact drains running
        | true => simp [running] at exited
      · cases stepped
  | lock =>
      simp only [submitStep] at stepped
      split at stepped
      · rename_i pc
        cases stepped
        obtain ⟨conserved, fresh, pushing, _, _⟩ := accounted
        refine ⟨conserved, fresh, pushing, ?_, fun returned => absurd returned (notReturned (by simp [pc]))⟩
        intro exited
        simp only at exited
        split at exited <;> cases exited
      · cases stepped
  | wake =>
      simp only [submitStep] at stepped
      split at stepped
      · rename_i pc
        split at stepped
        · cases stepped
          obtain ⟨conserved, fresh, pushing, _, _⟩ := accounted
          exact ⟨conserved, fresh, pushing, nofun, fun returned => absurd returned (notReturned (by simp [pc]))⟩
        · cases stepped
      · cases stepped
  | publish now accepted order =>
      simp only [submitStep] at stepped
      split at stepped
      · rename_i pc
        cases stepped
        exact publishFront_accounted accounted pc drains
      · cases stepped
  | unlock =>
      simp only [submitStep] at stepped
      split at stepped
      · rename_i pc
        cases stepped
        obtain ⟨conserved, fresh, pushing, _, _⟩ := accounted
        refine ⟨conserved, fresh, pushing, ?_, fun returned => absurd returned (notReturned (by simp [pc]))⟩
        intro exited
        simp only at exited
        split at exited
        · rename_i ends
          simp only [Bool.and_eq_true, Bool.not_eq_true', List.isEmpty_iff] at ends
          exact ⟨ends.2, drains ends.1 ends.2⟩
        · cases exited
      · cases stepped
  | _ => cases stepped

theorem stopStep_accounted {before after : State} {action : Action} (accounted : Accounted before)
    (stepped : stopStep before action = some after) : Accounted after := by
  obtain ⟨conserved, fresh, pushing, drained, joined⟩ := accounted
  cases action with
  | stopCall =>
      simp only [stopStep] at stepped
      split at stepped
      · split at stepped
        · cases stepped
          exact ⟨conserved, fresh, pushing, drained, nofun⟩
        · cases stepped
      · cases stepped
  | stopClose =>
      simp only [stopStep] at stepped
      split at stepped
      · cases stepped
        exact ⟨conserved, fresh, pushing, drained, nofun⟩
      · cases stepped
  | stopReturn =>
      simp only [stopStep] at stepped
      split at stepped
      · split at stepped
        · rename_i ended
          cases stepped
          exact ⟨conserved, fresh, pushing, drained, fun _ => ended.2⟩
        · cases stepped
      · cases stepped
  | _ => cases stepped

theorem lifecycleStep_accounted {before after : State} {action : Action} (accounted : Accounted before)
    (drains : Drains before action) (stepped : lifecycleStep before action = some after) :
    Accounted after := by
  cases action <;> simp only [lifecycleStep] at stepped
  case receiveCheck | accept | push => exact receiveStep_accounted accounted stepped
  case stopCall | stopClose | stopReturn => exact stopStep_accounted accounted stepped
  all_goals exact submitStep_accounted accounted drains stepped

theorem tasksConserved_of_accounted {state : State} (accounted : Accounted state) :
    TasksConserved state := by
  refine ⟨fun _ => accounted.conserved, ?_⟩
  intro returned
  have empty := (accounted.drained (accounted.joined returned)).1
  rw [accounted.conserved, empty, List.append_nil]

/-- Every run in which no publish throws and the submit thread leaves its loop
only behind the last task conserves the accepted tasks. -/
theorem scheduler_conserves_tasks (taskQueue : Queue) (state : State)
    (reached : (lifecycle taskQueue).ReachableBy Drains state) : TasksConserved state := by
  refine tasksConserved_of_accounted (reached.invariant ?_ ?_)
  · exact ⟨rfl, nofun, nofun, nofun, nofun⟩
  · intro before action after accounted drains stepped
    exact lifecycleStep_accounted accounted drains stepped

/-- The bytes of a task with the id `t`. -/
def taskMessage : Bytes := [10, 1, 116]

/-- One task arrives and is published, and `stop` finds nothing pending. -/
theorem scheduler_conserves_one_task :
    ∃ state, (lifecycle .connected).ReachableBy Drains state ∧ state.stop = .returned ∧
      state.published.map Task.taskId = [[116]] ∧ TasksConserved state := by
  obtain ⟨state, reached, returned, published⟩ := (lifecycle .connected).reachableBy_of_any Drains
    (fun state => state.stop = .returned ∧ state.published.map Task.taskId = [[116]])
    [.receiveCheck, .accept 5 (.read taskMessage), .push, .submitCheck, .lock, .publish 6 true [], .unlock,
      .submitCheck, .lock, .stopCall, .receiveCheck, .wake, .publish 7 true [], .unlock, .stopClose,
      .stopReturn] (by decide)
  exact ⟨state, reached, returned, published, scheduler_conserves_tasks .connected state reached⟩

/-- A publish that the broker refuses drops the task it was called for, and a
`stop` that comes before the submit thread runs leaves the task pending. -/
theorem scheduler_loses_task :
    (∃ state, (lifecycle .connected).Reachable state ∧ state.submit.mutexFree = true ∧
        state.pushed.map Task.taskId = [[116]] ∧ state.published = [] ∧ state.pendingTasks = [] ∧
        ¬ TasksConserved state) ∧
      ∃ state, (lifecycle .connected).Reachable state ∧ state.stop = .returned ∧
        state.pushed.map Task.taskId = [[116]] ∧ state.published = [] ∧ ¬ TasksConserved state := by
  constructor
  · exact (lifecycle .connected).reachable_of_any
      [.receiveCheck, .accept 5 (.read taskMessage), .push, .submitCheck, .lock, .publish 6 false []] (by decide)
  · exact (lifecycle .connected).reachable_of_any
      [.receiveCheck, .accept 5 (.read taskMessage), .push, .stopCall, .receiveCheck, .submitCheck, .stopClose,
        .stopReturn] (by decide)

end TaskHive.Scheduler
