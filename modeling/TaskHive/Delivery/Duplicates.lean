import TaskHive.Custody
import TaskHive.Delivery.Model

namespace TaskHive.Delivery

variable {S W : Type}

/-! # Which faults run a task twice

A task that its worker has cached but not acknowledged is in two places: in the
worker and on the broker's books.  Only what makes the broker take it back gives
it to a second worker. -/

/-- Where a task is before it has been run, and where it has been run. -/
inductive Stage (S W : Type) where
  | pending (scheduler : S)
  | ready
  | out
  | cached (worker : W)
  | pool (worker : W)
  | executed

def State.awaits (state : State S W) : Stage S W → List Nat
  | .pending scheduler => (state.scheduler scheduler).pendingTasks
  | .ready => state.taskQueue.ready
  | .out => state.taskQueue.unhandled
  | .cached worker => (state.worker worker).pendingTasks
  | .pool worker => (state.worker worker).threadPool
  | .executed => state.executed

/-- No task is in two places, and none has a number that is still free. -/
def Once (state : State S W) : Prop :=
  ∃ known : Nat → Prop, Custody state.awaits known ∧ ∀ task, known task → task < state.issued

/-- The broker takes a task back from a worker. -/
def Fault.returns : Fault → Bool
  | .taskConnectionLost | .workerCrash | .reportFailed => true
  | _ => false

/-! ## The faults that do not -/

section Steps

variable [DecidableEq S] [DecidableEq W] {before after : State S W} {action : Action S W}

omit [DecidableEq S] [DecidableEq W] in
theorem Once.fewer (once : Once before) (issued : after.issued = before.issued)
    (fewer : ∀ stage, (after.awaits stage).Subperm (before.awaits stage)) : Once after := by
  obtain ⟨known, custody, numbered⟩ := once
  refine ⟨_, custody.fewer fewer, ?_⟩
  rintro task ⟨stage, found⟩
  rw [issued]
  exact numbered task (custody.issued_of_mem stage ((fewer stage).subset found))

omit [DecidableEq S] [DecidableEq W] in
theorem Once.move (once : Once before) (issued : after.issued = before.issued) (task : Nat) (source target : Stage S W)
    (apart : source ≠ target) (lost : (before.awaits source).Perm (task :: after.awaits source))
    (gained : (after.awaits target).Perm (task :: before.awaits target))
    (others : ∀ stage, stage ≠ source → stage ≠ target → (after.awaits stage).Perm (before.awaits stage)) :
    Once after := by
  obtain ⟨known, custody, numbered⟩ := once
  refine ⟨known, custody.move task source target apart lost gained others, ?_⟩
  rwa [issued]

omit [DecidableEq W] in
/-- A scheduler forgets tasks that are waiting in it. -/
theorem Once.forget (once : Once before) {scheduler : S} {process : SchedulerProcess}
    (issued : after.issued = before.issued)
    (schedulers : after.scheduler = Function.update before.scheduler scheduler process)
    (fewer : process.pendingTasks.Subperm (before.scheduler scheduler).pendingTasks)
    (tasks : after.taskQueue = before.taskQueue) (workers : after.worker = before.worker)
    (executed : after.executed = before.executed) : Once after := by
  apply once.fewer issued
  intro stage
  cases stage with
  | pending other =>
      rw [State.awaits, schedulers]
      by_cases same : other = scheduler
      · subst other
        simpa [State.awaits] using fewer
      · rw [Function.update_of_ne same]
        exact List.Subperm.refl _
  | ready | out =>
      rw [State.awaits, tasks]
      exact List.Subperm.refl _
  | cached worker | pool worker =>
      rw [State.awaits, workers]
      exact List.Subperm.refl _
  | executed =>
      rw [State.awaits, executed]
      exact List.Subperm.refl _

theorem Transition.once (transition : Transition before action after)
    (kept : ∀ fault ∈ action.fault, fault.returns = false) (once : Once before) : Once after := by
  cases transition with
  | startScheduler scheduler down => exact once.forget rfl rfl (List.nil_subperm) rfl rfl rfl
  | crashScheduler scheduler => exact once.forget rfl rfl (List.nil_subperm) rfl rfl rfl
  | loseResultConnection scheduler up => exact once.forget rfl rfl (List.Subperm.refl _) rfl rfl rfl
  | publishThrows scheduler task rest up front =>
      refine once.forget rfl rfl ?_ rfl rfl rfl
      rw [front]
      exact (List.sublist_cons_self task rest).subperm
  | receive scheduler up =>
      obtain ⟨known, custody, numbered⟩ := once
      have new : ¬ known before.issued := fun old => Nat.lt_irrefl _ (numbered _ old)
      refine ⟨_, custody.issue before.issued (.pending scheduler) new ?_ ?_, ?_⟩
      · simp [State.awaits, State.setScheduler]
      · intro stage other
        cases stage with
        | pending another => simp [State.awaits, State.setScheduler, update_apart other]
        | _ => exact List.Perm.refl _
      · rintro task (rfl | old)
        · exact Nat.lt_succ_self _
        · exact Nat.lt_succ_of_lt (numbered task old)
  | publishTask scheduler task rest up front =>
      refine once.move rfl task (.pending scheduler) .ready (by simp) ?_ ?_ ?_
      · simp [State.awaits, State.setScheduler, front]
      · simp [State.awaits, AckQueue.publish]
      · intro stage source target
        cases stage with
        | pending another => simp [State.awaits, State.setScheduler, update_apart source]
        | ready => exact absurd rfl target
        | _ => exact List.Perm.refl _
  | startWorker worker down =>
      refine once.fewer rfl fun stage => ?_
      cases stage with
      | cached other | pool other =>
          by_cases same : other = worker
          · subst other
            simp [State.awaits, State.setWorker]
          · simpa [State.awaits, State.setWorker, same] using List.Subperm.refl _
      | _ => exact List.Subperm.refl _
  | deliverTask worker index queue delivered =>
      obtain ⟨task, taken, out⟩ := AckQueue.deliver_spec delivered
      refine once.move rfl task .ready .out (by simp) taken ?_ ?_
      · rw [State.awaits, out]
        exact List.perm_append_singleton _ _
      · intro stage source target
        cases stage with
        | ready => exact absurd rfl source
        | out => exact absurd rfl target
        | _ => exact List.Perm.refl _
  | cacheTask worker index task queue up handled =>
      obtain ⟨ready, out⟩ := AckQueue.handle_spec handled
      refine once.move rfl task .out (.cached worker) (by simp) out ?_ ?_
      · simp [State.awaits, State.setWorker]
      · intro stage source target
        cases stage with
        | ready => rw [State.awaits, ready]; exact List.Perm.refl _
        | out => exact absurd rfl source
        | cached another => simp [State.awaits, State.setWorker, update_apart target]
        | pool another => exact .of_eq (update_view WorkerProcess.threadPool (by rfl) another)
        | _ => exact List.Perm.refl _
  | ackTask index queue acked =>
      obtain ⟨ready, out⟩ := AckQueue.ack_spec acked
      refine once.fewer rfl fun stage => ?_
      cases stage with
      | ready => rw [State.awaits, ready]; exact List.Subperm.refl _
      | out => exact out.subperm
      | _ => exact List.Subperm.refl _
  | dispatch worker task rest front =>
      refine once.move rfl task (.cached worker) (.pool worker) (by simp) ?_ ?_ ?_
      · simp [State.awaits, State.setWorker, front]
      · simp [State.awaits, State.setWorker]
      · intro stage source target
        cases stage with
        | cached another => simp [State.awaits, State.setWorker, update_apart source]
        | pool another => simp [State.awaits, State.setWorker, update_apart target]
        | _ => exact List.Perm.refl _
  | execute worker index task found =>
      obtain ⟨inside, rfl⟩ := List.getElem?_eq_some_iff.mp found
      refine once.move rfl _ (.pool worker) .executed (by simp) ?_ (List.perm_append_singleton _ _) ?_
      · simpa [State.awaits, State.setWorker] using (List.getElem_cons_eraseIdx_perm inside).symm
      · intro stage source target
        cases stage with
        | cached another => exact .of_eq (update_view WorkerProcess.pendingTasks (by rfl) another)
        | pool another => simp [State.awaits, State.setWorker, update_apart source]
        | executed => exact absurd rfl target
        | _ => exact List.Perm.refl _
  | publishResult worker task rest front =>
      refine once.fewer rfl fun stage => ?_
      cases stage with
      | cached other => exact (List.Perm.of_eq (update_view WorkerProcess.pendingTasks (by rfl) other)).subperm
      | pool other => exact (List.Perm.of_eq (update_view WorkerProcess.threadPool (by rfl) other)).subperm
      | _ => exact List.Subperm.refl _
  | deliverResult | storeResult | ackResult | expireResult =>
      refine once.fewer rfl fun stage => ?_
      cases stage <;> exact List.Subperm.refl _
  | restartBroker =>
      refine once.fewer rfl fun stage => ?_
      cases stage with
      | ready | out => exact List.nil_subperm
      | _ => exact List.Subperm.refl _
  | reportThrows | crashWorker | loseTaskConnection => simp [Action.fault, Fault.returns] at kept

theorem executed_nodup {faults : Fault → Bool} (kept : ∀ fault, faults fault = true → fault.returns = false)
    {state : State S W} (reached : delivery.ReachableBy (Only faults) state) : state.executed.Nodup := by
  have once : Once state := by
    induction reached with
    | init =>
        refine ⟨fun _ => False, Custody.empty (fun stage => ?_) (fun _ => id), fun _ => False.elim⟩
        cases stage <;> rfl
    | step reached allowed stepped ih =>
        exact (deliveryStep_transition stepped).once (fun fault happens => kept fault (allowed fault happens)) ih
  obtain ⟨known, custody, numbered⟩ := once
  exact custody.nodup .executed

end Steps

/-! ## The faults that do -/

section Repeats

variable [DecidableEq S] [DecidableEq W]

/-- A worker has run a task that it has not acknowledged. -/
def ranOnce (scheduler : S) (worker : W) : State S W where
  issued := 1
  scheduler := Function.update (fun _ => {}) scheduler
    { up := true, linked := true, submitting := true, storing := true }
  taskQueue := { unacked := [{ consumer := worker, message := 0, handled := true }] }
  worker := Function.update (fun _ => {}) worker
    { up := true, linked := true, receiving := true, taskResultQueue := [0] }
  executed := [0]

/-- The broker has taken the task back, and another worker has not been
started. -/
structure TakenBack (worker : W) (state : State S W) : Prop where
  queue : state.taskQueue = { ready := [0] }
  down : (state.worker worker).up = false
  ran : state.executed = [0]

section Runs

attribute [local simp] Machine.runWhile Only Action.fault delivery deliveryStep schedulerStep workerStep
  State.setScheduler State.setWorker State.endWorker AckQueue.publish AckQueue.deliver AckQueue.handle AckQueue.requeue

theorem ranOnce_reachable (scheduler : S) (worker : W) (faults : Fault → Bool) :
    delivery.ReachableBy (Only faults) (ranOnce scheduler worker) := by
  have executed : delivery.runWhile (Only faults) delivery.init
      [.startScheduler scheduler, .startWorker worker, .receive scheduler, .publishTask scheduler true,
        .deliverTask worker 0, .cacheTask worker 0, .dispatch worker, .execute worker 0] =
      some (ranOnce scheduler worker) := by
    simp [ranOnce]
  exact .of_runWhile .init executed

theorem TakenBack.again {state : State S W} {worker : W} (back : TakenBack worker state) {faults : Fault → Bool}
    (reached : delivery.ReachableBy (Only faults) state) :
    ∃ after : State S W, delivery.ReachableBy (Only faults) after ∧ after.executed = [0, 0] := by
  have executed : ∃ after, delivery.runWhile (Only faults) state
      [.startWorker worker, .deliverTask worker 0, .cacheTask worker 0, .dispatch worker, .execute worker 0] =
      some after ∧ after.executed = [0, 0] := by
    simp [back.queue, back.down, back.ran]
  obtain ⟨after, run, twice⟩ := executed
  exact ⟨after, .of_runWhile reached run, twice⟩

theorem takenBack_reachable (scheduler : S) {first second : W} (different : first ≠ second) {faults : Fault → Bool}
    {fault : Fault} (happens : faults fault = true) (returns : fault.returns = true) :
    ∃ state : State S W, delivery.ReachableBy (Only faults) state ∧ TakenBack second state := by
  have ran := ranOnce_reachable scheduler first faults
  have lost (action : Action S W) (caused : action.fault = some fault) {state : State S W}
      (stepped : deliveryStep (ranOnce scheduler first) action = some state) :
      delivery.ReachableBy (Only faults) state :=
    .step ran (by simpa only [Only, caused, Option.mem_some_iff, forall_eq'] using happens) stepped
  cases fault with
  | taskConnectionLost =>
      refine ⟨_, lost (.loseTaskConnection first) rfl (by simp [ranOnce]; rfl), ?_⟩
      exact ⟨by simp, by simp [different.symm], rfl⟩
  | workerCrash =>
      refine ⟨_, lost (.crashWorker first) rfl (by simp [ranOnce]; rfl), ?_⟩
      exact ⟨by simp, by simp, rfl⟩
  | reportFailed =>
      refine ⟨_, lost (.publishResult first false) rfl (by simp [ranOnce]; rfl), ?_⟩
      exact ⟨by simp, by simp, rfl⟩
  | _ => cases returns

end Runs

/-- A task is run twice exactly when its worker can go away, or lose the task
connection, between caching the task and acknowledging it. -/
theorem executed_once_iff (scheduler : S) {first second : W} (different : first ≠ second) (faults : Fault → Bool) :
    (∀ state : State S W, delivery.ReachableBy (Only faults) state → state.executed.Nodup) ↔
      faults .taskConnectionLost = false ∧ faults .workerCrash = false ∧ faults .reportFailed = false := by
  constructor
  · intro once
    have never (fault : Fault) (returns : fault.returns = true) : faults fault = false := by
      by_contra happens
      obtain ⟨state, reached, back⟩ := takenBack_reachable scheduler different (by simpa using happens) returns
      obtain ⟨after, ran, twice⟩ := back.again reached
      have nodup := once after ran
      simp [twice] at nodup
    exact ⟨never _ rfl, never _ rfl, never _ rfl⟩
  · rintro ⟨connection, crash, report⟩ state reached
    refine executed_nodup (fun fault happens => ?_) reached
    cases fault <;> simp_all [Fault.returns]

theorem crash_runs_a_task_twice :
    ¬ ∀ state : State Unit Bool,
      delivery.ReachableBy (Only fun fault => decide (fault = .workerCrash)) state → state.executed.Nodup := by
  intro once
  have never := (executed_once_iff () Bool.false_ne_true _).mp once
  exact absurd never (by decide)

end Repeats

end TaskHive.Delivery
