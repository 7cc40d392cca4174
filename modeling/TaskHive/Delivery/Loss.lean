import TaskHive.Delivery.Model

namespace TaskHive.Delivery

variable {S W : Type}

/-! # Which faults lose a task

A delivery that its consumer has handled does not count as a place where a task
is kept: it is about to be acknowledged. -/

inductive Place (S W : Type) where
  | pending (scheduler : S)
  | taskQueue
  | memory (worker : W)
  | resultQueue
  | stored

def WorkerProcess.memory (process : WorkerProcess) : List Nat :=
  process.pendingTasks ++ process.threadPool ++ process.taskResultQueue

def State.holds (state : State S W) : Place S W → List Nat
  | .pending scheduler => (state.scheduler scheduler).pendingTasks
  | .taskQueue => state.taskQueue.owed
  | .memory worker => (state.worker worker).memory
  | .resultQueue => state.resultQueue.owed
  | .stored => state.stored

def State.Keeps (state : State S W) (task : Nat) : Prop := ∃ place, task ∈ state.holds place

/-- Every task that a scheduler has accepted, or its result, is still
somewhere. -/
def NothingLost (state : State S W) : Prop := ∀ task < state.issued, state.Keeps task

/-- A process that is not running holds nothing. -/
structure Clean (state : State S W) : Prop where
  scheduler : ∀ scheduler, (state.scheduler scheduler).up = false → (state.scheduler scheduler).pendingTasks = []
  worker : ∀ worker, (state.worker worker).up = false → (state.worker worker).memory = []

/-! ## The faults that lose nothing -/

section Steps

variable [DecidableEq S] [DecidableEq W] {before after : State S W} {action : Action S W}

omit [DecidableEq W] in
theorem Clean.setScheduler (clean : Clean before) {scheduler : S} {process : SchedulerProcess}
    (schedulers : after.scheduler = Function.update before.scheduler scheduler process)
    (workers : after.worker = before.worker) (down : process.up = false → process.pendingTasks = []) :
    Clean after where
  scheduler other := by
    rw [schedulers]
    by_cases same : other = scheduler
    · subst other
      simpa using down
    · simpa [same] using clean.scheduler other
  worker := by
    rw [workers]
    exact clean.worker

omit [DecidableEq S] in
theorem Clean.setWorker (clean : Clean before) {worker : W} {process : WorkerProcess}
    (schedulers : after.scheduler = before.scheduler)
    (workers : after.worker = Function.update before.worker worker process)
    (down : process.up = false → process.memory = []) : Clean after where
  scheduler := by
    rw [schedulers]
    exact clean.scheduler
  worker other := by
    rw [workers]
    by_cases same : other = worker
    · subst other
      simpa using down
    · simpa [same] using clean.worker other

theorem Transition.clean (transition : Transition before action after) (clean : Clean before) : Clean after := by
  cases transition with
  | startScheduler | crashScheduler => exact clean.setScheduler rfl rfl (by simp)
  | receive scheduler up | publishTask scheduler _ _ up | publishThrows scheduler _ _ up
  | loseResultConnection scheduler up => exact clean.setScheduler rfl rfl (by simp [up])
  | startWorker | crashWorker | reportThrows => exact clean.setWorker rfl rfl (by simp [WorkerProcess.memory])
  | cacheTask worker _ _ _ up | loseTaskConnection worker up => exact clean.setWorker rfl rfl (by simp [up])
  | dispatch worker task rest front =>
      refine clean.setWorker rfl rfl fun down => ?_
      have empty := clean.worker worker down
      simp [WorkerProcess.memory, front] at empty
  | execute worker index task found =>
      refine clean.setWorker rfl rfl fun down => ?_
      have empty := clean.worker worker down
      simp only [WorkerProcess.memory, List.append_eq_nil_iff] at empty
      simp [empty.1.2] at found
  | publishResult worker task rest front =>
      refine clean.setWorker rfl rfl fun down => ?_
      have empty := clean.worker worker down
      simp [WorkerProcess.memory, front] at empty
  | deliverTask | ackTask | deliverResult | storeResult | ackResult | expireResult | restartBroker =>
      exact ⟨clean.scheduler, clean.worker⟩

/-- Every place keeps what it holds, except for the tasks that `moved` lists. -/
structure Carries (moved : List Nat) (before after : State S W) : Prop where
  pending : ∀ scheduler, (before.scheduler scheduler).pendingTasks ⊆ moved ++ (after.scheduler scheduler).pendingTasks
  tasks : before.taskQueue.owed ⊆ moved ++ after.taskQueue.owed
  memory : ∀ worker, (before.worker worker).memory ⊆ moved ++ (after.worker worker).memory
  results : before.resultQueue.owed ⊆ moved ++ after.resultQueue.owed
  stored : before.stored ⊆ moved ++ after.stored

omit [DecidableEq S] [DecidableEq W] in
theorem Carries.unchanged (moved : List Nat) (state : State S W) : Carries moved state state where
  pending _ := List.subset_append_right _ _
  tasks := List.subset_append_right _ _
  memory _ := List.subset_append_right _ _
  results := List.subset_append_right _ _
  stored := List.subset_append_right _ _

/-- One process of a family changes. -/
theorem subset_update {ι : Type} [DecidableEq ι] {π : Type} (view : π → List Nat) {processes : ι → π} {changed : ι}
    {process : π} {moved : List Nat} (here : view (processes changed) ⊆ moved ++ view process) (other : ι) :
    view (processes other) ⊆ moved ++ view (Function.update processes changed process other) := by
  by_cases same : other = changed
  · subst other
    rwa [Function.update_self]
  · rw [Function.update_of_ne same]
    exact List.subset_append_right _ _

omit [DecidableEq S] [DecidableEq W] in
theorem State.Keeps.carry {task : Nat} (kept : before.Keeps task) {moved : List Nat}
    (carries : Carries moved before after) (landed : ∀ task ∈ moved, after.Keeps task) : after.Keeps task := by
  have placed (place : Place S W) : before.holds place ⊆ moved ++ after.holds place := by
    cases place with
    | pending scheduler => exact carries.pending scheduler
    | taskQueue => exact carries.tasks
    | memory worker => exact carries.memory worker
    | resultQueue => exact carries.results
    | stored => exact carries.stored
  obtain ⟨place, found⟩ := kept
  rcases List.mem_append.mp (placed place found) with gone | stays
  · exact landed task gone
  · exact ⟨place, stays⟩

omit [DecidableEq S] [DecidableEq W] in
theorem State.Keeps.stay {task : Nat} (kept : before.Keeps task) (carries : Carries [] before after) :
    after.Keeps task :=
  kept.carry carries (List.forall_mem_nil _)

omit [DecidableEq S] [DecidableEq W] in
theorem State.Keeps.handOver {task moved : Nat} (kept : before.Keeps task) (carries : Carries [moved] before after)
    (place : Place S W) (landed : moved ∈ after.holds place) : after.Keeps task :=
  kept.carry carries (List.forall_mem_singleton.mpr ⟨place, landed⟩)

/-- A lost connection gives the broker back what it lent. -/
def Fault.harmless : Fault → Bool
  | .taskConnectionLost | .resultConnectionLost => true
  | _ => false

/-- Without a harmful fault no step loses a task: four steps take one to its next
place, the others leave every task where it is. -/
theorem Transition.keeps (transition : Transition before action after) (clean : Clean before)
    (harmless : ∀ fault ∈ action.fault, fault.harmless = true) {task : Nat} (kept : before.Keeps task) :
    after.Keeps task := by
  cases transition with
  | startScheduler scheduler down =>
      have empty := clean.scheduler scheduler down
      exact kept.stay { Carries.unchanged [] before with
        pending := subset_update SchedulerProcess.pendingTasks (by simp [empty]) }
  | receive scheduler up =>
      exact kept.stay { Carries.unchanged [] before with
        pending := subset_update SchedulerProcess.pendingTasks (List.subset_append_left _ _) }
  | publishTask scheduler sent rest up front =>
      obtain ⟨landed, others⟩ := before.taskQueue.owed_publish sent
      refine kept.handOver { Carries.unchanged [sent] before with
        pending := subset_update SchedulerProcess.pendingTasks ?_
        tasks := List.subset_append_of_subset_right _ others } .taskQueue landed
      rw [front]
      exact List.Subset.refl _
  | startWorker worker down =>
      have empty := clean.worker worker down
      exact kept.stay { Carries.unchanged [] before with
        memory := subset_update WorkerProcess.memory (by simp [empty]) }
  | deliverTask worker index queue delivered =>
      exact kept.stay { Carries.unchanged [] before with tasks := (AckQueue.owed_deliver delivered).symm.subset }
  | cacheTask worker index cached queue up handled =>
      refine kept.handOver { Carries.unchanged [cached] before with
        tasks := (AckQueue.owed_handle handled).subset
        memory := subset_update WorkerProcess.memory ?_ } (.memory worker) ?_
      · intro other held
        simp only [WorkerProcess.memory, List.mem_append, List.mem_singleton] at held ⊢
        tauto
      · simp [State.holds, State.setWorker, WorkerProcess.memory]
  | ackTask index queue acked =>
      exact kept.stay { Carries.unchanged [] before with tasks := (AckQueue.owed_ack acked).symm.subset }
  | dispatch worker sent rest front =>
      refine kept.stay { Carries.unchanged [] before with memory := subset_update WorkerProcess.memory ?_ }
      intro other held
      simp only [WorkerProcess.memory, front, List.mem_append, List.mem_cons] at held ⊢
      tauto
  | execute worker index run found =>
      refine kept.stay { Carries.unchanged [] before with memory := subset_update WorkerProcess.memory ?_ }
      intro other held
      obtain ⟨inside, rfl⟩ := List.getElem?_eq_some_iff.mp found
      have pool := (List.getElem_cons_eraseIdx_perm inside).mem_iff (a := other)
      simp only [WorkerProcess.memory, List.mem_append, List.mem_singleton] at held ⊢
      rw [← pool, List.mem_cons] at held
      tauto
  | publishResult worker sent rest front =>
      obtain ⟨landed, others⟩ := before.resultQueue.owed_publish sent
      refine kept.handOver { Carries.unchanged [sent] before with
        memory := subset_update WorkerProcess.memory ?_
        results := List.subset_append_of_subset_right _ others } .resultQueue landed
      intro other held
      simp only [WorkerProcess.memory, front, List.mem_append, List.mem_cons] at held ⊢
      tauto
  | deliverResult scheduler index queue delivered =>
      exact kept.stay { Carries.unchanged [] before with results := (AckQueue.owed_deliver delivered).symm.subset }
  | storeResult scheduler index stored result queue handled =>
      cases stored with
      | false => simp [Action.fault, Fault.harmless] at harmless
      | true =>
          refine kept.handOver { Carries.unchanged [result] before with
            results := (AckQueue.owed_handle handled).subset
            stored := ?_ } .stored ?_
          · exact List.subset_append_of_subset_right _ (List.subset_append_left _ _)
          · simp [State.holds]
  | ackResult index queue acked =>
      exact kept.stay { Carries.unchanged [] before with results := (AckQueue.owed_ack acked).symm.subset }
  | loseTaskConnection worker up =>
      exact kept.stay { Carries.unchanged [] before with
        memory := subset_update WorkerProcess.memory (List.Subset.refl _)
        tasks := before.taskQueue.owed_requeue worker }
  | loseResultConnection scheduler up =>
      exact kept.stay { Carries.unchanged [] before with
        pending := subset_update SchedulerProcess.pendingTasks (List.Subset.refl _)
        results := before.resultQueue.owed_requeue scheduler }
  | publishThrows | reportThrows | crashScheduler | crashWorker | restartBroker | expireResult =>
      simp [Action.fault, Fault.harmless] at harmless

theorem Transition.accepted (transition : Transition before action after) {task : Nat} (below : task < after.issued) :
    task < before.issued ∨ after.Keeps task := by
  cases transition with
  | receive scheduler up =>
      rcases Nat.lt_succ_iff_lt_or_eq.mp below with old | rfl
      · exact .inl old
      · exact .inr ⟨.pending scheduler, by simp [State.holds, State.setScheduler]⟩
  | _ => exact .inl below

theorem nothingLost_of_harmless {faults : Fault → Bool}
    (harmless : ∀ fault, faults fault = true → fault.harmless = true) {state : State S W}
    (reached : delivery.ReachableBy (Only faults) state) : Clean state ∧ NothingLost state := by
  induction reached with
  | init => exact ⟨⟨fun _ _ => rfl, fun _ _ => rfl⟩, fun task below => absurd below (Nat.not_lt_zero task)⟩
  | step reached allowed stepped ih =>
      obtain ⟨clean, nothingLost⟩ := ih
      have transition := deliveryStep_transition stepped
      refine ⟨transition.clean clean, fun task below => ?_⟩
      rcases transition.accepted below with old | kept
      · refine transition.keeps clean ?_ (nothingLost task old)
        intro fault happens
        exact harmless fault (allowed fault happens)
      · exact kept

end Steps

/-! ## The faults that do -/

section Losses

variable [DecidableEq S] [DecidableEq W]

/-- How a task gets to a worker that has acknowledged it. -/
def toWorker (scheduler : S) (worker : W) : List (Action S W) :=
  [.startScheduler scheduler, .startWorker worker, .receive scheduler, .publishTask scheduler true,
    .deliverTask worker 0, .cacheTask worker 0, .ackTask 0]

/-- How its result gets to the broker. -/
def toResults (scheduler : S) (worker : W) : List (Action S W) :=
  toWorker scheduler worker ++ [.dispatch worker, .execute worker 0, .publishResult worker true]

/-- A run that loses its task. -/
def losing (scheduler : S) (worker : W) : Fault → List (Action S W)
  | .publishFailed => [.startScheduler scheduler, .receive scheduler, .publishTask scheduler false]
  | .schedulerCrash => [.startScheduler scheduler, .receive scheduler, .crashScheduler scheduler]
  | .brokerRestart =>
      [.startScheduler scheduler, .receive scheduler, .publishTask scheduler true, .restartBroker]
  | .workerCrash => toWorker scheduler worker ++ [.crashWorker worker]
  | .reportFailed =>
      toWorker scheduler worker ++ [.dispatch worker, .execute worker 0, .publishResult worker false]
  | .resultExpired => toResults scheduler worker ++ [.expireResult 0]
  | .storeFailed => toResults scheduler worker ++ [.deliverResult scheduler 0, .storeResult scheduler 0 false]
  | .taskConnectionLost | .resultConnectionLost => []

/-- The only task there is, is gone. -/
structure AllLost (state : State S W) : Prop where
  issued : 0 < state.issued
  gone : ∀ place, state.holds place = []

omit [DecidableEq S] [DecidableEq W] in
theorem AllLost.not_nothingLost {state : State S W} (lost : AllLost state) : ¬ NothingLost state := by
  intro nothingLost
  obtain ⟨place, found⟩ := nothingLost 0 lost.issued
  simp [lost.gone place] at found

section Runs

attribute [local simp] Machine.runWhile Only Action.fault delivery deliveryStep schedulerStep workerStep brokerStep
  State.setScheduler State.setWorker State.endWorker AckQueue.publish AckQueue.deliver AckQueue.handle AckQueue.ack
  AckQueue.requeue losing toWorker toResults

theorem losing_run (scheduler : S) (worker : W) {faults : Fault → Bool} {fault : Fault} (happens : faults fault = true)
    (harmful : fault.harmless = false) :
    ∃ state, delivery.runWhile (Only faults) delivery.init (losing scheduler worker fault) = some state ∧
      AllLost state := by
  cases fault with
  | taskConnectionLost | resultConnectionLost => cases harmful
  | publishFailed | schedulerCrash | brokerRestart =>
      refine ⟨_, by simp [happens]; rfl, by simp, fun place => ?_⟩
      cases place with
      | pending other => by_cases same : other = scheduler <;> simp [State.holds, same]
      | _ => rfl
  | workerCrash | reportFailed | resultExpired | storeFailed =>
      refine ⟨_, by simp [happens]; rfl, by simp, fun place => ?_⟩
      cases place with
      | pending other => by_cases same : other = scheduler <;> simp [State.holds, same]
      | memory other => by_cases same : other = worker <;> simp [State.holds, WorkerProcess.memory, same]
      | _ => rfl

end Runs

/-- What the broker has lent survives a lost connection, and every other fault
can lose a task: what a worker has cached it has acknowledged, what a scheduler
has popped it holds nowhere else, tasks are not persistent, results expire, and
a result that Redis did not take is acknowledged all the same. -/
theorem nothing_lost_iff (scheduler : S) (worker : W) (faults : Fault → Bool) :
    (∀ state : State S W, delivery.ReachableBy (Only faults) state → NothingLost state) ↔
      ∀ fault, faults fault = true → fault = .taskConnectionLost ∨ fault = .resultConnectionLost := by
  constructor
  · intro never fault happens
    by_contra other
    have harmful : fault.harmless = false := by
      cases fault <;> simp_all [Fault.harmless]
    obtain ⟨state, executed, lost⟩ := losing_run scheduler worker happens harmful
    exact lost.not_nothingLost (never state (.of_runWhile .init executed))
  · intro only state reached
    refine (nothingLost_of_harmless (fun fault happens => ?_) reached).2
    rcases only fault happens with rfl | rfl <;> rfl

end Losses

end TaskHive.Delivery
