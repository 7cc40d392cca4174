import TaskHive.ThreadPool.Workers

namespace TaskHive.ThreadPool

variable {κ : Type} {config : Config} {kind : κ → CallKind}

/-! # When a CACHE pool grows

A worker that looks whether to add a thread has just counted itself as idle, so
it finds an idle thread: itself.  Only a thread that `start` has created and not
counted yet can make up for that, and then only if it has already been given a
task. -/

/-- Whether calls may begin before `start` has returned. -/
inductive SubmitPolicy where
  | anytime
  | afterStart
deriving DecidableEq, Repr

/-- The pool is started once. -/
def SubmitPolicy.Allows (policy : SubmitPolicy) (state : State κ) : Action κ → Prop
  | .start .call => state.starter = .idle
  | .call _ .enter => policy = .anytime ∨ state.starter = .returned
  | _ => True

instance (policy : SubmitPolicy) (state : State κ) : (action : Action κ) → Decidable (policy.Allows state action)
  | .start .call => inferInstanceAs (Decidable (state.starter = .idle))
  | .call _ .enter => inferInstanceAs (Decidable (policy = .anytime ∨ state.starter = .returned))
  | .start .spawn | .worker _ _ | .stop _ => inferInstanceAs (Decidable True)
  | .call _ .acquire | .call _ .timeout | .call _ .check | .call _ .push => inferInstanceAs (Decidable True)

/-! ## Calls that overlap with `start` -/

section Overlap

variable {kind : Nat → CallKind} {state : State Nat} {queued : List Nat} {size : UInt32}

/-- `start` has created its first thread and not counted it yet.  The thread is
at `pc`, with the tasks `queued` before it. -/
structure Overlap (config : Config) (pc : WorkerPc Nat) (queued : List Nat) (size : UInt32)
    (state : State Nat) : Prop where
  running : state.running = true
  free : state.mutex = none
  counter : state.threadIdCounter = 1
  worker : state.worker 1 = pc
  queue : state.taskQue = queued
  size : state.taskSize = size
  current : state.curThreadSize = 0
  idle : state.idleThreadSize = 0
  starter : state.starter = .spawning config.initThreadSize (.register 1)

theorem overlap_start (threads : config.initThreadSize ≠ 0) :
    ∃ state, (pool config kind).ReachableBy SubmitPolicy.anytime.Allows state ∧
      Overlap config .waiting [] 0 state ∧ ∀ caller, state.call caller = .idle := by
  have executed : (pool config kind).runWhile SubmitPolicy.anytime.Allows (pool config kind).init
      [.start .call, .start .spawn] =
      some { running := true
             threadIdCounter := 1
             worker := Function.update (fun _ => .unborn) 1 .waiting
             starter := .spawning config.initThreadSize (.register 1) } := by
    simp [Machine.runWhile, SubmitPolicy.Allows, pool, poolStep, startStep, spawnStep, State.setWorker,
      threads]
  exact ⟨_, .of_runWhile .init executed, ⟨rfl, rfl, rfl, by simp, rfl, rfl, rfl, rfl, rfl⟩, fun _ => rfl⟩

theorem Overlap.submit (overlap : Overlap config .waiting queued size state)
    (reached : (pool config kind).ReachableBy SubmitPolicy.anytime.Allows state) {caller : Nat}
    (idle : state.call caller = .idle) (room : size < config.taskQueMaxThreshold) :
    ∃ after, (pool config kind).ReachableBy SubmitPolicy.anytime.Allows after ∧
      Overlap config .waiting (queued ++ [caller]) (size + 1) after ∧
      ∀ other, other ≠ caller → after.call other = state.call other := by
  obtain ⟨running, free, counter, worker, queue, tasks, current, idles, starter⟩ := overlap
  have executed : (pool config kind).runWhile SubmitPolicy.anytime.Allows state
      [.call caller .enter, .call caller .acquire, .call caller .check, .call caller .push] =
      some { state with
        mutex := none
        taskQue := state.taskQue ++ [caller]
        taskSize := state.taskSize + 1
        call := Function.update state.call caller .returned
        enqueued := state.enqueued ++ [caller] } := by
    simp [Machine.runWhile, SubmitPolicy.Allows, pool, poolStep, callStep, State.setCall, State.hasRoom, idle,
      running, free, tasks, room]
  refine ⟨_, .of_runWhile reached executed, ⟨running, rfl, counter, worker, ?_, ?_, current, idles, starter⟩, ?_⟩
  · exact congrArg (· ++ [caller]) queue
  · exact congrArg (· + 1) tasks
  · exact fun other different => Function.update_of_ne different _ _

/-- The thread counts itself as idle again, but not the thread that `start` is
about to count. -/
theorem Overlap.work {task : Nat} (overlap : Overlap config .waiting (task :: queued) size state)
    (reached : (pool config kind).ReachableBy SubmitPolicy.anytime.Allows state) (cache : config.mode = .cache) :
    ∃ after, (pool config kind).ReachableBy SubmitPolicy.anytime.Allows after ∧
      Overlap config .scaleCheck queued (size - 1) after := by
  obtain ⟨running, free, counter, worker, queue, tasks, current, idles, starter⟩ := overlap
  have executed : (pool config kind).runWhile SubmitPolicy.anytime.Allows state
      [.worker 1 .acquire, .worker 1 .decide, .worker 1 .run, .worker 1 .settle] =
      some { state with
        mutex := none
        taskQue := queued
        taskSize := state.taskSize - 1
        idleThreadSize := state.idleThreadSize - 1 + 1
        worker := Function.update state.worker 1 .scaleCheck
        taken := state.taken ++ [task]
        finished := state.finished ++ [task] } := by
    simp [Machine.runWhile, SubmitPolicy.Allows, pool, poolStep, workerStep, workerDecide, State.setWorker,
      State.wakes, worker, free, queue, cache]
  refine ⟨_, .of_runWhile reached executed, running, rfl, counter, ?_, rfl, ?_, current, ?_, starter⟩
  · simp
  · exact congrArg (· - 1) tasks
  · change state.idleThreadSize - 1 + 1 = 0
    omega

/-- The check finds no idle thread and a task, and the thread is counted. -/
theorem Overlap.scale (overlap : Overlap config .scaleCheck queued size state)
    (reached : (pool config kind).ReachableBy SubmitPolicy.anytime.Allows state) (backlog : 0 < size)
    (room : 0 < config.threadSizeThreadHold) :
    ∃ after, (pool config kind).ReachableBy SubmitPolicy.anytime.Allows after ∧
      after.starter = .spawning config.initThreadSize (.register 1) ∧ after.curThreadSize = 1 := by
  obtain ⟨running, free, counter, worker, queue, tasks, current, idles, starter⟩ := overlap
  have executed : (pool config kind).runWhile SubmitPolicy.anytime.Allows state
      [.worker 1 .scale, .worker 1 .spawn, .worker 1 .spawn, .worker 1 .spawn] =
      some { state with
        curThreadSize := 1
        threadIdCounter := 2
        threads := state.threads ++ [2]
        worker := Function.update (Function.update (Function.update state.worker 1 (.scaling .create)) 2 .waiting)
          1 (.scaling .countIdle) } := by
    simp [Machine.runWhile, SubmitPolicy.Allows, pool, poolStep, workerStep, spawnStep, State.setWorker, worker,
      idles, tasks, backlog, current, room, counter]
  exact ⟨_, .of_runWhile reached executed, starter, rfl⟩

theorem start_counts {policy : SubmitPolicy} {left tid : Nat}
    (reached : (pool config kind).ReachableBy policy.Allows state)
    (spawning : state.starter = .spawning (left + 1) (.register tid)) :
    ∃ after, (pool config kind).ReachableBy policy.Allows after ∧
      after.starter = (if left = 0 then .returned else .spawning left .create) ∧
      after.curThreadSize = state.curThreadSize + 1 := by
  have executed : (pool config kind).runWhile policy.Allows state [.start .spawn, .start .spawn, .start .spawn] =
      some { state with
        threads := state.threads ++ [tid]
        curThreadSize := state.curThreadSize + 1
        idleThreadSize := state.idleThreadSize + 1
        starter := if left = 0 then .returned else .spawning left .create } := by
    simp [Machine.runWhile, SubmitPolicy.Allows, pool, poolStep, startStep, spawnStep, spawning]
  exact ⟨_, reached.of_runWhile executed, rfl, rfl⟩

/-- `start` counts the thread that it has created and adds the others. -/
theorem start_finishes {policy : SubmitPolicy} (left : Nat) {state : State Nat} {tid : Nat}
    (reached : (pool config kind).ReachableBy policy.Allows state)
    (spawning : state.starter = .spawning (left + 1) (.register tid)) :
    ∃ after, (pool config kind).ReachableBy policy.Allows after ∧ after.starter = .returned ∧
      after.curThreadSize = state.curThreadSize + (left + 1) := by
  induction left generalizing state tid with
  | zero => exact start_counts reached spawning
  | succ left ih =>
      obtain ⟨counted, reached, creating, more⟩ := start_counts reached spawning
      have stepped : (pool config kind).step counted (.start .spawn) =
          some { (spawnStep counted .create).1 with
            starter := .spawning (left + 1) (.register (counted.threadIdCounter + 1)) } := by
        simp [pool, poolStep, startStep, spawnStep, creating]
      have permitted : policy.Allows counted (.start .spawn) := trivial
      obtain ⟨after, reached, returned, all⟩ := ih (.step reached permitted stepped) rfl
      refine ⟨after, reached, returned, ?_⟩
      change after.curThreadSize = counted.curThreadSize + (left + 1) at all
      omega

theorem overlap_grows (cache : config.mode = .cache) (threads : 1 ≤ config.initThreadSize)
    (hold : 0 < config.threadSizeThreadHold) (room : 1 < config.taskQueMaxThreshold) :
    ∃ state, (pool config kind).ReachableBy SubmitPolicy.anytime.Allows state ∧ state.starter = .returned ∧
      config.initThreadSize < state.curThreadSize := by
  obtain ⟨begun, reached, overlap, idle⟩ := @overlap_start config kind (Nat.ne_of_gt threads)
  have some : 0 < config.taskQueMaxThreshold := UInt32.lt_trans (by decide) room
  obtain ⟨once, reached, overlap, kept⟩ := overlap.submit reached (idle 0) some
  obtain ⟨twice, reached, overlap, _⟩ := overlap.submit reached ((kept 1 (by decide)).trans (idle 1)) room
  obtain ⟨worked, reached, overlap⟩ := overlap.work reached cache
  obtain ⟨scaled, reached, spawning, one⟩ := overlap.scale reached (by decide) hold
  obtain ⟨left, size⟩ := Nat.exists_eq_add_of_le' threads
  rw [size] at spawning
  obtain ⟨state, reached, returned, current⟩ := start_finishes left reached spawning
  exact ⟨state, reached, returned, by omega⟩

end Overlap

/-! ## The idle threads are counted -/

/-- The thread has not been subtracted from `idleThreadSize_`.  One that adds a
thread stands for the new one until that is counted. -/
def WorkerPc.isIdle : WorkerPc κ → Bool
  | .waiting | .locked | .scaleCheck | .scaling .create => true
  | _ => false

/-- Whether the last thread of `start` is not in `idleThreadSize_` yet. -/
def StartPc.unidled : StartPc → Nat
  | .spawning _ .create => 0
  | .spawning _ _ => 1
  | _ => 0

theorem called_unidled (size : Nat) : (StartPc.called size).unidled = 0 := by
  unfold StartPc.called
  split <;> rfl

theorem following_unidled (left : Nat) : (StartPc.following left none).unidled = 0 := by
  simp only [StartPc.following, Option.elim_none]
  split <;> rfl

theorem unidled_of_unoccupied {starter : StartPc} (unoccupied : ∀ left phase, starter ≠ .spawning left phase) :
    starter.unidled = 0 := by
  cases starter with
  | idle | returned => rfl
  | spawning left phase => exact absurd rfl (unoccupied left phase)

/-- `idleThreadSize_` covers every idle thread but the one that `start` has not
counted yet. -/
def Covered (state : State κ) : Prop :=
  (state.tally WorkerPc.isIdle : Int) ≤ state.idleThreadSize + state.starter.unidled

namespace Covered

variable {state : State κ} {tid : Nat}

/-- A worker moves, and the counter of idle threads follows it. -/
theorem setWorker (covered : Covered state) (owned : Owned state) (tid : Nat) (pc : WorkerPc κ)
    (born : state.worker tid ≠ .unborn) (idleThreadSize : Int)
    (follows : state.idleThreadSize + pc.isIdle.toNat ≤ idleThreadSize + (state.worker tid).isIdle.toNat) :
    Covered { state.setWorker tid pc with idleThreadSize } := by
  have moved := @Owned.tally_setWorker κ WorkerPc.isIdle state tid owned born pc
  unfold Covered at covered
  change ((state.setWorker tid pc).tally WorkerPc.isIdle : Int) ≤ idleThreadSize + state.starter.unidled
  omega

/-- The new thread waits, and the worker that adds it no longer stands for it. -/
theorem workerSpawn (covered : Covered state) (owned : Owned state) {phase : Spawn}
    (scaling : state.worker tid = .scaling phase) :
    Covered ((spawnStep state phase).1.setWorker tid ((spawnStep state phase).2.elim .waiting .scaling)) := by
  have moved := owned.tally_spawn scaling WorkerPc.isIdle ((spawnStep state phase).2.elim .waiting .scaling)
  unfold Covered at covered ⊢
  rw [State.setWorker_starter, starter_spawnStep]
  cases phase with
  | create | register | countCurrent =>
      rw [Nat.add_right_cancel moved]
      exact covered
  | countIdle =>
      have more : ((spawnStep state .countIdle).1.setWorker tid .waiting).tally WorkerPc.isIdle =
        state.tally WorkerPc.isIdle + 1 := moved
      change (((spawnStep state .countIdle).1.setWorker tid .waiting).tally WorkerPc.isIdle : Int) ≤
        state.idleThreadSize + 1 + state.starter.unidled
      omega

theorem startSpawn (covered : Covered state) {left : Nat} {phase : Spawn}
    (spawning : state.starter = .spawning left phase) :
    Covered { (spawnStep state phase).1 with
      starter := StartPc.following left (spawnStep state phase).2 } := by
  have grown := @tally_spawnStep κ WorkerPc.isIdle state phase
  unfold Covered at covered
  rw [spawning] at covered
  cases phase with
  | create =>
      change ((spawnStep state .create).1.tally WorkerPc.isIdle : Int) ≤ state.idleThreadSize + (1 : Nat)
      simp only [StartPc.unidled, WorkerPc.isIdle, if_true, Bool.toNat_true] at covered grown
      omega
  | register | countCurrent => exact covered
  | countIdle =>
      change (state.tally WorkerPc.isIdle : Int) ≤ state.idleThreadSize + 1 + (StartPc.following left none).unidled
      rw [following_unidled]
      simp only [StartPc.unidled] at covered
      omega

/-- The worker that looks for idle threads is one of them. -/
theorem idle_pos (covered : Covered state) (owned : Owned state) (returned : state.starter = .returned)
    (checking : state.worker tid = .scaleCheck) : 0 < state.idleThreadSize := by
  have inside : tid < state.threadIdCounter + 1 := by
    by_contra above
    have unborn := owned.fresh tid (by omega)
    rw [checking] at unborn
    cases unborn
  have counts : 0 < state.tally WorkerPc.isIdle := tally_pos inside (by rw [checking]; rfl)
  unfold Covered at covered
  rw [returned] at covered
  simp only [StartPc.unidled] at covered
  omega

end Covered

/-! ## Calls that begin after `start` -/

/-- The thread has no task and none behind it. -/
def WorkerPc.isResting : WorkerPc κ → Bool
  | .unborn | .waiting | .locked | .exited => true
  | _ => false

/-- There is no task before `start` has counted every thread that it creates,
and no thread is added. -/
structure Unscaled (config : Config) (state : State κ) : Prop where
  unscaling : ∀ tid phase, state.worker tid ≠ .scaling phase
  calls : state.starter ≠ .returned → ∀ caller, state.call caller = .idle
  queue : state.starter ≠ .returned → state.taskQue = []
  resting : state.starter ≠ .returned → ∀ tid, (state.worker tid).isResting = true
  current : state.curThreadSize ≤ state.starter.counted config.initThreadSize
  bounded : ∀ left phase, state.starter = .spawning left phase → 1 ≤ left ∧ left ≤ config.initThreadSize

namespace Unscaled

variable {state : State κ} {tid : Nat}

theorem returned_of_call (unscaled : Unscaled config state) {caller : κ} (begun : state.call caller ≠ .idle) :
    state.starter = .returned := by
  by_contra early
  exact begun (unscaled.calls early caller)

theorem returned_of_worker (unscaled : Unscaled config state)
    (busy : (state.worker tid).isResting = false) : state.starter = .returned := by
  by_contra early
  rw [unscaled.resting early tid] at busy
  cases busy

theorem setWorker (unscaled : Unscaled config state) (tid : Nat) (pc : WorkerPc κ)
    (unscaling : ∀ phase, pc ≠ .scaling phase)
    (resting : state.starter ≠ .returned → pc.isResting = true) :
    Unscaled config (state.setWorker tid pc) where
  unscaling := (Function.forall_update_iff state.worker fun _ pc => ∀ phase, pc ≠ .scaling phase).mpr
    ⟨unscaling, fun other _ => unscaled.unscaling other⟩
  calls := unscaled.calls
  queue := unscaled.queue
  resting early := (Function.forall_update_iff state.worker fun _ pc => pc.isResting = true).mpr
    ⟨resting early, fun other _ => unscaled.resting early other⟩
  current := unscaled.current
  bounded := unscaled.bounded

/-- `start` goes on without a new thread. -/
theorem setStarter (unscaled : Unscaled config state) (early : state.starter ≠ .returned) (starter : StartPc)
    (curThreadSize : Int) (current : curThreadSize ≤ starter.counted config.initThreadSize)
    (bounded : ∀ left phase, starter = .spawning left phase → 1 ≤ left ∧ left ≤ config.initThreadSize) :
    Unscaled config { state with starter, curThreadSize } where
  unscaling := unscaled.unscaling
  calls _ := unscaled.calls early
  queue _ := unscaled.queue early
  resting _ := unscaled.resting early
  current := current
  bounded := bounded

theorem startCall (unscaled : Unscaled config state) (first : state.starter = .idle) :
    Unscaled config { state with running := true, starter := StartPc.called config.initThreadSize } := by
  have current := unscaled.current
  rw [first] at current
  have called := unscaled.setStarter (by simp [first]) (StartPc.called config.initThreadSize)
    state.curThreadSize ?_ ?_
  · exact { called with }
  · rw [(called_zero config.initThreadSize).2.1]
    exact current
  · intro left phase spawning
    simp only [StartPc.called] at spawning
    split at spawning
    · cases spawning
    · cases spawning
      omega

/-- The new thread waits. -/
theorem create (unscaled : Unscaled config state) {left : Nat}
    (spawning : state.starter = .spawning left .create) :
    Unscaled config { (spawnStep state .create).1 with
      starter := .spawning left (.register (state.threadIdCounter + 1)) } := by
  have early : state.starter ≠ .returned := by simp [spawning]
  have current := unscaled.current
  rw [spawning] at current
  refine ⟨?_, fun _ => unscaled.calls early, fun _ => unscaled.queue early, fun _ => ?_, current, ?_⟩
  · exact (Function.forall_update_iff state.worker fun _ pc => ∀ phase, pc ≠ .scaling phase).mpr
      ⟨by simp, fun other _ => unscaled.unscaling other⟩
  · exact (Function.forall_update_iff state.worker fun _ pc => pc.isResting = true).mpr
      ⟨rfl, fun other _ => unscaled.resting early other⟩
  · intro left' phase' next
    cases next
    exact unscaled.bounded left .create spawning

theorem startSpawn (unscaled : Unscaled config state) {left : Nat} {phase : Spawn}
    (spawning : state.starter = .spawning left phase) :
    Unscaled config { (spawnStep state phase).1 with
      starter := StartPc.following left (spawnStep state phase).2 } := by
  have early : state.starter ≠ .returned := by simp [spawning]
  have bounds := unscaled.bounded left phase spawning
  have stays (phase : Spawn) : ∀ left' phase', StartPc.spawning left phase = .spawning left' phase' →
      1 ≤ left' ∧ left' ≤ config.initThreadSize := by
    intro left' phase' next
    cases next
    exact bounds
  have current := unscaled.current
  rw [spawning] at current
  cases phase with
  | create => exact unscaled.create spawning
  | register tid =>
      have next := unscaled.setStarter early (.spawning left .countCurrent) _ current (stays _)
      exact { next with }
  | countCurrent =>
      refine unscaled.setStarter early (.spawning left .countIdle) (state.curThreadSize + 1) ?_ (stays _)
      simp only [StartPc.counted] at current ⊢
      omega
  | countIdle =>
      have next := unscaled.setStarter early (StartPc.following left none) state.curThreadSize ?_ ?_
      · exact { next with }
      · rw [(following_last config.initThreadSize left).2.1]
        exact current
      · intro left' phase' next
        simp only [StartPc.following, Option.elim_none] at next
        split at next
        · cases next
        · cases next
          omega

end Unscaled

variable [DecidableEq κ]

theorem Transition.covered {before after : State κ} {action : Action κ}
    (transition : Transition config kind before action after) (owned : Owned before)
    (covered : Covered before) : Covered after := by
  cases transition with
  | workerAcquire tid waiting | workerTimeout tid _ waiting =>
      exact covered.setWorker owned tid .locked (by simp [waiting]) before.idleThreadSize (by rw [waiting]; rfl)
  | workerReclaim tid _ waiting =>
      exact covered.setWorker owned tid .exited (by simp [waiting]) (before.idleThreadSize - 1)
        (by simp [waiting, WorkerPc.isIdle])
  | workerLeave tid locked =>
      exact covered.setWorker owned tid .exited (by simp [locked]) before.idleThreadSize
        (by simp [locked, WorkerPc.isIdle])
  | workerSkip tid locked =>
      exact covered.setWorker owned tid .waiting (by simp [locked]) before.idleThreadSize (by rw [locked]; rfl)
  | workerTake tid task rest locked =>
      exact covered.setWorker owned tid (.running task) (by simp [locked]) (before.idleThreadSize - 1)
        (by simp [locked, WorkerPc.isIdle])
  | workerRun tid task running =>
      exact covered.setWorker owned tid .ran (by simp [running]) before.idleThreadSize (by rw [running]; rfl)
  | workerSettle tid ran =>
      refine covered.setWorker owned tid _ (by simp [ran]) (before.idleThreadSize + 1) ?_
      rw [ran]
      split <;> simp [WorkerPc.isIdle]
  | workerScale tid checking =>
      exact covered.setWorker owned tid (.scaling .create) (by simp [checking]) before.idleThreadSize
        (by rw [checking]; rfl)
  | workerNoScale tid checking =>
      exact covered.setWorker owned tid .waiting (by simp [checking]) before.idleThreadSize (by rw [checking]; rfl)
  | workerSpawn tid phase scaling => exact covered.workerSpawn owned scaling
  | startCall _ unoccupied =>
      refine covered.trans ?_
      change before.idleThreadSize + before.starter.unidled ≤
        before.idleThreadSize + (StartPc.called config.initThreadSize).unidled
      rw [called_unidled, unidled_of_unoccupied unoccupied]
  | startSpawn left phase spawning => exact covered.startSpawn spawning
  | callEnter | callNotRunning | callAcquire | callTimeout | callCheck | callStopped | callPush => exact covered
  | stopCall | stopSync | stopJoin | stopClear => exact covered

theorem covered_of_reachable {allowed : State κ → Action κ → Prop} {state : State κ}
    (reached : (pool config kind).ReachableBy allowed state) : Covered state := by
  refine invariant_of_transitions reached (Int.le_refl 0) ?_
  intro before action after transition _ owned covered
  exact transition.covered owned covered

theorem Transition.unscaled {before after : State κ} {action : Action κ}
    (transition : Transition config kind before action after)
    (permitted : SubmitPolicy.afterStart.Allows before action) (owned : Owned before) (covered : Covered before)
    (unscaled : Unscaled config before) : Unscaled config after := by
  cases transition with
  | workerAcquire | workerTimeout => exact { unscaled.setWorker _ .locked (by simp) (fun _ => rfl) with }
  | workerReclaim tid =>
      have moved := unscaled.setWorker tid .exited (by simp) (fun _ => rfl)
      exact { moved with current := (Int.sub_le_self _ (by decide)).trans moved.current }
  | workerLeave => exact { unscaled.setWorker _ .exited (by simp) (fun _ => rfl) with }
  | workerSkip | workerNoScale => exact { unscaled.setWorker _ .waiting (by simp) (fun _ => rfl) with }
  | workerTake tid task rest locked queue =>
      -- A task is in the queue, so every thread of `start` is counted.
      have returned : before.starter = .returned := by
        by_contra early
        rw [unscaled.queue early] at queue
        cases queue
      have moved := unscaled.setWorker tid (.running task) (by simp) (absurd returned)
      exact { moved with queue := absurd returned }
  | workerRun tid task running =>
      have returned := unscaled.returned_of_worker (show (before.worker tid).isResting = false by rw [running]; rfl)
      exact { unscaled.setWorker tid .ran (by simp) (absurd returned) with }
  | workerSettle tid ran =>
      have returned := unscaled.returned_of_worker (show (before.worker tid).isResting = false by rw [ran]; rfl)
      have moved := unscaled.setWorker tid (if config.mode = .cache then .scaleCheck else .waiting) ?_
        (absurd returned)
      · exact { moved with }
      · intro phase
        split <;> simp
  | workerScale tid checking none =>
      have returned := unscaled.returned_of_worker (show (before.worker tid).isResting = false by rw [checking]; rfl)
      have positive := covered.idle_pos owned returned checking
      omega
  | workerSpawn tid phase scaling => exact absurd scaling (unscaled.unscaling tid phase)
  | callEnter | callNotRunning =>
      have returned : before.starter = .returned := permitted.resolve_left (by simp)
      exact { unscaled with calls := absurd returned }
  | callAcquire caller begun | callTimeout caller _ begun | callCheck caller begun | callStopped caller begun =>
      have returned := unscaled.returned_of_call (show before.call caller ≠ .idle by simp [begun])
      exact { unscaled with calls := absurd returned }
  | callPush caller checked =>
      have returned := unscaled.returned_of_call (show before.call caller ≠ .idle by simp [checked])
      exact { unscaled with calls := absurd returned, queue := absurd returned }
  | startCall =>
      have first : before.starter = .idle := permitted
      exact unscaled.startCall first
  | startSpawn left phase spawning => exact unscaled.startSpawn spawning
  | stopCall | stopSync | stopJoin => exact { unscaled with }
  | stopClear => exact { unscaled with queue := fun _ => rfl }

/-- No worker adds a thread if the calls begin after `start` has returned. -/
theorem unscaled_afterStart {state : State κ}
    (reached : (pool config kind).ReachableBy SubmitPolicy.afterStart.Allows state) : Unscaled config state := by
  have both : Covered state ∧ Unscaled config state := by
    refine @invariant_of_transitions κ _ config kind _ (fun state => Covered state ∧ Unscaled config state) _ reached
      ⟨Int.le_refl 0, ?_⟩ ?_
    · exact ⟨by simp [pool], fun _ _ => rfl, fun _ => rfl, fun _ _ => rfl, Int.le_refl 0, by simp [pool]⟩
    · intro before action after transition permitted owned both
      exact ⟨transition.covered owned both.1, transition.unscaled permitted owned both.1 both.2⟩
  exact both.2

/-- Once `start` has returned, the test finds an idle thread. -/
theorem no_scale_once_started {allowed : State κ → Action κ → Prop} {state after : State κ} {tid : Nat}
    (reached : (pool config kind).ReachableBy allowed state) (returned : state.starter = .returned)
    (stepped : (pool config kind).step state (.worker tid .scale) = some after) :
    after = state.setWorker tid .waiting := by
  have transition : Transition config kind state (.worker tid .scale) after := poolStep_transition stepped
  cases transition with
  | workerScale _ checking none =>
      have positive := (covered_of_reachable reached).idle_pos (owned_of_reachable reached) returned checking
      omega
  | workerNoScale => rfl

/-- A CACHE pool can outgrow its initial size exactly if calls may begin before
`start` has returned.  No worker decides to add a thread later than that. -/
theorem cache_pool_scales_up_iff (config : Config) (kind : Nat → CallKind) (policy : SubmitPolicy)
    (cache : config.mode = .cache) (threads : 1 ≤ config.initThreadSize)
    (hold : config.initThreadSize < config.threadSizeThreadHold)
    (room : config.threadSizeThreadHold + config.initThreadSize ≤ config.taskQueMaxThreshold.toNat) :
    ((∃ state, (pool config kind).ReachableBy policy.Allows state ∧
      config.initThreadSize < state.curThreadSize) ↔ policy = .anytime) ∧
    ∀ state tid after, (pool config kind).ReachableBy policy.Allows state → state.starter = .returned →
      (pool config kind).step state (.worker tid .scale) = some after → after = state.setWorker tid .waiting := by
  refine ⟨⟨?_, ?_⟩, fun _ _ _ => no_scale_once_started⟩
  · rintro ⟨state, reached, grown⟩
    cases policy with
    | anytime => rfl
    | afterStart =>
        have current := (unscaled_afterStart reached).current
        have most := counted_le config.initThreadSize state.starter
        omega
  · rintro rfl
    have two : 1 < config.taskQueMaxThreshold := UInt32.lt_iff_toNat_lt.mpr (by simp; omega)
    obtain ⟨state, reached, _, grown⟩ := overlap_grows cache threads (by omega) two
    exact ⟨state, reached, grown⟩

/-- The pool of a `Worker`. -/
def workerPool : Config where
  mode := .cache
  initThreadSize := 2
  taskQueMaxThreshold := 1024
  threadSizeThreadHold := 8

theorem worker_pool_scales_up_before_start :
    ∃ state, (pool workerPool fun _ : Nat => .submit).ReachableBy SubmitPolicy.anytime.Allows state ∧
      2 < state.curThreadSize :=
  (cache_pool_scales_up_iff workerPool (fun _ => .submit) .anytime rfl (by decide) (by decide) (by decide)).1.mpr rfl

/-- `Worker` starts the pool before it starts the thread that submits, so its
pool keeps two threads and never enters the branch that adds one. -/
theorem worker_pool_never_scales_up :
    ¬ ∃ state, (pool workerPool fun _ : Nat => .submit).ReachableBy SubmitPolicy.afterStart.Allows state ∧
      (2 < state.curThreadSize ∨ ∃ tid phase, state.worker tid = .scaling phase) := by
  rintro ⟨state, reached, grown | ⟨tid, phase, scaling⟩⟩
  · have current := (unscaled_afterStart reached).current
    have most := counted_le workerPool.initThreadSize state.starter
    have two : workerPool.initThreadSize = 2 := rfl
    omega
  · exact (unscaled_afterStart reached).unscaling tid phase scaling

end TaskHive.ThreadPool
