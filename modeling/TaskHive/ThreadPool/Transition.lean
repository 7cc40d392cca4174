import TaskHive.ThreadPool.Model

namespace TaskHive.ThreadPool

variable {κ : Type} [DecidableEq κ] {config : Config} {kind : κ → CallKind}

/-! # What one step can do

Each constructor is one branch of the step functions, with the guards that
lead to it and the state it produces. -/

inductive Transition (config : Config) (kind : κ → CallKind) (state : State κ) :
    Action κ → State κ → Prop where
  | workerAcquire (tid : Nat) (waiting : state.worker tid = .waiting) (free : state.mutex = none)
      (wakes : state.wakes = true) :
      Transition config kind state (.worker tid .acquire)
        { state.setWorker tid .locked with mutex := some (.worker tid) }
  | workerReclaim (tid : Nat) (cache : config.mode = .cache) (waiting : state.worker tid = .waiting)
      (free : state.mutex = none) (asleep : state.wakes = false) (running : state.running = true)
      (surplus : config.initThreadSize < state.curThreadSize) :
      Transition config kind state (.worker tid .timeout)
        { state.setWorker tid .exited with
          curThreadSize := state.curThreadSize - 1, idleThreadSize := state.idleThreadSize - 1 }
  | workerTimeout (tid : Nat) (cache : config.mode = .cache) (waiting : state.worker tid = .waiting)
      (free : state.mutex = none) (asleep : state.wakes = false) :
      Transition config kind state (.worker tid .timeout)
        { state.setWorker tid .locked with mutex := some (.worker tid) }
  | workerLeave (tid : Nat) (locked : state.worker tid = .locked) (empty : state.taskQue = [])
      (stopped : state.running = false) :
      Transition config kind state (.worker tid .decide) { state.setWorker tid .exited with mutex := none }
  | workerSkip (tid : Nat) (locked : state.worker tid = .locked) (empty : state.taskQue = [])
      (running : state.running = true) :
      Transition config kind state (.worker tid .decide) { state.setWorker tid .waiting with mutex := none }
  | workerTake (tid : Nat) (task : κ) (rest : List κ) (locked : state.worker tid = .locked)
      (queue : state.taskQue = task :: rest) :
      Transition config kind state (.worker tid .decide)
        { state.setWorker tid (.running task) with
          mutex := none
          taskQue := rest
          taskSize := state.taskSize - 1
          idleThreadSize := state.idleThreadSize - 1
          taken := state.taken ++ [task] }
  | workerRun (tid : Nat) (task : κ) (running : state.worker tid = .running task) :
      Transition config kind state (.worker tid .run)
        { state.setWorker tid .ran with finished := state.finished ++ [task] }
  | workerSettle (tid : Nat) (ran : state.worker tid = .ran) :
      Transition config kind state (.worker tid .settle)
        { state.setWorker tid (if config.mode = .cache then .scaleCheck else .waiting) with
          idleThreadSize := state.idleThreadSize + 1 }
  | workerScale (tid : Nat) (checking : state.worker tid = .scaleCheck) (idle : state.idleThreadSize = 0)
      (backlog : 0 < state.taskSize) (room : state.curThreadSize < config.threadSizeThreadHold) :
      Transition config kind state (.worker tid .scale) (state.setWorker tid (.scaling .create))
  | workerNoScale (tid : Nat) (checking : state.worker tid = .scaleCheck) :
      Transition config kind state (.worker tid .scale) (state.setWorker tid .waiting)
  | workerSpawn (tid : Nat) (phase : Spawn) (scaling : state.worker tid = .scaling phase) :
      Transition config kind state (.worker tid .spawn)
        ((spawnStep state phase).1.setWorker tid ((spawnStep state phase).2.elim .waiting .scaling))
  | callEnter (caller : κ) (idle : state.call caller = .idle) (running : state.running = true) :
      Transition config kind state (.call caller .enter) (state.setCall caller .entered)
  | callNotRunning (caller : κ) (idle : state.call caller = .idle) (stopped : state.running = false) :
      Transition config kind state (.call caller .enter)
        (state.setCall caller (.threw "thread pool not running"))
  | callAcquire (caller : κ) (entered : state.call caller = .entered) (free : state.mutex = none)
      (room : state.hasRoom config = true) :
      Transition config kind state (.call caller .acquire)
        { state.setCall caller .locked with mutex := some (.call caller) }
  | callTimeout (caller : κ) (timed : kind caller = .submitFor) (entered : state.call caller = .entered)
      (free : state.mutex = none) (full : state.hasRoom config = false) :
      Transition config kind state (.call caller .timeout) (state.setCall caller (.threw "submit timeout"))
  | callCheck (caller : κ) (locked : state.call caller = .locked) (running : state.running = true) :
      Transition config kind state (.call caller .check) (state.setCall caller .checked)
  | callStopped (caller : κ) (locked : state.call caller = .locked) (stopped : state.running = false) :
      Transition config kind state (.call caller .check)
        { state.setCall caller (.threw "thread pool stopped") with mutex := none }
  | callPush (caller : κ) (checked : state.call caller = .checked) :
      Transition config kind state (.call caller .push)
        { state.setCall caller .returned with
          mutex := none
          taskQue := state.taskQue ++ [caller]
          taskSize := state.taskSize + 1
          enqueued := state.enqueued ++ [caller] }
  | startCall (stopped : state.running = false) (unoccupied : ∀ left phase, state.starter ≠ .spawning left phase) :
      Transition config kind state (.start .call)
        { state with
          running := true
          starter := if config.initThreadSize = 0 then .returned
            else .spawning config.initThreadSize .create }
  | startSpawn (left : Nat) (phase : Spawn) (spawning : state.starter = .spawning left phase) :
      Transition config kind state (.start .spawn)
        { (spawnStep state phase).1 with
          starter := (spawnStep state phase).2.elim
            (if left ≤ 1 then .returned else .spawning (left - 1) .create) (.spawning left) }
  | stopCall (running : state.running = true) (unoccupied : state.stopper = .idle ∨ state.stopper = .returned) :
      Transition config kind state (.stop .call) { state with running := false, stopper := .syncing }
  | stopSync (syncing : state.stopper = .syncing) (free : state.mutex = none) :
      Transition config kind state (.stop .sync) { state with stopper := .joining }
  | stopJoin (joining : state.stopper = .joining)
      (ended : ∀ tid ∈ state.threads, state.worker tid = .exited) :
      Transition config kind state (.stop .join) { state with threads := [], stopper := .clearing }
  | stopClear (clearing : state.stopper = .clearing) (free : state.mutex = none) :
      Transition config kind state (.stop .clear)
        { state with
          taskQue := [], taskSize := 0, discarded := state.discarded ++ state.taskQue, stopper := .returned }

theorem workerStep_transition {before after : State κ} {tid : Nat} {action : WorkerAction}
    (stepped : workerStep config before tid action = some after) :
    Transition config kind before (.worker tid action) after := by
  cases action with
  | acquire =>
      simp only [workerStep] at stepped
      split at stepped
      · rename_i guard
        cases stepped
        exact .workerAcquire tid guard.1 guard.2.1 guard.2.2
      · cases stepped
  | timeout =>
      simp only [workerStep, workerTimeout] at stepped
      split at stepped
      · rename_i guard
        split at stepped
        · rename_i surplus
          cases stepped
          exact .workerReclaim tid guard.1 guard.2.1 guard.2.2.1 guard.2.2.2 surplus.1 surplus.2
        · cases stepped
          exact .workerTimeout tid guard.1 guard.2.1 guard.2.2.1 guard.2.2.2
      · cases stepped
  | decide =>
      simp only [workerStep, workerDecide] at stepped
      split at stepped
      · rename_i locked
        split at stepped
        · rename_i empty
          cases stepped
          cases running : before.running with
          | false => exact .workerLeave tid locked empty running
          | true => exact .workerSkip tid locked empty running
        · rename_i task rest queue
          cases stepped
          exact .workerTake tid task rest locked queue
      · cases stepped
  | run =>
      simp only [workerStep] at stepped
      split at stepped
      · rename_i task running
        cases stepped
        exact .workerRun tid task running
      · cases stepped
  | settle =>
      simp only [workerStep] at stepped
      split at stepped
      · rename_i ran
        cases stepped
        exact .workerSettle tid ran
      · cases stepped
  | scale =>
      simp only [workerStep] at stepped
      split at stepped
      · rename_i checking
        split at stepped
        · rename_i guard
          cases stepped
          exact .workerScale tid checking guard.1 guard.2.1 guard.2.2
        · cases stepped
          exact .workerNoScale tid checking
      · cases stepped
  | spawn =>
      simp only [workerStep] at stepped
      split at stepped
      · rename_i phase scaling
        have transition : Transition config kind before _ _ := .workerSpawn tid phase scaling
        split at stepped
        all_goals
          rename_i spawned
          cases stepped
          rw [spawned] at transition
          exact transition
      · cases stepped

theorem callStep_transition {before after : State κ} {caller : κ} {action : CallAction}
    (stepped : callStep config kind before caller action = some after) :
    Transition config kind before (.call caller action) after := by
  cases action with
  | enter =>
      simp only [callStep] at stepped
      split at stepped
      · rename_i idle
        cases stepped
        cases running : before.running with
        | false => exact .callNotRunning caller idle running
        | true => exact .callEnter caller idle running
      · cases stepped
  | acquire =>
      simp only [callStep] at stepped
      split at stepped
      · rename_i guard
        cases stepped
        exact .callAcquire caller guard.1 guard.2.1 guard.2.2
      · cases stepped
  | timeout =>
      simp only [callStep] at stepped
      split at stepped
      · rename_i guard
        cases stepped
        exact .callTimeout caller guard.1 guard.2.1 guard.2.2.1 guard.2.2.2
      · cases stepped
  | check =>
      simp only [callStep] at stepped
      split at stepped
      · rename_i locked
        split at stepped
        · rename_i running
          cases stepped
          exact .callCheck caller locked running
        · rename_i stopped
          cases stepped
          exact .callStopped caller locked (by simpa using stopped)
      · cases stepped
  | push =>
      simp only [callStep] at stepped
      split at stepped
      · rename_i checked
        cases stepped
        exact .callPush caller checked
      · cases stepped

theorem startStep_transition {before after : State κ} {action : StartAction}
    (stepped : startStep config before action = some after) :
    Transition config kind before (.start action) after := by
  cases action with
  | call =>
      simp only [startStep] at stepped
      split at stepped
      · cases stepped
      · rename_i unoccupied
        split at stepped
        · cases stepped
        · rename_i stopped
          cases stepped
          exact .startCall (by simpa using stopped) unoccupied
  | spawn =>
      simp only [startStep] at stepped
      split at stepped
      · rename_i left phase spawning
        have transition : Transition config kind before _ _ := .startSpawn left phase spawning
        split at stepped
        all_goals
          rename_i spawned
          cases stepped
          rw [spawned] at transition
          exact transition
      · cases stepped

theorem stopStep_transition {before after : State κ} {action : StopAction}
    (stepped : stopStep before action = some after) :
    Transition config kind before (.stop action) after := by
  cases action with
  | call =>
      simp only [stopStep] at stepped
      split at stepped
      · rename_i guard
        cases stepped
        exact .stopCall guard.2 guard.1
      · cases stepped
  | sync =>
      simp only [stopStep] at stepped
      split at stepped
      · rename_i guard
        cases stepped
        exact .stopSync guard.1 guard.2
      · cases stepped
  | join =>
      simp only [stopStep] at stepped
      split at stepped
      · rename_i guard
        cases stepped
        exact .stopJoin guard.1 guard.2
      · cases stepped
  | clear =>
      simp only [stopStep] at stepped
      split at stepped
      · rename_i guard
        cases stepped
        exact .stopClear guard.1 guard.2
      · cases stepped

theorem poolStep_transition {before after : State κ} {action : Action κ}
    (stepped : poolStep config kind before action = some after) :
    Transition config kind before action after := by
  cases action with
  | worker tid action => exact workerStep_transition stepped
  | call caller action => exact callStep_transition stepped
  | start action => exact startStep_transition stepped
  | stop action => exact stopStep_transition stepped

end TaskHive.ThreadPool
