import Mathlib.Data.Fintype.Basic
import TaskHive.ThreadPool.Workers

namespace TaskHive.ThreadPool

variable {κ : Type} [DecidableEq κ] {config : Config} {kind : κ → CallKind}

/-! # The bound of the task queue

A call waits until the queue has room or the pool is stopped, and then tests
`running_` a second time.  A `start` between the two makes a call go on that
never saw room. -/

/-- What the constructor and the comparison make of `task_queue_max`: a
conversion to `int` and one to `unsigned int`. -/
def queueThreshold (taskQueueMax : Nat) : UInt32 := (Int32.ofNat taskQueueMax).toUInt32

def Config.withQueueMax (config : Config) (taskQueueMax : Nat) : Config :=
  { config with taskQueMaxThreshold := queueThreshold taskQueueMax }

theorem queueThreshold_le (taskQueueMax : Nat) : (queueThreshold taskQueueMax).toNat ≤ taskQueueMax := by
  have converted : (queueThreshold taskQueueMax).toNat = taskQueueMax % 2 ^ 32 := by
    simp [queueThreshold]
  rw [converted]
  exact Nat.mod_le _ _

/-! ## Who relies on the room -/

/-- The call pushes unless the pool is stopped before its second test. -/
def CallPc.reliesOnRoom (running : Bool) : CallPc → Bool
  | .locked => running
  | .checked => true
  | _ => false

theorem CallPc.owns_of_relies {running : Bool} {pc : CallPc} (relies : pc.reliesOnRoom running = true) :
    pc.owns = true := by
  cases pc <;> first | rfl | cases relies

/-- The counter is the length of the queue, and a call that will push has
room. -/
structure Roomy (config : Config) (state : State κ) : Prop where
  size : state.taskSize.toNat = state.taskQue.length
  bound : state.taskQue.length ≤ config.taskQueMaxThreshold.toNat
  room : ∀ caller, (state.call caller).reliesOnRoom state.running = true →
    state.taskQue.length < config.taskQueMaxThreshold.toNat

/-- No `start` while a call is between its wait and its second test and the
queue is full. -/
def NoStartWhileFull (config : Config) (state : State κ) : Action κ → Prop
  | .start .call => ∀ caller, state.mutex = some (.call caller) → state.call caller = .locked →
      state.taskSize < config.taskQueMaxThreshold
  | _ => True

instance decidableNoStartWhileFull [Fintype κ] (config : Config) (state : State κ) :
    (action : Action κ) → Decidable (NoStartWhileFull config state action)
  | .start .call => inferInstanceAs (Decidable (∀ _, _ → _ → _))
  | .start .spawn | .worker _ _ | .call _ _ | .stop _ => inferInstanceAs (Decidable True)

section Keeping

variable {state : State κ} {caller : κ}

theorem Roomy.setCall (roomy : Roomy config state) {pc : CallPc}
    (room : pc.reliesOnRoom state.running = true → state.taskQue.length < config.taskQueMaxThreshold.toNat) :
    Roomy config (state.setCall caller pc) where
  size := roomy.size
  bound := roomy.bound
  room other relies := by
    by_cases same : other = caller
    · subst other
      exact room (by simpa [State.setCall] using relies)
    · exact roomy.room other (by simpa [State.setCall, same] using relies)

omit [DecidableEq κ] in
theorem Roomy.spawnStep (roomy : Roomy config state) (phase : Spawn) : Roomy config (spawnStep state phase).1 := by
  cases phase <;> exact { roomy with }

omit [DecidableEq κ] in
theorem Roomy.take (roomy : Roomy config state) {task : κ} {rest : List κ} (queue : state.taskQue = task :: rest)
    (tid : Nat) :
    Roomy config { state.setWorker tid (.running task) with
      mutex := none, taskQue := rest, taskSize := state.taskSize - 1
      idleThreadSize := state.idleThreadSize - 1, taken := state.taken ++ [task] } := by
  have size := roomy.size
  have bound := roomy.bound
  rw [queue, List.length_cons] at size bound
  refine ⟨?_, Nat.le_of_succ_le bound, fun caller relies => ?_⟩
  · have one : (1 : UInt32) ≤ state.taskSize := by
      rw [UInt32.le_iff_toNat_le, size]
      exact Nat.succ_le_succ (Nat.zero_le _)
    change (state.taskSize - 1).toNat = rest.length
    rw [UInt32.toNat_sub_of_le _ _ one, size]
    rfl
  · have room := roomy.room caller relies
    rw [queue, List.length_cons] at room
    exact Nat.lt_of_succ_lt room

/-- Room that was there for the call that pushes, and for no other. -/
theorem Roomy.push (roomy : Roomy config state) (owned : Owned state) (checked : state.call caller = .checked) :
    Roomy config { state.setCall caller .returned with
      mutex := none, taskQue := state.taskQue ++ [caller], taskSize := state.taskSize + 1
      enqueued := state.enqueued ++ [caller] } := by
  have room := roomy.room caller (by rw [checked]; rfl)
  have holder := (owned.mutex.2 caller).mp (by rw [checked]; rfl)
  refine ⟨?_, ?_, fun other relies => ?_⟩
  · have small := config.taskQueMaxThreshold.toNat_lt
    change (state.taskSize + 1).toNat = (state.taskQue ++ [caller]).length
    rw [UInt32.toNat_add, roomy.size, List.length_append, List.length_singleton]
    exact Nat.mod_eq_of_lt (by simp only [UInt32.toNat_one]; omega)
  · rw [List.length_append, List.length_singleton]
    exact room
  · by_cases same : other = caller
    · subst other
      simp [State.setCall, CallPc.reliesOnRoom] at relies
    · have second : state.mutex = some (.call other) := by
        refine (owned.mutex.2 other).mp (@CallPc.owns_of_relies state.running _ ?_)
        simpa [State.setCall, same] using relies
      rw [holder, Option.some.injEq] at second
      exact absurd (Owner.call.inj second).symm same

omit [DecidableEq κ] in
theorem Roomy.clear (owned : Owned state) (free : state.mutex = none) (discarded : List κ) (stopper : StopPc) :
    Roomy config { state with taskQue := [], taskSize := 0, discarded, stopper } where
  size := rfl
  bound := Nat.zero_le _
  room caller relies := by
    have holder := (owned.mutex.2 caller).mp (CallPc.owns_of_relies relies)
    rw [free] at holder
    cases holder

omit [DecidableEq κ] in
theorem Roomy.start (roomy : Roomy config state) (owned : Owned state)
    (permitted : NoStartWhileFull config state (.start .call)) (starter : StartPc) :
    Roomy config { state with running := true, starter } where
  size := roomy.size
  bound := roomy.bound
  room caller relies := by
    cases pc : state.call caller with
    | locked =>
        have holder := (owned.mutex.2 caller).mp (by rw [pc]; rfl)
        have below := UInt32.lt_iff_toNat_lt.mp (permitted caller holder pc)
        rwa [roomy.size] at below
    | checked => exact roomy.room caller (by rw [pc]; rfl)
    | idle | entered | returned | threw => simp [pc, CallPc.reliesOnRoom] at relies

end Keeping

theorem Transition.roomy {before after : State κ} {action : Action κ}
    (transition : Transition config kind before action after) (owned : Owned before)
    (permitted : NoStartWhileFull config before action) (roomy : Roomy config before) : Roomy config after := by
  cases transition with
  | workerAcquire | workerReclaim | workerTimeout | workerLeave | workerSkip | workerRun | workerSettle | workerScale
  | workerNoScale => exact { roomy with }
  | workerTake tid task rest _ queue => exact roomy.take queue tid
  | workerSpawn tid phase => exact { roomy.spawnStep phase with }
  | callEnter | callNotRunning | callTimeout => exact roomy.setCall (by simp [CallPc.reliesOnRoom])
  | callAcquire caller _ _ room =>
      have set : Roomy config (before.setCall caller .locked) := by
        refine roomy.setCall fun running => ?_
        have runs : before.running = true := running
        have below : before.taskSize < config.taskQueMaxThreshold := by simpa [State.hasRoom, runs] using room
        rw [← roomy.size]
        exact UInt32.lt_iff_toNat_lt.mp below
      exact { set with }
  | callCheck caller locked running =>
      exact roomy.setCall fun _ => roomy.room caller (by rw [locked]; exact running)
  | callStopped caller =>
      have set : Roomy config (before.setCall caller (.threw "thread pool stopped")) :=
        roomy.setCall (by simp [CallPc.reliesOnRoom])
      exact { set with }
  | callPush caller checked => exact roomy.push owned checked
  | startCall => exact roomy.start owned permitted _
  | startSpawn _ phase => exact { roomy.spawnStep phase with }
  | stopCall =>
      refine ⟨roomy.size, roomy.bound, fun caller relies => ?_⟩
      refine roomy.room caller ?_
      revert relies
      cases before.call caller <;> simp [CallPc.reliesOnRoom]
  | stopSync | stopJoin => exact { roomy with }
  | stopClear _ free => exact Roomy.clear owned free _ _

theorem roomy_of_reachable {state : State κ}
    (reached : (pool config kind).ReachableBy (NoStartWhileFull config) state) : Roomy config state := by
  refine invariant_of_transitions reached ?_ ?_
  · exact ⟨rfl, Nat.zero_le _, by simp [pool, CallPc.reliesOnRoom]⟩
  · intro before action after transition permitted owned roomy
    exact transition.roomy owned permitted roomy

/-- With the mutex free the counter is the length of the queue and within the
bound; whenever there is a task to take, the counter can be lowered. -/
structure QueueBounded (taskQueueMax : Nat) (state : State κ) : Prop where
  counts : state.mutex = none → state.taskSize.toNat = state.taskQue.length
  bounded : state.mutex = none → state.taskSize.toNat ≤ taskQueueMax
  positive : state.taskQue ≠ [] → 0 < state.taskSize

/-- In every mode and over any number of starts and stops, the queue keeps to
its bound if no `start` comes while a call that found the queue full is about to
test `running_` again. -/
theorem queue_keeps_to_bound (config : Config) (kind : κ → CallKind) (taskQueueMax : Nat) (state : State κ)
    (reached : (pool (config.withQueueMax taskQueueMax) kind).ReachableBy
      (NoStartWhileFull (config.withQueueMax taskQueueMax)) state) : QueueBounded taskQueueMax state := by
  have roomy := roomy_of_reachable reached
  refine ⟨fun _ => roomy.size, fun _ => ?_, fun tasks => ?_⟩
  · rw [roomy.size]
    exact Nat.le_trans roomy.bound (queueThreshold_le taskQueueMax)
  · rw [UInt32.lt_iff_toNat_lt, roomy.size]
    exact List.length_pos_iff.mpr tasks

/-- Two calls in turn on one thread and a queue for one task. -/
theorem single_queue_keeps_to_bound :
    ∃ state, (pool ((single .fixed).withQueueMax 1) fun _ : Fin 1 => .submit).ReachableBy
        (NoStartWhileFull ((single .fixed).withQueueMax 1)) state ∧
      state.mutex = none ∧ state.taskQue = [0] ∧ QueueBounded 1 state := by
  obtain ⟨state, reached, free, queue⟩ :=
    (pool ((single .fixed).withQueueMax 1) fun _ : Fin 1 => .submit).reachableBy_of_any
      (NoStartWhileFull ((single .fixed).withQueueMax 1)) (fun state => state.mutex = none ∧ state.taskQue = [0])
      (startSingle ++ stopSingle 1 ++ startSingle ++ [.call 0 .enter, .call 0 .acquire, .call 0 .check, .call 0 .push])
      (by decide)
  exact ⟨state, reached, free, queue, queue_keeps_to_bound (single .fixed) _ 1 state reached⟩

/-- A pool without threads. -/
def unmanned : Config where
  mode := .fixed
  initThreadSize := 0
  taskQueMaxThreshold := 0
  threadSizeThreadHold := 0

/-- `stop` with no thread to join. -/
def stopUnmanned : List (Action (Fin 2)) := [.stop .call, .stop .sync, .stop .join, .stop .clear]

/-- A call waits at a bound of zero, `stop` ends its wait, and the next `start`
lets it push.  At a bound of one it takes a `start` before `stop` has thrown the
queue away. -/
theorem queue_exceeds_bound :
    (∃ state, (pool (unmanned.withQueueMax 0) fun _ : Fin 2 => .submit).Reachable state ∧
        state.mutex = none ∧ state.taskSize = 1 ∧ ¬ state.taskSize.toNat ≤ 0) ∧
      ∃ state, (pool (unmanned.withQueueMax 1) fun _ : Fin 2 => .submit).Reachable state ∧
        state.mutex = none ∧ state.taskQue = [0, 1] ∧ ¬ state.taskSize.toNat ≤ 1 :=
  ⟨(pool (unmanned.withQueueMax 0) fun _ : Fin 2 => .submit).reachable_of_any
      ([.start .call, .call 0 .enter] ++ stopUnmanned ++
        [.call 0 .acquire, .start .call, .call 0 .check, .call 0 .push]) (by decide),
    (pool (unmanned.withQueueMax 1) fun _ : Fin 2 => .submit).reachable_of_any
      [.start .call, .call 0 .enter, .call 0 .acquire, .call 0 .check, .call 0 .push, .call 1 .enter, .stop .call,
        .call 1 .acquire, .start .call, .call 1 .check, .call 1 .push] (by decide)⟩

end TaskHive.ThreadPool
