import TaskHive.ThreadPool.ScaleUp

namespace TaskHive.ThreadPool

variable {κ : Type} {config : Config} {kind : κ → CallKind}

/-! # The counters of threads

`start` creates a thread before it counts it, and the thread runs at once.  The
counters are sound as long as no thread takes a task before it is counted. -/

/-- The conversion of an `int` to `size_t`. -/
def sizeT (value : Int) : Nat := (value % 18446744073709551616).toNat

def State.size (state : State κ) : Nat := sizeT state.curThreadSize

def State.idle (state : State κ) : Nat := sizeT state.idleThreadSize

/-- The worker has created a thread that is not in `curThreadSize_`. -/
def WorkerPc.isAdding : WorkerPc κ → Bool
  | .scaling (.register _) | .scaling .countCurrent => true
  | _ => false

/-- The threads that are created and not counted. -/
def State.uncounted (state : State κ) : Nat := state.starter.uncounted + state.tally WorkerPc.isAdding

structure SoundCounters (config : Config) (state : State κ) : Prop where
  idle_nonneg : 0 ≤ state.idleThreadSize
  idle_le : state.idleThreadSize ≤ state.curThreadSize + state.uncounted
  current_nonneg : 0 ≤ state.curThreadSize
  current_le : state.curThreadSize ≤ config.threadSizeThreadHold
  idle_answer : (state.idle : Int) ≤ config.threadSizeThreadHold
  size_answer : (state.size : Int) ≤ config.threadSizeThreadHold

/-- The pool is started once, and no thread takes a task while `start` still
has to raise `idleThreadSize_` for it. -/
def TakesOnceCounted (state : State κ) : Action κ → Prop
  | .start .call => state.starter = .idle
  | .worker tid .decide => state.taskQue ≠ [] → state.starter.unidled = 1 → tid ≠ state.threadIdCounter
  | _ => True

instance decidableTakesOnceCounted [DecidableEq κ] (state : State κ) :
    (action : Action κ) → Decidable (TakesOnceCounted state action)
  | .start .call => inferInstanceAs (Decidable (_ = _))
  | .worker _ .decide => inferInstanceAs (Decidable (_ → _ → _))
  | .worker _ .acquire | .worker _ .timeout | .worker _ .run | .worker _ .settle | .worker _ .scale
  | .worker _ .spawn => inferInstanceAs (Decidable True)
  | .start .spawn | .call _ _ | .stop _ => inferInstanceAs (Decidable True)

theorem sizeT_le {value : Int} (nonneg : 0 ≤ value) : (sizeT value : Int) ≤ value := by
  have reduced := Int.emod_nonneg value (show (18446744073709551616 : Int) ≠ 0 by decide)
  rw [sizeT, Int.toNat_of_nonneg reduced]
  omega

/-! ## The balance of the counters -/

def WorkerPc.isBorn : WorkerPc κ → Bool
  | .unborn => false
  | _ => true

/-- The thread has been subtracted from `idleThreadSize_`. -/
def WorkerPc.isBusy : WorkerPc κ → Bool
  | .running _ | .ran => true
  | _ => false

theorem WorkerPc.isBorn_of_isBusy (pc : WorkerPc κ) (busy : pc.isBusy = true) : pc.isBorn = true := by
  cases pc <;> first | rfl | cases busy

theorem WorkerPc.isBorn_iff (pc : WorkerPc κ) : pc.isBorn = true ↔ pc ≠ .unborn := by
  cases pc <;> simp [isBorn]

theorem WorkerPc.isBusy_of_isResting {pc : WorkerPc κ} (resting : pc.isResting = true) : pc.isBusy = false := by
  cases pc <;> first | rfl | cases resting

theorem unidled_le_one (starter : StartPc) : starter.unidled ≤ 1 := by
  unfold StartPc.unidled
  split <;> decide

theorem uncounted_le_unidled (starter : StartPc) : starter.uncounted ≤ starter.unidled := by
  cases starter with
  | idle | returned => exact Nat.le_refl 0
  | spawning _ phase => cases phase <;> simp [StartPc.uncounted, StartPc.unidled]

theorem created_le (size : Nat) (starter : StartPc) : starter.created size ≤ size := by
  unfold StartPc.created
  split <;> omega

/-- Every thread was created by `start`, and each of them is idle, busy or not
counted yet. -/
structure Balanced (config : Config) (state : State κ) : Prop where
  unscaling : ∀ tid phase, state.worker tid ≠ .scaling phase
  newcomer : state.starter.unidled = 1 →
    (state.worker state.threadIdCounter).isBorn = true ∧ (state.worker state.threadIdCounter).isResting = true
  idle : state.idleThreadSize + state.tally WorkerPc.isBusy + state.starter.unidled = state.tally WorkerPc.isBorn
  current : state.curThreadSize + state.starter.uncounted = state.tally WorkerPc.isBorn
  created : state.tally WorkerPc.isBorn = state.starter.created config.initThreadSize
  bounded : ∀ left phase, state.starter = .spawning left phase → 1 ≤ left ∧ left ≤ config.initThreadSize

namespace Balanced

variable {state : State κ} {tid : Nat}

/-- The newcomer is not one of the busy threads. -/
theorem busy_add_unidled_le (balanced : Balanced config state) :
    state.tally WorkerPc.isBusy + state.starter.unidled ≤ state.tally WorkerPc.isBorn := by
  have most (bound : Nat) := tally_le_tally WorkerPc.isBorn_of_isBusy state.worker bound
  by_cases waiting : state.starter.unidled = 1
  · obtain ⟨born, resting⟩ := balanced.newcomer waiting
    have fewer := most state.threadIdCounter
    rw [waiting, State.tally, State.tally, tally_succ, tally_succ, born, WorkerPc.isBusy_of_isResting resting]
    exact Nat.succ_le_succ fewer
  · have none : state.starter.unidled = 0 := by
      have small := unidled_le_one state.starter
      omega
    rw [none]
    exact most (state.threadIdCounter + 1)

/-- A thread that is counted and not busy is another one. -/
theorem busy_add_unidled_lt (balanced : Balanced config state) (owned : Owned state)
    (born : (state.worker tid).isBorn = true) (free : (state.worker tid).isBusy = false)
    (counted : state.starter.unidled = 1 → tid ≠ state.threadIdCounter) :
    state.tally WorkerPc.isBusy + state.starter.unidled < state.tally WorkerPc.isBorn := by
  have inside : tid < state.threadIdCounter + 1 := by
    by_contra above
    exact (state.worker tid).isBorn_iff.mp born (owned.fresh tid (by omega))
  have fewer (bound : Nat) (below : tid < bound) :=
    @tally_lt_tally _ WorkerPc.isBusy state.worker bound tid _ WorkerPc.isBorn_of_isBusy below free born
  by_cases waiting : state.starter.unidled = 1
  · obtain ⟨newBorn, resting⟩ := balanced.newcomer waiting
    have different := counted waiting
    have rest := fewer state.threadIdCounter (by omega)
    rw [waiting, State.tally, State.tally, tally_succ, tally_succ, newBorn, WorkerPc.isBusy_of_isResting resting]
    exact Nat.succ_lt_succ rest
  · have none : state.starter.unidled = 0 := by
      have small := unidled_le_one state.starter
      omega
    rw [none]
    exact fewer (state.threadIdCounter + 1) inside

theorem idle_pos (balanced : Balanced config state) (owned : Owned state)
    (born : (state.worker tid).isBorn = true) (free : (state.worker tid).isBusy = false)
    (counted : state.starter.unidled = 1 → tid ≠ state.threadIdCounter) : 0 < state.idleThreadSize := by
  have fewer := balanced.busy_add_unidled_lt owned born free counted
  have balance := balanced.idle
  omega

/-- A thread that has work behind it is not the newcomer. -/
theorem counted_of_active (balanced : Balanced config state) (active : (state.worker tid).isResting = false) :
    state.starter.unidled = 1 → tid ≠ state.threadIdCounter := by
  rintro waiting rfl
  rw [(balanced.newcomer waiting).2] at active
  cases active

theorem current_le (balanced : Balanced config state) : state.curThreadSize ≤ config.initThreadSize := by
  have most := created_le config.initThreadSize state.starter
  have current := balanced.current
  have created := balanced.created
  omega

theorem sound (balanced : Balanced config state)
    (fits : config.initThreadSize ≤ config.threadSizeThreadHold) : SoundCounters config state := by
  have covered := balanced.busy_add_unidled_le
  have idle := balanced.idle
  have current := balanced.current
  have created := balanced.created
  have most := created_le config.initThreadSize state.starter
  have uncounted := uncounted_le_unidled state.starter
  have idleNonneg : 0 ≤ state.idleThreadSize := by omega
  have currentNonneg : 0 ≤ state.curThreadSize := by omega
  have atLeast : (state.starter.uncounted : Int) ≤ state.uncounted := by
    exact Int.ofNat_le.mpr (Nat.le_add_right _ _)
  refine ⟨idleNonneg, by omega, currentNonneg, by omega, ?_, ?_⟩
  · exact (sizeT_le idleNonneg).trans (by omega)
  · exact (sizeT_le currentNonneg).trans (by omega)

/-- A worker moves, and the counter of idle threads follows it. -/
theorem setWorker (balanced : Balanced config state) (owned : Owned state) (tid : Nat) (pc : WorkerPc κ)
    (born : state.worker tid ≠ .unborn) (stays : pc.isBorn = true) (unscaling : ∀ phase, pc ≠ .scaling phase)
    (resting : pc.isResting = true ∨ (state.starter.unidled = 1 → tid ≠ state.threadIdCounter))
    (idleThreadSize : Int)
    (follows : idleThreadSize + pc.isBusy.toNat = state.idleThreadSize + (state.worker tid).isBusy.toNat) :
    Balanced config { state.setWorker tid pc with idleThreadSize } := by
  have sameBorn : (state.setWorker tid pc).tally WorkerPc.isBorn = state.tally WorkerPc.isBorn :=
    tally_setWorker_same (stays.trans ((state.worker tid).isBorn_iff.mpr born).symm)
  refine ⟨?_, ?_, ?_, ?_, sameBorn.trans balanced.created, balanced.bounded⟩
  · exact (Function.forall_update_iff state.worker fun _ pc => ∀ phase, pc ≠ .scaling phase).mpr
      ⟨unscaling, fun other _ => balanced.unscaling other⟩
  · intro waiting
    change (Function.update state.worker tid pc state.threadIdCounter).isBorn = true ∧
      (Function.update state.worker tid pc state.threadIdCounter).isResting = true
    by_cases newest : state.threadIdCounter = tid
    · rw [newest, Function.update_self]
      exact ⟨stays, resting.resolve_right fun other => other waiting newest.symm⟩
    · rw [Function.update_of_ne newest]
      exact balanced.newcomer waiting
  · have moved := @Owned.tally_setWorker κ WorkerPc.isBusy state tid owned born pc
    have balance := balanced.idle
    change idleThreadSize + ((state.setWorker tid pc).tally WorkerPc.isBusy : Int) + state.starter.unidled =
      (state.setWorker tid pc).tally WorkerPc.isBorn
    rw [sameBorn]
    omega
  · change state.curThreadSize + state.starter.uncounted = (state.setWorker tid pc).tally WorkerPc.isBorn
    rw [sameBorn]
    exact balanced.current

theorem startCall (balanced : Balanced config state) (first : state.starter = .idle) :
    Balanced config { state with running := true, starter := StartPc.called config.initThreadSize } := by
  obtain ⟨noneCreated, _, noneUncounted, _⟩ := called_zero config.initThreadSize
  have noneUnidled := called_unidled config.initThreadSize
  have idle := balanced.idle
  have current := balanced.current
  have created := balanced.created
  rw [first] at idle current created
  refine ⟨balanced.unscaling, ?_, ?_, ?_, ?_, ?_⟩
  · intro waiting
    rw [noneUnidled] at waiting
    cases waiting
  · change state.idleThreadSize + state.tally WorkerPc.isBusy + (StartPc.called config.initThreadSize).unidled =
      state.tally WorkerPc.isBorn
    rw [noneUnidled]
    exact idle
  · change state.curThreadSize + (StartPc.called config.initThreadSize).uncounted = state.tally WorkerPc.isBorn
    rw [noneUncounted]
    exact current
  · exact created.trans noneCreated.symm
  · intro left phase spawning
    simp only [StartPc.called] at spawning
    split at spawning
    · cases spawning
    · cases spawning
      omega

/-- The thread that `start` creates is the newcomer. -/
theorem create (balanced : Balanced config state) {left : Nat} (spawning : state.starter = .spawning left .create) :
    Balanced config { (spawnStep state .create).1 with
      starter := .spawning left (.register (state.threadIdCounter + 1)) } := by
  obtain ⟨positive, most⟩ := balanced.bounded left .create spawning
  have idle := balanced.idle
  have current := balanced.current
  have created := balanced.created
  rw [spawning] at idle current created
  simp only [StartPc.unidled, StartPc.uncounted, StartPc.created] at idle current created
  have born : (spawnStep state .create).1.tally WorkerPc.isBorn = state.tally WorkerPc.isBorn + 1 :=
    tally_spawnStep state .create
  have busy : (spawnStep state .create).1.tally WorkerPc.isBusy = state.tally WorkerPc.isBusy :=
    tally_spawnStep state .create
  refine ⟨?_, fun _ => ?_, ?_, ?_, ?_, ?_⟩
  · exact (Function.forall_update_iff state.worker fun _ pc => ∀ phase, pc ≠ .scaling phase).mpr
      ⟨by simp, fun other _ => balanced.unscaling other⟩
  · change (Function.update state.worker (state.threadIdCounter + 1) .waiting (state.threadIdCounter + 1)).isBorn =
        true ∧ (Function.update state.worker (state.threadIdCounter + 1) .waiting
          (state.threadIdCounter + 1)).isResting = true
    rw [Function.update_self]
    exact ⟨rfl, rfl⟩
  · change state.idleThreadSize + ((spawnStep state .create).1.tally WorkerPc.isBusy : Int) + (1 : Nat) =
      (spawnStep state .create).1.tally WorkerPc.isBorn
    rw [born, busy]
    omega
  · change state.curThreadSize + (1 : Nat) = ((spawnStep state .create).1.tally WorkerPc.isBorn : Int)
    rw [born]
    omega
  · change (spawnStep state .create).1.tally WorkerPc.isBorn = config.initThreadSize - (left - 1)
    rw [born]
    omega
  · intro left' phase' next
    cases next
    exact ⟨positive, most⟩

theorem startSpawn (balanced : Balanced config state) {left : Nat} {phase : Spawn}
    (spawning : state.starter = .spawning left phase) :
    Balanced config { (spawnStep state phase).1 with
      starter := StartPc.following left (spawnStep state phase).2 } := by
  have bounds := balanced.bounded left phase spawning
  have stays (phase : Spawn) : ∀ left' phase', StartPc.spawning left phase = .spawning left' phase' →
      1 ≤ left' ∧ left' ≤ config.initThreadSize := by
    intro left' phase' next
    cases next
    exact bounds
  have newcomer := balanced.newcomer
  have idle := balanced.idle
  have current := balanced.current
  have created := balanced.created
  rw [spawning] at newcomer idle current created
  cases phase with
  | create => exact balanced.create spawning
  | register tid => exact ⟨balanced.unscaling, newcomer, idle, current, created, stays _⟩
  | countCurrent =>
      refine ⟨balanced.unscaling, newcomer, idle, ?_, created, stays _⟩
      change state.curThreadSize + 1 + (0 : Nat) = (state.tally WorkerPc.isBorn : Int)
      simp only [StartPc.uncounted] at current
      omega
  | countIdle =>
      obtain ⟨lastCreated, _, lastUncounted⟩ := following_last config.initThreadSize left
      have lastUnidled := following_unidled left
      refine ⟨balanced.unscaling, ?_, ?_, ?_, created.trans lastCreated.symm, ?_⟩
      · intro waiting
        exact absurd (lastUnidled.symm.trans waiting) (by decide)
      · change state.idleThreadSize + 1 + state.tally WorkerPc.isBusy + (StartPc.following left none).unidled =
          (state.tally WorkerPc.isBorn : Int)
        rw [lastUnidled]
        simp only [StartPc.unidled] at idle
        omega
      · change state.curThreadSize + (StartPc.following left none).uncounted = (state.tally WorkerPc.isBorn : Int)
        rw [lastUncounted]
        exact current
      · intro left' phase' next
        simp only [spawnStep, StartPc.following, Option.elim_none] at next
        split at next
        · cases next
        · cases next
          omega

end Balanced

variable [DecidableEq κ]

theorem Transition.balanced {before after : State κ} {action : Action κ}
    (transition : Transition config kind before action after) (permitted : TakesOnceCounted before action)
    (owned : Owned before) (balanced : Balanced config before) : Balanced config after := by
  cases transition with
  | workerAcquire tid waiting | workerTimeout tid _ waiting =>
      have moved := balanced.setWorker owned tid .locked (by simp [waiting]) rfl (by simp) (.inl rfl)
        before.idleThreadSize (by rw [waiting]; rfl)
      exact { moved with }
  | workerReclaim tid _ _ _ _ _ surplus =>
      have most := balanced.current_le
      omega
  | workerLeave tid locked =>
      have moved := balanced.setWorker owned tid .exited (by simp [locked]) rfl (by simp) (.inl rfl)
        before.idleThreadSize (by rw [locked]; rfl)
      exact { moved with }
  | workerSkip tid locked =>
      have moved := balanced.setWorker owned tid .waiting (by simp [locked]) rfl (by simp) (.inl rfl)
        before.idleThreadSize (by rw [locked]; rfl)
      exact { moved with }
  | workerTake tid task rest locked queue =>
      have counted : before.starter.unidled = 1 → tid ≠ before.threadIdCounter := permitted (by simp [queue])
      have moved := balanced.setWorker owned tid (.running task) (by simp [locked]) rfl (by simp) (.inr counted)
        (before.idleThreadSize - 1) (by simp [locked, WorkerPc.isBusy])
      exact { moved with }
  | workerRun tid task running =>
      have counted := balanced.counted_of_active (show (before.worker tid).isResting = false by rw [running]; rfl)
      have moved := balanced.setWorker owned tid .ran (by simp [running]) rfl (by simp) (.inr counted)
        before.idleThreadSize (by rw [running]; rfl)
      exact { moved with }
  | workerSettle tid ran =>
      have counted := balanced.counted_of_active (show (before.worker tid).isResting = false by rw [ran]; rfl)
      refine balanced.setWorker owned tid _ (by simp [ran]) ?_ ?_ (.inr counted) (before.idleThreadSize + 1) ?_
      · split <;> rfl
      · intro phase
        split <;> simp
      · rw [ran]
        split <;> simp [WorkerPc.isBusy]
  | workerScale tid checking none =>
      -- The worker that looks is counted, so it would be idle itself.
      have counted := balanced.counted_of_active (show (before.worker tid).isResting = false by rw [checking]; rfl)
      have positive := balanced.idle_pos owned (by rw [checking]; rfl) (by rw [checking]; rfl) counted
      omega
  | workerNoScale tid checking =>
      exact balanced.setWorker owned tid .waiting (by simp [checking]) rfl (by simp) (.inl rfl)
        before.idleThreadSize (by rw [checking]; rfl)
  | workerSpawn tid phase scaling => exact absurd scaling (balanced.unscaling tid phase)
  | callEnter | callNotRunning | callAcquire | callTimeout | callCheck | callStopped | callPush =>
      exact { balanced with }
  | startCall =>
      have first : before.starter = .idle := permitted
      exact balanced.startCall first
  | startSpawn left phase spawning => exact balanced.startSpawn spawning
  | stopCall | stopSync | stopJoin | stopClear => exact { balanced with }

theorem balanced_of_reachable {state : State κ}
    (reached : (pool config kind).ReachableBy TakesOnceCounted state) : Balanced config state := by
  refine invariant_of_transitions reached ?_ ?_
  · exact ⟨by simp [pool], by simp [pool, StartPc.unidled], rfl, rfl, rfl, by simp [pool]⟩
  · intro before action after transition permitted owned balanced
    exact transition.balanced permitted owned balanced

/-- In either mode the counters are sound in every state of a run that starts
the pool once and in which no thread takes a task before `start` has counted
it. -/
theorem thread_counters_sound (config : Config) (kind : κ → CallKind) (state : State κ)
    (fits : config.initThreadSize ≤ config.threadSizeThreadHold)
    (reached : (pool config kind).ReachableBy TakesOnceCounted state) : SoundCounters config state :=
  (balanced_of_reachable reached).sound fits

/-- The only thread of a CACHE pool runs a task. -/
theorem busy_cache_counters_sound :
    ∃ state, (pool (single .cache) fun _ : Fin 1 => .submit).ReachableBy TakesOnceCounted state ∧
      state.worker 1 = .running 0 ∧ state.size = 1 ∧ state.idle = 0 ∧ SoundCounters (single .cache) state := by
  obtain ⟨state, reached, running, size, idle⟩ :=
    (pool (single .cache) fun _ : Fin 1 => .submit).reachableBy_of_any TakesOnceCounted
      (fun state => state.worker 1 = .running 0 ∧ state.size = 1 ∧ state.idle = 0)
      (startSingle ++ [.call 0 .enter, .call 0 .acquire, .call 0 .check, .call 0 .push, .worker 1 .acquire,
        .worker 1 .decide]) (by decide)
  exact ⟨state, reached, running, size, idle,
    thread_counters_sound (single .cache) (fun _ => .submit) state (by decide) reached⟩

/-- One thread at most, in CACHE mode. -/
def tight : Config where
  mode := .cache
  initThreadSize := 1
  taskQueMaxThreshold := 2
  threadSizeThreadHold := 1

/-- `start` creates its thread, which takes a task before it is counted, so that
`idle()` answers the largest `size_t`.  If a second task waits when the thread is
done with the first, it adds a thread, and with both counted there is one more
than the maximum. -/
theorem uncounted_thread_breaks_counters :
    (∃ state, (pool tight fun _ : Nat => .submit).ReachableBy SubmitPolicy.anytime.Allows state ∧
        state.idleThreadSize = -1 ∧ state.idle = 18446744073709551615 ∧ ¬ 0 ≤ state.idleThreadSize) ∧
      ∃ state, (pool tight fun _ : Nat => .submit).ReachableBy SubmitPolicy.anytime.Allows state ∧
        state.starter = .returned ∧ ¬ state.curThreadSize ≤ tight.threadSizeThreadHold := by
  constructor
  · exact (pool tight fun _ : Nat => .submit).reachableBy_of_any SubmitPolicy.anytime.Allows
      (fun state => state.idleThreadSize = -1 ∧ state.idle = 18446744073709551615 ∧ ¬ 0 ≤ state.idleThreadSize)
      [.start .call, .start .spawn, .call 0 .enter, .call 0 .acquire, .call 0 .check, .call 0 .push,
        .worker 1 .acquire, .worker 1 .decide] (by decide)
  · obtain ⟨state, reached, returned, grown⟩ :=
      @overlap_grows tight (fun _ => .submit) rfl (by decide) (by decide) (by decide)
    exact ⟨state, reached, returned, Int.not_le.mpr grown⟩

end TaskHive.ThreadPool
