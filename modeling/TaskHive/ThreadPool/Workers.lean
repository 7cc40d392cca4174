import TaskHive.Tally
import TaskHive.ThreadPool.Mutex

namespace TaskHive.ThreadPool

variable {κ : Type} {config : Config} {kind : κ → CallKind}

/-! # How many workers a running pool has

Idle reclamation trusts `curThreadSize_`, which `stop` does not reset.  The
counter bounds the live threads from below until the pool is started a second
time. -/

/-- Over all threads created so far. -/
def State.tally (state : State κ) (property : WorkerPc κ → Bool) : Nat :=
  TaskHive.tally property state.worker (state.threadIdCounter + 1)

/-- The thread exists and has not left `workerLoop`. -/
def WorkerPc.isLive : WorkerPc κ → Bool
  | .unborn | .exited => false
  | _ => true

def State.live (state : State κ) : Nat := state.tally WorkerPc.isLive

section Counting

variable {property : WorkerPc κ → Bool} {state : State κ} {tid : Nat}

theorem Owned.tally_setWorker (owned : Owned state) (born : state.worker tid ≠ .unborn) (pc : WorkerPc κ) :
    (state.setWorker tid pc).tally property + (property (state.worker tid)).toNat =
      state.tally property + (property pc).toNat := by
  have inside : tid < state.threadIdCounter + 1 := by
    by_contra above
    exact born (owned.fresh tid (by omega))
  exact tally_update inside pc

theorem tally_setWorker_same {pc : WorkerPc κ} (same : property pc = property (state.worker tid)) :
    (state.setWorker tid pc).tally property = state.tally property :=
  tally_update_same same _

/-- Only the first phase of adding a thread changes the workers. -/
theorem tally_spawnStep (state : State κ) (phase : Spawn) :
    (spawnStep state phase).1.tally property =
      state.tally property + if phase = .create then (property .waiting).toNat else 0 := by
  cases phase with
  | create => exact tally_update_next property state.worker (state.threadIdCounter + 1) .waiting
  | register | countCurrent | countIdle => rfl

@[simp] theorem running_spawnStep (state : State κ) (phase : Spawn) :
    (spawnStep state phase).1.running = state.running := by
  cases phase <;> rfl

@[simp] theorem starter_spawnStep (state : State κ) (phase : Spawn) :
    (spawnStep state phase).1.starter = state.starter := by
  cases phase <;> rfl

@[simp] theorem State.setWorker_running (state : State κ) (tid : Nat) (pc : WorkerPc κ) :
    (state.setWorker tid pc).running = state.running := rfl

@[simp] theorem State.setWorker_starter (state : State κ) (tid : Nat) (pc : WorkerPc κ) :
    (state.setWorker tid pc).starter = state.starter := rfl

/-- A worker that adds a thread moves to its next phase. -/
theorem Owned.tally_spawn (owned : Owned state) {phase : Spawn} (scaling : state.worker tid = .scaling phase)
    (property : WorkerPc κ → Bool) (pc : WorkerPc κ) :
    ((ThreadPool.spawnStep state phase).1.setWorker tid pc).tally property +
        (property (.scaling phase)).toNat =
      state.tally property + (if phase = .create then (property .waiting).toNat else 0) +
        (property pc).toNat := by
  have kept := owned.spawnStep_worker phase (show state.worker tid ≠ .unborn by simp [scaling])
  rw [scaling] at kept
  have moved := @Owned.tally_setWorker κ property _ tid (owned.spawnStep phase) (by simp [kept]) pc
  rw [kept, tally_spawnStep] at moved
  exact moved

end Counting

/-! ## How far `start` has come -/

/-- The threads that `start` has created. -/
def StartPc.created (size : Nat) : StartPc → Nat
  | .idle => 0
  | .spawning left .create => size - left
  | .spawning left _ => size - (left - 1)
  | .returned => size

/-- Those of them that are in `curThreadSize_`. -/
def StartPc.counted (size : Nat) : StartPc → Nat
  | .idle => 0
  | .spawning left .countIdle => size - (left - 1)
  | .spawning left _ => size - left
  | .returned => size

/-- Whether the last of them is not. -/
def StartPc.uncounted : StartPc → Nat
  | .spawning _ (.register _) | .spawning _ .countCurrent => 1
  | _ => 0

/-- The starter when the call begins. -/
def StartPc.called (size : Nat) : StartPc := if size = 0 then .returned else .spawning size .create

theorem called_zero (size : Nat) :
    (StartPc.called size).created size = 0 ∧ (StartPc.called size).counted size = 0 ∧
      (StartPc.called size).uncounted = 0 ∧ StartPc.called size ≠ .idle := by
  unfold StartPc.called
  by_cases none : size = 0 <;> simp [none, StartPc.created, StartPc.counted, StartPc.uncounted]

/-- The starter after one phase. -/
def StartPc.following (left : Nat) (next : Option Spawn) : StartPc :=
  next.elim (if left ≤ 1 then .returned else .spawning (left - 1) .create) (.spawning left)

theorem following_last (size left : Nat) :
    (StartPc.following left none).created size = size - (left - 1) ∧
      (StartPc.following left none).counted size = size - (left - 1) ∧
      (StartPc.following left none).uncounted = 0 := by
  unfold StartPc.following
  by_cases last : left ≤ 1
  · have zero : left - 1 = 0 := by omega
    simp [last, zero, StartPc.created, StartPc.counted, StartPc.uncounted]
  · simp [last, StartPc.created, StartPc.counted, StartPc.uncounted]

theorem counted_le (size : Nat) (starter : StartPc) : starter.counted size ≤ size := by
  unfold StartPc.counted
  split <;> omega

/-! ## What holds while the pool runs -/

/-- No worker leaves a running pool in FIXED mode, so the threads of the last
`start` are there. -/
def KeepsCreated (config : Config) (state : State κ) : Prop :=
  state.running = true → state.starter.created config.initThreadSize ≤ state.live

/-- The thread is live, and `curThreadSize_` has been raised for it and for the
thread that it may have created. -/
def WorkerPc.isCounted : WorkerPc κ → Bool
  | .unborn | .exited | .scaling (.register _) | .scaling .countCurrent => false
  | _ => true

/-- In the first life of a running pool, the counter is the number of threads
that have been counted. -/
structure Counted (config : Config) (state : State κ) : Prop where
  unstarted : state.starter = .idle →
    state.running = false ∧ state.curThreadSize = 0 ∧ ∀ tid, state.worker tid = .unborn
  balanced : state.running = true →
    (state.tally WorkerPc.isCounted : Int) = state.curThreadSize + state.starter.uncounted
  enough : state.running = true →
    (state.starter.counted config.initThreadSize : Int) ≤ state.curThreadSize

theorem Counted.live {state : State κ} (counted : Counted config state) (running : state.running = true)
    (returned : state.starter = .returned) : config.initThreadSize ≤ state.live := by
  have balanced := counted.balanced running
  have enough := counted.enough running
  rw [returned] at balanced enough
  have more : state.tally WorkerPc.isCounted ≤ state.live :=
    tally_le_tally (fun pc counts => by cases pc <;> first | rfl | cases counts) _ _
  simp only [StartPc.uncounted, StartPc.counted] at balanced enough
  omega

theorem Counted.setWorker {state : State κ} (counted : Counted config state) {tid : Nat} {pc : WorkerPc κ}
    (born : state.worker tid ≠ .unborn) (same : pc.isCounted = (state.worker tid).isCounted) :
    Counted config (state.setWorker tid pc) where
  unstarted idle := absurd ((counted.unstarted idle).2.2 tid) born
  balanced running := by
    rw [tally_setWorker_same same]
    exact counted.balanced running
  enough := counted.enough

/-- A thread is reclaimed only while the counter is above the initial size. -/
theorem Counted.reclaim {state : State κ} (counted : Counted config state) (owned : Owned state) {tid : Nat}
    (waiting : state.worker tid = .waiting) (running : state.running = true)
    (surplus : config.initThreadSize < state.curThreadSize) (idleThreadSize : Int) :
    Counted config { state.setWorker tid .exited with
      curThreadSize := state.curThreadSize - 1, idleThreadSize } where
  unstarted idle := by
    have stopped := (counted.unstarted idle).1
    rw [running] at stopped
    cases stopped
  balanced _ := by
    have moved := @Owned.tally_setWorker κ WorkerPc.isCounted state tid owned (by simp [waiting]) .exited
    rw [waiting] at moved
    have before := counted.balanced running
    have fewer : (state.setWorker tid .exited).tally WorkerPc.isCounted + 1 = state.tally WorkerPc.isCounted := moved
    change ((state.setWorker tid .exited).tally WorkerPc.isCounted : Int) =
      state.curThreadSize - 1 + state.starter.uncounted
    omega
  enough _ := by
    have most := counted_le config.initThreadSize state.starter
    change (state.starter.counted config.initThreadSize : Int) ≤ state.curThreadSize - 1
    omega

theorem Counted.startSpawn {state : State κ} (counted : Counted config state) {left : Nat} {phase : Spawn}
    (spawning : state.starter = .spawning left phase) :
    Counted config { (spawnStep state phase).1 with
      starter := StartPc.following left (spawnStep state phase).2 } := by
  have grown := @tally_spawnStep κ WorkerPc.isCounted state phase
  obtain ⟨_, lastCounted, lastUncounted⟩ := following_last config.initThreadSize left
  refine ⟨?_, ?_, ?_⟩
  · intro idle
    cases phase with
    | create | register | countCurrent => cases idle
    | countIdle =>
        simp only [spawnStep, StartPc.following, Option.elim_none] at idle
        split at idle <;> cases idle
  · intro running
    have balanced := counted.balanced (by simpa using running)
    rw [spawning] at balanced
    cases phase with
    | create =>
        have more : (spawnStep state .create).1.tally WorkerPc.isCounted =
          state.tally WorkerPc.isCounted + 1 := grown
        change ((spawnStep state .create).1.tally WorkerPc.isCounted : Int) = state.curThreadSize + (1 : Nat)
        simp only [StartPc.uncounted] at balanced
        omega
    | register tid => exact balanced
    | countCurrent =>
        change (state.tally WorkerPc.isCounted : Int) = state.curThreadSize + 1 + (0 : Nat)
        simp only [StartPc.uncounted] at balanced
        omega
    | countIdle =>
        change (state.tally WorkerPc.isCounted : Int) =
          state.curThreadSize + (StartPc.following left none).uncounted
        rw [lastUncounted]
        exact balanced
  · intro running
    have enough := counted.enough (by simpa using running)
    rw [spawning] at enough
    cases phase with
    | create | register => exact enough
    | countCurrent =>
        change ((config.initThreadSize - (left - 1) : Nat) : Int) ≤ state.curThreadSize + 1
        simp only [StartPc.counted] at enough
        omega
    | countIdle =>
        change ((StartPc.following left none).counted config.initThreadSize : Int) ≤ state.curThreadSize
        rw [lastCounted]
        exact enough

/-- The thread that a worker adds is counted when its phase says so. -/
theorem Counted.workerSpawn {state : State κ} (counted : Counted config state) (owned : Owned state) {tid : Nat}
    {phase : Spawn} (scaling : state.worker tid = .scaling phase) :
    Counted config ((spawnStep state phase).1.setWorker tid
      ((spawnStep state phase).2.elim .waiting .scaling)) := by
  have moved := owned.tally_spawn scaling WorkerPc.isCounted ((spawnStep state phase).2.elim .waiting .scaling)
  refine ⟨?_, ?_, ?_⟩
  · intro idle
    have unborn := (counted.unstarted (by simpa using idle)).2.2 tid
    rw [scaling] at unborn
    cases unborn
  · intro running
    have balanced := counted.balanced (by simpa using running)
    cases phase with
    | create | register | countIdle =>
        rw [Nat.add_right_cancel moved]
        exact balanced
    | countCurrent =>
        have more : ((spawnStep state .countCurrent).1.setWorker tid (.scaling .countIdle)).tally
          WorkerPc.isCounted = state.tally WorkerPc.isCounted + 1 := moved
        change (((spawnStep state .countCurrent).1.setWorker tid (.scaling .countIdle)).tally
          WorkerPc.isCounted : Int) = state.curThreadSize + 1 + state.starter.uncounted
        omega
  · intro running
    have enough := counted.enough (by simpa using running)
    cases phase with
    | create | register | countIdle => exact enough
    | countCurrent => exact enough.trans (Int.le_add_one (Int.le_refl _))

/-! ## Every step -/

variable [DecidableEq κ]

theorem Transition.keepsCreated {before after : State κ} {action : Action κ}
    (transition : Transition config kind before action after) (fixed : config.mode = .fixed)
    (owned : Owned before) (keeps : KeepsCreated config before) : KeepsCreated config after := by
  cases transition with
  | workerAcquire tid waiting =>
      exact fun running => (keeps running).trans_eq (tally_setWorker_same (by rw [waiting]; rfl)).symm
  | workerReclaim _ cache | workerTimeout _ cache => simp [fixed] at cache
  | workerLeave _ _ _ stopped =>
      intro running
      rw [show before.running = true from running] at stopped
      cases stopped
  | workerSkip tid locked | workerTake tid _ _ locked =>
      exact fun running => (keeps running).trans_eq (tally_setWorker_same (by rw [locked]; rfl)).symm
  | workerRun tid task ran =>
      exact fun running => (keeps running).trans_eq (tally_setWorker_same (by rw [ran]; rfl)).symm
  | workerSettle tid ran =>
      exact fun running => (keeps running).trans_eq
        (tally_setWorker_same (by rw [ran, if_neg (by simp [fixed])]; rfl)).symm
  | workerScale tid checking | workerNoScale tid checking =>
      exact fun running => (keeps running).trans_eq (tally_setWorker_same (by rw [checking]; rfl)).symm
  | workerSpawn tid phase scaling =>
      intro running
      have moved := owned.tally_spawn scaling WorkerPc.isLive ((spawnStep before phase).2.elim .waiting .scaling)
      have stays : WorkerPc.isLive ((spawnStep before phase).2.elim .waiting .scaling : WorkerPc κ) = true := by
        cases phase <;> rfl
      have enough := keeps (by simpa using running)
      simp only [stays, show WorkerPc.isLive (.scaling phase : WorkerPc κ) = true from rfl] at moved
      simp only [State.live, State.setWorker_starter, starter_spawnStep] at enough ⊢
      omega
  | callEnter | callNotRunning | callAcquire | callTimeout | callCheck | callStopped | callPush => exact keeps
  | startCall =>
      intro _
      exact (called_zero config.initThreadSize).1.trans_le (Nat.zero_le _)
  | startSpawn left phase spawning =>
      intro running
      have enough := keeps (by simpa using running)
      have grown := @tally_spawnStep κ WorkerPc.isLive before phase
      rw [spawning] at enough
      have last := (following_last config.initThreadSize left).1
      refine Nat.le_trans ?_ (Nat.le_of_eq grown.symm)
      cases phase with
      | create =>
          have next : config.initThreadSize - (left - 1) ≤ config.initThreadSize - left + 1 := by omega
          exact next.trans (Nat.succ_le_succ enough)
      | register | countCurrent => exact enough
      | countIdle => exact last.trans_le enough
  | stopCall => exact nofun
  | stopSync | stopJoin | stopClear => exact keeps

theorem Transition.counted {before after : State κ} {action : Action κ}
    (transition : Transition config kind before action after) (cache : config.mode = .cache)
    (first : action = .start .call → before.starter = .idle) (owned : Owned before)
    (counted : Counted config before) : Counted config after := by
  cases transition with
  | workerAcquire tid waiting | workerTimeout tid _ waiting =>
      exact { counted.setWorker (by simp [waiting]) (by rw [waiting]; rfl) with }
  | workerReclaim tid _ waiting _ _ running surplus => exact counted.reclaim owned waiting running surplus _
  | workerLeave tid locked _ stopped =>
      refine ⟨?_, by simp [stopped], by simp [stopped]⟩
      intro idle
      exact absurd ((counted.unstarted idle).2.2 tid) (by simp [locked])
  | workerSkip tid locked | workerTake tid _ _ locked =>
      exact { counted.setWorker (by simp [locked]) (by rw [locked]; rfl) with }
  | workerRun tid task running =>
      exact { counted.setWorker (by simp [running]) (by rw [running]; rfl) with }
  | workerSettle tid ran =>
      exact { counted.setWorker (by simp [ran]) (by rw [ran, if_pos cache]; rfl) with }
  | workerScale tid checking | workerNoScale tid checking =>
      exact counted.setWorker (by simp [checking]) (by rw [checking]; rfl)
  | workerSpawn tid phase scaling => exact counted.workerSpawn owned scaling
  | callEnter | callNotRunning | callAcquire | callTimeout | callCheck | callStopped | callPush =>
      exact { counted with }
  | startCall =>
      obtain ⟨_, zero, unborn⟩ := counted.unstarted (first rfl)
      have empty : before.tally WorkerPc.isCounted = 0 :=
        tally_eq_zero (fun tid => by rw [unborn tid]; rfl) _
      obtain ⟨_, noneCounted, noneUncounted, begun⟩ := called_zero config.initThreadSize
      refine ⟨fun idle => absurd idle begun, fun _ => ?_, fun _ => ?_⟩
      · change (before.tally WorkerPc.isCounted : Int) =
          before.curThreadSize + (StartPc.called config.initThreadSize).uncounted
        rw [empty, zero, noneUncounted]
        rfl
      · change ((StartPc.called config.initThreadSize).counted config.initThreadSize : Int) ≤ before.curThreadSize
        rw [noneCounted, zero]
        exact Int.le_refl 0
  | startSpawn left phase spawning => exact counted.startSpawn spawning
  | stopCall => exact ⟨fun idle => ⟨rfl, (counted.unstarted idle).2⟩, nofun, nofun⟩
  | stopSync | stopJoin | stopClear => exact { counted with }

/-! ## Whole runs -/

/-- In CACHE mode the pool is started once. -/
def NoCacheRestart (config : Config) (state : State κ) : Action κ → Prop
  | .start .call => config.mode = .fixed ∨ state.starter = .idle
  | _ => True

instance (config : Config) (state : State κ) : (action : Action κ) → Decidable (NoCacheRestart config state action)
  | .start .call => inferInstanceAs (Decidable (config.mode = .fixed ∨ state.starter = .idle))
  | .start .spawn | .worker _ _ | .call _ _ | .stop _ => inferInstanceAs (Decidable True)

/-- At least the initial number of workers is live while the pool runs. -/
def FullyStaffed (config : Config) (state : State κ) : Prop :=
  state.running = true → state.starter = .returned → config.initThreadSize ≤ state.live

instance (config : Config) : DecidablePred (FullyStaffed (κ := κ) config) :=
  fun _ => inferInstanceAs (Decidable (_ → _ → _))

structure Manned (config : Config) (state : State κ) : Prop where
  owned : Owned state
  fixed : config.mode = .fixed → KeepsCreated config state
  cache : config.mode = .cache → Counted config state

omit [DecidableEq κ] in
theorem Manned.fullyStaffed {state : State κ} (manned : Manned config state) : FullyStaffed config state := by
  intro running returned
  cases mode : config.mode with
  | fixed =>
      have enough := manned.fixed mode running
      rwa [returned] at enough
  | cache => exact (manned.cache mode).live running returned

/-- A pool of either mode keeps its initial number of workers while it runs, as
long as a CACHE pool is started once. -/
theorem running_pool_fully_staffed (config : Config) (kind : κ → CallKind) {state : State κ}
    (reached : (pool config kind).ReachableBy (NoCacheRestart config) state) : FullyStaffed config state := by
  have manned : Manned config state := by
    refine reached.invariant ?_ ?_
    · exact ⟨owned_init, fun _ => nofun, fun _ => ⟨fun _ => ⟨rfl, rfl, fun _ => rfl⟩, nofun, nofun⟩⟩
    · intro before action after manned permitted stepped
      have transition := poolStep_transition stepped
      refine ⟨transition.owned manned.owned, fun fixed => ?_, fun cache => ?_⟩
      · exact transition.keepsCreated fixed manned.owned (manned.fixed fixed)
      · refine transition.counted cache ?_ manned.owned (manned.cache cache)
        rintro rfl
        rcases permitted with fixed | first
        · rw [cache] at fixed
          cases fixed
        · exact first
  exact manned.fullyStaffed

/-- One thread in the given mode. -/
def single (mode : Mode) : Config where
  mode
  initThreadSize := 1
  taskQueMaxThreshold := 1
  threadSizeThreadHold := 4

/-- The four phases of the one thread of `start`. -/
def startSingle : List (Action (Fin 1)) :=
  [.start .call, .start .spawn, .start .spawn, .start .spawn, .start .spawn]

/-- `stop` with the worker `tid` asleep. -/
def stopSingle (tid : Nat) : List (Action (Fin 1)) :=
  [.stop .call, .stop .sync, .worker tid .acquire, .worker tid .decide, .stop .join, .stop .clear]

/-- A FIXED pool that was stopped and started again. -/
theorem restarted_fixed_pool_staffed :
    ∃ state, (pool (single .fixed) fun _ : Fin 1 => .submit).ReachableBy (NoCacheRestart (single .fixed)) state ∧
      state.running = true ∧ state.starter = .returned ∧ state.threadIdCounter = 2 ∧ state.live = 1 ∧
      FullyStaffed (single .fixed) state := by
  obtain ⟨state, reached, running, returned, created, live⟩ :=
    (pool (single .fixed) fun _ : Fin 1 => .submit).reachableBy_of_any (NoCacheRestart (single .fixed))
      (fun state => state.running = true ∧ state.starter = .returned ∧ state.threadIdCounter = 2 ∧ state.live = 1)
      (startSingle ++ stopSingle 1 ++ startSingle) (by decide)
  exact ⟨state, reached, running, returned, created, live, running_pool_fully_staffed _ _ reached⟩

/-- The same in CACHE mode.  After the second `start` the counter is two, so
the idle timeout reclaims the only worker. -/
theorem restarted_cache_pool_unstaffed :
    ∃ state, (pool (single .cache) fun _ : Fin 1 => .submit).Reachable state ∧
      state.running = true ∧ state.starter = .returned ∧ state.curThreadSize = 1 ∧ state.live = 0 ∧
      ¬ FullyStaffed (single .cache) state :=
  (pool (single .cache) fun _ : Fin 1 => .submit).reachable_of_any
    (startSingle ++ stopSingle 1 ++ startSingle ++ [.worker 2 .timeout]) (by decide)

end TaskHive.ThreadPool
