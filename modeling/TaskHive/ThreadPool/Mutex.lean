import TaskHive.Exclusion
import TaskHive.ThreadPool.Transition

namespace TaskHive.ThreadPool

variable {κ : Type} [DecidableEq κ] {config : Config} {kind : κ → CallKind}

/-! # Ownership of `taskQueMtx_`

In every mode, exactly the thread or call that is inside a critical section
owns the mutex. -/

def CallPc.owns : CallPc → Bool
  | .locked | .checked => true
  | _ => false

def MutexOwned (mutex : Option (Owner κ)) (worker : Nat → WorkerPc κ) (call : κ → CallPc) : Prop :=
  (∀ tid, worker tid = .locked ↔ mutex = some (.worker tid)) ∧
    ∀ caller, (call caller).owns = true ↔ mutex = some (.call caller)

def WorkerPc.owns : WorkerPc κ → Bool
  | .locked => true
  | _ => false

omit [DecidableEq κ] in
theorem WorkerPc.owns_iff (pc : WorkerPc κ) : pc.owns = true ↔ pc = .locked := by
  cases pc <;> simp [owns]

omit [DecidableEq κ] in
theorem WorkerPc.owns_eq_false {pc : WorkerPc κ} (outside : pc ≠ .locked) : pc.owns = false :=
  Bool.eq_false_iff.mpr (mt pc.owns_iff.mp outside)

/-- The threads and calls that are in a critical section. -/
def inside (worker : Nat → WorkerPc κ) (call : κ → CallPc) : Owner κ → Bool
  | .worker tid => (worker tid).owns
  | .call caller => (call caller).owns

theorem inside_updateWorker (worker : Nat → WorkerPc κ) (call : κ → CallPc) (tid : Nat) (pc : WorkerPc κ) :
    inside (Function.update worker tid pc) call = Function.update (inside worker call) (.worker tid) pc.owns := by
  funext agent
  cases agent with
  | call caller => simp [inside]
  | worker other =>
      by_cases same : other = tid
      · subst other
        simp [inside]
      · simp [inside, same]

theorem inside_updateCall (worker : Nat → WorkerPc κ) (call : κ → CallPc) (caller : κ) (pc : CallPc) :
    inside worker (Function.update call caller pc) = Function.update (inside worker call) (.call caller) pc.owns := by
  funext agent
  cases agent with
  | worker tid => simp [inside]
  | call other =>
      by_cases same : other = caller
      · subst other
        simp [inside]
      · simp [inside, same]

namespace MutexOwned

variable {mutex : Option (Owner κ)} {worker : Nat → WorkerPc κ} {call : κ → CallPc} {tid : Nat} {caller : κ}

omit [DecidableEq κ] in
theorem iff_exclusive : MutexOwned mutex worker call ↔ Exclusive mutex (inside worker call) := by
  constructor
  · intro owned agent
    cases agent with
    | worker tid => exact (worker tid).owns_iff.trans (owned.1 tid)
    | call caller => exact owned.2 caller
  · intro exclusive
    refine ⟨fun tid => ?_, fun caller => exclusive (.call caller)⟩
    exact (worker tid).owns_iff.symm.trans (exclusive (.worker tid))

theorem setWorker (owned : MutexOwned mutex worker call) (outside : worker tid ≠ .locked)
    {pc : WorkerPc κ} (stays : pc ≠ .locked) : MutexOwned mutex (Function.update worker tid pc) call := by
  rw [iff_exclusive] at owned ⊢
  rw [inside_updateWorker, WorkerPc.owns_eq_false stays]
  exact owned.keep (WorkerPc.owns_eq_false outside).symm

theorem acquireWorker (owned : MutexOwned none worker call) :
    MutexOwned (some (.worker tid)) (Function.update worker tid .locked) call := by
  rw [iff_exclusive] at owned ⊢
  rw [inside_updateWorker]
  exact owned.acquire (.worker tid)

theorem releaseWorker (owned : MutexOwned mutex worker call) (inside : worker tid = .locked)
    {pc : WorkerPc κ} (leaves : pc ≠ .locked) : MutexOwned none (Function.update worker tid pc) call := by
  rw [iff_exclusive] at owned ⊢
  rw [inside_updateWorker, WorkerPc.owns_eq_false leaves]
  exact owned.release ((worker tid).owns_iff.mpr inside)

theorem setCall (owned : MutexOwned mutex worker call) {pc : CallPc} (same : pc.owns = (call caller).owns) :
    MutexOwned mutex worker (Function.update call caller pc) := by
  rw [iff_exclusive] at owned ⊢
  rw [inside_updateCall]
  exact owned.keep same

theorem acquireCall (owned : MutexOwned none worker call) {pc : CallPc} (inside : pc.owns = true) :
    MutexOwned (some (.call caller)) worker (Function.update call caller pc) := by
  rw [iff_exclusive] at owned ⊢
  rw [inside_updateCall, inside]
  exact owned.acquire (.call caller)

theorem releaseCall (owned : MutexOwned mutex worker call) (inside : (call caller).owns = true)
    {pc : CallPc} (leaves : pc.owns = false) : MutexOwned none worker (Function.update call caller pc) := by
  rw [iff_exclusive] at owned ⊢
  rw [inside_updateCall, leaves]
  exact owned.release inside

end MutexOwned

/-- Numbers above the counter belong to no thread yet. -/
structure Owned (state : State κ) : Prop where
  mutex : MutexOwned state.mutex state.worker state.call
  fresh : ∀ tid, state.threadIdCounter < tid → state.worker tid = .unborn

omit [DecidableEq κ] in
theorem Owned.fresh_setWorker {state : State κ} (owned : Owned state) {tid : Nat}
    (born : state.worker tid ≠ .unborn) (pc : WorkerPc κ) :
    ∀ other, state.threadIdCounter < other → Function.update state.worker tid pc other = .unborn := by
  intro other above
  by_cases same : other = tid
  · subst other
    exact absurd (owned.fresh tid above) born
  · rw [Function.update_of_ne same]
    exact owned.fresh other above

omit [DecidableEq κ] in
/-- A phase of adding a thread changes one worker at most: the new one. -/
theorem Owned.spawnStep {state : State κ} (owned : Owned state) (phase : Spawn) :
    Owned (spawnStep state phase).1 := by
  classical
  cases phase with
  | create =>
      have unborn := owned.fresh (state.threadIdCounter + 1) (Nat.lt_succ_self _)
      refine ⟨owned.mutex.setWorker (by simp [unborn]) (by simp), ?_⟩
      intro other above
      have different : other ≠ state.threadIdCounter + 1 := Nat.ne_of_gt above
      exact (Function.update_of_ne different _ _).trans (owned.fresh other (Nat.lt_of_succ_lt above))
  | register tid => exact ⟨owned.mutex, owned.fresh⟩
  | countCurrent => exact ⟨owned.mutex, owned.fresh⟩
  | countIdle => exact ⟨owned.mutex, owned.fresh⟩

omit [DecidableEq κ] in
/-- The thread that adds another one is not affected by it. -/
theorem Owned.spawnStep_worker {state : State κ} (owned : Owned state) (phase : Spawn) {tid : Nat}
    (born : state.worker tid ≠ .unborn) : (ThreadPool.spawnStep state phase).1.worker tid = state.worker tid := by
  cases phase with
  | create =>
      have different : tid ≠ state.threadIdCounter + 1 := by
        rintro rfl
        exact born (owned.fresh _ (Nat.lt_succ_self _))
      exact Function.update_of_ne different _ _
  | _ => rfl

theorem Transition.owned {before after : State κ} {action : Action κ}
    (transition : Transition config kind before action after) (owned : Owned before) : Owned after := by
  cases transition with
  | workerAcquire tid waiting free | workerTimeout tid _ waiting free =>
      refine ⟨?_, owned.fresh_setWorker (by simp [waiting]) _⟩
      exact MutexOwned.acquireWorker (free ▸ owned.mutex)
  | workerReclaim tid _ waiting =>
      exact ⟨owned.mutex.setWorker (by simp [waiting]) (by simp), owned.fresh_setWorker (by simp [waiting]) _⟩
  | workerLeave tid locked | workerSkip tid locked | workerTake tid _ _ locked =>
      exact ⟨owned.mutex.releaseWorker locked (by simp), owned.fresh_setWorker (by simp [locked]) _⟩
  | workerRun tid task running =>
      exact ⟨owned.mutex.setWorker (by simp [running]) (by simp), owned.fresh_setWorker (by simp [running]) _⟩
  | workerSettle tid ran =>
      refine ⟨owned.mutex.setWorker (by simp [ran]) ?_, owned.fresh_setWorker (by simp [ran]) _⟩
      split <;> simp
  | workerScale tid checking | workerNoScale tid checking =>
      exact ⟨owned.mutex.setWorker (by simp [checking]) (by simp), owned.fresh_setWorker (by simp [checking]) _⟩
  | workerSpawn tid phase scaling =>
      have spawned := owned.spawnStep phase
      have kept := owned.spawnStep_worker phase (show before.worker tid ≠ .unborn by simp [scaling])
      rw [scaling] at kept
      refine ⟨spawned.mutex.setWorker (by simp [kept]) ?_, spawned.fresh_setWorker (by simp [kept]) _⟩
      cases (spawnStep before phase).2 <;> simp
  | callEnter caller idle | callNotRunning caller idle =>
      exact ⟨owned.mutex.setCall (by simp [idle, CallPc.owns]), owned.fresh⟩
  | callAcquire caller entered free =>
      exact ⟨MutexOwned.acquireCall (free ▸ owned.mutex) rfl, owned.fresh⟩
  | callTimeout caller _ entered =>
      exact ⟨owned.mutex.setCall (by simp [entered, CallPc.owns]), owned.fresh⟩
  | callCheck caller locked =>
      exact ⟨owned.mutex.setCall (by simp [locked, CallPc.owns]), owned.fresh⟩
  | callStopped caller locked =>
      exact ⟨owned.mutex.releaseCall (by rw [locked]; rfl) rfl, owned.fresh⟩
  | callPush caller checked =>
      exact ⟨owned.mutex.releaseCall (by rw [checked]; rfl) rfl, owned.fresh⟩
  | startSpawn left phase => exact ⟨(owned.spawnStep phase).mutex, (owned.spawnStep phase).fresh⟩
  | startCall | stopCall | stopSync | stopJoin | stopClear => exact ⟨owned.mutex, owned.fresh⟩

theorem owned_init : Owned (pool config kind).init where
  mutex := by simp [MutexOwned, pool, CallPc.owns]
  fresh _ _ := rfl

/-- A property of every run, whose steps may rely on the ownership of the
mutex. -/
theorem invariant_of_transitions {allowed : State κ → Action κ → Prop} {property : State κ → Prop}
    {state : State κ} (reached : (pool config kind).ReachableBy allowed state)
    (initial : property (pool config kind).init)
    (preserved : ∀ before action after, Transition config kind before action after → allowed before action →
      Owned before → property before → property after) : property state := by
  have both : Owned state ∧ property state := by
    refine @Machine.ReachableBy.invariant _ _ _ _ (fun state => Owned state ∧ property state) _ reached
      ⟨owned_init, initial⟩ ?_
    intro before action after both permitted stepped
    obtain ⟨owned, holds⟩ := both
    have transition := poolStep_transition stepped
    exact ⟨transition.owned owned, preserved before action after transition permitted owned holds⟩
  exact both.2

theorem owned_of_reachable {allowed : State κ → Action κ → Prop} {state : State κ}
    (reached : (pool config kind).ReachableBy allowed state) : Owned state := by
  refine invariant_of_transitions reached owned_init ?_
  intro before action after transition _ _ owned
  exact transition.owned owned

end TaskHive.ThreadPool
