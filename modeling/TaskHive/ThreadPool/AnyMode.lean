import TaskHive.ThreadPool.Fixed
import TaskHive.ThreadPool.Workers

namespace TaskHive.ThreadPool

variable {κ : Type} {config : Config} {kind : κ → CallKind}

/-! # Every mode: an accepted task runs once, and `stop` drains

In CACHE mode workers come and go while the pool runs, so that a worker that has
left does not mean that the queue is empty.  What `stop` relies on is that some
worker is left when it clears the flag, and that from then on a worker leaves
only an empty queue. -/

/-- A live worker is registered, or is about to be: by `start`, or by the older
worker that has created it. -/
def Registered (worker : Nat → WorkerPc κ) (threads : List Nat) (starter : StartPc) : Prop :=
  ∀ tid, (worker tid).isLive = true → tid ∈ threads ∨ (∃ left, starter = .spawning left (.register tid)) ∨
    ∃ older < tid, worker older = .scaling (.register tid)

/-- Once `stop` has been called, there is a worker, or nothing to do for one. -/
def Attended (stopper : StopPc) (taskQue : List κ) (worker : Nat → WorkerPc κ) (call : κ → CallPc) : Prop :=
  stopper ≠ .idle → (∃ tid, (worker tid).isLive = true) ∨ taskQue = [] ∧ ∀ caller, call caller ≠ .checked

section Workers

variable {worker : Nat → WorkerPc κ} {threads : List Nat} {starter : StartPc} {tid : Nat} {pc : WorkerPc κ}

theorem Registered.setWorker (registered : Registered worker threads starter)
    (settled : ∀ young, worker tid ≠ .scaling (.register young))
    (live : pc.isLive = true → (worker tid).isLive = true) :
    Registered (Function.update worker tid pc) threads starter := by
  intro other alive
  have before : (worker other).isLive = true := by
    by_cases same : other = tid
    · subst other
      rw [Function.update_self] at alive
      exact live alive
    · rwa [Function.update_of_ne same] at alive
  rcases registered other before with member | spawning | ⟨older, less, scaling⟩
  · exact .inl member
  · exact .inr (.inl spawning)
  · refine .inr (.inr ⟨older, less, ?_⟩)
    have different : older ≠ tid := by
      rintro rfl
      exact settled other scaling
    rwa [Function.update_of_ne different]

/-- A new thread leaves the others as they are. -/
theorem Registered.create (registered : Registered worker threads starter) {counter : Nat}
    (fresh : ∀ tid, counter < tid → worker tid = .unborn) (other : tid ≠ counter + 1)
    (live : (Function.update worker (counter + 1) pc tid).isLive = true) :
    tid ∈ threads ∨ (∃ left, starter = .spawning left (.register tid)) ∨
      ∃ older < tid, Function.update worker (counter + 1) pc older = .scaling (.register tid) := by
  rw [Function.update_of_ne other] at live
  rcases registered tid live with member | spawning | ⟨older, less, scaling⟩
  · exact .inl member
  · exact .inr (.inl spawning)
  · refine .inr (.inr ⟨older, less, ?_⟩)
    have different : older ≠ counter + 1 := by
      rintro rfl
      rw [fresh _ (Nat.lt_succ_self counter)] at scaling
      cases scaling
    rwa [Function.update_of_ne different]

/-- A worker registers the thread that it has created. -/
theorem Registered.register {young : Nat} (registered : Registered worker threads starter)
    (scaling : worker tid = .scaling (.register young)) :
    Registered (Function.update worker tid pc) (threads ++ [young]) starter := by
  intro other alive
  have before : (worker other).isLive = true := by
    by_cases same : other = tid
    · subst other
      rw [scaling]
      rfl
    · rwa [Function.update_of_ne same] at alive
  rcases registered other before with member | spawning | ⟨older, less, creating⟩
  · exact .inl (List.mem_append_left _ member)
  · exact .inr (.inl spawning)
  · by_cases same : older = tid
    · subst older
      rw [scaling, WorkerPc.scaling.injEq, Spawn.register.injEq] at creating
      exact .inl (by simp [creating])
    · exact .inr (.inr ⟨older, less, by rwa [Function.update_of_ne same]⟩)

/-- When all registered threads have ended, all threads have: the oldest live
one would be registered. -/
theorem Registered.none_live (registered : Registered worker threads .returned)
    (ended : ∀ tid ∈ threads, worker tid = .exited) (tid : Nat) : (worker tid).isLive = false := by
  induction tid using Nat.strongRecOn with
  | ind tid ih =>
      by_contra live
      rcases registered tid (by simpa using live) with member | ⟨left, spawning⟩ | ⟨older, less, scaling⟩
      · simp [ended tid member, WorkerPc.isLive] at live
      · cases spawning
      · have dead := ih older less
        simp [scaling, WorkerPc.isLive] at dead

end Workers

/-! ## Every step -/

/-- The order of `start` and `stop` in one life of the pool. -/
structure Lifecycle (state : State κ) : Prop where
  unstarted : state.starter = .idle → state.stopper = .idle ∧ ∀ tid, state.worker tid = .unborn
  spawning : ∀ left phase, state.starter = .spawning left phase → state.stopper = .idle
  stopped : state.stopper ≠ .idle → state.running = false ∧ state.starter = .returned
  joined : state.stopper.joined = true → ∀ tid, (state.worker tid).isLive = false

section Steps

variable [DecidableEq κ] {before after : State κ} {action : Action κ}

theorem Transition.registered (transition : Transition config kind before action after) (owned : Owned before)
    (lifecycle : Lifecycle before) (permitted : OneLifecycle before action)
    (registered : Registered before.worker before.threads before.starter) :
    Registered after.worker after.threads after.starter := by
  cases transition with
  | workerAcquire tid waiting | workerTimeout tid _ waiting | workerReclaim tid _ waiting =>
      exact registered.setWorker (by simp [waiting]) (by simp [waiting, WorkerPc.isLive])
  | workerLeave tid locked | workerSkip tid locked | workerTake tid _ _ locked =>
      exact registered.setWorker (by simp [locked]) (by simp [locked, WorkerPc.isLive])
  | workerRun tid task running =>
      exact registered.setWorker (by simp [running]) (by simp [running, WorkerPc.isLive])
  | workerSettle tid ran => exact registered.setWorker (by simp [ran]) (by simp [ran, WorkerPc.isLive])
  | workerScale tid checking | workerNoScale tid checking =>
      exact registered.setWorker (by simp [checking]) (by simp [checking, WorkerPc.isLive])
  | workerSpawn tid phase scaling =>
      cases phase with
      | create =>
          have born : tid < before.threadIdCounter + 1 := by
            by_contra above
            rw [owned.fresh tid (by omega)] at scaling
            cases scaling
          have kept : Function.update before.worker (before.threadIdCounter + 1) .waiting tid = .scaling .create := by
            rw [Function.update_of_ne (Nat.ne_of_lt born), scaling]
          intro other live
          by_cases young : other = before.threadIdCounter + 1
          · subst other
            exact .inr (.inr ⟨tid, born, Function.update_self ..⟩)
          · have alive : (Function.update before.worker (before.threadIdCounter + 1) .waiting other).isLive = true := by
              by_cases same : other = tid
              · subst other
                rw [kept]
                rfl
              · rw [← live]
                exact congrArg WorkerPc.isLive (Function.update_of_ne same ..).symm
            rcases registered.create owned.fresh young alive with member | spawning | ⟨older, less, creating⟩
            · exact .inl member
            · exact .inr (.inl spawning)
            · refine .inr (.inr ⟨older, less, ?_⟩)
              have different : older ≠ tid := by
                rintro rfl
                rw [kept] at creating
                cases creating
              exact (Function.update_of_ne different ..).trans creating
      | register young => exact registered.register scaling
      | countCurrent | countIdle =>
          exact registered.setWorker (by simp [scaling]) (by simp [scaling, WorkerPc.isLive])
  | callEnter | callNotRunning | callAcquire | callTimeout | callCheck | callStopped | callPush | stopCall | stopSync
  | stopClear => exact registered
  | startCall =>
      intro tid live
      rw [show before.worker tid = .unborn from (lifecycle.unstarted permitted).2 tid] at live
      cases live
  | startSpawn left phase spawning =>
      rw [spawning] at registered
      cases phase with
      | create =>
          intro tid live
          by_cases young : tid = before.threadIdCounter + 1
          · exact .inr (.inl ⟨left, by rw [young]; rfl⟩)
          · rcases registered.create owned.fresh young live with member | ⟨_, same⟩ | older
            · exact .inl member
            · cases same
            · exact .inr (.inr older)
      | register young =>
          intro tid live
          rcases registered tid live with member | ⟨_, same⟩ | older
          · exact .inl (List.mem_append_left _ member)
          · cases same
            exact .inl (by simp [spawnStep])
          · exact .inr (.inr older)
      | countCurrent | countIdle =>
          intro tid live
          rcases registered tid live with member | ⟨_, same⟩ | older
          · exact .inl member
          · cases same
          · exact .inr (.inr older)
  | stopJoin joining ended =>
      obtain ⟨_, returned⟩ := lifecycle.stopped (by simp [joining])
      rw [returned] at registered
      intro tid live
      rw [show (before.worker tid).isLive = false from registered.none_live ended tid] at live
      cases live

omit [DecidableEq κ] in
/-- While a thread is live, `start` has been called and `stop` has not joined. -/
theorem Lifecycle.worker (lifecycle : Lifecycle before) {tid : Nat} (live : (before.worker tid).isLive = true)
    (starter : after.starter = before.starter) (stopper : after.stopper = before.stopper)
    (running : after.running = before.running) : Lifecycle after where
  unstarted idle := by
    rw [starter] at idle
    simp [(lifecycle.unstarted idle).2 tid, WorkerPc.isLive] at live
  spawning := by
    rw [starter, stopper]
    exact lifecycle.spawning
  stopped := by
    rw [starter, stopper, running]
    exact lifecycle.stopped
  joined gone := by
    rw [stopper] at gone
    simp [lifecycle.joined gone tid] at live

theorem Transition.live {tid : Nat} {work : WorkerAction}
    (transition : Transition config kind before (.worker tid work) after) :
    (before.worker tid).isLive = true ∧ after.starter = before.starter ∧ after.stopper = before.stopper ∧
      after.running = before.running := by
  cases transition with
  | workerAcquire _ waiting | workerTimeout _ _ waiting | workerReclaim _ _ waiting =>
      exact ⟨by rw [waiting]; rfl, rfl, rfl, rfl⟩
  | workerLeave _ locked | workerSkip _ locked | workerTake _ _ _ locked => exact ⟨by rw [locked]; rfl, rfl, rfl, rfl⟩
  | workerRun _ _ running => exact ⟨by rw [running]; rfl, rfl, rfl, rfl⟩
  | workerSettle _ ran => exact ⟨by rw [ran]; rfl, rfl, rfl, rfl⟩
  | workerScale _ checking | workerNoScale _ checking => exact ⟨by rw [checking]; rfl, rfl, rfl, rfl⟩
  | workerSpawn _ phase scaling =>
      refine ⟨by rw [scaling]; rfl, ?_⟩
      cases phase <;> exact ⟨rfl, rfl, rfl⟩

theorem Transition.lifecycle (transition : Transition config kind before action after)
    (permitted : OneLifecycle before action) (registered : Registered before.worker before.threads before.starter)
    (lifecycle : Lifecycle before) : Lifecycle after := by
  cases action with
  | worker tid work =>
      obtain ⟨live, starter, stopper, running⟩ := transition.live
      exact lifecycle.worker live starter stopper running
  | call caller work =>
      cases transition <;> exact ⟨lifecycle.unstarted, lifecycle.spawning, lifecycle.stopped, lifecycle.joined⟩
  | start work =>
      cases transition with
      | startCall stopped unoccupied =>
          obtain ⟨idle, unborn⟩ := lifecycle.unstarted permitted
          refine ⟨?_, fun _ _ _ => idle, fun begun => absurd idle begun, ?_⟩
          · intro same
            simp only at same
            split at same <;> cases same
          · intro gone
            simp [idle, StopPc.joined] at gone
      | startSpawn left phase spawning =>
          have idle : (spawnStep before phase).1.stopper = .idle := by
            rw [← lifecycle.spawning left phase spawning]
            cases phase <;> rfl
          refine ⟨?_, fun _ _ _ => idle, fun begun => absurd idle begun, ?_⟩
          · intro same
            cases phase with
            | countIdle =>
                simp only [spawnStep, Option.elim_none] at same
                split at same <;> cases same
            | _ => cases same
          · intro gone
            simp [idle, StopPc.joined] at gone
  | stop work =>
      cases transition with
      | stopCall running unoccupied =>
          have returned : before.starter = .returned := permitted
          exact ⟨by simp [returned], by simp [returned], fun _ => ⟨rfl, returned⟩, fun gone => by cases gone⟩
      | stopSync syncing free =>
          obtain ⟨stopped, returned⟩ := lifecycle.stopped (by simp [syncing])
          exact ⟨by simp [returned], by simp [returned], fun _ => ⟨stopped, returned⟩, fun gone => by cases gone⟩
      | stopJoin joining ended =>
          obtain ⟨stopped, returned⟩ := lifecycle.stopped (by simp [joining])
          rw [returned] at registered
          exact ⟨by simp [returned], by simp [returned], fun _ => ⟨stopped, returned⟩,
            fun _ => registered.none_live ended⟩
      | stopClear clearing free =>
          obtain ⟨stopped, returned⟩ := lifecycle.stopped (by simp [clearing])
          exact ⟨by simp [returned], by simp [returned], fun _ => ⟨stopped, returned⟩,
            fun _ => lifecycle.joined (by rw [clearing]; rfl)⟩

theorem Transition.attended (transition : Transition config kind before action after)
    (permitted : OneLifecycle before action) (nonempty : 1 ≤ config.initThreadSize) (manned : Manned config before)
    (lifecycle : Lifecycle before) (attended : Attended before.stopper before.taskQue before.worker before.call) :
    Attended after.stopper after.taskQue after.worker after.call := by
  have working {tid : Nat} {pc : WorkerPc κ} (live : pc.isLive = true) (stopper : StopPc) (taskQue : List κ)
      (worker : Nat → WorkerPc κ) : Attended stopper taskQue (Function.update worker tid pc) before.call :=
    fun _ => .inl ⟨tid, by rwa [Function.update_self]⟩
  have calling {caller : κ} {pc : CallPc} (unchecked : pc ≠ .checked) :
      Attended before.stopper before.taskQue before.worker (Function.update before.call caller pc) := by
    intro begun
    rcases attended begun with live | ⟨empty, quiet⟩
    · exact .inl live
    · refine .inr ⟨empty, ?_⟩
      exact (Function.forall_update_iff before.call fun _ pc => pc ≠ .checked).mpr
        ⟨unchecked, fun other _ => quiet other⟩
  cases transition with
  | workerAcquire | workerTimeout | workerSkip | workerTake | workerRun | workerScale | workerNoScale =>
      exact working rfl _ _ _
  | workerSettle =>
      refine working ?_ _ _ _
      split <;> rfl
  | workerSpawn tid phase =>
      cases phase <;> exact working rfl _ _ _
  | workerReclaim tid cache waiting free asleep running =>
      intro begun
      have stopped := (lifecycle.stopped begun).1
      simp [running] at stopped
  | workerLeave tid locked empty stopped =>
      -- the worker owns the mutex, so no call is inside
      intro _
      refine .inr ⟨empty, fun caller checked => ?_⟩
      have owner := (manned.owned.mutex.1 tid).mp locked
      have inside := (manned.owned.mutex.2 caller).mp (by rw [show before.call caller = .checked from checked]; rfl)
      rw [owner] at inside
      cases inside
  | callEnter | callNotRunning | callAcquire | callTimeout | callStopped => exact calling (by simp)
  | callCheck caller _ running =>
      intro begun
      have stopped := (lifecycle.stopped begun).1
      simp [running] at stopped
  | callPush caller checked =>
      intro begun
      rcases attended begun with live | ⟨_, quiet⟩
      · exact .inl live
      · exact absurd checked (quiet caller)
  | startCall =>
      intro begun
      exact absurd (lifecycle.unstarted permitted).1 begun
  | startSpawn left phase spawning =>
      intro begun
      have idle := lifecycle.spawning left phase spawning
      cases phase <;> exact absurd idle begun
  | stopCall running =>
      -- a running pool has its initial number of workers
      intro _
      have staffed := manned.fullyStaffed running permitted
      by_contra unattended
      have none : before.live = 0 := by
        refine tally_eq_zero (fun tid => ?_) _
        by_contra live
        exact unattended (.inl ⟨tid, by simpa using live⟩)
      omega
  | stopSync syncing => exact fun _ => attended (by simp [syncing])
  | stopJoin joining => exact fun _ => attended (by simp [joining])
  | stopClear clearing =>
      intro _
      rcases attended (by simp [clearing]) with live | ⟨_, quiet⟩
      · exact .inl live
      · exact .inr ⟨rfl, quiet⟩

theorem Transition.flows (transition : Transition config kind before action after) (owned : Owned before)
    (lifecycle : Lifecycle before) (attended : Attended before.stopper before.taskQue before.worker before.call)
    (flowing : before.Flowing) : after.Flowing := by
  cases transition with
  | workerAcquire tid waiting | workerTimeout tid _ waiting | workerReclaim tid _ waiting =>
      exact Flowing.setWorker flowing (by simp [waiting, WorkerPc.hand])
  | workerLeave tid locked | workerSkip tid locked =>
      exact Flowing.setWorker flowing (by simp [locked, WorkerPc.hand])
  | workerTake tid task rest locked queue =>
      rw [State.Flowing, queue] at flowing
      exact Flowing.take flowing (by rw [locked]; rfl)
  | workerRun tid task running => exact Flowing.run flowing running
  | workerSettle tid ran =>
      refine Flowing.setWorker flowing ?_
      rw [ran]
      split <;> rfl
  | workerScale tid checking | workerNoScale tid checking =>
      exact Flowing.setWorker flowing (by simp [checking, WorkerPc.hand])
  | workerSpawn tid phase scaling =>
      cases phase with
      | create =>
          have unborn := owned.fresh (before.threadIdCounter + 1) (Nat.lt_succ_self _)
          have born : tid ≠ before.threadIdCounter + 1 := by
            rintro rfl
            rw [unborn] at scaling
            cases scaling
          have created : Flowing before.taskQue
              (Function.update before.worker (before.threadIdCounter + 1) .waiting) before.call before.enqueued
              before.taken before.finished before.discarded :=
            Flowing.setWorker flowing (by simp [unborn, WorkerPc.hand])
          exact Flowing.setWorker created (by simp [born, scaling, spawnStep, WorkerPc.hand])
      | register | countCurrent | countIdle =>
          exact Flowing.setWorker flowing (by simp [scaling, spawnStep, WorkerPc.hand])
  | callEnter caller idle | callNotRunning caller idle =>
      exact Flowing.setCall flowing (by simp [idle]) (by simp)
  | callAcquire caller entered | callTimeout caller _ entered =>
      exact Flowing.setCall flowing (by simp [entered]) (by simp)
  | callCheck caller locked | callStopped caller locked =>
      exact Flowing.setCall flowing (by simp [locked]) (by simp)
  | callPush caller checked => exact Flowing.push flowing (by simp [checked])
  | startCall | stopCall | stopSync | stopJoin => exact flowing
  | startSpawn left phase =>
      cases phase with
      | create =>
          have unborn := owned.fresh (before.threadIdCounter + 1) (Nat.lt_succ_self _)
          exact Flowing.setWorker flowing (by simp [unborn, WorkerPc.hand])
      | _ => exact flowing
  | stopClear clearing =>
      -- nobody is left, so there was nothing left to do
      have gone := lifecycle.joined (by rw [clearing]; rfl)
      rcases attended (by simp [clearing]) with ⟨tid, live⟩ | ⟨empty, _⟩
      · simp [gone tid] at live
      · rw [State.Flowing, empty] at flowing
        have kept : before.discarded ++ before.taskQue = [] := by rw [flowing.kept, empty, List.append_nil]
        exact ⟨flowing.ordered, flowing.accepted, flowing.custody, kept⟩

theorem Transition.manned (transition : Transition config kind before action after)
    (permitted : OneLifecycle before action) (manned : Manned config before) : Manned config after := by
  refine ⟨transition.owned manned.owned, fun fixed => ?_, fun cache => ?_⟩
  · exact transition.keepsCreated fixed manned.owned (manned.fixed fixed)
  · refine transition.counted cache ?_ manned.owned (manned.cache cache)
    rintro rfl
    exact permitted

end Steps

/-! ## Whole runs -/

variable [DecidableEq κ]

structure Crewed (config : Config) (state : State κ) : Prop where
  manned : Manned config state
  lifecycle : Lifecycle state
  registered : Registered state.worker state.threads state.starter
  attended : Attended state.stopper state.taskQue state.worker state.call
  flowing : state.Flowing

theorem crewed_of_reachable (nonempty : 1 ≤ config.initThreadSize) {state : State κ}
    (reached : (pool config kind).ReachableBy OneLifecycle state) : Crewed config state := by
  induction reached with
  | init =>
      refine ⟨⟨owned_init, fun _ => nofun, fun _ => ⟨fun _ => ⟨rfl, rfl, fun _ => rfl⟩, nofun, nofun⟩⟩, ?_, nofun,
        fun begun => absurd rfl begun, rfl, nofun, ?_, rfl⟩
      · exact ⟨fun _ => ⟨rfl, fun _ => rfl⟩, nofun, fun begun => absurd rfl begun, nofun⟩
      · exact .empty (fun place => by cases place <;> rfl) (by simp [pool])
  | step reached permitted stepped ih =>
      have transition := poolStep_transition stepped
      exact ⟨transition.manned permitted ih.manned, transition.lifecycle permitted ih.registered ih.lifecycle,
        transition.registered ih.manned.owned ih.lifecycle permitted ih.registered,
        transition.attended permitted nonempty ih.manned ih.lifecycle ih.attended,
        transition.flows ih.manned.owned ih.lifecycle ih.attended ih.flowing⟩

/-- When `stop` has returned, no thread is left, and they have left nothing. -/
theorem Crewed.deserted {state : State κ} (crewed : Crewed config state) (returned : state.stopper = .returned) :
    state.taskQue = [] ∧ ∀ tid, (state.worker tid).isLive = false := by
  have gone := crewed.lifecycle.joined (by rw [returned]; rfl)
  rcases crewed.attended (by simp [returned]) with ⟨tid, live⟩ | ⟨empty, _⟩
  · simp [gone tid] at live
  · exact ⟨empty, gone⟩

theorem Crewed.drained {state : State κ} (crewed : Crewed config state) (returned : state.stopper = .returned)
    {caller : κ} (accepted : state.call caller = .returned) : state.finished.count caller = 1 := by
  obtain ⟨empty, gone⟩ := crewed.deserted returned
  refine crewed.flowing.custody.count_of_last .finished ?_ accepted
  intro place different
  cases place with
  | queue => exact empty
  | hand tid =>
      have dead := gone tid
      cases pc : state.worker tid with
      | running task => simp [pc, WorkerPc.isLive] at dead
      | _ => simp [holds, pc, WorkerPc.hand]
  | finished => exact absurd rfl different

end TaskHive.ThreadPool
