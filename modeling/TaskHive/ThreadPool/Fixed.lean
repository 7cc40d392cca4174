import TaskHive.Custody
import TaskHive.ThreadPool.Mutex

namespace TaskHive.ThreadPool

/-! # FIXED mode: every accepted task runs once, and `stop` drains

The flag `running_` is cleared without the mutex, so a call may find it set and
push its task after `stop` has begun.  That is safe because a worker leaves its
loop only inside the mutex: once one worker has left, no call is between its
check of the flag and its push, and none can get there. -/

variable {κ : Type} [DecidableEq κ] {config : Config} {kind : κ → CallKind}

/-- One `start`, and one `stop` that comes after it has returned. -/
def OneLifecycle (state : State κ) : Action κ → Prop
  | .start .call => state.starter = .idle
  | .stop .call => state.starter = .returned
  | _ => True

instance (state : State κ) (action : Action κ) : Decidable (OneLifecycle state action) := by
  unfold OneLifecycle
  split <;> infer_instance

/-! ## Threads -/

/-- The threads have been joined. -/
def StopPc.joined : StopPc → Bool
  | .clearing | .returned => true
  | _ => false

/-- The threads of one lifecycle: none before `start`, at least one after it,
all of them registered, and none active once they have been joined. -/
structure Staffed (running : Bool) (worker : Nat → WorkerPc κ) (threads : List Nat) (starter : StartPc)
    (stopper : StopPc) : Prop where
  simple : ∀ tid, worker tid ≠ .scaleCheck ∧ ∀ phase, worker tid ≠ .scaling phase
  unstarted : starter = .idle → stopper = .idle ∧ ∀ tid, worker tid = .unborn
  spawning : ∀ left phase, starter = .spawning left phase →
    stopper = .idle ∧ (phase = .countCurrent ∨ phase = .countIdle → threads ≠ [])
  started : starter = .returned → stopper.joined = false → threads ≠ []
  stopped : stopper ≠ .idle → running = false ∧ starter = .returned
  registered : ∀ tid, worker tid ≠ .unborn →
    tid ∈ threads ∨ (∃ left, starter = .spawning left (.register tid)) ∨ worker tid = .exited
  joined : stopper.joined = true →
    (∀ tid, worker tid = .unborn ∨ worker tid = .exited) ∧ ∃ tid, worker tid = .exited

section Staffed

variable {running : Bool} {worker : Nat → WorkerPc κ} {threads : List Nat} {starter : StartPc}
  {stopper : StopPc} {tid : Nat}

omit [DecidableEq κ] in
theorem Staffed.setWorker (staffed : Staffed running worker threads starter stopper)
    (born : worker tid ≠ .unborn) (active : worker tid ≠ .exited) {pc : WorkerPc κ}
    (simple : pc ≠ .scaleCheck ∧ ∀ phase, pc ≠ .scaling phase) :
    Staffed running (Function.update worker tid pc) threads starter stopper where
  simple := (Function.forall_update_iff worker fun _ pc => pc ≠ .scaleCheck ∧ ∀ phase, pc ≠ .scaling phase).mpr
    ⟨simple, fun other _ => staffed.simple other⟩
  unstarted idle := absurd ((staffed.unstarted idle).2 tid) born
  spawning := staffed.spawning
  started := staffed.started
  stopped := staffed.stopped
  registered other otherBorn := by
    by_cases same : other = tid
    · subst other
      rcases staffed.registered tid born with member | spawning | exited
      · exact .inl member
      · exact .inr (.inl spawning)
      · exact absurd exited active
    · rw [Function.update_of_ne same] at otherBorn ⊢
      exact staffed.registered other otherBorn
  joined cleared := by
    rcases (staffed.joined cleared).1 tid with unborn | exited
    · exact absurd unborn born
    · exact absurd exited active

omit [DecidableEq κ] in
/-- The thread that `start` creates is registered next. -/
theorem Staffed.create (staffed : Staffed running worker threads (.spawning left .create) stopper) :
    Staffed running (Function.update worker tid .waiting) threads (.spawning left (.register tid)) stopper where
  simple := (Function.forall_update_iff worker fun _ pc => pc ≠ .scaleCheck ∧ ∀ phase, pc ≠ .scaling phase).mpr
    ⟨by simp, fun other _ => staffed.simple other⟩
  unstarted := nofun
  spawning _ _ same := by
    cases same
    exact ⟨(staffed.spawning _ _ rfl).1, by simp⟩
  started := nofun
  stopped begun := absurd (staffed.spawning _ _ rfl).1 begun
  registered other otherBorn := by
    by_cases same : other = tid
    · subst other
      exact .inr (.inl ⟨left, rfl⟩)
    · rw [Function.update_of_ne same] at otherBorn ⊢
      rcases staffed.registered other otherBorn with member | ⟨_, spawning⟩ | exited
      · exact .inl member
      · cases spawning
      · exact .inr (.inr exited)
  joined cleared := by
    rw [(staffed.spawning _ _ rfl).1] at cleared
    cases cleared

omit [DecidableEq κ] in
theorem Staffed.register (staffed : Staffed running worker threads (.spawning left (.register tid)) stopper) :
    Staffed running worker (threads ++ [tid]) (.spawning left .countCurrent) stopper where
  simple := staffed.simple
  unstarted := nofun
  spawning _ _ same := by
    cases same
    exact ⟨(staffed.spawning _ _ rfl).1, by simp⟩
  started := nofun
  stopped begun := absurd (staffed.spawning _ _ rfl).1 begun
  registered other otherBorn := by
    rcases staffed.registered other otherBorn with member | ⟨_, spawning⟩ | exited
    · exact .inl (by simp [member])
    · cases spawning
      exact .inl (by simp)
    · exact .inr (.inr exited)
  joined cleared := by
    rw [(staffed.spawning _ _ rfl).1] at cleared
    cases cleared

omit [DecidableEq κ] in
/-- Counting a registered thread, and going on to the next one or returning. -/
theorem Staffed.count (staffed : Staffed running worker threads (.spawning left phase) stopper)
    (counting : phase = .countCurrent ∨ phase = .countIdle) {next : StartPc}
    (following : next = .returned ∨ ∃ left phase, next = .spawning left phase ∧ ∀ tid, phase ≠ .register tid) :
    Staffed running worker threads next stopper where
  simple := staffed.simple
  unstarted idle := by
    rcases following with rfl | ⟨_, _, rfl, _⟩ <;> cases idle
  spawning _ _ _ := by
    have earlier := staffed.spawning _ _ rfl
    exact ⟨earlier.1, fun _ => earlier.2 counting⟩
  started _ _ := (staffed.spawning _ _ rfl).2 counting
  stopped begun := absurd (staffed.spawning _ _ rfl).1 begun
  registered other otherBorn := by
    rcases staffed.registered other otherBorn with member | ⟨_, spawning⟩ | exited
    · exact .inl member
    · cases spawning
      rcases counting with same | same <;> cases same
    · exact .inr (.inr exited)
  joined cleared := by
    rw [(staffed.spawning _ _ rfl).1] at cleared
    cases cleared

end Staffed

theorem Transition.staffed {before after : State κ} {action : Action κ}
    (transition : Transition config kind before action after) (fixed : config.mode = .fixed)
    (nonempty : 1 ≤ config.initThreadSize) (lifecycle : OneLifecycle before action)
    (staffed : Staffed before.running before.worker before.threads before.starter before.stopper) :
    Staffed after.running after.worker after.threads after.starter after.stopper := by
  cases transition with
  | workerAcquire tid waiting => exact staffed.setWorker (by simp [waiting]) (by simp [waiting]) (by simp)
  | workerReclaim _ cache | workerTimeout _ cache => simp [fixed] at cache
  | workerLeave tid locked | workerSkip tid locked | workerTake tid _ _ locked =>
      exact staffed.setWorker (by simp [locked]) (by simp [locked]) (by simp)
  | workerRun tid task running => exact staffed.setWorker (by simp [running]) (by simp [running]) (by simp)
  | workerSettle tid ran => exact staffed.setWorker (by simp [ran]) (by simp [ran]) (by simp [fixed])
  | workerScale tid checking | workerNoScale tid checking => exact absurd checking (staffed.simple tid).1
  | workerSpawn tid phase scaling => exact absurd scaling ((staffed.simple tid).2 phase)
  | callEnter | callNotRunning | callAcquire | callTimeout | callCheck | callStopped | callPush => exact staffed
  | startCall =>
      obtain ⟨idle, unborn⟩ := staffed.unstarted lifecycle
      have started : config.initThreadSize ≠ 0 := by omega
      simp only [if_neg started]
      refine ⟨staffed.simple, nofun, ?_, nofun, fun begun => absurd idle begun, ?_, ?_⟩
      · intro left phase same
        cases same
        exact ⟨idle, by simp⟩
      · exact fun tid born => absurd (unborn tid) born
      · intro cleared
        simp [idle, StopPc.joined] at cleared
  | startSpawn left phase spawning =>
      rw [spawning] at staffed
      cases phase with
      | create => exact staffed.create
      | register tid => exact staffed.register
      | countCurrent => exact staffed.count (.inl rfl) (.inr ⟨left, .countIdle, rfl, nofun⟩)
      | countIdle =>
          refine staffed.count (.inr rfl) ?_
          by_cases last : left ≤ 1
          · exact .inl (by simp [spawnStep, last])
          · exact .inr ⟨left - 1, .create, by simp [spawnStep, last], nofun⟩
  | stopCall running unoccupied =>
      have returned : before.starter = .returned := lifecycle
      refine ⟨staffed.simple, ?_, ?_, ?_, fun _ => ⟨rfl, returned⟩, staffed.registered, nofun⟩
      · intro idle
        rw [returned] at idle
        cases idle
      · intro left phase spawning
        rw [returned] at spawning
        cases spawning
      · intro _ _
        refine staffed.started returned ?_
        cases stopper : before.stopper with
        | returned =>
            have stopped := (staffed.stopped (by simp [stopper])).1
            simp [running] at stopped
        | clearing => simp [stopper] at unoccupied
        | _ => rfl
  | stopSync syncing =>
      obtain ⟨stopped, returned⟩ := staffed.stopped (by simp [syncing])
      refine ⟨staffed.simple, by simp [returned], by simp [returned], ?_, fun _ => ⟨stopped, returned⟩,
        staffed.registered, nofun⟩
      intro _ _
      exact staffed.started returned (by rw [syncing]; rfl)
  | stopJoin joining ended =>
      obtain ⟨stopped, returned⟩ := staffed.stopped (by simp [joining])
      have gone (tid : Nat) : before.worker tid = .unborn ∨ before.worker tid = .exited := by
        by_cases unborn : before.worker tid = .unborn
        · exact .inl unborn
        · rcases staffed.registered tid unborn with member | ⟨_, spawning⟩ | exited
          · exact .inr (ended tid member)
          · rw [returned] at spawning
            cases spawning
          · exact .inr exited
      refine ⟨staffed.simple, by simp [returned], by simp [returned], nofun, fun _ => ⟨stopped, returned⟩, ?_, ?_⟩
      · intro tid born
        exact .inr (.inr ((gone tid).resolve_left born))
      · intro _
        obtain ⟨tid, rest, threads⟩ :=
          List.exists_cons_of_ne_nil (staffed.started returned (by rw [joining]; rfl))
        exact ⟨gone, tid, ended tid (by simp [threads])⟩
  | stopClear clearing =>
      obtain ⟨stopped, returned⟩ := staffed.stopped (by simp [clearing])
      exact ⟨staffed.simple, by simp [returned], by simp [returned], nofun, fun _ => ⟨stopped, returned⟩,
        staffed.registered, fun _ => staffed.joined (by rw [clearing]; rfl)⟩

/-! ## Nothing moves behind a worker that has left -/

def Quiet (running : Bool) (taskQue : List κ) (worker : Nat → WorkerPc κ) (call : κ → CallPc) : Prop :=
  ∀ tid, worker tid = .exited → running = false ∧ taskQue = [] ∧ ∀ caller, call caller ≠ .checked

section Quiet

variable {running : Bool} {taskQue : List κ} {worker : Nat → WorkerPc κ} {call : κ → CallPc} {tid : Nat}

omit [DecidableEq κ] in
theorem Quiet.setWorker (quiet : Quiet running taskQue worker call) {pc : WorkerPc κ} (stays : pc ≠ .exited) :
    Quiet running taskQue (Function.update worker tid pc) call :=
  (Function.forall_update_iff worker fun _ pc => pc = .exited →
    running = false ∧ taskQue = [] ∧ ∀ caller, call caller ≠ .checked).mpr
    ⟨fun exited => absurd exited stays, fun other _ => quiet other⟩

theorem Quiet.setCall (quiet : Quiet running taskQue worker call) {caller : κ} {pc : CallPc}
    (unchecked : pc ≠ .checked) : Quiet running taskQue worker (Function.update call caller pc) := by
  intro tid exited
  obtain ⟨stopped, empty, none⟩ := quiet tid exited
  refine ⟨stopped, empty, ?_⟩
  exact (Function.forall_update_iff call fun _ pc => pc ≠ .checked).mpr ⟨unchecked, fun other _ => none other⟩

end Quiet

theorem Transition.quiet {before after : State κ} {action : Action κ}
    (transition : Transition config kind before action after) (fixed : config.mode = .fixed)
    (lifecycle : OneLifecycle before action) (owned : Owned before)
    (staffed : Staffed before.running before.worker before.threads before.starter before.stopper)
    (quiet : Quiet before.running before.taskQue before.worker before.call) :
    Quiet after.running after.taskQue after.worker after.call := by
  cases transition with
  | workerAcquire tid => exact quiet.setWorker (by simp)
  | workerReclaim _ cache | workerTimeout _ cache => simp [fixed] at cache
  | workerLeave tid locked empty stopped =>
      -- the worker owns the mutex, so no call is inside
      have owner := (owned.mutex.1 tid).mp locked
      intro other _
      refine ⟨stopped, empty, ?_⟩
      intro caller checked
      have inside := (owned.mutex.2 caller).mp (by rw [show before.call caller = .checked from checked]; rfl)
      rw [owner] at inside
      cases inside
  | workerSkip tid => exact quiet.setWorker (by simp)
  | workerTake tid task rest locked queue =>
      intro other exited
      obtain ⟨_, empty, _⟩ := quiet.setWorker (by simp) other exited
      simp [queue] at empty
  | workerRun tid => exact quiet.setWorker (by simp)
  | workerSettle tid => exact quiet.setWorker (by simp [fixed])
  | workerScale tid checking | workerNoScale tid checking => exact absurd checking (staffed.simple tid).1
  | workerSpawn tid phase scaling => exact absurd scaling ((staffed.simple tid).2 phase)
  | callEnter | callNotRunning | callAcquire | callTimeout | callStopped => exact quiet.setCall (by simp)
  | callCheck caller _ running =>
      intro tid exited
      have stopped := (quiet tid exited).1
      simp [running] at stopped
  | callPush caller checked =>
      intro tid exited
      exact absurd checked ((quiet tid exited).2.2 caller)
  | startCall =>
      intro tid exited
      rw [show before.worker tid = .unborn from (staffed.unstarted lifecycle).2 tid] at exited
      cases exited
  | startSpawn left phase =>
      cases phase with
      | create => exact quiet.setWorker (by simp)
      | _ => exact quiet
  | stopCall => exact fun tid exited => ⟨rfl, (quiet tid exited).2⟩
  | stopSync | stopJoin => exact quiet
  | stopClear => exact fun tid exited => ⟨(quiet tid exited).1, rfl, (quiet tid exited).2.2⟩

/-! ## The way of a task -/

inductive Place where
  | queue
  | hand (tid : Nat)
  | finished
deriving DecidableEq

def WorkerPc.hand : WorkerPc κ → List κ
  | .running task => [task]
  | _ => []

def holds (taskQue : List κ) (worker : Nat → WorkerPc κ) (finished : List κ) : Place → List κ
  | .queue => taskQue
  | .hand tid => (worker tid).hand
  | .finished => finished

/-- Tasks pass the queue in order, and an accepted task is in exactly one
place. -/
structure Flowing (taskQue : List κ) (worker : Nat → WorkerPc κ) (call : κ → CallPc)
    (enqueued taken finished discarded : List κ) : Prop where
  ordered : enqueued = taken ++ taskQue
  accepted : ∀ caller ∈ enqueued, call caller = .returned
  custody : Custody (holds taskQue worker finished) (fun caller => call caller = .returned)
  kept : discarded = []

abbrev State.Flowing (state : State κ) : Prop :=
  ThreadPool.Flowing state.taskQue state.worker state.call state.enqueued state.taken state.finished
    state.discarded

section Flowing

variable {taskQue : List κ} {worker : Nat → WorkerPc κ} {call : κ → CallPc}
  {enqueued taken finished discarded : List κ} {tid : Nat} {caller : κ}

theorem Flowing.setWorker (flowing : Flowing taskQue worker call enqueued taken finished discarded)
    {pc : WorkerPc κ} (sameHand : pc.hand = (worker tid).hand) :
    Flowing taskQue (Function.update worker tid pc) call enqueued taken finished discarded := by
  refine ⟨flowing.ordered, flowing.accepted, flowing.custody.rearrange ?_, flowing.kept⟩
  intro place
  cases place with
  | queue => exact .refl _
  | finished => exact .refl _
  | hand other =>
      by_cases same : other = tid
      · subst other
        rw [holds, Function.update_self, sameHand]
        exact .refl _
      · rw [holds, Function.update_of_ne same]
        exact .refl _

theorem Flowing.setCall (flowing : Flowing taskQue worker call enqueued taken finished discarded)
    (pending : call caller ≠ .returned) {pc : CallPc} (stays : pc ≠ .returned) :
    Flowing taskQue worker (Function.update call caller pc) enqueued taken finished discarded := by
  have same (other : κ) : Function.update call caller pc other = .returned ↔ call other = .returned := by
    by_cases equal : other = caller
    · subst other
      rw [Function.update_self]
      exact iff_of_false stays pending
    · rw [Function.update_of_ne equal]
  refine ⟨flowing.ordered, ?_, flowing.custody.congr same, flowing.kept⟩
  intro other member
  exact (same other).mpr (flowing.accepted other member)

theorem Flowing.push (flowing : Flowing taskQue worker call enqueued taken finished discarded)
    (pending : call caller ≠ .returned) :
    Flowing (taskQue ++ [caller]) worker (Function.update call caller .returned) (enqueued ++ [caller])
      taken finished discarded := by
  have returned (other : κ) :
      Function.update call caller .returned other = .returned ↔ other = caller ∨ call other = .returned := by
    by_cases equal : other = caller
    · subst other
      simp
    · simp [equal]
  refine ⟨by rw [flowing.ordered, List.append_assoc], ?_, ?_, flowing.kept⟩
  · intro other member
    rw [returned]
    rcases List.mem_append.mp member with old | new
    · exact .inr (flowing.accepted other old)
    · exact .inl (List.mem_singleton.mp new)
  · refine (flowing.custody.issue caller .queue pending ?_ ?_).congr returned
    · exact List.perm_append_singleton caller taskQue
    · intro place different
      cases place with
      | queue => exact absurd rfl different
      | _ => exact .refl _

theorem Flowing.take {task : κ} {rest : List κ}
    (flowing : Flowing (task :: rest) worker call enqueued taken finished discarded)
    (free : (worker tid).hand = []) :
    Flowing rest (Function.update worker tid (.running task)) call enqueued (taken ++ [task]) finished
      discarded := by
  refine ⟨by rw [flowing.ordered, List.append_assoc, List.singleton_append], flowing.accepted, ?_, flowing.kept⟩
  refine flowing.custody.move task .queue (.hand tid) (by simp) (.refl _) ?_ ?_
  · simp only [holds, Function.update_self, free]
    exact .refl _
  · intro place notSource notTarget
    cases place with
    | queue => exact absurd rfl notSource
    | finished => exact .refl _
    | hand other =>
        have different : other ≠ tid := by
          rintro rfl
          exact notTarget rfl
        simp only [holds, Function.update_of_ne different]
        exact .refl _

theorem Flowing.run {task : κ}
    (flowing : Flowing taskQue worker call enqueued taken finished discarded)
    (running : worker tid = .running task) :
    Flowing taskQue (Function.update worker tid .ran) call enqueued taken (finished ++ [task]) discarded := by
  refine ⟨flowing.ordered, flowing.accepted, ?_, flowing.kept⟩
  refine flowing.custody.move task (.hand tid) .finished (by simp) ?_ ?_ ?_
  · simp only [holds, Function.update_self, running]
    exact .refl _
  · exact List.perm_append_singleton task finished
  · intro place notSource notTarget
    cases place with
    | queue => exact .refl _
    | finished => exact absurd rfl notTarget
    | hand other =>
        have different : other ≠ tid := by
          rintro rfl
          exact notSource rfl
        simp only [holds, Function.update_of_ne different]
        exact .refl _

theorem Flowing.refused (flowing : Flowing taskQue worker call enqueued taken finished discarded) {what : String}
    (threw : call caller = .threw what) : caller ∉ taskQue ∧ caller ∉ taken ∧ caller ∉ finished := by
  have unaccepted : call caller ≠ .returned := by simp [threw]
  have absent := flowing.custody.absent caller unaccepted
  refine ⟨absent .queue, ?_, absent .finished⟩
  intro member
  exact unaccepted (flowing.accepted caller (by simp [flowing.ordered, member]))

theorem Flowing.once (flowing : Flowing taskQue worker call enqueued taken finished discarded) (caller : κ) :
    finished.count caller ≤ 1 := by
  by_cases member : caller ∈ finished
  · exact Nat.le_of_eq (flowing.custody.heldOnce_of_mem .finished member).1
  · simp [List.count_eq_zero_of_not_mem member]

end Flowing

theorem Transition.flowing {before after : State κ} {action : Action κ}
    (transition : Transition config kind before action after) (fixed : config.mode = .fixed)
    (owned : Owned before)
    (staffed : Staffed before.running before.worker before.threads before.starter before.stopper)
    (quiet : Quiet before.running before.taskQue before.worker before.call) (flowing : before.Flowing) :
    after.Flowing := by
  cases transition with
  | workerAcquire tid waiting => exact Flowing.setWorker flowing (by simp [waiting, WorkerPc.hand])
  | workerReclaim _ cache | workerTimeout _ cache => simp [fixed] at cache
  | workerLeave tid locked | workerSkip tid locked =>
      exact Flowing.setWorker flowing (by simp [locked, WorkerPc.hand])
  | workerTake tid task rest locked queue =>
      rw [State.Flowing, queue] at flowing
      exact Flowing.take flowing (by rw [locked]; rfl)
  | workerRun tid task running => exact Flowing.run flowing running
  | workerSettle tid ran => exact Flowing.setWorker flowing (by simp [ran, fixed, WorkerPc.hand])
  | workerScale tid checking | workerNoScale tid checking => exact absurd checking (staffed.simple tid).1
  | workerSpawn tid phase scaling => exact absurd scaling ((staffed.simple tid).2 phase)
  | callEnter caller idle | callNotRunning caller idle =>
      exact Flowing.setCall flowing (by simp [idle]) (by simp)
  | callAcquire caller entered | callTimeout caller _ entered =>
      exact Flowing.setCall flowing (by simp [entered]) (by simp)
  | callCheck caller locked | callStopped caller locked =>
      exact Flowing.setCall flowing (by simp [locked]) (by simp)
  | callPush caller checked => exact Flowing.push flowing (by simp [checked])
  | startCall | stopCall | stopSync | stopJoin => exact flowing
  | startSpawn left phase =>
      cases phase with
      | create =>
          have unborn := owned.fresh (before.threadIdCounter + 1) (Nat.lt_succ_self _)
          exact Flowing.setWorker flowing (by simp [unborn, WorkerPc.hand])
      | _ => exact flowing
  | stopClear clearing =>
      -- a worker has left, so the clean-up finds nothing
      obtain ⟨tid, exited⟩ := (staffed.joined (by rw [clearing]; rfl)).2
      have empty := (quiet tid exited).2.1
      rw [State.Flowing, empty] at flowing
      have kept : before.discarded ++ before.taskQue = [] := by rw [flowing.kept, empty, List.append_nil]
      exact ⟨flowing.ordered, flowing.accepted, flowing.custody, kept⟩

/-! ## Whole runs -/

structure Sound (state : State κ) : Prop where
  owned : Owned state
  staffed : Staffed state.running state.worker state.threads state.starter state.stopper
  quiet : Quiet state.running state.taskQue state.worker state.call
  flowing : state.Flowing

theorem sound_of_reachable (fixed : config.mode = .fixed) (nonempty : 1 ≤ config.initThreadSize)
    {state : State κ} (reached : (pool config kind).ReachableBy OneLifecycle state) : Sound state := by
  refine reached.invariant ?_ ?_
  · refine ⟨owned_init, ⟨by simp [pool], by simp [pool], nofun, nofun, ?_, ?_, nofun⟩, nofun, rfl, nofun, ?_, rfl⟩
    · exact fun begun => absurd rfl begun
    · exact fun tid born => absurd rfl born
    · exact .empty (fun place => by cases place <;> rfl) (by simp [pool])
  · intro before action after sound lifecycle stepped
    have transition := poolStep_transition stepped
    exact ⟨transition.owned sound.owned, transition.staffed fixed nonempty lifecycle sound.staffed,
      transition.quiet fixed lifecycle sound.owned sound.staffed sound.quiet,
      transition.flowing fixed sound.owned sound.staffed sound.quiet sound.flowing⟩

/-- What callers may rely on.  A call that threw has no task anywhere; a call
that returned has its task in exactly one place, so it never runs twice; tasks
leave the queue in order; and `stop` returns with every accepted task executed
and nothing thrown away. -/
structure ExecutesExactlyOnce (state : State κ) : Prop where
  refused : ∀ caller what, state.call caller = .threw what →
    caller ∉ state.taskQue ∧ caller ∉ state.taken ∧ caller ∉ state.finished
  accepted : ∀ caller, state.call caller = .returned →
    ∃ place, HeldOnce (holds state.taskQue state.worker state.finished) caller place
  once : ∀ caller, state.finished.count caller ≤ 1
  ordered : state.enqueued = state.taken ++ state.taskQue
  drained : state.stopper = .returned → state.discarded = [] ∧
    ∀ caller, state.call caller = .returned → state.finished.count caller = 1

theorem Sound.refused {state : State κ} (sound : Sound state) {caller : κ} {what : String}
    (threw : state.call caller = .threw what) :
    caller ∉ state.taskQue ∧ caller ∉ state.taken ∧ caller ∉ state.finished := sound.flowing.refused threw

theorem Sound.drained {state : State κ} (sound : Sound state) (returned : state.stopper = .returned)
    {caller : κ} (accepted : state.call caller = .returned) : state.finished.count caller = 1 := by
  obtain ⟨gone, tid, exited⟩ := sound.staffed.joined (by rw [returned]; rfl)
  refine sound.flowing.custody.count_of_last .finished ?_ accepted
  intro place different
  cases place with
  | queue => exact (sound.quiet tid exited).2.1
  | hand other => rcases gone other with pc | pc <;> simp [holds, pc, WorkerPc.hand]
  | finished => exact absurd rfl different

theorem Sound.once {state : State κ} (sound : Sound state) (caller : κ) :
    state.finished.count caller ≤ 1 := sound.flowing.once caller

/-- A pool in FIXED mode with at least one thread executes every accepted task
exactly once and drains on `stop`. -/
theorem fixed_pool_executes_exactly_once (config : Config) (kind : κ → CallKind) (fixed : config.mode = .fixed)
    (nonempty : 1 ≤ config.initThreadSize) (state : State κ)
    (reached : (pool config kind).ReachableBy OneLifecycle state) : ExecutesExactlyOnce state := by
  have sound := sound_of_reachable fixed nonempty reached
  refine ⟨fun caller what => sound.refused, sound.flowing.custody.held, sound.once, sound.flowing.ordered, ?_⟩
  intro returned
  exact ⟨sound.flowing.kept, fun caller => sound.drained returned⟩

def oneThread : Config where
  mode := .fixed
  initThreadSize := 1
  taskQueMaxThreshold := 1
  threadSizeThreadHold := 1

/-- `stop` clears the flag while the first call is about to push, and the
second call is refused. -/
theorem one_thread_drains :
    ∃ state, (pool oneThread fun _ : Fin 2 => .submit).ReachableBy OneLifecycle state ∧
      state.stopper = .returned ∧ state.call 0 = .returned ∧
      state.call 1 = .threw "thread pool not running" ∧ ExecutesExactlyOnce state := by
  obtain ⟨state, reached, returned, first, second⟩ :=
    (pool oneThread fun _ : Fin 2 => .submit).reachableBy_of_any OneLifecycle
      (fun state => state.stopper = .returned ∧ state.call 0 = .returned ∧
        state.call 1 = .threw "thread pool not running")
      [.start .call, .start .spawn, .start .spawn, .start .spawn, .start .spawn, .call 0 .enter,
        .call 0 .acquire, .call 0 .check, .stop .call, .call 0 .push, .call 1 .enter, .worker 1 .acquire,
        .worker 1 .decide, .worker 1 .run, .worker 1 .settle, .stop .sync, .worker 1 .acquire,
        .worker 1 .decide, .stop .join, .stop .clear] (by decide)
  exact ⟨state, reached, returned, first, second,
    fixed_pool_executes_exactly_once oneThread _ rfl (by decide) state reached⟩

end TaskHive.ThreadPool
