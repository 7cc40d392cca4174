import TaskHive.Exclusion
import TaskHive.LogSystem.ThreadPool.Model
import TaskHive.WorkQueue

namespace TaskHive.LogSystem.ThreadPool

variable {κ : Type} [DecidableEq κ] {threads : Nat}

/-! # What the pool keeps in every state

The flag is set inside the mutex, and a worker leaves its loop only there, with
the flag set and the queue empty.  So nothing is pushed behind a worker that has
left. -/

/-! ## Ownership of `queue_mutex` -/

def WorkerPc.owns : WorkerPc κ → Bool
  | .locked => true
  | _ => false

def CallPc.owns : CallPc → Bool
  | .locked | .checked => true
  | _ => false

def DestroyPc.owns : DestroyPc → Bool
  | .locked => true
  | _ => false

/-- The threads that are in a critical section. -/
def inside (worker : Nat → WorkerPc κ) (call : κ → CallPc) (destructor : DestroyPc) : Owner κ → Bool
  | .worker tid => (worker tid).owns
  | .call caller => (call caller).owns
  | .destructor => destructor.owns

section Inside

variable (worker : Nat → WorkerPc κ) (call : κ → CallPc) (destructor : DestroyPc)

theorem inside_updateWorker (tid : Nat) (pc : WorkerPc κ) :
    inside (Function.update worker tid pc) call destructor =
      Function.update (inside worker call destructor) (.worker tid) pc.owns := by
  funext agent
  cases agent with
  | worker other =>
      by_cases same : other = tid
      · subst other
        simp [inside]
      · simp [inside, same]
  | call caller | destructor => simp [inside]

theorem inside_updateCall (caller : κ) (pc : CallPc) :
    inside worker (Function.update call caller pc) destructor =
      Function.update (inside worker call destructor) (.call caller) pc.owns := by
  funext agent
  cases agent with
  | call other =>
      by_cases same : other = caller
      · subst other
        simp [inside]
      · simp [inside, same]
  | worker tid | destructor => simp [inside]

theorem inside_updateDestructor (pc : DestroyPc) :
    inside worker call pc = Function.update (inside worker call destructor) .destructor pc.owns := by
  funext agent
  cases agent with
  | worker tid | call caller | destructor => simp [inside]

omit [DecidableEq κ] in
theorem inside_wake : inside (fun tid => (worker tid).wake) call destructor = inside worker call destructor := by
  funext agent
  cases agent with
  | worker tid => cases pc : worker tid <;> simp [inside, pc, WorkerPc.wake, WorkerPc.owns]
  | call caller | destructor => rfl

end Inside

abbrev Owned (state : State κ) : Prop :=
  Exclusive state.queueMutex (inside state.worker state.call state.destructor)

theorem Transition.owned {before after : State κ} {action : Action κ}
    (transition : Transition threads before action after) (unborn : ∀ made, before.builder = .spawning made →
      before.worker made = .unborn) (owned : Owned before) : Owned after := by
  simp only [Owned] at owned ⊢
  cases transition with
  | buildRefuse => exact owned
  | buildSpawn made spawning | buildLast made spawning =>
      simp only [State.setWorker, inside_updateWorker]
      exact owned.keep (by simp [inside, unborn made spawning, WorkerPc.owns])
  | workerAcquire tid contending free =>
      simp only [State.setWorker, inside_updateWorker]
      rw [free] at owned
      exact owned.acquire (.worker tid)
  | workerLeave tid locked | workerSleep tid locked | workerTake tid _ _ locked =>
      simp only [State.setWorker, inside_updateWorker]
      exact owned.release (by simp [inside, locked, WorkerPc.owns])
  | workerRun tid task outcome running =>
      simp only [State.setWorker, inside_updateWorker]
      exact owned.keep (by simp [inside, running, WorkerPc.owns])
  | workerWake tid sleeping =>
      simp only [State.setWorker, inside_updateWorker]
      exact owned.keep (by simp [inside, sleeping, WorkerPc.owns])
  | callEnter caller idle =>
      simp only [State.setCall, inside_updateCall]
      exact owned.keep (by simp [inside, idle, CallPc.owns])
  | callAcquire caller contending free =>
      simp only [State.setCall, inside_updateCall]
      rw [free] at owned
      exact owned.acquire (.call caller)
  | callRefuse caller locked =>
      simp only [State.setCall, inside_updateCall]
      exact owned.release (by simp [inside, locked, CallPc.owns])
  | callCheck caller locked =>
      simp only [State.setCall, inside_updateCall]
      exact owned.keep (by simp [inside, locked, CallPc.owns])
  | callPush caller checked =>
      simp only [State.setCall, inside_updateCall]
      exact owned.release (by simp [inside, checked, CallPc.owns])
  | callNotify caller tid pushed sleeping =>
      simp only [State.setCall, State.setWorker, inside_updateCall, inside_updateWorker]
      refine Exclusive.keep (owned.keep ?_) ?_
      · simp [inside, sleeping, WorkerPc.owns]
      · simp [inside, pushed, CallPc.owns]
  | callNotifyNobody caller pushed =>
      simp only [State.setCall, inside_updateCall]
      exact owned.keep (by simp [inside, pushed, CallPc.owns])
  | destroyCall idle =>
      rw [inside_updateDestructor _ _ before.destructor]
      exact owned.keep (by simp [inside, idle, DestroyPc.owns])
  | destroyAcquire contending free =>
      rw [inside_updateDestructor _ _ before.destructor]
      rw [free] at owned
      exact owned.acquire .destructor
  | destroyStop locked =>
      rw [inside_updateDestructor _ _ before.destructor]
      exact owned.release (by simp [inside, locked, DestroyPc.owns])
  | destroyNotify stopped =>
      rw [inside_wake, inside_updateDestructor _ _ before.destructor]
      exact owned.keep (by simp [inside, stopped, DestroyPc.owns])
  | destroyJoin next joining | destroyReturn next joining =>
      rw [inside_updateDestructor _ _ before.destructor]
      exact owned.keep (by simp [inside, joining, DestroyPc.owns])

/-! ## Construction -/

/-- How many workers exist. -/
def BuildPc.made (threads : Nat) : BuildPc → Nat
  | .spawning made => made
  | .returned => threads
  | .threw _ => 0

/-- The workers that exist are the first ones, and nobody uses a pool that is
not yet built. -/
structure Built (threads : Nat) (builder : BuildPc) (worker : Nat → WorkerPc κ) (call : κ → CallPc)
    (destructor : DestroyPc) : Prop where
  born : ∀ tid, worker tid ≠ .unborn ↔ tid < builder.made threads
  bounded : ∀ made, builder = .spawning made → made = 0 ∨ made < threads
  populated : builder = .returned → 0 < threads
  unused : builder ≠ .returned → (∀ caller, call caller = .idle) ∧ destructor = .idle

section Built

variable {builder : BuildPc} {worker : Nat → WorkerPc κ} {call : κ → CallPc} {destructor : DestroyPc}
  {tid : Nat} {caller : κ}

omit [DecidableEq κ] in
theorem Built.unborn_next {made : Nat} (built : Built threads (.spawning made) worker call destructor) :
    worker made = .unborn := by
  by_contra born
  exact Nat.lt_irrefl made ((built.born made).mp born)

omit [DecidableEq κ] in
theorem Built.used (built : Built threads builder worker call destructor) (busy : call caller ≠ .idle) :
    builder = .returned := by
  by_contra unbuilt
  exact busy ((built.unused unbuilt).1 caller)

omit [DecidableEq κ] in
theorem Built.destroyed (built : Built threads builder worker call destructor) (busy : destructor ≠ .idle) :
    builder = .returned := by
  by_contra unbuilt
  exact busy (built.unused unbuilt).2

omit [DecidableEq κ] in
theorem Built.setWorker (built : Built threads builder worker call destructor) (was : worker tid ≠ .unborn)
    {pc : WorkerPc κ} (stays : pc ≠ .unborn) :
    Built threads builder (Function.update worker tid pc) call destructor where
  born := (Function.forall_update_iff worker fun other pc => pc ≠ .unborn ↔ other < builder.made threads).mpr
    ⟨iff_of_true stays ((built.born tid).mp was), fun other _ => built.born other⟩
  bounded := built.bounded
  populated := built.populated
  unused := built.unused

theorem Built.setCall (built : Built threads builder worker call destructor) (done : builder = .returned)
    (pc : CallPc) : Built threads builder worker (Function.update call caller pc) destructor :=
  { built with unused := fun unbuilt => absurd done unbuilt }

omit [DecidableEq κ] in
theorem Built.setDestructor (built : Built threads builder worker call destructor) (done : builder = .returned)
    (pc : DestroyPc) : Built threads builder worker call pc :=
  { built with unused := fun unbuilt => absurd done unbuilt }

omit [DecidableEq κ] in
/-- One more worker. -/
theorem Built.spawn {made : Nat} (built : Built threads (.spawning made) worker call destructor)
    {next : BuildPc} (counted : next.made threads = made + 1) {pc : WorkerPc κ} (stays : pc ≠ .unborn)
    (bounded : ∀ made, next = .spawning made → made = 0 ∨ made < threads) (populated : 0 < threads) :
    Built threads next (Function.update worker made pc) call destructor where
  born := by
    rw [counted]
    refine (Function.forall_update_iff worker fun other pc => pc ≠ .unborn ↔ other < made + 1).mpr ?_
    refine ⟨iff_of_true stays (Nat.lt_succ_self made), fun other different => ?_⟩
    rw [built.born other, BuildPc.made]
    omega
  bounded := bounded
  populated _ := populated
  unused _ := built.unused (by simp)

end Built

abbrev State.Built (threads : Nat) (state : State κ) : Prop :=
  ThreadPool.Built threads state.builder state.worker state.call state.destructor

theorem Transition.built {before after : State κ} {action : Action κ}
    (transition : Transition threads before action after) (built : before.Built threads) :
    after.Built threads := by
  cases transition with
  | buildRefuse made spawning zero =>
      simp only [State.Built, spawning] at built ⊢
      have none : made = 0 := by
        have bounded := built.bounded made rfl
        omega
      subst none
      exact ⟨built.born, nofun, nofun, fun _ => built.unused (by simp)⟩
  | buildSpawn made spawning more =>
      simp only [State.Built, spawning, State.setWorker] at built ⊢
      exact built.spawn rfl (by simp) (by simpa using more) (Nat.zero_lt_of_lt more)
  | buildLast made spawning nonzero last =>
      simp only [State.Built, spawning, State.setWorker] at built ⊢
      have all : threads = made + 1 := by
        have bounded := built.bounded made rfl
        omega
      exact built.spawn (show BuildPc.made threads .returned = made + 1 from all) (by simp) nofun
        (Nat.pos_of_ne_zero nonzero)
  | workerAcquire tid contending => exact Built.setWorker built (by simp [contending]) (by simp)
  | workerLeave tid locked | workerSleep tid locked | workerTake tid _ _ locked =>
      exact Built.setWorker built (by simp [locked]) (by simp)
  | workerRun tid task outcome running => exact Built.setWorker built (by simp [running]) (by simp)
  | workerWake tid sleeping => exact Built.setWorker built (by simp [sleeping]) (by simp)
  | callEnter caller idle done => exact Built.setCall built done _
  | callAcquire caller busy | callRefuse caller busy | callCheck caller busy | callPush caller busy
  | callNotifyNobody caller busy =>
      have done := Built.used built (show before.call caller ≠ .idle by simp [busy])
      exact Built.setCall built done _
  | callNotify caller tid pushed sleeping =>
      have done := Built.used built (show before.call caller ≠ .idle by simp [pushed])
      exact Built.setCall (Built.setWorker built (by simp [sleeping]) (by simp)) done _
  | destroyCall idle done => exact Built.setDestructor built done _
  | destroyAcquire busy | destroyStop busy | destroyJoin _ busy | destroyReturn _ busy =>
      have done := Built.destroyed built (show before.destructor ≠ .idle by simp [busy])
      exact Built.setDestructor built done _
  | destroyNotify stopped =>
      have done := Built.destroyed built (show before.destructor ≠ .idle by simp [stopped])
      refine ⟨fun tid => ?_, built.bounded, built.populated, fun unbuilt => absurd done unbuilt⟩
      rw [← built.born tid]
      cases pc : before.worker tid <;> simp [pc, WorkerPc.wake]

/-! ## Stopping -/

def DestroyPc.hasStopped : DestroyPc → Bool
  | .stopped | .joining _ | .returned => true
  | _ => false

def DestroyPc.hasNotified : DestroyPc → Bool
  | .joining _ | .returned => true
  | _ => false

/-- How many workers have been joined. -/
def DestroyPc.joined (threads : Nat) : DestroyPc → Nat
  | .joining next => next
  | .returned => threads
  | _ => 0

/-- A call between its check and its push has the flag unset; a worker that
has left saw the flag and an empty queue; a worker that was joined has left;
and after the notification of the destructor no worker sleeps. -/
structure Stopping (threads : Nat) (stop : Bool) (tasks : List κ) (worker : Nat → WorkerPc κ)
    (call : κ → CallPc) (destructor : DestroyPc) : Prop where
  flag : stop = destructor.hasStopped
  checked : ∀ caller, call caller = .checked → stop = false
  left : ∀ tid, worker tid = .exited → stop = true ∧ tasks = []
  joined : ∀ tid < destructor.joined threads, worker tid = .exited
  woken : destructor.hasNotified = true → ∀ tid, worker tid ≠ .sleeping

section Stopping

variable {stop : Bool} {tasks : List κ} {worker : Nat → WorkerPc κ} {call : κ → CallPc}
  {destructor : DestroyPc} {tid : Nat} {caller : κ}

omit [DecidableEq κ] in
/-- An active worker goes on, or leaves when it may. -/
theorem Stopping.setWorker (stopping : Stopping threads stop tasks worker call destructor)
    (active : worker tid ≠ .exited) {pc : WorkerPc κ} (leaves : pc = .exited → stop = true ∧ tasks = [])
    (sleeps : pc = .sleeping → stop = false) :
    Stopping threads stop tasks (Function.update worker tid pc) call destructor where
  flag := stopping.flag
  checked := stopping.checked
  left := (Function.forall_update_iff worker fun _ pc => pc = .exited → stop = true ∧ tasks = []).mpr
    ⟨leaves, fun other _ => stopping.left other⟩
  joined := by
    refine (Function.forall_update_iff worker fun other pc =>
      other < destructor.joined threads → pc = .exited).mpr ?_
    refine ⟨fun counted => absurd (stopping.joined tid counted) active, fun other _ => stopping.joined other⟩
  woken notified := by
    refine (Function.forall_update_iff worker fun _ pc => pc ≠ .sleeping).mpr ?_
    refine ⟨fun asleep => ?_, fun other _ => stopping.woken notified other⟩
    have flag := stopping.flag
    rw [sleeps asleep] at flag
    cases destructor <;> simp [DestroyPc.hasStopped, DestroyPc.hasNotified] at flag notified

theorem Stopping.setCall (stopping : Stopping threads stop tasks worker call destructor) {pc : CallPc}
    (checks : pc = .checked → stop = false) :
    Stopping threads stop tasks worker (Function.update call caller pc) destructor :=
  { stopping with
    checked := (Function.forall_update_iff call fun _ pc => pc = .checked → stop = false).mpr
      ⟨checks, fun other _ => stopping.checked other⟩ }

omit [DecidableEq κ] in
/-- The queue may change while no worker has left. -/
theorem Stopping.setTasks (stopping : Stopping threads stop tasks worker call destructor) {queue : List κ}
    (nobody : ∀ tid, worker tid ≠ .exited) : Stopping threads stop queue worker call destructor :=
  { stopping with left := fun tid exited => absurd exited (nobody tid) }

omit [DecidableEq κ] in
/-- Nobody has left while the flag is unset or a task is queued. -/
theorem Stopping.nobody (stopping : Stopping threads stop tasks worker call destructor)
    (occupied : stop = false ∨ tasks ≠ []) (tid : Nat) : worker tid ≠ .exited := by
  intro exited
  obtain ⟨stopped, empty⟩ := stopping.left tid exited
  rcases occupied with unstopped | nonempty
  · simp [unstopped] at stopped
  · exact nonempty empty

end Stopping

abbrev State.Stopping (threads : Nat) (state : State κ) : Prop :=
  ThreadPool.Stopping threads state.stop state.tasks state.worker state.call state.destructor

theorem Transition.stopping {before after : State κ} {action : Action κ}
    (transition : Transition threads before action after) (owned : Owned before) (built : before.Built threads)
    (stopping : before.Stopping threads) : after.Stopping threads := by
  cases transition with
  | buildRefuse => exact stopping
  | buildSpawn made spawning | buildLast made spawning =>
      rw [State.Built, spawning] at built
      exact Stopping.setWorker stopping (by simp [built.unborn_next]) (by simp) (by simp)
  | workerAcquire tid contending => exact Stopping.setWorker stopping (by simp [contending]) (by simp) (by simp)
  | workerLeave tid locked empty stopped =>
      exact Stopping.setWorker stopping (by simp [locked]) (fun _ => ⟨stopped, empty⟩) (by simp)
  | workerSleep tid locked empty unstopped =>
      exact Stopping.setWorker stopping (by simp [locked]) (by simp) (fun _ => unstopped)
  | workerTake tid task rest locked queue =>
      have nobody := Stopping.nobody stopping (.inr (by simp [queue]))
      exact Stopping.setWorker (Stopping.setTasks stopping nobody) (by simp [locked]) (by simp) (by simp)
  | workerRun tid task outcome running =>
      exact Stopping.setWorker stopping (by simp [running]) (by simp) (by simp)
  | workerWake tid sleeping => exact Stopping.setWorker stopping (by simp [sleeping]) (by simp) (by simp)
  | callEnter | callAcquire | callRefuse | callNotifyNobody => exact Stopping.setCall stopping (by simp)
  | callCheck caller locked unstopped => exact Stopping.setCall stopping fun _ => unstopped
  | callPush caller checked =>
      have nobody := Stopping.nobody stopping (.inl (stopping.checked caller checked))
      exact Stopping.setCall (Stopping.setTasks stopping nobody) (by simp)
  | callNotify caller tid pushed sleeping =>
      exact Stopping.setCall (Stopping.setWorker stopping (by simp [sleeping]) (by simp) (by simp)) (by simp)
  | destroyCall pc | destroyAcquire pc =>
      exact ⟨stopping.flag.trans (by rw [pc]; rfl), stopping.checked, stopping.left, nofun, nofun⟩
  | destroyStop locked =>
      refine ⟨rfl, ?_, fun tid exited => ⟨rfl, (stopping.left tid exited).2⟩, nofun, nofun⟩
      -- the destructor owns the mutex, so no call is between its check and its push
      intro caller checked
      have other := owned.unique (show inside _ _ before.destructor .destructor = true by rw [locked]; rfl)
        (show inside _ before.call _ (.call caller) = true by
          rw [inside, show before.call caller = .checked from checked]; rfl)
      cases other
  | destroyNotify stopped =>
      have flag : before.stop = true := by rw [stopping.flag, stopped]; rfl
      refine ⟨flag, stopping.checked, fun tid exited => stopping.left tid ?_, nofun, fun _ tid => ?_⟩
      · cases pc : before.worker tid <;> simp [pc, WorkerPc.wake] at exited ⊢
      · cases pc : before.worker tid <;> simp [pc, WorkerPc.wake]
  | destroyJoin next joining more exited =>
      refine ⟨stopping.flag.trans (by rw [joining]; rfl), stopping.checked, stopping.left, ?_,
        fun _ => stopping.woken (by rw [joining]; rfl)⟩
      intro tid counted
      rcases Nat.lt_succ_iff_lt_or_eq.mp counted with earlier | rfl
      · exact stopping.joined tid (by rw [joining]; exact earlier)
      · exact exited
  | destroyReturn next joining last =>
      refine ⟨stopping.flag.trans (by rw [joining]; rfl), stopping.checked, stopping.left, ?_,
        fun _ => stopping.woken (by rw [joining]; rfl)⟩
      intro tid counted
      exact stopping.joined tid (by rw [joining]; exact Nat.lt_of_lt_of_le counted last)

/-! ## The way of a task -/

def WorkerPc.hand : WorkerPc κ → List κ
  | .running task => [task]
  | _ => []

/-- The call has put its task into the queue. -/
def CallPc.accepted : CallPc → Bool
  | .pushed | .returned => true
  | _ => false

abbrev State.Flowing (state : State κ) : Prop :=
  WorkQueue.Flows (fun caller => (state.call caller).accepted = true) state.tasks
    (WorkerPc.hand ∘ state.worker) state.enqueued state.taken state.finished

section Flowing

variable {tasks : List κ} {worker : Nat → WorkerPc κ} {call : κ → CallPc} {enqueued taken finished : List κ}
  {tid : Nat} {caller : κ}

omit [DecidableEq κ] in
/-- The worker keeps what it has in its hand. -/
theorem hand_update {pc : WorkerPc κ} (sameHand : pc.hand = (worker tid).hand) :
    WorkerPc.hand ∘ Function.update worker tid pc = WorkerPc.hand ∘ worker := by
  rw [Function.comp_update, sameHand]
  exact Function.update_eq_self tid (WorkerPc.hand ∘ worker)

theorem accepted_update {pc : CallPc} (same : pc.accepted = (call caller).accepted) (other : κ) :
    (Function.update call caller pc other).accepted = true ↔ (call other).accepted = true := by
  by_cases equal : other = caller
  · subst other
    rw [Function.update_self, same]
  · rw [Function.update_of_ne equal]

theorem accepted_update_push {pc : CallPc} (pushed : pc.accepted = true) (other : κ) :
    (Function.update call caller pc other).accepted = true ↔ other = caller ∨ (call other).accepted = true := by
  by_cases equal : other = caller
  · subst other
    simp [pushed]
  · simp [equal]

end Flowing

theorem Transition.flowing {before after : State κ} {action : Action κ}
    (transition : Transition threads before action after) (built : before.Built threads)
    (flowing : before.Flowing) : after.Flowing := by
  cases transition with
  | buildRefuse => exact flowing
  | buildSpawn made spawning | buildLast made spawning =>
      rw [State.Built, spawning] at built
      simp only [State.Flowing, State.setWorker]
      rw [hand_update (by rw [built.unborn_next]; rfl)]
      exact flowing
  | workerAcquire tid contending =>
      simp only [State.Flowing, State.setWorker]
      rw [hand_update (by rw [contending]; rfl)]
      exact flowing
  | workerLeave tid locked | workerSleep tid locked =>
      simp only [State.Flowing, State.setWorker]
      rw [hand_update (by rw [locked]; rfl)]
      exact flowing
  | workerTake tid task rest locked queue =>
      simp only [State.Flowing, queue, State.setWorker, Function.comp_update] at flowing ⊢
      exact flowing.take (by rw [Function.comp_apply, locked]; rfl)
  | workerRun tid task outcome running =>
      simp only [State.Flowing, State.setWorker, Function.comp_update]
      exact flowing.finish (by rw [Function.comp_apply, running]; rfl)
  | workerWake tid sleeping =>
      simp only [State.Flowing, State.setWorker]
      rw [hand_update (by rw [sleeping]; rfl)]
      exact flowing
  | callEnter caller pc | callAcquire caller pc | callRefuse caller pc | callCheck caller pc
  | callNotifyNobody caller pc => exact flowing.congr (accepted_update (by rw [pc]; rfl))
  | callPush caller checked =>
      have refused : ¬ (before.call caller).accepted = true := by simp [checked, CallPc.accepted]
      exact (flowing.push refused).congr (accepted_update_push rfl)
  | callNotify caller tid pushed sleeping =>
      simp only [State.Flowing, State.setCall, State.setWorker]
      rw [hand_update (by rw [sleeping]; rfl)]
      exact flowing.congr (accepted_update (by rw [pushed]; rfl))
  | destroyNotify =>
      have same : (WorkerPc.hand ∘ fun tid => (before.worker tid).wake) = WorkerPc.hand ∘ before.worker := by
        funext tid
        cases pc : before.worker tid <;> simp [pc, WorkerPc.wake, WorkerPc.hand]
      simp only [State.Flowing]
      rw [same]
      exact flowing
  | destroyCall | destroyAcquire | destroyStop | destroyJoin | destroyReturn => exact flowing

/-! ## No notification is lost -/

def WorkerPc.active : WorkerPc κ → Bool
  | .contending | .locked | .running _ => true
  | _ => false

/-- As long as a task is queued, a worker is on its way to the queue or a call
is about to wake one. -/
def Awake (tasks : List κ) (worker : Nat → WorkerPc κ) (call : κ → CallPc) : Prop :=
  tasks ≠ [] → (∃ tid, (worker tid).active = true) ∨ ∃ caller, call caller = .pushed

abbrev State.Awake (state : State κ) : Prop :=
  ThreadPool.Awake state.tasks state.worker state.call

section Awake

variable {tasks : List κ} {worker : Nat → WorkerPc κ} {call : κ → CallPc} {tid : Nat} {caller : κ}

omit [DecidableEq κ] in
theorem Awake.of_active (call : κ → CallPc) {pc : WorkerPc κ} (active : pc.active = true) :
    Awake tasks (Function.update worker tid pc) call :=
  fun _ => .inl ⟨tid, by rw [Function.update_self, active]⟩

theorem Awake.setCall (awake : Awake tasks worker call) (settled : call caller ≠ .pushed) (pc : CallPc) :
    Awake tasks worker (Function.update call caller pc) := by
  intro nonempty
  rcases awake nonempty with active | ⟨other, pushed⟩
  · exact .inl active
  · have different : other ≠ caller := by
      rintro rfl
      exact settled pushed
    exact .inr ⟨other, by rw [Function.update_of_ne different, pushed]⟩

end Awake

theorem Transition.awake {before after : State κ} {action : Action κ}
    (transition : Transition threads before action after) (built : before.Built threads)
    (stopping : before.Stopping threads) (awake : before.Awake) : after.Awake := by
  cases transition with
  | buildSpawn | buildLast | workerAcquire | workerTake | workerRun | workerWake => exact Awake.of_active _ rfl
  | workerLeave tid locked empty | workerSleep tid locked empty => exact fun nonempty => absurd empty nonempty
  | callEnter caller pc | callAcquire caller pc | callRefuse caller pc | callCheck caller pc =>
      exact Awake.setCall awake (by simp [pc]) _
  | callPush caller => exact fun _ => .inr ⟨caller, Function.update_self ..⟩
  | callNotify caller tid => exact Awake.of_active _ rfl
  | callNotifyNobody caller pushed nobody =>
      -- all workers exist, none sleeps and none has left, so all are active
      intro nonempty
      have done := Built.used built (show before.call caller ≠ .idle by simp [pushed])
      have first := built.populated done
      have born : before.worker 0 ≠ .unborn := (built.born 0).mpr (by rw [done]; exact first)
      refine .inl ⟨0, ?_⟩
      show (before.worker 0).active = true
      cases pc : before.worker 0 with
      | unborn => exact absurd pc born
      | sleeping => exact absurd pc (nobody 0 first)
      | exited => exact absurd pc (Stopping.nobody stopping (.inr nonempty) 0)
      | contending | locked | running task => rfl
  | destroyNotify =>
      intro nonempty
      rcases awake nonempty with ⟨tid, active⟩ | pushed
      · refine .inl ⟨tid, ?_⟩
        cases pc : before.worker tid <;> simp [pc, WorkerPc.wake, WorkerPc.active] at active ⊢
      · exact .inr pushed
  | buildRefuse | destroyCall | destroyAcquire | destroyStop | destroyJoin | destroyReturn => exact awake

/-! ## Whole runs -/

structure Sound (threads : Nat) (state : State κ) : Prop where
  owned : Owned state
  built : state.Built threads
  stopping : state.Stopping threads
  flowing : state.Flowing
  awake : state.Awake
  listed : ∀ caller, caller ∈ state.begun ↔ state.call caller ≠ .idle

theorem Transition.listed {before after : State κ} {action : Action κ}
    (transition : Transition threads before action after)
    (listed : ∀ caller, caller ∈ before.begun ↔ before.call caller ≠ .idle) :
    ∀ caller, caller ∈ after.begun ↔ after.call caller ≠ .idle := by
  have keep (caller : κ) (busy : before.call caller ≠ .idle) {pc : CallPc} (stays : pc ≠ .idle) :
      ∀ other, other ∈ before.begun ↔ Function.update before.call caller pc other ≠ .idle :=
    (Function.forall_update_iff before.call fun other pc => other ∈ before.begun ↔ pc ≠ .idle).mpr
      ⟨iff_of_true ((listed caller).mpr busy) stays, fun other _ => listed other⟩
  cases transition with
  | callEnter caller =>
      refine (Function.forall_update_iff before.call fun other pc =>
        other ∈ before.begun ++ [caller] ↔ pc ≠ .idle).mpr ?_
      refine ⟨by simp, fun other different => ?_⟩
      rw [← listed other, List.mem_append, List.mem_singleton]
      exact or_iff_left different
  | callAcquire caller pc | callRefuse caller pc | callCheck caller pc | callPush caller pc
  | callNotify caller _ pc | callNotifyNobody caller pc => exact keep caller (by simp [pc]) (by simp)
  | buildRefuse | buildSpawn | buildLast | workerAcquire | workerLeave | workerSleep | workerTake
  | workerRun | workerWake | destroyCall | destroyAcquire | destroyStop | destroyNotify | destroyJoin
  | destroyReturn => exact listed

theorem sound_init (threads : Nat) : Sound threads (pool threads : Machine (State κ) _).init where
  owned agent := by cases agent <;> simp [pool, inside, WorkerPc.owns, CallPc.owns, DestroyPc.owns]
  built := ⟨by simp [pool, BuildPc.made], by simp [pool], nofun, fun _ => ⟨fun _ => rfl, rfl⟩⟩
  stopping := ⟨rfl, nofun, nofun, nofun, nofun⟩
  flowing := .empty (fun _ => rfl) (by simp [pool, CallPc.accepted])
  awake nonempty := absurd rfl nonempty
  listed caller := by simp [pool]

theorem Sound.step {before after : State κ} {action : Action κ} (sound : Sound threads before)
    (stepped : (pool threads).step before action = some after) : Sound threads after := by
  have transition : Transition threads before action after := poolStep_transition stepped
  have unborn (made : Nat) (spawning : before.builder = .spawning made) : before.worker made = .unborn := by
    have built := sound.built
    rw [State.Built, spawning] at built
    exact built.unborn_next
  exact ⟨transition.owned unborn sound.owned, transition.built sound.built,
    transition.stopping sound.owned sound.built sound.stopping, transition.flowing sound.built sound.flowing,
    transition.awake sound.built sound.stopping sound.awake, transition.listed sound.listed⟩

theorem sound_of_reachable {state : State κ} (reached : (pool threads).Reachable state) :
    Sound threads state := by
  refine reached.invariant (sound_init threads) ?_
  intro before action after sound _ stepped
  exact sound.step stepped

/-- When the destructor has returned, every worker has left, with the queue
empty. -/
theorem Sound.drained {state : State κ} (sound : Sound threads state) (returned : state.destructor = .returned)
    {caller : κ} (accepted : (state.call caller).accepted = true) : state.finished.count caller = 1 := by
  have done := Built.destroyed sound.built (by simp [returned])
  have gone (tid : Nat) (small : tid < threads) : state.worker tid = .exited :=
    sound.stopping.joined tid (by rw [returned]; exact small)
  have flowing := sound.flowing
  rw [State.Flowing, (sound.stopping.left 0 (gone 0 (sound.built.populated done))).2] at flowing
  refine flowing.drained (fun tid => ?_) accepted
  by_cases small : tid < threads
  · simp [gone tid small, WorkerPc.hand]
  · have unborn : state.worker tid = .unborn := by
      by_contra born
      have made := (sound.built.born tid).mp born
      rw [done] at made
      exact small made
    simp [unborn, WorkerPc.hand]

end TaskHive.LogSystem.ThreadPool
