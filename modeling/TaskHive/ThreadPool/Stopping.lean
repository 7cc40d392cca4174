import Mathlib.Algebra.BigOperators.Intervals
import TaskHive.Ending
import TaskHive.ThreadPool.ThreadTable

namespace TaskHive.ThreadPool

/-! # `stop` returns

Once `stop` has cleared the flag, no wait keeps a thread: the workers drain the
queue and leave, calls are refused or push the task that they were about to
push, and `stop` can join.  Every step brings the end nearer, also the step of a
worker that would still add a thread. -/

variable {κ : Type} {config : Config} {kind : κ → CallKind}

/-! ## Registered threads exist -/

structure Born (worker : Nat → WorkerPc κ) (threads : List Nat) (starter : StartPc) : Prop where
  registered : ∀ tid ∈ threads, worker tid ≠ .unborn
  starting : ∀ left tid, starter = .spawning left (.register tid) → worker tid ≠ .unborn
  scaling : ∀ older tid, worker older = .scaling (.register tid) → worker tid ≠ .unborn

section Born

variable {worker : Nat → WorkerPc κ} {threads : List Nat} {starter : StartPc} {tid : Nat} {pc : WorkerPc κ}

theorem update_ne_unborn {other : Nat} (present : worker other ≠ .unborn) (alive : pc ≠ .unborn) :
    Function.update worker tid pc other ≠ .unborn := by
  by_cases same : other = tid
  · subst other
    rwa [Function.update_self]
  · rwa [Function.update_of_ne same]

theorem Born.setWorker (born : Born worker threads starter) (alive : pc ≠ .unborn)
    (young : ∀ next, pc = .scaling (.register next) → Function.update worker tid pc next ≠ .unborn) :
    Born (Function.update worker tid pc) threads starter where
  registered other member := update_ne_unborn (born.registered other member) alive
  starting left other spawning := update_ne_unborn (born.starting left other spawning) alive
  scaling older other adding := by
    by_cases same : older = tid
    · subst older
      rw [Function.update_self] at adding
      exact young other adding
    · rw [Function.update_of_ne same] at adding
      exact update_ne_unborn (born.scaling older other adding) alive

end Born

section Steps

variable [DecidableEq κ] {before after : State κ} {action : Action κ}

theorem Transition.born (transition : Transition config kind before action after)
    (born : Born before.worker before.threads before.starter) : Born after.worker after.threads after.starter := by
  cases transition with
  | workerAcquire | workerReclaim | workerTimeout | workerLeave | workerSkip | workerTake | workerRun | workerScale
  | workerNoScale => exact born.setWorker (by simp) (by simp)
  | workerSettle =>
      refine born.setWorker ?_ ?_
      · split <;> simp
      · intro next adding
        split at adding <;> cases adding
  | workerSpawn tid phase scaling =>
      cases phase with
      | create =>
          have created : Born (Function.update before.worker (before.threadIdCounter + 1) .waiting) before.threads
              before.starter := born.setWorker (by simp) (by simp)
          refine created.setWorker (by simp [spawnStep]) ?_
          intro next adding
          cases adding
          exact update_ne_unborn (by simp) (by simp [spawnStep])
      | register young =>
          have moved :
              Born (Function.update before.worker tid (.scaling .countCurrent)) before.threads before.starter :=
            born.setWorker (by simp) (by simp)
          refine ⟨?_, moved.starting, moved.scaling⟩
          intro other member
          rcases List.mem_append.mp member with old | new
          · exact moved.registered other old
          · rw [List.mem_singleton.mp new]
            exact update_ne_unborn (born.scaling tid young scaling) (by simp [spawnStep])
      | countCurrent | countIdle => exact born.setWorker (by simp [spawnStep]) (by simp [spawnStep])
  | callEnter | callNotRunning | callAcquire | callTimeout | callCheck | callStopped | callPush | stopCall | stopSync
  | stopClear => exact born
  | startCall =>
      refine ⟨born.registered, ?_, born.scaling⟩
      intro left tid spawning
      simp only at spawning
      split at spawning <;> cases spawning
  | startSpawn left phase spawning =>
      cases phase with
      | create =>
          have created : Born (Function.update before.worker (before.threadIdCounter + 1) .waiting) before.threads
              before.starter := born.setWorker (by simp) (by simp)
          refine ⟨created.registered, ?_, created.scaling⟩
          intro left' tid' next
          cases next
          change Function.update before.worker _ .waiting (before.threadIdCounter + 1) ≠ .unborn
          simp
      | register young =>
          refine ⟨?_, ?_, born.scaling⟩
          · intro other member
            rcases List.mem_append.mp member with old | new
            · exact born.registered other old
            · rw [List.mem_singleton.mp new]
              exact born.starting left young spawning
          · intro left' tid' next
            cases next
      | countCurrent =>
          refine ⟨born.registered, ?_, born.scaling⟩
          intro left' tid' next
          cases next
      | countIdle =>
          refine ⟨born.registered, ?_, born.scaling⟩
          intro left' tid' next
          simp only [spawnStep, Option.elim_none] at next
          split at next <;> cases next
  | stopJoin => exact ⟨by simp, born.starting, born.scaling⟩

end Steps

/-! ## What is left to do -/

/-- A worker that adds a thread leaves behind what the new thread has to do. -/
def WorkerPc.left : WorkerPc κ → Nat
  | .unborn | .exited => 0
  | .locked => 1
  | .waiting => 2
  | .scaling .countIdle => 3
  | .scaling .countCurrent => 4
  | .scaling (.register _) => 5
  | .scaling .create => 8
  | .scaleCheck => 9
  | .ran => 10
  | .running _ => 11

/-- A call that has found the flag set will push a task. -/
def CallPc.left : CallPc → Nat
  | .returned | .threw _ => 0
  | .locked => 1
  | .entered => 2
  | .idle => 3
  | .checked => 12

def StopPc.left : StopPc → Nat
  | .idle | .returned => 0
  | .clearing => 1
  | .joining => 2
  | .syncing => 3

def State.left [Fintype κ] (state : State κ) : Nat :=
  11 * state.taskQue.length + weight WorkerPc.left (Finset.range (state.threadIdCounter + 1)) state.worker +
    weight CallPc.left Finset.univ state.call + state.stopper.left

section Left

variable {state : State κ}

end Left

section Ending

variable [DecidableEq κ] [Fintype κ] {before after : State κ} {action : Action κ}

end Ending

/-! ## Nothing is stuck -/

section Moving

variable [DecidableEq κ] {policy : SubmitPolicy} {state : State κ}

theorem Transition.begun {before after : State κ} {action : Action κ}
    (transition : Transition config kind before action after) (begun : before.stopper ≠ .idle) :
    after.stopper ≠ .idle := by
  cases transition with
  | workerSpawn _ phase | startSpawn _ phase => cases phase <;> exact begun
  | stopCall | stopSync | stopJoin | stopClear => simp
  | _ => exact begun

end Moving

/-- A run of one life in which `stop` has been called. -/
def Stopping [DecidableEq κ] (config : Config) (kind : κ → CallKind) (policy : SubmitPolicy) (state : State κ) : Prop :=
  (pool config kind).ReachableBy (OneLife policy) state ∧ state.stopper ≠ .idle

theorem Stopping.crewed [DecidableEq κ] {policy : SubmitPolicy} {state : State κ}
    (stopping : Stopping config kind policy state) (nonempty : 1 ≤ config.initThreadSize) : Crewed config state :=
  crewed_of_reachable nonempty (stopping.1.mono fun _ _ permitted => permitted.1)

end TaskHive.ThreadPool
