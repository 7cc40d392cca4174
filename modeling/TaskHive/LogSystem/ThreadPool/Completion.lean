import TaskHive.LogSystem.ThreadPool.Safety
import TaskHive.Tally

namespace TaskHive.LogSystem.ThreadPool

variable {κ : Type} [DecidableEq κ] {threads : Nat}

/-! # Every accepted task is executed

A run in which no further call begins and nobody wakes for no reason comes to
an end, whoever is scheduled; and when nothing is left to do, every accepted
task has been executed. -/

/-- The steps of the threads and of the calls that have begun.  Tasks end, one
way or another. -/
def Own (_ : State κ) : Action κ → Prop
  | .worker _ .wakeSpuriously | .call _ .enter | .destroy .call => False
  | _ => True

instance (state : State κ) (action : Action κ) : Decidable (Own state action) := by
  unfold Own
  split <;> infer_instance

/-! ## The work that is left -/

def WorkerPc.rank : WorkerPc κ → Nat
  | .unborn | .sleeping | .exited => 0
  | .locked => 1
  | .contending => 2
  | .running _ => 3

/-- A push puts a task into the queue, a notification wakes a worker. -/
def CallPc.rank : CallPc → Nat
  | .idle | .returned | .threw _ => 0
  | .pushed => 3
  | .checked => 7
  | .locked => 8
  | .contending => 9

def BuildPc.rank (threads : Nat) : BuildPc → Nat
  | .spawning made => 3 * (threads - made) + 1
  | .returned | .threw _ => 0

/-- The destructor may wake all workers. -/
def DestroyPc.rank (threads : Nat) : DestroyPc → Nat
  | .idle | .returned => 0
  | .joining next => threads - next + 1
  | .stopped => 3 * threads + 2
  | .locked => 3 * threads + 3
  | .contending => 3 * threads + 4

def State.workLeft (threads : Nat) (state : State κ) : Nat :=
  weight WorkerPc.rank (Finset.range threads) state.worker + weight CallPc.rank state.begun.toFinset state.call +
    3 * state.tasks.length + state.builder.rank threads + state.destructor.rank threads

omit [DecidableEq κ] in
theorem WorkerPc.rank_wake_le (pc : WorkerPc κ) : pc.wake.rank ≤ pc.rank + 2 := by
  cases pc <;> simp [wake, rank]

omit [DecidableEq κ] in
theorem Built.small {builder : BuildPc} {worker : Nat → WorkerPc κ} {call : κ → CallPc}
    {destructor : DestroyPc} (built : Built threads builder worker call destructor) {tid : Nat}
    (born : worker tid ≠ .unborn) : tid ∈ Finset.range threads := by
  have made := (built.born tid).mp born
  rw [Finset.mem_range]
  cases builder with
  | spawning count =>
      have bounded := built.bounded count rfl
      simp only [BuildPc.made] at made
      omega
  | returned => exact made
  | threw what => cases made

theorem Transition.workLeft_lt {before after : State κ} {action : Action κ}
    (transition : Transition threads before action after) (own : Own before action)
    (sound : Sound threads before) : after.workLeft threads < before.workLeft threads := by
  have worker {tid : Nat} (born : before.worker tid ≠ .unborn) (pc : WorkerPc κ) :=
    @weight_update _ _ WorkerPc.rank _ before.worker _ _ (Built.small sound.built born) pc
  have call {caller : κ} (busy : before.call caller ≠ .idle) (pc : CallPc) :=
    @weight_update _ _ CallPc.rank before.begun.toFinset before.call _ _
      (List.mem_toFinset.mpr ((sound.listed caller).mpr busy)) pc
  have spawn {made : Nat} (spawning : before.builder = .spawning made) (inside : made < threads) :
      weight WorkerPc.rank (Finset.range threads) (Function.update before.worker made .contending) =
        weight WorkerPc.rank (Finset.range threads) before.worker + 2 := by
    have built := sound.built
    rw [State.Built, spawning] at built
    have added := @weight_update _ _ WorkerPc.rank _ before.worker _ _ (Finset.mem_range.mpr inside) .contending
    rw [built.unborn_next] at added
    exact added
  cases transition with
  | buildRefuse made spawning zero => simp [State.workLeft, spawning, BuildPc.rank]
  | buildSpawn made spawning more =>
      have spawned := spawn spawning (by omega)
      simp only [State.workLeft, State.setWorker, spawning, BuildPc.rank]
      omega
  | buildLast made spawning nonzero last =>
      have bounded := sound.built.bounded made spawning
      have spawned := spawn spawning (by omega)
      simp only [State.workLeft, State.setWorker, spawning, BuildPc.rank]
      omega
  | workerAcquire tid contending =>
      have moved := worker (show before.worker tid ≠ .unborn by simp [contending]) .locked
      simp only [contending, WorkerPc.rank] at moved
      simp only [State.workLeft, State.setWorker]
      omega
  | workerLeave tid locked =>
      have moved := worker (show before.worker tid ≠ .unborn by simp [locked]) .exited
      simp only [locked, WorkerPc.rank] at moved
      simp only [State.workLeft, State.setWorker]
      omega
  | workerSleep tid locked =>
      have moved := worker (show before.worker tid ≠ .unborn by simp [locked]) .sleeping
      simp only [locked, WorkerPc.rank] at moved
      simp only [State.workLeft, State.setWorker]
      omega
  | workerTake tid task rest locked queue =>
      have moved := worker (show before.worker tid ≠ .unborn by simp [locked]) (.running task)
      simp only [locked, WorkerPc.rank] at moved
      simp only [State.workLeft, State.setWorker, queue, List.length_cons]
      omega
  | workerRun tid task outcome running =>
      have moved := worker (show before.worker tid ≠ .unborn by simp [running]) .contending
      simp only [running, WorkerPc.rank] at moved
      simp only [State.workLeft, State.setWorker]
      omega
  | callAcquire caller contending =>
      have moved := call (show before.call caller ≠ .idle by simp [contending]) .locked
      simp only [contending, CallPc.rank] at moved
      simp only [State.workLeft, State.setCall]
      omega
  | callRefuse caller locked =>
      have moved := call (show before.call caller ≠ .idle by simp [locked])
        (.threw "enqueue on stopped ThreadPool")
      simp only [locked, CallPc.rank] at moved
      simp only [State.workLeft, State.setCall]
      omega
  | callCheck caller locked =>
      have moved := call (show before.call caller ≠ .idle by simp [locked]) .checked
      simp only [locked, CallPc.rank] at moved
      simp only [State.workLeft, State.setCall]
      omega
  | callPush caller checked =>
      have moved := call (show before.call caller ≠ .idle by simp [checked]) .pushed
      simp only [checked, CallPc.rank] at moved
      simp only [State.workLeft, State.setCall, List.length_append, List.length_singleton]
      omega
  | callNotify caller tid pushed sleeping =>
      have moved := call (show before.call caller ≠ .idle by simp [pushed]) .returned
      have woken := worker (show before.worker tid ≠ .unborn by simp [sleeping]) .contending
      simp only [pushed, CallPc.rank] at moved
      simp only [sleeping, WorkerPc.rank] at woken
      simp only [State.workLeft, State.setCall, State.setWorker]
      omega
  | callNotifyNobody caller pushed =>
      have moved := call (show before.call caller ≠ .idle by simp [pushed]) .returned
      simp only [pushed, CallPc.rank] at moved
      simp only [State.workLeft, State.setCall]
      omega
  | destroyAcquire contending => simp [State.workLeft, contending, DestroyPc.rank]
  | destroyStop locked => simp [State.workLeft, locked, DestroyPc.rank]
  | destroyNotify stopped =>
      have woken := @weight_map_le _ _ WorkerPc.rank (Finset.range threads) before.worker _ _
        WorkerPc.rank_wake_le
      rw [Finset.card_range] at woken
      simp only [State.workLeft, stopped, DestroyPc.rank]
      omega
  | destroyJoin next joining more =>
      simp only [State.workLeft, joining, DestroyPc.rank]
      omega
  | destroyReturn next joining =>
      simp only [State.workLeft, joining, DestroyPc.rank]
      omega
  | workerWake | callEnter | destroyCall => exact own.elim

/-! ## Nothing left to do -/

/-- No thread and no call in progress can take a step. -/
def Stuck (threads : Nat) (state : State κ) : Prop :=
  ∀ action, Own state action → (pool threads).step state action = none

section Stuck

variable {state : State κ}

theorem Sound.unlocked (sound : Sound threads state) (stuck : Stuck threads state) : state.queueMutex = none := by
  cases owner : state.queueMutex with
  | none => rfl
  | some agent =>
      -- whoever is in the critical section can go on
      have entered := (sound.owned agent).mpr owner
      cases agent with
      | worker tid =>
          have locked : state.worker tid = .locked := by
            cases pc : state.worker tid <;> simp [inside, pc, WorkerPc.owns] at entered ⊢
          have halted := stuck (.worker tid .decide) trivial
          simp only [pool, poolStep, workerStep, locked, if_true] at halted
          split at halted <;> cases halted
      | call caller =>
          cases pc : state.call caller <;> simp [inside, pc, CallPc.owns] at entered
          case locked =>
              have halted := stuck (.call caller .check) trivial
              simp only [pool, poolStep, callStep, pc, if_true] at halted
              split at halted <;> cases halted
          case checked =>
              have halted := stuck (.call caller .push) trivial
              simp [pool, poolStep, callStep, pc] at halted
      | destructor =>
          have locked : state.destructor = .locked := by
            cases pc : state.destructor <;> simp [inside, pc, DestroyPc.owns] at entered ⊢
          have halted := stuck (.destroy .setStop) trivial
          simp [pool, poolStep, destroyStep, locked] at halted

theorem Sound.inactive (sound : Sound threads state) (stuck : Stuck threads state) (tid : Nat) :
    (state.worker tid).active = false := by
  have free := sound.unlocked stuck
  cases pc : state.worker tid with
  | contending =>
      have halted := stuck (.worker tid .acquire) trivial
      simp [pool, poolStep, workerStep, pc, free] at halted
  | locked =>
      have owner := (sound.owned (.worker tid)).mp (by rw [inside, pc]; rfl)
      rw [free] at owner
      cases owner
  | running task =>
      have halted := stuck (.worker tid (.run .returned)) trivial
      simp [pool, poolStep, workerStep, pc] at halted
  | unborn | sleeping | exited => rfl

theorem Stuck.notified (stuck : Stuck threads state) (caller : κ) :
    state.call caller ≠ .pushed := by
  intro pushed
  by_cases awake : ∀ tid < threads, state.worker tid ≠ .sleeping
  · have halted := stuck (.call caller (.notifyOne none)) trivial
    simp only [pool, poolStep, callStep, pushed, if_true, if_pos awake] at halted
    cases halted
  · obtain ⟨tid, _, sleeping⟩ : ∃ tid, tid < threads ∧ state.worker tid = .sleeping := by
      simpa using awake
    have halted := stuck (.call caller (.notifyOne (some tid))) trivial
    simp [pool, poolStep, callStep, pushed, sleeping] at halted

/-- Everybody sleeps or has left, so nothing is queued and nothing runs. -/
theorem Sound.settled (sound : Sound threads state) (stuck : Stuck threads state) {caller : κ}
    (accepted : (state.call caller).accepted = true) : state.finished.count caller = 1 := by
  have empty : state.tasks = [] := by
    by_contra nonempty
    rcases sound.awake nonempty with ⟨tid, active⟩ | ⟨other, pushed⟩
    · rw [sound.inactive stuck tid] at active
      cases active
    · exact stuck.notified other pushed
  have flowing := sound.flowing
  rw [State.Flowing, empty] at flowing
  refine flowing.drained (fun tid => ?_) accepted
  have inactive := sound.inactive stuck tid
  cases pc : state.worker tid <;> simp [pc, WorkerPc.active, WorkerPc.hand] at inactive ⊢

end Stuck

/-! ## Whole runs -/

/-- The pool's own steps come to an end, whichever are taken, and then every
accepted task has been executed once. -/
def Completes (threads : Nat) (state : State κ) : Prop :=
  ∃ bound, ∀ schedule final, (pool threads).runWhile Own state schedule = some final →
    schedule.length ≤ bound ∧
      (Stuck threads final → ∀ caller, (final.call caller).accepted = true → final.finished.count caller = 1)

theorem Sound.completes {state : State κ} (sound : Sound threads state) : Completes threads state := by
  refine ⟨state.workLeft threads, fun schedule final executed => ?_⟩
  obtain ⟨finalSound, paid⟩ := Machine.length_add_le_of_runWhile (State.workLeft threads)
    (fun before action after sound own stepped =>
      ⟨sound.step stepped, (poolStep_transition stepped).workLeft_lt own sound⟩) sound executed
  exact ⟨by omega, fun stuck caller => finalSound.settled stuck⟩

/-- What callers may rely on.  A call that threw has its task nowhere; a call
that pushed its task has it in exactly one place, so it never runs twice, and
it will run; tasks leave the queue in order; a task that ends, by an exception
or not, leaves its worker in the loop, and workers leave only a stopped and
empty pool; and the destructor returns with every accepted task executed. -/
structure ExecutesAcceptedOnce (threads : Nat) (state : State κ) : Prop where
  refused : ∀ caller what, state.call caller = .threw what →
    caller ∉ state.tasks ∧ (∀ tid, state.worker tid ≠ .running caller) ∧ caller ∉ state.taken ∧
      caller ∉ state.finished
  accepted : ∀ caller, (state.call caller).accepted = true →
    ∃ place, HeldOnce (WorkQueue.holds state.tasks (WorkerPc.hand ∘ state.worker) state.finished) caller place
  once : ∀ caller, state.finished.count caller ≤ 1
  ordered : state.enqueued = state.taken ++ state.tasks
  survives : ∀ tid outcome next, (pool threads).step state (.worker tid (.run outcome)) = some next →
    next.worker tid = .contending
  leaves : ∀ tid, state.worker tid = .exited → state.stop = true ∧ state.tasks = []
  drained : state.destructor = .returned →
    ∀ caller, (state.call caller).accepted = true → state.finished.count caller = 1
  completes : Completes threads state

theorem Sound.refused {state : State κ} (sound : Sound threads state) {caller : κ} {what : String}
    (threw : state.call caller = .threw what) :
    caller ∉ state.tasks ∧ (∀ tid, state.worker tid ≠ .running caller) ∧ caller ∉ state.taken ∧
      caller ∉ state.finished := by
  have unaccepted : ¬ (state.call caller).accepted = true := by simp [threw, CallPc.accepted]
  obtain ⟨unqueued, unheld, untaken, unfinished⟩ := sound.flowing.absent unaccepted
  refine ⟨unqueued, fun tid running => ?_, untaken, unfinished⟩
  exact unheld tid (by simp [running, WorkerPc.hand])

theorem worker_after_run {before after : State κ} {tid : Nat} {outcome : Outcome}
    (stepped : (pool threads).step before (.worker tid (.run outcome)) = some after) :
    after.worker tid = .contending := by
  have transition : Transition threads before (.worker tid (.run outcome)) after := poolStep_transition stepped
  cases transition with
  | workerRun => exact Function.update_self ..

/-- Whatever the number of threads, the calls, the tasks and the interleaving:
the pool executes every accepted task exactly once. -/
theorem log_pool_executes_accepted_once (threads : Nat) (state : State κ)
    (reached : (pool threads).Reachable state) : ExecutesAcceptedOnce threads state := by
  have sound := sound_of_reachable reached
  exact {
    refused := fun _ _ => sound.refused
    accepted := sound.flowing.custody.held
    once := sound.flowing.once
    ordered := sound.flowing.ordered
    survives := fun _ _ _ => worker_after_run
    leaves := sound.stopping.left
    drained := fun returned _ => sound.drained returned
    completes := sound.completes }

/-- Two workers: one is woken for the first task, which throws, while the
second task is pushed just before the flag is set, and a third call is refused. -/
theorem two_workers_drain :
    ∃ state, (pool 2 : Machine (State (Fin 3)) _).Reachable state ∧ state.destructor = .returned ∧
      state.call 0 = .returned ∧ state.call 1 = .returned ∧
      state.call 2 = .threw "enqueue on stopped ThreadPool" ∧ state.finished = [1, 0] ∧
      ExecutesAcceptedOnce 2 state := by
  obtain ⟨state, reached, returned, first, second, third, finished⟩ :=
    (pool 2 : Machine (State (Fin 3)) _).reachable_of_any
      [.build, .build, .worker 0 .acquire, .worker 0 .decide, .call 0 .enter, .call 1 .enter, .call 2 .enter,
        .call 0 .acquire, .call 0 .check, .call 0 .push, .call 0 (.notifyOne (some 0)), .worker 0 .acquire,
        .worker 0 .decide, .call 1 .acquire, .call 1 .check, .call 1 .push, .destroy .call, .destroy .acquire,
        .destroy .setStop, .call 2 .acquire, .call 2 .check, .worker 1 .acquire, .worker 1 .decide,
        .call 1 (.notifyOne none), .destroy .notifyAll, .worker 1 (.run .returned),
        .worker 0 (.run (.exception "failed")), .worker 1 .acquire, .worker 1 .decide, .worker 0 .acquire,
        .worker 0 .decide, .destroy .join, .destroy .join, .destroy .join]
      (by decide : ((pool 2 : Machine (State (Fin 3)) _).run _).any (fun state => decide
        (state.destructor = .returned ∧ state.call 0 = .returned ∧ state.call 1 = .returned ∧
          state.call 2 = .threw "enqueue on stopped ThreadPool" ∧ state.finished = [1, 0])) = true)
  exact ⟨state, reached, returned, first, second, third, finished, log_pool_executes_accepted_once 2 state reached⟩

end TaskHive.LogSystem.ThreadPool
