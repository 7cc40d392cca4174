import TaskHive.ThreadPool.AnyMode
import TaskHive.ThreadPool.ScaleUp

namespace TaskHive.ThreadPool

/-! # Who is at `threads_`

No lock guards `threads_`: `start` and a worker that adds a thread write to it,
and `stop` walks over it while it joins.  The model takes each of these accesses
as one step, which is what happens as long as two of them never come together:
in FIXED mode, and whenever the calls begin after `start` has returned. -/

variable {κ : Type} {config : Config}

inductive Accessor where
  | start
  | worker (tid : Nat)
  | stop
deriving DecidableEq

/-- The next thing this thread does is, or what it is doing contains, an access
to `threads_`. -/
def AtTable (state : State κ) : Accessor → Prop
  | .start => ∃ left tid, state.starter = .spawning left (.register tid)
  | .worker tid => ∃ young, state.worker tid = .scaling (.register young)
  | .stop => state.stopper = .joining

def Contended (state : State κ) : Prop :=
  ∃ first second, first ≠ second ∧ AtTable state first ∧ AtTable state second

/-- One life of the pool, with calls as the policy has them. -/
def OneLife (policy : SubmitPolicy) (state : State κ) (action : Action κ) : Prop :=
  OneLifecycle state action ∧ policy.Allows state action

instance [DecidableEq κ] (policy : SubmitPolicy) (state : State κ) (action : Action κ) :
    Decidable (OneLife policy state action) :=
  inferInstanceAs (Decidable (OneLifecycle state action ∧ policy.Allows state action))

/-- Without workers that add threads, only `start` and `stop` are left, and
`stop` comes after `start`. -/
theorem Lifecycle.uncontended {state : State κ} (lifecycle : Lifecycle state)
    (unscaling : ∀ tid phase, state.worker tid ≠ .scaling phase) : ¬ Contended state := by
  have alone : ¬ (AtTable state .start ∧ AtTable state .stop) := by
    rintro ⟨⟨left, tid, spawning⟩, joining⟩
    have idle := lifecycle.spawning left _ spawning
    rw [show state.stopper = .joining from joining] at idle
    cases idle
  rintro ⟨first, second, different, one, other⟩
  cases first with
  | worker tid =>
      obtain ⟨young, scaling⟩ := one
      exact unscaling tid _ scaling
  | start =>
      cases second with
      | start => exact different rfl
      | worker tid =>
          obtain ⟨young, scaling⟩ := other
          exact unscaling tid _ scaling
      | stop => exact alone ⟨one, other⟩
  | stop =>
      cases second with
      | start => exact alone ⟨other, one⟩
      | worker tid =>
          obtain ⟨young, scaling⟩ := other
          exact unscaling tid _ scaling
      | stop => exact different rfl

section Orderly

variable {kind : κ → CallKind} [DecidableEq κ] {policy : SubmitPolicy} {state : State κ}

/-- Nobody else is at `threads_` in FIXED mode, or if the calls begin after
`start` has returned. -/
theorem uncontended_of_reachable (threads : 1 ≤ config.initThreadSize)
    (orderly : config.mode = .fixed ∨ policy = .afterStart)
    (reached : (pool config kind).ReachableBy (OneLife policy) state) : ¬ Contended state := by
  have once : (pool config kind).ReachableBy OneLifecycle state := reached.mono fun _ _ permitted => permitted.1
  have lifecycle := (crewed_of_reachable threads once).lifecycle
  rcases orderly with fixed | rfl
  · have simple := (sound_of_reachable fixed threads once).staffed.simple
    exact lifecycle.uncontended fun tid => (simple tid).2
  · have unscaled := unscaled_afterStart (reached.mono fun _ _ permitted => permitted.2)
    exact lifecycle.uncontended unscaled.unscaling

end Orderly

variable {kind : Nat → CallKind}

/-- `start` has not registered its first thread, and there are two tasks. -/
def unregistered (config : Config) : State Nat where
  running := true
  taskQue := [0, 1]
  taskSize := 2
  threadIdCounter := 1
  worker := Function.update (fun _ => .unborn) 1 .waiting
  call := Function.update (Function.update (fun _ => .idle) 0 .returned) 1 .returned
  starter := .spawning config.initThreadSize (.register 1)
  enqueued := [0, 1]

theorem unregistered_reachable (threads : config.initThreadSize ≠ 0) (room : 1 < config.taskQueMaxThreshold) :
    (pool config kind).ReachableBy (OneLife .anytime) (unregistered config) := by
  have first : (0 : UInt32) < config.taskQueMaxThreshold := UInt32.lt_trans (by decide) room
  have executed : (pool config kind).runWhile (OneLife .anytime) (pool config kind).init
      [.start .call, .start .spawn, .call 0 .enter, .call 0 .acquire, .call 0 .check, .call 0 .push,
        .call 1 .enter, .call 1 .acquire, .call 1 .check, .call 1 .push] = some (unregistered config) := by
    simp [Machine.runWhile, OneLife, OneLifecycle, SubmitPolicy.Allows, pool, poolStep, startStep, spawnStep,
      callStep, State.setWorker, State.setCall, State.hasRoom, threads, first, room, unregistered]
  exact .of_runWhile .init executed

/-- `start` is about to register its first thread, and that thread, which has run
one of the tasks, is about to register another one. -/
theorem contended_overlap (cache : config.mode = .cache) (threads : config.initThreadSize ≠ 0)
    (hold : 0 < config.threadSizeThreadHold) (room : 1 < config.taskQueMaxThreshold) :
    ∃ state, (pool config kind).ReachableBy (OneLife .anytime) state ∧ Contended state := by
  have executed : (pool config kind).runWhile (OneLife .anytime) (unregistered config)
      [.worker 1 .acquire, .worker 1 .decide, .worker 1 .run, .worker 1 .settle, .worker 1 .scale,
        .worker 1 .spawn] =
      some { unregistered config with
        taskQue := [1]
        taskSize := 1
        threadIdCounter := 2
        worker := Function.update (Function.update (Function.update (fun _ => .unborn) 1 (.scaling .create)) 2
          .waiting) 1 (.scaling (.register 2))
        taken := [0]
        finished := [0] } := by
    simp [Machine.runWhile, OneLife, OneLifecycle, SubmitPolicy.Allows, pool, poolStep, workerStep, workerDecide,
      spawnStep, State.setWorker, State.wakes, unregistered, cache, hold]
  refine ⟨_, (unregistered_reachable threads room).of_runWhile executed, .start, .worker 1, by decide, ?_, ?_⟩
  · exact ⟨_, _, rfl⟩
  · exact ⟨2, by simp⟩

/-- Two threads come to `threads_` together in some run exactly if the pool is in
CACHE mode and calls may begin before `start` has returned. -/
theorem thread_table_contended_iff (config : Config) (kind : Nat → CallKind) (policy : SubmitPolicy)
    (threads : 1 ≤ config.initThreadSize) (hold : 0 < config.threadSizeThreadHold)
    (room : 1 < config.taskQueMaxThreshold) :
    (∃ state, (pool config kind).ReachableBy (OneLife policy) state ∧ Contended state) ↔
      config.mode = .cache ∧ policy = .anytime := by
  constructor
  · rintro ⟨state, reached, contended⟩
    cases mode : config.mode with
    | fixed => exact absurd contended (uncontended_of_reachable threads (.inl mode) reached)
    | cache =>
        cases policy with
        | anytime => exact ⟨rfl, rfl⟩
        | afterStart => exact absurd contended (uncontended_of_reachable threads (.inr rfl) reached)
  · rintro ⟨cache, rfl⟩
    exact contended_overlap cache (Nat.ne_of_gt threads) hold room

/-- `Worker` starts its pool before the thread that submits to it. -/
theorem worker_pool_table_uncontended :
    ¬ ∃ state, (pool workerPool fun _ : Nat => .submit).ReachableBy (OneLife .afterStart) state ∧ Contended state := by
  intro contended
  have early := ((thread_table_contended_iff workerPool (fun _ => .submit) .afterStart (by decide) (by decide)
    (by decide)).mp contended).2
  cases early

end TaskHive.ThreadPool
