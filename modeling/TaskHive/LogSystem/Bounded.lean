import TaskHive.LogSystem.Stream

namespace TaskHive.LogSystem

open Wire

/-! # The memory of a blocking `AsyncWorker`

In `BLOCKING_BOUNDED` mode a call writes only what fits behind the write
position.  The lock is held from the test to the write, so no swap comes
between them. -/

namespace Buffer

/-- The capacity from which the loop of `TobeEnough` starts. -/
def startCap (config : Config) (buffer : Buffer) : Nat :=
  if buffer.capacity = 0 then config.bufferSize else buffer.capacity

/-- The condition of the loop of `TobeEnough` holds at its first test. -/
def EntersGrowth (config : Config) (buffer : Buffer) (len : Nat) : Prop :=
  buffer.startCap config < len + buffer.writePos

section Room

variable {config : Config} {buffer : Buffer} {data : Bytes}

theorem capacity_write (fits : buffer.writePos + data.length ≤ buffer.capacity) :
    (buffer.write data).capacity = buffer.capacity := by
  change (buffer.resize (buffer.writePos + data.length)).capacity = buffer.capacity
  unfold resize
  split
  · exact Nat.max_eq_left fits
  · rfl

theorem Valid.fits_of_room (valid : buffer.Valid) (room : data.length ≤ buffer.writeableSize) :
    buffer.writePos + data.length ≤ buffer.capacity := by
  have inside := Nat.le_trans valid.inside valid.fits
  unfold writeableSize at room
  omega

theorem startCap_of_sized (sized : buffer.capacity = config.bufferSize) : buffer.startCap config = buffer.capacity := by
  unfold startCap
  split
  · exact sized.symm
  · rfl

theorem Valid.not_entersGrowth (valid : buffer.Valid) (sized : buffer.capacity = config.bufferSize)
    (room : data.length ≤ buffer.writeableSize) : ¬ buffer.EntersGrowth config data.length := by
  have fits := valid.fits_of_room room
  rw [EntersGrowth, startCap_of_sized sized]
  omega

/-- What fits is written without new memory. -/
theorem capacity_push {pushed : Buffer} (calm : ¬ buffer.EntersGrowth config data.length)
    (sized : buffer.capacity = config.bufferSize) (accepted : push config buffer data = some pushed) :
    pushed.capacity = buffer.capacity := by
  have start := startCap_of_sized sized
  have enough : data.length + buffer.writePos ≤ buffer.startCap config := Nat.not_lt.mp calm
  have reserved : tobeEnough config buffer data.length = some (buffer.reserve (buffer.startCap config)) := by
    rw [tobeEnough, ← startCap, growLoop_of_le enough]
    rfl
  rw [push, reserved, Option.map_some, Option.some.injEq] at accepted
  have capacity : (buffer.reserve (buffer.startCap config)).capacity = buffer.capacity := by
    rw [start]
    exact Nat.max_self _
  rw [← accepted, capacity_write, capacity]
  rw [capacity, ← start, Nat.add_comm]
  exact enough

end Room

end Buffer

/-- The callback leaves the vector of the buffer it gets as large as it is. -/
def Callback.KeepsCapacity (callback : Callback) : Prop :=
  ∀ index buffer left, callback index buffer = some left → left.1.capacity = buffer.1.capacity

theorem realFlush_keepsCapacity (sinks : Nat) : (realFlush sinks).KeepsCapacity := by
  intro index buffer left continues
  rw [(realFlush_eq_some continues).2]

/-- The call has found room and has not written yet. -/
def PushPc.tested : PushPc → Bool
  | .rechecking | .writing => true
  | _ => false

theorem PushPc.owns_of_tested {pc : PushPc} (tested : pc.tested = true) : pc.owns = true := by
  cases pc <;> first | rfl | cases tested

structure Roomy (setup : Setup κ) (state : State κ) : Prop where
  productor : state.bufferProductor.1.capacity = setup.config.bufferSize
  consumer : state.buffConsumer.1.capacity = setup.config.bufferSize
  room : ∀ caller, (state.push caller).tested = true →
    (setup.data caller).length ≤ state.bufferProductor.1.writeableSize

section Steps

variable [DecidableEq κ] {state : State κ} {caller : κ}

theorem Roomy.setPush (roomy : Roomy setup state) {pc : PushPc}
    (room : pc.tested = true → (setup.data caller).length ≤ state.bufferProductor.1.writeableSize) :
    Roomy setup (state.setPush caller pc) where
  productor := roomy.productor
  consumer := roomy.consumer
  room other tested := by
    by_cases same : other = caller
    · subst other
      exact room (by simpa [State.setPush] using tested)
    · exact roomy.room other (by simpa [State.setPush, same] using tested)

theorem Roomy.grant (roomy : Roomy setup state) {pc : PushPc} (untested : pc.tested = false) :
    Roomy setup (state.grant caller pc) := by
  have set : Roomy setup (state.setPush caller pc) := roomy.setPush (by simp [untested])
  exact { set with }

theorem Roomy.release (roomy : Roomy setup state) {pc : PushPc} (untested : pc.tested = false) :
    Roomy setup (state.release caller pc) := by
  have set : Roomy setup (state.setPush caller pc) := roomy.setPush (by simp [untested])
  exact { set with }

/-- The call that writes is the only one that has found room. -/
theorem Roomy.write (roomy : Roomy setup state) (guarded : Guarded state) (writing : state.push caller = .writing)
    {pushed : ValidBuffer} (written : state.bufferProductor.push setup.config (setup.data caller) = some pushed) :
    Roomy setup { state.setPush caller .written with
      bufferProductor := pushed, accepted := state.accepted ++ [caller] } where
  productor := by
    obtain ⟨raw, _, accepted, rfl⟩ := Option.pmap_eq_some_iff.mp written
    have room := roomy.room caller (by rw [writing]; rfl)
    have calm := state.bufferProductor.2.not_entersGrowth roomy.productor room
    exact (Buffer.capacity_push calm roomy.productor accepted).trans roomy.productor
  consumer := roomy.consumer
  room other tested := by
    by_cases same : other = caller
    · subst other
      simp [State.setPush, PushPc.tested] at tested
    · have owner : state.inside (.push caller) = true := by simp [State.inside, writing, PushPc.owns]
      have second : state.inside (.push other) = true :=
        PushPc.owns_of_tested (by simpa [State.setPush, same] using tested)
      exact absurd (Owner.push.inj (guarded.unique owner second)) same

omit [DecidableEq κ] in
/-- Nobody has found room in the buffer that is swapped away. -/
theorem Roomy.swap (roomy : Roomy setup state) (guarded : Guarded state) (swapping : state.consumer = .swapping) :
    Roomy setup { state.setConsumer .swapped with
      bufferProductor := state.buffConsumer, buffConsumer := state.bufferProductor } where
  productor := roomy.consumer
  consumer := roomy.productor
  room other tested := by
    have owner : state.inside .consumer = true := by simp [State.inside, swapping, ConsumerPc.owns]
    have second : state.inside (.push other) = true := PushPc.owns_of_tested tested
    cases guarded.unique owner second

theorem Transition.roomy {before after : State κ} {action : Action κ}
    (transition : Transition setup before action after) (guarded : Guarded before)
    (bounded : setup.asyncType = .blockingBounded) (keeps : setup.callback.KeepsCapacity)
    (roomy : Roomy setup before) : Roomy setup after := by
  cases transition with
  | pushEnter | pushWake => exact roomy.grant rfl
  | pushReject | pushWait | pushReturn => exact roomy.release rfl
  | pushPass =>
      rw [if_pos bounded]
      exact roomy.setPush (by simp [PushPc.tested])
  | pushFits caller awaiting room => exact roomy.setPush fun _ => room
  | pushRecheck caller rechecking =>
      exact roomy.setPush fun _ => roomy.room caller (by rw [rechecking]; rfl)
  | pushWrite caller writing pushed written => exact roomy.write guarded writing written
  | consumerSwap swapping => exact roomy.swap guarded swapping
  | consumerFlush index flushing left continues =>
      exact { roomy with consumer := (keeps index _ left continues).trans roomy.consumer }
  | consumerEnter | consumerWake | consumerWait | consumerReady | consumerSleep | consumerRelease | consumerCall
  | consumerReturn | consumerReset | consumerRepeat | consumerStopped | consumerExit | stopCall | stopJoin =>
      exact { roomy with }

theorem roomy_of_reachable (bounded : setup.asyncType = .blockingBounded) (keeps : setup.callback.KeepsCapacity)
    {state : State κ} (reached : (asyncWorker setup).Reachable state) : Guarded state ∧ Roomy setup state := by
  refine @Machine.ReachableBy.invariant _ _ (asyncWorker setup) _
    (fun state => Guarded state ∧ Roomy setup state) _ reached ⟨(delivering_init setup).guarded, ?_⟩ ?_
  · exact ⟨rfl, rfl, by simp [asyncWorker, PushPc.tested]⟩
  · rintro before action after ⟨guarded, roomy⟩ _ stepped
    have transition := asyncStep_transition stepped
    exact ⟨transition.guarded guarded, transition.roomy guarded bounded keeps roomy⟩

end Steps

/-- Both vectors are as large as they were made, the write positions are inside
them, and no call that is about to write enters the growth loop. -/
structure FixedMemory (setup : Setup κ) (state : State κ) : Prop where
  productor : state.bufferProductor.1.capacity = (Buffer.new setup.config).capacity
  consumer : state.buffConsumer.1.capacity = (Buffer.new setup.config).capacity
  productorPos : state.bufferProductor.1.writePos ≤ state.bufferProductor.1.capacity
  consumerPos : state.buffConsumer.1.writePos ≤ state.buffConsumer.1.capacity
  calm : ∀ caller, state.push caller = .writing →
    ¬ state.bufferProductor.1.EntersGrowth setup.config (setup.data caller).length

/-- A blocking worker keeps to the memory it starts with, as long as its
callback does. -/
theorem bounded_worker_uses_fixed_memory [DecidableEq κ] (setup : Setup κ)
    (bounded : setup.asyncType = .blockingBounded) (keeps : setup.callback.KeepsCapacity) (state : State κ)
    (reached : (asyncWorker setup).Reachable state) : FixedMemory setup state := by
  obtain ⟨_, roomy⟩ := roomy_of_reachable bounded keeps reached
  have productor := state.bufferProductor.2
  have consumer := state.buffConsumer.2
  refine ⟨roomy.productor, roomy.consumer, ?_, ?_, fun caller writing => ?_⟩
  · exact Nat.le_trans productor.inside productor.fits
  · exact Nat.le_trans consumer.inside consumer.fits
  · exact productor.not_entersGrowth roomy.productor (roomy.room caller (by rw [writing]; rfl))

/-- The first call has been handed over, and the second one is about to write. -/
theorem two_sinks_use_fixed_memory :
    ∃ state, (asyncWorker twoSinks).Reachable state ∧ state.push 1 = .writing ∧ state.handed = [0] ∧
      FixedMemory twoSinks state := by
  obtain ⟨state, reached, writing, handed⟩ :=
    (asyncWorker twoSinks).reachableBy_of_any (fun _ _ => True)
      (fun state => state.push 1 = .writing ∧ state.handed = [0])
      (List.replicate 6 (Action.push 0) ++ List.replicate 9 Action.consumer ++ List.replicate 4 (Action.push 1))
      (by decide)
  exact ⟨state, reached, writing, handed,
    bounded_worker_uses_fixed_memory twoSinks rfl (realFlush_keepsCapacity 2) state reached⟩

end TaskHive.LogSystem
