import TaskHive.Ending
import TaskHive.LogSystem.Notifications
import TaskHive.Tally

namespace TaskHive.LogSystem

open Wire

variable {κ : Type} {setup : Setup κ} {sinks : Nat}

/-! # Every line that fits is delivered

`ThreadFunc` wakes one waiting call for each swap, and the call it wakes may
find the buffer filled again by a call that came later.  No waiting call is
forgotten: whoever fills the buffer makes the thread swap once more. -/

/-! ## What can happen while the worker runs -/

section Moves

variable [DecidableEq κ]

/-- The steps of a call of a blocking worker that is not stopped. -/
inductive PushMove (setup : Setup κ) (state : State κ) (caller : κ) : State κ → Prop where
  | enter (idle : state.push caller = .idle) (free : state.mutex = none) :
      PushMove setup state caller (state.grant caller .locked)
  | pass (locked : state.push caller = .locked) : PushMove setup state caller (state.setPush caller .awaiting)
  | fits (awaiting : state.push caller = .awaiting) :
      PushMove setup state caller (state.setPush caller .rechecking)
  | wait (awaiting : state.push caller = .awaiting)
      (full : state.bufferProductor.1.writeableSize < (setup.data caller).length) :
      PushMove setup state caller (state.release caller .waiting)
  | wake (waiting : state.push caller = .waiting) (free : state.mutex = none) :
      PushMove setup state caller (state.grant caller .awaiting)
  | recheck (rechecking : state.push caller = .rechecking) :
      PushMove setup state caller (state.setPush caller .writing)
  | write (writing : state.push caller = .writing) (pushed : ValidBuffer)
      (written : state.bufferProductor.push setup.config (setup.data caller) = some pushed) :
      PushMove setup state caller
        { state.setPush caller .written with bufferProductor := pushed, accepted := state.accepted ++ [caller] }
  | done (written : state.push caller = .written) : PushMove setup state caller (state.release caller .returned)

theorem pushStep_move {before after : State κ} {caller : κ} (bounded : setup.asyncType = .blockingBounded)
    (running : before.stop = false) (stepped : pushStep setup before caller = some after) :
    PushMove setup before caller after := by
  cases pc : before.push caller with
  | idle =>
      simp only [pushStep, pc] at stepped
      split at stepped
      · rename_i free
        cases stepped
        exact .enter pc free
      · cases stepped
  | locked =>
      simp only [pushStep, pc, running, Bool.false_eq_true, if_false, if_pos bounded] at stepped
      cases stepped
      exact .pass pc
  | awaiting =>
      simp only [pushStep, pc] at stepped
      split at stepped
      · cases stepped
        exact .fits pc
      · rename_i full
        cases stepped
        exact .wait pc (Nat.not_le.mp full)
  | waiting =>
      simp only [pushStep, pc] at stepped
      split at stepped
      · rename_i free
        cases stepped
        exact .wake pc free
      · cases stepped
  | rechecking =>
      simp only [pushStep, pc, running, Bool.false_eq_true, if_false] at stepped
      cases stepped
      exact .recheck pc
  | writing =>
      simp only [pushStep, pc] at stepped
      obtain ⟨pushed, written, rfl⟩ := Option.map_eq_some_iff.mp stepped
      exact .write pc pushed written
  | written =>
      simp only [pushStep, pc] at stepped
      cases stepped
      exact .done pc
  | returned | rejected => simp [pushStep, pc] at stepped

/-- The thread is in the part of its loop that it does not leave while `stop_`
is unset. -/
def ConsumerPc.loops : ConsumerPc → Bool
  | .testingEmpty | .exited => false
  | _ => true

/-- The steps of the thread while `stop_` is unset. -/
inductive ConsumerMove (setup : Setup κ) (state : State κ) : State κ → Prop where
  | enter (top : state.consumer = .top) :
      ConsumerMove setup state { state.setConsumer .locked with mutex := some .consumer }
  | quiet (locked : state.consumer = .locked) : ConsumerMove setup state (state.setConsumer .awaiting)
  | ready (inside : state.consumer = .locked ∨ state.consumer = .awaiting)
      (filled : state.bufferProductor.isEmpty = false) : ConsumerMove setup state (state.setConsumer .swapping)
  | sleep (awaiting : state.consumer = .awaiting) (empty : state.bufferProductor.isEmpty = true) :
      ConsumerMove setup state { state.setConsumer .sleeping with mutex := none }
  | wake (sleeping : state.consumer = .sleeping) :
      ConsumerMove setup state { state.setConsumer .awaiting with mutex := some .consumer }
  | swap (swapping : state.consumer = .swapping) :
      ConsumerMove setup state { state.setConsumer .swapped with
        bufferProductor := state.buffConsumer, buffConsumer := state.bufferProductor }
  | release (swapped : state.consumer = .swapped) :
      ConsumerMove setup state { state.setConsumer .calling with mutex := none }
  | call (calling : state.consumer = .calling) :
      ConsumerMove setup state
        { state.setConsumer (.flushing 0) with handed := state.handed ++ state.buffConsumer.unread }
  | flush (index : Nat) (flushing : state.consumer = .flushing index) (left : ValidBuffer)
      (continues : setup.callback index state.buffConsumer = some left) :
      ConsumerMove setup state { state.setConsumer (.flushing (index + 1)) with
        buffConsumer := left
        received := Function.update state.received index (state.received index ++ state.buffConsumer.unread) }
  | finish (index : Nat) (flushing : state.consumer = .flushing index) :
      ConsumerMove setup state (state.setConsumer .called)
  | reset (called : state.consumer = .called) :
      ConsumerMove setup state { state.setConsumer .testingStop with buffConsumer := state.buffConsumer.reset }
  | again (testing : state.consumer = .testingStop) : ConsumerMove setup state (state.setConsumer .top)

omit [DecidableEq κ] in
theorem consumerStep_move {before after : State κ} (running : before.stop = false)
    (loops : before.consumer.loops = true) (stepped : consumerStep setup before = some after) :
    ConsumerMove setup before after := by
  cases pc : before.consumer with
  | top =>
      simp only [consumerStep, pc] at stepped
      split at stepped
      · cases stepped
        exact .enter pc
      · cases stepped
  | locked =>
      simp only [consumerStep, pc, running, Bool.not_false, Bool.and_true] at stepped
      cases stepped
      split
      · exact .quiet pc
      · rename_i filled
        exact .ready (.inl pc) (by simpa using filled)
  | awaiting =>
      simp only [consumerStep, pc, running, Bool.false_or] at stepped
      split at stepped
      · rename_i filled
        cases stepped
        exact .ready (.inr pc) (by simpa using filled)
      · rename_i empty
        cases stepped
        exact .sleep pc (by simpa using empty)
  | sleeping =>
      simp only [consumerStep, pc] at stepped
      split at stepped
      · cases stepped
        exact .wake pc
      · cases stepped
  | swapping =>
      simp only [consumerStep, pc] at stepped
      cases stepped
      exact .swap pc
  | swapped =>
      simp only [consumerStep, pc] at stepped
      cases stepped
      exact .release pc
  | calling =>
      simp only [consumerStep, pc] at stepped
      cases stepped
      exact .call pc
  | flushing index =>
      simp only [consumerStep, pc] at stepped
      split at stepped
      · rename_i left continues
        cases stepped
        exact .flush index pc left continues
      · cases stepped
        exact .finish index pc
  | called =>
      simp only [consumerStep, pc] at stepped
      cases stepped
      exact .reset pc
  | testingStop =>
      simp only [consumerStep, pc, running] at stepped
      cases stepped
      exact .again pc
  | testingEmpty | exited => simp [pc, ConsumerPc.loops] at loops

end Moves

/-! ## What holds whether the lines fit or not -/

/-- A blocking logger that nobody has stopped. -/
structure Steady (setup : Setup κ) (state : Notified κ) : Prop where
  delivering : Delivering setup state.worker
  roomy : Roomy setup state.worker
  running : state.worker.stop = false
  loops : state.worker.consumer.loops = true
  filled : state.worker.consumer = .swapping → state.worker.bufferProductor.isEmpty = false
  productorStart : state.worker.bufferProductor.1.readPos = 0
  consumerStart : state.worker.buffConsumer.1.readPos = 0

theorem ValidBuffer.readPos_push {config : Config} {buffer pushed : ValidBuffer} {data : Bytes}
    (accepted : buffer.push config data = some pushed) : pushed.1.readPos = buffer.1.readPos := by
  obtain ⟨raw, _, same, rfl⟩ := Option.pmap_eq_some_iff.mp accepted
  obtain ⟨capacity, _, rfl⟩ := Buffer.push_eq_some same
  exact (Buffer.resize_frame _ _).1

/-- An empty buffer has room for all it was made for. -/
theorem Steady.room_of_empty {state : Notified κ} (steady : Steady setup state)
    (empty : state.worker.bufferProductor.isEmpty = true) :
    state.worker.bufferProductor.1.writeableSize = setup.config.bufferSize := by
  have same : state.worker.bufferProductor.1.writePos = state.worker.bufferProductor.1.readPos := by
    simpa [ValidBuffer.isEmpty, Buffer.isEmpty] using empty
  rw [Buffer.writeableSize, same, steady.productorStart, steady.roomy.productor, Nat.sub_zero]

section Steady

variable [DecidableEq κ] {before after : Notified κ} {signal : Signal κ}

theorem Steady.afterPush (steady : Steady setup before) (bounded : setup.asyncType = .blockingBounded)
    (logger : setup.callback = realFlush sinks) {caller : κ} {next : State κ}
    (stepped : pushStep setup before.worker caller = some next) : Steady setup (before.afterPush caller next) := by
  have transition := pushStep_transition stepped
  have keeps : setup.callback.KeepsCapacity := by
    rw [logger]
    exact realFlush_keepsCapacity sinks
  have delivering := transition.delivering steady.delivering
  have roomy := transition.roomy steady.delivering.guarded bounded keeps steady.roomy
  cases pushStep_move bounded steady.running stepped with
  | write writing pushed written =>
      -- The call holds the lock, so the thread is not about to swap.
      have owner : before.worker.inside (.push caller) = true := by simp [State.inside, writing, PushPc.owns]
      refine ⟨delivering, roomy, steady.running, steady.loops, fun swapping => ?_, ?_, steady.consumerStart⟩
      · have second : before.worker.inside .consumer = true := by
          rw [State.inside, show before.worker.consumer = .swapping from swapping]
          rfl
        cases steady.delivering.guarded.unique owner second
      · exact (ValidBuffer.readPos_push written).trans steady.productorStart
  | enter | pass | fits | wait | wake | recheck | done =>
      exact { steady with delivering, roomy }

theorem Steady.afterConsumer (steady : Steady setup before) (bounded : setup.asyncType = .blockingBounded)
    (logger : setup.callback = realFlush sinks) {woken : Option κ} {next : State κ}
    (stepped : consumerStep setup before.worker = some next) : Steady setup (before.afterConsumer woken next) := by
  have transition := consumerStep_transition stepped
  have keeps : setup.callback.KeepsCapacity := by
    rw [logger]
    exact realFlush_keepsCapacity sinks
  have delivering := transition.delivering steady.delivering
  have roomy := transition.roomy steady.delivering.guarded bounded keeps steady.roomy
  cases consumerStep_move steady.running steady.loops stepped with
  | ready _ filled =>
      exact ⟨delivering, roomy, steady.running, rfl, fun _ => filled, steady.productorStart, steady.consumerStart⟩
  | swap =>
      exact ⟨delivering, roomy, steady.running, rfl, by simp [Notified.afterConsumer, State.setConsumer],
        steady.consumerStart, steady.productorStart⟩
  | flush index _ left continues =>
      rw [logger] at continues
      obtain ⟨_, rfl⟩ := realFlush_eq_some continues
      exact ⟨delivering, roomy, steady.running, rfl, by simp [Notified.afterConsumer, State.setConsumer],
        steady.productorStart, steady.consumerStart⟩
  | reset =>
      exact ⟨delivering, roomy, steady.running, rfl, by simp [Notified.afterConsumer, State.setConsumer],
        steady.productorStart, rfl⟩
  | enter | quiet | sleep | wake | release | call | finish | again =>
      exact ⟨delivering, roomy, steady.running, rfl, by simp [Notified.afterConsumer, State.setConsumer],
        steady.productorStart, steady.consumerStart⟩

theorem Steady.step (steady : Steady setup before) (bounded : setup.asyncType = .blockingBounded)
    (logger : setup.callback = realFlush sinks) (step : Notified.Step setup before signal after) :
    Steady setup after := by
  cases step with
  | push caller _ next stepped => exact steady.afterPush bounded logger stepped
  | consumer woken _ _ next stepped => exact steady.afterConsumer bounded logger stepped
  | wakePush | wakeConsumer => exact { steady with }

theorem steady_of_reachable [Fintype κ] (bounded : setup.asyncType = .blockingBounded)
    (logger : setup.callback = realFlush sinks) {state : Notified κ}
    (reached : (notifyingWorker setup).Reachable state) : Steady setup state := by
  refine reached.invariant ?_ ?_
  · have keeps : setup.callback.KeepsCapacity := by
      rw [logger]
      exact realFlush_keepsCapacity sinks
    have start : (asyncWorker setup).Reachable (asyncWorker setup).init := .init
    have roomy := roomy_of_reachable bounded keeps start
    exact ⟨delivering_init setup, roomy.2, rfl, rfl, by simp [notifyingWorker, asyncWorker], rfl, rfl⟩
  · intro before signal after steady _ stepped
    exact steady.step bounded logger (notifyingStep_step stepped)

end Steady

/-! ## The work that is left -/

/-- A call that waits, woken or not, next to where the others are. -/
abbrev Call := PushPc × Bool

def Notified.calls (state : Notified κ) (caller : κ) : Call := (state.worker.push caller, state.push caller)

/-- What a filled buffer costs: the swap, the wake-up that follows it, and the
callback. -/
def swapCost (sinks : Nat) : Nat := sinks + 11

/-- A write fills the buffer, and the return wakes the thread. -/
def Call.rank (sinks : Nat) : Call → Nat
  | (.idle, _) => swapCost sinks + 8
  | (.locked, _) => swapCost sinks + 7
  | (.awaiting, _) => swapCost sinks + 6
  | (.waiting, woken) => swapCost sinks + 5 + 2 * woken.toNat
  | (.rechecking, _) => swapCost sinks + 5
  | (.writing, _) => swapCost sinks + 4
  | (.written, _) => 3
  | (.returned, _) | (.rejected, _) => 0

def ConsumerPc.rank (sinks : Nat) (woken : Bool) : ConsumerPc → Nat
  | .swapping | .exited => 0
  | .awaiting => 1
  | .sleeping => 2 * woken.toNat
  | .locked => 2
  | .top => 3
  | .testingStop | .testingEmpty => 4
  | .called => 5
  | .flushing index => 6 + (sinks - index)
  | .calling => 7 + sinks
  | .swapped => 10 + sinks

def fillCost (sinks : Nat) (buffer : ValidBuffer) : Nat := if buffer.isEmpty then 0 else swapCost sinks

theorem fillCost_le (sinks : Nat) (buffer : ValidBuffer) : fillCost sinks buffer ≤ swapCost sinks := by
  unfold fillCost
  split <;> omega

def Notified.workLeft [Fintype κ] (sinks : Nat) (state : Notified κ) : Nat :=
  weight (Call.rank sinks) Finset.univ state.calls + state.worker.consumer.rank sinks state.consumer +
    fillCost sinks state.worker.bufferProductor

section Measure

variable [DecidableEq κ] {before after : Notified κ} {signal : Signal κ}

theorem Notified.calls_afterPush (state : Notified κ) (caller : κ) {next : State κ} {pc : PushPc}
    (moved : next.push = Function.update state.worker.push caller pc) :
    (state.afterPush caller next).calls = Function.update state.calls caller (pc, false) := by
  funext other
  by_cases same : other = caller
  · subst other
    simp [Notified.calls, Notified.afterPush, moved]
  · simp [Notified.calls, Notified.afterPush, moved, same]

theorem Notified.calls_afterConsumer (state : Notified κ) {next : State κ} (unmoved : next.push = state.worker.push)
    (caller : κ) :
    (state.afterConsumer (some caller) next).calls =
      Function.update state.calls caller (state.worker.push caller, true) := by
  funext other
  by_cases same : other = caller
  · subst other
    simp [Notified.calls, Notified.afterConsumer, wake, unmoved]
  · simp [Notified.calls, Notified.afterConsumer, wake, unmoved, same]

omit [DecidableEq κ] in
/-- Only a thread that has just swapped wakes a call. -/
theorem Notified.woken_eq_none {woken : Option κ} (chosen : before.MayWake setup woken)
    (elsewhere : before.worker.consumer ≠ .swapped) : woken = none := by
  cases woken with
  | none => rfl
  | some caller => exact absurd chosen.1.2 elsewhere

/-- The thread's part of the work, after a call has moved. -/
theorem rank_afterPush_le (sinks : Nat) (caller : κ) (state : Notified κ) {next : State κ}
    (unmoved : next.consumer = state.worker.consumer) :
    (state.afterPush caller next).worker.consumer.rank sinks (state.afterPush caller next).consumer ≤
      state.worker.consumer.rank sinks state.consumer + if state.worker.push caller = .written then 2 else 0 := by
  simp only [Notified.afterPush, unmoved]
  cases pc : state.worker.consumer with
  | sleeping =>
      cases state.consumer <;> by_cases written : state.worker.push caller = .written <;>
        simp [ConsumerPc.rank, written]
  | _ => simp [ConsumerPc.rank]

variable [Fintype κ]

/-- It is enough to compare the ranks of the call that moves and what the
buffer costs. -/
theorem Notified.workLeft_push {state : Notified κ} {caller : κ} {next : State κ} (pc : PushPc)
    (moved : next.push = Function.update state.worker.push caller pc)
    (unmoved : next.consumer = state.worker.consumer)
    (paid : Call.rank sinks (pc, false) + fillCost sinks next.bufferProductor +
      (if state.worker.push caller = .written then 2 else 0) <
        Call.rank sinks (state.calls caller) + fillCost sinks state.worker.bufferProductor) :
    (state.afterPush caller next).workLeft sinks < state.workLeft sinks := by
  have call := @weight_update _ _ (Call.rank sinks) Finset.univ state.calls _ caller (Finset.mem_univ caller)
    (pc, false)
  have thread := rank_afterPush_le sinks caller state unmoved
  rw [← state.calls_afterPush caller moved] at call
  have filled : (state.afterPush caller next).worker.bufferProductor = next.bufferProductor := rfl
  simp only [Notified.workLeft, filled]
  omega

theorem Steady.workLeft_afterPush (steady : Steady setup before) (bounded : setup.asyncType = .blockingBounded)
    {caller : κ} (awake : before.pushSleeps caller = false) {next : State κ}
    (stepped : pushStep setup before.worker caller = some next) :
    (before.afterPush caller next).workLeft sinks < before.workLeft sinks := by
  cases pushStep_move bounded steady.running stepped with
  | enter idle =>
      refine Notified.workLeft_push .locked rfl rfl ?_
      simp [Notified.calls, idle, Call.rank, State.grant, State.setPush]
  | pass locked =>
      refine Notified.workLeft_push .awaiting rfl rfl ?_
      simp [Notified.calls, locked, Call.rank, State.setPush]
  | fits awaiting =>
      refine Notified.workLeft_push .rechecking rfl rfl ?_
      simp [Notified.calls, awaiting, Call.rank, State.setPush]
  | wait awaiting =>
      refine Notified.workLeft_push .waiting rfl rfl ?_
      simp [Notified.calls, awaiting, Call.rank, State.release, State.setPush]
  | wake waiting =>
      -- The call has been woken, or it could not move.
      have woken : before.push caller = true := by simpa [Notified.pushSleeps, waiting] using awake
      refine Notified.workLeft_push .awaiting rfl rfl ?_
      simp [Notified.calls, waiting, woken, Call.rank, State.grant, State.setPush]
  | recheck rechecking =>
      refine Notified.workLeft_push .writing rfl rfl ?_
      simp [Notified.calls, rechecking, Call.rank, State.setPush]
  | write writing pushed =>
      have filled := fillCost_le sinks pushed
      refine Notified.workLeft_push .written rfl rfl ?_
      simp only [Notified.calls, writing, Call.rank, reduceCtorEq, if_false]
      omega
  | done written =>
      refine Notified.workLeft_push .returned rfl rfl ?_
      simp only [Notified.calls, written, Call.rank, State.release, State.setPush, if_true]
      omega

/-- A step of the thread that wakes nobody. -/
theorem Notified.workLeft_consumer {state : Notified κ} {next : State κ} (unmoved : next.push = state.worker.push)
    (paid : next.consumer.rank sinks false + fillCost sinks next.bufferProductor <
      state.worker.consumer.rank sinks state.consumer + fillCost sinks state.worker.bufferProductor) :
    (state.afterConsumer none next).workLeft sinks < state.workLeft sinks := by
  have calls : (state.afterConsumer none next).calls = state.calls := by
    funext other
    simp [Notified.calls, Notified.afterConsumer, LogSystem.wake, unmoved]
  simp only [Notified.workLeft, calls]
  simp only [Notified.afterConsumer]
  omega

/-- The step that follows a swap pays for the call it wakes. -/
theorem Notified.workLeft_release {state : Notified κ} {woken : Option κ} (chosen : state.MayWake setup woken)
    (swapped : state.worker.consumer = .swapped) :
    (state.afterConsumer woken { state.worker.setConsumer .calling with mutex := none }).workLeft sinks <
      state.workLeft sinks := by
  cases woken with
  | none =>
      refine Notified.workLeft_consumer rfl ?_
      simp only [State.setConsumer, swapped, ConsumerPc.rank]
      omega
  | some caller =>
      have sleeps := chosen.2
      simp only [Notified.pushSleeps, Bool.and_eq_true, decide_eq_true_eq, Bool.not_eq_true'] at sleeps
      have call := @weight_update _ _ (Call.rank sinks) Finset.univ state.calls _ caller (Finset.mem_univ caller)
        (state.worker.push caller, true)
      have calls := state.calls_afterConsumer
        (show ({ state.worker.setConsumer .calling with mutex := none } : State κ).push = state.worker.push from rfl)
        caller
      rw [← calls] at call
      simp only [Notified.calls, sleeps.1, sleeps.2, Call.rank, Bool.toNat_true, Bool.toNat_false] at call
      simp only [Notified.workLeft, Notified.afterConsumer, State.setConsumer, swapped, ConsumerPc.rank] at call ⊢
      omega

theorem Steady.workLeft_afterConsumer (steady : Steady setup before) (logger : setup.callback = realFlush sinks)
    (awake : before.consumerSleeps = false) {woken : Option κ} (chosen : before.MayWake setup woken)
    {next : State κ} (stepped : consumerStep setup before.worker = some next) :
    (before.afterConsumer woken next).workLeft sinks < before.workLeft sinks := by
  have nobody := @Notified.woken_eq_none _ setup before woken chosen
  cases consumerStep_move steady.running steady.loops stepped with
  | release swapped => exact Notified.workLeft_release chosen swapped
  | enter pc | quiet pc | sleep pc | reset pc | again pc =>
      cases nobody (by simp [pc])
      refine Notified.workLeft_consumer rfl ?_
      simp [State.setConsumer, pc, ConsumerPc.rank]
  | ready inside =>
      rcases inside with pc | pc
      · cases nobody (by simp [pc])
        refine Notified.workLeft_consumer rfl ?_
        simp [State.setConsumer, pc, ConsumerPc.rank]
      · cases nobody (by simp [pc])
        refine Notified.workLeft_consumer rfl ?_
        simp [State.setConsumer, pc, ConsumerPc.rank]
  | wake sleeping =>
      have woken : before.consumer = true := by simpa [Notified.consumerSleeps, sleeping] using awake
      cases nobody (by simp [sleeping])
      refine Notified.workLeft_consumer rfl ?_
      simp [State.setConsumer, sleeping, woken, ConsumerPc.rank]
  | swap swapping =>
      -- The buffer that the calls get is empty.
      have drained := steady.delivering.streaming.drained (by rw [swapping]; rfl)
      have empty := before.worker.buffConsumer.isEmpty_iff.mpr drained
      have filled := steady.filled swapping
      cases nobody (by simp [swapping])
      refine Notified.workLeft_consumer rfl ?_
      simp only [State.setConsumer, swapping, ConsumerPc.rank, fillCost, empty, filled, swapCost, if_true,
        Bool.false_eq_true, if_false]
      omega
  | call calling =>
      cases nobody (by simp [calling])
      refine Notified.workLeft_consumer rfl ?_
      simp only [State.setConsumer, calling, ConsumerPc.rank]
      omega
  | flush index flushing left continues =>
      rw [logger] at continues
      have sink := (realFlush_eq_some continues).1
      cases nobody (by simp [flushing])
      refine Notified.workLeft_consumer rfl ?_
      simp only [State.setConsumer, flushing, ConsumerPc.rank]
      omega
  | finish index flushing =>
      cases nobody (by simp [flushing])
      refine Notified.workLeft_consumer rfl ?_
      simp only [State.setConsumer, flushing, ConsumerPc.rank]
      omega

end Measure

/-! ## Nobody is forgotten -/

/-- The call sleeps on `cond_productor_`. -/
def Call.sleeps : Call → Bool
  | (.waiting, woken) => !woken
  | _ => false

/-- The call has data to write and is on its way to do so. -/
def Call.Eager (data : Bytes) : Call → Prop
  | (.waiting, woken) => woken = true
  | (.awaiting, _) | (.rechecking, _) | (.writing, _) => data ≠ []
  | _ => False

/-- A call that sleeps waits for a swap that is sure to come, and so does the
thread for a notification. -/
structure Awake (setup : Setup κ) (state : Notified κ) : Prop where
  consumer : state.consumerSleeps = true → state.worker.bufferProductor.isEmpty = false →
    ∃ caller, state.worker.push caller = .written
  needy : ∀ caller, state.worker.push caller = .waiting → setup.data caller ≠ []
  push : (∃ caller, (state.calls caller).sleeps = true) →
    state.worker.bufferProductor.isEmpty = false ∨ state.worker.consumer = .swapped ∨
      ∃ caller, (state.calls caller).Eager (setup.data caller)

section Awake

variable [DecidableEq κ] {before after : Notified κ} {signal : Signal κ}

theorem Awake.consumer_afterPush (awake : Awake setup before) {caller : κ} {next : State κ} {pc : PushPc}
    (moved : next.push = Function.update before.worker.push caller pc)
    (unmoved : next.consumer = before.worker.consumer)
    (buffer : pc = .written ∨ next.bufferProductor = before.worker.bufferProductor)
    (sleeps : (before.afterPush caller next).consumerSleeps = true) (filled : next.bufferProductor.isEmpty = false) :
    ∃ other, next.push other = .written := by
  rcases buffer with written | same
  · exact ⟨caller, by rw [moved, Function.update_self, written]⟩
  · simp only [Notified.consumerSleeps, Notified.afterPush, unmoved, Bool.and_eq_true, decide_eq_true_eq,
      Bool.not_eq_true', Bool.or_eq_false_iff, decide_eq_false_iff_not, not_and] at sleeps
    obtain ⟨sleeping, unwoken, unnotified⟩ := sleeps
    obtain ⟨other, written⟩ := awake.consumer (by simp [Notified.consumerSleeps, sleeping, unwoken]) (same ▸ filled)
    -- The one about to notify is not the one that moved.
    have different : other ≠ caller := by
      rintro rfl
      exact unnotified written sleeping
    exact ⟨other, by rw [moved, Function.update_of_ne different, written]⟩

theorem Awake.push_afterPush (awake : Awake setup before) {caller : κ} {next : State κ} {pc : PushPc}
    (moved : next.push = Function.update before.worker.push caller pc)
    (unmoved : next.consumer = before.worker.consumer)
    (fuller : before.worker.bufferProductor.isEmpty = false → next.bufferProductor.isEmpty = false)
    (waits : pc = .waiting → next.bufferProductor.isEmpty = false)
    (goesOn : (before.calls caller).Eager (setup.data caller) →
      next.bufferProductor.isEmpty = false ∨ Call.Eager (setup.data caller) (pc, false))
    (someone : ∃ other, ((before.afterPush caller next).calls other).sleeps = true) :
    next.bufferProductor.isEmpty = false ∨ next.consumer = .swapped ∨
      ∃ other, ((before.afterPush caller next).calls other).Eager (setup.data other) := by
  have calls := before.calls_afterPush caller moved
  obtain ⟨other, sleeps⟩ := someone
  rw [calls] at sleeps ⊢
  by_cases same : other = caller
  · subst other
    rw [Function.update_self] at sleeps
    cases pc <;> simp [Call.sleeps] at sleeps
    exact .inl (waits rfl)
  · rw [Function.update_of_ne same] at sleeps
    rcases awake.push ⟨other, sleeps⟩ with filled | swapped | ⟨eager, onItsWay⟩
    · exact .inl (fuller filled)
    · exact .inr (.inl (unmoved.trans swapped))
    · by_cases mover : eager = caller
      · subst eager
        rcases goesOn onItsWay with filled | still
        · exact .inl filled
        · exact .inr (.inr ⟨caller, by rw [Function.update_self]; exact still⟩)
      · exact .inr (.inr ⟨eager, by rw [Function.update_of_ne mover]; exact onItsWay⟩)

theorem Awake.needy_afterPush (awake : Awake setup before) {caller : κ} {next : State κ} {pc : PushPc}
    (moved : next.push = Function.update before.worker.push caller pc)
    (waits : pc = .waiting → setup.data caller ≠ []) (other : κ) (waiting : next.push other = .waiting) :
    setup.data other ≠ [] := by
  rw [moved] at waiting
  by_cases same : other = caller
  · subst other
    rw [Function.update_self] at waiting
    exact waits waiting
  · rw [Function.update_of_ne same] at waiting
    exact awake.needy other waiting

/-- A call that leaves the buffer as it is. -/
theorem Awake.move (awake : Awake setup before) {caller : κ} {next : State κ} (pc : PushPc)
    (moved : next.push = Function.update before.worker.push caller pc)
    (unmoved : next.consumer = before.worker.consumer)
    (same : next.bufferProductor = before.worker.bufferProductor)
    (waits : pc = .waiting → setup.data caller ≠ [] ∧ before.worker.bufferProductor.isEmpty = false)
    (goesOn : (before.calls caller).Eager (setup.data caller) →
      before.worker.bufferProductor.isEmpty = false ∨ Call.Eager (setup.data caller) (pc, false)) :
    Awake setup (before.afterPush caller next) where
  consumer := awake.consumer_afterPush moved unmoved (.inr same)
  needy := awake.needy_afterPush moved fun waiting => (waits waiting).1
  push := by
    rw [← same] at goesOn waits
    exact awake.push_afterPush moved unmoved (fun filled => same ▸ filled) (fun waiting => (waits waiting).2) goesOn

theorem ValidBuffer.isEmpty_push {config : Config} {buffer pushed : ValidBuffer} {data : Bytes}
    (accepted : buffer.push config data = some pushed) :
    pushed.isEmpty = true ↔ buffer.isEmpty = true ∧ data = [] := by
  rw [isEmpty_iff, isEmpty_iff, unread_push accepted, List.append_eq_nil_iff]

theorem Awake.afterPush (awake : Awake setup before) (steady : Steady setup before)
    (bounded : setup.asyncType = .blockingBounded)
    (fits : ∀ caller, (setup.data caller).length ≤ setup.config.bufferSize) {caller : κ} {next : State κ}
    (stepped : pushStep setup before.worker caller = some next) : Awake setup (before.afterPush caller next) := by
  cases pushStep_move bounded steady.running stepped with
  | enter idle =>
      refine awake.move .locked rfl rfl rfl (by simp) fun eager => ?_
      simp [Notified.calls, idle, Call.Eager] at eager
  | pass locked =>
      refine awake.move .awaiting rfl rfl rfl (by simp) fun eager => ?_
      simp [Notified.calls, locked, Call.Eager] at eager
  | fits awaiting =>
      refine awake.move .rechecking rfl rfl rfl (by simp) fun eager => .inr ?_
      simpa [Notified.calls, awaiting, Call.Eager] using eager
  | wait awaiting full =>
      -- What does not fit would fit into an empty buffer.
      have filled : before.worker.bufferProductor.isEmpty = false := by
        refine Bool.eq_false_iff.mpr fun empty => ?_
        have room := steady.room_of_empty empty
        have short := fits caller
        omega
      refine awake.move .waiting rfl rfl rfl (fun _ => ⟨?_, filled⟩) fun _ => .inl filled
      intro empty
      simp [empty] at full
  | wake waiting =>
      refine awake.move .awaiting rfl rfl rfl (by simp) fun _ => .inr ?_
      exact awake.needy caller waiting
  | recheck rechecking =>
      refine awake.move .writing rfl rfl rfl (by simp) fun eager => .inr ?_
      simpa [Notified.calls, rechecking, Call.Eager] using eager
  | write writing pushed written =>
      have empty := ValidBuffer.isEmpty_push written
      have moved : (before.worker.setPush caller .written).push =
        Function.update before.worker.push caller .written := rfl
      refine ⟨awake.consumer_afterPush moved rfl (.inl rfl), awake.needy_afterPush moved (by simp), ?_⟩
      refine awake.push_afterPush moved rfl (fun filled => ?_) (by simp) fun eager => .inl ?_
      · refine Bool.eq_false_iff.mpr fun none => ?_
        rw [(empty.mp none).1] at filled
        cases filled
      · refine Bool.eq_false_iff.mpr fun none => ?_
        simp [Notified.calls, writing, Call.Eager, (empty.mp none).2] at eager
  | done written =>
      refine awake.move .returned rfl rfl rfl (by simp) fun eager => ?_
      simp [Notified.calls, written, Call.Eager] at eager

/-- A step of the thread that wakes nobody and leaves the buffer. -/
theorem Awake.go (awake : Awake setup before) {next : State κ} (unmoved : next.push = before.worker.push)
    (elsewhere : before.worker.consumer ≠ .swapped) (same : next.bufferProductor = before.worker.bufferProductor)
    (sleeps : next.consumer = .sleeping → before.worker.bufferProductor.isEmpty = true) :
    Awake setup (before.afterConsumer none next) where
  consumer asleep filled := by
    have sleeping : next.consumer = .sleeping := of_decide_eq_true ((Bool.and_eq_true _ _).mp asleep).1
    rw [show (before.afterConsumer none next).worker.bufferProductor = before.worker.bufferProductor from same,
      sleeps sleeping] at filled
    cases filled
  needy caller waiting := awake.needy caller (unmoved ▸ waiting)
  push someone := by
    have calls : (before.afterConsumer none next).calls = before.calls := by
      funext other
      simp [Notified.calls, Notified.afterConsumer, LogSystem.wake, unmoved]
    rw [calls] at someone ⊢
    rcases awake.push someone with filled | swapped | eager
    · exact .inl (same ▸ filled)
    · exact absurd swapped elsewhere
    · exact .inr (.inr eager)

/-- After a swap one sleeping call is woken, if there is one. -/
theorem Awake.release (awake : Awake setup before) (bounded : setup.asyncType = .blockingBounded)
    (swapped : before.worker.consumer = .swapped) {woken : Option κ} (chosen : before.MayWake setup woken) :
    Awake setup (before.afterConsumer woken { before.worker.setConsumer .calling with mutex := none }) where
  consumer asleep := by simp [Notified.consumerSleeps, Notified.afterConsumer, State.setConsumer] at asleep
  needy := awake.needy
  push someone := by
    cases woken with
    | none =>
        obtain ⟨caller, sleeps⟩ := someone
        have nobody := chosen ⟨bounded, swapped⟩ caller
        simp only [Notified.calls, Notified.afterConsumer, State.setConsumer, LogSystem.wake] at sleeps
        cases pc : before.worker.push caller <;>
          simp_all [Call.sleeps, Notified.pushSleeps]
    | some caller =>
        refine .inr (.inr ⟨caller, ?_⟩)
        have sleeps := chosen.2
        simp only [Notified.pushSleeps, Bool.and_eq_true, decide_eq_true_eq] at sleeps
        simp [Notified.calls, Notified.afterConsumer, State.setConsumer, LogSystem.wake, sleeps.1, Call.Eager]

theorem Awake.afterConsumer (awake : Awake setup before) (steady : Steady setup before)
    (bounded : setup.asyncType = .blockingBounded) {woken : Option κ} (chosen : before.MayWake setup woken)
    {next : State κ} (stepped : consumerStep setup before.worker = some next) :
    Awake setup (before.afterConsumer woken next) := by
  have nobody := @Notified.woken_eq_none _ setup before woken chosen
  cases consumerStep_move steady.running steady.loops stepped with
  | release swapped => exact awake.release bounded swapped chosen
  | swap swapping =>
      cases nobody (by simp [swapping])
      refine ⟨?_, awake.needy, fun _ => .inr (.inl rfl)⟩
      intro asleep
      simp [Notified.consumerSleeps, Notified.afterConsumer, State.setConsumer] at asleep
  | sleep pc empty =>
      cases nobody (by simp [pc])
      exact awake.go rfl (by simp [pc]) rfl fun _ => empty
  | ready inside =>
      rcases inside with pc | pc
      · cases nobody (by simp [pc])
        exact awake.go rfl (by simp [pc]) rfl (by simp [State.setConsumer])
      · cases nobody (by simp [pc])
        exact awake.go rfl (by simp [pc]) rfl (by simp [State.setConsumer])
  | enter pc | quiet pc | wake pc | call pc | flush _ pc | finish _ pc | reset pc | again pc =>
      cases nobody (by simp [pc])
      exact awake.go rfl (by simp [pc]) rfl (by simp [State.setConsumer])

/-- A call that wakes for no reason is on its way. -/
theorem Awake.wakePush (awake : Awake setup before) {caller : κ} (sleeps : before.pushSleeps caller = true) :
    Awake setup { before with push := Function.update before.push caller true } where
  consumer := awake.consumer
  needy := awake.needy
  push _ := by
    simp only [Notified.pushSleeps, Bool.and_eq_true, decide_eq_true_eq] at sleeps
    exact .inr (.inr ⟨caller, by simp [Notified.calls, sleeps.1, Call.Eager]⟩)

theorem Awake.step (awake : Awake setup before) (steady : Steady setup before)
    (bounded : setup.asyncType = .blockingBounded)
    (fits : ∀ caller, (setup.data caller).length ≤ setup.config.bufferSize)
    (step : Notified.Step setup before signal after) : Awake setup after := by
  cases step with
  | push caller _ next stepped => exact awake.afterPush steady bounded fits stepped
  | consumer woken _ chosen next stepped => exact awake.afterConsumer steady bounded chosen stepped
  | wakePush caller sleeps => exact awake.wakePush sleeps
  | wakeConsumer => exact ⟨by simp [Notified.consumerSleeps], awake.needy, awake.push⟩

end Awake

/-! ## Where nothing can move -/

/-- The steps of the thread and of the calls; nobody wakes for no reason. -/
def Signal.Own (_ : Notified κ) : Signal κ → Prop
  | .push _ | .consumer _ => True
  | .wakePush _ | .wakeConsumer => False

instance (state : Notified κ) : (signal : Signal κ) → Decidable (Signal.Own state signal)
  | .push _ | .consumer _ => inferInstanceAs (Decidable True)
  | .wakePush _ | .wakeConsumer => inferInstanceAs (Decidable False)

section Halted

variable [DecidableEq κ] {state : Notified κ}

theorem ValidBuffer.push_of_calm {config : Config} {buffer : ValidBuffer} {data : Bytes}
    (calm : ¬ buffer.1.EntersGrowth config data.length) : ∃ pushed, buffer.push config data = some pushed := by
  have enough : data.length + buffer.1.writePos ≤ buffer.1.startCap config := Nat.not_lt.mp calm
  have reserved : Buffer.tobeEnough config buffer.1 data.length =
      some (buffer.1.reserve (buffer.1.startCap config)) := by
    rw [Buffer.tobeEnough, ← Buffer.startCap, Buffer.growLoop_of_le enough]
    rfl
  have pushed : buffer.1.push config data = some ((buffer.1.reserve (buffer.1.startCap config)).write data) := by
    rw [Buffer.push, reserved]
    rfl
  exact ⟨⟨_, buffer.2.push pushed⟩, Option.pmap_eq_some_iff.mpr ⟨_, _, pushed, rfl⟩⟩

/-- A call that has not ended can move when it has the lock, and when the lock
is free. -/
theorem Steady.pushStep_ne_none (steady : Steady setup state) {caller : κ}
    (unended : state.worker.push caller ≠ .returned ∧ state.worker.push caller ≠ .rejected)
    (lock : state.worker.mutex = none ∨ (state.worker.push caller).owns = true) :
    pushStep setup state.worker caller ≠ none := by
  cases pc : state.worker.push caller with
  | idle | waiting =>
      have free : state.worker.mutex = none := by simpa [pc, PushPc.owns] using lock
      simp [pushStep, pc, free]
  | locked | rechecking =>
      simp only [pushStep, pc]
      split <;> simp
  | awaiting =>
      simp only [pushStep, pc]
      split <;> simp
  | writing =>
      have room := steady.roomy.room caller (by rw [pc]; rfl)
      have calm := state.worker.bufferProductor.2.not_entersGrowth steady.roomy.productor room
      obtain ⟨pushed, written⟩ := ValidBuffer.push_of_calm calm
      simp [pushStep, pc, written]
  | written => simp [pushStep, pc]
  | returned => exact absurd pc unended.1
  | rejected => exact absurd pc unended.2

omit [DecidableEq κ] in
/-- The thread needs the lock only to begin and to wake. -/
theorem Steady.consumerStep_ne_none (steady : Steady setup state)
    (lock : state.worker.mutex = none ∨ state.worker.consumer.owns = true) :
    consumerStep setup state.worker ≠ none := by
  have loops := steady.loops
  cases pc : state.worker.consumer with
  | top | sleeping =>
      have free : state.worker.mutex = none := by simpa [pc, ConsumerPc.owns] using lock
      simp [consumerStep, pc, free]
  | awaiting =>
      simp only [consumerStep, pc]
      split <;> simp
  | flushing index =>
      simp only [consumerStep, pc]
      split <;> simp
  | locked | swapping | swapped | calling | called | testingStop => simp [consumerStep, pc]
  | testingEmpty | exited => simp [pc, ConsumerPc.loops] at loops

variable [Fintype κ]

omit [DecidableEq κ] [Fintype κ] in
theorem Notified.exists_mayWake (setup : Setup κ) (state : Notified κ) : ∃ woken, state.MayWake setup woken := by
  by_cases sleeper : state.notifies setup ∧ ∃ caller, state.pushSleeps caller = true
  · obtain ⟨notifies, caller, sleeps⟩ := sleeper
    exact ⟨some caller, notifies, sleeps⟩
  · refine ⟨none, fun notifies caller => Bool.eq_false_iff.mpr fun sleeps => ?_⟩
    exact sleeper ⟨notifies, caller, sleeps⟩

abbrev Notified.Halted (setup : Setup κ) (state : Notified κ) : Prop :=
  (notifyingWorker setup).Halted Signal.Own state

theorem Notified.Halted.push_asleep (halted : state.Halted setup) {caller : κ}
    (enabled : pushStep setup state.worker caller ≠ none) : state.pushSleeps caller = true := by
  by_contra awake
  have stuck := halted (.push caller) trivial
  simp only [notifyingWorker, notifyingStep, if_neg awake, Option.map_eq_none_iff] at stuck
  exact enabled stuck

theorem Notified.Halted.consumer_asleep (halted : state.Halted setup)
    (enabled : consumerStep setup state.worker ≠ none) : state.consumerSleeps = true := by
  by_contra awake
  obtain ⟨woken, chosen⟩ := state.exists_mayWake setup
  have stuck := halted (.consumer woken) trivial
  simp only [notifyingWorker, notifyingStep, if_neg awake, if_pos chosen, Option.map_eq_none_iff] at stuck
  exact enabled stuck

/-- Whoever is inside the lock can go on. -/
theorem Steady.free (steady : Steady setup state) (halted : state.Halted setup) : state.worker.mutex = none := by
  cases owner : state.worker.mutex with
  | none => rfl
  | some agent =>
      have entered := (steady.delivering.guarded agent).mpr owner
      cases agent with
      | push caller =>
          have inside : (state.worker.push caller).owns = true := entered
          have unended : state.worker.push caller ≠ .returned ∧ state.worker.push caller ≠ .rejected := by
            constructor <;> intro pc <;> simp [pc, PushPc.owns] at inside
          have asleep := halted.push_asleep (steady.pushStep_ne_none unended (.inr inside))
          simp only [Notified.pushSleeps, Bool.and_eq_true, decide_eq_true_eq] at asleep
          simp [asleep.1, PushPc.owns] at inside
      | consumer =>
          have inside : state.worker.consumer.owns = true := entered
          have asleep := halted.consumer_asleep (steady.consumerStep_ne_none (.inr inside))
          simp only [Notified.consumerSleeps, Bool.and_eq_true, decide_eq_true_eq] at asleep
          simp [asleep.1, ConsumerPc.owns] at inside

/-- Every line has been written, and every sink has all lines. -/
structure Delivered (setup : Setup κ) (sinks : Nat) (state : State κ) : Prop where
  returned : ∀ caller, state.push caller = .returned
  every : ∀ caller, caller ∈ state.accepted
  once : state.accepted.Nodup
  received : ∀ sink < sinks, state.received sink = state.accepted.flatMap setup.data

/-- With the lock free, a call that has not returned sleeps. -/
theorem Steady.returned_or_asleep (steady : Steady setup state) (halted : state.Halted setup)
    (accepting : ∀ caller, state.worker.push caller ≠ .rejected) (caller : κ) :
    state.worker.push caller = .returned ∨ state.pushSleeps caller = true := by
  by_cases returned : state.worker.push caller = .returned
  · exact .inl returned
  · exact .inr (halted.push_asleep (steady.pushStep_ne_none ⟨returned, accepting caller⟩ (.inl (steady.free halted))))

theorem Steady.delivered (steady : Steady setup state) (awake : Awake setup state)
    (logger : setup.callback = realFlush sinks) (accepting : ∀ caller, state.worker.push caller ≠ .rejected)
    (halted : state.Halted setup) : Delivered setup sinks state.worker := by
  have ended := steady.returned_or_asleep halted accepting
  have resting := halted.consumer_asleep (steady.consumerStep_ne_none (.inl (steady.free halted)))
  have sleeping : state.worker.consumer = .sleeping := of_decide_eq_true ((Bool.and_eq_true _ _).mp resting).1
  have empty : state.worker.bufferProductor.isEmpty = true := by
    by_contra filled
    obtain ⟨caller, written⟩ := awake.consumer resting (Bool.eq_false_iff.mpr filled)
    rcases ended caller with returned | asleep
    · simp [written] at returned
    · simp [Notified.pushSleeps, written] at asleep
  have nobody (caller : κ) : state.pushSleeps caller = false := by
    refine Bool.eq_false_iff.mpr fun asleep => ?_
    have waits := asleep
    simp only [Notified.pushSleeps, Bool.and_eq_true, decide_eq_true_eq, Bool.not_eq_true'] at waits
    -- Somebody on the way could move.
    rcases awake.push ⟨caller, by simp [Notified.calls, waits.1, waits.2, Call.sleeps]⟩ with
      filled | swapped | ⟨other, eager⟩
    · rw [empty] at filled
      cases filled
    · rw [sleeping] at swapped
      cases swapped
    · rcases ended other with returned | asleep
      · simp [Notified.calls, returned, Call.Eager] at eager
      · simp only [Notified.pushSleeps, Bool.and_eq_true, decide_eq_true_eq, Bool.not_eq_true'] at asleep
        simp [Notified.calls, asleep.1, asleep.2, Call.Eager] at eager
  have returned (caller : κ) : state.worker.push caller = .returned :=
    (ended caller).resolve_right (by simp [nobody caller])
  have stream := steady.delivering.streaming.stream
  have unread := state.worker.bufferProductor.isEmpty_iff.mp empty
  simp only [State.pending, sleeping, ConsumerPc.holds, Bool.false_eq_true, if_false, unread,
    List.append_nil] at stream
  refine ⟨returned, fun caller => ?_, steady.delivering.logged.nodup, fun sink bound => ?_⟩
  · rw [steady.delivering.logged.members caller, returned caller]
    rfl
  · have complete := (steady.delivering.flushed sinks logger).complete (by rw [sleeping]; rfl) sink bound
    exact complete.trans stream

end Halted

/-! ## Whole runs -/

/-- The logger that `AsyncLogger` makes of so many sinks, in its default mode. -/
def boundedLogger (config : Config) (sinks : Nat) (data : κ → Bytes) : Setup κ where
  config
  asyncType := .blockingBounded
  callback := realFlush sinks
  data

section Runs

variable [DecidableEq κ] [Fintype κ] {config : Config} {data : κ → Bytes}

/-- While nobody stops the worker, no call is turned away. -/
theorem accepting_of_reachable {state : Notified κ}
    (reached : (notifyingWorker (boundedLogger config sinks data)).Reachable state) (caller : κ) :
    state.worker.push caller ≠ .rejected := by
  revert caller
  induction reached with
  | init => simp [notifyingWorker, asyncWorker]
  | step earlier _ stepped ih =>
      have steady := steady_of_reachable rfl rfl earlier
      intro other
      cases notifyingStep_step stepped with
      | push caller _ next moved =>
          cases pushStep_move rfl steady.running moved <;>
            by_cases same : other = caller <;>
            simp [Notified.afterPush, State.grant, State.release, State.setPush, same, ih other]
      | consumer woken _ _ next moved =>
          cases consumerStep_move steady.running steady.loops moved <;> exact ih other
      | wakePush | wakeConsumer => exact ih other

omit [Fintype κ] in
/-- A line that is longer than the buffer is never accepted. -/
theorem length_le_of_accepted {state : State κ}
    (reached : (asyncWorker (boundedLogger config sinks data)).Reachable state) :
    ∀ caller ∈ state.accepted, (data caller).length ≤ config.bufferSize := by
  induction reached with
  | init => simp [asyncWorker]
  | step earlier _ stepped ih =>
      have roomy := (roomy_of_reachable rfl (realFlush_keepsCapacity sinks) earlier).2
      cases asyncStep_transition stepped with
      | pushWrite writer writing =>
          intro caller member
          rcases List.mem_append.mp member with old | new
          · exact ih caller old
          · rw [List.mem_singleton.mp new]
            have room := roomy.room writer (by rw [writing]; rfl)
            have capacity := roomy.productor
            unfold Buffer.writeableSize at room
            rw [capacity] at room
            exact Nat.le_trans room (Nat.sub_le _ _)
      | _ => exact ih

theorem awake_of_reachable (fits : ∀ caller, (data caller).length ≤ config.bufferSize) {state : Notified κ}
    (reached : (notifyingWorker (boundedLogger config sinks data)).Reachable state) :
    Awake (boundedLogger config sinks data) state := by
  induction reached with
  | init => exact ⟨by simp [notifyingWorker, Notified.consumerSleeps, asyncWorker],
      by simp [notifyingWorker, asyncWorker], by simp [notifyingWorker, Notified.calls, asyncWorker, Call.sleeps]⟩
  | step earlier _ stepped ih =>
      exact ih.step (steady_of_reachable rfl rfl earlier) rfl fits (notifyingStep_step stepped)

theorem workLeft_lt_of_reachable (before : Notified κ) (signal : Signal κ) (after : Notified κ)
    (reached : (notifyingWorker (boundedLogger config sinks data)).Reachable before)
    (own : Signal.Own before signal)
    (stepped : (notifyingWorker (boundedLogger config sinks data)).step before signal = some after) :
    (notifyingWorker (boundedLogger config sinks data)).Reachable after ∧
      after.workLeft sinks < before.workLeft sinks := by
  have steady := steady_of_reachable rfl rfl reached
  refine ⟨.step reached trivial stepped, ?_⟩
  cases notifyingStep_step stepped with
  | push caller awake next moved => exact steady.workLeft_afterPush rfl awake moved
  | consumer woken awake chosen next moved => exact steady.workLeft_afterConsumer rfl awake chosen moved
  | wakePush | wakeConsumer => exact own.elim

/-- A line that does not fit is never written, however often its call wakes. -/
theorem longer_line_never_returns {caller : κ} (longer : config.bufferSize < (data caller).length)
    {state : Notified κ} (reached : (notifyingWorker (boundedLogger config sinks data)).Reachable state) :
    state.worker.push caller ≠ .returned := by
  intro returned
  have logged := (steady_of_reachable rfl rfl reached).delivering.logged
  have accepted : caller ∈ state.worker.accepted := (logged.members caller).mpr (by rw [returned]; rfl)
  have fits := length_le_of_accepted (reachable_worker reached) caller accepted
  omega

/-- A bounded logger that is not stopped comes to rest from wherever it is,
with every line in every sink, if and only if each line alone fits into the
buffer.  The call with a longer line is asleep when it comes to rest. -/
theorem bounded_logger_delivers_iff (config : Config) (sinks : Nat) (data : κ → Bytes) :
    ((∀ state, (notifyingWorker (boundedLogger config sinks data)).Reachable state →
      (notifyingWorker (boundedLogger config sinks data)).EndsIn Signal.Own
        (fun final => Delivered (boundedLogger config sinks data) sinks final.worker) state) ↔
      ∀ caller, (data caller).length ≤ config.bufferSize) ∧
    ∀ caller, config.bufferSize < (data caller).length →
      ∀ state, (notifyingWorker (boundedLogger config sinks data)).Reachable state →
        state.worker.push caller ≠ .returned ∧
          (notifyingWorker (boundedLogger config sinks data)).EndsIn Signal.Own
            (fun final => final.pushSleeps caller = true) state := by
  refine ⟨⟨?_, ?_⟩, ?_⟩
  · intro delivers caller
    obtain ⟨schedule, final, executed, reached, halted⟩ :=
      Machine.exists_halted _ (@workLeft_lt_of_reachable κ sinks _ _ config data) .init
    obtain ⟨_, ends⟩ := delivers _ .init
    have delivered := (ends schedule final executed).2 halted
    exact length_le_of_accepted (reachable_worker reached) caller (delivered.every caller)
  · intro fits state reached
    refine Machine.endsIn_of_measure _ workLeft_lt_of_reachable ?_ reached
    intro final finalReached halted
    exact (steady_of_reachable rfl rfl finalReached).delivered (awake_of_reachable fits finalReached) rfl
      (accepting_of_reachable finalReached) halted
  · intro caller longer state reached
    refine ⟨longer_line_never_returns longer reached, ?_⟩
    refine Machine.endsIn_of_measure _ workLeft_lt_of_reachable ?_ reached
    intro final finalReached halted
    have ended := (steady_of_reachable rfl rfl finalReached).returned_or_asleep halted
      (accepting_of_reachable finalReached) caller
    exact ended.resolve_left (longer_line_never_returns longer finalReached)

end Runs

end TaskHive.LogSystem
