import Mathlib.Data.Fintype.Basic
import TaskHive.Ending
import TaskHive.Handoff.Safety
import TaskHive.Tally

namespace TaskHive.Handoff

variable {κ α : Type} {loop : Loop} {items : κ → List α}

/-! # Everything that is pushed is taken

As long as nobody calls `stop` and no body throws, the thread never sleeps
beside a task: the calls and the thread come to rest with all tasks taken, in
the order in which they were pushed. -/

/-- The steps of the calls and of the thread alone. -/
def Serving (_ : State κ α) : Action κ → Prop
  | .call _ | .thread .returned => True
  | .thread .threw | .wakeSpuriously | .stop => False

instance (state : State κ α) : (action : Action κ) → Decidable (Serving state action)
  | .call _ | .thread .returned => inferInstanceAs (Decidable True)
  | .thread .threw | .wakeSpuriously | .stop => inferInstanceAs (Decidable False)

theorem Serving.calm {state : State κ α} : {action : Action κ} → Serving state action → Calm state action
  | .call _, _ | .thread .returned, _ => trivial

/-! ## The work that is left -/

/-- Where a call is, and how much it pushes. -/
abbrev Load := CallPc × Nat

def State.load (items : κ → List α) (state : State κ α) (caller : κ) : Load :=
  (state.call caller, (items caller).length)

/-- A task costs a round of the loop, a notification a look at the queue. -/
def Load.rank : Load → Nat
  | (.idle, count) => 7 + 8 * count
  | (.locked, count) => 6 + 8 * count
  | (.pushed, _) => 5
  | (.unlocked, _) => 4
  | (.returned, _) => 0

def ThreadPc.rank (woken : Bool) : ThreadPc α → Nat
  | .holding | .exited => 0
  | .sleeping => 3 * woken.toNat
  | .parking => 1
  | .testing => 2
  | .locked => 3
  | .locking => 4
  | .top => 5
  | .settled => 6
  | .working _ => 7

def State.workLeft [Fintype κ] (items : κ → List α) (state : State κ α) : Nat :=
  weight Load.rank Finset.univ (state.load items) + state.thread.rank state.woken + 8 * state.queue.length

section Measure

variable [Fintype κ] [DecidableEq κ] {before after : State κ α}

omit [Fintype κ] in
theorem State.load_update (items : κ → List α) {state next : State κ α} {caller : κ} {pc : CallPc}
    (moved : next.call = Function.update state.call caller pc) :
    next.load items = Function.update (state.load items) caller (pc, (items caller).length) := by
  funext other
  by_cases same : other = caller
  · subst other
    simp [State.load, moved]
  · simp [State.load, moved, same]

theorem ThreadPc.rank_notify_le (pc : ThreadPc α) (woken : Bool) :
    pc.rank (woken || pc.sleeps) ≤ pc.rank woken + 3 := by
  cases pc <;> cases woken <;> simp [ThreadPc.rank, ThreadPc.sleeps]

/-- It is enough to compare what changes. -/
theorem State.workLeft_call {next : State κ α} {caller : κ} (pc : CallPc)
    (moved : next.call = Function.update before.call caller pc)
    (lower : Load.rank (pc, (items caller).length) + next.thread.rank next.woken + 8 * next.queue.length <
      Load.rank (before.load items caller) + before.thread.rank before.woken + 8 * before.queue.length) :
    next.workLeft items < before.workLeft items := by
  have paid := @weight_update _ _ Load.rank Finset.univ (before.load items) _ caller (Finset.mem_univ caller)
    (pc, (items caller).length)
  rw [← State.load_update items moved] at paid
  unfold State.workLeft
  omega

theorem CallMove.workLeft_lt {caller : κ} (move : CallMove items before caller after) :
    after.workLeft items < before.workLeft items := by
  cases move with
  | enter idle =>
      refine State.workLeft_call .locked rfl ?_
      simp only [State.load, idle, Load.rank, State.setCall]
      omega
  | push locked =>
      refine State.workLeft_call .pushed rfl ?_
      simp only [State.load, locked, Load.rank, State.setCall, List.length_append]
      omega
  | unlock pushed =>
      refine State.workLeft_call .unlocked rfl ?_
      simp only [State.load, pushed, Load.rank, State.setCall]
      omega
  | notify unlocked =>
      have woken := before.thread.rank_notify_le before.woken
      refine State.workLeft_call .returned rfl ?_
      simp only [State.load, unlocked, Load.rank, State.setCall, State.notify]
      omega

omit [DecidableEq κ] in
/-- A step of the thread that leaves the queue. -/
theorem State.workLeft_thread {next : State κ α} (calls : next.call = before.call) (queue : next.queue = before.queue)
    (lower : next.thread.rank next.woken < before.thread.rank before.woken) :
    next.workLeft items < before.workLeft items := by
  have load : next.load items = before.load items := by
    funext caller
    rw [State.load, calls, State.load]
  simp only [State.workLeft, load, queue]
  omega

omit [DecidableEq κ] in
theorem ThreadMove.workLeft_lt (move : ThreadMove loop before after) (sound : Sound loop items before)
    (running : before.running = true) : after.workLeft items < before.workLeft items := by
  cases move with
  | again pc | enter pc | wait pc | park pc | around pc =>
      exact State.workLeft_thread rfl rfl (by simp [State.setThread, State.unlock, pc, ThreadPc.rank])
  | ready inside =>
      rcases inside with pc | pc
      · exact State.workLeft_thread rfl rfl (by simp [State.setThread, pc, ThreadPc.rank])
      · exact State.workLeft_thread rfl rfl (by simp [State.setThread, pc, ThreadPc.rank])
  | sleep pc => exact State.workLeft_thread rfl rfl (by simp [State.unlock, pc, ThreadPc.rank])
  | wake pc woken => exact State.workLeft_thread rfl rfl (by simp [State.setThread, pc, woken, ThreadPc.rank])
  | done item pc next same =>
      refine State.workLeft_thread rfl rfl ?_
      subst same
      cases early : loop.unlocksEarly <;> simp [State.setThread, pc, ThreadPc.rank]
  | nothing pc empty =>
      rcases sound.held pc with stopped | filled
      · rw [running] at stopped
        cases stopped
      · exact absurd empty filled
  | take pc item rest front =>
      change weight Load.rank Finset.univ (before.load items) + 7 + 8 * rest.length < before.workLeft items
      simp only [State.workLeft, pc, ThreadPc.rank, front, List.length_cons]
      omega
  | leave _ stopped | stopped _ _ stopped | drained _ stopped =>
      rw [running] at stopped
      cases stopped

end Measure

/-! ## Where nothing can move -/

section Halted

variable [DecidableEq κ] {state : State κ α}

omit [DecidableEq κ] in
/-- A thread that is not left sleeping moves when the mutex is free or its own. -/
theorem threadStep_ne_none (lock : state.mutex = none ∨ state.thread.owns loop = true)
    (moves : state.thread ≠ .exited ∧ (state.thread = .sleeping → state.woken = true)) (outcome : Outcome) :
    threadStep loop state outcome ≠ none := by
  cases pc : state.thread with
  | locking =>
      have free : state.mutex = none := by simpa [pc, ThreadPc.owns] using lock
      simp [threadStep, pc, free]
  | sleeping =>
      have free : state.mutex = none := by simpa [pc, ThreadPc.owns] using lock
      simp [threadStep, pc, free, moves.2 pc]
  | exited => exact absurd pc moves.1
  | top | locked | testing | parking | holding | working | settled => simp [threadStep, pc]

theorem callStep_ne_none {caller : κ} (unended : state.call caller ≠ .returned)
    (lock : state.mutex = none ∨ state.call caller ≠ .idle) : callStep items state caller ≠ none := by
  cases pc : state.call caller with
  | idle =>
      have free : state.mutex = none := by simpa [pc] using lock
      simp [callStep, pc, free]
  | locked | pushed | unlocked => simp [callStep, pc]
  | returned => exact absurd pc unended

theorem Sound.free (sound : Sound loop items state) (halted : (handoff loop items).Halted Serving state) :
    state.mutex = none := by
  cases owner : state.mutex with
  | none => rfl
  | some agent =>
      have entered := (sound.guarded agent).mpr owner
      cases agent with
      | call caller =>
          have inside : (state.call caller).owns = true := entered
          have stuck := halted (.call caller) trivial
          simp only [handoff, handoffStep, sound.alive, Bool.false_eq_true, if_false] at stuck
          refine absurd stuck (callStep_ne_none ?_ (.inr ?_)) <;>
            · intro pc
              simp [pc, CallPc.owns] at inside
      | thread =>
          have inside : state.thread.owns loop = true := entered
          have stuck := halted (.thread .returned) trivial
          simp only [handoff, handoffStep, sound.alive, Bool.false_eq_true, if_false] at stuck
          refine absurd stuck (threadStep_ne_none (.inr inside) ⟨?_, ?_⟩ .returned) <;>
            · intro pc
              simp [pc, ThreadPc.owns] at inside

end Halted

/-- All calls have returned, and what they pushed has been taken once, call by
call. -/
structure Served (items : κ → List α) (state : State κ α) : Prop where
  returned : ∀ caller, state.call caller = .returned
  every : ∀ caller, caller ∈ state.order
  once : state.order.Nodup
  taken : state.taken = state.order.flatMap items

variable [DecidableEq κ] {state : State κ α}

theorem Sound.served (sound : Sound loop items state) (running : state.running = true)
    (halted : (handoff loop items).Halted Serving state) : Served items state := by
  have free := sound.free halted
  have returned (caller : κ) : state.call caller = .returned := by
    by_contra unended
    have stuck := halted (.call caller) trivial
    simp only [handoff, handoffStep, sound.alive, Bool.false_eq_true, if_false] at stuck
    exact callStep_ne_none unended (.inl free) stuck
  have asleep : state.thread = .sleeping ∧ state.woken = false := by
    by_contra awake
    have stuck := halted (.thread .returned) trivial
    simp only [handoff, handoffStep, sound.alive, Bool.false_eq_true, if_false] at stuck
    refine threadStep_ne_none (.inl free) ⟨fun exited => ?_, fun sleeping => ?_⟩ .returned stuck
    · simp [sound.left exited] at running
    · simpa [sleeping] using awake
  have empty : state.queue = [] := by
    by_contra filled
    obtain ⟨caller, owes⟩ := sound.owed asleep.1 asleep.2 filled
    simp [returned caller, CallPc.owes] at owes
  refine ⟨returned, fun caller => ?_, sound.nodup, ?_⟩
  · rw [sound.listed caller, returned caller]
    rfl
  · have conserved := sound.conserved
    rwa [empty, List.append_nil] at conserved

/-- A thread that nobody has stopped. -/
structure Unstopped (loop : Loop) (items : κ → List α) (state : State κ α) : Prop where
  sound : Sound loop items state
  idle : state.stop = .idle

theorem Unstopped.step [Fintype κ] {before after : State κ α} {action : Action κ}
    (unstopped : Unstopped loop items before) (serving : Serving before action)
    (stepped : (handoff loop items).step before action = some after) :
    Unstopped loop items after ∧ after.workLeft items < before.workLeft items := by
  obtain ⟨sound, idle⟩ := unstopped
  cases handoffStep_transition serving.calm stepped with
  | call caller _ move =>
      refine ⟨⟨move.sound sound, ?_⟩, move.workLeft_lt⟩
      cases move <;> exact idle
  | thread _ move =>
      refine ⟨⟨move.sound sound, ?_⟩, move.workLeft_lt sound (sound.flag.mpr idle)⟩
      cases move <;> exact idle
  | wake | stop => exact serving.elim

/-- From wherever a thread that is not stopped is, it and the calls come to
rest, and then every call has returned and everything pushed has been taken. -/
theorem everything_pushed_is_taken [Fintype κ] (loop : Loop) (items : κ → List α) (state : State κ α)
    (reached : (handoff loop items).ReachableBy Calm state) (unstopped : state.stop = .idle) :
    (handoff loop items).EndsIn Serving (Served items) state := by
  have holds : Unstopped loop items state := ⟨sound_of_reachable reached, unstopped⟩
  refine Machine.endsIn_of_measure (State.workLeft items) ?_ ?_ holds
  · intro before action after unstopped serving stepped
    exact unstopped.step serving stepped
  · intro final unstopped halted
    exact unstopped.sound.served (unstopped.sound.flag.mpr unstopped.idle) halted

/-- Two clients' tasks: the thread sleeps, one call has pushed two tasks and not
notified yet, and the other has not begun. -/
theorem sleeping_submit_thread_takes_all :
    ∃ state, (handoff .clientSubmitTask fun caller : Fin 2 => [caller, caller]).ReachableBy Calm state ∧
      state.thread = .sleeping ∧ state.woken = false ∧ state.queue = [0, 0] ∧
      (handoff .clientSubmitTask fun caller : Fin 2 => [caller, caller]).EndsIn Serving
        (Served fun caller : Fin 2 => [caller, caller]) state := by
  obtain ⟨state, reached, idle, asleep, unwoken, filled⟩ :=
    (handoff .clientSubmitTask fun caller : Fin 2 => [caller, caller]).reachableBy_of_any Calm
      (fun state => state.stop = .idle ∧ state.thread = .sleeping ∧ state.woken = false ∧ state.queue = [0, 0])
      [.thread .returned, .thread .returned, .thread .returned, .thread .returned, .thread .returned,
        .call 0, .call 0] (by decide)
  exact ⟨state, reached, asleep, unwoken, filled, everything_pushed_is_taken _ _ state reached idle⟩

end TaskHive.Handoff
