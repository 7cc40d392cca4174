import Mathlib.Data.List.Nodup
import TaskHive.Handoff.Model

namespace TaskHive.Handoff

variable {κ α : Type} {loop : Loop} {items : κ → List α}

/-! # What holds in every run

Nothing is lost between the calls and the thread, and a thread that sleeps
beside a filled queue is about to be notified. -/

/-! ## Who holds the mutex -/

def CallPc.owns : CallPc → Bool
  | .locked | .pushed => true
  | _ => false

def ThreadPc.owns (loop : Loop) : ThreadPc α → Bool
  | .locked | .testing | .parking | .holding | .settled => true
  | .working _ => !loop.unlocksEarly
  | .top | .locking | .sleeping | .exited => false

def State.inside (loop : Loop) (state : State κ α) : Owner κ → Bool
  | .call caller => (state.call caller).owns
  | .thread => state.thread.owns loop

def Guarded (loop : Loop) (state : State κ α) : Prop := Exclusive state.mutex (state.inside loop)

section Lock

variable [DecidableEq κ] {state next : State κ α} {caller : κ}

theorem State.inside_call (loop : Loop) {pc : CallPc} (moved : next.call = Function.update state.call caller pc)
    (unmoved : next.thread = state.thread) :
    next.inside loop = Function.update (state.inside loop) (.call caller) pc.owns := by
  funext agent
  cases agent with
  | thread => simp [State.inside, unmoved]
  | call other =>
      by_cases same : other = caller
      · subst other
        simp [State.inside, moved]
      · simp [State.inside, moved, same]

theorem State.inside_thread (loop : Loop) (unmoved : next.call = state.call) :
    next.inside loop = Function.update (state.inside loop) .thread (next.thread.owns loop) := by
  funext agent
  cases agent <;> simp [State.inside, unmoved]

/-- The call gets the mutex. -/
theorem Guarded.callEnter (guarded : Guarded loop state) (free : state.mutex = none) {pc : CallPc}
    (moved : next.call = Function.update state.call caller pc) (unmoved : next.thread = state.thread)
    (inside : pc.owns = true) (mutex : next.mutex = some (.call caller)) : Guarded loop next := by
  unfold Guarded at guarded ⊢
  rw [free] at guarded
  rw [mutex, State.inside_call loop moved unmoved, inside]
  exact guarded.acquire _

theorem Guarded.callLeave (guarded : Guarded loop state) {pc : CallPc} (held : (state.call caller).owns = true)
    (moved : next.call = Function.update state.call caller pc) (unmoved : next.thread = state.thread)
    (outside : pc.owns = false) (mutex : next.mutex = none) : Guarded loop next := by
  unfold Guarded at guarded ⊢
  rw [mutex, State.inside_call loop moved unmoved, outside]
  exact guarded.release held

theorem Guarded.callStay (guarded : Guarded loop state) {pc : CallPc}
    (moved : next.call = Function.update state.call caller pc) (unmoved : next.thread = state.thread)
    (same : pc.owns = (state.call caller).owns) (mutex : next.mutex = state.mutex) : Guarded loop next := by
  unfold Guarded at guarded ⊢
  rw [mutex, State.inside_call loop moved unmoved]
  exact guarded.keep same

theorem Guarded.threadEnter (guarded : Guarded loop state) (free : state.mutex = none)
    (unmoved : next.call = state.call) (inside : next.thread.owns loop = true) (mutex : next.mutex = some .thread) :
    Guarded loop next := by
  unfold Guarded at guarded ⊢
  rw [free] at guarded
  rw [mutex, State.inside_thread loop unmoved, inside]
  exact guarded.acquire _

theorem Guarded.threadLeave (guarded : Guarded loop state) (held : state.thread.owns loop = true)
    (unmoved : next.call = state.call) (outside : next.thread.owns loop = false) (mutex : next.mutex = none) :
    Guarded loop next := by
  have inside : state.inside loop .thread = true := held
  unfold Guarded at guarded ⊢
  rw [mutex, State.inside_thread loop unmoved, outside]
  exact guarded.release inside

theorem Guarded.threadStay (guarded : Guarded loop state) (unmoved : next.call = state.call)
    (same : next.thread.owns loop = state.thread.owns loop) (mutex : next.mutex = state.mutex) :
    Guarded loop next := by
  unfold Guarded at guarded ⊢
  rw [mutex, State.inside_thread loop unmoved]
  exact guarded.keep same

end Lock

theorem ThreadMove.guarded {before after : State κ α} [DecidableEq κ] (move : ThreadMove loop before after)
    (guarded : Guarded loop before) : Guarded loop after := by
  cases move with
  | again pc | leave pc | wait pc | park pc =>
      exact guarded.threadStay rfl (by rw [pc]; rfl) rfl
  | ready inside =>
      rcases inside with pc | pc
      · exact guarded.threadStay rfl (by rw [pc]; rfl) rfl
      · exact guarded.threadStay rfl (by rw [pc]; rfl) rfl
  | enter _ free | wake _ _ free => exact guarded.threadEnter free rfl rfl rfl
  | sleep pc | stopped pc | around pc | drained pc =>
      exact guarded.threadLeave (by rw [pc]; rfl) rfl rfl rfl
  | nothing pc empty next same mutex lock =>
      cases early : loop.unlocksEarly with
      | true =>
          simp only [early, if_true] at same lock
          subst same lock
          exact guarded.threadLeave (by rw [pc]; rfl) rfl rfl rfl
      | false =>
          simp only [early, Bool.false_eq_true, if_false] at same lock
          subst same lock
          exact guarded.threadStay rfl (by rw [pc]; rfl) rfl
  | take pc item rest front mutex lock =>
      cases early : loop.unlocksEarly with
      | true =>
          simp only [early, if_true] at lock
          subst lock
          exact guarded.threadLeave (by rw [pc]; rfl) rfl (by simp [ThreadPc.owns, State.setThread, early]) rfl
      | false =>
          simp only [early, Bool.false_eq_true, if_false] at lock
          subst lock
          exact guarded.threadStay rfl (by simp [pc, ThreadPc.owns, State.setThread, early]) rfl
  | done item pc next same =>
      refine guarded.threadStay rfl ?_ rfl
      subst same
      cases early : loop.unlocksEarly <;> simp [pc, ThreadPc.owns, State.setThread, early]

theorem CallMove.guarded {before after : State κ α} {caller : κ} [DecidableEq κ]
    (move : CallMove items before caller after) (guarded : Guarded loop before) : Guarded loop after := by
  cases move with
  | enter _ free => exact guarded.callEnter free rfl rfl rfl rfl
  | push pc => exact guarded.callStay rfl rfl (by rw [pc]; rfl) rfl
  | unlock pc => exact guarded.callLeave (by rw [pc]; rfl) rfl rfl rfl rfl
  | notify pc =>
      have moved : Guarded loop (before.setCall caller .returned) := guarded.callStay rfl rfl (by rw [pc]; rfl) rfl
      exact moved.threadStay rfl rfl rfl

theorem StopMove.guarded {before after : State κ α} [DecidableEq κ] (move : StopMove before after)
    (guarded : Guarded loop before) : Guarded loop after := by
  cases move with
  | call | notify | join => exact guarded.threadStay rfl rfl rfl

/-! ## Nothing is lost -/

def CallPc.hasPushed : CallPc → Bool
  | .pushed | .unlocked | .returned => true
  | .idle | .locked => false

/-- The call has pushed and not notified. -/
def CallPc.owes : CallPc → Bool
  | .pushed | .unlocked => true
  | .idle | .locked | .returned => false

structure Sound (loop : Loop) (items : κ → List α) (state : State κ α) : Prop where
  guarded : Guarded loop state
  alive : state.terminated = false
  conserved : state.taken ++ state.queue = state.order.flatMap items
  nodup : state.order.Nodup
  listed : ∀ caller, caller ∈ state.order ↔ (state.call caller).hasPushed = true
  flag : state.running = true ↔ state.stop = .idle
  left : state.thread = .exited → state.running = false
  held : state.thread = .holding → state.running = false ∨ state.queue ≠ []
  parked : state.thread = .parking → state.queue = []
  owed : state.thread = .sleeping → state.woken = false → state.queue ≠ [] →
    ∃ caller, (state.call caller).owes = true

section Sound

variable [DecidableEq κ] {before after : State κ α}

omit [DecidableEq κ] in
/-- A call that holds the mutex keeps the thread out. -/
theorem Sound.thread_outside (sound : Sound loop items before) {caller : κ}
    (inside : (before.call caller).owns = true) : before.thread.owns loop = false := by
  refine Bool.eq_false_iff.mpr fun entered => ?_
  have first : before.inside loop (.call caller) = true := inside
  have second : before.inside loop .thread = true := entered
  cases sound.guarded.unique first second

theorem CallMove.sound {caller : κ} (move : CallMove items before caller after)
    (sound : Sound loop items before) : Sound loop items after := by
  have guarded := move.guarded sound.guarded
  have listed {pc : CallPc} (same : pc.hasPushed = (before.call caller).hasPushed) (other : κ) :
      other ∈ before.order ↔ (Function.update before.call caller pc other).hasPushed = true := by
    by_cases moved : other = caller
    · subst other
      rw [Function.update_self, same]
      exact sound.listed caller
    · rw [Function.update_of_ne moved]
      exact sound.listed other
  have owed {pc : CallPc} (still : (before.call caller).owes = true → pc.owes = true)
      (someone : ∃ other, (before.call other).owes = true) :
      ∃ other, (Function.update before.call caller pc other).owes = true := by
    obtain ⟨other, owes⟩ := someone
    by_cases moved : other = caller
    · subst other
      exact ⟨caller, by rw [Function.update_self]; exact still owes⟩
    · exact ⟨other, by rw [Function.update_of_ne moved]; exact owes⟩
  cases move with
  | enter pc =>
      exact { sound with
        guarded
        listed := listed (by rw [pc]; rfl)
        owed := fun sleeping unwoken filled =>
          owed (by rw [pc]; simp [CallPc.owes]) (sound.owed sleeping unwoken filled) }
  | push pc =>
      have outside := sound.thread_outside (by rw [pc]; rfl)
      have fresh : caller ∉ before.order := by
        rw [sound.listed caller, pc]
        simp [CallPc.hasPushed]
      refine ⟨guarded, sound.alive, ?_, ?_, ?_, sound.flag, sound.left, ?_, ?_, ?_⟩
      · change before.taken ++ (before.queue ++ items caller) = (before.order ++ [caller]).flatMap items
        rw [← List.append_assoc, sound.conserved, List.flatMap_append]
        simp
      · refine List.nodup_append.mpr ⟨sound.nodup, by simp, ?_⟩
        rintro other member last single rfl
        rw [List.mem_singleton.mp single] at member
        exact fresh member
      · intro other
        by_cases moved : other = caller
        · subst other
          simp [State.setCall, CallPc.hasPushed]
        · simpa [State.setCall, moved] using sound.listed other
      · intro holding
        simp [State.setCall] at holding
        simp [holding, ThreadPc.owns] at outside
      · intro parking
        simp [State.setCall] at parking
        simp [parking, ThreadPc.owns] at outside
      · intro _ _ _
        exact ⟨caller, by simp [State.setCall, CallPc.owes]⟩
  | unlock pc =>
      exact { sound with
        guarded
        listed := listed (by rw [pc]; rfl)
        owed := fun sleeping unwoken filled => owed (fun _ => rfl) (sound.owed sleeping unwoken filled) }
  | notify pc =>
      refine { sound with guarded, listed := listed (by rw [pc]; rfl), owed := fun sleeping unwoken => ?_ }
      -- Whoever sleeps has been notified.
      have asleep : before.thread = .sleeping := sleeping
      simp [State.notify, State.setCall, asleep, ThreadPc.sleeps] at unwoken

theorem ThreadMove.sound (move : ThreadMove loop before after) (sound : Sound loop items before) :
    Sound loop items after := by
  have guarded := move.guarded sound.guarded
  cases move with
  | again | enter | wait | wake | around =>
      exact ⟨guarded, sound.alive, sound.conserved, sound.nodup, sound.listed, sound.flag,
        by simp [State.setThread, State.unlock], by simp [State.setThread, State.unlock],
        by simp [State.setThread, State.unlock], by simp [State.setThread, State.unlock]⟩
  | leave _ stopped | stopped _ _ stopped | drained _ stopped =>
      exact ⟨guarded, sound.alive, sound.conserved, sound.nodup, sound.listed, sound.flag, fun _ => stopped,
        by simp [State.setThread, State.unlock], by simp [State.setThread, State.unlock],
        by simp [State.setThread, State.unlock]⟩
  | ready inside cause =>
      exact ⟨guarded, sound.alive, sound.conserved, sound.nodup, sound.listed, sound.flag, by simp [State.setThread],
        fun _ => cause, by simp [State.setThread], by simp [State.setThread]⟩
  | park pc empty =>
      exact ⟨guarded, sound.alive, sound.conserved, sound.nodup, sound.listed, sound.flag, by simp [State.setThread],
        by simp [State.setThread], fun _ => empty, by simp [State.setThread]⟩
  | sleep pc =>
      have empty := sound.parked pc
      exact ⟨guarded, sound.alive, sound.conserved, sound.nodup, sound.listed, sound.flag, by simp [State.unlock],
        by simp [State.unlock], by simp [State.unlock], fun _ _ filled => absurd empty filled⟩
  | nothing pc empty next same | done item pc next same =>
      have elsewhere : next ≠ .exited ∧ next ≠ .holding ∧ next ≠ .parking ∧ next ≠ .sleeping := by
        subst same
        split <;> simp
      exact ⟨guarded, sound.alive, sound.conserved, sound.nodup, sound.listed, sound.flag,
        fun exited => absurd exited elsewhere.1, fun holding => absurd holding elsewhere.2.1,
        fun parking => absurd parking elsewhere.2.2.1, fun sleeping => absurd sleeping elsewhere.2.2.2⟩
  | take pc item rest front =>
      refine ⟨guarded, sound.alive, ?_, sound.nodup, sound.listed, sound.flag, by simp [State.setThread],
        by simp [State.setThread], by simp [State.setThread], by simp [State.setThread]⟩
      have conserved := sound.conserved
      rw [front] at conserved
      change (before.taken ++ [item]) ++ rest = before.order.flatMap items
      rw [List.append_assoc]
      exact conserved

theorem StopMove.sound (move : StopMove before after) (sound : Sound loop items before) : Sound loop items after := by
  have guarded := move.guarded sound.guarded
  cases move with
  | call => exact { sound with guarded, flag := by simp, left := fun _ => rfl, held := fun _ => .inl rfl }
  | notify flagged =>
      have stopped := sound.flag
      simp only [flagged, reduceCtorEq, iff_false] at stopped
      refine { sound with guarded, flag := by simpa [State.notify] using stopped, owed := fun sleeping unwoken => ?_ }
      have asleep : before.thread = .sleeping := sleeping
      simp [State.notify, asleep, ThreadPc.sleeps] at unwoken
  | join joining =>
      have stopped := sound.flag
      simp only [joining, reduceCtorEq, iff_false] at stopped
      exact { sound with guarded, flag := by simpa using stopped }

theorem Transition.sound {action : Action κ} (transition : Transition loop items before action after)
    (sound : Sound loop items before) : Sound loop items after := by
  cases transition with
  | call caller _ move => exact move.sound sound
  | thread _ move => exact move.sound sound
  | stop _ move => exact move.sound sound
  | wake => exact { sound with guarded := sound.guarded.threadStay rfl rfl rfl, owed := by simp }

theorem sound_of_reachable {state : State κ α} (reached : (handoff loop items).ReachableBy Calm state) :
    Sound loop items state := by
  refine reached.invariant ?_ ?_
  · refine ⟨fun agent => ?_, rfl, rfl, List.nodup_nil, fun caller => by simp [handoff, CallPc.hasPushed],
      by simp [handoff], by simp [handoff], by simp [handoff], by simp [handoff], by simp [handoff]⟩
    cases agent <;> simp [handoff, State.inside, CallPc.owns, ThreadPc.owns]
  · intro before action after sound calm stepped
    exact (handoffStep_transition calm stepped).sound sound

end Sound

end TaskHive.Handoff
