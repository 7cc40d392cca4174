import TaskHive.LogSystem.AsyncWorker

namespace TaskHive.LogSystem

open Wire

variable {κ : Type} {setup : Setup κ}

/-! # The stream that an `AsyncWorker` delivers

A byte of an accepted call is in the producer buffer, in the consumer buffer or
with the callback, and the three hold them in the order of the calls. -/

/-! ## Who holds `mutex_` -/

def PushPc.owns : PushPc → Bool
  | .locked | .awaiting | .rechecking | .writing | .written => true
  | _ => false

def ConsumerPc.owns : ConsumerPc → Bool
  | .locked | .awaiting | .swapping | .swapped => true
  | _ => false

def State.inside (state : State κ) : Owner κ → Bool
  | .push caller => (state.push caller).owns
  | .consumer => state.consumer.owns

def Guarded (state : State κ) : Prop := Exclusive state.mutex state.inside

section Lock

variable [DecidableEq κ] {state : State κ} {caller : κ}

theorem State.inside_setPush (state : State κ) (caller : κ) (pc : PushPc) :
    (state.setPush caller pc).inside = Function.update state.inside (.push caller) pc.owns := by
  funext agent
  cases agent with
  | consumer => simp [State.inside, State.setPush]
  | push other =>
      by_cases same : other = caller
      · subst other
        simp [State.inside, State.setPush]
      · simp [State.inside, State.setPush, same]

theorem State.inside_setConsumer (state : State κ) (pc : ConsumerPc) :
    (state.setConsumer pc).inside = Function.update state.inside .consumer pc.owns := by
  funext agent
  cases agent <;> simp [State.inside, State.setConsumer]

theorem Guarded.grant (guarded : Guarded state) (free : state.mutex = none) {pc : PushPc}
    (inside : pc.owns = true) : Guarded (state.grant caller pc) := by
  unfold Guarded at guarded
  rw [free] at guarded
  change Exclusive (some (.push caller)) (state.setPush caller pc).inside
  rw [State.inside_setPush, inside]
  exact guarded.acquire _

theorem Guarded.release (guarded : Guarded state) {old new : PushPc} (pc : state.push caller = old)
    (held : old.owns = true) (outside : new.owns = false) : Guarded (state.release caller new) := by
  subst pc
  change Exclusive none (state.setPush caller new).inside
  rw [State.inside_setPush, outside]
  exact Exclusive.release guarded held

theorem Guarded.setPush (guarded : Guarded state) {old new : PushPc} (pc : state.push caller = old)
    (same : new.owns = old.owns) : Guarded (state.setPush caller new) := by
  subst pc
  change Exclusive state.mutex (state.setPush caller new).inside
  rw [State.inside_setPush]
  exact guarded.keep same

theorem Guarded.enterConsumer (guarded : Guarded state) (free : state.mutex = none) {pc : ConsumerPc}
    (inside : pc.owns = true) : Guarded { state.setConsumer pc with mutex := some .consumer } := by
  unfold Guarded at guarded
  rw [free] at guarded
  change Exclusive (some .consumer) (state.setConsumer pc).inside
  rw [State.inside_setConsumer, inside]
  exact guarded.acquire _

theorem Guarded.leaveConsumer (guarded : Guarded state) {old new : ConsumerPc} (pc : state.consumer = old)
    (held : old.owns = true) (outside : new.owns = false) :
    Guarded { state.setConsumer new with mutex := none } := by
  subst pc
  change Exclusive none (state.setConsumer new).inside
  rw [State.inside_setConsumer, outside]
  exact Exclusive.release guarded held

theorem Guarded.setConsumer (guarded : Guarded state) {old new : ConsumerPc} (pc : state.consumer = old)
    (same : new.owns = old.owns) : Guarded (state.setConsumer new) := by
  subst pc
  change Exclusive state.mutex (state.setConsumer new).inside
  rw [State.inside_setConsumer]
  exact guarded.keep same

theorem Transition.guarded {before after : State κ} {action : Action κ}
    (transition : Transition setup before action after) (guarded : Guarded before) : Guarded after := by
  cases transition with
  | pushEnter caller _ free | pushWake caller _ free => exact guarded.grant free rfl
  | pushReject caller checking =>
      rcases checking with locked | rechecking
      · exact guarded.release locked rfl rfl
      · exact guarded.release rechecking rfl rfl
  | pushPass caller locked => exact guarded.setPush locked (by split <;> rfl)
  | pushWait caller awaiting => exact guarded.release awaiting rfl rfl
  | pushFits caller awaiting => exact guarded.setPush awaiting rfl
  | pushRecheck caller rechecking => exact guarded.setPush rechecking rfl
  | pushWrite caller writing => exact (guarded.setPush writing rfl : Guarded (before.setPush caller .written))
  | pushReturn caller written => exact guarded.release written rfl rfl
  | consumerEnter _ free | consumerWake _ free => exact guarded.enterConsumer free rfl
  | consumerWait locked => exact guarded.setConsumer locked rfl
  | consumerReady inside =>
      rcases inside with locked | awaiting
      · exact guarded.setConsumer locked rfl
      · exact guarded.setConsumer awaiting rfl
  | consumerSleep awaiting => exact guarded.leaveConsumer awaiting rfl rfl
  | consumerSwap swapping => exact (guarded.setConsumer swapping rfl : Guarded (before.setConsumer .swapped))
  | consumerRelease swapped => exact guarded.leaveConsumer swapped rfl rfl
  | consumerCall calling => exact (guarded.setConsumer calling rfl : Guarded (before.setConsumer (.flushing 0)))
  | consumerFlush index flushing =>
      exact (guarded.setConsumer flushing rfl : Guarded (before.setConsumer (.flushing (index + 1))))
  | consumerReturn index flushing => exact guarded.setConsumer flushing rfl
  | consumerReset called => exact (guarded.setConsumer called rfl : Guarded (before.setConsumer .testingStop))
  | consumerRepeat testing =>
      rcases testing with stop | empty
      · exact guarded.setConsumer stop rfl
      · exact guarded.setConsumer empty rfl
  | consumerStopped testing | consumerExit testing => exact guarded.setConsumer testing rfl
  | stopCall | stopJoin => exact guarded

end Lock

/-! ## Which calls are accepted, and in which order -/

def PushPc.isAccepted : PushPc → Bool
  | .written | .returned => true
  | _ => false

/-- The call owns the lock and has not written yet. -/
def PushPc.holds : PushPc → Bool
  | .locked | .awaiting | .rechecking | .writing => true
  | _ => false

theorem PushPc.owns_of_holds {pc : PushPc} (held : pc.holds = true) : pc.owns = true := by
  cases pc <;> first | rfl | cases held

/-- The accepted calls are those that wrote, each once and at the position of a
time that it was given the lock. -/
structure Logged (state : State κ) : Prop where
  nodup : state.accepted.Nodup
  members : ∀ caller, caller ∈ state.accepted ↔ (state.push caller).isAccepted = true
  ordered : state.accepted.Sublist state.granted
  last : ∀ caller, (state.push caller).holds = true →
    ∃ earlier, state.granted = earlier ++ [caller] ∧ state.accepted.Sublist earlier

section Order

variable [DecidableEq κ] {state : State κ} {caller : κ}

theorem Logged.members_setPush (logged : Logged state) {old new : PushPc} (pc : state.push caller = old)
    (same : new.isAccepted = old.isAccepted) (other : κ) :
    other ∈ state.accepted ↔ ((state.setPush caller new).push other).isAccepted = true := by
  refine (Function.forall_update_iff state.push fun other pc => other ∈ state.accepted ↔
    pc.isAccepted = true).mpr ⟨?_, fun other _ => logged.members other⟩ other
  rw [same, ← pc]
  exact logged.members caller

theorem Logged.setPush (logged : Logged state) {old new : PushPc} (pc : state.push caller = old)
    (same : new.isAccepted = old.isAccepted) (holding : new.holds = true → old.holds = true) :
    Logged (state.setPush caller new) where
  nodup := logged.nodup
  members := logged.members_setPush pc same
  ordered := logged.ordered
  last := by
    refine (Function.forall_update_iff state.push fun other pc => pc.holds = true →
      ∃ earlier, state.granted = earlier ++ [other] ∧ state.accepted.Sublist earlier).mpr
      ⟨?_, fun other _ => logged.last other⟩
    intro held
    refine logged.last caller ?_
    rw [pc]
    exact holding held

theorem Logged.grant (logged : Logged state) (guarded : Guarded state) (free : state.mutex = none)
    {old new : PushPc} (pc : state.push caller = old) (same : new.isAccepted = old.isAccepted) :
    Logged (state.grant caller new) where
  nodup := logged.nodup
  members := logged.members_setPush pc same
  ordered := logged.ordered.trans (List.sublist_append_left _ _)
  last := by
    refine (Function.forall_update_iff state.push fun other pc => pc.holds = true →
      ∃ earlier, state.granted ++ [caller] = earlier ++ [other] ∧ state.accepted.Sublist earlier).mpr
      ⟨fun _ => ⟨state.granted, rfl, logged.ordered⟩, ?_⟩
    -- The lock was free, so no other call was inside.
    intro other _ held
    unfold Guarded at guarded
    rw [free] at guarded
    have outside : (state.push other).owns = false := guarded.outside_of_free (.push other)
    rw [PushPc.owns_of_holds held] at outside
    cases outside

theorem Logged.write (logged : Logged state) (guarded : Guarded state) (writing : state.push caller = .writing)
    (pushed : ValidBuffer) :
    Logged { state.setPush caller .written with
      bufferProductor := pushed, accepted := state.accepted ++ [caller] } := by
  have fresh : caller ∉ state.accepted := by
    rw [logged.members caller, writing]
    simp [PushPc.isAccepted]
  obtain ⟨earlier, granted, before⟩ := logged.last caller (by rw [writing]; rfl)
  refine ⟨?_, ?_, ?_, ?_⟩
  · refine List.nodup_append.mpr ⟨logged.nodup, by simp, ?_⟩
    rintro other member last single rfl
    rw [List.mem_singleton.mp single] at member
    exact fresh member
  · refine (Function.forall_update_iff state.push fun other pc => other ∈ state.accepted ++ [caller] ↔
      pc.isAccepted = true).mpr ⟨by simp [PushPc.isAccepted], fun other different => ?_⟩
    simpa [different] using logged.members other
  · change (state.accepted ++ [caller]).Sublist state.granted
    rw [granted]
    exact before.append (List.Sublist.refl _)
  · refine (Function.forall_update_iff state.push fun other pc => pc.holds = true →
      ∃ earlier, state.granted = earlier ++ [other] ∧ (state.accepted ++ [caller]).Sublist earlier).mpr
      ⟨by simp [PushPc.holds], ?_⟩
    intro other different held
    have inside : state.inside (.push other) = true := PushPc.owns_of_holds held
    have writer : state.inside (.push caller) = true := by
      simp [State.inside, writing, PushPc.owns]
    exact absurd (Owner.push.inj (Exclusive.unique guarded writer inside)) different

theorem Transition.logged {before after : State κ} {action : Action κ}
    (transition : Transition setup before action after) (guarded : Guarded before) (logged : Logged before) :
    Logged after := by
  cases transition with
  | pushEnter caller idle free => exact logged.grant guarded free idle rfl
  | pushWake caller waiting free => exact logged.grant guarded free waiting rfl
  | pushReject caller checking =>
      have kept : Logged (before.setPush caller .rejected) := by
        rcases checking with locked | rechecking
        · exact logged.setPush locked rfl (by simp [PushPc.holds])
        · exact logged.setPush rechecking rfl (by simp [PushPc.holds])
      exact { kept with }
  | pushPass caller locked => exact logged.setPush locked (by split <;> rfl) (fun _ => rfl)
  | pushWait caller awaiting =>
      have kept : Logged (before.setPush caller .waiting) := logged.setPush awaiting rfl (fun _ => rfl)
      exact { kept with }
  | pushFits caller awaiting => exact logged.setPush awaiting rfl (fun _ => rfl)
  | pushRecheck caller rechecking => exact logged.setPush rechecking rfl (fun _ => rfl)
  | pushWrite caller writing pushed => exact logged.write guarded writing pushed
  | pushReturn caller written =>
      have kept : Logged (before.setPush caller .returned) := logged.setPush written rfl (by simp [PushPc.holds])
      exact { kept with }
  | consumerEnter | consumerWake | consumerWait | consumerReady | consumerSleep | consumerSwap
  | consumerRelease | consumerCall | consumerFlush | consumerReturn | consumerReset | consumerRepeat
  | consumerStopped | consumerExit | stopCall | stopJoin => exact { logged with }

end Order

/-! ## Where the bytes are -/

/-- The consumer buffer holds bytes that the callback has not been given. -/
def ConsumerPc.holds : ConsumerPc → Bool
  | .swapped | .calling => true
  | _ => false

/-- The consumer buffer has been reset since the last callback. -/
def ConsumerPc.drained : ConsumerPc → Bool
  | .swapped | .calling | .flushing _ | .called => false
  | _ => true

/-- The unread bytes of the consumer buffer that are not handed over yet. -/
def State.pending (state : State κ) : Bytes :=
  if state.consumer.holds then state.buffConsumer.unread else []

structure Streaming (setup : Setup κ) (state : State κ) : Prop where
  drained : state.consumer.drained = true → state.buffConsumer.unread = []
  stream : state.handed ++ state.pending ++ state.bufferProductor.unread = state.accepted.flatMap setup.data

section Bytes

variable {state : State κ}

theorem Streaming.setConsumer (streaming : Streaming setup state) {old new : ConsumerPc}
    (pc : state.consumer = old) (drains : new.drained = true → old.drained = true) (same : new.holds = old.holds) :
    Streaming setup (state.setConsumer new) where
  drained reset := streaming.drained (by rw [pc]; exact drains reset)
  stream := by
    have pending : (state.setConsumer new).pending = state.pending := by
      simp only [State.pending, State.setConsumer, same, pc]
    rw [pending]
    exact streaming.stream

theorem Streaming.write (streaming : Streaming setup state) {caller : κ} {pushed : ValidBuffer}
    (written : state.bufferProductor.push setup.config (setup.data caller) = some pushed) :
    state.handed ++ state.pending ++ pushed.unread = (state.accepted ++ [caller]).flatMap setup.data := by
  rw [ValidBuffer.unread_push written, ← List.append_assoc, streaming.stream, List.flatMap_append]
  simp

theorem Streaming.swap (streaming : Streaming setup state) (swapping : state.consumer = .swapping) :
    Streaming setup { state.setConsumer .swapped with
      bufferProductor := state.buffConsumer, buffConsumer := state.bufferProductor } where
  drained := nofun
  stream := by
    have empty : state.buffConsumer.unread = [] := streaming.drained (by rw [swapping]; rfl)
    have before := streaming.stream
    simp only [State.pending, swapping, ConsumerPc.holds, Bool.false_eq_true, if_false, List.append_nil] at before
    simp only [State.pending, State.setConsumer, ConsumerPc.holds, if_true, empty, List.append_nil]
    exact before

theorem Streaming.call (streaming : Streaming setup state) (calling : state.consumer = .calling) :
    Streaming setup { state.setConsumer (.flushing 0) with
      handed := state.handed ++ state.buffConsumer.unread } where
  drained := nofun
  stream := by
    have before := streaming.stream
    simp only [State.pending, calling, ConsumerPc.holds, if_true] at before
    simp only [State.pending, State.setConsumer, ConsumerPc.holds, Bool.false_eq_true, if_false, List.append_nil]
    exact before

end Bytes

variable [DecidableEq κ]

theorem Transition.streaming {before after : State κ} {action : Action κ}
    (transition : Transition setup before action after) (streaming : Streaming setup before) :
    Streaming setup after := by
  cases transition with
  | pushEnter | pushWake | pushReject | pushPass | pushWait | pushFits | pushRecheck | pushReturn
  | stopCall | stopJoin => exact { streaming with }
  | pushWrite caller writing pushed written => exact ⟨streaming.drained, streaming.write written⟩
  | consumerEnter top =>
      have kept : Streaming setup (before.setConsumer .locked) := streaming.setConsumer top (fun _ => rfl) rfl
      exact { kept with }
  | consumerWake sleeping =>
      have kept : Streaming setup (before.setConsumer .awaiting) :=
        streaming.setConsumer sleeping (fun _ => rfl) rfl
      exact { kept with }
  | consumerWait locked => exact streaming.setConsumer locked (fun _ => rfl) rfl
  | consumerReady inside =>
      rcases inside with locked | awaiting
      · exact streaming.setConsumer locked (fun _ => rfl) rfl
      · exact streaming.setConsumer awaiting (fun _ => rfl) rfl
  | consumerSleep awaiting =>
      have kept : Streaming setup (before.setConsumer .sleeping) :=
        streaming.setConsumer awaiting (fun _ => rfl) rfl
      exact { kept with }
  | consumerSwap swapping => exact streaming.swap swapping
  | consumerRelease swapped =>
      have kept : Streaming setup (before.setConsumer .calling) := streaming.setConsumer swapped id rfl
      exact { kept with }
  | consumerCall calling => exact streaming.call calling
  | consumerFlush index flushing left =>
      have kept : Streaming setup (before.setConsumer (.flushing (index + 1))) :=
        streaming.setConsumer flushing id rfl
      exact ⟨nofun, kept.stream⟩
  | consumerReturn index flushing => exact streaming.setConsumer flushing id rfl
  | consumerReset called =>
      refine ⟨fun _ => ValidBuffer.unread_reset _, ?_⟩
      have handed := streaming.stream
      simp only [State.pending, called, ConsumerPc.holds, Bool.false_eq_true, if_false] at handed
      exact handed
  | consumerRepeat testing =>
      rcases testing with stop | empty
      · exact streaming.setConsumer stop (fun _ => rfl) rfl
      · exact streaming.setConsumer empty (fun _ => rfl) rfl
  | consumerStopped testing | consumerExit testing => exact streaming.setConsumer testing (fun _ => rfl) rfl

/-! ## What the sinks have received -/

theorem realFlush_eq_some {sinks index : Nat} {buffer left : ValidBuffer}
    (continues : realFlush sinks index buffer = some left) : index < sinks ∧ left = buffer := by
  unfold realFlush at continues
  split at continues
  · cases continues
  · split at continues
    · rename_i sink
      cases continues
      exact ⟨sink, rfl⟩
    · cases continues

theorem realFlush_eq_none {sinks index : Nat} {buffer : ValidBuffer} (ended : realFlush sinks index buffer = none) :
    buffer.unread = [] ∨ sinks ≤ index := by
  unfold realFlush at ended
  split at ended
  · rename_i empty
    exact .inl (buffer.isEmpty_iff.mp empty)
  · split at ended
    · cases ended
    · rename_i last
      exact .inr (Nat.not_lt.mp last)

def ConsumerPc.isFlushing : ConsumerPc → Bool
  | .flushing _ => true
  | _ => false

/-- Between two callbacks every sink has what was handed over; during one, the
sinks before the current one have. -/
structure Flushed (sinks : Nat) (state : State κ) : Prop where
  complete : state.consumer.isFlushing = false → ∀ sink < sinks, state.received sink = state.handed
  flushing : ∀ index, state.consumer = .flushing index →
    ∃ earlier, state.handed = earlier ++ state.buffConsumer.unread ∧
      ∀ sink < sinks, state.received sink = if sink < index then state.handed else earlier

section Sinks

variable {sinks : Nat} {state : State κ}

omit [DecidableEq κ] in
theorem Flushed.setConsumer (flushed : Flushed sinks state) {old : ConsumerPc} (pc : state.consumer = old)
    (outside : old.isFlushing = false) (new : ConsumerPc) (stays : new.isFlushing = false) :
    Flushed sinks (state.setConsumer new) where
  complete _ := flushed.complete (by rw [pc]; exact outside)
  flushing index inside := by
    rw [show new = .flushing index from inside] at stays
    cases stays

omit [DecidableEq κ] in
theorem Flushed.flush (flushed : Flushed sinks state) {index : Nat} (flushing : state.consumer = .flushing index) :
    Flushed sinks { state.setConsumer (.flushing (index + 1)) with
      received := Function.update state.received index (state.received index ++ state.buffConsumer.unread) } := by
  obtain ⟨earlier, handed, received⟩ := flushed.flushing index flushing
  refine ⟨nofun, ?_⟩
  rintro _ ⟨⟩
  refine ⟨earlier, handed, ?_⟩
  intro sink bound
  change Function.update state.received index (state.received index ++ state.buffConsumer.unread) sink =
    if sink < index + 1 then state.handed else earlier
  by_cases current : sink = index
  · subst sink
    rw [Function.update_self, received index bound, if_neg (Nat.lt_irrefl index), if_pos (Nat.lt_succ_self index)]
    exact handed.symm
  · rw [Function.update_of_ne current, received sink bound]
    have same : sink < index ↔ sink < index + 1 := by omega
    simp only [same]

omit [DecidableEq κ] in
theorem Flushed.finish (flushed : Flushed sinks state) {index : Nat} (flushing : state.consumer = .flushing index)
    (ended : realFlush sinks index state.buffConsumer = none) : Flushed sinks (state.setConsumer .called) := by
  obtain ⟨earlier, handed, received⟩ := flushed.flushing index flushing
  refine ⟨fun _ sink bound => ?_, nofun⟩
  change state.received sink = state.handed
  rw [received sink bound]
  rcases realFlush_eq_none ended with empty | last
  · rw [handed, empty, List.append_nil]
    split <;> rfl
  · exact if_pos (Nat.lt_of_lt_of_le bound last)

theorem Transition.flushed {before after : State κ} {action : Action κ}
    (transition : Transition setup before action after) (logger : setup.callback = realFlush sinks)
    (flushed : Flushed sinks before) : Flushed sinks after := by
  cases transition with
  | pushEnter | pushWake | pushReject | pushPass | pushWait | pushFits | pushRecheck | pushWrite | pushReturn
  | stopCall | stopJoin => exact { flushed with }
  | consumerEnter top => exact { flushed.setConsumer top rfl .locked rfl with }
  | consumerWake sleeping => exact { flushed.setConsumer sleeping rfl .awaiting rfl with }
  | consumerSleep awaiting => exact { flushed.setConsumer awaiting rfl .sleeping rfl with }
  | consumerRelease swapped => exact { flushed.setConsumer swapped rfl .calling rfl with }
  | consumerWait pc | consumerStopped pc | consumerExit pc => exact flushed.setConsumer pc rfl _ rfl
  | consumerReady inside | consumerRepeat inside =>
      rcases inside with pc | pc
      · exact flushed.setConsumer pc rfl _ rfl
      · exact flushed.setConsumer pc rfl _ rfl
  | consumerSwap swapping => exact ⟨(flushed.setConsumer swapping rfl .swapped rfl).complete, nofun⟩
  | consumerReset called => exact ⟨(flushed.setConsumer called rfl .testingStop rfl).complete, nofun⟩
  | consumerCall calling =>
      have complete := flushed.complete (by rw [calling]; rfl)
      refine ⟨nofun, ?_⟩
      rintro _ ⟨⟩
      exact ⟨before.handed, rfl, fun sink bound => complete sink bound⟩
  | consumerFlush index flushing left continues =>
      rw [logger] at continues
      obtain ⟨_, rfl⟩ := realFlush_eq_some continues
      exact { flushed.flush flushing with }
  | consumerReturn index flushing ended =>
      rw [logger] at ended
      exact flushed.finish flushing ended

end Sinks

/-! ## Whole runs -/

/-- With the lock free, what the callback has been given, what waits in the
consumer buffer and what waits in the producer buffer are the data of the
accepted calls in the order in which they held the lock.  All sinks of a logger
have received the same bytes when no callback is running. -/
structure FaithfulStream (setup : Setup κ) (state : State κ) : Prop where
  stream : state.mutex = none →
    state.handed ++ state.pending ++ state.bufferProductor.unread = state.accepted.flatMap setup.data
  members : ∀ caller, caller ∈ state.accepted ↔ (state.push caller).isAccepted = true
  nodup : state.accepted.Nodup
  ordered : state.accepted.Sublist state.granted
  sinks : ∀ sinks, setup.callback = realFlush sinks → state.consumer.isFlushing = false →
    ∀ sink < sinks, state.received sink = state.handed

/-- What every step keeps. -/
structure Delivering (setup : Setup κ) (state : State κ) : Prop where
  guarded : Guarded state
  logged : Logged state
  streaming : Streaming setup state
  flushed : ∀ sinks, setup.callback = realFlush sinks → Flushed sinks state

theorem delivering_init (setup : Setup κ) : Delivering setup (asyncWorker setup).init where
  guarded agent := by cases agent <;> simp [asyncWorker, State.inside, PushPc.owns, ConsumerPc.owns]
  logged := ⟨List.nodup_nil, fun _ => by simp [asyncWorker, PushPc.isAccepted], List.Sublist.refl _, nofun⟩
  streaming := ⟨fun _ => ValidBuffer.unread_new setup.config, ValidBuffer.unread_new setup.config⟩
  flushed _ _ := ⟨fun _ _ _ => rfl, nofun⟩

theorem Transition.delivering {before after : State κ} {action : Action κ}
    (transition : Transition setup before action after) (delivering : Delivering setup before) :
    Delivering setup after where
  guarded := transition.guarded delivering.guarded
  logged := transition.logged delivering.guarded delivering.logged
  streaming := transition.streaming delivering.streaming
  flushed sinks logger := transition.flushed logger (delivering.flushed sinks logger)

theorem delivering_of_reachable {state : State κ} {allowed : State κ → Action κ → Prop}
    (reached : (asyncWorker setup).ReachableBy allowed state) : Delivering setup state := by
  refine reached.invariant (delivering_init setup) ?_
  intro before action after delivering _ stepped
  exact (asyncStep_transition stepped).delivering delivering

theorem async_worker_stream_faithful (setup : Setup κ) {state : State κ}
    (reached : (asyncWorker setup).Reachable state) : FaithfulStream setup state := by
  have delivering := delivering_of_reachable reached
  exact ⟨fun _ => delivering.streaming.stream, delivering.logged.members, delivering.logged.nodup,
    delivering.logged.ordered, fun sinks logger => (delivering.flushed sinks logger).complete⟩

/-- A bounded logger with two sinks and two calls. -/
def twoSinks : Setup (Fin 2) where
  config := { bufferSize := 2, threshold := 8, linearGrowth := 4 }
  asyncType := .blockingBounded
  callback := realFlush 2
  data caller := [UInt8.ofNat caller]

/-- The first call has reached both sinks and the second one is in the producer
buffer. -/
theorem two_sinks_stream_faithful :
    ∃ state, (asyncWorker twoSinks).Reachable state ∧ state.mutex = none ∧ state.handed = [0] ∧
      state.received 0 = [0] ∧ state.received 1 = [0] ∧ state.bufferProductor.unread = [1] ∧
      FaithfulStream twoSinks state := by
  obtain ⟨state, reached, free, handed, first, second, unread⟩ :=
    (asyncWorker twoSinks).reachableBy_of_any (fun _ _ => True)
      (fun state => state.mutex = none ∧ state.handed = [0] ∧ state.received 0 = [0] ∧ state.received 1 = [0] ∧
        state.bufferProductor.unread = [1])
      (List.replicate 6 (Action.push 0) ++ List.replicate 9 Action.consumer ++ List.replicate 6 (Action.push 1))
      (by decide)
  exact ⟨state, reached, free, handed, first, second, unread, async_worker_stream_faithful twoSinks reached⟩

end TaskHive.LogSystem
