import TaskHive.LogSystem.BackupClient

namespace TaskHive.LogSystem

/-! # Calls of `start_backup` that keep to their own sockets

A call closes its only socket when its first `connect` fails, so whatever it
does from its second attempt on is done to a number that is no longer its own.
Until then every call holds its number alone. -/

/-! ## What a call without retries holds -/

/-- The attempts that a call has made when it is at this point. -/
def BackupPc.Counted (made : Nat) : BackupPc → Prop
  | .idle => made = 0
  | .connecting _ attempt => attempt = made + 1
  | .closing _ attempt | .sleeping _ attempt => attempt = made ∧ 0 < made
  | .sending _ | .closingLast _ | .returned => True

/-- The number under which a call without retries has its socket, and whether
it is connected. -/
def BackupPc.holding : BackupPc → Option (Nat × Bool)
  | .connecting sockfd attempt | .closing sockfd attempt => if attempt = 1 then some (sockfd, false) else none
  | .sending sockfd | .closingLast sockfd => some (sockfd, true)
  | .idle | .sleeping _ _ | .returned => none

def BackupPc.pastSend : BackupPc → Bool
  | .closingLast _ | .returned => true
  | .idle | .connecting _ _ | .closing _ _ | .sleeping _ _ | .sending _ => false

theorem BackupPc.holding_closing {sockfd attempt descriptor : Nat} {connected : Bool}
    (held : (closing sockfd attempt).holding = some (descriptor, connected)) : descriptor = sockfd := by
  simp only [holding, Option.ite_none_right_eq_some, Option.some.injEq, Prod.mk.injEq] at held
  exact held.2.1.symm

namespace Backups

variable {κ : Type} [DecidableEq κ] {state next : Backups κ} {caller : κ} {pc : BackupPc}

def Counted (state : Backups κ) : Prop := ∀ caller, (state.call caller).Counted (state.attempts caller)

theorem Counted.of_pc (counted : state.Counted) (atPc : state.call caller = pc) :
    pc.Counted (state.attempts caller) := by
  rw [← atPc]
  exact counted caller

theorem Counted.advance (counted : state.Counted) (after : pc.Counted (state.attempts caller)) :
    (state.advance caller pc).Counted := by
  apply (Function.forall_update_iff state.call fun other pc => pc.Counted (state.attempts other)).mpr
  exact ⟨after, fun other _ => counted other⟩

/-- Only the attempts of the caller are counted anew. -/
theorem Counted.use (counted : state.Counted) {operation : Operation} {sockfd : Nat}
    (after : pc.Counted (state.attempts caller + if operation.isConnect then 1 else 0)) :
    ((state.use caller operation sockfd).advance caller pc).Counted := by
  apply (Function.forall_update_iff state.call fun other pc =>
    pc.Counted ((state.use caller operation sockfd).attempts other)).mpr
  constructor
  · simpa [attempts_use] using after
  · intro other different
    simpa [attempts_use, different.symm] using counted other

theorem Transition.counted (transition : Transition state next) (counted : state.Counted) : next.Counted := by
  cases transition with
  | other => exact counted
  | socketFailed caller pc => exact counted.advance trivial
  | opened caller sockfd pc =>
      have made : state.attempts caller = 0 := counted.of_pc pc
      have entered : (state.setEntry sockfd (some (.socket caller false))).Counted := counted
      apply entered.advance
      exact congrArg (· + 1) made.symm
  | connected caller owner sockfd attempt => exact counted.use trivial
  | failed caller accepts sockfd attempt pc => exact counted.use ⟨counted.of_pc pc, Nat.succ_pos _⟩
  | closed caller sockfd attempt pc =>
      have made : attempt = state.attempts caller ∧ 0 < state.attempts caller := counted.of_pc pc
      exact counted.use made
  | closedLast caller sockfd pc => exact counted.use trivial
  | woken caller sockfd attempt pc =>
      have made : attempt = state.attempts caller ∧ 0 < state.attempts caller := counted.of_pc pc
      apply counted.advance
      unfold afterSleep
      split
      · exact congrArg (· + 1) made.1
      · trivial
  | sent caller owner sockfd => exact counted.use trivial
  | unsent caller sockfd => exact counted.use trivial

/-- An open backup socket is held by its call. -/
def Owned (state : Backups κ) : Prop :=
  ∀ sockfd owner connected, state.table sockfd = some (.socket owner connected) →
    ∃ flag, (state.call owner).holding = some (sockfd, flag)

theorem Owned.advance (owned : state.Owned)
    (kept : ∀ sockfd flag, (state.call caller).holding = some (sockfd, flag) →
      ∃ flag, pc.holding = some (sockfd, flag)) : (state.advance caller pc).Owned := by
  intro sockfd owner connected found
  obtain ⟨flag, holding⟩ := owned sockfd owner connected found
  by_cases same : owner = caller
  · subst same
    rw [call_advance_self]
    exact kept sockfd flag holding
  · rw [call_advance_of_ne state pc same]
    exact ⟨flag, holding⟩

omit [DecidableEq κ] in
theorem Owned.setEntry (owned : state.Owned) {descriptor : Nat} {entry : Option (Descriptor κ)}
    (held : ∀ owner connected, entry = some (.socket owner connected) →
      ∃ flag, (state.call owner).holding = some (descriptor, flag)) : (state.setEntry descriptor entry).Owned := by
  intro sockfd owner connected found
  by_cases same : sockfd = descriptor
  · subst same
    rw [table_setEntry_self] at found
    exact held owner connected found
  · rw [table_setEntry_of_ne state entry same] at found
    exact owned sockfd owner connected found

/-- A call that closes the number it may hold has no socket left. -/
theorem Owned.close (owned : state.Owned) {sockfd : Nat}
    (held : ∀ descriptor flag, (state.call caller).holding = some (descriptor, flag) → descriptor = sockfd) :
    ((state.setEntry sockfd none).advance caller pc).Owned := by
  intro descriptor owner connected found
  change (state.setEntry sockfd none).table descriptor = _ at found
  by_cases same : descriptor = sockfd
  · rw [same, table_setEntry_self] at found
    cases found
  · rw [table_setEntry_of_ne state none same] at found
    obtain ⟨flag, holding⟩ := owned descriptor owner connected found
    by_cases mine : owner = caller
    · subst mine
      exact absurd (held descriptor flag holding) same
    · rw [call_advance_of_ne _ pc mine]
      exact ⟨flag, holding⟩

theorem Transition.owned (transition : Transition state next) (owned : state.Owned) : next.Owned := by
  cases transition with
  | other descriptor entry _ after =>
      apply owned.setEntry
      intro owner connected same
      subst same
      simp at after
  | socketFailed caller pc =>
      apply owned.advance
      simp [pc, BackupPc.holding]
  | opened caller sockfd pc =>
      have advanced : (state.advance caller (.connecting sockfd 1)).Owned := by
        apply owned.advance
        simp [pc, BackupPc.holding]
      apply advanced.setEntry
      intro owner connected same
      cases same
      rw [call_advance_self]
      exact ⟨false, rfl⟩
  | connected caller owner sockfd attempt pc found =>
      have entered : (state.setEntry sockfd (some (.socket owner true))).Owned := by
        apply owned.setEntry
        intro holder connected same
        cases same
        exact owned sockfd owner false found
      apply entered.advance
      intro descriptor flag held
      change (state.call caller).holding = _ at held
      rw [pc] at held
      exact ⟨true, by rw [BackupPc.holding_closing held]; rfl⟩
  | failed caller accepts sockfd attempt pc =>
      apply owned.advance
      intro descriptor flag held
      rw [pc] at held
      exact ⟨flag, held⟩
  | closed caller sockfd attempt pc =>
      apply owned.close
      intro descriptor flag held
      rw [pc] at held
      exact BackupPc.holding_closing held
  | closedLast caller sockfd pc =>
      apply owned.close
      intro descriptor flag held
      rw [pc] at held
      cases held
      rfl
  | woken caller sockfd attempt pc =>
      apply owned.advance
      simp [pc, BackupPc.holding]
  | sent caller owner sockfd pc | unsent caller sockfd pc =>
      apply owned.advance
      intro descriptor flag held
      rw [pc] at held
      exact ⟨flag, held⟩

/-- A second attempt is on a number that the call has closed. -/
theorem Transition.second_attempt (transition : Transition state next) (counted : state.Counted) (owned : state.Owned)
    (more : state.attempts caller < next.attempts caller) (second : 2 ≤ next.attempts caller) :
    ∃ use ∈ next.uses, ¬ use.Own := by
  obtain ⟨accepts, sockfd, attempt, pc, one, member⟩ := transition.connect_of_attempts_lt more
  have made : attempt = state.attempts caller + 1 := counted.of_pc pc
  refine ⟨_, member, fun own => ?_⟩
  obtain ⟨connected, found⟩ := own
  obtain ⟨flag, holding⟩ := owned sockfd caller connected found
  rw [pc, BackupPc.holding, if_neg (by omega)] at holding
  cases holding

/-! ## Runs without retries -/

/-- What a call holds is its own open socket. -/
def Holds (state : Backups κ) : Prop :=
  ∀ caller sockfd connected, (state.call caller).holding = some (sockfd, connected) →
    state.table sockfd = some (.socket caller connected)

section Holding

variable {sockfd attempt : Nat} {entry : Option (Descriptor κ)}

omit [DecidableEq κ] in
theorem Holds.of_pc (holds : state.Holds) {connected : Bool} (atPc : state.call caller = pc)
    (holding : pc.holding = some (sockfd, connected)) : state.table sockfd = some (.socket caller connected) := by
  rw [← atPc] at holding
  exact holds caller sockfd connected holding

theorem Holds.advance (holds : state.Holds)
    (mine : ∀ sockfd connected, pc.holding = some (sockfd, connected) →
      state.table sockfd = some (.socket caller connected)) : (state.advance caller pc).Holds := by
  intro holder sockfd connected holding
  by_cases same : holder = caller
  · subst same
    rw [call_advance_self] at holding
    exact mine sockfd connected holding
  · rw [call_advance_of_ne state pc same] at holding
    exact holds holder sockfd connected holding

omit [DecidableEq κ] in
/-- Numbers that no call holds can change. -/
theorem Holds.setEntry (holds : state.Holds)
    (unheld : ∀ owner connected, state.table sockfd ≠ some (.socket owner connected)) :
    (state.setEntry sockfd entry).Holds := by
  intro holder descriptor connected holding
  have found := holds holder descriptor connected holding
  by_cases same : descriptor = sockfd
  · subst same
    exact absurd found (unheld holder connected)
  · rw [table_setEntry_of_ne state entry same]
    exact found

/-- A call can change what it holds itself. -/
theorem Holds.exchange (holds : state.Holds) {flag : Bool} (found : state.table sockfd = some (.socket caller flag))
    (mine : ∀ descriptor connected, pc.holding = some (descriptor, connected) →
      descriptor = sockfd ∧ entry = some (.socket caller connected)) :
    ((state.setEntry sockfd entry).advance caller pc).Holds := by
  intro holder descriptor connected holding
  change (state.setEntry sockfd entry).table descriptor = _
  by_cases same : holder = caller
  · subst same
    rw [call_advance_self] at holding
    obtain ⟨rfl, rfl⟩ := mine descriptor connected holding
    exact table_setEntry_self ..
  · rw [call_advance_of_ne _ pc same] at holding
    have theirs : state.table descriptor = some (.socket holder connected) := holds holder descriptor connected holding
    have different : descriptor ≠ sockfd := by
      intro equal
      rw [equal, found] at theirs
      cases theirs
      exact same rfl
    rw [table_setEntry_of_ne state entry different]
    exact theirs

theorem Holds.connecting (holds : state.Holds) (counted : state.Counted)
    (atPc : state.call caller = .connecting sockfd attempt) {accepts : Bool}
    (few : (state.use caller (.connect accepts) sockfd).attempts caller ≤ 1) :
    attempt = 1 ∧ state.table sockfd = some (.socket caller false) := by
  have made : attempt = state.attempts caller + 1 := counted.of_pc atPc
  have first : state.attempts caller = 0 := by
    simpa [attempts_use, Operation.isConnect] using few
  rw [first] at made
  subst made
  exact ⟨rfl, holds.of_pc atPc rfl⟩

theorem Holds.closing (holds : state.Holds) (counted : state.Counted)
    (atPc : state.call caller = .closing sockfd attempt) (few : state.attempts caller ≤ 1) :
    state.table sockfd = some (.socket caller false) := by
  obtain ⟨made, positive⟩ : attempt = state.attempts caller ∧ 0 < state.attempts caller := counted.of_pc atPc
  have first : attempt = 1 := by omega
  subst first
  exact holds.of_pc atPc rfl

end Holding

theorem Transition.holds (transition : Transition state next) (counted : state.Counted)
    (few : ∀ caller, next.attempts caller ≤ 1) (holds : state.Holds) : next.Holds := by
  have before := transition.few_before few
  cases transition with
  | other descriptor entry found =>
      apply holds.setEntry
      intro owner connected same
      simp [same] at found
  | socketFailed caller pc => exact holds.advance fun _ _ holding => by cases holding
  | opened caller sockfd pc free =>
      have entered : (state.setEntry sockfd (some (.socket caller false))).Holds :=
        holds.setEntry fun owner connected same => by simp [free] at same
      apply entered.advance
      intro descriptor connected holding
      cases holding
      exact table_setEntry_self ..
  | connected caller owner sockfd attempt pc found =>
      obtain ⟨_, mine⟩ := holds.connecting counted pc (few caller)
      rw [mine] at found
      cases found
      have used : (state.use caller (.connect true) sockfd).Holds := holds
      apply used.exchange mine
      intro descriptor connected holding
      cases holding
      exact ⟨rfl, rfl⟩
  | failed caller accepts sockfd attempt pc =>
      obtain ⟨rfl, mine⟩ := holds.connecting counted pc (few caller)
      have used : (state.use caller (.connect accepts) sockfd).Holds := holds
      apply used.advance
      intro descriptor connected holding
      cases holding
      exact mine
  | closed caller sockfd attempt pc =>
      have mine := holds.closing counted pc (before caller)
      have used : (state.use caller .close sockfd).Holds := holds
      exact used.exchange mine fun _ _ holding => by cases holding
  | closedLast caller sockfd pc =>
      have mine : state.table sockfd = some (.socket caller true) := holds.of_pc pc rfl
      have used : (state.use caller .close sockfd).Holds := holds
      exact used.exchange mine fun _ _ holding => by cases holding
  | woken caller sockfd attempt pc =>
      obtain ⟨made, positive⟩ : attempt = state.attempts caller ∧ 0 < state.attempts caller := counted.of_pc pc
      have first : attempt = 1 := by
        have := before caller
        omega
      subst first
      -- the second attempt holds nothing
      exact holds.advance fun _ _ holding => by cases holding
  | sent caller owner sockfd pc | unsent caller sockfd pc =>
      have used : (state.use caller .send sockfd).Holds := holds
      apply used.advance
      intro descriptor connected holding
      cases holding
      exact holds.of_pc pc rfl

omit [DecidableEq κ] in
theorem own_use {sockfd : Nat} {connected : Bool} (operation : Operation) (own : ∀ use ∈ state.uses, use.Own)
    (mine : state.table sockfd = some (.socket caller connected)) :
    ∀ use ∈ (state.use caller operation sockfd).uses, use.Own := by
  intro use member
  rcases List.mem_append.mp member with earlier | new
  · exact own use earlier
  · cases List.mem_singleton.mp new
    exact ⟨connected, mine⟩

theorem Transition.own (transition : Transition state next) (counted : state.Counted)
    (few : ∀ caller, next.attempts caller ≤ 1) (holds : state.Holds) (own : ∀ use ∈ state.uses, use.Own) :
    ∀ use ∈ next.uses, use.Own := by
  have before := transition.few_before few
  cases transition with
  | other | socketFailed | opened | woken => exact own
  | connected caller owner sockfd attempt pc | failed caller accepts sockfd attempt pc =>
      exact own_use _ own (holds.connecting counted pc (few caller)).2
  | closed caller sockfd attempt pc => exact own_use _ own (holds.closing counted pc (before caller))
  | closedLast caller sockfd pc | sent caller owner sockfd pc | unsent caller sockfd pc =>
      exact own_use _ own (holds.of_pc pc rfl)

/-- A call that has passed its `send` after the server accepted has sent its
message. -/
def Delivered (state : Backups κ) : Prop :=
  ∀ caller, (state.call caller).pastSend = true → state.Accepted caller →
    ∃ connection, (caller, connection) ∈ state.sent

theorem Delivered.advance (delivered : state.Delivered)
    (mine : pc.pastSend = true → state.Accepted caller → ∃ connection, (caller, connection) ∈ state.sent) :
    (state.advance caller pc).Delivered := by
  intro other past accepted
  by_cases same : other = caller
  · subst same
    rw [call_advance_self] at past
    exact mine past accepted
  · rw [call_advance_of_ne state pc same] at past
    exact delivered other past accepted

omit [DecidableEq κ] in
theorem accepted_use {other : κ} {operation : Operation} {sockfd : Nat}
    (accepted : (state.use caller operation sockfd).Accepted other) :
    state.Accepted other ∨ (other = caller ∧ operation = .connect true) := by
  obtain ⟨use, member, same, connect⟩ := accepted
  rcases List.mem_append.mp member with earlier | new
  · exact .inl ⟨use, earlier, same, connect⟩
  · cases List.mem_singleton.mp new
    exact .inr ⟨same.symm, connect⟩

omit [DecidableEq κ] in
theorem Delivered.use (delivered : state.Delivered) {operation : Operation} {sockfd : Nat}
    (before : (state.call caller).pastSend = true → operation ≠ .connect true) :
    (state.use caller operation sockfd).Delivered := by
  intro other past accepted
  rcases accepted_use accepted with earlier | ⟨rfl, connect⟩
  · exact delivered other past earlier
  · exact absurd connect (before past)

omit [DecidableEq κ] in
theorem Delivered.deliver (delivered : state.Delivered) (sender owner : κ) :
    (state.deliver sender owner).Delivered := by
  intro caller past accepted
  obtain ⟨connection, member⟩ := delivered caller past accepted
  exact ⟨connection, List.mem_append_left _ member⟩

theorem attempts_pos (accepted : state.Accepted caller) : 0 < state.attempts caller := by
  obtain ⟨use, member, same, connect⟩ := accepted
  apply List.countP_pos_iff.mpr
  exact ⟨use, member, by simp [same, connect, Operation.isConnect]⟩

theorem Transition.delivered (transition : Transition state next) (counted : state.Counted) (holds : state.Holds)
    (delivered : state.Delivered) : next.Delivered := by
  cases transition with
  | other => exact delivered
  | socketFailed caller pc =>
      apply delivered.advance
      intro _ accepted
      have made : state.attempts caller = 0 := counted.of_pc pc
      exact absurd (attempts_pos accepted) (by omega)
  | opened caller sockfd =>
      have entered : (state.setEntry sockfd (some (.socket caller false))).Delivered := delivered
      exact entered.advance fun past => by cases past
  | connected caller owner sockfd attempt pc =>
      have used : ((state.use caller (.connect true) sockfd).setEntry sockfd (some (.socket owner true))).Delivered :=
        delivered.use fun past => by simp [pc, BackupPc.pastSend] at past
      exact used.advance fun past => by cases past
  | failed caller accepts sockfd attempt pc =>
      have used : (state.use caller (.connect accepts) sockfd).Delivered :=
        delivered.use fun past => by simp [pc, BackupPc.pastSend] at past
      exact used.advance fun past => by cases past
  | closed caller sockfd attempt pc =>
      have used : ((state.use caller .close sockfd).setEntry sockfd none).Delivered := delivered.use fun _ => by simp
      exact used.advance fun past => by cases past
  | closedLast caller sockfd pc =>
      have used : ((state.use caller .close sockfd).setEntry sockfd none).Delivered := delivered.use fun _ => by simp
      apply used.advance
      intro _ accepted
      apply used caller _ accepted
      change (state.call caller).pastSend = true
      rw [pc]
      rfl
  | woken caller sockfd attempt pc =>
      apply delivered.advance
      intro past
      unfold afterSleep at past
      split at past <;> cases past
  | sent caller owner sockfd pc =>
      have used : (state.use caller .send sockfd).Delivered := delivered.use fun _ => by simp
      apply (used.deliver caller owner).advance
      intro _ _
      exact ⟨owner, List.mem_append_right _ (List.mem_singleton.mpr rfl)⟩
  | unsent caller sockfd pc found => exact absurd (holds.of_pc pc rfl) (found caller)

/-! ## All runs -/

/-- What holds in every run, and what holds as long as no call tries again. -/
structure Invariant (state : Backups κ) : Prop where
  counted : state.Counted
  owned : state.Owned
  repeated : ∀ caller, 2 ≤ state.attempts caller → ∃ use ∈ state.uses, ¬ use.Own
  single : (∀ caller, state.attempts caller ≤ 1) → state.Holds ∧ (∀ use ∈ state.uses, use.Own) ∧ state.Delivered

theorem Invariant.init : Invariant (startBackup κ).init where
  counted := fun _ => rfl
  owned := fun _ _ _ found => by cases found
  repeated := fun _ two => absurd two (Nat.not_succ_le_zero 1)
  single := by
    intro _
    refine ⟨?_, ?_, ?_⟩
    · intro _ _ _ holding
      cases holding
    · intro _ member
      cases member
    · intro _ past
      cases past

theorem Invariant.transition (inv : Invariant state) (transition : Transition state next) : Invariant next where
  counted := transition.counted inv.counted
  owned := transition.owned inv.owned
  repeated := by
    intro caller second
    by_cases earlier : 2 ≤ state.attempts caller
    · obtain ⟨use, member, foreign⟩ := inv.repeated caller earlier
      exact ⟨use, transition.uses_subset member, foreign⟩
    · exact transition.second_attempt inv.counted inv.owned (by omega) second
  single := by
    intro few
    obtain ⟨holds, own, delivered⟩ := inv.single (transition.few_before few)
    exact ⟨transition.holds inv.counted few holds, transition.own inv.counted few holds own,
      transition.delivered inv.counted holds delivered⟩

theorem Invariant.of_reachable (reached : (startBackup κ).Reachable state) : Invariant state := by
  apply reached.invariant .init
  intro before action after inv _ stepped
  exact inv.transition (step_transition stepped)

/-- However the calls are interleaved, they keep to their own sockets and lose
no message exactly as long as none of them calls `connect` a second time. -/
theorem isolated_iff_single_attempt (reached : (startBackup κ).Reachable state) :
    state.Isolated ↔ ∀ caller, state.attempts caller ≤ 1 := by
  have inv := Invariant.of_reachable reached
  constructor
  · intro isolated caller
    by_contra several
    obtain ⟨use, member, foreign⟩ := inv.repeated caller (by omega)
    exact foreign (isolated.own use member)
  · intro few
    obtain ⟨_, own, delivered⟩ := inv.single few
    refine ⟨own, fun caller returned => delivered caller ?_⟩
    rw [returned]
    rfl

/-- Two calls that are accepted at once, the second with the number that the
first has given back. -/
theorem isolated_two_calls : ∃ state, (startBackup Bool).Reachable state ∧ state.Isolated ∧
    state.sent = [(false, false), (true, true)] := by
  obtain ⟨state, reached, few, sent⟩ := (startBackup Bool).reachableBy_of_any (fun _ _ => True)
    (fun state => (∀ caller, state.attempts caller ≤ 1) ∧ state.sent = [(false, false), (true, true)])
    [.socket false (some 0), .connect false true, .send false, .close false,
      .socket true (some 0), .connect true true, .send true, .close true] (by decide)
  exact ⟨state, reached, (isolated_iff_single_attempt reached).mpr few, sent⟩

/-- One call whose server accepts from the second attempt on sends nothing.  Of
two calls, the one that is refused closes the socket of the other, whose message
is lost although the server accepted its only attempt. -/
theorem retry_loses_messages :
    (∃ state, (startBackup Bool).Reachable state ∧ ¬ state.Isolated ∧ state.call false = .returned ∧
      ⟨false, .connect true, 0, none⟩ ∈ state.uses ∧ state.sent = []) ∧
    ∃ state, (startBackup Bool).Reachable state ∧ ¬ state.Isolated ∧ state.call true = .returned ∧
      ⟨true, .connect true, 0, some (.socket true false)⟩ ∈ state.uses ∧
      ⟨false, .close, 0, some (.socket true true)⟩ ∈ state.uses ∧ state.sent = [] := by
  constructor
  · obtain ⟨state, reached, returned, member, sent⟩ := (startBackup Bool).reachableBy_of_any (fun _ _ => True)
      (fun state => state.call false = .returned ∧ ⟨false, .connect true, 0, none⟩ ∈ state.uses ∧
        state.sent = [])
      [.socket false (some 0), .connect false false, .close false, .wake false, .connect false true, .close false,
        .wake false, .connect false true, .close false, .wake false, .connect false true, .close false, .wake false,
        .connect false true, .close false, .wake false, .send false, .close false] (by decide)
    refine ⟨state, reached, fun isolated => ?_, returned, member, sent⟩
    obtain ⟨connected, own⟩ := isolated.own _ member
    cases own
  · obtain ⟨state, reached, returned, accepted, closed, sent⟩ := (startBackup Bool).reachableBy_of_any (fun _ _ => True)
      (fun state => state.call true = .returned ∧
        ⟨true, .connect true, 0, some (.socket true false)⟩ ∈ state.uses ∧
        ⟨false, .close, 0, some (.socket true true)⟩ ∈ state.uses ∧ state.sent = [])
      [.socket false (some 0), .connect false false, .close false, .socket true (some 0), .connect true true,
        .wake false, .connect false true, .close false, .send true, .close true] (by decide)
    refine ⟨state, reached, fun isolated => ?_, returned, accepted, closed, sent⟩
    obtain ⟨connected, own⟩ := isolated.own _ closed
    cases own

end Backups

end TaskHive.LogSystem
