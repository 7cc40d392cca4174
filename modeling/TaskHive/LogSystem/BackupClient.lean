import Mathlib.Logic.Function.Basic
import TaskHive.Machine

namespace TaskHive.LogSystem

/-! # `start_backup` on the threads of the pool

A call opens one socket and tries to connect it up to five times.  A failed
attempt closes the socket, and the next attempt goes to the same number.  The
numbers belong to the process: the kernel gives the lowest free one to whoever
opens a descriptor next. -/

/-- What a descriptor number stands for: a backup socket of one of the calls, or
anything the rest of the process has opened. -/
inductive Descriptor (κ : Type) where
  | other
  | socket (owner : κ) (connected : Bool)
deriving DecidableEq

/-- `attempt` is the loop variable `i`; in `closing` the connect has failed. -/
inductive BackupPc where
  | idle
  | connecting (sockfd attempt : Nat)
  | closing (sockfd attempt : Nat)
  | sleeping (sockfd attempt : Nat)
  | sending (sockfd : Nat)
  | closingLast (sockfd : Nat)
  | returned
deriving DecidableEq

/-- `accepts` says whether the server would take a connection at this attempt. -/
inductive Operation where
  | connect (accepts : Bool)
  | send
  | close
deriving DecidableEq

def Operation.isConnect : Operation → Bool
  | .connect _ => true
  | .send | .close => false

/-- An operation of a call, with what stood at its number then. -/
structure Use (κ : Type) where
  caller : κ
  operation : Operation
  sockfd : Nat
  found : Option (Descriptor κ)
deriving DecidableEq

def maxRetry : Nat := 5

structure Backups (κ : Type) where
  table : Nat → Option (Descriptor κ) := fun _ => none
  call : κ → BackupPc := fun _ => .idle
  uses : List (Use κ) := []
  -- the sender of a message and the call whose connection it went over
  sent : List (κ × κ) := []

inductive BackupAction (κ : Type) where
  | otherOpen (descriptor : Nat)
  | otherClose (descriptor : Nat)
  | socket (caller : κ) (descriptor : Option Nat)
  | connect (caller : κ) (accepts : Bool)
  | close (caller : κ)
  | wake (caller : κ)
  | send (caller : κ)

namespace Backups

variable {κ : Type}

/-- The number that the kernel gives out next. -/
def Lowest (state : Backups κ) (descriptor : Nat) : Prop :=
  state.table descriptor = none ∧ ∀ lower < descriptor, (state.table lower).isSome

def setEntry (state : Backups κ) (descriptor : Nat) (entry : Option (Descriptor κ)) : Backups κ :=
  { state with table := Function.update state.table descriptor entry }

theorem table_setEntry_self (state : Backups κ) (descriptor : Nat) (entry : Option (Descriptor κ)) :
    (state.setEntry descriptor entry).table descriptor = entry :=
  Function.update_self ..

theorem table_setEntry_of_ne (state : Backups κ) {descriptor changed : Nat} (entry : Option (Descriptor κ))
    (different : descriptor ≠ changed) : (state.setEntry changed entry).table descriptor = state.table descriptor :=
  Function.update_of_ne different ..

def use (state : Backups κ) (caller : κ) (operation : Operation) (sockfd : Nat) : Backups κ :=
  { state with uses := state.uses ++ [⟨caller, operation, sockfd, state.table sockfd⟩] }

def deliver (state : Backups κ) (caller owner : κ) : Backups κ :=
  { state with sent := state.sent ++ [(caller, owner)] }

variable [DecidableEq κ]

instance decidableLowest (state : Backups κ) (descriptor : Nat) : Decidable (state.Lowest descriptor) :=
  inferInstanceAs (Decidable (_ ∧ _))

def advance (state : Backups κ) (caller : κ) (pc : BackupPc) : Backups κ :=
  { state with call := Function.update state.call caller pc }

theorem call_advance_self (state : Backups κ) (caller : κ) (pc : BackupPc) :
    (state.advance caller pc).call caller = pc :=
  Function.update_self ..

theorem call_advance_of_ne (state : Backups κ) {caller mover : κ} (pc : BackupPc) (different : caller ≠ mover) :
    (state.advance mover pc).call caller = state.call caller :=
  Function.update_of_ne different ..

def socketStep (state : Backups κ) (caller : κ) (descriptor : Option Nat) : Option (Backups κ) :=
  match state.call caller, descriptor with
  | .idle, none => some (state.advance caller .returned)
  | .idle, some sockfd =>
      if state.Lowest sockfd then
        some ((state.setEntry sockfd (some (.socket caller false))).advance caller (.connecting sockfd 1))
      else none
  | _, _ => none

/-- Only an open socket that is not connected yet can be connected. -/
def connectStep (state : Backups κ) (caller : κ) (accepts : Bool) : Option (Backups κ) :=
  match state.call caller with
  | .connecting sockfd attempt =>
      let used := state.use caller (.connect accepts) sockfd
      match state.table sockfd, accepts with
      | some (.socket owner false), true =>
          some ((used.setEntry sockfd (some (.socket owner true))).advance caller (.sending sockfd))
      | _, _ => some (used.advance caller (.closing sockfd attempt))
  | _ => none

def closeStep (state : Backups κ) (caller : κ) : Option (Backups κ) :=
  match state.call caller with
  | .closing sockfd attempt =>
      some (((state.use caller .close sockfd).setEntry sockfd none).advance caller (.sleeping sockfd attempt))
  | .closingLast sockfd =>
      some (((state.use caller .close sockfd).setEntry sockfd none).advance caller .returned)
  | _ => none

/-- After the last attempt the loop is left without a connection. -/
def afterSleep (sockfd attempt : Nat) : BackupPc :=
  if attempt < maxRetry then .connecting sockfd (attempt + 1) else .sending sockfd

def wakeStep (state : Backups κ) (caller : κ) : Option (Backups κ) :=
  match state.call caller with
  | .sleeping sockfd attempt => some (state.advance caller (afterSleep sockfd attempt))
  | _ => none

/-- Whether or not `send` succeeds, the number is closed after it. -/
def sendStep (state : Backups κ) (caller : κ) : Option (Backups κ) :=
  match state.call caller with
  | .sending sockfd =>
      let used := (state.use caller .send sockfd).advance caller (.closingLast sockfd)
      match state.table sockfd with
      | some (.socket owner true) => some (used.deliver caller owner)
      | _ => some used
  | _ => none

def step (state : Backups κ) : BackupAction κ → Option (Backups κ)
  | .otherOpen descriptor => if state.Lowest descriptor then some (state.setEntry descriptor (some .other)) else none
  | .otherClose descriptor =>
      if state.table descriptor = some .other then some (state.setEntry descriptor none) else none
  | .socket caller descriptor => state.socketStep caller descriptor
  | .connect caller accepts => state.connectStep caller accepts
  | .close caller => state.closeStep caller
  | .wake caller => state.wakeStep caller
  | .send caller => state.sendStep caller

end Backups

/-- Any number of calls, each of them identified by its message. -/
def startBackup (κ : Type) [DecidableEq κ] : Machine (Backups κ) (BackupAction κ) where
  init := {}
  step := Backups.step

/-- The number stood for the caller's own socket, which was still open. -/
def Use.Own {κ : Type} (use : Use κ) : Prop :=
  ∃ connected, use.found = some (.socket use.caller connected)

namespace Backups

variable {κ : Type} [DecidableEq κ]

/-- How often the call has called `connect`. -/
def attempts (state : Backups κ) (caller : κ) : Nat :=
  state.uses.countP fun use => use.caller = caller ∧ use.operation.isConnect

/-- The server would have taken a connection at one of the attempts. -/
def Accepted (state : Backups κ) (caller : κ) : Prop :=
  ∃ use ∈ state.uses, use.caller = caller ∧ use.operation = .connect true

/-- Every operation is on the caller's own open socket, and no message is lost
if the server accepts at any attempt. -/
structure Isolated (state : Backups κ) : Prop where
  own : ∀ use ∈ state.uses, use.Own
  delivered : ∀ caller, state.call caller = .returned → state.Accepted caller →
    ∃ connection, (caller, connection) ∈ state.sent

/-! ## The steps -/

/-- What a step does, with what it found. -/
inductive Transition (state : Backups κ) : Backups κ → Prop where
  | other (descriptor : Nat) (entry : Option (Descriptor κ))
      (before : state.table descriptor = none ∨ state.table descriptor = some .other)
      (after : entry = none ∨ entry = some .other) :
      Transition state (state.setEntry descriptor entry)
  | socketFailed (caller : κ) (pc : state.call caller = .idle) :
      Transition state (state.advance caller .returned)
  | opened (caller : κ) (sockfd : Nat) (pc : state.call caller = .idle) (free : state.table sockfd = none) :
      Transition state
        ((state.setEntry sockfd (some (.socket caller false))).advance caller (.connecting sockfd 1))
  | connected (caller owner : κ) (sockfd attempt : Nat) (pc : state.call caller = .connecting sockfd attempt)
      (found : state.table sockfd = some (.socket owner false)) :
      Transition state (((state.use caller (.connect true) sockfd).setEntry sockfd
        (some (.socket owner true))).advance caller (.sending sockfd))
  | failed (caller : κ) (accepts : Bool) (sockfd attempt : Nat)
      (pc : state.call caller = .connecting sockfd attempt)
      (refused : accepts = true → ∀ owner, state.table sockfd ≠ some (.socket owner false)) :
      Transition state ((state.use caller (.connect accepts) sockfd).advance caller (.closing sockfd attempt))
  | closed (caller : κ) (sockfd attempt : Nat) (pc : state.call caller = .closing sockfd attempt) :
      Transition state
        (((state.use caller .close sockfd).setEntry sockfd none).advance caller (.sleeping sockfd attempt))
  | closedLast (caller : κ) (sockfd : Nat) (pc : state.call caller = .closingLast sockfd) :
      Transition state (((state.use caller .close sockfd).setEntry sockfd none).advance caller .returned)
  | woken (caller : κ) (sockfd attempt : Nat) (pc : state.call caller = .sleeping sockfd attempt) :
      Transition state (state.advance caller (afterSleep sockfd attempt))
  | sent (caller owner : κ) (sockfd : Nat) (pc : state.call caller = .sending sockfd)
      (found : state.table sockfd = some (.socket owner true)) :
      Transition state
        (((state.use caller .send sockfd).advance caller (.closingLast sockfd)).deliver caller owner)
  | unsent (caller : κ) (sockfd : Nat) (pc : state.call caller = .sending sockfd)
      (found : ∀ owner, state.table sockfd ≠ some (.socket owner true)) :
      Transition state ((state.use caller .send sockfd).advance caller (.closingLast sockfd))

variable {state next : Backups κ}

theorem socketStep_transition {caller : κ} {descriptor : Option Nat}
    (stepped : state.socketStep caller descriptor = some next) : Transition state next := by
  unfold socketStep at stepped
  split at stepped
  · rename_i pc
    cases stepped
    exact .socketFailed caller pc
  · rename_i sockfd pc
    split at stepped
    · rename_i lowest
      cases stepped
      exact .opened caller sockfd pc lowest.1
    · cases stepped
  · cases stepped

theorem connectStep_transition {caller : κ} {accepts : Bool}
    (stepped : state.connectStep caller accepts = some next) : Transition state next := by
  unfold connectStep at stepped
  split at stepped
  · rename_i sockfd attempt pc
    dsimp only at stepped
    split at stepped
    · rename_i owner found
      cases stepped
      exact .connected caller owner sockfd attempt pc found
    · rename_i refused
      cases stepped
      exact .failed caller _ sockfd attempt pc fun accepted owner found => refused owner found accepted
  · cases stepped

theorem closeStep_transition {caller : κ} (stepped : state.closeStep caller = some next) :
    Transition state next := by
  unfold closeStep at stepped
  split at stepped
  · rename_i sockfd attempt pc
    cases stepped
    exact .closed caller sockfd attempt pc
  · rename_i sockfd pc
    cases stepped
    exact .closedLast caller sockfd pc
  · cases stepped

theorem wakeStep_transition {caller : κ} (stepped : state.wakeStep caller = some next) :
    Transition state next := by
  unfold wakeStep at stepped
  split at stepped
  · rename_i sockfd attempt pc
    cases stepped
    exact .woken caller sockfd attempt pc
  · cases stepped

theorem sendStep_transition {caller : κ} (stepped : state.sendStep caller = some next) :
    Transition state next := by
  unfold sendStep at stepped
  split at stepped
  · rename_i sockfd pc
    dsimp only at stepped
    split at stepped
    · rename_i owner found
      cases stepped
      exact .sent caller owner sockfd pc found
    · rename_i unconnected
      cases stepped
      exact .unsent caller sockfd pc unconnected
  · cases stepped

theorem step_transition {action : BackupAction κ} (stepped : state.step action = some next) :
    Transition state next := by
  cases action with
  | otherOpen descriptor =>
      simp only [step, Option.ite_none_right_eq_some, Option.some.injEq] at stepped
      obtain ⟨lowest, rfl⟩ := stepped
      exact .other descriptor _ (.inl lowest.1) (.inr rfl)
  | otherClose descriptor =>
      simp only [step, Option.ite_none_right_eq_some, Option.some.injEq] at stepped
      obtain ⟨found, rfl⟩ := stepped
      exact .other descriptor _ (.inr found) (.inl rfl)
  | socket caller descriptor => exact socketStep_transition stepped
  | connect caller accepts => exact connectStep_transition stepped
  | close caller => exact closeStep_transition stepped
  | wake caller => exact wakeStep_transition stepped
  | send caller => exact sendStep_transition stepped

/-! ## Attempts -/

@[simp] theorem attempts_setEntry (state : Backups κ) (descriptor : Nat) (entry : Option (Descriptor κ)) (caller : κ) :
    (state.setEntry descriptor entry).attempts caller = state.attempts caller := rfl

@[simp] theorem attempts_advance (state : Backups κ) (mover : κ) (pc : BackupPc) (caller : κ) :
    (state.advance mover pc).attempts caller = state.attempts caller := rfl

@[simp] theorem attempts_deliver (state : Backups κ) (sender owner caller : κ) :
    (state.deliver sender owner).attempts caller = state.attempts caller := rfl

theorem attempts_use (state : Backups κ) (user : κ) (operation : Operation) (sockfd : Nat) (caller : κ) :
    (state.use user operation sockfd).attempts caller =
      state.attempts caller + if user = caller ∧ operation.isConnect then 1 else 0 := by
  simp [attempts, use, List.countP_append, List.countP_cons]

/-- What has been used stays recorded. -/
theorem Transition.uses_subset (transition : Transition state next) : state.uses ⊆ next.uses := by
  cases transition with
  | other | socketFailed | opened | woken => exact List.Subset.refl _
  | connected | failed | closed | closedLast | sent | unsent => exact List.subset_append_left _ _

theorem Transition.attempts_le (transition : Transition state next) (caller : κ) :
    state.attempts caller ≤ next.attempts caller := by
  cases transition with
  | other | socketFailed | opened | woken => exact Nat.le_refl _
  | connected user | failed user | closed user | closedLast user | sent user | unsent user =>
      exact Nat.le_trans (Nat.le_add_right _ _) (Nat.le_of_eq (attempts_use state user _ _ caller).symm)

theorem Transition.few_before (transition : Transition state next) (few : ∀ caller, next.attempts caller ≤ 1)
    (caller : κ) : state.attempts caller ≤ 1 :=
  Nat.le_trans (transition.attempts_le caller) (few caller)

/-- A new attempt is a `connect` of the call, on whatever stands at its number. -/
theorem Transition.connect_of_attempts_lt (transition : Transition state next) {caller : κ}
    (more : state.attempts caller < next.attempts caller) :
    ∃ accepts sockfd attempt, state.call caller = .connecting sockfd attempt ∧
      next.attempts caller = state.attempts caller + 1 ∧
      ⟨caller, .connect accepts, sockfd, state.table sockfd⟩ ∈ next.uses := by
  cases transition with
  | other | socketFailed | opened | woken => exact absurd more (Nat.lt_irrefl _)
  | connected user owner sockfd attempt pc =>
      by_cases same : user = caller
      · subst same
        refine ⟨true, sockfd, attempt, pc, ?_, List.mem_append_right _ (List.mem_singleton.mpr rfl)⟩
        simp [attempts_use, Operation.isConnect]
      · exact absurd more (by simp [attempts_use, same])
  | failed user accepts sockfd attempt pc =>
      by_cases same : user = caller
      · subst same
        refine ⟨accepts, sockfd, attempt, pc, ?_, List.mem_append_right _ (List.mem_singleton.mpr rfl)⟩
        simp [attempts_use, Operation.isConnect]
      · exact absurd more (by simp [attempts_use, same])
  | closed | closedLast | sent | unsent => exact absurd more (by simp [attempts_use, Operation.isConnect])

end Backups

end TaskHive.LogSystem
