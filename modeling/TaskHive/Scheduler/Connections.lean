import TaskHive.Scheduler.Receive

namespace TaskHive.Scheduler

open TaskHive.Wire

/-! # The descriptors of `receive_task_thread_function`

Every round of the loop works on the descriptor that its own `accept` returned.
The kernel gives a number out again once it is closed, so a `close` belongs to
the latest `accept` before it that returned its number. -/

inductive DescriptorCall where
  | accept (connfd : Nat)
  | close (connfd : Nat)
deriving DecidableEq, Repr

/-- What one round does to descriptors; each way out of the round is a case. -/
def descriptorCalls (connfd : Nat) : Accept → List DescriptorCall
  | .failed => []
  | .readFailed => [.accept connfd, .close connfd]
  | .read [] => [.accept connfd, .close connfd]
  | .read bytes =>
      match Task.parseFromString bytes with
      | none => [.accept connfd, .close connfd]
      -- the task is queued and the round ends
      | some _ => [.accept connfd]

/-- What a round meets: the number of the descriptor matters if `accept`
succeeds. -/
structure Connection where
  connfd : Nat
  accept : Accept
  now : Int64

structure Receiver where
  pendingTasks : List Task := []
  calls : List DescriptorCall := []

def receiveRound (receiver : Receiver) (connection : Connection) : Receiver where
  pendingTasks := receiveTask connection.now receiver.pendingTasks connection.accept
  calls := receiver.calls ++ descriptorCalls connection.connfd connection.accept

/-- The receiver at the top of the loop after these rounds. -/
def receiveRounds (connections : List Connection) : Receiver := connections.foldl receiveRound {}

/-- How often a descriptor is closed before its number is given out again. -/
def closes (connfd : Nat) (later : List DescriptorCall) : Nat :=
  (later.takeWhile fun call => call ≠ .accept connfd).count (.close connfd)

/-- Every accepted descriptor is closed exactly once. -/
def ClosedOnce : List DescriptorCall → Prop
  | [] => True
  | .accept connfd :: later => closes connfd later = 1 ∧ ClosedOnce later
  | .close _ :: later => ClosedOnce later

instance decidableClosedOnce : (calls : List DescriptorCall) → Decidable (ClosedOnce calls)
  | [] => .isTrue trivial
  | .accept _ :: later => @instDecidableAnd _ _ _ (decidableClosedOnce later)
  | .close _ :: later => decidableClosedOnce later

/-- How many accepted descriptors are still open. -/
def openCount : List DescriptorCall → Nat
  | [] => 0
  | .accept connfd :: later => (if closes connfd later = 0 then 1 else 0) + openCount later
  | .close _ :: later => openCount later

theorem descriptorCalls_cases (connfd : Nat) (accept : Accept) (now : Int64) :
    (descriptorCalls connfd accept = [] ∧ acceptTask now accept = none) ∨
      (descriptorCalls connfd accept = [.accept connfd, .close connfd] ∧ acceptTask now accept = none) ∨
      ∃ task, descriptorCalls connfd accept = [.accept connfd] ∧ acceptTask now accept = some task := by
  cases accept with
  | failed => exact .inl ⟨rfl, rfl⟩
  | readFailed => exact .inr (.inl ⟨rfl, rfl⟩)
  | read bytes =>
      cases bytes with
      | nil => exact .inr (.inl ⟨rfl, rfl⟩)
      | cons byte rest =>
          cases parsed : Task.parseFromString (byte :: rest) with
          | none => exact .inr (.inl ⟨by simp [descriptorCalls, parsed], by simp [acceptTask, parsed]⟩)
          | some task =>
              exact .inr (.inr ⟨stamp now task, by simp [descriptorCalls, parsed], by simp [acceptTask, parsed]⟩)

/-- A later round leaves the descriptors of the earlier ones alone. -/
theorem closes_append_round (other connfd : Nat) (accept : Accept) (calls : List DescriptorCall) :
    closes other (calls ++ descriptorCalls connfd accept) = closes other calls := by
  induction calls with
  | nil =>
      rcases descriptorCalls_cases connfd accept 0 with ⟨round, _⟩ | ⟨round, _⟩ | ⟨_, round, _⟩
      all_goals
        rw [round]
        by_cases same : connfd = other <;> simp [closes, same]
  | cons call calls ih =>
      by_cases again : call = .accept other
      · simp [closes, again]
      · simp only [closes, List.cons_append, List.takeWhile_cons, again, ne_eq, not_false_eq_true, decide_true,
          if_true, List.count_cons] at ih ⊢
        rw [ih]

theorem closedOnce_append_round (connfd : Nat) (accept : Accept) (calls : List DescriptorCall) :
    ClosedOnce (calls ++ descriptorCalls connfd accept) ↔
      ClosedOnce calls ∧ ClosedOnce (descriptorCalls connfd accept) := by
  induction calls with
  | nil => simp [ClosedOnce]
  | cons call calls ih =>
      cases call with
      | accept other => simp only [List.cons_append, ClosedOnce, closes_append_round, ih, and_assoc]
      | close => exact ih

theorem openCount_append_round (connfd : Nat) (accept : Accept) (calls : List DescriptorCall) :
    openCount (calls ++ descriptorCalls connfd accept) =
      openCount calls + openCount (descriptorCalls connfd accept) := by
  induction calls with
  | nil => simp [openCount]
  | cons call calls ih =>
      cases call with
      | accept other => simp only [List.cons_append, openCount, closes_append_round, ih, Nat.add_assoc]
      | close => exact ih

/-- A round closes its descriptor unless it brings a task. -/
theorem closedOnce_round_iff (connfd : Nat) (accept : Accept) (now : Int64) :
    ClosedOnce (descriptorCalls connfd accept) ↔ acceptTask now accept = none := by
  rcases descriptorCalls_cases connfd accept now with ⟨round, none⟩ | ⟨round, none⟩ | ⟨task, round, some⟩
  · simp [round, none, ClosedOnce]
  · simp [round, none, ClosedOnce, closes]
  · simp [round, some, ClosedOnce, closes]

theorem openCount_round (connfd : Nat) (accept : Accept) (now : Int64) :
    openCount (descriptorCalls connfd accept) = (acceptTask now accept).toList.length := by
  rcases descriptorCalls_cases connfd accept now with ⟨round, none⟩ | ⟨round, none⟩ | ⟨task, round, some⟩
  · simp [round, none, openCount]
  · simp [round, none, openCount, closes]
  · simp [round, some, openCount, closes]

theorem receiveRounds_concat (connections : List Connection) (connection : Connection) :
    receiveRounds (connections ++ [connection]) = receiveRound (receiveRounds connections) connection := by
  simp [receiveRounds]

theorem closedOnce_receiveRounds (connections : List Connection) :
    ClosedOnce (receiveRounds connections).calls ↔
      ∀ connection ∈ connections, acceptTask connection.now connection.accept = none := by
  induction connections using List.reverseRecOn with
  | nil => simp [receiveRounds, ClosedOnce]
  | append_singleton connections connection ih =>
      rw [receiveRounds_concat, receiveRound, closedOnce_append_round, ih,
        closedOnce_round_iff _ _ connection.now]
      simp [or_imp, forall_and]

/-- Every task that was received has left a descriptor open. -/
theorem openCount_receiveRounds (connections : List Connection) :
    openCount (receiveRounds connections).calls = (receiveRounds connections).pendingTasks.length := by
  induction connections using List.reverseRecOn with
  | nil => rfl
  | append_singleton connections connection ih =>
      rw [receiveRounds_concat, receiveRound, openCount_append_round, ih, openCount_round _ _ connection.now,
        receiveTask, List.length_append]

/-- At every top of the loop all accepted descriptors are closed exactly when
no connection so far has brought a task. -/
theorem descriptors_closed_once_iff (connections : List Connection) :
    (∀ rounds, rounds <+: connections → ClosedOnce (receiveRounds rounds).calls) ↔
      ∀ connection ∈ connections, acceptTask connection.now connection.accept = none := by
  constructor
  · intro closed
    exact (closedOnce_receiveRounds connections).mp (closed connections (List.prefix_refl _))
  · intro refused rounds before
    exact (closedOnce_receiveRounds rounds).mpr fun connection member => refused connection (before.subset member)

/-- The descriptor of a connection that brought the command `ls` stays open,
also after the next connection. -/
theorem task_descriptor_left_open :
    ∃ connections, (receiveRounds connections).calls = [.accept 5, .accept 6, .close 6] ∧
      ¬ ClosedOnce (receiveRounds connections).calls ∧ openCount (receiveRounds connections).calls = 1 :=
  ⟨[{ connfd := 5, accept := .read (listing.serializeToString [([97], [49])]), now := 7 },
      { connfd := 6, accept := .read [255], now := 8 }], by decide⟩

end TaskHive.Scheduler
