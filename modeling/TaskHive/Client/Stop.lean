import Mathlib.Data.Nat.Find
import TaskHive.Client.Retry
import TaskHive.Ending

namespace TaskHive.Client

open TaskHive.Wire

/-! # Stopping the submit thread

`stop` clears `running_` and joins the submit thread first.  The thread looks at
the flag at the top of its loop and while it sleeps; with a task in the queue it
takes the task all the same, and the loop that asks for a host does not look at
the flag at all.

A thread that waits on an empty queue is left out here: whether the one
notification of `stop` reaches it is a question about the condition variable,
which `Handoff` answers.  Once the flag is cleared no thread begins to wait. -/

variable {R : Type u} [LT R] [DecidableLT R] [Zero R] [Add R] [Sub R] [Mul R]
variable {config : LoadBalanceConfig R} {table : NodeTable R} {before after state : SubmitState R}

/-- The steps of the submit thread.  Nothing more is submitted, and the table
stays as the other thread has left it. -/
def ThreadAlone (_ : SubmitState R) : SubmitAction R → Prop
  | .loopCheck | .lock | .checkTable | .chooseNode | .transmit _ | .record => True
  | _ => False

instance (state : SubmitState R) : (action : SubmitAction R) → Decidable (ThreadAlone state action)
  | .loopCheck | .lock | .checkTable | .chooseNode | .transmit _ | .record => inferInstanceAs (Decidable True)
  | .submitOneTask _ | .submitMoreTask _ | .updateTable _ | .eraseCompleted _ | .stop =>
      inferInstanceAs (Decidable False)

/-! ## Tables on which the selection comes to an end -/

/-- Asking for a host ends with an exception or with an address. -/
def Selects (config : LoadBalanceConfig R) (table : NodeTable R) : Prop :=
  table = [] ∨ (config.loadBalanceType = .roundRobin ∧ ∃ entry ∈ table, entry.2.ip ≠ []) ∨
    ∃ entry, preferred config table = some entry ∧ entry.2.ip ≠ []

theorem Selects.retry (selects : Selects config table) (index : Nat) :
    ∃ calls, (retry config table calls index).isSome = true := by
  by_cases nonempty : table = []
  · exact ⟨1, by simp [Client.retry, getHearlySechedulerNode, checkTable, nonempty]⟩
  · rcases selects with empty | ⟨balance, entry, member, usable⟩ | ⟨entry, found, usable⟩
    · exact absurd empty nonempty
    · obtain ⟨position, found⟩ := List.mem_iff_getElem?.mp member
      obtain ⟨distance, ahead⟩ := exists_add_mod_eq (index + 1) (List.getElem?_eq_some_iff.mp found).1
      rw [← ahead] at found
      obtain ⟨host, next, ended, _⟩ := retry_roundRobin balance distance found usable
      exact ⟨distance + 1, by rw [ended]; rfl⟩
    · have ranked : config.loadBalanceType ≠ .roundRobin := by
        intro balance
        rw [preferred, balance] at found
        cases found
      exact ⟨1, by rw [retry_preferred ranked nonempty found, if_neg usable]; rfl⟩

/-- On any other table every call gives a host without an address. -/
theorem chooses_no_address (endless : ¬ Selects config table) (index : Nat) :
    ∃ host next, chooseNode config index table = (.ok host, next) ∧ host.1 = [] := by
  have nonempty : table ≠ [] := fun empty => endless (.inl empty)
  obtain ⟨host, found⟩ := chooseNode_ok config index nonempty
  have noAddress : host.1 = [] := by
    by_contra usable
    apply endless
    by_cases ranked : config.loadBalanceType = .roundRobin
    · obtain ⟨entry, member, same⟩ := mem_of_chooseNode found
      rw [same] at usable
      exact .inr (.inl ⟨ranked, entry, member, usable⟩)
    · rw [chooseNode_preferred ranked] at found
      obtain ⟨entry, chosen, same⟩ := hostOf_eq_ok found
      rw [same] at usable
      exact .inr (.inr ⟨entry, chosen, usable⟩)
  exact ⟨host, (chooseNode config index table).2, by rw [← found], noAddress⟩

open Classical in
/-- How many calls it takes. -/
noncomputable def callsLeft (config : LoadBalanceConfig R) (table : NodeTable R) (index : Nat) : Nat :=
  if ends : ∃ calls, (retry config table calls index).isSome = true then Nat.find ends else 0

theorem callsLeft_ends (selects : Selects config table) (index : Nat) :
    (retry config table (callsLeft config table index) index).isSome = true := by
  have ends := selects.retry index
  rw [callsLeft, dif_pos ends]
  exact Nat.find_spec ends

theorem callsLeft_le {index calls : Nat} (ended : (retry config table calls index).isSome = true) :
    callsLeft config table index ≤ calls := by
  rw [callsLeft, dif_pos ⟨calls, ended⟩]
  exact Nat.find_min' _ ended

theorem callsLeft_pos (selects : Selects config table) (index : Nat) : 0 < callsLeft config table index := by
  have ends := callsLeft_ends selects index
  apply Nat.pos_of_ne_zero
  intro zero
  rw [zero] at ends
  cases ends

/-- Every call that gives no address is one of them. -/
theorem callsLeft_lt (selects : Selects config table) (nonempty : table ≠ []) {index next : Nat} {host : Host}
    (chosen : chooseNode config index table = (.ok host, next)) (again : host.1 = []) :
    callsLeft config table next < callsLeft config table index := by
  have ends := callsLeft_ends selects index
  obtain ⟨calls, counted⟩ := Nat.exists_eq_succ_of_ne_zero (Nat.ne_of_gt (callsLeft_pos selects index))
  rw [counted, retry_succ config nonempty chosen, if_pos again] at ends
  rw [counted]
  exact Nat.lt_succ_of_le (callsLeft_le ends)

/-! ## The steps of the thread -/

inductive SubmitMove (config : LoadBalanceConfig R) (before : SubmitState R) : SubmitState R → Prop where
  | again (pc : before.pc = .top) (running : before.running = true) :
      SubmitMove config before { before with pc := .locking }
  | leave (pc : before.pc = .top) (cleared : before.running = false) :
      SubmitMove config before { before with pc := .exited }
  | take (task : Task) (rest : List Task) (pc : before.pc = .locking)
      (queued : before.submitUndistributionTask = task :: rest) :
      SubmitMove config before { before with submitUndistributionTask := rest, pc := .checking task }
  | nothing (pc : before.pc = .locking) (queued : before.submitUndistributionTask = [])
      (cleared : before.running = false) : SubmitMove config before { before with pc := .top }
  | checked (task : Task) (pc : before.pc = .checking task) (nonempty : before.table ≠ []) :
      SubmitMove config before { before with pc := .choosing task }
  | empty (task : Task) (what : String) (pc : before.pc = .checking task)
      (thrown : checkTable before.table = .error what) :
      SubmitMove config before (before.caught task what)
  | ask (task : Task) (host : Host) (next : Nat) (pc : before.pc = .choosing task)
      (chosen : chooseNode config before.roundRobinIndex before.table = (.ok host, next)) (noAddress : host.1 = []) :
      SubmitMove config before { before with roundRobinIndex := next, pc := .checking task }
  | found (task : Task) (host : Host) (next : Nat) (pc : before.pc = .choosing task)
      (chosen : chooseNode config before.roundRobinIndex before.table = (.ok host, next)) (address : host.1 ≠ []) :
      SubmitMove config before { before with roundRobinIndex := next, pc := .sending task host }
  | failed (task : Task) (what : String) (next : Nat) (pc : before.pc = .choosing task)
      (thrown : chooseNode config before.roundRobinIndex before.table = (.error what, next)) :
      SubmitMove config before { before.caught task what with roundRobinIndex := next }
  | sent (task : Task) (host : Host) (pc : before.pc = .sending task host) :
      SubmitMove config before { before with sent := before.sent ++ [task], pc := .recording task }
  | unsent (task : Task) (host : Host) (what : String) (pc : before.pc = .sending task host) :
      SubmitMove config before (before.caught task what)
  | record (task : Task) (pc : before.pc = .recording task) :
      SubmitMove config before
        { before with
          distributionTaskid := before.distributionTaskid ++ [task.taskId]
          recorded := before.recorded ++ [task.taskId]
          pc := .top }

theorem submitStep_move {action : SubmitAction R} (alone : ThreadAlone before action)
    (stepped : submitStep config before action = some after) : SubmitMove config before after := by
  cases action with
  | submitOneTask | submitMoreTask | updateTable | eraseCompleted | stop => exact alone.elim
  | loopCheck =>
      simp only [submitStep] at stepped
      split at stepped
      · rename_i pc
        cases stepped
        by_cases running : before.running = true
        · rw [if_pos running]
          exact .again pc running
        · rw [if_neg running]
          exact .leave pc (Bool.eq_false_iff.mpr running)
      · cases stepped
  | lock =>
      simp only [submitStep] at stepped
      split at stepped
      · rename_i task rest pc queued
        cases stepped
        exact .take task rest pc queued
      · rename_i pc queued
        split at stepped
        · cases stepped
        · rename_i cleared
          cases stepped
          exact .nothing pc queued (Bool.eq_false_iff.mpr cleared)
      · cases stepped
  | checkTable =>
      simp only [submitStep] at stepped
      split at stepped
      · rename_i task pc
        split at stepped
        · rename_i checked
          cases stepped
          apply SubmitMove.checked task pc
          intro empty
          rw [empty] at checked
          cases checked
        · rename_i what thrown
          cases stepped
          exact .empty task what pc thrown
      · cases stepped
  | chooseNode =>
      simp only [submitStep] at stepped
      split at stepped
      · rename_i task pc
        split at stepped
        · rename_i what next thrown
          cases stepped
          exact .failed task what next pc thrown
        · rename_i host next chosen
          cases stepped
          by_cases noAddress : host.1 = []
          · rw [if_pos noAddress]
            exact .ask task host next pc chosen noAddress
          · rw [if_neg noAddress]
            exact .found task host next pc chosen noAddress
      · cases stepped
  | transmit outcome =>
      simp only [submitStep] at stepped
      split at stepped
      · rename_i task host pc
        split at stepped
        · cases stepped
          exact .sent task host pc
        · rename_i what _
          cases stepped
          exact .unsent task host what pc
      · cases stepped
  | record =>
      simp only [submitStep] at stepped
      split at stepped
      · rename_i task pc
        cases stepped
        exact .record task pc
      · cases stepped

/-! ## The way out -/

/-- The thread asks for a host, or takes a task for which it will. -/
def SubmitState.asks (state : SubmitState R) : Bool :=
  match state.pc with
  | .checking _ | .choosing _ => true
  | .locking => !state.submitUndistributionTask.isEmpty
  | _ => false

/-- The thread does not wait for a task. -/
def SubmitState.Awake (state : SubmitState R) : Prop :=
  state.pc = .locking → state.submitUndistributionTask ≠ []

structure Leaving (config : LoadBalanceConfig R) (state : SubmitState R) : Prop where
  cleared : state.running = false
  awake : state.Awake
  selects : state.asks = true → Selects config state.table

noncomputable def SubmitState.left (config : LoadBalanceConfig R) (state : SubmitState R) : Nat :=
  match state.pc with
  | .exited => 0
  | .top => 1
  | .recording _ => 2
  | .sending _ _ => 3
  | .choosing _ => 2 * callsLeft config state.table state.roundRobinIndex + 2
  | .checking _ => 2 * callsLeft config state.table state.roundRobinIndex + 3
  | .locking => 2 * callsLeft config state.table state.roundRobinIndex + 4

theorem SubmitMove.leaving (move : SubmitMove config before after) (leaving : Leaving config before) :
    Leaving config after ∧ after.left config < before.left config := by
  have cleared := leaving.cleared
  cases move with
  | again _ running => simp [cleared] at running
  | nothing pc queued => exact absurd queued (leaving.awake pc)
  | leave pc | record _ pc | sent _ _ pc =>
      exact ⟨⟨cleared, by simp [SubmitState.Awake], by simp [SubmitState.asks]⟩, by simp [SubmitState.left, pc]⟩
  | unsent _ _ _ pc | empty _ _ pc =>
      exact ⟨⟨cleared, by simp [SubmitState.Awake, SubmitState.caught], by simp [SubmitState.asks, SubmitState.caught]⟩,
        by simp [SubmitState.left, SubmitState.caught, pc]⟩
  | take task rest pc queued =>
      have selects := leaving.selects (by simp [SubmitState.asks, pc, queued])
      exact ⟨⟨cleared, by simp [SubmitState.Awake], fun _ => selects⟩, by simp [SubmitState.left, pc]⟩
  | checked task pc =>
      have selects := leaving.selects (by simp [SubmitState.asks, pc])
      exact ⟨⟨cleared, by simp [SubmitState.Awake], fun _ => selects⟩, by simp [SubmitState.left, pc]⟩
  | ask task host next pc chosen noAddress =>
      have selects := leaving.selects (by simp [SubmitState.asks, pc])
      have nonempty : before.table ≠ [] := by
        intro empty
        obtain ⟨entry, member, _⟩ := mem_of_chooseNode (congrArg Prod.fst chosen)
        rw [empty] at member
        cases member
      have fewer := callsLeft_lt selects nonempty chosen noAddress
      apply And.intro ⟨cleared, by simp [SubmitState.Awake], fun _ => selects⟩
      simp only [SubmitState.left, pc]
      omega
  | found task host next pc =>
      have selects := leaving.selects (by simp [SubmitState.asks, pc])
      have positive := callsLeft_pos selects before.roundRobinIndex
      apply And.intro ⟨cleared, by simp [SubmitState.Awake], by simp [SubmitState.asks]⟩
      simp only [SubmitState.left, pc]
      omega
  | failed task what next pc =>
      have selects := leaving.selects (by simp [SubmitState.asks, pc])
      have positive := callsLeft_pos selects before.roundRobinIndex
      apply And.intro
        ⟨cleared, by simp [SubmitState.Awake, SubmitState.caught], by simp [SubmitState.asks, SubmitState.caught]⟩
      simp only [SubmitState.left, SubmitState.caught, pc]
      omega

/-- The thread can move until it has left its loop. -/
theorem exited_of_halted (awake : state.Awake) (halted : (submitMachine config).Halted ThreadAlone state) :
    state.pc = .exited := by
  cases pc : state.pc with
  | exited => rfl
  | top =>
      have stuck : submitStep config state .loopCheck = none := halted .loopCheck trivial
      simp [submitStep, pc] at stuck
  | locking =>
      have stuck : submitStep config state .lock = none := halted .lock trivial
      obtain ⟨task, rest, queued⟩ := List.exists_cons_of_ne_nil (awake pc)
      simp [submitStep, pc, queued] at stuck
  | checking task =>
      have stuck : submitStep config state .checkTable = none := halted .checkTable trivial
      cases checked : checkTable state.table <;> simp [submitStep, pc, checked] at stuck
  | choosing task =>
      have stuck : submitStep config state .chooseNode = none := halted .chooseNode trivial
      cases chosen : chooseNode config state.roundRobinIndex state.table with
      | mk answer next => cases answer <;> simp [submitStep, pc, chosen] at stuck
  | sending task host =>
      have stuck : submitStep config state (.transmit .sent) = none := halted (.transmit .sent) trivial
      simp [submitStep, pc, socketSubmitTaskToScheduler] at stuck
  | recording task =>
      have stuck : submitStep config state .record = none := halted .record trivial
      simp [submitStep, pc] at stuck

/-! ## Asking for ever -/

/-- The thread asks, and no answer lets it go on. -/
structure Spinning (config : LoadBalanceConfig R) (state : SubmitState R) : Prop where
  endless : ¬ Selects config state.table
  asking : ∃ task, state.pc = .checking task ∨ state.pc = .choosing task

theorem Spinning.step (spinning : Spinning config state) :
    ∃ action next, ThreadAlone state action ∧ (submitMachine config).step state action = some next ∧
      Spinning config next := by
  obtain ⟨task, checking | choosing⟩ := spinning.asking
  · have nonempty : state.table ≠ [] := fun empty => spinning.endless (.inl empty)
    have stepped : (submitMachine config).step state .checkTable = some { state with pc := .choosing task } := by
      simp [submitMachine, submitStep, checking, checkTable_ok nonempty]
    exact ⟨.checkTable, _, trivial, stepped, spinning.endless, task, .inr rfl⟩
  · obtain ⟨host, next, chosen, noAddress⟩ := chooses_no_address spinning.endless state.roundRobinIndex
    have stepped : (submitMachine config).step state .chooseNode =
        some { state with roundRobinIndex := next, pc := .checking task } := by
      simp [submitMachine, submitStep, choosing, chosen, noAddress]
    exact ⟨.chooseNode, _, trivial, stepped, spinning.endless, task, .inl rfl⟩

theorem Spinning.not_endsIn (spinning : Spinning config state) (goal : SubmitState R → Prop) :
    ¬ (submitMachine config).EndsIn ThreadAlone goal state :=
  Machine.not_endsIn_of_forever (fun _ spinning => spinning.step) spinning

/-- Once `running_` is cleared, a submit thread that does not wait for a task is
sure to leave its loop, so that `stop` can join it, if and only if it neither
asks for a host nor has a task to take, or the table is one on which asking
comes to an end. -/
theorem submit_thread_leaves_iff (config : LoadBalanceConfig R) (state : SubmitState R)
    (cleared : state.running = false) (awake : state.Awake) :
    (submitMachine config).EndsIn ThreadAlone (fun final => final.pc = .exited) state ↔
      (state.asks = true → Selects config state.table) := by
  constructor
  · intro ends asks
    by_contra endless
    cases pc : state.pc with
    | checking task => exact Spinning.not_endsIn ⟨endless, task, .inl pc⟩ _ ends
    | choosing task => exact Spinning.not_endsIn ⟨endless, task, .inr pc⟩ _ ends
    | locking =>
        cases queued : state.submitUndistributionTask with
        | nil => simp [SubmitState.asks, pc, queued] at asks
        | cons task rest =>
            have alone : ThreadAlone state .lock := trivial
            have stepped : (submitMachine config).step state .lock =
                some { state with submitUndistributionTask := rest, pc := .checking task } := by
              simp [submitMachine, submitStep, pc, queued]
            have spinning : Spinning config { state with submitUndistributionTask := rest, pc := .checking task } :=
              ⟨endless, task, .inl rfl⟩
            exact spinning.not_endsIn _ (ends.step alone stepped)
    | top | sending _ _ | recording _ | exited => simp [SubmitState.asks, pc] at asks
  · intro selects
    have holds : Leaving config state := ⟨cleared, awake, selects⟩
    apply Machine.endsIn_of_measure (SubmitState.left config) _ _ holds
    · intro before action after leaving alone stepped
      exact (submitStep_move alone stepped).leaving leaving
    · intro final leaving halted
      exact exited_of_halted leaving.awake halted

/-- A client with a task to submit is stopped. -/
def stoppedWithTask : SubmitState Int where
  running := false
  submitUndistributionTask := [job]
  table := unreadBesideUsable
  pc := .locking
  submitted := [job]

theorem stoppedWithTask_reachable (config : LoadBalanceConfig Int) :
    (submitMachine config).Reachable stoppedWithTask :=
  .of_runWhile .init
    (show (submitMachine config).runWhile _ _ [.updateTable unreadBesideUsable, .submitOneTask job, .loopCheck, .stop] =
      some stoppedWithTask from rfl)

/-- Round robin finds the usable scheduler, so that the client stops; with the
priority to idle processors the client hangs. -/
theorem stopping_depends_on_strategy :
    (submitMachine balance).Reachable stoppedWithTask ∧
      (submitMachine balance).EndsIn ThreadAlone (fun final => final.pc = .exited) stoppedWithTask ∧
      (submitMachine { balance with loadBalanceType := .cpuPriority }).Reachable stoppedWithTask ∧
      ¬ (submitMachine { balance with loadBalanceType := .cpuPriority }).EndsIn ThreadAlone
        (fun final => final.pc = .exited) stoppedWithTask := by
  have selects : Selects balance unreadBesideUsable :=
    .inr (.inl ⟨rfl, _, List.mem_cons_of_mem _ List.mem_cons_self, by decide⟩)
  have endless : ¬ Selects { balance with loadBalanceType := .cpuPriority } unreadBesideUsable := by
    intro selects
    rcases selects with empty | ⟨balance, _⟩ | ⟨entry, found, usable⟩
    · cases empty
    · cases balance
    · cases found
      exact usable rfl
  have awake : stoppedWithTask.Awake := fun _ => List.cons_ne_nil _ _
  exact ⟨stoppedWithTask_reachable _, (submit_thread_leaves_iff _ stoppedWithTask rfl awake).mpr fun _ => selects,
    stoppedWithTask_reachable _,
    fun ends => endless ((submit_thread_leaves_iff _ stoppedWithTask rfl awake).mp ends rfl)⟩

end TaskHive.Client
