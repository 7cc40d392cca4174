import Mathlib.Algebra.Order.Ring.Int
import TaskHive.Client.LoadBalance
import TaskHive.Machine
import TaskHive.Proto.Task

namespace TaskHive.Client

open TaskHive.Wire

/-! # `submit_task_threadfunction`

The submit thread holds `submit_task_mutex_` for a whole iteration: from the
test of the queue to the recording of the id.  The table of schedulers changes
at any time. -/

/-- How the three network calls of `socket_submit_task_to_scheduler` go. -/
inductive Transmission where
  | socketError
  | connectError
  | sendError
  | sent
deriving DecidableEq, Repr

def socketSubmitTaskToScheduler : Transmission → Except String Unit
  | .socketError => .error "socket create error!!!"
  | .connectError => .error "connect to scheduler error!!!"
  | .sendError => .error "send task to scheduler error!!!"
  | .sent => .ok ()

/-- Where the submit thread is.  `locking` covers the wait for the mutex and
for the condition variable. -/
inductive SubmitPc where
  | top
  | locking
  | checking (task : Task)
  | choosing (task : Task)
  | sending (task : Task) (host : Host)
  | recording (task : Task)
  | exited
deriving DecidableEq

/-- The last three fields record the history: what was handed to the client,
what a scheduler received, and which ids were ever appended to
`distribution_taskid_`. -/
structure SubmitState (R : Type u) where
  running : Bool := true
  submitUndistributionTask : List Task := []
  distributionTaskid : List Bytes := []
  table : NodeTable R := []
  roundRobinIndex : Nat := 0
  pc : SubmitPc := .top
  log : List String := []
  submitted : List Task := []
  sent : List Task := []
  recorded : List Bytes := []

/-- No iteration is in progress, so `submit_task_mutex_` is free. -/
def SubmitPc.between : SubmitPc → Bool
  | .top | .locking | .exited => true
  | _ => false

inductive SubmitAction (R : Type u) where
  | submitOneTask (task : Task)
  | submitMoreTask (tasks : List Task)
  | updateTable (table : NodeTable R)
  | eraseCompleted (ids : List Bytes)
  | stop
  | loopCheck
  | lock
  | checkTable
  | chooseNode
  | transmit (outcome : Transmission)
  | record

section Steps

variable {R : Type u}

/-- The catch clause logs the exception and falls through to the recording. -/
def SubmitState.caught (state : SubmitState R) (task : Task) (what : String) : SubmitState R :=
  { state with log := state.log ++ [what], pc := .recording task }

def submitMore (state : SubmitState R) (tasks : List Task) : Option (SubmitState R) :=
  if state.pc.between then
    some { state with
      submitUndistributionTask := state.submitUndistributionTask ++ tasks
      submitted := state.submitted ++ tasks }
  else none

section Machine

variable [LT R] [DecidableLT R] [Zero R] [Add R] [Sub R] [Mul R]

def submitStep (config : LoadBalanceConfig R) (state : SubmitState R) :
    SubmitAction R → Option (SubmitState R)
  | .submitOneTask task => submitMore state [task]
  | .submitMoreTask tasks => submitMore state tasks
  | .updateTable table => some { state with table }
  | .eraseCompleted ids =>
      some { state with distributionTaskid := state.distributionTaskid.filter fun id => !ids.contains id }
  | .stop => some { state with running := false }
  | .loopCheck =>
      match state.pc with
      | .top => some { state with pc := if state.running then .locking else .exited }
      | _ => none
  | .lock =>
      match state.pc, state.submitUndistributionTask with
      | .locking, task :: rest => some { state with submitUndistributionTask := rest, pc := .checking task }
      -- an empty queue keeps a running client waiting
      | .locking, [] => if state.running then none else some { state with pc := .top }
      | _, _ => none
  | .checkTable =>
      match state.pc with
      | .checking task =>
          match Client.checkTable state.table with
          | .ok () => some { state with pc := .choosing task }
          | .error what => some (state.caught task what)
      | _ => none
  | .chooseNode =>
      match state.pc with
      | .choosing task =>
          match Client.chooseNode config state.roundRobinIndex state.table with
          | (.error what, index) => some { state.caught task what with roundRobinIndex := index }
          | (.ok host, index) =>
              -- an empty address is asked for again
              some { state with
                roundRobinIndex := index
                pc := if host.1 = [] then .checking task else .sending task host }
      | _ => none
  | .transmit outcome =>
      match state.pc with
      | .sending task _ =>
          match socketSubmitTaskToScheduler outcome with
          | .ok () => some { state with sent := state.sent ++ [task], pc := .recording task }
          | .error what => some (state.caught task what)
      | _ => none
  | .record =>
      match state.pc with
      | .recording task =>
          some { state with
            distributionTaskid := state.distributionTaskid ++ [task.taskId]
            recorded := state.recorded ++ [task.taskId]
            pc := .top }
      | _ => none

def submitMachine (config : LoadBalanceConfig R) : Machine (SubmitState R) (SubmitAction R) where
  init := {}
  step := submitStep config

end Machine

/-- Every submission is still queued or was received by a scheduler, and every
id that was recorded belongs to a task that a scheduler received. -/
def NothingLost (state : SubmitState R) : Prop :=
  (∀ task ∈ state.submitted,
    state.submitted.count task ≤ state.submitUndistributionTask.count task + state.sent.count task) ∧
    ∀ id ∈ state.recorded, ∃ task ∈ state.sent, task.taskId = id

instance : DecidablePred (NothingLost (R := R)) := fun _ => inferInstanceAs (Decidable (_ ∧ _))

/-- The table has entries whenever it is read and the network calls succeed. -/
def Delivers (state : SubmitState R) : SubmitAction R → Prop
  | .checkTable => state.table ≠ []
  | .chooseNode => state.table ≠ []
  | .transmit outcome => outcome = .sent
  | _ => True

instance (state : SubmitState R) (action : SubmitAction R) : Decidable (Delivers state action) := by
  cases action <;> unfold Delivers <;> infer_instance

/-- What holds at each point of an iteration.  The task in hand is missing from
both the queue and the sent tasks until it is transmitted. -/
def Conserved (state : SubmitState R) : Prop :=
  match state.pc with
  | .checking task | .choosing task | .sending task _ =>
      state.submitted = state.sent ++ task :: state.submitUndistributionTask ∧
        state.recorded = state.sent.map Task.taskId
  | .recording task =>
      state.submitted = state.sent ++ state.submitUndistributionTask ∧
        state.recorded ++ [task.taskId] = state.sent.map Task.taskId
  | _ =>
      state.submitted = state.sent ++ state.submitUndistributionTask ∧
        state.recorded = state.sent.map Task.taskId

theorem conserved_of_between {state : SubmitState R} (between : state.pc.between = true) :
    Conserved state ↔ state.submitted = state.sent ++ state.submitUndistributionTask ∧
      state.recorded = state.sent.map Task.taskId := by
  unfold Conserved
  cases pc : state.pc <;> simp_all [SubmitPc.between]

theorem submitMore_conserved {before after : SubmitState R} {tasks : List Task}
    (conserved : Conserved before) (stepped : submitMore before tasks = some after) :
    Conserved after := by
  unfold submitMore at stepped
  split at stepped
  · rename_i between
    cases stepped
    rw [conserved_of_between between] at conserved
    refine (conserved_of_between ?_).mpr ⟨?_, conserved.2⟩
    · exact between
    · simp only [conserved.1, List.append_assoc]
  · cases stepped

theorem nothingLost_of_conserved {state : SubmitState R} (conserved : Conserved state)
    (between : state.pc.between = true) : NothingLost state := by
  obtain ⟨submitted, recorded⟩ := (conserved_of_between between).mp conserved
  constructor
  · intro task _
    rw [submitted, List.count_append, Nat.add_comm]
  · intro id member
    rw [recorded] at member
    exact List.mem_map.mp member

section Runs

variable [LT R] [DecidableLT R] [Zero R] [Add R] [Sub R] [Mul R]

/-- One step keeps the account, as long as the table has entries and the
network calls succeed. -/
theorem submitStep_conserved (config : LoadBalanceConfig R) {before after : SubmitState R}
    {action : SubmitAction R} (conserved : Conserved before) (delivers : Delivers before action)
    (stepped : submitStep config before action = some after) : Conserved after := by
  cases action with
  | submitOneTask task => exact submitMore_conserved conserved stepped
  | submitMoreTask tasks => exact submitMore_conserved conserved stepped
  | updateTable table => cases stepped; exact conserved
  | eraseCompleted ids => cases stepped; exact conserved
  | stop => cases stepped; exact conserved
  | loopCheck =>
      simp only [submitStep] at stepped
      split at stepped
      · rename_i pc
        cases stepped
        rw [conserved_of_between (by rw [pc]; rfl)] at conserved
        rw [conserved_of_between (by cases before.running <;> rfl)]
        exact conserved
      · cases stepped
  | lock =>
      simp only [submitStep] at stepped
      split at stepped
      · rename_i task rest pc queue
        cases stepped
        rw [conserved_of_between (by rw [pc]; rfl), queue] at conserved
        exact conserved
      · rename_i pc queue
        split at stepped
        · cases stepped
        · cases stepped
          rw [conserved_of_between (by rw [pc]; rfl)] at conserved
          exact conserved
      · cases stepped
  | checkTable =>
      simp only [submitStep] at stepped
      split at stepped
      · rename_i task pc
        rw [checkTable_ok delivers] at stepped
        cases stepped
        simpa only [Conserved, pc] using conserved
      · cases stepped
  | chooseNode =>
      simp only [submitStep] at stepped
      split at stepped
      · rename_i task pc
        obtain ⟨host, chosen⟩ := chooseNode_ok config before.roundRobinIndex delivers
        split at stepped
        · rename_i failed
          rw [failed] at chosen
          cases chosen
        · rename_i found index _
          cases stepped
          simp only [Conserved, pc] at conserved ⊢
          by_cases unaddressed : found.1 = []
          · simpa only [unaddressed, if_true] using conserved
          · simpa only [unaddressed, if_false] using conserved
      · cases stepped
  | transmit outcome =>
      simp only [submitStep] at stepped
      split at stepped
      · rename_i task host pc
        cases (show outcome = .sent from delivers)
        cases stepped
        simp only [Conserved, pc] at conserved ⊢
        simp [conserved.1, conserved.2]
      · cases stepped
  | record =>
      simp only [submitStep] at stepped
      split at stepped
      · rename_i task pc
        cases stepped
        simpa only [Conserved, pc] using conserved
      · cases stepped

/-- In every run in which the table has entries whenever it is read and the
network calls succeed, nothing is lost between iterations. -/
theorem submit_loses_nothing (config : LoadBalanceConfig R) (state : SubmitState R)
    (reached : (submitMachine config).ReachableBy Delivers state) (between : state.pc.between = true) :
    NothingLost state := by
  refine nothingLost_of_conserved (reached.invariant ?_ ?_) between
  · exact ⟨rfl, rfl⟩
  · intro before action after conserved delivers stepped
    exact submitStep_conserved config conserved delivers stepped

end Runs

end Steps

/-- A command task. -/
def job : Task := { taskId := [116, 49], type := .command, content := [108, 115] }

def balance : LoadBalanceConfig Int := { loadBalanceType := .roundRobin, loadBalanceWeight := [] }

def oneScheduler : NodeTable Int :=
  [([115], { ip := [49], port := 12345, undataFlag := true, cpuUsage := 10, memoryUsage := 10,
             diskUsage := 10, networkUsage := 10 })]

/-- A task reaches the only scheduler and its id is recorded. -/
theorem submit_job_loses_nothing :
    ∃ state, (submitMachine balance).ReachableBy Delivers state ∧ state.pc.between = true ∧
      state.recorded = [[116, 49]] ∧ NothingLost state := by
  obtain ⟨state, reached, between, recorded⟩ := (submitMachine balance).reachableBy_of_any Delivers
    (fun state => state.pc.between = true ∧ state.recorded = [[116, 49]])
    [.updateTable oneScheduler, .submitOneTask job, .loopCheck, .lock, .checkTable, .chooseNode,
      .transmit .sent, .record] (by decide)
  exact ⟨state, reached, between, recorded, submit_loses_nothing balance state reached between⟩

/-- With an empty table the task is popped, the exception is logged, and the id
is recorded although no scheduler has the task. -/
theorem submit_drops_job :
    ∃ state, (submitMachine balance).Reachable state ∧ state.running = true ∧ state.pc.between = true ∧
      state.submitted = [job] ∧ state.submitUndistributionTask = [] ∧ state.sent = [] ∧
      state.distributionTaskid = [job.taskId] ∧ ¬ NothingLost state :=
  (submitMachine balance).reachable_of_any [.submitOneTask job, .loopCheck, .lock, .checkTable, .record]
    (by decide)

end TaskHive.Client
