import TaskHive.Fairness
import TaskHive.Pipeline.Ownership

namespace TaskHive.Pipeline

open TaskHive.Wire

variable {C S W ν : Type}
variable {workerId : W → Bytes} {toolbox : ν → Worker.Execution}

/-! # The way of one task

Beside what a step does to the stages, the way of a task depends on whose step it
is, and on all guards of the step. -/

def PollPc.completed : PollPc → List Bytes
  | .resting => []
  | .querying _ completed => completed
  | .removing completed => completed

section Effects

variable [DecidableEq C]

def State.submit (state : State C S W) (client : C) (tasks : List Task) : State C S W :=
  { state with
    submitUndistributionTask := Function.update state.submitUndistributionTask client
      (state.submitUndistributionTask client ++ tasks)
    submitted := state.submitted ++ tasks.map fun task => (client, task) }

def State.poll (state : State C S W) (client : C) (next : PollPc) : State C S W :=
  { state with polling := Function.update state.polling client next }

@[simp] theorem State.submit_queue (state : State C S W) (client : C) (tasks : List Task) :
    (state.submit client tasks).submitUndistributionTask = Function.update state.submitUndistributionTask client
      (state.submitUndistributionTask client ++ tasks) := rfl

@[simp] theorem State.poll_polling (state : State C S W) (client : C) (next : PollPc) :
    (state.poll client next).polling = Function.update state.polling client next := rfl

variable [DecidableEq S] [DecidableEq W]

inductive Effect (workerId : W → Bytes) (toolbox : ν → Worker.Execution) (before : State C S W) :
    Action C S W ν → State C S W → Prop where
  | submitOneTask (client : C) (task : Task) :
      Effect workerId toolbox before (.submitOneTask client task) (before.submit client [task])
  | submitMoreTask (client : C) (tasks : List Task) :
      Effect workerId toolbox before (.submitMoreTask client tasks) (before.submit client tasks)
  | send (client : C) (scheduler : S) (task : Task) (rest : List Task) (idle : before.recording client = none)
      (queue : before.submitUndistributionTask client = task :: rest) :
      Effect workerId toolbox before (.send client scheduler) { before with
        submitUndistributionTask := Function.update before.submitUndistributionTask client rest
        connections := Function.update before.connections scheduler (before.connections scheduler ++ [task])
        recording := Function.update before.recording client (some task.taskId) }
  | record (client : C) (id : Bytes) (sent : before.recording client = some id)
      (free : (before.polling client).isQuerying = false) :
      Effect workerId toolbox before (.record client) { before with
        distributionTaskid :=
          Function.update before.distributionTaskid client (before.distributionTaskid client ++ [id])
        recording := Function.update before.recording client none }
  | receive (scheduler : S) (index : Nat) (now : Int64) (task : Task)
      (found : (before.connections scheduler)[index]? = some task) :
      Effect workerId toolbox before (.receive scheduler index now) { before with
        connections := Function.update before.connections scheduler ((before.connections scheduler).eraseIdx index)
        schedulerPending := Function.update before.schedulerPending scheduler
          (before.schedulerPending scheduler ++ [Scheduler.stamp now task]) }
  | publish (scheduler : S) (now : Int64) (task : Task) (rest : List Task)
      (queue : before.schedulerPending scheduler = task :: rest) :
      Effect workerId toolbox before (.publish scheduler now) { before with
        schedulerPending := Function.update before.schedulerPending scheduler rest
        taskQueue := before.taskQueue ++ [{ task with endSchedTime := now }] }
  | receiveTask (worker : W) (index : Nat) (now : Int64) (task : Task)
      (found : before.taskQueue[index]? = some task) :
      Effect workerId toolbox before (.receiveTask worker index now) { before with
        taskQueue := before.taskQueue.eraseIdx index
        workerPending := Function.update before.workerPending worker
          (before.workerPending worker ++ [Worker.stampArrival now task]) }
  | dispatch (worker : W) (task : Task) (rest : List Task) (queue : before.workerPending worker = task :: rest) :
      Effect workerId toolbox before (.dispatch worker) { before with
        workerPending := Function.update before.workerPending worker rest
        threadPool := Function.update before.threadPool worker (before.threadPool worker ++ [task]) }
  | execute (worker : W) (index : Nat) (nonce : ν) (order : List (Bytes × Bytes)) (task : Task)
      (found : (before.threadPool worker)[index]? = some task) :
      Effect workerId toolbox before (.execute worker index nonce order) { before with
        threadPool := Function.update before.threadPool worker ((before.threadPool worker).eraseIdx index)
        taskResultQueue := Function.update before.taskResultQueue worker
          (before.taskResultQueue worker ++ [Worker.execTask (workerId worker) (toolbox nonce) order task]) }
  | report (worker : W) (result : TaskResult) (rest : List TaskResult)
      (queue : before.taskResultQueue worker = result :: rest) :
      Effect workerId toolbox before (.report worker) { before with
        taskResultQueue := Function.update before.taskResultQueue worker rest
        resultQueue := before.resultQueue ++ [result] }
  | store (index : Nat) (result : TaskResult) (found : before.resultQueue[index]? = some result) :
      Effect workerId toolbox before (.store index) { before with
        resultQueue := before.resultQueue.eraseIdx index
        redis := before.redis.insert result.taskId result }
  | pollBegin (client : C) (resting : before.polling client = .resting) :
      Effect workerId toolbox before (.pollBegin client)
        (before.poll client (.querying (before.distributionTaskid client) []))
  | pollHit (client : C) (id : Bytes) (rest completed : List Bytes) (result : TaskResult)
      (querying : before.polling client = .querying (id :: rest) completed)
      (found : before.redis.lookup id = some result) :
      Effect workerId toolbox before (.pollOne client) { before.poll client (.querying rest (completed ++ [id])) with
        redis := before.redis.erase id
        taskresult := Function.update before.taskresult client ((before.taskresult client).insert id result) }
  | pollMiss (client : C) (id : Bytes) (rest completed : List Bytes)
      (querying : before.polling client = .querying (id :: rest) completed)
      (absent : before.redis.lookup id = none) :
      Effect workerId toolbox before (.pollOne client) (before.poll client (.querying rest completed))
  | pollEnd (client : C) (completed : List Bytes) (querying : before.polling client = .querying [] completed) :
      Effect workerId toolbox before (.pollEnd client) (before.poll client (.removing completed))
  | pollRemove (client : C) (completed : List Bytes) (removing : before.polling client = .removing completed) :
      Effect workerId toolbox before (.pollRemove client) { before.poll client .resting with
        distributionTaskid := Function.update before.distributionTaskid client
          ((before.distributionTaskid client).filter fun id => !completed.contains id) }
  | take (client : C) (id : Bytes) (result : TaskResult) (found : (before.taskresult client).lookup id = some result) :
      Effect workerId toolbox before (.getTaskResultAndDelete client id) { before with
        taskresult := Function.update before.taskresult client ((before.taskresult client).erase id)
        returned := Function.update before.returned client (before.returned client ++ [(id, result)]) }
  | takeNothing (client : C) (id : Bytes) : Effect workerId toolbox before (.getTaskResultAndDelete client id) before

theorem effect_of_clientStep {before after : State C S W} {action : Action C S W ν}
    (stepped : clientStep before action = some after) : Effect workerId toolbox before action after := by
  cases action with
  | submitOneTask client task =>
      simp only [clientStep, submitStep] at stepped
      split at stepped
      · cases stepped
        exact .submitOneTask client task
      · cases stepped
  | submitMoreTask client tasks =>
      simp only [clientStep, submitStep] at stepped
      split at stepped
      · cases stepped
        exact .submitMoreTask client tasks
      · cases stepped
  | send client scheduler =>
      simp only [clientStep] at stepped
      split at stepped
      · rename_i task rest idle queue
        cases stepped
        exact .send client scheduler task rest idle queue
      · cases stepped
  | record client =>
      simp only [clientStep] at stepped
      split at stepped
      · rename_i id sent
        split at stepped
        · cases stepped
        · rename_i free
          cases stepped
          exact .record client id sent (by simpa using free)
      · cases stepped
  | pollBegin client =>
      simp only [clientStep] at stepped
      split at stepped
      · rename_i resting
        cases stepped
        exact .pollBegin client resting
      · cases stepped
  | pollOne client =>
      simp only [clientStep] at stepped
      split at stepped
      · rename_i id rest completed querying
        split at stepped
        · rename_i result found
          cases stepped
          exact .pollHit client id rest completed result querying found
        · rename_i absent
          cases stepped
          exact .pollMiss client id rest completed querying absent
      · cases stepped
  | pollEnd client =>
      simp only [clientStep] at stepped
      split at stepped
      · rename_i completed querying
        cases stepped
        exact .pollEnd client completed querying
      · cases stepped
  | pollRemove client =>
      simp only [clientStep] at stepped
      split at stepped
      · rename_i completed removing
        cases stepped
        exact .pollRemove client completed removing
      · cases stepped
  | getTaskResultAndDelete client id =>
      simp only [clientStep] at stepped
      split at stepped
      · rename_i result found
        cases stepped
        exact .take client id result found
      · cases stepped
        exact .takeNothing client id
  | _ => cases stepped

theorem effect_of_schedulerStep {before after : State C S W} {action : Action C S W ν}
    (stepped : schedulerStep before action = some after) : Effect workerId toolbox before action after := by
  cases action with
  | receive scheduler index now =>
      simp only [schedulerStep] at stepped
      split at stepped
      · rename_i task found
        cases stepped
        exact .receive scheduler index now task found
      · cases stepped
  | publish scheduler now =>
      simp only [schedulerStep] at stepped
      split at stepped
      · rename_i task rest queue
        cases stepped
        exact .publish scheduler now task rest queue
      · cases stepped
  | store index =>
      simp only [schedulerStep] at stepped
      split at stepped
      · rename_i result found
        cases stepped
        exact .store index result found
      · cases stepped
  | _ => cases stepped

theorem effect_of_workerStep {before after : State C S W} {action : Action C S W ν}
    (stepped : workerStep workerId toolbox before action = some after) :
    Effect workerId toolbox before action after := by
  cases action with
  | receiveTask worker index now =>
      simp only [workerStep] at stepped
      split at stepped
      · rename_i task found
        cases stepped
        exact .receiveTask worker index now task found
      · cases stepped
  | dispatch worker =>
      simp only [workerStep] at stepped
      split at stepped
      · rename_i task rest queue
        cases stepped
        exact .dispatch worker task rest queue
      · cases stepped
  | execute worker index nonce order =>
      simp only [workerStep] at stepped
      split at stepped
      · rename_i task found
        split at stepped
        · cases stepped
          exact .execute worker index nonce order task found
        · cases stepped
      · cases stepped
  | report worker =>
      simp only [workerStep] at stepped
      split at stepped
      · rename_i result rest queue
        cases stepped
        exact .report worker result rest queue
      · cases stepped
  | _ => cases stepped

theorem effect_of_step {before after : State C S W} {action : Action C S W ν}
    (stepped : pipelineStep workerId toolbox before action = some after) :
    Effect workerId toolbox before action after := by
  unfold pipelineStep at stepped
  split at stepped
  all_goals first
    | exact effect_of_schedulerStep stepped
    | exact effect_of_workerStep stepped
    | exact effect_of_clientStep stepped

end Effects

/-! ## Who remembers a task

Until its result has come back, the client has a task in its queue, is about to
note its id, or has noted it, and no round counts it as completed. -/

def Answered (client : C) (id : Bytes) (state : State C S W) : Prop :=
  ∃ entry ∈ state.taskresult client ++ state.returned client, entry.1 = id

def Noted (client : C) (id : Bytes) (state : State C S W) : Prop :=
  id ∉ (state.polling client).completed ∧
    (id ∈ (state.submitUndistributionTask client).map Task.taskId ∨ state.recording client = some id ∨
      id ∈ state.distributionTaskid client)

structure Remembered (workerId : W → Bytes) (toolbox : ν → Worker.Execution) (state : State C S W) : Prop where
  owned : Owned workerId toolbox state
  completed : ∀ client, ∀ id ∈ (state.polling client).completed, id ∈ state.ids
  noted : ∀ client task, (client, task) ∈ state.submitted →
    Answered client task.taskId state ∨ Noted client task.taskId state

section Memory

variable [DecidableEq C] {before after : State C S W} {action : Action C S W ν}

theorem Noted.submit {client : C} {id : Bytes} (noted : Noted client id before) (other : C) (tasks : List Task) :
    Noted client id (before.submit other tasks) := by
  obtain ⟨unfetched, queued | noted⟩ := noted
  · refine ⟨unfetched, .inl ?_⟩
    by_cases same : other = client
    · subst other
      rw [State.submit_queue, Function.update_self, List.map_append]
      exact List.mem_append_left _ queued
    · rw [State.submit_queue, Function.update_of_ne (Ne.symm same)]
      exact queued
  · exact ⟨unfetched, .inr noted⟩

/-- A round moves on, and completes no new id. -/
theorem Noted.poll {client : C} {id : Bytes} (noted : Noted client id before) {other : C} {next : PollPc}
    (fewer : next.completed ⊆ (before.polling other).completed) : Noted client id (before.poll other next) := by
  refine ⟨?_, noted.2⟩
  by_cases same : other = client
  · subst other
    rw [State.poll_polling, Function.update_self]
    exact fun member => noted.1 (fewer member)
  · rw [State.poll_polling, Function.update_of_ne (Ne.symm same)]
    exact noted.1

variable [DecidableEq S] [DecidableEq W]

theorem Answered.kept {client : C} {id : Bytes} (answered : Answered client id before)
    (effect : Effect workerId toolbox before action after) : Answered client id after := by
  obtain ⟨entry, member, named⟩ := answered
  cases effect with
  | pollHit other fetched rest completed result querying found =>
      by_cases same : other = client
      · subst other
        by_cases replaced : fetched = id
        · exact ⟨(id, result), by simp [State.poll, ResultTable.insert, replaced], rfl⟩
        · refine ⟨entry, ?_, named⟩
          have kept : entry.1 ≠ fetched := fun equal => replaced (equal.symm.trans named)
          rcases List.mem_append.mp member with fresh | returned
          · simp [State.poll, ResultTable.insert, ResultTable.erase, fresh, kept]
          · simp [State.poll, returned]
      · exact ⟨entry, by simpa [State.poll, Ne.symm same] using member, named⟩
  | take other taken result found =>
      by_cases same : other = client
      · subst other
        by_cases moved : taken = id
        · exact ⟨(id, result), by simp [moved], rfl⟩
        · refine ⟨entry, ?_, named⟩
          have kept : entry.1 ≠ taken := fun equal => moved (equal.symm.trans named)
          rcases List.mem_append.mp member with fresh | returned
          · simp [ResultTable.erase, fresh, kept]
          · simp [returned]
      · exact ⟨entry, by simpa [Ne.symm same] using member, named⟩
  | _ => exact ⟨entry, member, named⟩

theorem Noted.kept {client : C} {id : Bytes} (noted : Noted client id before)
    (effect : Effect workerId toolbox before action after) : Answered client id after ∨ Noted client id after := by
  cases effect with
  | submitOneTask other task => exact .inr (noted.submit other [task])
  | submitMoreTask other tasks => exact .inr (noted.submit other tasks)
  | send other scheduler task rest idle queue =>
      refine .inr ⟨noted.1, ?_⟩
      by_cases same : other = client
      · subst other
        simp only [Function.update_self]
        rcases noted.2 with queued | recording | distributed
        · rw [queue, List.map_cons, List.mem_cons] at queued
          rcases queued with rfl | later
          · exact .inr (.inl rfl)
          · exact .inl later
        · rw [idle] at recording
          cases recording
        · exact .inr (.inr distributed)
      · simp only [Function.update_of_ne (Ne.symm same)]
        exact noted.2
  | record other recorded sent free =>
      refine .inr ⟨noted.1, ?_⟩
      by_cases same : other = client
      · subst other
        simp only [Function.update_self]
        rcases noted.2 with queued | recording | distributed
        · exact .inl queued
        · rw [sent, Option.some.injEq] at recording
          exact .inr (.inr (by simp [recording]))
        · exact .inr (.inr (List.mem_append_left _ distributed))
      · simp only [Function.update_of_ne (Ne.symm same)]
        exact noted.2
  | pollBegin other resting => exact .inr (noted.poll (List.nil_subset _))
  | pollMiss other asked rest completed querying absent =>
      refine .inr (noted.poll ?_)
      rw [querying]
      exact List.Subset.refl _
  | pollEnd other completed querying =>
      refine .inr (noted.poll ?_)
      rw [querying]
      exact List.Subset.refl _
  | pollHit other fetched rest completed result querying found =>
      by_cases same : other = client
      · subst other
        by_cases mine : fetched = id
        · exact .inl ⟨(id, result), by simp [State.poll, ResultTable.insert, mine], rfl⟩
        · refine .inr ⟨?_, noted.2⟩
          have unfetched := noted.1
          simp only [querying, PollPc.completed] at unfetched
          simp [State.poll, PollPc.completed, unfetched, Ne.symm mine]
      · refine .inr ⟨?_, noted.2⟩
        simp only [State.poll, Function.update_of_ne (Ne.symm same)]
        exact noted.1
  | pollRemove other completed removing =>
      refine .inr ⟨(noted.poll (List.nil_subset _)).1, ?_⟩
      by_cases same : other = client
      · subst other
        have unfetched := noted.1
        rw [removing, PollPc.completed] at unfetched
        simpa [State.poll, unfetched] using noted.2
      · simp only [State.poll, Function.update_of_ne (Ne.symm same)]
        exact noted.2
  | _ => exact .inr noted

/-- A round completes only ids that were submitted. -/
theorem Effect.completed (effect : Effect workerId toolbox before action after)
    (attributed : Attributed workerId toolbox before)
    (known : ∀ client, ∀ id ∈ (before.polling client).completed, id ∈ before.ids) (client : C) (id : Bytes)
    (member : id ∈ (after.polling client).completed) : id ∈ after.ids := by
  have poll {other : C} {next : PollPc} (fewer : ∀ id ∈ next.completed, id ∈ before.ids)
      (member : id ∈ (Function.update before.polling other next client).completed) : id ∈ before.ids := by
    by_cases same : client = other
    · subst other
      rw [Function.update_self] at member
      exact fewer id member
    · rw [Function.update_of_ne same] at member
      exact known client id member
  cases effect with
  | submitOneTask | submitMoreTask =>
      have old := known client id member
      simp only [State.ids, State.submit, List.map_append, List.mem_append]
      exact .inl old
  | pollBegin | pollRemove => exact poll (by simp [PollPc.completed]) member
  | pollMiss other asked rest completed querying absent =>
      refine poll (fun id member => known other id ?_) member
      rwa [querying]
  | pollEnd other completed querying =>
      refine poll (fun id member => known other id ?_) member
      rwa [querying]
  | pollHit other fetched rest completed result querying found =>
      refine poll (fun id member => ?_) member
      rcases List.mem_append.mp member with old | new
      · exact known other id (by rwa [querying])
      · rw [List.mem_singleton.mp new]
        obtain ⟨task, submitted, named⟩ := attributed.queried other fetched (by simp [querying, PollPc.remaining])
        exact List.mem_map.mpr ⟨(other, task), submitted, named⟩
  | _ => exact known client id member

omit [DecidableEq S] [DecidableEq W] in
/-- What is submitted now waits in the queue of its client. -/
theorem Remembered.submit (remembered : Remembered workerId toolbox before) {other : C} {tasks : List Task}
    (fresh : Fresh before tasks) {client : C} {task : Task}
    (submitted : (client, task) ∈ (before.submit other tasks).submitted) :
    (client, task) ∈ before.submitted ∨ Noted client task.taskId (before.submit other tasks) := by
  rcases List.mem_append.mp submitted with old | new
  · exact .inl old
  · obtain ⟨added, member, same⟩ := List.mem_map.mp new
    cases same
    refine .inr ⟨fun completed => fresh.2 task member (remembered.completed other _ completed), .inl ?_⟩
    rw [State.submit_queue, Function.update_self, List.map_append]
    exact List.mem_append_right _ (List.mem_map_of_mem member)

theorem Remembered.step (remembered : Remembered workerId toolbox before) (permitted : DistinctIds before action)
    (stepped : pipelineStep workerId toolbox before action = some after) : Remembered workerId toolbox after := by
  have effect : Effect workerId toolbox before action after := effect_of_step stepped
  refine ⟨(transition_of_step permitted stepped).owned remembered.owned,
    effect.completed remembered.owned.attributed remembered.completed, fun client task submitted => ?_⟩
  have known : (client, task) ∈ before.submitted ∨ Noted client task.taskId after := by
    cases effect with
    | submitOneTask | submitMoreTask => exact remembered.submit permitted submitted
    | _ => exact .inl submitted
  rcases known with old | noted
  · rcases remembered.noted client task old with answered | noted
    · exact .inl (answered.kept effect)
    · exact noted.kept effect
  · exact .inr noted

theorem remembered_of_reachable {state : State C S W}
    (reached : (pipeline workerId toolbox).ReachableBy DistinctIds state) : Remembered workerId toolbox state := by
  induction reached with
  | init => exact ⟨owned_init, by simp [pipeline, PollPc.completed], by simp [pipeline]⟩
  | step reached permitted stepped ih => exact ih.step permitted stepped

end Memory

end TaskHive.Pipeline
