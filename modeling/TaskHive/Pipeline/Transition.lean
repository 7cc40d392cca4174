import TaskHive.Pipeline.Model

namespace TaskHive.Pipeline

open TaskHive.Wire

variable {C S W ν : Type} [DecidableEq C] [DecidableEq S] [DecidableEq W]
variable {workerId : W → Bytes} {toolbox : ν → Worker.Execution}

/-! # What one step of the pipeline can do

Each constructor is one branch of the step functions, with the guards that
lead to it and the state it produces.  Guards that no invariant needs are left
out, which only adds transitions. -/

inductive Transition (workerId : W → Bytes) (toolbox : ν → Worker.Execution) (state : State C S W) :
    State C S W → Prop where
  | submit (client : C) (tasks : List Task) (fresh : Fresh state tasks) :
      Transition workerId toolbox state { state with
        submitUndistributionTask := Function.update state.submitUndistributionTask client
          (state.submitUndistributionTask client ++ tasks)
        submitted := state.submitted ++ tasks.map fun task => (client, task) }
  | send (client : C) (scheduler : S) (task : Task) (rest : List Task)
      (queue : state.submitUndistributionTask client = task :: rest) :
      Transition workerId toolbox state { state with
        submitUndistributionTask := Function.update state.submitUndistributionTask client rest
        connections := Function.update state.connections scheduler (state.connections scheduler ++ [task])
        recording := Function.update state.recording client (some task.taskId) }
  | record (client : C) (id : Bytes) (sent : state.recording client = some id) :
      Transition workerId toolbox state { state with
        distributionTaskid := Function.update state.distributionTaskid client
          (state.distributionTaskid client ++ [id])
        recording := Function.update state.recording client none }
  | receive (scheduler : S) (index : Nat) (now : Int64) (task : Task)
      (found : (state.connections scheduler)[index]? = some task) :
      Transition workerId toolbox state { state with
        connections := Function.update state.connections scheduler
          ((state.connections scheduler).eraseIdx index)
        schedulerPending := Function.update state.schedulerPending scheduler
          (state.schedulerPending scheduler ++ [Scheduler.stamp now task]) }
  | publish (scheduler : S) (now : Int64) (task : Task) (rest : List Task)
      (queue : state.schedulerPending scheduler = task :: rest) :
      Transition workerId toolbox state { state with
        schedulerPending := Function.update state.schedulerPending scheduler rest
        taskQueue := state.taskQueue ++ [{ task with endSchedTime := now }] }
  | receiveTask (worker : W) (index : Nat) (now : Int64) (task : Task)
      (found : state.taskQueue[index]? = some task) :
      Transition workerId toolbox state { state with
        taskQueue := state.taskQueue.eraseIdx index
        workerPending := Function.update state.workerPending worker
          (state.workerPending worker ++ [Worker.stampArrival now task]) }
  | dispatch (worker : W) (task : Task) (rest : List Task)
      (queue : state.workerPending worker = task :: rest) :
      Transition workerId toolbox state { state with
        workerPending := Function.update state.workerPending worker rest
        threadPool := Function.update state.threadPool worker (state.threadPool worker ++ [task]) }
  | execute (worker : W) (index : Nat) (nonce : ν) (order : List (Bytes × Bytes)) (task : Task)
      (found : (state.threadPool worker)[index]? = some task) (iterates : Iterates order task.metadata) :
      Transition workerId toolbox state { state with
        threadPool := Function.update state.threadPool worker ((state.threadPool worker).eraseIdx index)
        taskResultQueue := Function.update state.taskResultQueue worker
          (state.taskResultQueue worker ++
            [Worker.execTask (workerId worker) (toolbox nonce) order task]) }
  | report (worker : W) (result : TaskResult) (rest : List TaskResult)
      (queue : state.taskResultQueue worker = result :: rest) :
      Transition workerId toolbox state { state with
        taskResultQueue := Function.update state.taskResultQueue worker rest
        resultQueue := state.resultQueue ++ [result] }
  | store (index : Nat) (result : TaskResult) (found : state.resultQueue[index]? = some result) :
      Transition workerId toolbox state { state with
        resultQueue := state.resultQueue.eraseIdx index
        redis := state.redis.insert result.taskId result }
  | pollHit (client : C) (id : Bytes) (rest completed : List Bytes) (result : TaskResult)
      (querying : state.polling client = .querying (id :: rest) completed)
      (found : state.redis.lookup id = some result) :
      Transition workerId toolbox state { state with
        redis := state.redis.erase id
        taskresult := Function.update state.taskresult client
          ((state.taskresult client).insert id result)
        polling := Function.update state.polling client (.querying rest (completed ++ [id])) }
  | pollMove (client : C) (next : PollPc)
      (fewer : next.remaining ⊆ state.distributionTaskid client ++ (state.polling client).remaining) :
      Transition workerId toolbox state { state with
        polling := Function.update state.polling client next }
  | pollRemove (client : C) (kept : List Bytes) (fewer : kept ⊆ state.distributionTaskid client) :
      Transition workerId toolbox state { state with
        distributionTaskid := Function.update state.distributionTaskid client kept
        polling := Function.update state.polling client .resting }
  | take (client : C) (id : Bytes) (result : TaskResult)
      (found : (state.taskresult client).lookup id = some result) :
      Transition workerId toolbox state { state with
        taskresult := Function.update state.taskresult client ((state.taskresult client).erase id)
        returned := Function.update state.returned client (state.returned client ++ [(id, result)]) }
  | takeNothing : Transition workerId toolbox state state

theorem transition_of_submitStep {before after : State C S W} {client : C} {tasks : List Task}
    (fresh : Fresh before tasks) (stepped : submitStep before client tasks = some after) :
    Transition workerId toolbox before after := by
  simp only [submitStep] at stepped
  split at stepped
  · cases stepped
    exact .submit client tasks fresh
  · cases stepped

theorem transition_of_clientStep {before after : State C S W} {action : Action C S W ν}
    (permitted : DistinctIds before action) (stepped : clientStep before action = some after) :
    Transition workerId toolbox before after := by
  cases action with
  | submitOneTask client task => exact transition_of_submitStep permitted stepped
  | submitMoreTask client tasks => exact transition_of_submitStep permitted stepped
  | send client scheduler =>
      simp only [clientStep] at stepped
      split at stepped
      · rename_i task rest idle queue
        cases stepped
        exact .send client scheduler task rest queue
      · cases stepped
  | record client =>
      simp only [clientStep] at stepped
      split at stepped
      · rename_i id sent
        split at stepped
        · cases stepped
        · cases stepped
          exact .record client id sent
      · cases stepped
  | pollBegin client =>
      simp only [clientStep] at stepped
      split at stepped
      · cases stepped
        exact .pollMove client _ (List.subset_append_left _ _)
      · cases stepped
  | pollOne client =>
      simp only [clientStep] at stepped
      split at stepped
      · rename_i id rest completed querying
        split at stepped
        · rename_i result found
          cases stepped
          exact .pollHit client id rest completed result querying found
        · cases stepped
          refine .pollMove client _ ?_
          intro other member
          rw [querying]
          exact List.mem_append_right _ (List.mem_cons_of_mem id member)
      · cases stepped
  | pollEnd client =>
      simp only [clientStep] at stepped
      split at stepped
      · cases stepped
        exact .pollMove client _ (List.nil_subset _)
      · cases stepped
  | pollRemove client =>
      simp only [clientStep] at stepped
      split at stepped
      · cases stepped
        exact .pollRemove client _ (List.filter_subset_self _)
      · cases stepped
  | getTaskResultAndDelete client id =>
      simp only [clientStep] at stepped
      split at stepped
      · rename_i result found
        cases stepped
        exact .take client id result found
      · cases stepped
        exact .takeNothing
  | _ => cases stepped

theorem transition_of_schedulerStep {before after : State C S W} {action : Action C S W ν}
    (stepped : schedulerStep before action = some after) : Transition workerId toolbox before after := by
  cases action with
  | receive scheduler index now =>
      simp only [schedulerStep] at stepped
      split at stepped
      · rename_i task found
        cases stepped
        exact .receive scheduler index now task found
      · cases stepped
  | publish scheduler now =>
      simp only [schedulerStep] at stepped
      split at stepped
      · rename_i task rest queue
        cases stepped
        exact .publish scheduler now task rest queue
      · cases stepped
  | store index =>
      simp only [schedulerStep] at stepped
      split at stepped
      · rename_i result found
        cases stepped
        exact .store index result found
      · cases stepped
  | _ => cases stepped

theorem transition_of_workerStep {before after : State C S W} {action : Action C S W ν}
    (stepped : workerStep workerId toolbox before action = some after) :
    Transition workerId toolbox before after := by
  cases action with
  | receiveTask worker index now =>
      simp only [workerStep] at stepped
      split at stepped
      · rename_i task found
        cases stepped
        exact .receiveTask worker index now task found
      · cases stepped
  | dispatch worker =>
      simp only [workerStep] at stepped
      split at stepped
      · rename_i task rest queue
        cases stepped
        exact .dispatch worker task rest queue
      · cases stepped
  | execute worker index nonce order =>
      simp only [workerStep] at stepped
      split at stepped
      · rename_i task found
        split at stepped
        · rename_i iterates
          cases stepped
          exact .execute worker index nonce order task found iterates
        · cases stepped
      · cases stepped
  | report worker =>
      simp only [workerStep] at stepped
      split at stepped
      · rename_i result rest queue
        cases stepped
        exact .report worker result rest queue
      · cases stepped
  | _ => cases stepped

theorem transition_of_step {before after : State C S W} {action : Action C S W ν}
    (permitted : DistinctIds before action)
    (stepped : pipelineStep workerId toolbox before action = some after) :
    Transition workerId toolbox before after := by
  unfold pipelineStep at stepped
  split at stepped
  all_goals first
    | exact transition_of_schedulerStep stepped
    | exact transition_of_workerStep stepped
    | exact transition_of_clientStep permitted stepped

end TaskHive.Pipeline
