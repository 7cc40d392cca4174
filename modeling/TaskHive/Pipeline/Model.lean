import Mathlib.Logic.Function.Basic
import TaskHive.Machine
import TaskHive.Scheduler.Receive
import TaskHive.Worker.ExecTask
import TaskHive.Worker.Receive

namespace TaskHive.Pipeline

open TaskHive.Wire

/-! # The whole pipeline

Clients, schedulers and workers are arbitrary index types.  The messages pass
each hop unchanged, and a broker queue hands each message to one consumer, in
any order.  Nothing is stopped, no call fails and nothing expires.

A hop inside one process is one step: pop and send, pop and publish, pop and
submit to the pool, and `HGET`, `HDEL` and the entry into `taskresult_`.  What
is between two processes has a place of its own: the broker's queues, Redis,
and the connections that a scheduler has not read.  `get_task_result` takes no
lock; it is one step as well, and so never overlaps a write of `taskresult_`. -/

/-- `taskresult_` of a client, or the results that Redis keeps: the last entry
written under each id. -/
abbrev ResultTable := List (Bytes × TaskResult)

def ResultTable.erase (table : ResultTable) (id : Bytes) : ResultTable :=
  table.filter fun entry => entry.1 ≠ id

def ResultTable.insert (table : ResultTable) (id : Bytes) (result : TaskResult) : ResultTable :=
  table.erase id ++ [(id, result)]

/-- A round of `consume_task_resultfunction`.  A client that is `querying`
holds `distribution_taskid_mutex_`. -/
inductive PollPc where
  | resting
  | querying (remaining completed : List Bytes)
  | removing (completed : List Bytes)
deriving DecidableEq

def PollPc.isQuerying : PollPc → Bool
  | .querying _ _ => true
  | _ => false

/-- The ids that the round has still to ask for. -/
def PollPc.remaining : PollPc → List Bytes
  | .querying remaining _ => remaining
  | _ => []

/-- Between the send and the recording of its id, the submit thread of a client
is inside its iteration and holds `submit_task_mutex_`.  `connections` are the
tasks sent to a scheduler and not read yet.  `submitted` and `returned` record
what callers handed in and got back. -/
structure State (C S W : Type) where
  submitUndistributionTask : C → List Task := fun _ => []
  recording : C → Option Bytes := fun _ => none
  distributionTaskid : C → List Bytes := fun _ => []
  polling : C → PollPc := fun _ => .resting
  taskresult : C → ResultTable := fun _ => []
  connections : S → List Task := fun _ => []
  schedulerPending : S → List Task := fun _ => []
  taskQueue : List Task := []
  workerPending : W → List Task := fun _ => []
  threadPool : W → List Task := fun _ => []
  taskResultQueue : W → List TaskResult := fun _ => []
  resultQueue : List TaskResult := []
  redis : ResultTable := []
  submitted : List (C × Task) := []
  returned : C → ResultTable := fun _ => []

inductive Action (C S W ν : Type) where
  | submitOneTask (client : C) (task : Task)
  | submitMoreTask (client : C) (tasks : List Task)
  | send (client : C) (scheduler : S)
  | record (client : C)
  | receive (scheduler : S) (index : Nat) (now : Int64)
  | publish (scheduler : S) (now : Int64)
  | receiveTask (worker : W) (index : Nat) (now : Int64)
  | dispatch (worker : W)
  | execute (worker : W) (index : Nat) (nonce : ν) (order : List (Bytes × Bytes))
  | report (worker : W)
  | store (index : Nat)
  | pollBegin (client : C)
  | pollOne (client : C)
  | pollEnd (client : C)
  | pollRemove (client : C)
  | getTaskResultAndDelete (client : C) (id : Bytes)

section Steps

variable {C S W ν : Type} [DecidableEq C] [DecidableEq S] [DecidableEq W]

def submitStep (state : State C S W) (client : C) (tasks : List Task) : Option (State C S W) :=
  if state.recording client = none then
    some { state with
      submitUndistributionTask := Function.update state.submitUndistributionTask client
        (state.submitUndistributionTask client ++ tasks)
      submitted := state.submitted ++ tasks.map fun task => (client, task) }
  else none

def clientStep (state : State C S W) : Action C S W ν → Option (State C S W)
  | .submitOneTask client task => submitStep state client [task]
  | .submitMoreTask client tasks => submitStep state client tasks
  | .send client scheduler =>
      match state.recording client, state.submitUndistributionTask client with
      | none, task :: rest =>
          some { state with
            submitUndistributionTask := Function.update state.submitUndistributionTask client rest
            connections := Function.update state.connections scheduler (state.connections scheduler ++ [task])
            recording := Function.update state.recording client (some task.taskId) }
      | _, _ => none
  | .record client =>
      match state.recording client with
      | some id =>
          if (state.polling client).isQuerying then none
          else
            some { state with
              distributionTaskid := Function.update state.distributionTaskid client
                (state.distributionTaskid client ++ [id])
              recording := Function.update state.recording client none }
      | none => none
  | .pollBegin client =>
      match state.polling client with
      | .resting =>
          some { state with
            polling := Function.update state.polling client
              (.querying (state.distributionTaskid client) []) }
      | _ => none
  | .pollOne client =>
      match state.polling client with
      | .querying (id :: rest) completed =>
          match state.redis.lookup id with
          | some result =>
              some { state with
                redis := state.redis.erase id
                taskresult := Function.update state.taskresult client
                  ((state.taskresult client).insert id result)
                polling := Function.update state.polling client (.querying rest (completed ++ [id])) }
          | none =>
              some { state with polling := Function.update state.polling client (.querying rest completed) }
      | _ => none
  | .pollEnd client =>
      match state.polling client with
      | .querying [] completed =>
          some { state with polling := Function.update state.polling client (.removing completed) }
      | _ => none
  | .pollRemove client =>
      match state.polling client with
      | .removing completed =>
          some { state with
            distributionTaskid := Function.update state.distributionTaskid client
              ((state.distributionTaskid client).filter fun id => !completed.contains id)
            polling := Function.update state.polling client .resting }
      | _ => none
  | .getTaskResultAndDelete client id =>
      match (state.taskresult client).lookup id with
      | some result =>
          some { state with
            taskresult := Function.update state.taskresult client ((state.taskresult client).erase id)
            returned := Function.update state.returned client (state.returned client ++ [(id, result)]) }
      | none => some state
  | _ => none

def schedulerStep (state : State C S W) : Action C S W ν → Option (State C S W)
  | .receive scheduler index now =>
      match (state.connections scheduler)[index]? with
      | some task =>
          some { state with
            connections := Function.update state.connections scheduler
              ((state.connections scheduler).eraseIdx index)
            schedulerPending := Function.update state.schedulerPending scheduler
              (state.schedulerPending scheduler ++ [Scheduler.stamp now task]) }
      | none => none
  | .publish scheduler now =>
      match state.schedulerPending scheduler with
      | task :: rest =>
          some { state with
            schedulerPending := Function.update state.schedulerPending scheduler rest
            taskQueue := state.taskQueue ++ [{ task with endSchedTime := now }] }
      | [] => none
  | .store index =>
      match state.resultQueue[index]? with
      | some result =>
          some { state with
            resultQueue := state.resultQueue.eraseIdx index
            redis := state.redis.insert result.taskId result }
      | none => none
  | _ => none

/-- The toolbox says how one execution goes; the nonce picks among the ways a
command or function may behave. -/
def workerStep (workerId : W → Bytes) (toolbox : ν → Worker.Execution) (state : State C S W) :
    Action C S W ν → Option (State C S W)
  | .receiveTask worker index now =>
      match state.taskQueue[index]? with
      | some task =>
          some { state with
            taskQueue := state.taskQueue.eraseIdx index
            workerPending := Function.update state.workerPending worker
              (Worker.cacheTask now (state.workerPending worker) task) }
      | none => none
  | .dispatch worker =>
      match state.workerPending worker with
      | task :: rest =>
          some { state with
            workerPending := Function.update state.workerPending worker rest
            threadPool := Function.update state.threadPool worker (state.threadPool worker ++ [task]) }
      | [] => none
  | .execute worker index nonce order =>
      match (state.threadPool worker)[index]? with
      | some task =>
          if Iterates order task.metadata then
            some { state with
              threadPool := Function.update state.threadPool worker ((state.threadPool worker).eraseIdx index)
              taskResultQueue := Function.update state.taskResultQueue worker
                (state.taskResultQueue worker ++
                  [Worker.execTask (workerId worker) (toolbox nonce) order task]) }
          else none
      | none => none
  | .report worker =>
      match state.taskResultQueue worker with
      | result :: rest =>
          some { state with
            taskResultQueue := Function.update state.taskResultQueue worker rest
            resultQueue := state.resultQueue ++ [result] }
      | [] => none
  | _ => none

def pipelineStep (workerId : W → Bytes) (toolbox : ν → Worker.Execution) (state : State C S W)
    (action : Action C S W ν) : Option (State C S W) :=
  match action with
  | .receive _ _ _ | .publish _ _ | .store _ => schedulerStep state action
  | .receiveTask _ _ _ | .dispatch _ | .execute _ _ _ _ | .report _ =>
      workerStep workerId toolbox state action
  | _ => clientStep state action

def pipeline (workerId : W → Bytes) (toolbox : ν → Worker.Execution) :
    Machine (State C S W) (Action C S W ν) where
  init := {}
  step := pipelineStep workerId toolbox

def State.ids (state : State C S W) : List Bytes := state.submitted.map fun entry => entry.2.taskId

/-- No id of `tasks` was submitted before, by any client, or occurs twice. -/
def Fresh (state : State C S W) (tasks : List Task) : Prop :=
  (tasks.map Task.taskId).Nodup ∧ ∀ task ∈ tasks, task.taskId ∉ state.ids

instance (state : State C S W) (tasks : List Task) : Decidable (Fresh state tasks) :=
  inferInstanceAs (Decidable (_ ∧ _))

/-- The ids of all submissions of all clients are pairwise distinct. -/
def DistinctIds (state : State C S W) : Action C S W ν → Prop
  | .submitOneTask _ task => Fresh state [task]
  | .submitMoreTask _ tasks => Fresh state tasks
  | _ => True

instance (state : State C S W) : (action : Action C S W ν) → Decidable (DistinctIds state action)
  | .submitOneTask _ task => inferInstanceAs (Decidable (Fresh state [task]))
  | .submitMoreTask _ tasks => inferInstanceAs (Decidable (Fresh state tasks))
  | .send _ _ | .record _ | .receive _ _ _ | .publish _ _ | .receiveTask _ _ _ | .dispatch _
  | .execute _ _ _ _ | .report _ | .store _ | .pollBegin _ | .pollOne _ | .pollEnd _
  | .pollRemove _ | .getTaskResultAndDelete _ _ => inferInstanceAs (Decidable True)

end Steps

end TaskHive.Pipeline
