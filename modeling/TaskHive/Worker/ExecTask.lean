import TaskHive.Proto.Task
import TaskHive.Worker.FunctionLibrary

namespace TaskHive.Worker

open TaskHive.Wire

/-! # The job that `exec_task` gives to the thread pool -/

/-- The members that are read from a function's response. -/
structure FunctionReply where
  data : Bytes
  message : Bytes
  success : Bool

/-- One run of a command or function: the time it starts, what `exec_cmd`
returns, and what is read from the text that `exec_func` returns.  An error is
the text of a `std::exception`. -/
structure Execution where
  now : Int64
  execCmd : Bytes → Except Bytes Bytes
  execFunc : Bytes → Params → Except Bytes FunctionReply

/-- The loop over the metadata, in the order of its hash map. -/
def collectParams (order : List (Bytes × Bytes)) : Params :=
  order.foldl (fun params entry => params.insert entry.1 entry.2) []

/-- Key and value follow each other without a separator. -/
def commandLine (content : Bytes) (params : Params) : Bytes :=
  params.foldl (fun command entry => command ++ utf8 " " ++ entry.1 ++ entry.2) content

def succeed (result : TaskResult) (output : Bytes) : TaskResult :=
  { result with output, status := .success }

def fail (result : TaskResult) (message : Bytes) : TaskResult :=
  { result with errorMessage := message, status := .failed }

def runCommand (execution : Execution) (task : Task) (params : Params) : TaskResult :=
  let started : TaskResult := { startExcTime := execution.now }
  match execution.execCmd (commandLine task.content params) with
  | .error what => fail started (utf8 "执行异常: " ++ what)
  | .ok [] => fail started (utf8 "命令执行失败")
  | .ok output => succeed started output

def runFunction (execution : Execution) (task : Task) (params : Params) : TaskResult :=
  let started : TaskResult := { startExcTime := execution.now }
  match execution.execFunc task.content params with
  | .error what => fail started (utf8 "执行异常: " ++ what)
  | .ok reply => if reply.success then succeed started reply.data else fail started reply.message

def runTask (execution : Execution) (task : Task) (params : Params) : TaskResult :=
  if task.type = .command then runCommand execution task params
  else if task.type = .function then runFunction execution task params
  else fail {} (utf8 "不支持的任务类型")

theorem runTask_function {task : Task} (function : task.type = .function) (execution : Execution)
    (params : Params) : runTask execution task params = runFunction execution task params := by
  simp [runTask, function, TaskType.function, TaskType.command]

/-- The fields that every result gets from its task and its worker. -/
def execTask (workerId : Bytes) (execution : Execution) (order : List (Bytes × Bytes)) (task : Task) :
    TaskResult :=
  { runTask execution task (collectParams order) with
    taskId := task.taskId
    workerId
    startSchedTime := task.startSchedTime
    endSchedTime := task.endSchedTime
    startWorkerTime := task.startWorkerTime }

@[simp] theorem execTask_taskId (workerId : Bytes) (execution : Execution) (order : List (Bytes × Bytes))
    (task : Task) : (execTask workerId execution order task).taskId = task.taskId := rfl

@[simp] theorem execTask_status (workerId : Bytes) (execution : Execution) (order : List (Bytes × Bytes))
    (task : Task) : (execTask workerId execution order task).status =
      (runTask execution task (collectParams order)).status := rfl

@[simp] theorem execTask_errorMessage (workerId : Bytes) (execution : Execution) (order : List (Bytes × Bytes))
    (task : Task) : (execTask workerId execution order task).errorMessage =
      (runTask execution task (collectParams order)).errorMessage := rfl

end TaskHive.Worker
