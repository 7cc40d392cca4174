import TaskHive.MessageQueue.Queue

namespace TaskHive.Worker

open TaskHive.MessageQueue

def stampArrival (now : Int64) (task : Task) : Task := { task with startWorkerTime := now }

/-- The callback of `receive_task` stamps the task and caches it in
`pending_tasks_`. -/
def cacheTask (now : Int64) (pending : List Task) (task : Task) : List Task :=
  pending ++ [stampArrival now task]

/-- An exception that leaves the consume loop is caught here, outside of the
loop, and ends the thread. -/
def receiveTask (pending : List Task) (events : List (Event Int64)) : Consumption (List Task) Task :=
  consumeTaskImpl .connected true cacheTask pending events

end TaskHive.Worker
