import TaskHive.MessageQueue.Hop
import TaskHive.Scheduler.Results
import TaskHive.Worker.Receive

namespace TaskHive.MessageQueue

open TaskHive.Wire TaskHive.Scheduler

/-! # Bodies that do not parse

A consumer throws at the first body it cannot parse, and its caller catches
the exception outside of the loop.  The bodies behind it are not consumed. -/

/-- The bodies that the broker hands over, without the timeouts. -/
def bodies {E : Type u} (inputs : List (E × Option Bytes)) : List Bytes := inputs.filterMap Prod.snd

/-- No body that parses comes after one that does not. -/
def MalformedLast {M : Type u} (parse : Bytes → Option M) (sequence : List Bytes) : Prop :=
  sequence.Pairwise fun earlier later => parse earlier = none → parse later = none

/-- Each consumer calls its callback on exactly the bodies that parse, in
order, if and only if none of them follows a malformed one. -/
theorem callbacks_exact_iff (pending : List Task) (tasks : List (Int64 × Option Bytes))
    (store : Redis.Store) (results : List (StoreEnv × Option Bytes)) :
    ((Worker.receiveTask pending (tasks.map Event.ofBody)).handled.map Handled.message =
          (bodies tasks).filterMap Task.parseFromString ↔
        MalformedLast Task.parseFromString (bodies tasks)) ∧
      ((getTaskResultThreadFunction store (results.map Event.ofBody)).handled.map Handled.message =
          (bodies results).filterMap TaskResult.parseFromString ↔
        MalformedLast TaskResult.parseFromString (bodies results)) := by
  constructor
  · exact (Eq.congr_left (handled_messages pending tasks)).trans (filterMap_takeWhile_iff _)
  · exact (Eq.congr_left (handled_messages _ results)).trans (filterMap_takeWhile_iff _)

/-- One byte that is no message, followed by the message of a task or result
with the id `t`. -/
def malformedFirst {E : Type u} (env : E) : List (E × Option Bytes) :=
  [(env, some [255]), (env, some [10, 1, 116])]

/-- Neither callback sees the message behind the malformed byte, and both
loops are left. -/
theorem malformed_body_blocks :
    (let run := Worker.receiveTask [] ((malformedFirst 0).map Event.ofBody)
     run = .threw "WorkerTaskQueue: 解析消息失败" ∧ run.handled.map Handled.message ≠
        (bodies (malformedFirst (0 : Int64))).filterMap Task.parseFromString) ∧
      let env : StoreEnv := { hset := .ok, expire := some (.integer 1) }
      let run := getTaskResultThreadFunction .empty ((malformedFirst env).map Event.ofBody)
      run = .threw "SchedulerResultQueue: 解析消息失败" ∧ run.handled.map Handled.message ≠
        (bodies (malformedFirst env)).filterMap TaskResult.parseFromString :=
  ⟨⟨rfl, by decide⟩, rfl, by decide⟩

end TaskHive.MessageQueue
