import TaskHive.MessageQueue.Queue
import TaskHive.Redis.Client

namespace TaskHive.Scheduler

open TaskHive.Wire TaskHive.MessageQueue

/-! # `get_task_result_thread_function`

The scheduler stores each consumed result.  Its callback only logs a failed
store, and the delivery is acknowledged all the same. -/

/-- How Redis treats the two commands of one store. -/
structure StoreEnv where
  hset : Redis.Outcome
  expire : Option Redis.Reply

/-- The store, and what the last `setTaskResult` returned. -/
structure ResultStore where
  store : Redis.Store
  returned : Bool

def storeResult (env : StoreEnv) (state : ResultStore) (result : TaskResult) : ResultStore :=
  let (store, returned) := Redis.setTaskResult state.store env.hset env.expire result.taskId result
  { store, returned }

def getTaskResultThreadFunction (store : Redis.Store) (events : List (Event StoreEnv)) :
    Consumption ResultStore TaskResult :=
  consumeResultImpl .connected true storeResult { store, returned := false } events

/-- A delivery whose body parses, with the behaviour of Redis and of the
acknowledgement for it. -/
structure ConsumedResult where
  body : Bytes
  result : TaskResult
  parsed : TaskResult.parseFromString body = some result
  env : StoreEnv
  ackOk : Bool

def ConsumedResult.event (consumed : ConsumedResult) : Event StoreEnv :=
  { reply := .normal consumed.body, isConnected := true, ackOk := consumed.ackOk, env := consumed.env }

/-- The message is in Redis under its own id and the callback knows it. -/
def Stored (handled : Handled ResultStore TaskResult) : Prop :=
  handled.state.store.results.lookup handled.message.taskId = some handled.message.serializeToString ∧
    handled.state.returned = true

instance : DecidablePred Stored := fun _ => inferInstanceAs (Decidable (_ ∧ _))

theorem stored_storeResult_iff (env : StoreEnv) (state : ResultStore) (result : TaskResult) (acked : Bool) :
    Stored { message := result, state := storeResult env state result, acked } ↔
      Redis.Reply.isDone env.hset.reply = true ∧ Redis.Reply.isExpireSet env.expire = true ∧
        result.ZeroFree := by
  simp only [Stored, storeResult, Redis.setTaskResult_ok]
  constructor
  · rintro ⟨found, done, expire⟩
    rw [Redis.setTaskResult_store done, Redis.Store.lookup_hset_iff] at found
    exact ⟨done, expire, result.zero_notMem_serialize_iff.mp found.2⟩
  · rintro ⟨done, expire, zeroFree⟩
    rw [Redis.setTaskResult_store done, Redis.Store.lookup_hset_iff]
    exact ⟨⟨zeroFree.1, result.zero_notMem_serialize_iff.mpr zeroFree⟩, done, expire⟩

/-- Every acknowledged result is stored exactly when Redis accepts both
commands for each of them and no string of it holds a zero byte. -/
theorem acked_results_stored_iff (store : Redis.Store) (consumed : List ConsumedResult) :
    (∀ handled ∈ (getTaskResultThreadFunction store (consumed.map ConsumedResult.event)).handled,
        handled.acked = true → Stored handled) ↔
      ∀ delivery ∈ consumed, delivery.ackOk = true →
        Redis.Reply.isDone delivery.env.hset.reply = true ∧
          Redis.Reply.isExpireSet delivery.env.expire = true ∧ delivery.result.ZeroFree := by
  apply forall_handled_iff
  · exact fun delivery => ⟨delivery.body, rfl, rfl, delivery.parsed⟩
  · intro delivery state
    exact imp_congr_right fun _ => stored_storeResult_iff delivery.env state delivery.result _

/-- Redis is down for the only store, and the result is acknowledged: it is
gone from the queue and not in Redis. -/
theorem unstored_result_acked :
    let delivery : ConsumedResult :=
      { body := [10, 1, 116], result := { taskId := [116] }, parsed := by decide, ackOk := true
        env := { hset := .lost false, expire := none } }
    let run := getTaskResultThreadFunction .empty [delivery.event]
    run.handled.map (fun handled => (handled.state.returned, handled.acked)) = [(false, true)] ∧
      ¬ ∀ handled ∈ run.handled, handled.acked = true → Stored handled := by
  decide

end TaskHive.Scheduler
