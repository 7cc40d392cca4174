import TaskHive.MessageQueue.Queue

namespace TaskHive.MessageQueue

open TaskHive.Wire

/-! # What a published message becomes at the consumer

Both hops pass the serialized bytes through a C string.  The reader refuses
everything that the cut at the first zero byte changes, so a message arrives as
it was sent or not at all. -/

section Hops

variable {E S : Type}

/-- The callback saw exactly this message and the loop went on waiting. -/
def Consumption.delivered {M : Type} (message : M) (state : S) : Consumption S M :=
  { handled := [{ message, state, acked := true }], ending := .waiting }

/-- The callback was not called and the loop was left by an exception. -/
def Consumption.threw {M : Type} (what : String) : Consumption S M :=
  { handled := [], ending := .threw what }

/-- `publishTaskImpl` followed by `consumeTaskImpl`, with a broker that
delivers the body unchanged. -/
def taskHop (callback : E → S → Task → S) (env : E) (state : S) (order : List (Bytes × Bytes))
    (task : Task) : Except String (Consumption S Task) := do
  let body ← publishTaskImpl .connected true order task
  return consumeTaskImpl .connected true callback state [.delivery env body]

/-- `publishResultImpl` followed by `consumeResultImpl`. -/
def resultHop (callback : E → S → TaskResult → S) (env : E) (state : S) (result : TaskResult) :
    Except String (Consumption S TaskResult) := do
  let body ← publishResultImpl .connected true result
  return consumeResultImpl .connected true callback state [.delivery env body]

/-- One delivery of a cut serialization, for any message schema. -/
theorem consumeLoop_cString_serialize {M : Type} {schema : Schema M}
    {order : List (Bytes × Bytes)} {message : M} (ordered : schema.Ordered order message)
    (parseFailure : String) (stopOnAckFailure : Bool) (callback : E → S → M → S) (env : E) (state : S) :
    let run := consumeLoop schema.parse parseFailure stopOnAckFailure callback state
      [.delivery env (cString (schema.serialize order message))]
    let clean := ∀ slot ∈ schema.slots, slot.Utf8 order message ∧ slot.ZeroFree order message
    (run = .delivered message (callback env state message) ∧ clean) ∨
      (run = .threw parseFailure ∧ ¬ clean) := by
  rcases schema.parse_cString_serialize ordered with ⟨parsed, clean⟩ | ⟨refused, unclean⟩
  · exact .inl ⟨consumeLoop_parsed parsed env state [], clean⟩
  · exact .inr ⟨consumeLoop_refused refused env state [], unclean⟩

theorem taskHop_eq (callback : E → S → Task → S) (env : E) (state : S)
    (order : List (Bytes × Bytes)) (task : Task) :
    taskHop callback env state order task =
      .ok (consumeLoop Task.schema.parse "WorkerTaskQueue: 解析消息失败" true callback state
        [.delivery env (cString (Task.schema.serialize order task))]) := rfl

theorem resultHop_eq (callback : E → S → TaskResult → S) (env : E) (state : S) (result : TaskResult) :
    resultHop callback env state result =
      .ok (consumeLoop TaskResult.schema.parse "SchedulerResultQueue: 解析消息失败" false callback state
        [.delivery env (cString (TaskResult.schema.serialize [] result))]) := rfl

theorem taskHop_cases {task : Task} {order : List (Bytes × Bytes)}
    (iterates : Iterates order task.metadata) (callback : E → S → Task → S) (env : E) (state : S) :
    (taskHop callback env state order task = .ok (.delivered task (callback env state task)) ∧
        task.Transparent) ∨
      (taskHop callback env state order task = .ok (.threw "WorkerTaskQueue: 解析消息失败") ∧
        ¬ task.Transparent) := by
  rw [taskHop_eq, ← Task.transparent_iff iterates]
  rcases consumeLoop_cString_serialize (Task.ordered_iff.mpr iterates) "WorkerTaskQueue: 解析消息失败" true
    callback env state with ⟨run, clean⟩ | ⟨run, unclean⟩
  · exact .inl ⟨congrArg _ run, clean⟩
  · exact .inr ⟨congrArg _ run, unclean⟩

theorem resultHop_cases (result : TaskResult) (callback : E → S → TaskResult → S) (env : E) (state : S) :
    (resultHop callback env state result = .ok (.delivered result (callback env state result)) ∧
        result.Transparent) ∨
      (resultHop callback env state result = .ok (.threw "SchedulerResultQueue: 解析消息失败") ∧
        ¬ result.Transparent) := by
  rw [resultHop_eq, ← result.transparent_iff]
  rcases consumeLoop_cString_serialize result.ordered "SchedulerResultQueue: 解析消息失败" false callback env
    state with ⟨run, clean⟩ | ⟨run, unclean⟩
  · exact .inl ⟨congrArg _ run, clean⟩
  · exact .inr ⟨congrArg _ run, unclean⟩

/-- Each hop delivers exactly the message that was published or throws while
parsing, and it delivers exactly the messages whose text is clean. -/
theorem hops_deliver_exactly :
    (∀ (callback : E → S → Task → S) (env : E) (state : S) (task : Task) (order : List (Bytes × Bytes)),
      Iterates order task.metadata →
        ∃ run, taskHop callback env state order task = .ok run ∧
          (run = .delivered task (callback env state task) ∨
            run = .threw "WorkerTaskQueue: 解析消息失败") ∧
          (run.handled ≠ [] ↔ task.Transparent)) ∧
      ∀ (callback : E → S → TaskResult → S) (env : E) (state : S) (result : TaskResult),
        ∃ run, resultHop callback env state result = .ok run ∧
          (run = .delivered result (callback env state result) ∨
            run = .threw "SchedulerResultQueue: 解析消息失败") ∧
          (run.handled ≠ [] ↔ result.Transparent) := by
  constructor
  · intro callback env state task order iterates
    rcases taskHop_cases iterates callback env state with ⟨run, clean⟩ | ⟨run, unclean⟩
    · exact ⟨_, run, .inl rfl, by simp [Consumption.delivered, clean]⟩
    · exact ⟨_, run, .inr rfl, by simp [Consumption.threw, unclean]⟩
  · intro callback env state result
    rcases resultHop_cases result callback env state with ⟨run, clean⟩ | ⟨run, unclean⟩
    · exact ⟨_, run, .inl rfl, by simp [Consumption.delivered, clean]⟩
    · exact ⟨_, run, .inr rfl, by simp [Consumption.threw, unclean]⟩

/-- A task with one metadata entry takes the hop. -/
theorem hops_deliver_tagged_task :
    let task : Task := { taskId := [116, 49], metadata := Finmap.insert [97] [49] ∅ }
    Iterates [([97], [49])] task.metadata ∧
      ∃ run, taskHop (fun _ _ _ => ()) () () [([97], [49])] task = .ok run ∧
        (run = .delivered task () ∨ run = .threw "WorkerTaskQueue: 解析消息失败") ∧
        (run.handled ≠ [] ↔ task.Transparent) := by
  have iterates : Iterates [([97], [49])] (Finmap.insert [97] [49] ∅) := ⟨by decide, by decide⟩
  exact ⟨iterates, hops_deliver_exactly.1 (fun _ _ _ => ()) () () _ _ iterates⟩

end Hops

end TaskHive.MessageQueue
