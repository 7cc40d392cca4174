import TaskHive.Custody
import TaskHive.Pipeline.Transition

namespace TaskHive.Pipeline

open TaskHive.Wire

variable {C S W ν : Type}
variable {workerId : W → Bytes} {toolbox : ν → Worker.Execution}

/-! # Whose task it is

Everything in the pipeline comes from a submission.  A task on its way keeps
all fields but its status and times, and a result is what the job makes of
such a task. -/

structure SameWork (task held : Task) : Prop where
  taskId : held.taskId = task.taskId
  type : held.type = task.type
  content : held.content = task.content
  workerId : held.workerId = task.workerId
  metadata : held.metadata = task.metadata

theorem SameWork.refl (task : Task) : SameWork task task := ⟨rfl, rfl, rfl, rfl, rfl⟩

/-- The result of one execution of the task, by some worker of the pipeline. -/
def ResultOf (workerId : W → Bytes) (toolbox : ν → Worker.Execution) (task : Task) (result : TaskResult) :
    Prop :=
  ∃ worker nonce order held, SameWork task held ∧ Iterates order task.metadata ∧
    result = Worker.execTask (workerId worker) (toolbox nonce) order held

theorem ResultOf.taskId {task : Task} {result : TaskResult} (made : ResultOf workerId toolbox task result) :
    result.taskId = task.taskId := by
  obtain ⟨worker, nonce, order, held, same, _, rfl⟩ := made
  rw [Worker.execTask_taskId, same.taskId]

section Origins

variable (workerId toolbox) (submitted : List (C × Task))

def Known (client : C) (id : Bytes) : Prop := ∃ task, (client, task) ∈ submitted ∧ task.taskId = id

def IsWork (held : Task) : Prop := ∃ client task, (client, task) ∈ submitted ∧ SameWork task held

def IsOutcome (result : TaskResult) : Prop :=
  ∃ client task, (client, task) ∈ submitted ∧ ResultOf workerId toolbox task result

/-- An entry of a client's table: the outcome of a task of that client, under
the id of the task. -/
def IsAnswer (client : C) (entry : Bytes × TaskResult) : Prop :=
  ∃ task, (client, task) ∈ submitted ∧ task.taskId = entry.1 ∧ ResultOf workerId toolbox task entry.2

end Origins

section Origin

variable {submitted : List (C × Task)}

theorem IsWork.of_sameWork {held next : Task} (work : IsWork submitted held) (same : SameWork held next) :
    IsWork submitted next := by
  obtain ⟨client, task, member, origin⟩ := work
  exact ⟨client, task, member, same.taskId.trans origin.taskId, same.type.trans origin.type,
    same.content.trans origin.content, same.workerId.trans origin.workerId,
    same.metadata.trans origin.metadata⟩

theorem IsWork.execTask {held : Task} (work : IsWork submitted held) (worker : W) (nonce : ν)
    {order : List (Bytes × Bytes)} (iterates : Iterates order held.metadata) :
    IsOutcome workerId toolbox submitted
      (Worker.execTask (workerId worker) (toolbox nonce) order held) := by
  obtain ⟨client, task, member, same⟩ := work
  exact ⟨client, task, member, worker, nonce, order, held, same, same.metadata ▸ iterates, rfl⟩

theorem entry_unique {left right : C × Task} (distinct : (submitted.map fun entry => entry.2.taskId).Nodup)
    (first : left ∈ submitted) (second : right ∈ submitted) (same : left.2.taskId = right.2.taskId) :
    left = right :=
  List.inj_on_of_nodup_map distinct first second same

/-- The outcome that Redis keeps under an id of the client is that of the
client's own task. -/
theorem IsOutcome.answers {client : C} {id : Bytes} {result : TaskResult}
    (outcome : IsOutcome workerId toolbox submitted result) (named : id = result.taskId)
    (distinct : (submitted.map fun entry => entry.2.taskId).Nodup) (known : Known submitted client id) :
    IsAnswer workerId toolbox submitted client (id, result) := by
  obtain ⟨owner, task, member, made⟩ := outcome
  obtain ⟨own, ownMember, ownId⟩ := known
  have sameId : own.taskId = task.taskId := by rw [ownId, named, made.taskId]
  have same := entry_unique distinct ownMember member sameId
  cases same
  exact ⟨task, ownMember, ownId, made⟩

end Origin

theorem ResultTable.mem_of_lookup {table : ResultTable} {id : Bytes} {result : TaskResult}
    (found : table.lookup id = some result) : (id, result) ∈ table := by
  obtain ⟨before, after, rfl, _⟩ := List.lookup_eq_some_iff.mp found
  exact List.mem_append_right _ List.mem_cons_self

theorem ResultTable.mem_of_mem_erase {table : ResultTable} {id : Bytes} {entry : Bytes × TaskResult}
    (member : entry ∈ table.erase id) : entry ∈ table :=
  (List.mem_filter.mp member).1

theorem ResultTable.mem_insert {table : ResultTable} {id : Bytes} {result : TaskResult}
    {entry : Bytes × TaskResult} (member : entry ∈ table.insert id result) :
    entry ∈ table ∨ entry = (id, result) := by
  rcases List.mem_append.mp member with old | new
  · exact .inl (mem_of_mem_erase old)
  · exact .inr (List.mem_singleton.mp new)

theorem IsAnswer.named {submitted : List (C × Task)} {client : C} {entry : Bytes × TaskResult}
    (answer : IsAnswer workerId toolbox submitted client entry) : entry.1 = entry.2.taskId := by
  obtain ⟨task, _, named, made⟩ := answer
  rw [← named, made.taskId]

structure Attributed (workerId : W → Bytes) (toolbox : ν → Worker.Execution) (state : State C S W) :
    Prop where
  distinct : state.ids.Nodup
  queued : Everywhere (fun client task => (client, task) ∈ state.submitted) state.submitUndistributionTask
  recorded : Everywhere (Known state.submitted) fun client => (state.recording client).toList
  distributed : Everywhere (Known state.submitted) state.distributionTaskid
  queried : Everywhere (Known state.submitted) fun client => (state.polling client).remaining
  sent : Everywhere (fun _ => IsWork state.submitted) state.connections
  scheduled : Everywhere (fun _ => IsWork state.submitted) state.schedulerPending
  published : ∀ task ∈ state.taskQueue, IsWork state.submitted task
  cached : Everywhere (fun _ => IsWork state.submitted) state.workerPending
  pooled : Everywhere (fun _ => IsWork state.submitted) state.threadPool
  finished : Everywhere (fun _ => IsOutcome workerId toolbox state.submitted) state.taskResultQueue
  reported : ∀ result ∈ state.resultQueue, IsOutcome workerId toolbox state.submitted result
  stored : ∀ entry ∈ state.redis, entry.1 = entry.2.taskId ∧
    IsOutcome workerId toolbox state.submitted entry.2
  fetched : Everywhere (IsAnswer workerId toolbox state.submitted) state.taskresult
  returned : Everywhere (IsAnswer workerId toolbox state.submitted) state.returned

theorem attributed_init : Attributed workerId toolbox ({} : State C S W) := by
  refine ⟨List.nodup_nil, ?_, ?_, ?_, ?_, ?_, ?_, ?_, ?_, ?_, ?_, ?_, ?_, ?_, ?_⟩ <;>
    simp [Everywhere, PollPc.remaining]

variable [DecidableEq C] [DecidableEq S] [DecidableEq W]

omit [DecidableEq S] [DecidableEq W] in
/-- New submissions keep the origin of everything that is already there. -/
theorem Attributed.submit {state : State C S W} (attributed : Attributed workerId toolbox state)
    (client : C) (tasks : List Task) (fresh : Fresh state tasks) :
    Attributed workerId toolbox { state with
      submitUndistributionTask := Function.update state.submitUndistributionTask client
        (state.submitUndistributionTask client ++ tasks)
      submitted := state.submitted ++ tasks.map fun task => (client, task) } := by
  have more {entry : C × Task} (member : entry ∈ state.submitted) :
      entry ∈ state.submitted ++ tasks.map fun task => (client, task) := List.mem_append_left _ member
  have known (owner : C) (id : Bytes) : Known state.submitted owner id → Known _ owner id :=
    fun ⟨task, member, named⟩ => ⟨task, more member, named⟩
  have work (held : Task) : IsWork state.submitted held → IsWork _ held :=
    fun ⟨owner, task, member, same⟩ => ⟨owner, task, more member, same⟩
  have outcome (result : TaskResult) :
      IsOutcome workerId toolbox state.submitted result → IsOutcome workerId toolbox _ result :=
    fun ⟨owner, task, member, made⟩ => ⟨owner, task, more member, made⟩
  have answer (owner : C) (entry : Bytes × TaskResult) :
      IsAnswer workerId toolbox state.submitted owner entry → IsAnswer workerId toolbox _ owner entry :=
    fun ⟨task, member, named, made⟩ => ⟨task, more member, named, made⟩
  refine
    { distinct := ?_
      queued := ?_
      recorded := attributed.recorded.mono known
      distributed := attributed.distributed.mono known
      queried := attributed.queried.mono known
      sent := attributed.sent.mono fun _ => work
      scheduled := attributed.scheduled.mono fun _ => work
      published := fun task member => work task (attributed.published task member)
      cached := attributed.cached.mono fun _ => work
      pooled := attributed.pooled.mono fun _ => work
      finished := attributed.finished.mono fun _ => outcome
      reported := fun result member => outcome result (attributed.reported result member)
      stored := fun entry member =>
        ⟨(attributed.stored entry member).1, outcome entry.2 (attributed.stored entry member).2⟩
      fetched := attributed.fetched.mono answer
      returned := attributed.returned.mono answer }
  · have ids : (state.submitted ++ tasks.map fun task => (client, task)).map (fun entry => entry.2.taskId) =
        state.ids ++ tasks.map Task.taskId := by
      rw [List.map_append, List.map_map]
      rfl
    change List.Nodup (List.map _ _)
    rw [ids]
    refine List.nodup_append.mpr ⟨attributed.distinct, fresh.1, ?_⟩
    intro old oldMember new newMember same
    obtain ⟨task, member, rfl⟩ := List.mem_map.mp newMember
    exact fresh.2 task member (same ▸ oldMember)
  · refine (attributed.queued.mono fun _ _ => more).update client ?_
    intro task member
    rcases List.mem_append.mp member with old | new
    · exact more (attributed.queued client task old)
    · exact List.mem_append_right _ (List.mem_map.mpr ⟨task, new, rfl⟩)

theorem Transition.attributed {before after : State C S W} (moved : Transition workerId toolbox before after)
    (attributed : Attributed workerId toolbox before) : Attributed workerId toolbox after := by
  cases moved with
  | submit client tasks fresh => exact attributed.submit client tasks fresh
  | send client scheduler task rest queue =>
      have own : (client, task) ∈ before.submitted := attributed.queued client task (by simp [queue])
      refine { attributed with queued := ?_, recorded := ?_, sent := ?_ }
      · exact attributed.queued.shrink client (by simp [queue])
      · refine attributed.recorded.updateView client ?_
        intro id member
        rw [Option.toList_some, List.mem_singleton] at member
        exact ⟨task, own, member.symm⟩
      · exact attributed.sent.push scheduler ⟨client, task, own, .refl task⟩
  | record client id sent =>
      refine { attributed with recorded := ?_, distributed := ?_ }
      · exact attributed.recorded.updateView client nofun
      · exact attributed.distributed.push client (attributed.recorded client id (by simp [sent]))
  | receive scheduler index now task found =>
      have work := attributed.sent scheduler task (List.mem_of_getElem? found)
      refine { attributed with sent := ?_, scheduled := ?_ }
      · exact attributed.sent.shrink scheduler (List.eraseIdx_subset)
      · exact attributed.scheduled.push scheduler (work.of_sameWork ⟨rfl, rfl, rfl, rfl, rfl⟩)
  | publish scheduler now task rest queue =>
      have work := attributed.scheduled scheduler task (by simp [queue])
      refine { attributed with scheduled := ?_, published := ?_ }
      · exact attributed.scheduled.shrink scheduler (by simp [queue])
      · exact forall_mem_concat attributed.published (work.of_sameWork ⟨rfl, rfl, rfl, rfl, rfl⟩)
  | receiveTask worker index now task found =>
      have work := attributed.published task (List.mem_of_getElem? found)
      refine { attributed with published := ?_, cached := ?_ }
      · exact fun other member => attributed.published other (List.mem_of_mem_eraseIdx member)
      · exact attributed.cached.push worker (work.of_sameWork ⟨rfl, rfl, rfl, rfl, rfl⟩)
  | dispatch worker task rest queue =>
      have work := attributed.cached worker task (by simp [queue])
      refine { attributed with cached := ?_, pooled := ?_ }
      · exact attributed.cached.shrink worker (by simp [queue])
      · exact attributed.pooled.push worker work
  | execute worker index nonce order task found iterates =>
      have work := attributed.pooled worker task (List.mem_of_getElem? found)
      refine { attributed with pooled := ?_, finished := ?_ }
      · exact attributed.pooled.shrink worker (List.eraseIdx_subset)
      · exact attributed.finished.push worker (work.execTask worker nonce iterates)
  | report worker result rest queue =>
      have outcome := attributed.finished worker result (by simp [queue])
      refine { attributed with finished := ?_, reported := ?_ }
      · exact attributed.finished.shrink worker (by simp [queue])
      · exact forall_mem_concat attributed.reported outcome
  | store index result found =>
      have outcome := attributed.reported result (List.mem_of_getElem? found)
      refine { attributed with reported := ?_, stored := ?_ }
      · exact fun other member => attributed.reported other (List.mem_of_mem_eraseIdx member)
      · intro entry member
        rcases ResultTable.mem_insert member with old | rfl
        · exact attributed.stored entry old
        · exact ⟨rfl, outcome⟩
  | pollHit client id rest completed result querying found =>
      obtain ⟨named, outcome⟩ := attributed.stored (id, result) (ResultTable.mem_of_lookup found)
      have known := attributed.queried client id (by simp [querying, PollPc.remaining])
      refine { attributed with queried := ?_, stored := ?_, fetched := ?_ }
      · refine attributed.queried.updateView client ?_
        intro name member
        refine attributed.queried client name ?_
        simp only [querying]
        exact List.mem_cons_of_mem id member
      · exact fun entry member => attributed.stored entry (ResultTable.mem_of_mem_erase member)
      · refine attributed.fetched.update client ?_
        intro entry member
        rcases ResultTable.mem_insert member with old | rfl
        · exact attributed.fetched client entry old
        · exact outcome.answers named attributed.distinct known
  | pollMove client next fewer =>
      refine { attributed with queried := attributed.queried.updateView client ?_ }
      intro name member
      rcases List.mem_append.mp (fewer member) with pending | left
      · exact attributed.distributed client name pending
      · exact attributed.queried client name left
  | pollRemove client kept fewer =>
      exact { attributed with
        distributed := attributed.distributed.shrink client fewer
        queried := attributed.queried.updateView client nofun }
  | take client id result found =>
      have answer := attributed.fetched client (id, result) (ResultTable.mem_of_lookup found)
      refine { attributed with fetched := ?_, returned := ?_ }
      · exact attributed.fetched.shrink client fun entry member => ResultTable.mem_of_mem_erase member
      · exact attributed.returned.push client answer
  | takeNothing => exact attributed

end TaskHive.Pipeline
