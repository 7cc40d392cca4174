import TaskHive.Pipeline.Attribution

namespace TaskHive.Pipeline

open TaskHive.Wire

variable {C S W ν : Type}
variable {workerId : W → Bytes} {toolbox : ν → Worker.Execution}

/-! # Who holds a task -/

inductive Place (C S W : Type) where
  | clientQueue (client : C)
  | connection (scheduler : S)
  | schedulerPending (scheduler : S)
  | taskQueue
  | workerPending (worker : W)
  | threadPool (worker : W)
  | taskResultQueue (worker : W)
  | resultQueue
  | redis
  | taskresult (client : C)
  | returned (client : C)

/-- The stages inside a client belong to it. -/
def Place.Of (owner : C) : Place C S W → Prop
  | .clientQueue client | .taskresult client | .returned client => client = owner
  | _ => True

inductive Item where
  | task (task : Task)
  | result (result : TaskResult)

def Item.taskId : Item → Bytes
  | .task held => held.taskId
  | .result made => made.taskId

@[simp] theorem Item.taskId_task (held : Task) : (Item.task held).taskId = held.taskId := rfl

@[simp] theorem Item.taskId_result (made : TaskResult) : (Item.result made).taskId = made.taskId := rfl

@[simp] theorem Item.taskId_comp_task : Item.taskId ∘ Item.task = Task.taskId := rfl

@[simp] theorem Item.taskId_comp_result : Item.taskId ∘ Item.result = TaskResult.taskId := rfl

@[simp] theorem Item.taskId_comp_entry :
    (Item.taskId ∘ fun entry : Bytes × TaskResult => Item.result entry.2) =
      fun entry => entry.2.taskId := rfl

/-- The item is the task on its way, or a result of it. -/
def Item.Carries (workerId : W → Bytes) (toolbox : ν → Worker.Execution) (task : Task) : Item → Prop
  | .task held => SameWork task held
  | .result made => ResultOf workerId toolbox task made

def State.items (state : State C S W) : Place C S W → List Item
  | .clientQueue client => (state.submitUndistributionTask client).map .task
  | .connection scheduler => (state.connections scheduler).map .task
  | .schedulerPending scheduler => (state.schedulerPending scheduler).map .task
  | .taskQueue => state.taskQueue.map .task
  | .workerPending worker => (state.workerPending worker).map .task
  | .threadPool worker => (state.threadPool worker).map .task
  | .taskResultQueue worker => (state.taskResultQueue worker).map .result
  | .resultQueue => state.resultQueue.map .result
  | .redis => state.redis.map fun entry => .result entry.2
  | .taskresult client => (state.taskresult client).map fun entry => .result entry.2
  | .returned client => (state.returned client).map fun entry => .result entry.2

def State.holds (state : State C S W) (place : Place C S W) : List Bytes :=
  (state.items place).map Item.taskId

theorem State.holds_redis (state : State C S W) :
    state.holds .redis = state.redis.map fun entry => entry.2.taskId :=
  List.map_map ..

theorem State.holds_taskresult (state : State C S W) (client : C) :
    state.holds (.taskresult client) = (state.taskresult client).map fun entry => entry.2.taskId :=
  List.map_map ..

/-- What a stage holds came from a submission, of the stage's own client where
the stage is inside one. -/
theorem Attributed.origin {state : State C S W} (attributed : Attributed workerId toolbox state)
    (place : Place C S W) {item : Item} (member : item ∈ state.items place) :
    ∃ client task, (client, task) ∈ state.submitted ∧ place.Of client ∧
      item.Carries workerId toolbox task := by
  cases place with
  | clientQueue client =>
      obtain ⟨task, queued, rfl⟩ := List.mem_map.mp member
      exact ⟨client, task, attributed.queued client task queued, rfl, SameWork.refl task⟩
  | connection scheduler =>
      obtain ⟨held, sent, rfl⟩ := List.mem_map.mp member
      obtain ⟨client, task, submitted, same⟩ := attributed.sent scheduler held sent
      exact ⟨client, task, submitted, trivial, same⟩
  | schedulerPending scheduler =>
      obtain ⟨held, scheduled, rfl⟩ := List.mem_map.mp member
      obtain ⟨client, task, submitted, same⟩ := attributed.scheduled scheduler held scheduled
      exact ⟨client, task, submitted, trivial, same⟩
  | taskQueue =>
      obtain ⟨held, published, rfl⟩ := List.mem_map.mp member
      obtain ⟨client, task, submitted, same⟩ := attributed.published held published
      exact ⟨client, task, submitted, trivial, same⟩
  | workerPending worker =>
      obtain ⟨held, cached, rfl⟩ := List.mem_map.mp member
      obtain ⟨client, task, submitted, same⟩ := attributed.cached worker held cached
      exact ⟨client, task, submitted, trivial, same⟩
  | threadPool worker =>
      obtain ⟨held, pooled, rfl⟩ := List.mem_map.mp member
      obtain ⟨client, task, submitted, same⟩ := attributed.pooled worker held pooled
      exact ⟨client, task, submitted, trivial, same⟩
  | taskResultQueue worker =>
      obtain ⟨result, finished, rfl⟩ := List.mem_map.mp member
      obtain ⟨client, task, submitted, made⟩ := attributed.finished worker result finished
      exact ⟨client, task, submitted, trivial, made⟩
  | resultQueue =>
      obtain ⟨result, reported, rfl⟩ := List.mem_map.mp member
      obtain ⟨client, task, submitted, made⟩ := attributed.reported result reported
      exact ⟨client, task, submitted, trivial, made⟩
  | redis =>
      obtain ⟨entry, stored, rfl⟩ := List.mem_map.mp member
      obtain ⟨_, client, task, submitted, made⟩ := attributed.stored entry stored
      exact ⟨client, task, submitted, trivial, made⟩
  | taskresult client =>
      obtain ⟨entry, fetched, rfl⟩ := List.mem_map.mp member
      obtain ⟨task, submitted, _, made⟩ := attributed.fetched client entry fetched
      exact ⟨client, task, submitted, rfl, made⟩
  | returned client =>
      obtain ⟨entry, returned, rfl⟩ := List.mem_map.mp member
      obtain ⟨task, submitted, _, made⟩ := attributed.returned client entry returned
      exact ⟨client, task, submitted, rfl, made⟩

theorem Item.Carries.taskId {task : Task} {item : Item} (carries : item.Carries workerId toolbox task) :
    item.taskId = task.taskId := by
  cases item with
  | task held => exact SameWork.taskId carries
  | result result => exact ResultOf.taskId carries

/-! ## Result tables

A table names each result by its task id, so its keys are the ids it holds. -/

theorem ResultTable.ids_eq_keys {table : ResultTable} (named : ∀ entry ∈ table, entry.1 = entry.2.taskId) :
    table.map (fun entry => entry.2.taskId) = table.map Prod.fst :=
  List.map_congr_left fun entry member => (named entry member).symm

theorem ResultTable.ids_erase {table : ResultTable} (named : ∀ entry ∈ table, entry.1 = entry.2.taskId)
    (id : Bytes) :
    (table.erase id).map (fun entry => entry.2.taskId) =
      (table.map fun entry => entry.2.taskId).filter fun key => key ≠ id := by
  rw [ids_eq_keys fun entry member => named entry (mem_of_mem_erase member), ids_eq_keys named,
    List.filter_map]
  rfl

theorem ResultTable.erase_of_notMem {table : ResultTable} {id : Bytes}
    (absent : id ∉ table.map Prod.fst) : table.erase id = table := by
  refine List.filter_eq_self.mpr ?_
  intro entry member
  simp only [decide_eq_true_eq]
  exact fun same => absent (List.mem_map.mpr ⟨entry, member, same⟩)

/-! ## One step

Every step issues the submitted ids, moves one id, or moves none. -/

structure Owned (workerId : W → Bytes) (toolbox : ν → Worker.Execution) (state : State C S W) : Prop where
  attributed : Attributed workerId toolbox state
  custody : Custody state.holds (· ∈ state.ids)

theorem owned_init : Owned workerId toolbox ({} : State C S W) where
  attributed := attributed_init
  custody := Custody.empty (fun place => by cases place <;> rfl) (by simp [State.ids])

theorem ids_perm_eraseIdx {α : Type} (name : α → Bytes) {queue : List α} {index : Nat} {item : α}
    (found : queue[index]? = some item) :
    (queue.map name).Perm (name item :: (queue.eraseIdx index).map name) := by
  obtain ⟨inside, rfl⟩ := List.getElem?_eq_some_iff.mp found
  exact (List.getElem_cons_eraseIdx_perm inside).symm.map name

theorem ResultTable.ids_perm_insert {table : ResultTable} {id : Bytes} {result : TaskResult}
    (named : ∀ entry ∈ table, entry.1 = entry.2.taskId) (same : result.taskId = id)
    (absent : id ∉ table.map fun entry => entry.2.taskId) :
    ((table.insert id result).map fun entry => entry.2.taskId).Perm
      (id :: table.map fun entry => entry.2.taskId) := by
  rw [ids_eq_keys named] at absent
  rw [ResultTable.insert, erase_of_notMem absent, List.map_append, List.map_singleton, same]
  exact List.perm_append_singleton id _

section Step

variable [DecidableEq C] [DecidableEq S] [DecidableEq W]

theorem Transition.custody {before after : State C S W} (moved : Transition workerId toolbox before after)
    (owned : Owned workerId toolbox before) : Custody after.holds (· ∈ after.ids) := by
  have custody := owned.custody
  cases moved with
  | submit client tasks fresh =>
      refine (custody.issueAll (tasks.map Task.taskId) (.clientQueue client) fresh.1 ?_ ?_ ?_).congr ?_
      · intro id member
        obtain ⟨task, submitted, rfl⟩ := List.mem_map.mp member
        exact fresh.2 task submitted
      · simp [State.holds, State.items]
      · intro place other
        cases place with
        | clientQueue owner =>
            simp [State.holds, State.items, update_apart other]
        | _ => exact .refl _
      · intro id
        simp only [State.ids, List.map_append, List.map_map, List.mem_append]
        exact or_comm
  | send client scheduler task rest queue =>
      refine custody.move task.taskId (.clientQueue client) (.connection scheduler) (by simp) ?_ ?_ ?_
      · simp [State.holds, State.items, queue]
      · simp [State.holds, State.items]
      · intro place notSource notTarget
        cases place with
        | clientQueue owner =>
            simp [State.holds, State.items, update_apart notSource]
        | connection other =>
            simp [State.holds, State.items, update_apart notTarget]
        | _ => exact .refl _
  | receive scheduler index now task found =>
      refine custody.move task.taskId (.connection scheduler) (.schedulerPending scheduler) (by simp) ?_ ?_ ?_
      · simpa [State.holds, State.items] using ids_perm_eraseIdx Task.taskId found
      · simp [State.holds, State.items, Scheduler.stamp]
      · intro place notSource notTarget
        cases place with
        | connection other =>
            simp [State.holds, State.items, update_apart notSource]
        | schedulerPending other =>
            simp [State.holds, State.items, update_apart notTarget]
        | _ => exact .refl _
  | publish scheduler now task rest queue =>
      refine custody.move task.taskId (.schedulerPending scheduler) .taskQueue (by simp) ?_ ?_ ?_
      · simp [State.holds, State.items, queue]
      · simp [State.holds, State.items]
      · intro place notSource notTarget
        cases place with
        | schedulerPending other =>
            simp [State.holds, State.items, update_apart notSource]
        | taskQueue => exact absurd rfl notTarget
        | _ => exact .refl _
  | receiveTask worker index now task found =>
      refine custody.move task.taskId .taskQueue (.workerPending worker) (by simp) ?_ ?_ ?_
      · simpa [State.holds, State.items] using ids_perm_eraseIdx Task.taskId found
      · simp [State.holds, State.items, Worker.stampArrival]
      · intro place notSource notTarget
        cases place with
        | taskQueue => exact absurd rfl notSource
        | workerPending other =>
            simp [State.holds, State.items, update_apart notTarget]
        | _ => exact .refl _
  | dispatch worker task rest queue =>
      refine custody.move task.taskId (.workerPending worker) (.threadPool worker) (by simp) ?_ ?_ ?_
      · simp [State.holds, State.items, queue]
      · simp [State.holds, State.items]
      · intro place notSource notTarget
        cases place with
        | workerPending other =>
            simp [State.holds, State.items, update_apart notSource]
        | threadPool other =>
            simp [State.holds, State.items, update_apart notTarget]
        | _ => exact .refl _
  | execute worker index nonce order task found iterates =>
      refine custody.move task.taskId (.threadPool worker) (.taskResultQueue worker) (by simp) ?_ ?_ ?_
      · simpa [State.holds, State.items] using ids_perm_eraseIdx Task.taskId found
      · simp [State.holds, State.items]
      · intro place notSource notTarget
        cases place with
        | threadPool other =>
            simp [State.holds, State.items, update_apart notSource]
        | taskResultQueue other =>
            simp [State.holds, State.items, update_apart notTarget]
        | _ => exact .refl _
  | report worker result rest queue =>
      refine custody.move result.taskId (.taskResultQueue worker) .resultQueue (by simp) ?_ ?_ ?_
      · simp [State.holds, State.items, queue]
      · simp [State.holds, State.items]
      · intro place notSource notTarget
        cases place with
        | taskResultQueue other =>
            simp [State.holds, State.items, update_apart notSource]
        | resultQueue => exact absurd rfl notTarget
        | _ => exact .refl _
  | store index result found =>
      have removed := ids_perm_eraseIdx TaskResult.taskId found
      have named := fun entry member => (owned.attributed.stored entry member).1
      -- the id is at the result queue, so Redis has no entry that could be overwritten
      have home : HeldOnce before.holds result.taskId .resultQueue :=
        custody.heldOnce_of_mem .resultQueue
          (List.mem_map.mpr ⟨.result result, List.mem_map.mpr ⟨result, List.mem_of_getElem? found, rfl⟩, rfl⟩)
      have absent : result.taskId ∉ before.redis.map fun entry => entry.2.taskId := by
        rw [← before.holds_redis]
        exact home.2 .redis (by simp)
      refine custody.move result.taskId .resultQueue .redis (by simp) ?_ ?_ ?_
      · simpa [State.holds, State.items] using removed
      · simpa [State.holds, State.items] using ResultTable.ids_perm_insert named rfl absent
      · intro place notSource notTarget
        cases place with
        | resultQueue => exact absurd rfl notSource
        | redis => exact absurd rfl notTarget
        | _ => exact .refl _
  | pollHit client id rest completed result querying found =>
      have member := ResultTable.mem_of_lookup found
      have named := fun entry member => (owned.attributed.stored entry member).1
      have same : result.taskId = id := (named _ member).symm
      have home : HeldOnce before.holds id .redis :=
        custody.heldOnce_of_mem .redis
          (List.mem_map.mpr ⟨.result result, List.mem_map.mpr ⟨(id, result), member, rfl⟩, same⟩)
      have absent : id ∉ (before.taskresult client).map fun entry => entry.2.taskId := by
        rw [← before.holds_taskresult]
        exact home.2 (.taskresult client) (by simp)
      refine custody.move id .redis (.taskresult client) (by simp) ?_ ?_ ?_
      · simpa [State.holds, State.items, ResultTable.ids_erase named] using home.perm_filter
      · simpa [State.holds, State.items] using
          ResultTable.ids_perm_insert (fun entry member => (owned.attributed.fetched client entry member).named)
            same absent
      · intro place notSource notTarget
        cases place with
        | redis => exact absurd rfl notSource
        | taskresult owner =>
            simp [State.holds, State.items, update_apart notTarget]
        | _ => exact .refl _
  | take client id result found =>
      have member := ResultTable.mem_of_lookup found
      have named := fun entry member => (owned.attributed.fetched client entry member).named
      have same : result.taskId = id := (named _ member).symm
      have home : HeldOnce before.holds id (.taskresult client) :=
        custody.heldOnce_of_mem (.taskresult client)
          (List.mem_map.mpr ⟨.result result, List.mem_map.mpr ⟨(id, result), member, rfl⟩, same⟩)
      refine custody.move id (.taskresult client) (.returned client) (by simp) ?_ ?_ ?_
      · simpa [State.holds, State.items, ResultTable.ids_erase named] using home.perm_filter
      · simp [State.holds, State.items, same]
      · intro place notSource notTarget
        cases place with
        | taskresult owner =>
            simp [State.holds, State.items, update_apart notSource]
        | returned owner =>
            simp [State.holds, State.items, update_apart notTarget]
        | _ => exact .refl _
  | record | pollMove | pollRemove | takeNothing =>
      exact custody.rearrange fun place => by cases place <;> exact .refl _

theorem Transition.owned {before after : State C S W} (moved : Transition workerId toolbox before after)
    (owned : Owned workerId toolbox before) : Owned workerId toolbox after :=
  ⟨moved.attributed owned.attributed, moved.custody owned⟩

theorem owned_of_reachable {state : State C S W}
    (reached : (pipeline workerId toolbox).ReachableBy DistinctIds state) :
    Owned workerId toolbox state :=
  reached.invariant owned_init fun _ _ _ owned permitted stepped =>
    (transition_of_step permitted stepped).owned owned

end Step

/-! ## Ownership and attribution -/

/-- An item that bears the id of a submission is that task or its result, and a
stage inside a client has only what this client submitted. -/
theorem Attributed.carries {state : State C S W} (attributed : Attributed workerId toolbox state)
    {client : C} {task : Task} (submitted : (client, task) ∈ state.submitted) {place : Place C S W}
    {item : Item} (member : item ∈ state.items place) (named : item.taskId = task.taskId) :
    place.Of client ∧ item.Carries workerId toolbox task := by
  obtain ⟨owner, origin, known, inside, carries⟩ := attributed.origin place member
  have sameId : task.taskId = origin.taskId := by rw [← named, carries.taskId]
  cases entry_unique attributed.distinct submitted known sameId
  exact ⟨inside, carries⟩

structure OwnsAndAttributes (workerId : W → Bytes) (toolbox : ν → Worker.Execution) (state : State C S W) :
    Prop where
  holder : ∀ client task, (client, task) ∈ state.submitted → ∃ place,
    HeldOnce state.holds task.taskId place ∧ place.Of client ∧
      ∀ item ∈ state.items place, item.taskId = task.taskId → item.Carries workerId toolbox task
  origin : ∀ place, ∀ item ∈ state.items place, ∃ client task,
    (client, task) ∈ state.submitted ∧ place.Of client ∧ item.Carries workerId toolbox task
  answers : ∀ client, ∀ entry ∈ state.taskresult client ++ state.returned client, ∃ task,
    (client, task) ∈ state.submitted ∧ task.taskId = entry.1 ∧ ResultOf workerId toolbox task entry.2

section Runs

variable [DecidableEq C] [DecidableEq S] [DecidableEq W]

/-- In every interleaving of any clients, schedulers and workers, as long as the
submitted ids are distinct, exactly one stage holds each submitted task or its
result, and a client gets under an id the outcome of its own task. -/
theorem pipeline_owns_and_attributes (workerId : W → Bytes) (toolbox : ν → Worker.Execution)
    (state : State C S W) (reached : (pipeline workerId toolbox).ReachableBy DistinctIds state) :
    OwnsAndAttributes workerId toolbox state := by
  obtain ⟨attributed, custody⟩ := owned_of_reachable reached
  refine ⟨?_, ?_, ?_⟩
  · intro client task submitted
    obtain ⟨place, held⟩ := custody.held task.taskId (List.mem_map.mpr ⟨_, submitted, rfl⟩)
    obtain ⟨item, member, named⟩ := List.mem_map.mp held.mem
    refine ⟨place, held, (attributed.carries submitted member named).1, ?_⟩
    intro other otherMember otherNamed
    exact (attributed.carries submitted otherMember otherNamed).2
  · intro place item member
    exact attributed.origin place member
  · intro client entry member
    rcases List.mem_append.mp member with fetched | returned
    · exact attributed.fetched client entry fetched
    · exact attributed.returned client entry returned

end Runs

/-- Commands print their own command line. -/
def printing (_ : Unit) : Worker.Execution where
  now := 9
  execCmd line := .ok line
  execFunc _ _ := .error []

def printTask (id : UInt8) : Task := { taskId := [id], type := .command, content := [id, id] }

/-- Two clients share a scheduler and a worker: the task of one client has come
back while that of the other is in the thread pool. -/
theorem pipeline_owns_two_tasks :
    ∃ state : State Bool Unit Unit,
      (pipeline (fun _ => [119]) printing).ReachableBy DistinctIds state ∧
      (state.returned true).map (fun entry => (entry.1, entry.2.output)) = [([1], [1, 1])] ∧
      state.threadPool () = [{ printTask 2 with startSchedTime := 3, endSchedTime := 5, startWorkerTime := 7 }] ∧
      OwnsAndAttributes (fun _ => [119]) printing state := by
  obtain ⟨state, reached, returned, pooled⟩ :=
    (pipeline (fun _ => [119]) printing).reachableBy_of_any DistinctIds
      (fun state : State Bool Unit Unit =>
        (state.returned true).map (fun entry => (entry.1, entry.2.output)) = [([1], [1, 1])] ∧
        state.threadPool () =
          [{ printTask 2 with startSchedTime := 3, endSchedTime := 5, startWorkerTime := 7 }])
      [.submitOneTask true (printTask 1), .submitMoreTask false [printTask 2], .send false (),
        .send true (), .receive () 1 2, .receive () 0 3, .publish () 4, .publish () 5,
        .receiveTask () 1 7, .receiveTask () 0 6, .dispatch (), .dispatch (), .execute () 1 () [],
        .report (), .store 0, .record true, .pollBegin true, .pollOne true, .pollEnd true,
        .pollRemove true, .getTaskResultAndDelete true [1]] (by decide)
  exact ⟨state, reached, returned, pooled, pipeline_owns_and_attributes _ _ state reached⟩

end TaskHive.Pipeline
