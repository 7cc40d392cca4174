import TaskHive.Pipeline.Journey

namespace TaskHive.Pipeline

open TaskHive.Wire

variable {C S W ν : Type}
variable {workerId : W → Bytes} {toolbox : ν → Worker.Execution}

/-! # Every result comes back

A task that is on its way stands at a spot: at a stage, with so many tasks ahead
of it where the stage is a queue.  Once its result is in Redis, the spot says how
far the polling thread of its client is from asking for it. -/

inductive Spot (S W : Type) where
  | clientQueue (ahead : Nat) (recording : Bool)
  | connection (scheduler : S)
  | schedulerPending (scheduler : S) (ahead : Nat)
  | taskQueue
  | workerPending (worker : W) (ahead : Nat)
  | threadPool (worker : W)
  | taskResultQueue (worker : W) (ahead : Nat)
  | resultQueue
  | unrecorded
  | passedOver (left : Nat)
  | removing
  | resting
  | queried (ahead : Nat)

namespace Spot

def stage : Spot S W → Nat
  | .queried _ => 0
  | .resting => 1
  | .removing => 2
  | .passedOver _ => 3
  | .unrecorded => 4
  | .resultQueue => 5
  | .taskResultQueue _ _ => 6
  | .threadPool _ => 7
  | .workerPending _ _ => 8
  | .taskQueue => 9
  | .schedulerPending _ _ => 10
  | .connection _ => 11
  | .clientQueue _ _ => 12

def ahead : Spot S W → Nat
  | .clientQueue ahead recording => 2 * ahead + recording.toNat
  | .schedulerPending _ ahead | .workerPending _ ahead | .taskResultQueue _ ahead | .queried ahead => ahead
  | .passedOver left => left
  | _ => 0

def Below (lower spot : Spot S W) : Prop :=
  lower.stage < spot.stage ∨ lower.stage = spot.stage ∧ lower.ahead < spot.ahead

theorem below_wellFounded : WellFounded (Below (S := S) (W := W)) := by
  refine Subrelation.wf ?_ (InvImage.wf (fun spot : Spot S W => (spot.stage, spot.ahead))
    (Prod.lex Nat.lt_wfRel Nat.lt_wfRel).wf)
  intro lower spot below
  exact Prod.lex_def.mpr below

/-- Where the task with this id stands, seen from its client. -/
def Stands (client : C) (id : Bytes) : Spot S W → State C S W → Prop
  | .clientQueue ahead recording, state =>
      ((state.submitUndistributionTask client).map Task.taskId)[ahead]? = some id ∧
        (state.recording client).isSome = recording
  | .connection scheduler, state => id ∈ (state.connections scheduler).map Task.taskId
  | .schedulerPending scheduler ahead, state =>
      ((state.schedulerPending scheduler).map Task.taskId)[ahead]? = some id
  | .taskQueue, state => id ∈ state.taskQueue.map Task.taskId
  | .workerPending worker ahead, state => ((state.workerPending worker).map Task.taskId)[ahead]? = some id
  | .threadPool worker, state => id ∈ (state.threadPool worker).map Task.taskId
  | .taskResultQueue worker ahead, state =>
      ((state.taskResultQueue worker).map TaskResult.taskId)[ahead]? = some id
  | .resultQueue, state => id ∈ state.resultQueue.map TaskResult.taskId
  | .unrecorded, state => id ∈ state.redis.map Prod.fst ∧ state.recording client = some id
  | .passedOver left, state =>
      id ∈ state.redis.map Prod.fst ∧ id ∈ state.distributionTaskid client ∧
        ∃ remaining completed, state.polling client = .querying remaining completed ∧ remaining.length = left
  | .removing, state =>
      id ∈ state.redis.map Prod.fst ∧ id ∈ state.distributionTaskid client ∧
        ∃ completed, state.polling client = .removing completed
  | .resting, state =>
      id ∈ state.redis.map Prod.fst ∧ id ∈ state.distributionTaskid client ∧ state.polling client = .resting
  | .queried ahead, state =>
      id ∈ state.redis.map Prod.fst ∧
        ∃ remaining completed, state.polling client = .querying remaining completed ∧ remaining[ahead]? = some id

end Spot

/-! ## Who moves a task on -/

/-- The threads of the three programs, and for the stages without an order the
one task that is next in turn. -/
inductive Agent (C S W : Type) where
  | submitThread (client : C)
  | connection (scheduler : S) (id : Bytes)
  | schedulerSubmitThread (scheduler : S)
  | taskDelivery (id : Bytes)
  | execThread (worker : W)
  | job (worker : W) (id : Bytes)
  | reportThread (worker : W)
  | resultDelivery (id : Bytes)
  | pollThread (client : C)

def Agent.Does : Agent C S W → State C S W → Action C S W ν → Prop
  | .submitThread client, _, .send other _ => other = client
  | .submitThread client, _, .record other => other = client
  | .connection scheduler id, state, .receive other index _ =>
      other = scheduler ∧ (state.connections scheduler)[index]?.map Task.taskId = some id
  | .schedulerSubmitThread scheduler, _, .publish other _ => other = scheduler
  | .taskDelivery id, state, .receiveTask _ index _ => state.taskQueue[index]?.map Task.taskId = some id
  | .execThread worker, _, .dispatch other => other = worker
  | .job worker id, state, .execute other index _ _ =>
      other = worker ∧ (state.threadPool worker)[index]?.map Task.taskId = some id
  | .reportThread worker, _, .report other => other = worker
  | .resultDelivery id, state, .store index => state.resultQueue[index]?.map TaskResult.taskId = some id
  | .pollThread client, _, .pollBegin other => other = client
  | .pollThread client, _, .pollOne other => other = client
  | .pollThread client, _, .pollEnd other => other = client
  | .pollThread client, _, .pollRemove other => other = client
  | _, _, _ => False

/-- Whom the task waits for. -/
def Spot.agent (client : C) (id : Bytes) : Spot S W → Agent C S W
  | .clientQueue _ _ | .unrecorded => .submitThread client
  | .connection scheduler => .connection scheduler id
  | .schedulerPending scheduler _ => .schedulerSubmitThread scheduler
  | .taskQueue => .taskDelivery id
  | .workerPending worker _ => .execThread worker
  | .threadPool worker => .job worker id
  | .taskResultQueue worker _ => .reportThread worker
  | .resultQueue => .resultDelivery id
  | .passedOver _ | .removing | .resting | .queried _ => .pollThread client

/-! ## One step -/

/-- The task comes back, moves on, or stays where it is, and then the step was
not of the one it waits for. -/
def Onward (client : C) (id : Bytes) (spot : Spot S W) (before : State C S W) (action : Action C S W ν)
    (after : State C S W) : Prop :=
  Answered client id after ∨ (∃ lower : Spot S W, lower.Below spot ∧ lower.Stands client id after) ∨
    spot.Stands client id after ∧ ¬ (spot.agent client id).Does before action

theorem waits_append {queue : List Bytes} {id : Bytes} {ahead : Nat} (waits : queue[ahead]? = some id)
    (more : List Bytes) : (queue ++ more)[ahead]? = some id := by
  obtain ⟨inside, _⟩ := List.getElem?_eq_some_iff.mp waits
  rw [List.getElem?_append_left inside, waits]

/-- Tasks come behind those that wait. -/
theorem waits_push {ι α : Type} [DecidableEq ι] {name : α → Bytes} {queues : ι → List α} {owner : ι} {id : Bytes}
    {ahead : Nat} (waits : ((queues owner).map name)[ahead]? = some id) (other : ι) (more : List α) :
    ((Function.update queues other (queues other ++ more) owner).map name)[ahead]? = some id := by
  by_cases same : owner = other
  · subst other
    rw [Function.update_self, List.map_append]
    exact waits_append waits _
  · rwa [Function.update_of_ne same]

theorem mem_push {ι α : Type} [DecidableEq ι] {name : α → Bytes} {queues : ι → List α} {owner : ι} {id : Bytes}
    (member : id ∈ (queues owner).map name) (other : ι) (more : List α) :
    id ∈ (Function.update queues other (queues other ++ more) owner).map name := by
  obtain ⟨ahead, waits⟩ := List.mem_iff_getElem?.mp member
  exact List.mem_iff_getElem?.mpr ⟨ahead, waits_push waits other more⟩

/-- The first of a queue leaves it. -/
theorem waits_pop {first id : Bytes} {rest : List Bytes} {ahead : Nat} (waits : (first :: rest)[ahead]? = some id) :
    first = id ∨ ∃ fewer, ahead = fewer + 1 ∧ rest[fewer]? = some id := by
  cases ahead with
  | zero => exact .inl (Option.some.inj waits)
  | succ fewer => exact .inr ⟨fewer, rfl, waits⟩

section Steps

variable [DecidableEq C] [DecidableEq S] [DecidableEq W] {before after : State C S W} {action : Action C S W ν}
variable {client : C} {id : Bytes}

theorem onward_clientQueue {ahead : Nat} {recording : Bool}
    (stands : (Spot.clientQueue ahead recording : Spot S W).Stands client id before)
    (effect : Effect workerId toolbox before action after) :
    Onward client id (Spot.clientQueue ahead recording) before action after := by
  obtain ⟨waits, flag⟩ := stands
  cases effect with
  | submitOneTask other task => exact .inr (.inr ⟨⟨waits_push waits other [task], flag⟩, fun does => does⟩)
  | submitMoreTask other tasks => exact .inr (.inr ⟨⟨waits_push waits other tasks, flag⟩, fun does => does⟩)
  | send other scheduler task rest idle queue =>
      by_cases same : other = client
      · subst other
        rw [queue, List.map_cons] at waits
        rcases waits_pop waits with rfl | ⟨fewer, rfl, waits⟩
        · refine .inr (.inl ⟨.connection scheduler, .inl (by simp [Spot.stage]), ?_⟩)
          simp [Spot.Stands]
        · refine .inr (.inl ⟨.clientQueue fewer true, .inr ⟨rfl, ?_⟩, ?_⟩)
          · simp only [Spot.ahead, Bool.toNat_true]
            omega
          · simpa [Spot.Stands] using waits
      · refine .inr (.inr ⟨?_, same⟩)
        simp only [Spot.Stands, Function.update_of_ne (Ne.symm same)]
        exact ⟨waits, flag⟩
  | record other recorded sent free =>
      by_cases same : other = client
      · subst other
        refine .inr (.inl ⟨.clientQueue ahead false, .inr ⟨rfl, ?_⟩, ?_⟩)
        · rw [sent] at flag
          simp [Spot.ahead, ← flag]
        · simpa [Spot.Stands] using waits
      · refine .inr (.inr ⟨?_, same⟩)
        simp only [Spot.Stands, Function.update_of_ne (Ne.symm same)]
        exact ⟨waits, flag⟩
  | _ => exact .inr (.inr ⟨⟨waits, flag⟩, fun does => does⟩)

theorem onward_connection {scheduler : S} (stands : (Spot.connection scheduler : Spot S W).Stands client id before)
    (effect : Effect workerId toolbox before action after) :
    Onward client id (Spot.connection scheduler) before action after := by
  cases effect with
  | send other receiver task rest idle queue =>
      exact .inr (.inr ⟨mem_push stands receiver _, fun does => does⟩)
  | receive other index now task found =>
      by_cases same : other = scheduler
      · subst other
        by_cases mine : task.taskId = id
        · refine .inr (.inl ⟨.schedulerPending scheduler (before.schedulerPending scheduler).length,
            .inl (by simp [Spot.stage]), ?_⟩)
          simp [Spot.Stands, Scheduler.stamp, mine]
        · refine .inr (.inr ⟨?_, ?_⟩)
          · have left := (ids_perm_eraseIdx Task.taskId found).mem_iff.mp stands
            simp only [Spot.Stands, Function.update_self]
            exact (List.mem_cons.mp left).resolve_left (Ne.symm mine)
          · rintro ⟨_, next⟩
            rw [found] at next
            exact mine (Option.some.inj next)
      · refine .inr (.inr ⟨?_, fun does => same does.1⟩)
        simp only [Spot.Stands, Function.update_of_ne (Ne.symm same)]
        exact stands
  | _ => exact .inr (.inr ⟨stands, fun does => does⟩)

theorem onward_schedulerPending {scheduler : S} {ahead : Nat}
    (stands : (Spot.schedulerPending scheduler ahead : Spot S W).Stands client id before)
    (effect : Effect workerId toolbox before action after) :
    Onward client id (Spot.schedulerPending scheduler ahead) before action after := by
  cases effect with
  | receive other index now task found =>
      exact .inr (.inr ⟨waits_push stands other _, fun does => does⟩)
  | publish other now task rest queue =>
      by_cases same : other = scheduler
      · subst other
        rw [Spot.Stands, queue, List.map_cons] at stands
        rcases waits_pop stands with rfl | ⟨fewer, rfl, waits⟩
        · refine .inr (.inl ⟨.taskQueue, .inl (by simp [Spot.stage]), ?_⟩)
          simp [Spot.Stands]
        · refine .inr (.inl ⟨.schedulerPending scheduler fewer, .inr ⟨rfl, Nat.lt_succ_self fewer⟩, ?_⟩)
          simp only [Spot.Stands, Function.update_self]
          exact waits
      · refine .inr (.inr ⟨?_, same⟩)
        simp only [Spot.Stands, Function.update_of_ne (Ne.symm same)]
        exact stands
  | _ => exact .inr (.inr ⟨stands, fun does => does⟩)

theorem onward_taskQueue (stands : (Spot.taskQueue : Spot S W).Stands client id before)
    (effect : Effect workerId toolbox before action after) : Onward client id Spot.taskQueue before action after := by
  cases effect with
  | publish other now task rest queue =>
      refine .inr (.inr ⟨?_, fun does => does⟩)
      simp only [Spot.Stands, List.map_append]
      exact List.mem_append_left _ stands
  | receiveTask worker index now task found =>
      by_cases mine : task.taskId = id
      · refine .inr (.inl ⟨.workerPending worker (before.workerPending worker).length, .inl (by simp [Spot.stage]), ?_⟩)
        simp [Spot.Stands, Worker.stampArrival, mine]
      · refine .inr (.inr ⟨?_, ?_⟩)
        · have left := (ids_perm_eraseIdx Task.taskId found).mem_iff.mp stands
          exact (List.mem_cons.mp left).resolve_left (Ne.symm mine)
        · intro next
          simp only [Spot.agent, Agent.Does, found] at next
          exact mine (Option.some.inj next)
  | _ => exact .inr (.inr ⟨stands, fun does => does⟩)

theorem onward_workerPending {worker : W} {ahead : Nat}
    (stands : (Spot.workerPending worker ahead : Spot S W).Stands client id before)
    (effect : Effect workerId toolbox before action after) :
    Onward client id (Spot.workerPending worker ahead) before action after := by
  cases effect with
  | receiveTask other index now task found =>
      exact .inr (.inr ⟨waits_push stands other _, fun does => does⟩)
  | dispatch other task rest queue =>
      by_cases same : other = worker
      · subst other
        rw [Spot.Stands, queue, List.map_cons] at stands
        rcases waits_pop stands with rfl | ⟨fewer, rfl, waits⟩
        · refine .inr (.inl ⟨.threadPool worker, .inl (by simp [Spot.stage]), ?_⟩)
          simp [Spot.Stands]
        · refine .inr (.inl ⟨.workerPending worker fewer, .inr ⟨rfl, Nat.lt_succ_self fewer⟩, ?_⟩)
          simp only [Spot.Stands, Function.update_self]
          exact waits
      · refine .inr (.inr ⟨?_, same⟩)
        simp only [Spot.Stands, Function.update_of_ne (Ne.symm same)]
        exact stands
  | _ => exact .inr (.inr ⟨stands, fun does => does⟩)

theorem onward_threadPool {worker : W} (stands : (Spot.threadPool worker : Spot S W).Stands client id before)
    (effect : Effect workerId toolbox before action after) :
    Onward client id (Spot.threadPool worker) before action after := by
  cases effect with
  | dispatch other task rest queue =>
      exact .inr (.inr ⟨mem_push stands other _, fun does => does⟩)
  | execute other index nonce order task found =>
      by_cases same : other = worker
      · subst other
        by_cases mine : task.taskId = id
        · refine .inr (.inl ⟨.taskResultQueue worker (before.taskResultQueue worker).length,
            .inl (by simp [Spot.stage]), ?_⟩)
          simp [Spot.Stands, mine]
        · refine .inr (.inr ⟨?_, ?_⟩)
          · have left := (ids_perm_eraseIdx Task.taskId found).mem_iff.mp stands
            simp only [Spot.Stands, Function.update_self]
            exact (List.mem_cons.mp left).resolve_left (Ne.symm mine)
          · rintro ⟨_, next⟩
            rw [found] at next
            exact mine (Option.some.inj next)
      · refine .inr (.inr ⟨?_, fun does => same does.1⟩)
        simp only [Spot.Stands, Function.update_of_ne (Ne.symm same)]
        exact stands
  | _ => exact .inr (.inr ⟨stands, fun does => does⟩)

theorem onward_taskResultQueue {worker : W} {ahead : Nat}
    (stands : (Spot.taskResultQueue worker ahead : Spot S W).Stands client id before)
    (effect : Effect workerId toolbox before action after) :
    Onward client id (Spot.taskResultQueue worker ahead) before action after := by
  cases effect with
  | execute other index nonce order task found =>
      exact .inr (.inr ⟨waits_push stands other _, fun does => does⟩)
  | report other result rest queue =>
      by_cases same : other = worker
      · subst other
        rw [Spot.Stands, queue, List.map_cons] at stands
        rcases waits_pop stands with rfl | ⟨fewer, rfl, waits⟩
        · refine .inr (.inl ⟨.resultQueue, .inl (by simp [Spot.stage]), ?_⟩)
          simp [Spot.Stands]
        · refine .inr (.inl ⟨.taskResultQueue worker fewer, .inr ⟨rfl, Nat.lt_succ_self fewer⟩, ?_⟩)
          simp only [Spot.Stands, Function.update_self]
          exact waits
      · refine .inr (.inr ⟨?_, same⟩)
        simp only [Spot.Stands, Function.update_of_ne (Ne.symm same)]
        exact stands
  | _ => exact .inr (.inr ⟨stands, fun does => does⟩)

/-! ## In Redis -/

theorem ResultTable.mem_keys_insert {table : ResultTable} (stored : id ∈ table.map Prod.fst) (other : Bytes)
    (result : TaskResult) : id ∈ (table.insert other result).map Prod.fst := by
  rw [ResultTable.insert, List.map_append, List.mem_append]
  by_cases same : id = other
  · exact .inr (by simp [same])
  · obtain ⟨entry, member, named⟩ := List.mem_map.mp stored
    refine .inl (List.mem_map.mpr ⟨entry, List.mem_filter.mpr ⟨member, ?_⟩, named⟩)
    simpa [named] using same

theorem ResultTable.mem_keys_erase {table : ResultTable} (stored : id ∈ table.map Prod.fst) {other : Bytes}
    (different : other ≠ id) : id ∈ (table.erase other).map Prod.fst := by
  obtain ⟨entry, member, named⟩ := List.mem_map.mp stored
  refine List.mem_map.mpr ⟨entry, List.mem_filter.mpr ⟨member, ?_⟩, named⟩
  simpa [named] using Ne.symm different

theorem ResultTable.lookup_of_mem_keys {table : ResultTable} (stored : id ∈ table.map Prod.fst) :
    ∃ result, table.lookup id = some result := by
  cases found : table.lookup id with
  | some result => exact ⟨result, rfl⟩
  | none =>
      obtain ⟨entry, member, named⟩ := List.mem_map.mp stored
      have other := List.lookup_eq_none_iff.mp found entry member
      simp [named] at other

/-- Nobody but its client fetches the result. -/
theorem Effect.redis (effect : Effect workerId toolbox before action after)
    (attributed : Attributed workerId toolbox before) (own : Known before.submitted client id)
    (stored : id ∈ before.redis.map Prod.fst) : Answered client id after ∨ id ∈ after.redis.map Prod.fst := by
  cases effect with
  | store index result found => exact .inr (ResultTable.mem_keys_insert stored _ _)
  | pollHit other fetched rest completed result querying found =>
      by_cases mine : fetched = id
      · subst fetched
        obtain ⟨task, submitted, named⟩ := own
        obtain ⟨asked, submittedToo, sameName⟩ := attributed.queried other id (by simp [querying, PollPc.remaining])
        have same := entry_unique attributed.distinct submitted submittedToo (named.trans sameName.symm)
        cases same
        exact .inl ⟨(id, result), by simp [State.poll, ResultTable.insert], rfl⟩
      · exact .inr (ResultTable.mem_keys_erase stored mine)
  | _ => exact .inr stored

omit [DecidableEq C] [DecidableEq S] [DecidableEq W] in
/-- A result in Redis that its client has not forgotten stands somewhere. -/
theorem Noted.spot {state : State C S W} (noted : Noted client id state) (owned : Owned workerId toolbox state)
    (stored : id ∈ state.redis.map Prod.fst) : ∃ spot : Spot S W, spot.stage < 5 ∧ spot.Stands client id state := by
  rcases noted.2 with queued | recording | distributed
  · -- a task that has a result has left the queue of its client
    have named := ResultTable.ids_eq_keys fun entry member => (owned.attributed.stored entry member).1
    rw [← named, ← state.holds_redis] at stored
    have elsewhere := (owned.custody.heldOnce_of_mem .redis stored).2 (.clientQueue client) (by simp)
    simp only [State.holds, State.items, List.map_map, Item.taskId_comp_task] at elsewhere
    exact absurd queued elsewhere
  · exact ⟨.unrecorded, by simp [Spot.stage], stored, recording⟩
  · cases polling : state.polling client with
    | resting => exact ⟨.resting, by simp [Spot.stage], stored, distributed, polling⟩
    | removing completed => exact ⟨.removing, by simp [Spot.stage], stored, distributed, completed, polling⟩
    | querying remaining completed =>
        exact ⟨.passedOver remaining.length, by simp [Spot.stage], stored, distributed, remaining, completed,
          polling, rfl⟩

theorem onward_resultQueue (owned : Owned workerId toolbox after)
    (noted : Answered client id after ∨ Noted client id after)
    (stands : (Spot.resultQueue : Spot S W).Stands client id before)
    (effect : Effect workerId toolbox before action after) : Onward client id Spot.resultQueue before action after := by
  cases effect with
  | report worker result rest queue =>
      refine .inr (.inr ⟨?_, fun does => does⟩)
      simp only [Spot.Stands, List.map_append]
      exact List.mem_append_left _ stands
  | store index result found =>
      by_cases mine : result.taskId = id
      · rcases noted with answered | noted
        · exact .inl answered
        · have stored : id ∈ (before.redis.insert result.taskId result).map Prod.fst := by
            simp [ResultTable.insert, mine]
          obtain ⟨spot, low, stands⟩ := noted.spot owned stored
          exact .inr (.inl ⟨spot, .inl low, stands⟩)
      · refine .inr (.inr ⟨?_, ?_⟩)
        · have left := (ids_perm_eraseIdx TaskResult.taskId found).mem_iff.mp stands
          exact (List.mem_cons.mp left).resolve_left (Ne.symm mine)
        · intro next
          simp only [Spot.agent, Agent.Does, found] at next
          exact mine (Option.some.inj next)
  | _ => exact .inr (.inr ⟨stands, fun does => does⟩)

theorem onward_unrecorded (attributed : Attributed workerId toolbox before) (own : Known before.submitted client id)
    (stands : (Spot.unrecorded : Spot S W).Stands client id before)
    (effect : Effect workerId toolbox before action after) : Onward client id Spot.unrecorded before action after := by
  obtain ⟨stored, recording⟩ := stands
  rcases effect.redis attributed own stored with answered | kept
  · exact .inl answered
  · cases effect with
    | send other scheduler task rest idle queue =>
        have apart : other ≠ client := by
          rintro rfl
          rw [idle] at recording
          cases recording
        refine .inr (.inr ⟨⟨kept, ?_⟩, apart⟩)
        simp only [Function.update_of_ne (Ne.symm apart)]
        exact recording
    | record other recorded sent free =>
        by_cases same : other = client
        · subst other
          rw [sent, Option.some.injEq] at recording
          subst recorded
          have distributed : id ∈ Function.update before.distributionTaskid client
              (before.distributionTaskid client ++ [id]) client := by simp
          cases polling : before.polling client with
          | resting => exact .inr (.inl ⟨.resting, .inl (by simp [Spot.stage]), kept, distributed, polling⟩)
          | removing completed =>
              exact .inr (.inl ⟨.removing, .inl (by simp [Spot.stage]), kept, distributed, completed, polling⟩)
          | querying remaining completed => simp [polling, PollPc.isQuerying] at free
        · refine .inr (.inr ⟨⟨kept, ?_⟩, same⟩)
          simp only [Function.update_of_ne (Ne.symm same)]
          exact recording
    | _ => exact .inr (.inr ⟨⟨kept, recording⟩, fun does => does⟩)

/-- How a round goes on, with the ids that the client has noted. -/
inductive PollMove (distributed : List Bytes) : PollPc → PollPc → List Bytes → Prop where
  | start : PollMove distributed .resting (.querying distributed []) distributed
  | ask (id : Bytes) (rest before after : List Bytes) :
      PollMove distributed (.querying (id :: rest) before) (.querying rest after) distributed
  | finish (completed : List Bytes) : PollMove distributed (.querying [] completed) (.removing completed) distributed
  | remove (completed : List Bytes) :
      PollMove distributed (.removing completed) .resting (distributed.filter fun id => !completed.contains id)

theorem Effect.pollMove (effect : Effect workerId toolbox before action after)
    (does : (Agent.pollThread client : Agent C S W).Does before action) :
    ∃ next distributed, after.polling client = next ∧ after.distributionTaskid client = distributed ∧
      PollMove (before.distributionTaskid client) (before.polling client) next distributed := by
  cases effect with
  | pollBegin owner resting =>
      cases does
      refine ⟨_, _, Function.update_self .., rfl, ?_⟩
      rw [resting]
      exact .start
  | pollHit owner fetched rest completed result querying found =>
      cases does
      refine ⟨_, _, Function.update_self .., rfl, ?_⟩
      rw [querying]
      exact .ask fetched rest completed _
  | pollMiss owner asked rest completed querying absent =>
      cases does
      refine ⟨_, _, Function.update_self .., rfl, ?_⟩
      rw [querying]
      exact .ask asked rest completed _
  | pollEnd owner completed querying =>
      cases does
      refine ⟨_, _, Function.update_self .., rfl, ?_⟩
      rw [querying]
      exact .finish completed
  | pollRemove owner completed removing =>
      cases does
      refine ⟨_, _, Function.update_self .., Function.update_self .., ?_⟩
      rw [removing]
      exact .remove completed
  | _ => cases does

/-- The polling thread of a client is the only one that moves its round or
forgets an id. -/
theorem Effect.polling (effect : Effect workerId toolbox before action after)
    (other : ¬ (Agent.pollThread client : Agent C S W).Does before action) :
    after.polling client = before.polling client ∧
      before.distributionTaskid client ⊆ after.distributionTaskid client := by
  cases effect with
  | record owner recorded sent free =>
      refine ⟨rfl, ?_⟩
      by_cases same : client = owner
      · subst owner
        simp only [Function.update_self]
        exact List.subset_append_left _ _
      · simp only [Function.update_of_ne same]
        exact List.Subset.refl _
  | pollBegin owner | pollHit owner | pollMiss owner | pollEnd owner =>
      have apart : client ≠ owner := fun same => other same.symm
      refine ⟨?_, List.Subset.refl _⟩
      simp only [State.poll_polling, Function.update_of_ne apart]
  | pollRemove owner completed removing =>
      have apart : client ≠ owner := fun same => other same.symm
      simp only [State.poll_polling, Function.update_of_ne apart]
      exact ⟨trivial, List.Subset.refl _⟩
  | _ => exact ⟨rfl, List.Subset.refl _⟩

/-- A client that asks for a result in Redis gets it. -/
theorem Effect.asked (effect : Effect workerId toolbox before action after)
    (does : (Agent.pollThread client : Agent C S W).Does before action) {rest completed : List Bytes}
    (asking : before.polling client = .querying (id :: rest) completed) (stored : id ∈ before.redis.map Prod.fst) :
    Answered client id after := by
  cases effect with
  | pollBegin owner resting =>
      cases does
      simp [resting] at asking
  | pollHit owner fetched rest completed result querying found =>
      cases does
      rw [querying, PollPc.querying.injEq, List.cons.injEq] at asking
      exact ⟨(fetched, result), by simp [State.poll, ResultTable.insert], asking.1.1⟩
  | pollMiss owner asked rest completed querying absent =>
      cases does
      rw [querying, PollPc.querying.injEq, List.cons.injEq] at asking
      obtain ⟨result, found⟩ := ResultTable.lookup_of_mem_keys stored
      rw [← asking.1.1, absent] at found
      cases found
  | pollEnd owner completed querying =>
      cases does
      simp [querying] at asking
  | pollRemove owner completed removing =>
      cases does
      simp [removing] at asking
  | _ => cases does

theorem onward_passedOver {left : Nat} (attributed : Attributed workerId toolbox before)
    (own : Known before.submitted client id) (stands : (Spot.passedOver left : Spot S W).Stands client id before)
    (effect : Effect workerId toolbox before action after) :
    Onward client id (Spot.passedOver left) before action after := by
  obtain ⟨stored, distributed, remaining, completed, querying, length⟩ := stands
  rcases effect.redis attributed own stored with answered | kept
  · exact .inl answered
  by_cases does : (Agent.pollThread client : Agent C S W).Does before action
  · obtain ⟨next, noted, polling, same, move⟩ := effect.pollMove does
    rw [querying] at move
    cases move with
    | ask asked rest _ done =>
        refine .inr (.inl ⟨.passedOver rest.length, .inr ⟨rfl, ?_⟩, kept, ?_, rest, done, polling, rfl⟩)
        · simp only [Spot.ahead, ← length, List.length_cons]
          omega
        · rwa [same]
    | finish =>
        refine .inr (.inl ⟨.removing, .inl (by simp [Spot.stage]), kept, ?_, completed, polling⟩)
        rwa [same]
  · obtain ⟨same, more⟩ := effect.polling does
    exact .inr (.inr ⟨⟨kept, more distributed, remaining, completed, same.trans querying, length⟩, does⟩)

theorem onward_removing (attributed : Attributed workerId toolbox before) (own : Known before.submitted client id)
    (noted : Answered client id before ∨ Noted client id before)
    (stands : (Spot.removing : Spot S W).Stands client id before)
    (effect : Effect workerId toolbox before action after) : Onward client id Spot.removing before action after := by
  obtain ⟨stored, distributed, completed, removing⟩ := stands
  rcases effect.redis attributed own stored with answered | kept
  · exact .inl answered
  rcases noted with answered | noted
  · exact .inl (answered.kept effect)
  by_cases does : (Agent.pollThread client : Agent C S W).Does before action
  · obtain ⟨next, left, polling, same, move⟩ := effect.pollMove does
    have unfetched := noted.1
    rw [removing] at move unfetched
    cases move with
    | remove =>
        refine .inr (.inl ⟨.resting, .inl (by simp [Spot.stage]), kept, ?_, polling⟩)
        rw [same]
        simpa [distributed, PollPc.completed] using unfetched
  · obtain ⟨same, more⟩ := effect.polling does
    exact .inr (.inr ⟨⟨kept, more distributed, completed, same.trans removing⟩, does⟩)

theorem onward_resting (attributed : Attributed workerId toolbox before) (own : Known before.submitted client id)
    (stands : (Spot.resting : Spot S W).Stands client id before)
    (effect : Effect workerId toolbox before action after) : Onward client id Spot.resting before action after := by
  obtain ⟨stored, distributed, resting⟩ := stands
  rcases effect.redis attributed own stored with answered | kept
  · exact .inl answered
  by_cases does : (Agent.pollThread client : Agent C S W).Does before action
  · obtain ⟨next, noted, polling, same, move⟩ := effect.pollMove does
    rw [resting] at move
    cases move with
    | start =>
        obtain ⟨ahead, waits⟩ := List.mem_iff_getElem?.mp distributed
        exact .inr (.inl ⟨.queried ahead, .inl (by simp [Spot.stage]), kept, _, _, polling, waits⟩)
  · obtain ⟨same, more⟩ := effect.polling does
    exact .inr (.inr ⟨⟨kept, more distributed, same.trans resting⟩, does⟩)

theorem onward_queried {ahead : Nat} (attributed : Attributed workerId toolbox before)
    (own : Known before.submitted client id) (stands : (Spot.queried ahead : Spot S W).Stands client id before)
    (effect : Effect workerId toolbox before action after) :
    Onward client id (Spot.queried ahead) before action after := by
  obtain ⟨stored, remaining, completed, querying, waits⟩ := stands
  rcases effect.redis attributed own stored with answered | kept
  · exact .inl answered
  by_cases does : (Agent.pollThread client : Agent C S W).Does before action
  · obtain ⟨next, noted, polling, same, move⟩ := effect.pollMove does
    rw [querying] at move
    cases move with
    | ask asked rest _ done =>
        rcases waits_pop waits with rfl | ⟨fewer, rfl, later⟩
        · exact .inl (effect.asked does querying stored)
        · exact .inr (.inl ⟨.queried fewer, .inr ⟨rfl, Nat.lt_succ_self fewer⟩, kept, rest, done, polling, later⟩)
    | finish => cases waits
  · exact .inr (.inr ⟨⟨kept, remaining, completed, (effect.polling does).1.trans querying, waits⟩, does⟩)

/-- Every step takes a task further or leaves it, and whoever it waits for takes
it further. -/
theorem onward (remembered : Remembered workerId toolbox before) (later : Remembered workerId toolbox after)
    {task : Task} (submitted : (client, task) ∈ before.submitted) (still : (client, task) ∈ after.submitted)
    {spot : Spot S W} (stands : spot.Stands client task.taskId before)
    (effect : Effect workerId toolbox before action after) : Onward client task.taskId spot before action after := by
  have attributed := remembered.owned.attributed
  have own : Known before.submitted client task.taskId := ⟨task, submitted, rfl⟩
  cases spot with
  | clientQueue ahead recording => exact onward_clientQueue stands effect
  | connection scheduler => exact onward_connection stands effect
  | schedulerPending scheduler ahead => exact onward_schedulerPending stands effect
  | taskQueue => exact onward_taskQueue stands effect
  | workerPending worker ahead => exact onward_workerPending stands effect
  | threadPool worker => exact onward_threadPool stands effect
  | taskResultQueue worker ahead => exact onward_taskResultQueue stands effect
  | resultQueue => exact onward_resultQueue later.owned (later.noted client task still) stands effect
  | unrecorded => exact onward_unrecorded attributed own stands effect
  | passedOver left => exact onward_passedOver attributed own stands effect
  | removing => exact onward_removing attributed own (remembered.noted client task submitted) stands effect
  | resting => exact onward_resting attributed own stands effect
  | queried ahead => exact onward_queried attributed own stands effect

end Steps

end TaskHive.Pipeline
