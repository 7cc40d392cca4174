import Mathlib.Data.Set.Basic
import TaskHive.Pipeline.Journey
import TaskHive.Refinement

namespace TaskHive.Pipeline

open TaskHive.Wire

variable {C S W ν : Type}

/-! # What the pipeline is for

To its clients, everything between `submit_one_task` and the result calls could
be a single service that takes tasks, performs each of them once, at some time
of its own choice, and keeps the result until the client fetches it.  This module
states that service and shows that the pipeline shows nothing else. -/

/-! ## The service -/

@[ext]
structure Service (C : Type) where
  waiting : Set (C × Task) := ∅
  done : C → Bytes → Option TaskResult := fun _ _ => none

/-- Calls of a client with what they hand in or return. -/
inductive Event (C : Type) where
  | submitted (client : C) (tasks : List Task)
  | looked (client : C) (id : Bytes) (result : TaskResult)
  | listed (client : C) (results : List TaskResult)
  | collected (client : C) (id : Bytes) (result : TaskResult)
  | drained (client : C) (results : List TaskResult)
deriving DecidableEq

/-- All results of a client, each once, in some order. -/
def Lists (done : Bytes → Option TaskResult) (results : List TaskResult) : Prop :=
  ∃ ids : List Bytes, ids.Nodup ∧ (∀ id, id ∈ ids ↔ (done id).isSome = true) ∧ ids.map done = results.map some

section Service

variable [DecidableEq C] (workerId : W → Bytes) (toolbox : ν → Worker.Execution)

def Service.finish (service : Service C) (client : C) (id : Bytes) (result : Option TaskResult) : Service C :=
  { service with done := Function.update service.done client (Function.update (service.done client) id result) }

inductive Service.Step (service : Service C) : Option (Event C) → Service C → Prop where
  | submit (client : C) (tasks : List Task) :
      Step service (some (.submitted client tasks))
        { service with waiting := service.waiting ∪ {entry | entry.1 = client ∧ entry.2 ∈ tasks} }
  | perform (client : C) (task : Task) (result : TaskResult) (waits : (client, task) ∈ service.waiting)
      (made : ResultOf workerId toolbox task result) :
      Step service none
        { service.finish client task.taskId (some result) with waiting := service.waiting \ {(client, task)} }
  | look (client : C) (id : Bytes) : Step service (some (.looked client id ((service.done client id).getD {}))) service
  | list (client : C) (results : List TaskResult) (all : Lists (service.done client) results) :
      Step service (some (.listed client results)) service
  | collect (client : C) (id : Bytes) :
      Step service (some (.collected client id ((service.done client id).getD {}))) (service.finish client id none)
  | drain (client : C) (results : List TaskResult) (all : Lists (service.done client) results) :
      Step service (some (.drained client results))
        { service with done := Function.update service.done client fun _ => none }

def Service.specification : Specification (Service C) (Event C) where
  init := {}
  step := Service.Step workerId toolbox

end Service

/-! ## The pipeline with all result calls -/

/-- The results of a client are listed in the order of the hash table. -/
inductive Call (C S W ν : Type) where
  | step (action : Action C S W ν)
  | getTaskResult (client : C) (id : Bytes)
  | getAllTaskResult (client : C) (order : ResultTable)
  | getAllTaskResultAndDelete (client : C) (order : ResultTable)

section Calls

variable [DecidableEq C]

def State.drain (state : State C S W) (client : C) (order : ResultTable) : State C S W :=
  { state with
    taskresult := Function.update state.taskresult client []
    returned := Function.update state.returned client (state.returned client ++ order) }

def seen (state : State C S W) : Call C S W ν → Option (Event C)
  | .step (.submitOneTask client task) => some (.submitted client [task])
  | .step (.submitMoreTask client tasks) => some (.submitted client tasks)
  | .step (.getTaskResultAndDelete client id) =>
      some (.collected client id (((state.taskresult client).lookup id).getD {}))
  | .step _ => none
  | .getTaskResult client id => some (.looked client id (((state.taskresult client).lookup id).getD {}))
  | .getAllTaskResult client order => some (.listed client (order.map Prod.snd))
  | .getAllTaskResultAndDelete client order => some (.drained client (order.map Prod.snd))

variable [DecidableEq S] [DecidableEq W]

def callStep (workerId : W → Bytes) (toolbox : ν → Worker.Execution) (state : State C S W) :
    Call C S W ν → Option (State C S W)
  | .step action => pipelineStep workerId toolbox state action
  | .getTaskResult _ _ => some state
  | .getAllTaskResult client order => if order.Perm (state.taskresult client) then some state else none
  | .getAllTaskResultAndDelete client order =>
      if order.Perm (state.taskresult client) then some (state.drain client order) else none

def calls (workerId : W → Bytes) (toolbox : ν → Worker.Execution) : Machine (State C S W) (Call C S W ν) where
  init := {}
  step := callStep workerId toolbox

def DistinctCalls (state : State C S W) : Call C S W ν → Prop
  | .step action => DistinctIds state action
  | _ => True

instance (state : State C S W) : (call : Call C S W ν) → Decidable (DistinctCalls state call)
  | .step action => inferInstanceAs (Decidable (DistinctIds state action))
  | .getTaskResult _ _ | .getAllTaskResult _ _ | .getAllTaskResultAndDelete _ _ => inferInstanceAs (Decidable True)

end Calls

/-! ## Result tables as functions -/

section Tables

variable {table order : ResultTable} {id : Bytes}

theorem ResultTable.lookup_erase_self (table : ResultTable) (id : Bytes) : (table.erase id).lookup id = none := by
  refine List.lookup_eq_none_iff.mpr fun entry member => ?_
  have apart : entry.1 ≠ id := by simpa using (List.mem_filter.mp member).2
  exact bne_iff_ne.mpr (Ne.symm apart)

theorem ResultTable.lookup_erase_of_ne (table : ResultTable) {id other : Bytes} (different : other ≠ id) :
    (table.erase id).lookup other = table.lookup other := by
  induction table with
  | nil => rfl
  | cons entry rest ih =>
      rw [ResultTable.erase, List.filter_cons]
      by_cases gone : entry.1 = id
      · have apart : (other == entry.1) = false := beq_false_of_ne (gone ▸ different)
        rw [if_neg (by simpa using gone), List.lookup_cons, apart]
        exact ih
      · rw [if_pos (by simpa using gone), List.lookup_cons, List.lookup_cons]
        cases other == entry.1 with
        | true => rfl
        | false => exact ih

theorem ResultTable.lookup_erase (table : ResultTable) (id : Bytes) :
    (fun other => (table.erase id).lookup other) = Function.update (fun other => table.lookup other) id none := by
  funext other
  by_cases same : other = id
  · subst other
    rw [Function.update_self, lookup_erase_self]
  · rw [Function.update_of_ne same, lookup_erase_of_ne table same]

theorem ResultTable.lookup_insert (table : ResultTable) (id : Bytes) (result : TaskResult) :
    (fun other => (table.insert id result).lookup other) =
      Function.update (fun other => table.lookup other) id (some result) := by
  funext other
  rw [ResultTable.insert, List.lookup_append]
  by_cases same : other = id
  · subst other
    rw [Function.update_self, lookup_erase_self]
    simp
  · have apart : (other == id) = false := beq_false_of_ne same
    rw [Function.update_of_ne same, lookup_erase_of_ne table same, List.lookup_cons, apart]
    exact Option.or_none

theorem ResultTable.lookup_of_mem (keys : (table.map Prod.fst).Nodup) {entry : Bytes × TaskResult}
    (member : entry ∈ table) : table.lookup entry.1 = some entry.2 := by
  cases found : table.lookup entry.1 with
  | none =>
      have other := List.lookup_eq_none_iff.mp found entry member
      simp at other
  | some result =>
      have same := List.inj_on_of_nodup_map keys (mem_of_lookup found) member rfl
      rw [← same]

theorem ResultTable.perm_erase (keys : (table.map Prod.fst).Nodup) {entry : Bytes × TaskResult} {rest : ResultTable}
    (reordered : (entry :: rest).Perm table) : rest.Perm (table.erase entry.1) := by
  have distinct : ((entry :: rest).map Prod.fst).Nodup := (reordered.map Prod.fst).nodup_iff.mpr keys
  have absent : entry.1 ∉ rest.map Prod.fst := (List.nodup_cons.mp distinct).1
  have kept := reordered.filter fun other => other.1 ≠ entry.1
  rw [List.filter_cons, if_neg (by simp)] at kept
  have same : ResultTable.erase rest entry.1 = rest := erase_of_notMem absent
  rw [← same]
  exact kept

/-- A table whose keys are distinct, in any order, lists what it maps to. -/
theorem ResultTable.lists (keys : (table.map Prod.fst).Nodup) (reordered : order.Perm table) :
    Lists (fun id => table.lookup id) (order.map Prod.snd) := by
  refine ⟨order.map Prod.fst, (reordered.map Prod.fst).nodup_iff.mpr keys, ?_, ?_⟩
  · intro id
    rw [(reordered.map Prod.fst).mem_iff]
    constructor
    · intro member
      obtain ⟨entry, inside, rfl⟩ := List.mem_map.mp member
      exact Option.isSome_iff_exists.mpr ⟨entry.2, lookup_of_mem keys inside⟩
    · intro found
      obtain ⟨result, stored⟩ := Option.isSome_iff_exists.mp found
      exact List.mem_map.mpr ⟨(id, result), mem_of_lookup stored, rfl⟩
  · rw [List.map_map, List.map_map]
    refine List.map_congr_left fun entry member => ?_
    exact lookup_of_mem keys (reordered.mem_iff.mp member)

end Tables

section States

variable {workerId : W → Bytes} {toolbox : ν → Worker.Execution} {state : State C S W}

theorem Owned.keys_nodup (owned : Owned workerId toolbox state) (client : C) :
    ((state.taskresult client).map Prod.fst).Nodup := by
  have distinct := owned.custody.nodup (.taskresult client)
  rw [State.holds_taskresult,
    ResultTable.ids_eq_keys fun entry member => (owned.attributed.fetched client entry member).named] at distinct
  exact distinct

variable [DecidableEq C] [DecidableEq S] [DecidableEq W]

/-- To take all results is to take one after the other. -/
theorem drain_reachable (order : ResultTable) {state : State C S W} {client : C}
    (reached : (pipeline workerId toolbox).ReachableBy DistinctIds state)
    (reordered : order.Perm (state.taskresult client)) :
    (pipeline workerId toolbox).ReachableBy DistinctIds (state.drain client order) := by
  induction order generalizing state with
  | nil =>
      have empty : Function.update state.taskresult client [] = state.taskresult := by
        rw [reordered.nil_eq, Function.update_eq_self]
      have same : state.drain client [] = state := by
        rw [State.drain, empty, List.append_nil, Function.update_eq_self]
      rw [same]
      exact reached
  | cons entry rest ih =>
      have keys := (owned_of_reachable reached).keys_nodup client
      have found := ResultTable.lookup_of_mem keys (reordered.mem_iff.mp List.mem_cons_self)
      have stepped : (pipeline workerId toolbox).step state (.getTaskResultAndDelete client entry.1) =
          some { state with
            taskresult := Function.update state.taskresult client ((state.taskresult client).erase entry.1)
            returned := Function.update state.returned client (state.returned client ++ [entry]) } := by
        simp [pipeline, pipelineStep, clientStep, found]
      have later := ih (.step reached (show DistinctIds state (.getTaskResultAndDelete client entry.1) from trivial)
        stepped) ?_
      · simpa [State.drain] using later
      · change rest.Perm (Function.update state.taskresult client _ client)
        rw [Function.update_self]
        exact ResultTable.perm_erase keys reordered

end States

/-! ## The view of a client -/

def State.service (state : State C S W) : Service C where
  waiting := {entry | entry ∈ state.submitted ∧ ¬ Answered entry.1 entry.2.taskId state}
  done client id := (state.taskresult client).lookup id

section Views

variable {workerId : W → Bytes} {toolbox : ν → Worker.Execution} {before after : State C S W}

theorem Owned.answered_known (owned : Owned workerId toolbox before) {client : C} {id : Bytes}
    (answered : Answered client id before) : Known before.submitted client id := by
  obtain ⟨entry, member, rfl⟩ := answered
  rcases List.mem_append.mp member with fetched | returned
  · obtain ⟨task, submitted, named, _⟩ := owned.attributed.fetched client entry fetched
    exact ⟨task, submitted, named⟩
  · obtain ⟨task, submitted, named, _⟩ := owned.attributed.returned client entry returned
    exact ⟨task, submitted, named⟩

/-- What Redis holds has not come back. -/
theorem Owned.unanswered (owned : Owned workerId toolbox before) {client : C} {entry : Bytes × TaskResult}
    (stored : entry ∈ before.redis) : ¬ Answered client entry.1 before := by
  have named := (owned.attributed.stored entry stored).1
  have held : HeldOnce before.holds entry.1 .redis := by
    refine owned.custody.heldOnce_of_mem .redis ?_
    rw [State.holds_redis, named]
    exact List.mem_map_of_mem stored
  rintro ⟨other, member, same⟩
  rcases List.mem_append.mp member with fetched | returned
  · have found : entry.1 ∈ before.holds (.taskresult client) := by
      rw [State.holds_taskresult, ← same, (owned.attributed.fetched client other fetched).named]
      exact List.mem_map_of_mem fetched
    cases held.unique found
  · have found : entry.1 ∈ before.holds (.returned client) := by
      rw [← same, (owned.attributed.returned client other returned).named]
      exact List.mem_map.mpr ⟨.result other.2, List.mem_map.mpr ⟨other, returned, rfl⟩, rfl⟩
    cases held.unique found

variable [DecidableEq C]

theorem service_submit (owned : Owned workerId toolbox before) (client : C) (tasks : List Task)
    (fresh : Fresh before tasks) :
    before.service.Step workerId toolbox (some (.submitted client tasks)) (before.submit client tasks).service := by
  have waiting : (before.submit client tasks).service.waiting =
      before.service.waiting ∪ {entry | entry.1 = client ∧ entry.2 ∈ tasks} := by
    ext entry
    constructor
    · rintro ⟨member, pending⟩
      rcases List.mem_append.mp member with old | new
      · exact .inl ⟨old, pending⟩
      · obtain ⟨task, submitted, rfl⟩ := List.mem_map.mp new
        exact .inr ⟨rfl, submitted⟩
    · rintro (⟨old, pending⟩ | ⟨rfl, submitted⟩)
      · exact ⟨List.mem_append_left _ old, pending⟩
      · refine ⟨List.mem_append_right _ (List.mem_map_of_mem submitted), ?_⟩
        intro answered
        obtain ⟨task, known, named⟩ := owned.answered_known answered
        exact fresh.2 entry.2 submitted (List.mem_map.mpr ⟨_, known, named⟩)
  have taken : before.service.Step workerId toolbox (some (.submitted client tasks))
      { before.service with waiting := before.service.waiting ∪ {entry | entry.1 = client ∧ entry.2 ∈ tasks} } :=
    .submit client tasks
  rw [← waiting] at taken
  exact taken

theorem ResultTable.mem_insert_iff {table : ResultTable} {id : Bytes} {result : TaskResult}
    {entry : Bytes × TaskResult} :
    entry ∈ table.insert id result ↔ entry ∈ table ∧ entry.1 ≠ id ∨ entry = (id, result) := by
  simp [ResultTable.insert, ResultTable.erase]

/-- A result that comes back answers one id. -/
theorem answered_fetch {client other : C} {id asked : Bytes} {result : TaskResult}
    (fetched : after.taskresult =
      Function.update before.taskresult client ((before.taskresult client).insert id result))
    (returned : after.returned = before.returned) :
    Answered other asked after ↔ Answered other asked before ∨ other = client ∧ asked = id := by
  unfold Answered
  rw [fetched, returned]
  by_cases mine : other = client
  · subst other
    rw [Function.update_self]
    constructor
    · rintro ⟨entry, member, rfl⟩
      rcases List.mem_append.mp member with inside | outside
      · rcases ResultTable.mem_insert inside with old | rfl
        · exact .inl ⟨entry, List.mem_append_left _ old, rfl⟩
        · exact .inr ⟨rfl, rfl⟩
      · exact .inl ⟨entry, List.mem_append_right _ outside, rfl⟩
    · intro answered
      by_cases same : asked = id
      · subst asked
        exact ⟨(id, result), by simp [ResultTable.insert], rfl⟩
      · rcases answered with ⟨entry, member, rfl⟩ | ⟨_, equal⟩
        · refine ⟨entry, ?_, rfl⟩
          rcases List.mem_append.mp member with inside | outside
          · exact List.mem_append_left _ (ResultTable.mem_insert_iff.mpr (.inl ⟨inside, same⟩))
          · exact List.mem_append_right _ outside
        · exact absurd equal same
  · rw [Function.update_of_ne mine]
    simp [mine]

/-- One table of results changes at one id. -/
theorem service_done {client : C} {table : ResultTable} {id : Bytes} {value : Option TaskResult}
    (changed : after.taskresult = Function.update before.taskresult client table)
    (entries : (fun asked => table.lookup asked) =
      Function.update (fun asked => (before.taskresult client).lookup asked) id value) :
    after.service.done = (before.service.finish client id value).done := by
  funext other
  change (fun asked => (after.taskresult other).lookup asked) =
    Function.update before.service.done client (Function.update (before.service.done client) id value) other
  rw [changed]
  by_cases mine : other = client
  · subst other
    rw [Function.update_self, Function.update_self, entries]
    rfl
  · rw [Function.update_of_ne mine, Function.update_of_ne mine]
    rfl

/-- The service performs the task when its result comes back. -/
theorem service_fetch (owned : Owned workerId toolbox before) {client : C} {id : Bytes} {result : TaskResult}
    (known : Known before.submitted client id) (found : before.redis.lookup id = some result)
    (fetched : after.taskresult =
      Function.update before.taskresult client ((before.taskresult client).insert id result))
    (submitted : after.submitted = before.submitted) (returned : after.returned = before.returned) :
    before.service.Step workerId toolbox none after.service := by
  have stored := ResultTable.mem_of_lookup found
  obtain ⟨named, outcome⟩ := owned.attributed.stored (id, result) stored
  obtain ⟨task, own, sameId, made⟩ := outcome.answers named owned.attributed.distinct known
  have pending : ¬ Answered client task.taskId before := by
    rw [show task.taskId = id from sameId]
    exact owned.unanswered stored
  have waiting : after.service.waiting = before.service.waiting \ {(client, task)} := by
    ext entry
    have answers := @answered_fetch C S W before after _ client entry.1 id entry.2.taskId result fetched returned
    constructor
    · rintro ⟨member, still⟩
      rw [submitted] at member
      refine ⟨⟨member, fun answered => still (answers.mpr (.inl answered))⟩, ?_⟩
      rintro rfl
      exact still (answers.mpr (.inr ⟨rfl, sameId⟩))
    · rintro ⟨⟨member, unanswered⟩, different⟩
      refine ⟨submitted ▸ member, fun answered => ?_⟩
      rcases answers.mp answered with old | ⟨_, same⟩
      · exact unanswered old
      · exact different (entry_unique owned.attributed.distinct member own (same.trans sameId.symm))
  have done := service_done fetched (ResultTable.lookup_insert _ id result)
  rw [← show task.taskId = id from sameId] at done
  have views : after.service =
      { before.service.finish client task.taskId (some result) with
        waiting := before.service.waiting \ {(client, task)} } := Service.ext waiting done
  rw [views]
  exact .perform client task result ⟨own, pending⟩ made

/-- Results that a call takes from the table stay answered. -/
theorem answered_take {client other : C} {asked : Bytes} {left taken : ResultTable}
    (kept : ∀ entry, entry ∈ before.taskresult client ↔ entry ∈ left ∨ entry ∈ taken)
    (tables : after.taskresult = Function.update before.taskresult client left)
    (returned : after.returned = Function.update before.returned client (before.returned client ++ taken)) :
    Answered other asked after ↔ Answered other asked before := by
  unfold Answered
  rw [tables, returned]
  by_cases mine : other = client
  · subst other
    rw [Function.update_self, Function.update_self]
    have same (entry : Bytes × TaskResult) :
        entry ∈ left ++ (before.returned client ++ taken) ↔
          entry ∈ before.taskresult client ++ before.returned client := by
      simp only [List.mem_append, kept]
      tauto
    exact exists_congr fun entry => and_congr_left fun _ => same entry
  · rw [Function.update_of_ne mine, Function.update_of_ne mine]

omit [DecidableEq C] in
theorem service_waiting (submitted : after.submitted = before.submitted)
    (same : ∀ client id, Answered client id after ↔ Answered client id before) :
    after.service.waiting = before.service.waiting := by
  ext entry
  change entry ∈ after.submitted ∧ ¬ Answered _ _ after ↔ entry ∈ before.submitted ∧ ¬ Answered _ _ before
  rw [submitted, same]

theorem service_collect {client : C} {id : Bytes} {result : TaskResult}
    (found : (before.taskresult client).lookup id = some result)
    (keys : ((before.taskresult client).map Prod.fst).Nodup)
    (submitted : after.submitted = before.submitted)
    (tables : after.taskresult = Function.update before.taskresult client ((before.taskresult client).erase id))
    (returned : after.returned = Function.update before.returned client (before.returned client ++ [(id, result)])) :
    after.service = before.service.finish client id none := by
  have kept (entry : Bytes × TaskResult) :
      entry ∈ before.taskresult client ↔ entry ∈ (before.taskresult client).erase id ∨ entry ∈ [(id, result)] := by
    have member := ResultTable.mem_of_lookup found
    by_cases same : entry.1 = id
    · have only : entry ∈ before.taskresult client ↔ entry = (id, result) :=
        ⟨fun inside => List.inj_on_of_nodup_map keys inside member same, fun equal => equal ▸ member⟩
      simp [ResultTable.erase, same, only]
    · have other : entry ≠ (id, result) := fun equal => same (equal ▸ rfl)
      simp [ResultTable.erase, same, other]
  refine Service.ext (service_waiting submitted fun other asked => answered_take kept tables returned) ?_
  exact service_done tables (ResultTable.lookup_erase _ id)

theorem service_drain {client : C} {order : ResultTable} (reordered : order.Perm (before.taskresult client)) :
    (before.drain client order).service =
      { before.service with done := Function.update before.service.done client fun _ => none } := by
  have kept (entry : Bytes × TaskResult) : entry ∈ before.taskresult client ↔ entry ∈ [] ∨ entry ∈ order := by
    simp [reordered.mem_iff]
  refine Service.ext (service_waiting rfl fun other asked => answered_take kept rfl rfl) ?_
  funext other
  change (fun asked => (Function.update before.taskresult client [] other).lookup asked) =
    Function.update before.service.done client (fun _ => none) other
  by_cases mine : other = client
  · subst other
    rw [Function.update_self, Function.update_self]
    rfl
  · rw [Function.update_of_ne mine, Function.update_of_ne mine]
    rfl

end Views

/-! ## Refinement -/

section Refinement

variable [DecidableEq C] [DecidableEq S] [DecidableEq W]
variable {workerId : W → Bytes} {toolbox : ν → Worker.Execution} {before after : State C S W}

/-- The pipeline visits no other states because of the calls for all results. -/
theorem reachable_of_calls {state : State C S W} (reached : (calls workerId toolbox).ReachableBy DistinctCalls state) :
    (pipeline workerId toolbox).ReachableBy DistinctIds state := by
  refine reached.invariant .init fun before call after known permitted stepped => ?_
  cases call with
  | step action => exact .step known permitted stepped
  | getTaskResult client id =>
      cases stepped
      exact known
  | getAllTaskResult client order =>
      simp only [calls, callStep] at stepped
      split at stepped
      · cases stepped
        exact known
      · cases stepped
  | getAllTaskResultAndDelete client order =>
      simp only [calls, callStep] at stepped
      split at stepped
      · rename_i reordered
        cases stepped
        exact drain_reachable order known reordered
      · cases stepped

omit [DecidableEq W] in
theorem service_of_take (owned : Owned workerId toolbox before) {client : C} {id : Bytes}
    (stepped : clientStep before (.getTaskResultAndDelete client id : Action C S W ν) = some after) :
    after.service = before.service.finish client id none := by
  simp only [clientStep] at stepped
  split at stepped
  · rename_i result found
    cases stepped
    exact service_collect found (owned.keys_nodup client) rfl rfl rfl
  · rename_i absent
    cases stepped
    have empty : before.service.done client id = none := absent
    rw [Service.finish, ← empty, Function.update_eq_self, Function.update_eq_self]

/-- A step of the pipeline is a step of the service, or the service does not
notice it. -/
theorem service_of_step (owned : Owned workerId toolbox before) {action : Action C S W ν}
    (permitted : DistinctIds before action) (stepped : pipelineStep workerId toolbox before action = some after) :
    before.service.Step workerId toolbox (seen before (.step action)) after.service ∨
      seen before (.step action) = none ∧ after.service = before.service := by
  cases effect_of_step stepped with
  | submitOneTask client task => exact .inl (service_submit owned client [task] permitted)
  | submitMoreTask client tasks => exact .inl (service_submit owned client tasks permitted)
  | pollHit client id rest completed result querying found =>
      have known : Known before.submitted client id := by
        refine owned.attributed.queried client id ?_
        change id ∈ (before.polling client).remaining
        rw [querying]
        exact List.mem_cons_self
      exact .inl (service_fetch owned known found rfl rfl rfl)
  | take client id | takeNothing client id =>
      have collected : before.service.Step workerId toolbox
          (seen before (.step (.getTaskResultAndDelete client id) : Call C S W ν))
          (before.service.finish client id none) := .collect client id
      rw [← service_of_take owned stepped] at collected
      exact .inl collected
  | send | record | receive | publish | receiveTask | dispatch | execute | report | store | pollBegin | pollMiss
  | pollEnd | pollRemove => exact .inr ⟨rfl, rfl⟩

theorem calls_refine_service (workerId : W → Bytes) (toolbox : ν → Worker.Execution) :
    Specification.Refines ((calls workerId toolbox).observed DistinctCalls seen)
      (Service.specification workerId toolbox) (State.service : State C S W → Service C) := by
  refine ⟨?_, ?_⟩
  · refine Service.ext (Set.eq_empty_of_forall_notMem fun entry waits => ?_) rfl
    cases waits.1
  · rintro events before shown after occurred ⟨call, permitted, stepped, rfl⟩
    have owned := owned_of_reachable (reachable_of_calls (Machine.reachableBy_of_shows occurred))
    cases call with
    | step action => exact service_of_step owned permitted stepped
    | getTaskResult client id =>
        cases stepped
        exact .inl (.look client id)
    | getAllTaskResult client order =>
        simp only [calls, callStep] at stepped
        split at stepped
        · rename_i reordered
          cases stepped
          exact .inl (.list client _ (ResultTable.lists (owned.keys_nodup client) reordered))
        · cases stepped
    | getAllTaskResultAndDelete client order =>
        simp only [calls, callStep] at stepped
        split at stepped
        · rename_i reordered
          cases stepped
          rw [service_drain reordered]
          exact .inl (.drain client _ (ResultTable.lists (owned.keys_nodup client) reordered))
        · cases stepped

/-- Whatever clients see of the pipeline, in any order of its steps, they could
have seen of a service that performs each task once. -/
theorem pipeline_refines_service (workerId : W → Bytes) (toolbox : ν → Worker.Execution) (events : List (Event C))
    (state : State C S W) (shown : ((calls workerId toolbox).observed DistinctCalls seen).Shows events state) :
    (Service.specification workerId toolbox).Shows events state.service :=
  (calls_refine_service workerId toolbox).shows shown

end Refinement

/-- What the worker answers to `printTask`. -/
def printed (id : UInt8) : TaskResult :=
  Worker.execTask [119] (printing ()) []
    { printTask id with startSchedTime := 3, endSchedTime := 5, startWorkerTime := 7 }

/-- One client looks too early, later takes all its results, and finds nothing
more; the task of the other one is still on its way. -/
def session : List (Event Bool) :=
  [.submitted true [printTask 1], .submitted false [printTask 2], .looked true [1] {}, .listed true [printed 1],
    .drained true [printed 1], .collected true [1] {}]

theorem session_refines_service :
    ∃ state : State Bool Unit Unit,
      ((calls (fun _ : Unit => [119]) printing).observed DistinctCalls seen).Shows session state ∧
      (Service.specification (fun _ : Unit => [119]) printing).Shows session state.service := by
  have happens : ∃ state : State Bool Unit Unit,
      ((calls (fun _ : Unit => [119]) printing).observed DistinctCalls seen).Shows session state :=
    Machine.shows_of_any _ _ _
      [.step (.submitOneTask true (printTask 1)), .step (.submitMoreTask false [printTask 2]), .step (.send true ()),
        .step (.receive () 0 3), .getTaskResult true [1], .step (.publish () 5), .step (.receiveTask () 0 7),
        .step (.dispatch ()), .step (.execute () 0 () []), .step (.report ()), .step (.store 0), .step (.record true),
        .step (.pollBegin true), .step (.pollOne true), .getAllTaskResult true [([1], printed 1)],
        .getAllTaskResultAndDelete true [([1], printed 1)], .step (.getTaskResultAndDelete true [1])] (by decide)
  obtain ⟨state, shown⟩ := happens
  exact ⟨state, shown, pipeline_refines_service _ _ _ state shown⟩

end TaskHive.Pipeline
