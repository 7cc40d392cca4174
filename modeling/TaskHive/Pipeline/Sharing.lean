import TaskHive.Client.Polling
import TaskHive.Pipeline.Ownership

namespace TaskHive.Pipeline

open TaskHive.Wire

/-! # Clients that share one Redis

The results of all clients are in one Redis, under the bytes of the task id
before its first zero byte.  A poll is `HGET`, `HDEL` and the parse, one step
each, so the polls of the clients interleave with each other and with the
scheduler's stores.  A task reaches the worker as it was sent; the results take
the hop of the result queue. -/

/-- `travelling` are tasks between a client and the worker that executes them.
No step reads the clients that are paired with tasks and results, `owner` (whose
result is under each key), `submitted` or `deletions` (who deleted whose
result). -/
structure Shared (C : Type) where
  recording : C → Option Bytes := fun _ => none
  pollers : C → Client.Poller := fun _ => {}
  travelling : List (C × Task) := []
  resultQueue : List (C × TaskResult) := []
  store : Redis.Store := .empty
  owner : Bytes → Option C := fun _ => none
  submitted : List (C × Task) := []
  deletions : List (C × C) := []

/-- The three times that a task is given on its way. -/
structure Times where
  scheduled : Int64
  published : Int64
  arrived : Int64

def Times.stamp (times : Times) (task : Task) : Task :=
  Worker.stampArrival times.arrived { Scheduler.stamp times.scheduled task with endSchedTime := times.published }

inductive SharedAction (C W ν : Type) where
  | send (client : C) (task : Task)
  | record (client : C)
  | execute (index : Nat) (times : Times) (worker : W) (nonce : ν) (order : List (Bytes × Bytes))
  | store (index : Nat) (env : Scheduler.StoreEnv)
  | expire (key : Bytes)
  | poll (client : C) (action : Client.PollAction)

/-- Redis after the scheduler's callback, unless the result queue refuses the
message. -/
def storeArrived (env : Scheduler.StoreEnv) (store : Redis.Store) (result : TaskResult) : Option Redis.Store :=
  match MessageQueue.resultHop Scheduler.storeResult env { store, returned := false } result with
  | .ok run => run.handled.head?.map fun handled => handled.state.store
  | .error _ => none

/-- The key whose value a step of a poll makes Redis delete. -/
def deletedKey (poller : Client.Poller) : Client.PollAction → Option Bytes
  | .delete outcome =>
      match poller.pc with
      | .deleting _ taskid _ _ => if outcome.executed then some (cString taskid) else none
      | _ => none
  | _ => none

section Steps

variable {C W ν : Type} [DecidableEq C]

def sharedStep (workerId : W → Bytes) (toolbox : ν → Worker.Execution) (state : Shared C) :
    SharedAction C W ν → Option (Shared C)
  | .send client task =>
      match state.recording client with
      | none =>
          some { state with
            travelling := state.travelling ++ [(client, task)]
            recording := Function.update state.recording client (some task.taskId)
            submitted := state.submitted ++ [(client, task)] }
      | some _ => none
  | .record client =>
      match state.recording client with
      | some taskid =>
          ((state.pollers client).append taskid).map fun poller =>
            { state with
              pollers := Function.update state.pollers client poller
              recording := Function.update state.recording client none }
      | none => none
  | .execute index times worker nonce order =>
      match state.travelling[index]? with
      | some (client, task) =>
          if Iterates order task.metadata then
            some { state with
              travelling := state.travelling.eraseIdx index
              resultQueue := state.resultQueue ++
                [(client, Worker.execTask (workerId worker) (toolbox nonce) order (times.stamp task))] }
          else none
      | none => none
  | .store index env =>
      match state.resultQueue[index]? with
      | some (client, result) =>
          match storeArrived env state.store result with
          | some store =>
              some { state with
                resultQueue := state.resultQueue.eraseIdx index
                store
                owner := if env.hset.executed then
                    Function.update state.owner (cString result.taskId) (some client)
                  else state.owner }
          | none => some { state with resultQueue := state.resultQueue.eraseIdx index }
      | none => none
  | .expire key =>
      some { state with
        store := state.store.apply (.expired key)
        owner := Function.update state.owner (cString key) none }
  | .poll client action =>
      (Client.pollStep (state.pollers client) state.store action).map fun (poller, store) =>
        let deleted := deletedKey (state.pollers client) action
        { state with
          pollers := Function.update state.pollers client poller
          store
          owner := deleted.elim state.owner fun key => Function.update state.owner key none
          deletions := state.deletions ++ (deleted.bind state.owner).toList.map fun owner => (client, owner) }

def sharing (workerId : W → Bytes) (toolbox : ν → Worker.Execution) :
    Machine (Shared C) (SharedAction C W ν) where
  init := {}
  step := sharedStep workerId toolbox

/-- What a client keeps is the result of a task of its own, and what it deletes
from Redis is its own. -/
def NoInterference (workerId : W → Bytes) (toolbox : ν → Worker.Execution) (state : Shared C) : Prop :=
  (∀ client taskid result, (state.pollers client).taskresult taskid = some result →
    IsAnswer workerId toolbox state.submitted client (taskid, result)) ∧
    ∀ entry ∈ state.deletions, entry.1 = entry.2

/-- A task that is submitted shares its Redis key with earlier tasks of the same
client and the same id only. -/
def OwnKeys (state : Shared C) : SharedAction C W ν → Prop
  | .send client task => ∀ entry ∈ state.submitted, cString entry.2.taskId = cString task.taskId →
      entry.1 = client ∧ entry.2.taskId = task.taskId
  | _ => True

instance (state : Shared C) : (action : SharedAction C W ν) → Decidable (OwnKeys state action)
  | .send client task => inferInstanceAs (Decidable (∀ entry ∈ state.submitted,
      cString entry.2.taskId = cString task.taskId → entry.1 = client ∧ entry.2.taskId = task.taskId))
  | .record _ | .execute _ _ _ _ _ | .store _ _ | .expire _ | .poll _ _ => inferInstanceAs (Decidable True)

end Steps

/-! ## What one client has -/

section OneClient

variable {C W ν : Type} {workerId : W → Bytes} {toolbox : ν → Worker.Execution}
  {submitted : List (C × Task)} {client : C}

/-- The ids that the round has still to deal with. -/
def asked : Client.PollPc → List Bytes
  | .querying _ remaining => remaining
  | .deleting _ taskid _ remaining | .parsing _ taskid _ remaining => taskid :: remaining
  | .resting | .removing _ => []

/-- The text that was read and is not parsed yet, with its id. -/
def inHand : Client.PollPc → Option (Bytes × Bytes)
  | .deleting _ taskid text _ | .parsing _ taskid text _ => some (taskid, text)
  | .resting | .querying _ _ | .removing _ => none

/-- If the text is a result, it is the result of a task of the client. -/
def Answers (workerId : W → Bytes) (toolbox : ν → Worker.Execution) (submitted : List (C × Task)) (client : C)
    (taskid text : Bytes) : Prop :=
  ∀ result, TaskResult.parseFromString text = some result →
    IsAnswer workerId toolbox submitted client (taskid, result)

structure OwnPoller (workerId : W → Bytes) (toolbox : ν → Worker.Execution) (submitted : List (C × Task))
    (client : C) (poller : Client.Poller) : Prop where
  distributed : ∀ taskid ∈ poller.distributionTaskid, Known submitted client taskid
  asked : ∀ taskid ∈ asked poller.pc, Known submitted client taskid
  inHand : ∀ taskid text, inHand poller.pc = some (taskid, text) →
    Answers workerId toolbox submitted client taskid text
  kept : ∀ taskid result, poller.taskresult taskid = some result →
    IsAnswer workerId toolbox submitted client (taskid, result)

theorem ownPoller_init : OwnPoller workerId toolbox submitted client {} := by
  refine ⟨?_, ?_, ?_, ?_⟩ <;> simp [Pipeline.asked, Pipeline.inHand]

theorem removeCompleted_subset (completed ids : List Bytes) : Client.removeCompleted completed ids ⊆ ids := by
  rw [Client.removeCompleted, Client.foldl_filter_ne]
  exact List.filter_subset_self ids

/-- A step of the poll, with a Redis that answers every id of the client by the
client's own results. -/
theorem OwnPoller.move {poller after : Client.Poller} {store later : Redis.Store}
    (own : OwnPoller workerId toolbox submitted client poller)
    (answered : ∀ taskid text, Known submitted client taskid → store.results.lookup (cString taskid) = some text →
      Answers workerId toolbox submitted client taskid text)
    (moved : Client.PollMove poller store after later) : OwnPoller workerId toolbox submitted client after := by
  cases moved with
  | begin resting => exact { own with asked := own.distributed, inHand := by simp [Pipeline.inHand] }
  | missing round taskid rest querying =>
      have known := own.asked
      rw [querying] at known
      exact { own with
        asked := fun other member => known other (List.mem_cons_of_mem taskid member)
        inHand := by simp [Pipeline.inHand] }
  | found round taskid text rest querying stored =>
      have known := own.asked
      rw [querying] at known
      refine { own with asked := known, inHand := ?_ }
      rintro _ _ ⟨⟩
      exact answered taskid text (known taskid List.mem_cons_self) stored
  | delete round taskid text rest outcome deleting =>
      have known := own.asked
      have answers := own.inHand
      rw [deleting] at known answers
      exact { own with asked := known, inHand := answers }
  | keep round taskid text rest result parsing parsed =>
      have known := own.asked
      rw [parsing] at known
      have answers := own.inHand taskid text (by rw [parsing, Pipeline.inHand])
      refine { own with
        asked := fun other member => known other (List.mem_cons_of_mem taskid member)
        inHand := by simp [Pipeline.inHand]
        kept := ?_ }
      intro other found stored
      by_cases same : other = taskid
      · subst other
        simp only [Function.update_self, Option.some.injEq] at stored
        subst found
        exact answers result parsed
      · simp only [Function.update_of_ne same] at stored
        exact own.kept other found stored
  | refuse round taskid text rest parsing =>
      have known := own.asked
      rw [parsing] at known
      exact { own with
        asked := fun other member => known other (List.mem_cons_of_mem taskid member)
        inHand := by simp [Pipeline.inHand] }
  | unlock round querying =>
      exact { own with asked := by simp [Pipeline.asked], inHand := by simp [Pipeline.inHand] }
  | remove round removing =>
      exact { own with
        distributed := fun taskid member => own.distributed taskid (removeCompleted_subset _ _ member)
        asked := by simp [Pipeline.asked]
        inHand := by simp [Pipeline.inHand] }

theorem OwnPoller.append {poller after : Client.Poller} {taskid : Bytes}
    (own : OwnPoller workerId toolbox submitted client poller) (known : Known submitted client taskid)
    (appended : poller.append taskid = some after) : OwnPoller workerId toolbox submitted client after := by
  unfold Client.Poller.append at appended
  split at appended
  · cases appended
  · rename_i free
    cases appended
    have idle : Pipeline.asked poller.pc = [] ∧ Pipeline.inHand poller.pc = none := by
      cases place : poller.pc <;> simp_all [Pipeline.asked, Pipeline.inHand, Client.PollPc.locked]
    refine { own with
      distributed := forall_mem_concat own.distributed known
      asked := ?_
      inHand := ?_ } <;>
    · cases place : poller.pc <;> simp_all [Pipeline.asked, Pipeline.inHand]

theorem OwnPoller.mono {poller : Client.Poller} {more : List (C × Task)} (grown : submitted ⊆ more)
    (own : OwnPoller workerId toolbox submitted client poller) :
    OwnPoller workerId toolbox more client poller := by
  have known (taskid : Bytes) : Known submitted client taskid → Known more client taskid :=
    fun ⟨task, member, named⟩ => ⟨task, grown member, named⟩
  have answer (entry : Bytes × TaskResult) : IsAnswer workerId toolbox submitted client entry →
      IsAnswer workerId toolbox more client entry :=
    fun ⟨task, member, named, made⟩ => ⟨task, grown member, named, made⟩
  exact {
    distributed := fun taskid member => known taskid (own.distributed taskid member)
    asked := fun taskid member => known taskid (own.asked taskid member)
    inHand := fun taskid text held result parsed => answer _ (own.inHand taskid text held result parsed)
    kept := fun taskid result stored => answer _ (own.kept taskid result stored) }

end OneClient

/-! ## What all clients have together -/

section AllClients

variable {C W ν : Type} {workerId : W → Bytes} {toolbox : ν → Worker.Execution} {state : Shared C}

/-- The task of a client and the result that some worker made of it. -/
def MadeFor (workerId : W → Bytes) (toolbox : ν → Worker.Execution) (submitted : List (C × Task)) (client : C)
    (result : TaskResult) : Prop :=
  ∃ task, (client, task) ∈ submitted ∧ ResultOf workerId toolbox task result

structure Isolated (workerId : W → Bytes) (toolbox : ν → Worker.Execution) (state : Shared C) : Prop where
  keyed : ∀ left ∈ state.submitted, ∀ right ∈ state.submitted,
    cString left.2.taskId = cString right.2.taskId → left.1 = right.1 ∧ left.2.taskId = right.2.taskId
  recorded : ∀ client taskid, state.recording client = some taskid → Known state.submitted client taskid
  pollers : ∀ client, OwnPoller workerId toolbox state.submitted client (state.pollers client)
  travelling : ∀ entry ∈ state.travelling, entry ∈ state.submitted
  results : ∀ entry ∈ state.resultQueue, MadeFor workerId toolbox state.submitted entry.1 entry.2
  stored : ∀ key text, state.store.results.lookup key = some text →
    ∃ client result, MadeFor workerId toolbox state.submitted client result ∧ cString result.taskId = key ∧
      TaskResult.parseFromString text = some result
  owner : ∀ key client, state.owner key = some client →
    ∃ task, (client, task) ∈ state.submitted ∧ cString task.taskId = key
  deletions : ∀ entry ∈ state.deletions, entry.1 = entry.2

theorem isolated_init : Isolated workerId toolbox ({} : Shared C) where
  keyed := by simp
  recorded := by simp
  pollers _ := ownPoller_init
  travelling := by simp
  results := by simp
  stored := by simp [Redis.Store.empty]
  owner := by simp
  deletions := by simp

/-- Redis answers an id of a client by a result of that client. -/
theorem Isolated.answered (isolated : Isolated workerId toolbox state) {client : C} {taskid text : Bytes}
    (known : Known state.submitted client taskid)
    (found : state.store.results.lookup (cString taskid) = some text) :
    Answers workerId toolbox state.submitted client taskid text := by
  intro result parsed
  obtain ⟨own, ownMember, rfl⟩ := known
  obtain ⟨maker, made, ⟨task, member, outcome⟩, sameKey, parses⟩ := isolated.stored _ text found
  rw [parses, Option.some.injEq] at parsed
  subst made
  rw [outcome.taskId] at sameKey
  obtain ⟨rfl, sameId⟩ := isolated.keyed _ member _ ownMember sameKey
  exact ⟨task, member, sameId, outcome⟩

/-- The result under the key of an id of a client belongs to that client. -/
theorem Isolated.owner_eq (isolated : Isolated workerId toolbox state) {client owner : C} {taskid : Bytes}
    (known : Known state.submitted client taskid) (owned : state.owner (cString taskid) = some owner) :
    client = owner := by
  obtain ⟨own, ownMember, rfl⟩ := known
  obtain ⟨task, member, sameKey⟩ := isolated.owner _ owner owned
  exact (isolated.keyed _ ownMember _ member sameKey.symm).1

theorem Isolated.execute (isolated : Isolated workerId toolbox state) {index : Nat} {client : C} {task : Task}
    (found : state.travelling[index]? = some (client, task)) (times : Times) (worker : W) (nonce : ν)
    {order : List (Bytes × Bytes)} (iterates : Iterates order task.metadata) :
    Isolated workerId toolbox { state with
      travelling := state.travelling.eraseIdx index
      resultQueue := state.resultQueue ++
        [(client, Worker.execTask (workerId worker) (toolbox nonce) order (times.stamp task))] } := by
  have submitted := isolated.travelling _ (List.mem_of_getElem? found)
  refine { isolated with travelling := ?_, results := ?_ }
  · exact fun entry member => isolated.travelling entry (List.mem_of_mem_eraseIdx member)
  · refine forall_mem_concat isolated.results ⟨task, submitted, ?_⟩
    exact ⟨worker, nonce, order, times.stamp task, ⟨rfl, rfl, rfl, rfl, rfl⟩, iterates, rfl⟩

theorem storeArrived_some {env : Scheduler.StoreEnv} {store after : Redis.Store} {result : TaskResult}
    (arrived : storeArrived env store result = some after) :
    result.Transparent ∧
      after = if env.hset.executed then store.hset result.taskId result.serializeToString else store := by
  unfold storeArrived at arrived
  rcases MessageQueue.resultHop_cases result Scheduler.storeResult env { store, returned := false } with
    ⟨delivered, clean⟩ | ⟨threw, _⟩
  · rw [delivered] at arrived
    refine ⟨clean, ?_⟩
    cases arrived
    simp only [Scheduler.storeResult, Redis.setTaskResult]
    split <;> rfl
  · rw [threw] at arrived
    cases arrived

theorem Isolated.store (isolated : Isolated workerId toolbox state) {index : Nat} {client : C}
    {result : TaskResult} {env : Scheduler.StoreEnv} {store : Redis.Store}
    (found : state.resultQueue[index]? = some (client, result))
    (arrived : storeArrived env state.store result = some store) :
    Isolated workerId toolbox { state with
      resultQueue := state.resultQueue.eraseIdx index
      store
      owner := if env.hset.executed then
          Function.update state.owner (cString result.taskId) (some client)
        else state.owner } := by
  obtain ⟨clean, after⟩ := storeArrived_some arrived
  have fewer : ∀ entry ∈ state.resultQueue.eraseIdx index,
      MadeFor workerId toolbox state.submitted entry.1 entry.2 :=
    fun entry member => isolated.results entry (List.mem_of_mem_eraseIdx member)
  by_cases executed : env.hset.executed = true
  · rw [if_pos executed] at after ⊢
    have made := isolated.results _ (List.mem_of_getElem? found)
    refine { isolated with results := fewer, stored := ?_, owner := ?_ }
    · intro key text kept
      subst after
      by_cases same : key = cString result.taskId
      · subst key
        simp only [Redis.Store.hset, Finmap.lookup_insert, Option.some.injEq] at kept
        subst text
        exact ⟨client, result, made, rfl, Client.parse_stored clean⟩
      · simp only [Redis.Store.hset, Finmap.lookup_insert_of_ne _ same] at kept
        exact isolated.stored key text kept
    · intro key other owned
      by_cases same : key = cString result.taskId
      · subst key
        simp only [Function.update_self, Option.some.injEq] at owned
        subst other
        obtain ⟨task, member, outcome⟩ := made
        exact ⟨task, member, by rw [outcome.taskId]⟩
      · simp only [Function.update_of_ne same] at owned
        exact isolated.owner key other owned
  · rw [if_neg executed] at after ⊢
    subst after
    exact { isolated with results := fewer }

/-- What is left in Redis after a deletion was there before. -/
theorem Isolated.erase (isolated : Isolated workerId toolbox state) (key : Bytes) :
    Isolated workerId toolbox { state with
      store := state.store.hdel key
      owner := Function.update state.owner (cString key) none } := by
  refine { isolated with stored := ?_, owner := ?_ }
  · intro other text kept
    by_cases same : other = cString key
    · subst other
      simp [Redis.Store.hdel, Finmap.lookup_erase] at kept
    · simp only [Redis.Store.hdel, Finmap.lookup_erase_ne same] at kept
      exact isolated.stored other text kept
  · intro other client owned
    by_cases same : other = cString key
    · subst other
      simp at owned
    · simp only [Function.update_of_ne same] at owned
      exact isolated.owner other client owned

variable [DecidableEq C]

theorem Isolated.setPoller (isolated : Isolated workerId toolbox state) {client : C} {poller : Client.Poller}
    (own : OwnPoller workerId toolbox state.submitted client poller) (other : C) :
    OwnPoller workerId toolbox state.submitted other (Function.update state.pollers client poller other) :=
  (Function.forall_update_iff state.pollers fun other poller =>
    OwnPoller workerId toolbox state.submitted other poller).mpr ⟨own, fun other _ => isolated.pollers other⟩ other

theorem Isolated.send (isolated : Isolated workerId toolbox state) {client : C} {task : Task}
    (ownKey : ∀ entry ∈ state.submitted, cString entry.2.taskId = cString task.taskId →
      entry.1 = client ∧ entry.2.taskId = task.taskId) :
    Isolated workerId toolbox { state with
      travelling := state.travelling ++ [(client, task)]
      recording := Function.update state.recording client (some task.taskId)
      submitted := state.submitted ++ [(client, task)] } := by
  have grown : state.submitted ⊆ state.submitted ++ [(client, task)] := List.subset_append_left _ _
  have own : (client, task) ∈ state.submitted ++ [(client, task)] := by simp
  refine
    { keyed := ?_
      recorded := ?_
      pollers := fun other => (isolated.pollers other).mono grown
      travelling := forall_mem_concat (fun entry member => grown (isolated.travelling entry member)) own
      results := fun entry member => ?_
      stored := fun key text found => ?_
      owner := fun key other owned => ?_
      deletions := isolated.deletions }
  · intro left leftMember right rightMember same
    rcases List.mem_append.mp leftMember with old | new <;>
      rcases List.mem_append.mp rightMember with older | newer
    · exact isolated.keyed left old right older same
    · cases List.mem_singleton.mp newer
      exact ownKey left old same
    · cases List.mem_singleton.mp new
      exact (ownKey right older same.symm).imp Eq.symm Eq.symm
    · cases List.mem_singleton.mp new
      cases List.mem_singleton.mp newer
      exact ⟨rfl, rfl⟩
  · intro other taskid recorded
    by_cases same : other = client
    · subst other
      simp only [Function.update_self, Option.some.injEq] at recorded
      exact ⟨task, own, recorded⟩
    · simp only [Function.update_of_ne same] at recorded
      obtain ⟨known, member, named⟩ := isolated.recorded other taskid recorded
      exact ⟨known, grown member, named⟩
  · obtain ⟨made, maker, outcome⟩ := isolated.results entry member
    exact ⟨made, grown maker, outcome⟩
  · obtain ⟨maker, made, ⟨source, member, outcome⟩, sameKey, parses⟩ := isolated.stored key text found
    exact ⟨maker, made, ⟨source, grown member, outcome⟩, sameKey, parses⟩
  · obtain ⟨source, member, sameKey⟩ := isolated.owner key other owned
    exact ⟨source, grown member, sameKey⟩

theorem Isolated.record (isolated : Isolated workerId toolbox state) {client : C} {taskid : Bytes}
    {poller : Client.Poller} (recorded : state.recording client = some taskid)
    (appended : (state.pollers client).append taskid = some poller) :
    Isolated workerId toolbox { state with
      pollers := Function.update state.pollers client poller
      recording := Function.update state.recording client none } := by
  refine { isolated with recorded := ?_, pollers := ?_ }
  · intro other name found
    by_cases same : other = client
    · subst other
      simp at found
    · simp only [Function.update_of_ne same] at found
      exact isolated.recorded other name found
  · exact isolated.setPoller
      ((isolated.pollers client).append (isolated.recorded client taskid recorded) appended)

theorem pollStep_store {poller after : Client.Poller} {store later : Redis.Store} {action : Client.PollAction}
    (stepped : Client.pollStep poller store action = some (after, later)) :
    (deletedKey poller action = none ∧ later = store) ∨
      ∃ taskid ∈ asked poller.pc, deletedKey poller action = some (cString taskid) ∧
        later = store.hdel taskid := by
  cases action with
  | delete outcome =>
      simp only [Client.pollStep] at stepped
      split at stepped
      · rename_i round taskid text rest deleting
        cases stepped
        cases executed : outcome.executed with
        | true => exact .inr ⟨taskid, by simp [deleting, asked], by simp [deletedKey, deleting, executed], rfl⟩
        | false => exact .inl ⟨by simp [deletedKey, deleting, executed], rfl⟩
      · cases stepped
  | begin | query | keep | unlock | remove =>
      refine .inl ⟨rfl, ?_⟩
      simp only [Client.pollStep] at stepped
      repeat' split at stepped
      all_goals cases stepped
      all_goals rfl

theorem Isolated.poll (isolated : Isolated workerId toolbox state) {client : C} {action : Client.PollAction}
    {poller : Client.Poller} {store : Redis.Store}
    (stepped : Client.pollStep (state.pollers client) state.store action = some (poller, store)) :
    let deleted := deletedKey (state.pollers client) action
    Isolated workerId toolbox { state with
      pollers := Function.update state.pollers client poller
      store
      owner := deleted.elim state.owner fun key => Function.update state.owner key none
      deletions := state.deletions ++ (deleted.bind state.owner).toList.map fun owner => (client, owner) } := by
  intro deleted
  have moved := isolated.setPoller
    ((isolated.pollers client).move (fun _ _ => isolated.answered) (Client.pollMove_of_pollStep stepped))
  rcases pollStep_store stepped with ⟨nothing, rfl⟩ | ⟨taskid, pending, key, rfl⟩
  · simp only [deleted, nothing, Option.elim_none, Option.bind_none, Option.toList_none, List.map_nil,
      List.append_nil]
    exact { isolated with pollers := moved }
  · have known := (isolated.pollers client).asked taskid pending
    simp only [deleted, key, Option.elim_some, Option.bind_some]
    refine { isolated.erase taskid with pollers := moved, deletions := ?_ }
    intro entry member
    rcases List.mem_append.mp member with old | new
    · exact isolated.deletions entry old
    · obtain ⟨owner, owned, rfl⟩ := List.mem_map.mp new
      exact isolated.owner_eq known (Option.mem_toList.mp owned)

theorem isolated_step {after : Shared C} {action : SharedAction C W ν}
    (isolated : Isolated workerId toolbox state) (permitted : OwnKeys state action)
    (stepped : sharedStep workerId toolbox state action = some after) : Isolated workerId toolbox after := by
  cases action with
  | send client task =>
      simp only [sharedStep] at stepped
      split at stepped
      · cases stepped
        exact isolated.send permitted
      · cases stepped
  | record client =>
      simp only [sharedStep] at stepped
      split at stepped
      · rename_i taskid recorded
        obtain ⟨poller, appended, rfl⟩ := Option.map_eq_some_iff.mp stepped
        exact isolated.record recorded appended
      · cases stepped
  | execute index times worker nonce order =>
      simp only [sharedStep] at stepped
      split at stepped
      · rename_i client task found
        split at stepped
        · rename_i iterates
          cases stepped
          exact isolated.execute found times worker nonce iterates
        · cases stepped
      · cases stepped
  | store index env =>
      simp only [sharedStep] at stepped
      split at stepped
      · rename_i client result found
        split at stepped
        · rename_i store arrived
          cases stepped
          exact isolated.store found arrived
        · cases stepped
          exact { isolated with
            results := fun entry member => isolated.results entry (List.mem_of_mem_eraseIdx member) }
      · cases stepped
  | expire key =>
      cases stepped
      exact isolated.erase key
  | poll client action =>
      obtain ⟨⟨poller, store⟩, moved, rfl⟩ := Option.map_eq_some_iff.mp stepped
      exact isolated.poll moved

/-- As long as every task has a Redis key that no other client and no other id
has, every client keeps results of its own tasks and deletes nothing else. -/
theorem clients_do_not_interfere (workerId : W → Bytes) (toolbox : ν → Worker.Execution) {state : Shared C}
    (reached : (sharing workerId toolbox).ReachableBy OwnKeys state) : NoInterference workerId toolbox state := by
  have isolated : Isolated workerId toolbox state :=
    reached.invariant isolated_init fun _ _ _ isolated permitted stepped =>
      isolated_step isolated permitted stepped
  exact ⟨fun client => (isolated.pollers client).kept, isolated.deletions⟩

end AllClients

/-- The client submits the task, a worker executes it and its result is stored. -/
def deliver (client : Bool) (task : Task) : List (SharedAction Bool Unit Unit) :=
  [.send client task, .record client, .execute 0 ⟨3, 5, 7⟩ () () [],
    .store 0 { hset := .ok, expire := some (.integer 1) }]

/-- The client asks for the one id that it has submitted. -/
def pollOnce (client : Bool) : List (SharedAction Bool Unit Unit) :=
  [.poll client .begin, .poll client (.query true), .poll client (.delete .ok), .poll client .keep]

/-- Two clients with ids of their own; each gets its own result. -/
theorem distinct_clients_do_not_interfere :
    ∃ state : Shared Bool, (sharing (fun _ : Unit => [119]) printing).ReachableBy OwnKeys state ∧
      ((state.pollers true).taskresult [1]).map TaskResult.output = some [1, 1] ∧
      ((state.pollers false).taskresult [2]).map TaskResult.output = some [2, 2] ∧
      state.deletions = [(true, true), (false, false)] ∧ NoInterference (fun _ : Unit => [119]) printing state := by
  obtain ⟨state, reached, first, second, deletions⟩ :=
    (sharing (fun _ : Unit => [119]) printing).reachableBy_of_any OwnKeys
      (fun state : Shared Bool =>
        ((state.pollers true).taskresult [1]).map TaskResult.output = some [1, 1] ∧
        ((state.pollers false).taskresult [2]).map TaskResult.output = some [2, 2] ∧
        state.deletions = [(true, true), (false, false)])
      (deliver true (printTask 1) ++ deliver false (printTask 2) ++ pollOnce true ++ pollOnce false) (by decide)
  exact ⟨state, reached, first, second, deletions, clients_do_not_interfere _ _ reached⟩

/-- Two clients submit different tasks under one id.  The second client finds
the result of the first one's task, deletes it from Redis and keeps it. -/
theorem equal_ids_interfere :
    ∃ state : Shared Bool, (sharing (fun _ : Unit => [119]) printing).Reachable state ∧
      state.submitted = [(true, printTask 1), (false, { printTask 2 with taskId := [1] })] ∧
      ((state.pollers false).taskresult [1]).map TaskResult.output = some [1, 1] ∧
      state.deletions = [(false, true)] ∧ ¬ NoInterference (fun _ : Unit => [119]) printing state := by
  obtain ⟨state, reached, submitted, kept, deletions⟩ :=
    (sharing (fun _ : Unit => [119]) printing).reachableBy_of_any (fun _ _ => True)
      (fun state : Shared Bool =>
        state.submitted = [(true, printTask 1), (false, { printTask 2 with taskId := [1] })] ∧
        ((state.pollers false).taskresult [1]).map TaskResult.output = some [1, 1] ∧
        state.deletions = [(false, true)])
      (deliver true (printTask 1) ++
        [.send false { printTask 2 with taskId := [1] }, .record false] ++ pollOnce false) (by decide)
  refine ⟨state, reached, submitted, kept, deletions, ?_⟩
  rintro ⟨_, own⟩
  simpa [deletions] using own (false, true)

end TaskHive.Pipeline
