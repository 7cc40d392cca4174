import Mathlib.Data.List.Count
import Mathlib.Data.List.Perm.Basic
import Mathlib.Logic.Function.Basic
import TaskHive.Client.Fetch
import TaskHive.Machine

namespace TaskHive.Client

open TaskHive.Wire TaskHive.Redis

/-! # `consume_task_resultfunction`

A round asks Redis for every id while it holds `distribution_taskid_mutex_`,
lets the mutex go, and takes it again to remove the ids it got a result for.
The removal is by value.  Between the two critical sections the submit thread
may append ids; Redis changes at any time. -/

/-- The local `completed_tasks` of a round, which gets one entry for each
result that is stored.  The other two fields only record the round: the
occurrences that were asked for and left without a result, and the ids that
were appended since the mutex was let go. -/
structure Round where
  completedTasks : List Bytes := []
  unanswered : List Bytes := []
  appended : List Bytes := []
deriving DecidableEq

def Round.complete (round : Round) (taskid : Bytes) : Round :=
  { round with completedTasks := round.completedTasks ++ [taskid] }

def Round.leave (round : Round) (taskid : Bytes) : Round :=
  { round with unanswered := round.unanswered ++ [taskid] }

def Round.append (round : Round) (taskid : Bytes) : Round :=
  { round with appended := round.appended ++ [taskid] }

inductive PollPc where
  | resting
  | querying (round : Round) (remaining : List Bytes)
  | deleting (round : Round) (taskid text : Bytes) (remaining : List Bytes)
  | parsing (round : Round) (taskid text : Bytes) (remaining : List Bytes)
  | removing (round : Round)
deriving DecidableEq

/-- Whether the polling thread holds `distribution_taskid_mutex_`. -/
def PollPc.locked : PollPc → Bool
  | .querying _ _ | .deleting _ _ _ _ | .parsing _ _ _ _ => true
  | .resting | .removing _ => false

/-- A round that is over, with `distribution_taskid_` around its removal. -/
structure Finished where
  round : Round
  before : List Bytes
  after : List Bytes
deriving DecidableEq

structure Poller where
  distributionTaskid : List Bytes := []
  taskresult : Bytes → Option TaskResult := fun _ => none
  pc : PollPc := .resting
  finished : List Finished := []

/-- One `erase(remove(…))` for each completed task. -/
def removeCompleted (completedTasks distributionTaskid : List Bytes) : List Bytes :=
  completedTasks.foldl (fun ids taskid => ids.filter fun id => id ≠ taskid) distributionTaskid

/-- The append at the end of an iteration of `submit_task_threadfunction`. -/
def Poller.append (poller : Poller) (taskid : Bytes) : Option Poller :=
  if poller.pc.locked then none
  else
    some { poller with
      distributionTaskid := poller.distributionTaskid ++ [taskid]
      pc := match poller.pc with
        | .removing round => .removing (round.append taskid)
        | other => other }

/-- The text that `getTaskResult` returns; `answered` is false when no reply
to `HGET` arrives. -/
def ask (store : Store) (answered : Bool) (taskid : Bytes) : Bytes :=
  getTaskResult (if answered then some (store.hget taskid) else none)

inductive PollAction where
  | begin
  | query (answered : Bool)
  | delete (outcome : Outcome)
  | keep
  | unlock
  | remove

def pollStep (poller : Poller) (store : Store) : PollAction → Option (Poller × Store)
  | .begin =>
      match poller.pc with
      | .resting => some ({ poller with pc := .querying {} poller.distributionTaskid }, store)
      | _ => none
  | .query answered =>
      match poller.pc with
      | .querying round (taskid :: rest) =>
          if fetch (ask store answered taskid) = .missing then
            some ({ poller with pc := .querying (round.leave taskid) rest }, store)
          else some ({ poller with pc := .deleting round taskid (ask store answered taskid) rest }, store)
      | _ => none
  | .delete outcome =>
      match poller.pc with
      | .deleting round taskid text rest =>
          some ({ poller with pc := .parsing round taskid text rest },
            if outcome.executed then store.hdel taskid else store)
      | _ => none
  | .keep =>
      match poller.pc with
      | .parsing round taskid text rest =>
          match fetch text with
          | .kept result =>
              some ({ poller with
                taskresult := Function.update poller.taskresult taskid (some result)
                pc := .querying (round.complete taskid) rest }, store)
          -- a text that does not parse is only logged, and it is gone from Redis
          | _ => some ({ poller with pc := .querying (round.leave taskid) rest }, store)
      | _ => none
  | .unlock =>
      match poller.pc with
      | .querying round [] => some ({ poller with pc := .removing round }, store)
      | _ => none
  | .remove =>
      match poller.pc with
      | .removing round =>
          let after := removeCompleted round.completedTasks poller.distributionTaskid
          some ({ poller with
            distributionTaskid := after
            pc := .resting
            finished := poller.finished ++ [{ round, before := poller.distributionTaskid, after }] }, store)
      | _ => none

/-- What one step of the polling thread can do. -/
inductive PollMove (poller : Poller) (store : Store) : Poller → Store → Prop where
  | begin (resting : poller.pc = .resting) :
      PollMove poller store { poller with pc := .querying {} poller.distributionTaskid } store
  | missing (round : Round) (taskid : Bytes) (rest : List Bytes)
      (querying : poller.pc = .querying round (taskid :: rest)) :
      PollMove poller store { poller with pc := .querying (round.leave taskid) rest } store
  | found (round : Round) (taskid text : Bytes) (rest : List Bytes)
      (querying : poller.pc = .querying round (taskid :: rest))
      (stored : store.results.lookup (cString taskid) = some text) :
      PollMove poller store { poller with pc := .deleting round taskid text rest } store
  | delete (round : Round) (taskid text : Bytes) (rest : List Bytes) (outcome : Outcome)
      (deleting : poller.pc = .deleting round taskid text rest) :
      PollMove poller store { poller with pc := .parsing round taskid text rest }
        (if outcome.executed then store.hdel taskid else store)
  | keep (round : Round) (taskid text : Bytes) (rest : List Bytes) (result : TaskResult)
      (parsing : poller.pc = .parsing round taskid text rest)
      (parsed : TaskResult.parseFromString text = some result) :
      PollMove poller store { poller with
        taskresult := Function.update poller.taskresult taskid (some result)
        pc := .querying (round.complete taskid) rest } store
  | refuse (round : Round) (taskid text : Bytes) (rest : List Bytes)
      (parsing : poller.pc = .parsing round taskid text rest) :
      PollMove poller store { poller with pc := .querying (round.leave taskid) rest } store
  | unlock (round : Round) (querying : poller.pc = .querying round []) :
      PollMove poller store { poller with pc := .removing round } store
  | remove (round : Round) (removing : poller.pc = .removing round) :
      PollMove poller store { poller with
        distributionTaskid := removeCompleted round.completedTasks poller.distributionTaskid
        pc := .resting
        finished := poller.finished ++ [{
          round
          before := poller.distributionTaskid
          after := removeCompleted round.completedTasks poller.distributionTaskid }] } store

theorem lookup_of_ask {store : Store} {taskid : Bytes} {answered : Bool}
    (found : fetch (ask store answered taskid) ≠ .missing) :
    store.results.lookup (cString taskid) = some (ask store answered taskid) := by
  cases answered with
  | false => exact absurd rfl found
  | true =>
      simp only [ask, if_true, Store.hget] at found ⊢
      cases stored : store.results.lookup (cString taskid) with
      | none =>
          rw [stored] at found
          exact absurd rfl found
      | some value => rfl

theorem parsed_of_fetch {text : Bytes} {result : TaskResult} (kept : fetch text = .kept result) :
    TaskResult.parseFromString text = some result := by
  unfold fetch at kept
  split at kept
  · cases kept
  · split at kept
    · rename_i parsed
      cases kept
      exact parsed
    · cases kept

theorem pollMove_of_pollStep {poller after : Poller} {store later : Store} {action : PollAction}
    (stepped : pollStep poller store action = some (after, later)) : PollMove poller store after later := by
  cases action with
  | begin =>
      simp only [pollStep] at stepped
      split at stepped
      · rename_i resting
        cases stepped
        exact .begin resting
      · cases stepped
  | query answered =>
      simp only [pollStep] at stepped
      split at stepped
      · rename_i round taskid rest querying
        split at stepped
        · cases stepped
          exact .missing round taskid rest querying
        · rename_i found
          cases stepped
          exact .found round taskid _ rest querying (lookup_of_ask found)
      · cases stepped
  | delete outcome =>
      simp only [pollStep] at stepped
      split at stepped
      · rename_i round taskid text rest deleting
        cases stepped
        exact .delete round taskid text rest outcome deleting
      · cases stepped
  | keep =>
      simp only [pollStep] at stepped
      split at stepped
      · rename_i round taskid text rest parsing
        split at stepped
        · rename_i result kept
          cases stepped
          exact .keep round taskid text rest result parsing (parsed_of_fetch kept)
        · cases stepped
          exact .refuse round taskid text rest parsing
      · cases stepped
  | unlock =>
      simp only [pollStep] at stepped
      split at stepped
      · rename_i round querying
        cases stepped
        exact .unlock round querying
      · cases stepped
  | remove =>
      simp only [pollStep] at stepped
      split at stepped
      · rename_i round removing
        cases stepped
        exact .remove round removing
      · cases stepped

/-! ## One client and Redis -/

structure PollState where
  poller : Poller := {}
  store : Store := .empty

/-- What others do to Redis is a command of its own. -/
inductive PollEvent where
  | append (taskid : Bytes)
  | poll (action : PollAction)
  | redis (command : Command)

def polling : Machine PollState PollEvent where
  init := {}
  step state
    | .append taskid => (state.poller.append taskid).map fun poller => { state with poller }
    | .poll action => (pollStep state.poller state.store action).map fun (poller, store) => { poller, store }
    | .redis command => some { state with store := state.store.apply command }

/-! ## The account of a round

Every occurrence in `distribution_taskid_` is completed, unanswered, appended
or still to be asked for. -/

def Round.ids (round : Round) : List Bytes := round.completedTasks ++ round.unanswered ++ round.appended

def PollPc.account : PollPc → Option (List Bytes)
  | .resting => none
  | .querying round remaining => some (round.ids ++ remaining)
  | .deleting round taskid _ remaining | .parsing round taskid _ remaining =>
      some (round.ids ++ taskid :: remaining)
  | .removing round => some round.ids

structure Finished.Accounted (finished : Finished) : Prop where
  ids : finished.before.Perm finished.round.ids
  removed : finished.after = removeCompleted finished.round.completedTasks finished.before

structure Poller.Accounted (poller : Poller) : Prop where
  current : ∀ ids, poller.pc.account = some ids → poller.distributionTaskid.Perm ids
  past : ∀ finished ∈ poller.finished, finished.Accounted

section Occurrences

variable {α : Type u} [DecidableEq α]

/-- `after` is `before` without one occurrence of an id for each time that it
is in `stored`, and it has everything that is in `left`. -/
def RemovesExactly (stored left before after : List α) : Prop :=
  (∀ id, before.count id = after.count id + stored.count id) ∧ ∀ id ∈ left, id ∈ after

theorem foldl_filter_ne (completed ids : List α) :
    completed.foldl (fun ids taskid => ids.filter fun id => id ≠ taskid) ids =
      ids.filter fun id => id ∉ completed := by
  induction completed generalizing ids with
  | nil => simp
  | cons taskid rest ih =>
      rw [List.foldl_cons, ih, List.filter_filter]
      refine List.filter_congr fun id _ => ?_
      simp [Bool.and_comm]

/-- A removal by value takes every occurrence, so it is exact when none was
left over. -/
theorem removesExactly_filter_iff {completed left before : List α} (all : before.Perm (completed ++ left)) :
    RemovesExactly completed left before (before.filter fun id => id ∉ completed) ↔
      ∀ id ∈ completed, id ∉ left := by
  have counted (id : α) : before.count id = completed.count id + left.count id := by
    rw [all.count_eq, List.count_append]
  have gone {id : α} (done : id ∈ completed) : (before.filter fun id => id ∉ completed).count id = 0 :=
    List.count_eq_zero_of_not_mem (by simp [done])
  constructor
  · rintro ⟨exact, _⟩ id done found
    have count := exact id
    have extra := List.count_pos_iff.mpr found
    rw [counted, gone done] at count
    omega
  · intro apart
    refine ⟨?_, ?_⟩
    · intro id
      by_cases done : id ∈ completed
      · rw [counted, gone done, List.count_eq_zero_of_not_mem (apart id done)]
        omega
      · rw [List.count_filter (by simpa using done), List.count_eq_zero_of_not_mem done, Nat.add_zero]
    · intro id found
      have kept : id ∉ completed := fun done => apart id done found
      simpa [kept] using all.mem_iff.mpr (List.mem_append_right completed found)

end Occurrences

theorem Round.perm_complete (round : Round) (taskid : Bytes) (rest : List Bytes) :
    (round.ids ++ taskid :: rest).Perm ((round.complete taskid).ids ++ rest) := by
  refine List.perm_middle.trans ?_
  simpa [ids, complete] using (@List.perm_middle _ taskid round.completedTasks
    (round.unanswered ++ round.appended ++ rest)).symm

theorem Round.perm_leave (round : Round) (taskid : Bytes) (rest : List Bytes) :
    (round.ids ++ taskid :: rest).Perm ((round.leave taskid).ids ++ rest) := by
  refine List.perm_middle.trans ?_
  simpa [ids, leave] using (@List.perm_middle _ taskid (round.completedTasks ++ round.unanswered)
    (round.appended ++ rest)).symm

/-- The round goes on with the same occurrences in another order. -/
theorem Poller.Accounted.goTo {poller : Poller} (accounted : poller.Accounted) {ids next : List Bytes}
    (here : poller.pc.account = some ids) (pc : PollPc) (there : pc.account = some next)
    (same : ids.Perm next) : { poller with pc }.Accounted where
  current other account := by
    cases there.symm.trans account
    exact (accounted.current ids here).trans same
  past := accounted.past

theorem Poller.Accounted.move {poller after : Poller} {store later : Store}
    (accounted : poller.Accounted) (moved : PollMove poller store after later) : after.Accounted := by
  cases moved with
  | begin resting =>
      refine { accounted with current := fun ids account => ?_ }
      cases account
      exact .refl _
  | missing round taskid rest querying =>
      exact accounted.goTo (by rw [querying, PollPc.account]) _ rfl (round.perm_leave taskid rest)
  | found round taskid text rest querying =>
      exact accounted.goTo (by rw [querying, PollPc.account]) _ rfl (.refl _)
  | delete round taskid text rest outcome deleting =>
      exact accounted.goTo (by rw [deleting, PollPc.account]) _ rfl (.refl _)
  | keep round taskid text rest result parsing =>
      have kept := accounted.goTo (by rw [parsing, PollPc.account])
        (.querying (round.complete taskid) rest) rfl (round.perm_complete taskid rest)
      exact { kept with }
  | refuse round taskid text rest parsing =>
      exact accounted.goTo (by rw [parsing, PollPc.account]) _ rfl (round.perm_leave taskid rest)
  | unlock round querying =>
      exact accounted.goTo (by rw [querying, PollPc.account, List.append_nil]) _ rfl (.refl _)
  | remove round removing =>
      refine ⟨nofun, ?_⟩
      intro finished member
      rcases List.mem_append.mp member with old | new
      · exact accounted.past finished old
      · cases List.mem_singleton.mp new
        exact ⟨accounted.current _ (by rw [removing, PollPc.account]), rfl⟩

theorem Poller.Accounted.append {poller after : Poller} {taskid : Bytes} (accounted : poller.Accounted)
    (appended : poller.append taskid = some after) : after.Accounted := by
  unfold Poller.append at appended
  split at appended
  · cases appended
  · rename_i free
    cases appended
    refine { accounted with current := ?_ }
    cases place : poller.pc with
    | resting => rintro ids ⟨⟩
    | removing round =>
        rintro ids ⟨⟩
        have all := accounted.current _ (by rw [place, PollPc.account])
        simpa [Round.ids, Round.append] using all.append_right [taskid]
    | querying | deleting | parsing => simp [place, PollPc.locked] at free

theorem accounted_of_reachable {state : PollState} (reached : polling.Reachable state) :
    state.poller.Accounted := by
  refine @Machine.ReachableBy.invariant _ _ polling _ (fun state => state.poller.Accounted) _ reached ?_ ?_
  · exact ⟨nofun, nofun⟩
  · intro before event after accounted _ stepped
    cases event with
    | append taskid =>
        obtain ⟨poller, appended, rfl⟩ := Option.map_eq_some_iff.mp stepped
        exact accounted.append appended
    | poll action =>
        obtain ⟨⟨poller, store⟩, moved, rfl⟩ := Option.map_eq_some_iff.mp stepped
        exact accounted.move (pollMove_of_pollStep moved)
    | redis command =>
        cases stepped
        exact accounted

/-- The round removed one occurrence of an id for each result that it stored
under it, and what it left or what came in meanwhile is there for the next
round. -/
def Finished.Exact (finished : Finished) : Prop :=
  RemovesExactly finished.round.completedTasks (finished.round.unanswered ++ finished.round.appended)
    finished.before finished.after

/-- A round is exact unless it stored a result under an id of which another
occurrence was left without one or was appended in the gap. -/
theorem rounds_exact_iff {state : PollState} (reached : polling.Reachable state) {finished : Finished}
    (done : finished ∈ state.poller.finished) :
    finished.Exact ↔ ∀ taskid ∈ finished.round.completedTasks,
      taskid ∉ finished.round.unanswered ∧ taskid ∉ finished.round.appended := by
  have accounted := (accounted_of_reachable reached).past finished done
  rw [Finished.Exact, accounted.removed, removeCompleted, foldl_filter_ne,
    removesExactly_filter_iff (by simpa [Round.ids] using accounted.ids)]
  simp

/-- A schedule in which Redis has one result, the client has submitted the id
`copies` times, and all of its occurrences are asked for. -/
def oneResult (copies : Nat) (taskid : Bytes) : List PollEvent :=
  List.replicate copies (.append taskid) ++
    [.redis (.hset taskid { taskId := taskid, status := .success : TaskResult }.serializeToString),
      .poll .begin, .poll (.query true), .poll (.delete .ok), .poll .keep] ++
    List.replicate (copies - 1) (.poll (.query true)) ++ [.poll .unlock, .poll .remove]

/-- One id with one result is removed once. -/
theorem round_exact_single :
    ∃ state, polling.Reachable state ∧ ∃ finished ∈ state.poller.finished,
      finished.round.completedTasks = [[116, 49]] ∧ finished.after = [] ∧ finished.Exact := by
  obtain ⟨state, reached, finished, done, completed, unanswered, appended, after⟩ :=
    @Machine.reachable_of_any _ _ polling (fun state => ∃ finished ∈ state.poller.finished,
      finished.round.completedTasks = [[116, 49]] ∧ finished.round.unanswered = [] ∧
        finished.round.appended = [] ∧ finished.after = []) _ (oneResult 1 [116, 49]) (by decide +kernel)
  refine ⟨state, reached, finished, done, completed, after, (rounds_exact_iff reached done).mpr ?_⟩
  simp [unanswered, appended]

/-- Two submissions under one id, and a result for one of them: the round
stores one result and removes both occurrences, so the other submission is
never asked for again. -/
theorem round_removes_repeated_id :
    ∃ state, polling.Reachable state ∧ ∃ finished ∈ state.poller.finished,
      finished.round.completedTasks = [[116, 49]] ∧ finished.round.unanswered = [[116, 49]] ∧
        finished.before = [[116, 49], [116, 49]] ∧ finished.after = [] ∧ ¬ finished.Exact := by
  obtain ⟨state, reached, finished, done, completed, unanswered, before, after⟩ :=
    @Machine.reachable_of_any _ _ polling (fun state => ∃ finished ∈ state.poller.finished,
      finished.round.completedTasks = [[116, 49]] ∧ finished.round.unanswered = [[116, 49]] ∧
        finished.before = [[116, 49], [116, 49]] ∧ finished.after = []) _ (oneResult 2 [116, 49]) (by decide +kernel)
  refine ⟨state, reached, finished, done, completed, unanswered, before, after, ?_⟩
  rintro ⟨_, left⟩
  have found := left [116, 49] (by simp [unanswered])
  rw [after] at found
  cases found

end TaskHive.Client
