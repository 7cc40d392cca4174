import TaskHive.Client.Polling

namespace TaskHive.Client

open TaskHive.Wire TaskHive.Redis

/-! # The query phase of a round

For every id the loop asks, deletes and then parses.  Here Redis may hold any
bytes under an id, not only texts that came through `setTaskResult`. -/

/-- What Redis does for one id of the list: whether it answers `HGET`, and what
becomes of `HDEL`. -/
structure Query where
  taskid : Bytes
  answered : Bool := true
  delete : Outcome := .ok

/-- The `result` fields in Redis and the client's `taskresult_`. -/
structure Contents where
  redis : StringMap
  taskresult : Bytes → Option TaskResult

/-- The text that `getTaskResult` returns. -/
def Contents.ask (contents : Contents) (query : Query) : Bytes :=
  getTaskResult <|
    if query.answered then
      some (match contents.redis.lookup (cString query.taskid) with
        | some value => .string value
        | none => .nil)
    else none

/-- The body of the loop. -/
def Contents.query (contents : Contents) (query : Query) : Contents :=
  let result := contents.ask query
  if result = noResult then contents
  else
    let deleted :=
      if query.delete.executed then contents.redis.erase (cString query.taskid) else contents.redis
    match TaskResult.parseFromString result with
    | some taskresult =>
        { redis := deleted, taskresult := Function.update contents.taskresult query.taskid (some taskresult) }
    | none => { contents with redis := deleted }

def Contents.queryAll (contents : Contents) (queries : List Query) : Contents :=
  queries.foldl Contents.query contents

/-- Every field that is gone was parsed and its result is kept under the id
that found it; a text that does not parse changes nothing. -/
structure NothingDestroyed (before : Contents) (queries : List Query) (after : Contents) : Prop where
  deleted : ∀ key text, before.redis.lookup key = some text → after.redis.lookup key = none →
    ∃ query ∈ queries, cString query.taskid = key ∧
      ∃ result, TaskResult.parseFromString text = some result ∧ after.taskresult query.taskid = some result
  unparsed : ∀ query ∈ queries, ∀ text, before.redis.lookup (cString query.taskid) = some text →
    TaskResult.parseFromString text = none →
    after.redis.lookup (cString query.taskid) = some text ∧
      after.taskresult query.taskid = before.taskresult query.taskid

/-- Every text that is found and deleted parses. -/
def DeletesReadable (contents : Contents) (queries : List Query) : Prop :=
  ∀ query ∈ queries, query.answered = true → query.delete.executed = true →
    ∀ text, contents.redis.lookup (cString query.taskid) = some text → text ≠ noResult →
      TaskResult.parseFromString text ≠ none

/-! ## One id -/

theorem ask_eq (contents : Contents) (query : Query) :
    contents.ask query =
      if query.answered then (contents.redis.lookup (cString query.taskid)).getD noResult else noResult := by
  unfold Contents.ask
  cases query.answered with
  | false => rfl
  | true => cases contents.redis.lookup (cString query.taskid) <;> rfl

/-- The query takes the field of this key away. -/
def Query.Takes (query : Query) (contents : Contents) (key : Bytes) : Prop :=
  query.answered = true ∧ query.delete.executed = true ∧ cString query.taskid = key ∧
    contents.redis.lookup key ≠ some noResult

instance decidableTakes (query : Query) (contents : Contents) (key : Bytes) : Decidable (query.Takes contents key) :=
  inferInstanceAs (Decidable (_ ∧ _ ∧ _ ∧ _))

theorem lookup_query (contents : Contents) (query : Query) (key : Bytes) :
    (contents.query query).redis.lookup key =
      if query.Takes contents key then none else contents.redis.lookup key := by
  by_cases missing : contents.ask query = noResult
  · rw [Contents.query, if_pos missing]
    split
    · rename_i takes
      obtain ⟨answered, _, rfl, sentinel⟩ := takes
      rw [ask_eq, if_pos answered] at missing
      cases stored : contents.redis.lookup (cString query.taskid) with
      | none => rfl
      | some text =>
          rw [stored] at missing sentinel
          exact absurd (congrArg some missing) sentinel
    · rfl
  · have answered : query.answered = true := by
      by_contra unanswered
      rw [ask_eq, if_neg unanswered] at missing
      exact missing rfl
    have erased : (contents.query query).redis =
        if query.delete.executed then contents.redis.erase (cString query.taskid) else contents.redis := by
      rw [Contents.query, if_neg missing]
      dsimp only
      split <;> rfl
    rw [ask_eq, if_pos answered] at missing
    rw [erased]
    cases executed : query.delete.executed with
    | false => simp [Query.Takes, executed]
    | true =>
        by_cases same : cString query.taskid = key
        · subst key
          have sentinel : contents.redis.lookup (cString query.taskid) ≠ some noResult := by
            intro stored
            rw [stored] at missing
            exact missing rfl
          simp [Query.Takes, answered, executed, sentinel]
        · simp [Query.Takes, same, Finmap.lookup_erase_ne (Ne.symm same)]

theorem taskresult_query_of_ne (contents : Contents) {query : Query} {id : Bytes} (other : query.taskid ≠ id) :
    (contents.query query).taskresult id = contents.taskresult id := by
  by_cases missing : contents.ask query = noResult
  · rw [Contents.query, if_pos missing]
  · rw [Contents.query, if_neg missing]
    dsimp only
    cases TaskResult.parseFromString (contents.ask query) with
    | none => rfl
    | some result => exact Function.update_of_ne (Ne.symm other) _ _

theorem taskresult_query_self (contents : Contents) (query : Query) :
    (contents.query query).taskresult query.taskid =
      if query.answered then
        ((contents.redis.lookup (cString query.taskid)).bind TaskResult.parseFromString).or
          (contents.taskresult query.taskid)
      else contents.taskresult query.taskid := by
  rw [Contents.query, ask_eq]
  cases query.answered with
  | false => simp
  | true =>
      cases stored : contents.redis.lookup (cString query.taskid) with
      | none => simp
      | some text =>
          by_cases sentinel : text = noResult
          · simp [sentinel, parse_noResult]
          · cases parsed : TaskResult.parseFromString text <;> simp [sentinel, parsed]

/-! ## The whole list -/

theorem lookup_queryAll (contents : Contents) (queries : List Query) (key : Bytes) :
    (contents.queryAll queries).redis.lookup key =
      if ∃ query ∈ queries, query.Takes contents key then none else contents.redis.lookup key := by
  induction queries generalizing contents with
  | nil => simp [Contents.queryAll]
  | cons query queries ih =>
      have step := lookup_query contents query key
      rw [Contents.queryAll, List.foldl_cons, ← Contents.queryAll, ih]
      by_cases takes : query.Takes contents key
      · rw [if_pos takes] at step
        have found : ∃ later ∈ query :: queries, later.Takes contents key := ⟨query, List.mem_cons_self, takes⟩
        rw [step, if_pos found]
        split <;> rfl
      · rw [if_neg takes] at step
        have same : (∃ later ∈ queries, later.Takes (contents.query query) key) ↔
            ∃ later ∈ query :: queries, later.Takes contents key := by
          have moved (later : Query) : later.Takes (contents.query query) key ↔ later.Takes contents key := by
            simp only [Query.Takes, step]
          simp only [moved, List.exists_mem_cons_iff, takes, false_or]
        simp only [step, same]

/-- Nothing is stored under an id whose text does not parse. -/
theorem taskresult_queryAll {contents : Contents} {id : Bytes}
    (unparsed : ∀ text, contents.redis.lookup (cString id) = some text → TaskResult.parseFromString text = none)
    (queries : List Query) : (contents.queryAll queries).taskresult id = contents.taskresult id := by
  induction queries generalizing contents with
  | nil => rfl
  | cons query queries ih =>
      rw [Contents.queryAll, List.foldl_cons, ← Contents.queryAll, ih]
      · by_cases same : query.taskid = id
        · subst id
          have nothing : (contents.redis.lookup (cString query.taskid)).bind TaskResult.parseFromString = none :=
            Option.bind_eq_none_iff.mpr unparsed
          rw [taskresult_query_self, nothing, Option.none_or, ite_self]
        · exact taskresult_query_of_ne contents same
      · intro text stored
        rw [lookup_query] at stored
        split at stored
        · cases stored
        · exact unparsed text stored

/-- A field that parses and is taken away has its result stored. -/
theorem stored_of_taken {contents : Contents} {queries : List Query} {key text : Bytes} {result : TaskResult}
    (stored : contents.redis.lookup key = some text) (parsed : TaskResult.parseFromString text = some result)
    (gone : (contents.queryAll queries).redis.lookup key = none) :
    ∃ query ∈ queries, cString query.taskid = key ∧
      (contents.queryAll queries).taskresult query.taskid = some result := by
  induction queries generalizing contents with
  | nil =>
      rw [Contents.queryAll, List.foldl_nil, stored] at gone
      cases gone
  | cons query queries ih =>
      rw [Contents.queryAll, List.foldl_cons, ← Contents.queryAll] at gone ⊢
      have step := lookup_query contents query key
      by_cases takes : query.Takes contents key
      · rw [if_pos takes] at step
        obtain ⟨answered, _, rfl, _⟩ := takes
        refine ⟨query, List.mem_cons_self, rfl, ?_⟩
        rw [taskresult_queryAll (by simp [step]), taskresult_query_self, if_pos answered, stored, Option.bind_some,
          parsed, Option.some_or]
      · rw [if_neg takes, stored] at step
        obtain ⟨later, member, named, kept⟩ := ih step gone
        exact ⟨later, List.mem_cons_of_mem query member, named, kept⟩

/-! ## The steps of the polling thread

On a store that only `setTaskResult` has written, the steps of `pollStep` for a
list of ids come to what `queryAll` says. -/

def pollSteps (state : Poller × Store) (actions : List PollAction) : Option (Poller × Store) :=
  actions.foldlM (fun state action => pollStep state.1 state.2 action) state

def contentsOf (state : Poller × Store) : Contents where
  redis := state.2.results
  taskresult := state.1.taskresult

theorem ask_contentsOf (poller : Poller) (store : Store) (query : Query) :
    (contentsOf (poller, store)).ask query = ask store query.answered query.taskid := by
  unfold Contents.ask ask Store.hget contentsOf
  cases query.answered with
  | false => rfl
  | true => cases store.results.lookup (cString query.taskid) <;> rfl

theorem contentsOf_deleted (poller : Poller) (store : Store) (query : Query) (taskresult : Bytes → Option TaskResult)
    (pc : PollPc) :
    contentsOf ({ poller with taskresult, pc }, if query.delete.executed then store.hdel query.taskid else store) =
      { redis := if query.delete.executed then store.results.erase (cString query.taskid) else store.results,
        taskresult } := by
  cases query.delete.executed <;> rfl

theorem pollSteps_append {state next : Poller × Store} {first : List PollAction}
    (ran : pollSteps state first = some next) (rest : List PollAction) :
    pollSteps state (first ++ rest) = pollSteps next rest := by
  rw [pollSteps, List.foldlM_append, ← pollSteps, ran]
  rfl

theorem pollSteps_cons {state next : Poller × Store} {action : PollAction}
    (stepped : pollStep state.1 state.2 action = some next) (rest : List PollAction) :
    pollSteps state (action :: rest) = pollSteps next rest := by
  rw [pollSteps, List.foldlM_cons, stepped]
  rfl

/-- A text that is found is deleted before it is parsed. -/
theorem pollSteps_take {poller : Poller} {round : Round} {query : Query} {rest : List Bytes} {store : Store}
    (querying : poller.pc = .querying round (query.taskid :: rest))
    (found : fetch (ask store query.answered query.taskid) ≠ .missing) :
    pollSteps (poller, store) [.query query.answered, .delete query.delete] =
      some ({ poller with pc := .parsing round query.taskid (ask store query.answered query.taskid) rest },
        if query.delete.executed then store.hdel query.taskid else store) := by
  have asked : pollStep poller store (.query query.answered) =
      some ({ poller with pc := .deleting round query.taskid (ask store query.answered query.taskid) rest },
        store) := by
    simp only [pollStep, querying, found, if_false]
  rw [pollSteps_cons asked]
  exact pollSteps_cons rfl []

theorem pollSteps_query {poller : Poller} {round : Round} {query : Query} {rest : List Bytes}
    (querying : poller.pc = .querying round (query.taskid :: rest)) (store : Store) :
    ∃ actions after later, pollSteps (poller, store) actions = some after ∧ after.1.pc = .querying later rest ∧
      contentsOf after = (contentsOf (poller, store)).query query := by
  have text := ask_contentsOf poller store query
  by_cases missing : ask store query.answered query.taskid = noResult
  · refine ⟨[.query query.answered], ({ poller with pc := .querying (round.leave query.taskid) rest }, store),
      round.leave query.taskid, ?_, rfl, ?_⟩
    · have absent : fetch (ask store query.answered query.taskid) = .missing := by rw [fetch, if_pos missing]
      refine pollSteps_cons ?_ []
      simp only [pollStep, querying, absent, if_true]
    · rw [Contents.query, text, if_pos missing]
      rfl
  · cases parsed : TaskResult.parseFromString (ask store query.answered query.taskid) with
    | some result =>
        have kept := fetch_of_parsed parsed
        refine ⟨[.query query.answered, .delete query.delete] ++ [.keep],
          ({ poller with
              taskresult := Function.update poller.taskresult query.taskid (some result)
              pc := .querying (round.complete query.taskid) rest },
            if query.delete.executed then store.hdel query.taskid else store),
          round.complete query.taskid, ?_, rfl, ?_⟩
        · rw [pollSteps_append (pollSteps_take querying (by simp [kept]))]
          refine pollSteps_cons ?_ []
          simp only [pollStep, kept]
        · rw [contentsOf_deleted, Contents.query, text, if_neg missing, parsed]
          rfl
    | none =>
        have refused : fetch (ask store query.answered query.taskid) = .refused := by
          rw [fetch, if_neg missing, parsed]
        refine ⟨[.query query.answered, .delete query.delete] ++ [.keep],
          ({ poller with pc := .querying (round.leave query.taskid) rest },
            if query.delete.executed then store.hdel query.taskid else store),
          round.leave query.taskid, ?_, rfl, ?_⟩
        · rw [pollSteps_append (pollSteps_take querying (by simp [refused]))]
          refine pollSteps_cons ?_ []
          simp only [pollStep, refused]
        · rw [contentsOf_deleted, Contents.query, text, if_neg missing, parsed]
          rfl

theorem pollSteps_queryAll {poller : Poller} {round : Round} {queries : List Query}
    (querying : poller.pc = .querying round (queries.map Query.taskid)) (store : Store) :
    ∃ actions after later, pollSteps (poller, store) actions = some after ∧ after.1.pc = .querying later [] ∧
      contentsOf after = (contentsOf (poller, store)).queryAll queries := by
  induction queries generalizing poller store round with
  | nil => exact ⟨[], (poller, store), round, rfl, querying, rfl⟩
  | cons query queries ih =>
      obtain ⟨first, ⟨next, left⟩, later, ran, remaining, same⟩ := pollSteps_query querying store
      obtain ⟨others, after, last, continued, done, all⟩ := ih remaining left
      refine ⟨first ++ others, after, last, ?_, done, ?_⟩
      · rw [pollSteps_append ran]
        exact continued
      · rw [all, same]
        rfl

/-- The query phase destroys nothing exactly when every text that it finds and
deletes is a serialized result. -/
theorem nothing_destroyed_iff (contents : Contents) (queries : List Query) :
    NothingDestroyed contents queries (contents.queryAll queries) ↔ DeletesReadable contents queries := by
  constructor
  · intro kept query member answered executed text stored sentinel unparsed
    obtain ⟨left, _⟩ := kept.unparsed query member text stored unparsed
    have takes : query.Takes contents (cString query.taskid) :=
      ⟨answered, executed, rfl, by rw [stored]; simpa using sentinel⟩
    rw [lookup_queryAll, if_pos ⟨query, member, takes⟩] at left
    cases left
  · intro readable
    constructor
    · intro key text stored gone
      have taken := gone
      rw [lookup_queryAll] at taken
      split at taken
      · rename_i takes
        obtain ⟨query, member, answered, executed, rfl, sentinel⟩ := takes
        have parses := readable query member answered executed text stored (by simpa [stored] using sentinel)
        obtain ⟨result, parsed⟩ := Option.ne_none_iff_exists'.mp parses
        obtain ⟨finder, asked, named, kept⟩ := stored_of_taken stored parsed gone
        exact ⟨finder, asked, named, result, parsed, kept⟩
      · rw [stored] at taken
        cases taken
    · intro query member text stored unparsed
      constructor
      · rw [lookup_queryAll, if_neg ?_]
        · exact stored
        · rintro ⟨taker, asked, answered, executed, named, sentinel⟩
          rw [← named] at stored sentinel
          exact readable taker asked answered executed text stored (by simpa [stored] using sentinel) unparsed
      · refine taskresult_queryAll ?_ queries
        intro other found
        rw [stored, Option.some.injEq] at found
        exact found ▸ unparsed

/-- One byte that is no message is deleted from Redis and stored nowhere. -/
theorem unreadable_text_destroyed :
    ∃ (contents : Contents) (queries : List Query),
      contents.redis.lookup [116] = some [255] ∧ contents.taskresult [116] = none ∧
      (contents.queryAll queries).redis.lookup [116] = none ∧
      (contents.queryAll queries).taskresult [116] = none ∧
      ¬ NothingDestroyed contents queries (contents.queryAll queries) := by
  let contents : Contents := { redis := Finmap.insert [116] [255] ∅, taskresult := fun _ => none }
  have gone : (contents.queryAll [{ taskid := [116] }]).redis.lookup [116] = none := by decide
  refine ⟨contents, [{ taskid := [116] }], by decide, rfl, gone, by decide, fun kept => ?_⟩
  have left := (kept.unparsed { taskid := [116] } (by simp) [255] (by decide) (by decide)).1
  rw [show cString [116] = [116] by decide, gone] at left
  cases left

end TaskHive.Client
