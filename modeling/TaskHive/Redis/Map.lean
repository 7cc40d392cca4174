import TaskHive.Client.Fetch
import TaskHive.MapStore

namespace TaskHive.Redis

open TaskHive.Wire

/-! # `RedisClient` as a map from task ids to results

Redis keeps what it is sent.  Ids and serialized results reach it as C strings,
so two ids that agree up to a zero byte share a field, and a result whose text
holds a zero byte is stored cut short. -/

inductive Write where
  | setTaskResult (taskId : Bytes) (result : TaskResult) (hset : Outcome) (expire : Option Reply)
  | deleteTaskResult (taskId : Bytes) (outcome : Outcome)

def Write.taskId : Write → Bytes
  | .setTaskResult taskId _ _ _ | .deleteTaskResult taskId _ => taskId

/-- A call of `getTaskResult`; `answered` is false when no reply arrives. -/
structure Get where
  taskId : Bytes
  answered : Bool := true

def applyWrite (store : Store) : Write → Store
  | .setTaskResult taskId result hset expire => (setTaskResult store hset expire taskId result).1
  | .deleteTaskResult taskId outcome => if outcome.executed then store.hdel taskId else store

/-- A call of `setTaskResult` counts when it returned true. -/
def meaningOf (store : Store) : Write → Option (Bytes × Option TaskResult)
  | .setTaskResult taskId result hset expire =>
      if (setTaskResult store hset expire taskId result).2 then some (taskId, some result) else none
  | .deleteTaskResult taskId _ => some (taskId, none)

def applyGet (store : Store) (get : Get) : Bytes :=
  getTaskResult (if get.answered then some (store.hget get.taskId) else none)

def redisClient : MapStore Store Write Get Bytes TaskResult Bytes where
  init := .empty
  write := applyWrite
  meaning := meaningOf
  read := applyGet
  key := Get.taskId

/-- The sentinel for no result, and otherwise bytes that parse to it. -/
def Answers (text : Bytes) : Option TaskResult → Prop
  | none => text = noResult
  | some result => text ≠ noResult ∧ TaskResult.parseFromString text = some result

instance decidableAnswers (text : Bytes) : (expected : Option TaskResult) → Decidable (Answers text expected)
  | none => inferInstanceAs (Decidable (text = noResult))
  | some _ => inferInstanceAs (Decidable (_ ∧ _))

/-- The C strings say it all, a result that was stored gets the replies to `HSET`
and `EXPIRE` that say so, and the other calls reach the server. -/
def Faithful (_ : Store) : Access Write Get → Prop
  | .write (.setTaskResult taskId result hset expire) =>
      (0 : UInt8) ∉ taskId ∧ result.Transparent ∧
        (hset.executed = true → Reply.isDone hset.reply = true ∧ Reply.isExpireSet expire = true)
  | .write (.deleteTaskResult taskId outcome) => (0 : UInt8) ∉ taskId ∧ outcome.executed = true
  | .read get => (0 : UInt8) ∉ get.taskId ∧ get.answered = true

instance decidableCleanText (text : Bytes) : Decidable (CleanText text) := inferInstanceAs (Decidable (_ ∧ _))

instance decidableTransparent (result : TaskResult) : Decidable result.Transparent :=
  inferInstanceAs (Decidable (_ ∧ _ ∧ _ ∧ _))

instance decidableFaithful (store : Store) : (access : Access Write Get) → Decidable (Faithful store access)
  | .write (.setTaskResult _ _ _ _) => inferInstanceAs (Decidable (_ ∧ _ ∧ (_ → _)))
  | .write (.deleteTaskResult _ _) => inferInstanceAs (Decidable (_ ∧ _))
  | .read _ => inferInstanceAs (Decidable (_ ∧ _))

/-- Every id has its own field, with the serialized result. -/
def Represents (store : Store) (map : Bytes → Option TaskResult) : Prop :=
  ∀ taskId, (0 : UInt8) ∉ taskId →
    store.results.lookup taskId = (map taskId).map TaskResult.serializeToString ∧
      ∀ result, map taskId = some result → result.Transparent

theorem serialize_clean {result : TaskResult} (clean : result.Transparent) :
    (0 : UInt8) ∉ result.serializeToString :=
  result.zero_notMem_serialize_iff.mpr ⟨clean.1.2, clean.2.1.2, clean.2.2.1.2, clean.2.2.2.2⟩

theorem Represents.set {store : Store} {map : Bytes → Option TaskResult} (represents : Represents store map)
    {taskId : Bytes} (cleanId : (0 : UInt8) ∉ taskId) {result : TaskResult} (clean : result.Transparent) :
    Represents (store.hset taskId result.serializeToString) (Function.update map taskId (some result)) := by
  intro other cleanOther
  by_cases same : other = taskId
  · subst other
    simp only [Store.hset, cString_eq_self cleanId, cString_eq_self (serialize_clean clean), Finmap.lookup_insert,
      Function.update_self, Option.map_some, Option.some.injEq, true_and]
    rintro stored rfl
    exact clean
  · simp only [Store.hset, cString_eq_self cleanId, Finmap.lookup_insert_of_ne _ same, Function.update_of_ne same]
    exact represents other cleanOther

theorem Represents.delete {store : Store} {map : Bytes → Option TaskResult} (represents : Represents store map)
    {taskId : Bytes} (cleanId : (0 : UInt8) ∉ taskId) :
    Represents (store.hdel taskId) (Function.update map taskId none) := by
  intro other cleanOther
  by_cases same : other = taskId
  · subst other
    simp [Store.hdel, cString_eq_self cleanId]
  · simp only [Store.hdel, cString_eq_self cleanId, Finmap.lookup_erase_ne same, Function.update_of_ne same]
    exact represents other cleanOther

theorem Represents.write {store : Store} {map : Bytes → Option TaskResult} (represents : Represents store map)
    {command : Write} (faithful : Faithful store (.write command)) :
    Represents (applyWrite store command) (assign map (meaningOf store command)) := by
  cases command with
  | setTaskResult taskId result hset expire =>
      obtain ⟨cleanId, clean, replied⟩ := faithful
      by_cases returned : (setTaskResult store hset expire taskId result).2 = true
      · rw [applyWrite, setTaskResult_store (setTaskResult_ok.mp returned).1, meaningOf, if_pos returned]
        exact represents.set cleanId clean
      · have lost : hset.executed = false := by
          by_contra executed
          exact returned (setTaskResult_ok.mpr (replied (Bool.eq_true_of_not_eq_false executed)))
        have untouched : (setTaskResult store hset expire taskId result).1 = store := by
          unfold setTaskResult
          cases Reply.isDone hset.reply <;> simp [lost]
        rw [applyWrite, untouched, meaningOf, if_neg returned]
        exact represents
  | deleteTaskResult taskId outcome =>
      obtain ⟨cleanId, executed⟩ := faithful
      rw [applyWrite, if_pos executed]
      exact represents.delete cleanId

theorem Represents.read {store : Store} {map : Bytes → Option TaskResult} (represents : Represents store map)
    {get : Get} (faithful : Faithful store (.read get)) : Answers (applyGet store get) (map get.taskId) := by
  obtain ⟨cleanId, answered⟩ := faithful
  obtain ⟨stored, transparent⟩ := represents get.taskId cleanId
  rw [applyGet, if_pos answered, Store.hget, cString_eq_self cleanId, stored]
  cases expected : map get.taskId with
  | none => rfl
  | some result =>
      have clean := transparent result expected
      have parsed : TaskResult.parseFromString result.serializeToString = some result := by
        rw [← cString_eq_self (serialize_clean clean)]
        exact Client.parse_stored clean
      refine ⟨fun sentinel => ?_, parsed⟩
      change result.serializeToString = noResult at sentinel
      rw [sentinel, Client.parse_noResult] at parsed
      cases parsed

theorem redisClient_implements : redisClient.Implements Faithful Represents Answers where
  init taskId _ := ⟨rfl, by simp⟩
  write _ _ _ represents faithful := represents.write faithful
  read _ _ _ represents faithful := represents.read faithful

/-- A command leaves what is read under the other ids alone. -/
theorem applyGet_applyWrite {store : Store} {command : Write} {get : Get}
    (other : cString command.taskId ≠ cString get.taskId) :
    applyGet (applyWrite store command) get = applyGet store get := by
  have kept : (applyWrite store command).results.lookup (cString get.taskId) =
      store.results.lookup (cString get.taskId) := by
    cases command with
    | setTaskResult taskId result hset expire =>
        have written : (setTaskResult store hset expire taskId result).1 =
            if hset.executed then store.hset taskId result.serializeToString else store := by
          unfold setTaskResult
          cases Reply.isDone hset.reply <;> rfl
        rw [applyWrite, written]
        split
        · exact Finmap.lookup_insert_of_ne _ (Ne.symm other)
        · rfl
    | deleteTaskResult taskId outcome =>
        rw [applyWrite]
        split
        · exact Finmap.lookup_erase_ne (Ne.symm other)
        · rfl
  rw [applyGet, applyGet, Store.hget, Store.hget, kept]

/-- In every run whose calls are faithful, each `getTaskResult` has returned
what the map holds under its id, and a call on one id changes nothing that is
read under another. -/
theorem redis_client_is_map (state : Tracked Store Bytes TaskResult Bytes)
    (reached : redisClient.machine.ReachableBy (fun state access => Faithful state.store access) state) :
    (∀ reading ∈ state.readings, Answers reading.returned reading.expected) ∧
      ∀ command get, Faithful state.store (.write command) → Faithful state.store (.read get) →
        command.taskId ≠ get.taskId →
        applyGet (applyWrite state.store command) get = applyGet state.store get := by
  refine ⟨(redisClient_implements.reachable reached).2, fun command get written read other => ?_⟩
  have cleanWrite : (0 : UInt8) ∉ command.taskId := by
    cases command with
    | setTaskResult => exact written.1
    | deleteTaskResult => exact written.1
  refine applyGet_applyWrite ?_
  rwa [cString_eq_self cleanWrite, cString_eq_self read.1]

def finished (output : Bytes) : TaskResult := { taskId := [116], status := .success, output }

theorem redis_client_is_map_in_run :
    ∃ state, redisClient.machine.ReachableBy (fun state access => Faithful state.store access) state ∧
      state.readings.length = 3 ∧ ∀ reading ∈ state.readings, Answers reading.returned reading.expected := by
  obtain ⟨state, reached, three⟩ := redisClient.machine.reachableBy_of_any
    (fun state access => Faithful state.store access) (fun state => state.readings.length = 3)
    [.write (.setTaskResult [97] (finished [98]) .ok (some (.integer 1))), .read { taskId := [97] },
      .read { taskId := [98] }, .write (.deleteTaskResult [97] .ok), .read { taskId := [97] }] (by decide)
  exact ⟨state, reached, three, (redis_client_is_map state reached).1⟩

/-- A result that was set under one id is found under another one that agrees
with it up to a zero byte, and a result with a zero byte in its output comes
back as bytes that do not parse. -/
theorem redis_client_not_map :
    (∃ state, redisClient.machine.Reachable state ∧ ∃ reading ∈ state.readings,
        reading.key = [97, 0, 99] ∧ reading.expected = none ∧ ¬ Answers reading.returned reading.expected) ∧
      ∃ state, redisClient.machine.Reachable state ∧ ∃ reading ∈ state.readings,
        reading.expected = some (finished [0]) ∧ TaskResult.parseFromString reading.returned = none ∧
          ¬ Answers reading.returned reading.expected :=
  ⟨redisClient.machine.reachable_of_any
      [.write (.setTaskResult [97, 0, 98] (finished [98]) .ok (some (.integer 1))),
        .read { taskId := [97, 0, 99] }] (by decide),
    redisClient.machine.reachable_of_any
      [.write (.setTaskResult [97] (finished [0]) .ok (some (.integer 1))), .read { taskId := [97] }] (by decide)⟩

end TaskHive.Redis
