import TaskHive.MessageQueue.Hop
import TaskHive.Scheduler.Results

namespace TaskHive.Client

open TaskHive.Wire TaskHive.MessageQueue TaskHive.Redis

/-! # Fetching a result

`consume_task_resultfunction` asks Redis for a result, recognises the sentinel
of a missing one and parses everything else. -/

inductive Fetched where
  | missing
  | kept (result : TaskResult)
  | refused
deriving DecidableEq

/-- What one query makes of the text that `getTaskResult` returned. -/
def fetch (text : Bytes) : Fetched :=
  if text = noResult then .missing
  else match TaskResult.parseFromString text with
    | some result => .kept result
    | none => .refused

/-- The sentinel is no serialized result: its first byte is a tag of a wire
type that does not exist. -/
theorem parse_noResult : TaskResult.parseFromString noResult = none := by decide

theorem fetch_of_parsed {text : Bytes} {result : TaskResult}
    (parsed : TaskResult.parseFromString text = some result) : fetch text = .kept result := by
  have different : text ≠ noResult := by
    rintro rfl
    rw [parse_noResult] at parsed
    cases parsed
  rw [fetch, if_neg different, parsed]

theorem getTaskResult_hget {store : Store} {key value : Bytes}
    (found : store.results.lookup (cString key) = some value) :
    getTaskResult (some (store.hget key)) = value := by
  rw [Store.hget, found]
  rfl

/-- What a result becomes in the value of its key. -/
theorem parse_stored {result : TaskResult} (clean : result.Transparent) :
    TaskResult.parseFromString (cString result.serializeToString) = some result := by
  rcases TaskResult.schema.parse_cString_serialize result.ordered with ⟨parsed, _⟩ | ⟨_, unclean⟩
  · exact parsed
  · exact absurd (result.transparent_iff.mpr clean) unclean

/-- A result that the scheduler's callback has received and stored is what the
client finds under its id, as long as no command names the key: the text is not
the sentinel and parses to the published result. -/
theorem fetches_published_result (result : TaskResult) (env : Scheduler.StoreEnv)
    (before : Scheduler.ResultStore) (run : Consumption Scheduler.ResultStore TaskResult)
    (handled : Handled Scheduler.ResultStore TaskResult) (commands : List Command)
    (hop : resultHop Scheduler.storeResult env before result = .ok run) (called : handled ∈ run.handled)
    (stored : handled.state.returned = true)
    (untouched : ∀ command ∈ commands, command.key ≠ cString result.taskId) :
    let text := getTaskResult (some ((commands.foldl Store.apply handled.state.store).hget result.taskId))
    text ≠ noResult ∧ TaskResult.parseFromString text = some result ∧ fetch text = .kept result := by
  rcases resultHop_cases result Scheduler.storeResult env before with ⟨delivered, clean⟩ | ⟨threw, _⟩
  · rw [delivered, Except.ok.injEq] at hop
    subst run
    rw [Consumption.delivered, List.mem_singleton] at called
    subst handled
    have done := (setTaskResult_ok.mp stored).1
    have found : (Scheduler.storeResult env before result).store.results.lookup (cString result.taskId) =
        some (cString result.serializeToString) := by
      simp only [Scheduler.storeResult, setTaskResult_store done, Store.hset, Finmap.lookup_insert]
    have later := getTaskResult_hget ((Store.lookup_foldl_apply untouched _).trans found)
    intro text
    have parsed : TaskResult.parseFromString text = some result := by
      simp only [text, later]
      exact parse_stored clean
    refine ⟨?_, parsed, fetch_of_parsed parsed⟩
    intro sentinel
    rw [sentinel, parse_noResult] at parsed
    cases parsed
  · rw [threw, Except.ok.injEq] at hop
    subst run
    cases called

/-- A result with an output survives the store and the deletion of another
key. -/
theorem fetches_listing_result :
    let result : TaskResult := { taskId := [116, 49], status := .success, output := [97] }
    ∃ run handled, resultHop Scheduler.storeResult { hset := .ok, expire := some (.integer 1) }
        { store := .empty, returned := false } result = .ok run ∧ handled ∈ run.handled ∧
      handled.state.returned = true ∧
      fetch (getTaskResult (some (([Command.hdel [116, 50]].foldl Store.apply handled.state.store).hget
        [116, 49]))) = .kept result := by
  intro result
  obtain ⟨delivered, _⟩ | ⟨_, unclean⟩ := resultHop_cases result Scheduler.storeResult
    { hset := .ok, expire := some (.integer 1) } { store := .empty, returned := false }
  · refine ⟨_, _, delivered, List.mem_singleton_self _, rfl, ?_⟩
    exact (fetches_published_result result _ _ _ _ [.hdel [116, 50]] delivered (List.mem_singleton_self _) rfl
      (by decide)).2.2
  · exact absurd (by simp [result, TaskResult.Transparent, CleanText, validUtf8]) unclean

end TaskHive.Client
