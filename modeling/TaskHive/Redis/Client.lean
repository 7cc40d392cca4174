import TaskHive.Proto.Task

namespace TaskHive.Redis

open TaskHive.Wire

/-! # `RedisClient`

Every argument of a command is formatted with `%s`, so the server sees the
bytes before the first zero byte.  What the server does and answers is an
input of each call. -/

inductive Reply where
  | integer (value : Int)
  | status
  | string (bytes : Bytes)
  | nil
  | error
  | other
deriving DecidableEq, Repr

/-- The reply check of `HSET` and `HDEL`; a null reply is `none`. -/
def Reply.isDone : Option Reply → Bool
  | some (.integer _) => true
  | some .status => true
  | _ => false

/-- The reply check of `EXPIRE`. -/
def Reply.isExpireSet : Option Reply → Bool
  | some (.integer value) => value == 1
  | _ => false

/-- What became of a writing command.  A null reply leaves open whether the
server carried it out. -/
structure Outcome where
  executed : Bool
  reply : Option Reply
  done : Reply.isDone reply = true → executed = true
  refused : reply = some .error → executed = false
deriving DecidableEq

def Outcome.ok : Outcome :=
  { executed := true, reply := some (.integer 1), done := by decide, refused := by decide }

def Outcome.lost (executed : Bool) : Outcome :=
  { executed, reply := none, done := nofun, refused := nofun }

/-- The `result` field of the hash under each key.  Keys and values come from
C strings. -/
structure Store where
  results : StringMap
  text : ∀ key value, results.lookup key = some value → (0 : UInt8) ∉ key ∧ (0 : UInt8) ∉ value

namespace Store

def empty : Store where
  results := ∅
  text := by simp

def hset (store : Store) (key value : Bytes) : Store where
  results := store.results.insert (cString key) (cString value)
  text := by
    intro other stored found
    by_cases same : other = cString key
    · subst other
      rw [Finmap.lookup_insert, Option.some.injEq] at found
      subst stored
      exact ⟨zero_notMem_cString key, zero_notMem_cString value⟩
    · rw [Finmap.lookup_insert_of_ne _ same] at found
      exact store.text other stored found

def hdel (store : Store) (key : Bytes) : Store where
  results := store.results.erase (cString key)
  text := by
    intro other stored found
    by_cases same : other = cString key
    · subst other
      rw [Finmap.lookup_erase] at found
      cases found
    · rw [Finmap.lookup_erase_ne same] at found
      exact store.text other stored found

def hget (store : Store) (key : Bytes) : Reply :=
  match store.results.lookup (cString key) with
  | some value => .string value
  | none => .nil

end Store

/-- The returned flag is the function's result; the store changes whenever the
server carries `HSET` out, also when its reply is lost or `EXPIRE` fails. -/
def setTaskResult (store : Store) (hset : Outcome) (expire : Option Reply) (taskId : Bytes)
    (result : TaskResult) : Store × Bool :=
  let next := if hset.executed then store.hset taskId result.serializeToString else store
  if !Reply.isDone hset.reply then (next, false)
  else (next, Reply.isExpireSet expire)

theorem setTaskResult_ok {store : Store} {hset : Outcome} {expire : Option Reply} {taskId : Bytes}
    {result : TaskResult} :
    (setTaskResult store hset expire taskId result).2 = true ↔
      Reply.isDone hset.reply = true ∧ Reply.isExpireSet expire = true := by
  unfold setTaskResult
  cases Reply.isDone hset.reply <;> simp

theorem setTaskResult_store {store : Store} {hset : Outcome} {expire : Option Reply} {taskId : Bytes}
    {result : TaskResult} (done : Reply.isDone hset.reply = true) :
    (setTaskResult store hset expire taskId result).1 = store.hset taskId result.serializeToString := by
  simp [setTaskResult, done, hset.done done]

/-- A value is found under the very key and bytes that were meant exactly when
neither holds a zero byte. -/
theorem Store.lookup_hset_iff (store : Store) (key value : Bytes) :
    (store.hset key value).results.lookup key = some value ↔ (0 : UInt8) ∉ key ∧ (0 : UInt8) ∉ value := by
  constructor
  · intro found
    exact (store.hset key value).text key value found
  · rintro ⟨cleanKey, cleanValue⟩
    simp [hset, cString_eq_self cleanKey, cString_eq_self cleanValue]

/-! ## Reading -/

/-- What `getTaskResult` returns instead of a result. -/
def noResult : Bytes := utf8 "NO_RESULT"

/-- Any reply but a string, a null reply included, counts as no result. -/
def getTaskResult : Option Reply → Bytes
  | some (.string bytes) => bytes
  | _ => noResult

/-- What may happen to the results in Redis.  An expired key is gone like a
deleted one. -/
inductive Command where
  | hset (key value : Bytes)
  | hdel (key : Bytes)
  | expired (key : Bytes)

/-- The key that the server sees. -/
def Command.key : Command → Bytes
  | .hset key _ | .hdel key | .expired key => cString key

def Store.apply (store : Store) : Command → Store
  | .hset key value => store.hset key value
  | .hdel key | .expired key => store.hdel key

theorem Store.lookup_apply_of_ne {store : Store} {command : Command} {key : Bytes}
    (other : command.key ≠ key) : (store.apply command).results.lookup key = store.results.lookup key := by
  cases command with
  | hset => exact Finmap.lookup_insert_of_ne _ (Ne.symm other)
  | hdel | expired => exact Finmap.lookup_erase_ne (Ne.symm other)

/-- A key keeps its value until a command names it. -/
theorem Store.lookup_foldl_apply {commands : List Command} {key : Bytes}
    (others : ∀ command ∈ commands, command.key ≠ key) (store : Store) :
    (commands.foldl Store.apply store).results.lookup key = store.results.lookup key := by
  induction commands generalizing store with
  | nil => rfl
  | cons command rest ih =>
      rw [List.foldl_cons, ih fun later member => others later (List.mem_cons_of_mem command member)]
      exact lookup_apply_of_ne (others command List.mem_cons_self)

end TaskHive.Redis
