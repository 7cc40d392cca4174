import Mathlib.Logic.Function.Basic
import TaskHive.Machine

namespace TaskHive.LogSystem.ThreadPool

/-! # The `ThreadPool` of the log system

The constructor creates the worker threads, calls of `enqueue` add tasks, and
the destructor sets the flag `stop` and joins the workers.  The flag and the
queue are read and written only inside `queue_mutex`, which has an explicit
owner.  A worker that finds nothing to do sleeps on `condition` until a
notification wakes it; it may also wake for no reason.  A call is identified
with the task it enqueues. -/

/-- A worker that is `contending` waits for the mutex, either at the top of its
loop or because it was woken; one that is `locked` owns the mutex. -/
inductive WorkerPc (κ : Type) where
  | unborn
  | contending
  | locked
  | sleeping
  | running (task : κ)
  | exited
deriving DecidableEq

/-- A call that is `locked` or `checked` owns the mutex; one that has `pushed`
its task still has to notify a worker. -/
inductive CallPc where
  | idle
  | contending
  | locked
  | checked
  | pushed
  | returned
  | threw (what : String)
deriving DecidableEq

/-- How many workers the constructor has created. -/
inductive BuildPc where
  | spawning (made : Nat)
  | returned
  | threw (what : String)
deriving DecidableEq

/-- The next worker that the destructor joins. -/
inductive DestroyPc where
  | idle
  | contending
  | locked
  | stopped
  | joining (next : Nat)
  | returned
deriving DecidableEq

inductive Owner (κ : Type) where
  | worker (tid : Nat)
  | call (caller : κ)
  | destructor
deriving DecidableEq

/-- How a task ends. -/
inductive Outcome where
  | returned
  | exception (what : String)
  | unknownException
deriving DecidableEq

/-- The last four fields record the history: the calls that have begun, and the
tasks that entered the queue, left it, and were executed. -/
structure State (κ : Type) where
  stop : Bool := false
  queueMutex : Option (Owner κ) := none
  tasks : List κ := []
  worker : Nat → WorkerPc κ := fun _ => .unborn
  call : κ → CallPc := fun _ => .idle
  builder : BuildPc := .spawning 0
  destructor : DestroyPc := .idle
  cerr : List String := []
  begun : List κ := []
  enqueued : List κ := []
  taken : List κ := []
  finished : List κ := []

inductive WorkerAction where
  | acquire
  | decide
  | run (outcome : Outcome)
  | wakeSpuriously
deriving DecidableEq

inductive CallAction where
  | enter
  | acquire
  | check
  | push
  | notifyOne (woken : Option Nat)
deriving DecidableEq

inductive DestroyAction where
  | call
  | acquire
  | setStop
  | notifyAll
  | join
deriving DecidableEq

inductive Action (κ : Type) where
  | build
  | worker (tid : Nat) (action : WorkerAction)
  | call (caller : κ) (action : CallAction)
  | destroy (action : DestroyAction)

section Steps

variable {κ : Type} [DecidableEq κ]

def State.setWorker (state : State κ) (tid : Nat) (pc : WorkerPc κ) : State κ :=
  { state with worker := Function.update state.worker tid pc }

def State.setCall (state : State κ) (caller : κ) (pc : CallPc) : State κ :=
  { state with call := Function.update state.call caller pc }

/-- The constructor refuses to build a pool without threads. -/
def buildStep (threads : Nat) (state : State κ) : Option (State κ) :=
  match state.builder with
  | .spawning made =>
      if threads = 0 then
        some { state with builder := .threw "Thread count must be greater than zero." }
      else
        some { state.setWorker made .contending with
          builder := if made + 1 < threads then .spawning (made + 1) else .returned }
  | _ => none

/-- What the two catch clauses write to `std::cerr`. -/
def Outcome.report : Outcome → List String
  | .returned => []
  | .exception what => ["Exception in thread pool worker: " ++ what]
  | .unknownException => ["Unknown exception in thread pool worker."]

def workerStep (state : State κ) (tid : Nat) : WorkerAction → Option (State κ)
  | .acquire =>
      if state.worker tid = .contending ∧ state.queueMutex = none then
        some { state.setWorker tid .locked with queueMutex := some (.worker tid) }
      else none
  | .decide =>
      if state.worker tid = .locked then
        match state.tasks with
        | [] => some { state.setWorker tid (if state.stop then .exited else .sleeping) with queueMutex := none }
        | task :: rest =>
            -- a stopped pool still hands out what is left
            some { state.setWorker tid (.running task) with
              queueMutex := none, tasks := rest, taken := state.taken ++ [task] }
      else none
  | .run outcome =>
      match state.worker tid with
      | .running task =>
          some { state.setWorker tid .contending with
            finished := state.finished ++ [task], cerr := state.cerr ++ outcome.report }
      | _ => none
  | .wakeSpuriously =>
      if state.worker tid = .sleeping then some (state.setWorker tid .contending) else none

/-- The pool can be used from the end of its constructor to the end of its
destructor. -/
def callStep (threads : Nat) (state : State κ) (caller : κ) : CallAction → Option (State κ)
  | .enter =>
      if state.call caller = .idle ∧ state.builder = .returned ∧ state.destructor ≠ .returned then
        some { state.setCall caller .contending with begun := state.begun ++ [caller] }
      else none
  | .acquire =>
      if state.call caller = .contending ∧ state.queueMutex = none then
        some { state.setCall caller .locked with queueMutex := some (.call caller) }
      else none
  | .check =>
      if state.call caller = .locked then
        if state.stop then
          some { state.setCall caller (.threw "enqueue on stopped ThreadPool") with queueMutex := none }
        else some (state.setCall caller .checked)
      else none
  | .push =>
      if state.call caller = .checked then
        some { state.setCall caller .pushed with
          queueMutex := none, tasks := state.tasks ++ [caller], enqueued := state.enqueued ++ [caller] }
      else none
  | .notifyOne woken =>
      if state.call caller = .pushed then
        match woken with
        | some tid =>
            if state.worker tid = .sleeping then
              some ((state.setWorker tid .contending).setCall caller .returned)
            else none
        | none =>
            -- the notification is lost only if nobody sleeps
            if ∀ tid < threads, state.worker tid ≠ .sleeping then some (state.setCall caller .returned) else none
      else none

def WorkerPc.wake : WorkerPc κ → WorkerPc κ
  | .sleeping => .contending
  | pc => pc

def destroyStep (threads : Nat) (state : State κ) : DestroyAction → Option (State κ)
  | .call =>
      if state.destructor = .idle ∧ state.builder = .returned then
        some { state with destructor := .contending }
      else none
  | .acquire =>
      if state.destructor = .contending ∧ state.queueMutex = none then
        some { state with destructor := .locked, queueMutex := some .destructor }
      else none
  | .setStop =>
      if state.destructor = .locked then
        some { state with stop := true, queueMutex := none, destructor := .stopped }
      else none
  | .notifyAll =>
      if state.destructor = .stopped then
        some { state with worker := fun tid => (state.worker tid).wake, destructor := .joining 0 }
      else none
  | .join =>
      match state.destructor with
      | .joining next =>
          if next < threads then
            if state.worker next = .exited then some { state with destructor := .joining (next + 1) } else none
          else some { state with destructor := .returned }
      | _ => none

def poolStep (threads : Nat) (state : State κ) : Action κ → Option (State κ)
  | .build => buildStep threads state
  | .worker tid action => workerStep state tid action
  | .call caller action => callStep threads state caller action
  | .destroy action => destroyStep threads state action

def pool (threads : Nat) : Machine (State κ) (Action κ) where
  init := {}
  step := poolStep threads

end Steps

variable {κ : Type} [DecidableEq κ] {threads : Nat}

/-! ## What one step can do -/

inductive Transition (threads : Nat) (state : State κ) : Action κ → State κ → Prop where
  | buildRefuse (made : Nat) (spawning : state.builder = .spawning made) (zero : threads = 0) :
      Transition threads state .build
        { state with builder := .threw "Thread count must be greater than zero." }
  | buildSpawn (made : Nat) (spawning : state.builder = .spawning made) (more : made + 1 < threads) :
      Transition threads state .build
        { state.setWorker made .contending with builder := .spawning (made + 1) }
  | buildLast (made : Nat) (spawning : state.builder = .spawning made) (nonzero : threads ≠ 0)
      (last : threads ≤ made + 1) :
      Transition threads state .build { state.setWorker made .contending with builder := .returned }
  | workerAcquire (tid : Nat) (contending : state.worker tid = .contending) (free : state.queueMutex = none) :
      Transition threads state (.worker tid .acquire)
        { state.setWorker tid .locked with queueMutex := some (.worker tid) }
  | workerLeave (tid : Nat) (locked : state.worker tid = .locked) (empty : state.tasks = [])
      (stopped : state.stop = true) :
      Transition threads state (.worker tid .decide) { state.setWorker tid .exited with queueMutex := none }
  | workerSleep (tid : Nat) (locked : state.worker tid = .locked) (empty : state.tasks = [])
      (unstopped : state.stop = false) :
      Transition threads state (.worker tid .decide) { state.setWorker tid .sleeping with queueMutex := none }
  | workerTake (tid : Nat) (task : κ) (rest : List κ) (locked : state.worker tid = .locked)
      (queue : state.tasks = task :: rest) :
      Transition threads state (.worker tid .decide)
        { state.setWorker tid (.running task) with
          queueMutex := none, tasks := rest, taken := state.taken ++ [task] }
  | workerRun (tid : Nat) (task : κ) (outcome : Outcome) (running : state.worker tid = .running task) :
      Transition threads state (.worker tid (.run outcome))
        { state.setWorker tid .contending with
          finished := state.finished ++ [task], cerr := state.cerr ++ outcome.report }
  | workerWake (tid : Nat) (sleeping : state.worker tid = .sleeping) :
      Transition threads state (.worker tid .wakeSpuriously) (state.setWorker tid .contending)
  | callEnter (caller : κ) (idle : state.call caller = .idle) (built : state.builder = .returned)
      (alive : state.destructor ≠ .returned) :
      Transition threads state (.call caller .enter)
        { state.setCall caller .contending with begun := state.begun ++ [caller] }
  | callAcquire (caller : κ) (contending : state.call caller = .contending) (free : state.queueMutex = none) :
      Transition threads state (.call caller .acquire)
        { state.setCall caller .locked with queueMutex := some (.call caller) }
  | callRefuse (caller : κ) (locked : state.call caller = .locked) (stopped : state.stop = true) :
      Transition threads state (.call caller .check)
        { state.setCall caller (.threw "enqueue on stopped ThreadPool") with queueMutex := none }
  | callCheck (caller : κ) (locked : state.call caller = .locked) (unstopped : state.stop = false) :
      Transition threads state (.call caller .check) (state.setCall caller .checked)
  | callPush (caller : κ) (checked : state.call caller = .checked) :
      Transition threads state (.call caller .push)
        { state.setCall caller .pushed with
          queueMutex := none, tasks := state.tasks ++ [caller], enqueued := state.enqueued ++ [caller] }
  | callNotify (caller : κ) (tid : Nat) (pushed : state.call caller = .pushed)
      (sleeping : state.worker tid = .sleeping) :
      Transition threads state (.call caller (.notifyOne (some tid)))
        ((state.setWorker tid .contending).setCall caller .returned)
  | callNotifyNobody (caller : κ) (pushed : state.call caller = .pushed)
      (awake : ∀ tid < threads, state.worker tid ≠ .sleeping) :
      Transition threads state (.call caller (.notifyOne none)) (state.setCall caller .returned)
  | destroyCall (idle : state.destructor = .idle) (built : state.builder = .returned) :
      Transition threads state (.destroy .call) { state with destructor := .contending }
  | destroyAcquire (contending : state.destructor = .contending) (free : state.queueMutex = none) :
      Transition threads state (.destroy .acquire)
        { state with destructor := .locked, queueMutex := some .destructor }
  | destroyStop (locked : state.destructor = .locked) :
      Transition threads state (.destroy .setStop)
        { state with stop := true, queueMutex := none, destructor := .stopped }
  | destroyNotify (stopped : state.destructor = .stopped) :
      Transition threads state (.destroy .notifyAll)
        { state with worker := fun tid => (state.worker tid).wake, destructor := .joining 0 }
  | destroyJoin (next : Nat) (joining : state.destructor = .joining next) (more : next < threads)
      (exited : state.worker next = .exited) :
      Transition threads state (.destroy .join) { state with destructor := .joining (next + 1) }
  | destroyReturn (next : Nat) (joining : state.destructor = .joining next) (last : threads ≤ next) :
      Transition threads state (.destroy .join) { state with destructor := .returned }

theorem buildStep_transition {before after : State κ} (stepped : buildStep threads before = some after) :
    Transition threads before .build after := by
  unfold buildStep at stepped
  split at stepped
  · rename_i made spawning
    split at stepped
    · rename_i zero
      cases stepped
      exact .buildRefuse made spawning zero
    · rename_i nonzero
      split at stepped
      · rename_i more
        cases stepped
        exact .buildSpawn made spawning more
      · rename_i last
        cases stepped
        exact .buildLast made spawning nonzero (Nat.le_of_not_lt last)
  · cases stepped

theorem workerStep_transition {before after : State κ} {tid : Nat} {action : WorkerAction}
    (stepped : workerStep before tid action = some after) :
    Transition threads before (.worker tid action) after := by
  cases action with
  | acquire =>
      simp only [workerStep, Option.ite_none_right_eq_some] at stepped
      obtain ⟨⟨contending, free⟩, ⟨⟩⟩ := stepped
      exact .workerAcquire tid contending free
  | decide =>
      simp only [workerStep, Option.ite_none_right_eq_some] at stepped
      obtain ⟨locked, stepped⟩ := stepped
      split at stepped
      · rename_i empty
        cases stopped : before.stop with
        | true =>
            simp only [stopped, if_true] at stepped
            cases stepped
            exact .workerLeave tid locked empty stopped
        | false =>
            simp only [stopped, Bool.false_eq_true, if_false] at stepped
            cases stepped
            exact .workerSleep tid locked empty stopped
      · rename_i task rest queue
        cases stepped
        exact .workerTake tid task rest locked queue
  | run outcome =>
      simp only [workerStep] at stepped
      split at stepped
      · rename_i task running
        cases stepped
        exact .workerRun tid task outcome running
      · cases stepped
  | wakeSpuriously =>
      simp only [workerStep, Option.ite_none_right_eq_some] at stepped
      obtain ⟨sleeping, ⟨⟩⟩ := stepped
      exact .workerWake tid sleeping

theorem callStep_transition {before after : State κ} {caller : κ} {action : CallAction}
    (stepped : callStep threads before caller action = some after) :
    Transition threads before (.call caller action) after := by
  cases action with
  | enter =>
      simp only [callStep, Option.ite_none_right_eq_some] at stepped
      obtain ⟨⟨idle, built, alive⟩, ⟨⟩⟩ := stepped
      exact .callEnter caller idle built alive
  | acquire =>
      simp only [callStep, Option.ite_none_right_eq_some] at stepped
      obtain ⟨⟨contending, free⟩, ⟨⟩⟩ := stepped
      exact .callAcquire caller contending free
  | check =>
      simp only [callStep, Option.ite_none_right_eq_some] at stepped
      obtain ⟨locked, stepped⟩ := stepped
      split at stepped
      · rename_i stopped
        cases stepped
        exact .callRefuse caller locked stopped
      · rename_i unstopped
        cases stepped
        exact .callCheck caller locked (Bool.eq_false_iff.mpr unstopped)
  | push =>
      simp only [callStep, Option.ite_none_right_eq_some] at stepped
      obtain ⟨checked, ⟨⟩⟩ := stepped
      exact .callPush caller checked
  | notifyOne woken =>
      simp only [callStep, Option.ite_none_right_eq_some] at stepped
      obtain ⟨pushed, stepped⟩ := stepped
      cases woken with
      | some tid =>
          simp only [Option.ite_none_right_eq_some] at stepped
          obtain ⟨sleeping, ⟨⟩⟩ := stepped
          exact .callNotify caller tid pushed sleeping
      | none =>
          simp only [Option.ite_none_right_eq_some] at stepped
          obtain ⟨awake, ⟨⟩⟩ := stepped
          exact .callNotifyNobody caller pushed awake

theorem destroyStep_transition {before after : State κ} {action : DestroyAction}
    (stepped : destroyStep threads before action = some after) :
    Transition threads before (.destroy action) after := by
  cases action with
  | call =>
      simp only [destroyStep, Option.ite_none_right_eq_some] at stepped
      obtain ⟨⟨idle, built⟩, ⟨⟩⟩ := stepped
      exact .destroyCall idle built
  | acquire =>
      simp only [destroyStep, Option.ite_none_right_eq_some] at stepped
      obtain ⟨⟨contending, free⟩, ⟨⟩⟩ := stepped
      exact .destroyAcquire contending free
  | setStop =>
      simp only [destroyStep, Option.ite_none_right_eq_some] at stepped
      obtain ⟨locked, ⟨⟩⟩ := stepped
      exact .destroyStop locked
  | notifyAll =>
      simp only [destroyStep, Option.ite_none_right_eq_some] at stepped
      obtain ⟨stopped, ⟨⟩⟩ := stepped
      exact .destroyNotify stopped
  | join =>
      simp only [destroyStep] at stepped
      split at stepped
      · rename_i next joining
        split at stepped
        · rename_i more
          simp only [Option.ite_none_right_eq_some] at stepped
          obtain ⟨exited, ⟨⟩⟩ := stepped
          exact .destroyJoin next joining more exited
        · rename_i last
          cases stepped
          exact .destroyReturn next joining (Nat.le_of_not_lt last)
      · cases stepped

theorem poolStep_transition {before after : State κ} {action : Action κ}
    (stepped : poolStep threads before action = some after) : Transition threads before action after := by
  cases action with
  | build => exact buildStep_transition stepped
  | worker tid action => exact workerStep_transition stepped
  | call caller action => exact callStep_transition stepped
  | destroy action => exact destroyStep_transition stepped

end TaskHive.LogSystem.ThreadPool
