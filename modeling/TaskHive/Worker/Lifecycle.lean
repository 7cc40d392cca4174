import TaskHive.Custody
import TaskHive.Machine
import TaskHive.Worker.ExecTask
import TaskHive.Worker.Receive

namespace TaskHive.Worker

open TaskHive.Wire TaskHive.MessageQueue

/-! # A worker from delivery to published result, and `stop`

Four threads and the caller of `stop` interleave: the receive thread, the
dispatching `exec_task` thread, the pool's threads and the reporting thread.
Every delivery carries a tag of its own, and the tag stays with the task and
with its result.  The broker is reachable: acknowledgements succeed, and a
publish fails only on a closed queue. -/

abbrev Tagged (α : Type) := Nat × α

/-- `acking` is reached when the callback has cached the task. -/
inductive ReceivePc where
  | top
  | consuming
  | caching (delivery : Tagged Task)
  | acking (tag : Nat)
  | exited
deriving DecidableEq

inductive ExecPc where
  | top
  | locking
  | waiting
  | holding
  | submitting (delivery : Tagged Task)
  | exited
deriving DecidableEq

inductive ReportPc where
  | top
  | locking
  | waiting
  | holding
  | settled
  | exited
deriving DecidableEq, Repr

inductive StopPc where
  | idle
  | closingTasks
  | closingResults
  | joining
  | stoppingPool
  | returned
deriving DecidableEq, Repr

/-- `pool` is what the thread pool has accepted and not finished.  `acked` and
`published` record what the broker has seen, and `terminated` is set by an
exception that no thread function catches. -/
structure State where
  running : Bool := true
  taskQueue : Queue := .connected
  resultQueue : Queue := .connected
  nextTag : Nat := 0
  pendingTasks : List (Tagged Task) := []
  pool : List (Tagged Task) := []
  taskResultQueue : List (Tagged TaskResult) := []
  receive : ReceivePc := .top
  exec : ExecPc := .top
  report : ReportPc := .top
  stop : StopPc := .idle
  acked : List Nat := []
  published : List (Tagged TaskResult) := []
  terminated : Bool := false

inductive Action where
  | receiveCheck
  | consume (reply : Reply)
  | cache (now : Int64)
  | ack
  | execCheck
  | execLock
  | execWake
  | take
  | submitJob
  | finish (job : Nat) (execution : Execution) (order : List (Bytes × Bytes))
  | reportCheck
  | reportLock
  | reportWake
  | reportFront
  | reportUnlock
  | stopCall
  | closeTasks
  | closeResults
  | join
  | stopPool

def receiveStep (state : State) : Action → Option State
  | .receiveCheck =>
      match state.receive with
      | .top =>
          some { state with receive := if state.taskQueue.isConnected then .consuming else .exited }
      | _ => none
  | .consume reply =>
      match state.receive with
      | .consuming =>
          if !state.taskQueue.isConnected then some { state with receive := .exited }
          else match reply with
            | .timeout => some { state with receive := .top }
            | .failed => some { state with receive := .exited }
            | .normal body =>
                -- the exception of a body that does not parse is caught by `receive_task`
                match Task.parseFromString body with
                | none => some { state with receive := .exited }
                | some task =>
                    some { state with
                      receive := .caching (state.nextTag, task), nextTag := state.nextTag + 1 }
      | _ => none
  | .cache now =>
      match state.receive with
      | .caching (tag, task) =>
          if state.exec = .holding then none
          else
            some { state with
              pendingTasks := state.pendingTasks ++ [(tag, stampArrival now task)]
              receive := .acking tag }
      | _ => none
  | .ack =>
      match state.receive with
      | .acking tag => some { state with acked := state.acked ++ [tag], receive := .top }
      | _ => none
  | _ => none

def execStep (state : State) : Action → Option State
  | .execCheck =>
      match state.exec with
      | .top => some { state with exec := if state.running then .locking else .exited }
      | _ => none
  | .execLock =>
      match state.exec with
      | .locking =>
          some { state with
            exec := if state.pendingTasks.isEmpty && state.running then .waiting else .holding }
      | _ => none
  | .execWake =>
      match state.exec with
      | .waiting =>
          if !state.running || !state.pendingTasks.isEmpty then some { state with exec := .holding }
          else none
      | _ => none
  | .take =>
      match state.exec with
      | .holding =>
          if !state.running then some { state with exec := .exited }
          else match state.pendingTasks with
            | [] => some { state with exec := .top }
            | delivery :: rest => some { state with pendingTasks := rest, exec := .submitting delivery }
      | _ => none
  | .submitJob =>
      match state.exec with
      | .submitting delivery => some { state with pool := state.pool ++ [delivery], exec := .top }
      | _ => none
  | _ => none

/-- A pool thread finishes a job and pushes its result; the result queue is
locked while the reporting thread is `holding` it or has `settled` its front. -/
def poolStep (workerId : Bytes) (state : State) : Action → Option State
  | .finish job execution order =>
      match state.pool[job]? with
      | none => none
      | some (tag, task) =>
          if state.report = .holding ∨ state.report = .settled then none
          else
            some { state with
              pool := state.pool.eraseIdx job
              taskResultQueue :=
                state.taskResultQueue ++ [(tag, execTask workerId execution order task)] }
  | _ => none

/-- `report_task_result` has no handler: an exception of `publishResult` ends
the process. -/
def reportStep (state : State) : Action → Option State
  | .reportCheck =>
      match state.report with
      | .top => some { state with report := if state.running then .locking else .exited }
      | _ => none
  | .reportLock =>
      match state.report with
      | .locking =>
          some { state with
            report := if state.taskResultQueue.isEmpty && state.running then .waiting else .holding }
      | _ => none
  | .reportWake =>
      match state.report with
      | .waiting =>
          if !state.running || !state.taskResultQueue.isEmpty then some { state with report := .holding }
          else none
      | _ => none
  | .reportFront =>
      match state.report with
      | .holding =>
          match state.taskResultQueue with
          | [] => some { state with report := .settled }
          | (tag, result) :: rest =>
              match publishResultImpl state.resultQueue true result with
              | .ok _ =>
                  some { state with
                    taskResultQueue := rest, published := state.published ++ [(tag, result)], report := .settled }
              | .error _ => some { state with taskResultQueue := rest, terminated := true }
      | _ => none
  | .reportUnlock =>
      match state.report with
      | .settled =>
          some { state with
            report := if !state.running && state.taskResultQueue.isEmpty then .exited else .top }
      | _ => none
  | _ => none

/-- The pool is stopped last, and its `stop` returns when every job it has
accepted is finished. -/
def stopStep (state : State) : Action → Option State
  | .stopCall =>
      match state.stop with
      | .idle => if state.running then some { state with running := false, stop := .closingTasks } else none
      | _ => none
  | .closeTasks =>
      match state.stop with
      | .closingTasks => some { state with taskQueue := state.taskQueue.close, stop := .closingResults }
      | _ => none
  | .closeResults =>
      match state.stop with
      | .closingResults => some { state with resultQueue := state.resultQueue.close, stop := .joining }
      | _ => none
  | .join =>
      match state.stop with
      | .joining =>
          if state.receive = .exited ∧ state.exec = .exited ∧ state.report = .exited then
            some { state with stop := .stoppingPool }
          else none
      | _ => none
  | .stopPool =>
      match state.stop with
      | .stoppingPool => if state.pool = [] then some { state with stop := .returned } else none
      | _ => none
  | _ => none

def lifecycleStep (workerId : Bytes) (state : State) (action : Action) : Option State :=
  if state.terminated then none
  else match action with
    | .receiveCheck | .consume _ | .cache _ | .ack => receiveStep state action
    | .execCheck | .execLock | .execWake | .take | .submitJob => execStep state action
    | .finish _ _ _ => poolStep workerId state action
    | .reportCheck | .reportLock | .reportWake | .reportFront | .reportUnlock => reportStep state action
    | .stopCall | .closeTasks | .closeResults | .join | .stopPool => stopStep state action

def lifecycle (workerId : Bytes) : Machine State Action where
  init := {}
  step := lifecycleStep workerId

/-- No uncaught exception, and once `stop` has returned every acknowledged task
has had exactly one result published. -/
def Graceful (state : State) : Prop :=
  state.terminated = false ∧
    (state.stop = .returned → ∀ tag ∈ state.acked, (state.published.map Prod.fst).count tag = 1)

instance : DecidablePred Graceful := fun _ => inferInstanceAs (Decidable (_ ∧ _))

/-- Nothing is left for the dispatching thread, now or later. -/
def State.DispatchDone (state : State) : Prop :=
  state.pendingTasks = [] ∧ state.receive = .exited

/-- Nothing is left for the reporting thread, now or later. -/
def State.ReportDone (state : State) : Prop :=
  state.taskResultQueue = [] ∧ state.pool = [] ∧ state.exec = .exited

instance (state : State) : Decidable state.DispatchDone := inferInstanceAs (Decidable (_ ∧ _))

instance (state : State) : Decidable state.ReportDone := inferInstanceAs (Decidable (_ ∧ _))

/-- Results are published on an open queue only, and the dispatching and the
reporting thread leave their loops only when nothing more can come. -/
def Quiesces (state : State) : Action → Prop
  | .execCheck => state.running = false → state.DispatchDone
  | .take => state.running = false → state.DispatchDone
  | .reportFront => state.taskResultQueue ≠ [] →
      state.resultQueue.isConnected = true ∧ state.resultQueue.conn = true
  | .reportCheck => state.running = false → state.ReportDone
  | .reportUnlock => state.running = false → state.taskResultQueue = [] → state.ReportDone
  | _ => True

instance (state : State) (action : Action) : Decidable (Quiesces state action) := by
  cases action <;> unfold Quiesces <;> infer_instance

/-! ## Where a delivery is -/

inductive Place where
  | receiving
  | pending
  | dispatching
  | pool
  | results
  | published
deriving DecidableEq, Repr

def ReceivePc.hand : ReceivePc → List Nat
  | .caching delivery => [delivery.1]
  | _ => []

def ExecPc.hand : ExecPc → List Nat
  | .submitting delivery => [delivery.1]
  | _ => []

def State.holds (state : State) : Place → List Nat
  | .receiving => state.receive.hand
  | .pending => state.pendingTasks.map Prod.fst
  | .dispatching => state.exec.hand
  | .pool => state.pool.map Prod.fst
  | .results => state.taskResultQueue.map Prod.fst
  | .published => state.published.map Prod.fst

def StopPc.joined : StopPc → Bool
  | .stoppingPool | .returned => true
  | _ => false

structure Tracked (state : State) : Prop where
  custody : Custody state.holds (· < state.nextTag)
  acked : ∀ tag ∈ state.acked, tag < state.nextTag
  acking : ∀ tag, state.receive = .acking tag → tag < state.nextTag
  alive : state.terminated = false
  dispatched : state.exec = .exited → state.DispatchDone
  reported : state.report = .exited → state.ReportDone
  joined : state.stop.joined = true → state.report = .exited

theorem Tracked.dispatching {state : State} (tracked : Tracked state)
    (receiving : state.receive ≠ .exited) : state.exec ≠ .exited :=
  fun exited => receiving (tracked.dispatched exited).2

theorem Tracked.reporting {state : State} (tracked : Tracked state) (dispatching : state.exec ≠ .exited) :
    state.report ≠ .exited :=
  fun exited => dispatching (tracked.reported exited).2.2

/-- The receive thread moves without taking or handing over a delivery. -/
theorem Tracked.withReceive {state : State} (tracked : Tracked state) {next : ReceivePc}
    (sameHand : next.hand = state.receive.hand) (acking : ∀ tag, next = .acking tag → tag < state.nextTag)
    (receiving : state.receive ≠ .exited) : Tracked { state with receive := next } := by
  refine ⟨tracked.custody.rearrange ?_, tracked.acked, acking, tracked.alive, ?_, tracked.reported,
    tracked.joined⟩
  · intro place
    cases place <;> simp only [State.holds, sameHand, List.Perm.refl]
  · intro exited
    exact absurd exited (tracked.dispatching receiving)

theorem receiveStep_tracked {before after : State} {action : Action} (tracked : Tracked before)
    (stepped : receiveStep before action = some after) : Tracked after := by
  cases action with
  | receiveCheck =>
      simp only [receiveStep] at stepped
      split at stepped
      · rename_i pc
        cases stepped
        refine tracked.withReceive ?_ ?_ (by simp [pc]) <;> split <;> simp [pc, ReceivePc.hand]
      · cases stepped
  | consume reply =>
      simp only [receiveStep] at stepped
      split at stepped
      · rename_i pc
        have hand : before.receive.hand = [] := by rw [pc]; rfl
        have receiving : before.receive ≠ .exited := by simp [pc]
        split at stepped
        · cases stepped; exact tracked.withReceive hand.symm nofun receiving
        · split at stepped
          · cases stepped; exact tracked.withReceive hand.symm nofun receiving
          · cases stepped; exact tracked.withReceive hand.symm nofun receiving
          · split at stepped
            · cases stepped; exact tracked.withReceive hand.symm nofun receiving
            · rename_i task _
              cases stepped
              refine ⟨?_, ?_, nofun, tracked.alive, ?_, tracked.reported, tracked.joined⟩
              · refine (tracked.custody.issue before.nextTag .receiving (Nat.lt_irrefl _) ?_ ?_).congr ?_
                · simp [State.holds, pc, ReceivePc.hand]
                · intro place different
                  cases place with
                  | receiving => exact absurd rfl different
                  | _ => exact .refl _
                · intro tag
                  exact Nat.lt_succ_iff_lt_or_eq.trans or_comm
              · intro tag member
                exact Nat.lt_succ_of_lt (tracked.acked tag member)
              · intro exited
                exact absurd exited (tracked.dispatching receiving)
      · cases stepped
  | cache now =>
      simp only [receiveStep] at stepped
      split at stepped
      · rename_i tag task pc
        split at stepped
        · cases stepped
        · cases stepped
          refine ⟨?_, tracked.acked, ?_, tracked.alive, ?_, tracked.reported, tracked.joined⟩
          · refine tracked.custody.move tag .receiving .pending (by decide) ?_ ?_ ?_
            · simp [State.holds, pc, ReceivePc.hand]
            · simp [State.holds, stampArrival]
            · intro place notSource notTarget
              cases place with
              | receiving => exact absurd rfl notSource
              | pending => exact absurd rfl notTarget
              | _ => exact .refl _
          · intro other same
            cases same
            exact tracked.custody.issued_of_mem .receiving (by simp [State.holds, pc, ReceivePc.hand])
          · intro exited
            exact absurd exited (tracked.dispatching (by simp [pc]))
      · cases stepped
  | ack =>
      simp only [receiveStep] at stepped
      split at stepped
      · rename_i tag pc
        cases stepped
        have rest : Tracked { before with receive := .top } :=
          tracked.withReceive (by rw [pc]; rfl) nofun (by simp [pc])
        refine ⟨rest.custody, ?_, nofun, rest.alive, rest.dispatched, rest.reported, rest.joined⟩
        intro other member
        rcases List.mem_append.mp member with old | new
        · exact tracked.acked other old
        · cases List.mem_singleton.mp new
          exact tracked.acking tag pc
      · cases stepped
  | _ => cases stepped

/-- The dispatching thread moves without taking or handing over a delivery. -/
theorem Tracked.withExec {state : State} (tracked : Tracked state) {next : ExecPc}
    (sameHand : next.hand = state.exec.hand) (dispatching : state.exec ≠ .exited)
    (done : next = .exited → state.DispatchDone) : Tracked { state with exec := next } := by
  refine ⟨tracked.custody.rearrange ?_, tracked.acked, tracked.acking, tracked.alive, done, ?_,
    tracked.joined⟩
  · intro place
    cases place <;> simp only [State.holds, sameHand, List.Perm.refl]
  · intro exited
    exact absurd exited (tracked.reporting dispatching)

theorem execStep_tracked {before after : State} {action : Action} (tracked : Tracked before)
    (quiesces : Quiesces before action) (stepped : execStep before action = some after) :
    Tracked after := by
  cases action with
  | execCheck =>
      simp only [execStep] at stepped
      split at stepped
      · rename_i pc
        cases stepped
        refine tracked.withExec ?_ (by simp [pc]) ?_
        · split <;> simp [pc, ExecPc.hand]
        · intro exited
          cases running : before.running with
          | false => exact quiesces running
          | true => simp [running] at exited
      · cases stepped
  | execLock =>
      simp only [execStep] at stepped
      split at stepped
      · rename_i pc
        cases stepped
        refine tracked.withExec ?_ (by simp [pc]) ?_ <;> split <;> simp [pc, ExecPc.hand]
      · cases stepped
  | execWake =>
      simp only [execStep] at stepped
      split at stepped
      · rename_i pc
        split at stepped
        · cases stepped
          exact tracked.withExec (by rw [pc]; rfl) (by simp [pc]) nofun
        · cases stepped
      · cases stepped
  | take =>
      simp only [execStep] at stepped
      split at stepped
      · rename_i pc
        have hand : before.exec.hand = [] := by rw [pc]; rfl
        have dispatching : before.exec ≠ .exited := by simp [pc]
        split at stepped
        · rename_i stopped
          cases stepped
          exact tracked.withExec hand.symm dispatching fun _ => quiesces (by simpa using stopped)
        · split at stepped
          · cases stepped
            exact tracked.withExec hand.symm dispatching nofun
          · rename_i delivery rest pending
            cases stepped
            refine ⟨?_, tracked.acked, tracked.acking, tracked.alive, nofun, ?_, tracked.joined⟩
            · refine tracked.custody.move delivery.1 .pending .dispatching (by decide) ?_ ?_ ?_
              · simp [State.holds, pending]
              · simp [State.holds, pc, ExecPc.hand]
              · intro place notSource notTarget
                cases place with
                | pending => exact absurd rfl notSource
                | dispatching => exact absurd rfl notTarget
                | _ => exact .refl _
            · intro exited
              exact absurd exited (tracked.reporting dispatching)
      · cases stepped
  | submitJob =>
      simp only [execStep] at stepped
      split at stepped
      · rename_i delivery pc
        cases stepped
        refine ⟨?_, tracked.acked, tracked.acking, tracked.alive, nofun, ?_, tracked.joined⟩
        · refine tracked.custody.move delivery.1 .dispatching .pool (by decide) ?_ ?_ ?_
          · simp [State.holds, pc, ExecPc.hand]
          · simp [State.holds]
          · intro place notSource notTarget
            cases place with
            | dispatching => exact absurd rfl notSource
            | pool => exact absurd rfl notTarget
            | _ => exact .refl _
        · intro exited
          exact absurd exited (tracked.reporting (by simp [pc]))
      · cases stepped
  | _ => cases stepped

theorem poolStep_tracked {workerId : Bytes} {before after : State} {action : Action}
    (tracked : Tracked before) (stepped : poolStep workerId before action = some after) : Tracked after := by
  cases action with
  | finish job execution order =>
      simp only [poolStep] at stepped
      split at stepped
      · cases stepped
      · rename_i tag task found
        split at stepped
        · cases stepped
        · cases stepped
          refine ⟨?_, tracked.acked, tracked.acking, tracked.alive, tracked.dispatched, ?_, tracked.joined⟩
          · obtain ⟨inside, value⟩ := List.getElem?_eq_some_iff.mp found
            refine tracked.custody.move tag .pool .results (by decide) ?_ ?_ ?_
            · have removed := (List.getElem_cons_eraseIdx_perm inside).symm.map Prod.fst
              simpa [State.holds, value] using removed
            · simp [State.holds]
            · intro place notSource notTarget
              cases place with
              | pool => exact absurd rfl notSource
              | results => exact absurd rfl notTarget
              | _ => exact .refl _
          · intro exited
            have empty := (tracked.reported exited).2.1
            simp [empty] at found
  | _ => cases stepped

/-- The reporting thread moves without taking a result. -/
theorem Tracked.withReport {state : State} (tracked : Tracked state) {next : ReportPc}
    (reporting : state.report ≠ .exited) (done : next = .exited → state.ReportDone) :
    Tracked { state with report := next } :=
  ⟨tracked.custody.rearrange fun place => by cases place <;> exact .refl _, tracked.acked, tracked.acking,
    tracked.alive, tracked.dispatched, done, fun joined => absurd (tracked.joined joined) reporting⟩

theorem reportStep_tracked {before after : State} {action : Action} (tracked : Tracked before)
    (quiesces : Quiesces before action) (stepped : reportStep before action = some after) :
    Tracked after := by
  cases action with
  | reportCheck =>
      simp only [reportStep] at stepped
      split at stepped
      · rename_i pc
        cases stepped
        refine tracked.withReport (by simp [pc]) ?_
        intro exited
        cases running : before.running with
        | false => exact quiesces running
        | true => simp [running] at exited
      · cases stepped
  | reportLock =>
      simp only [reportStep] at stepped
      split at stepped
      · rename_i pc
        cases stepped
        refine tracked.withReport (by simp [pc]) ?_
        split <;> nofun
      · cases stepped
  | reportWake =>
      simp only [reportStep] at stepped
      split at stepped
      · rename_i pc
        split at stepped
        · cases stepped
          exact tracked.withReport (by simp [pc]) nofun
        · cases stepped
      · cases stepped
  | reportFront =>
      simp only [reportStep] at stepped
      split at stepped
      · rename_i pc
        split at stepped
        · cases stepped
          exact tracked.withReport (by simp [pc]) nofun
        · rename_i tag result rest results
          obtain ⟨connected, conn⟩ := quiesces (by simp [results])
          simp only [publishResultImpl, publishBytes, connected, conn, Bool.not_true, Bool.or_self,
            Bool.false_eq_true, if_false, if_true] at stepped
          cases stepped
          refine ⟨?_, tracked.acked, tracked.acking, tracked.alive, tracked.dispatched, nofun, ?_⟩
          · refine tracked.custody.move tag .results .published (by decide) ?_ ?_ ?_
            · simp [State.holds, results]
            · simp [State.holds]
            · intro place notSource notTarget
              cases place with
              | results => exact absurd rfl notSource
              | published => exact absurd rfl notTarget
              | _ => exact .refl _
          · intro joined
            have exited := tracked.joined joined
            simp [pc] at exited
      · cases stepped
  | reportUnlock =>
      simp only [reportStep] at stepped
      split at stepped
      · rename_i pc
        cases stepped
        refine tracked.withReport (by simp [pc]) ?_
        intro exited
        split at exited
        · rename_i ends
          simp only [Bool.and_eq_true, Bool.not_eq_true', List.isEmpty_iff] at ends
          exact quiesces ends.1 ends.2
        · cases exited
      · cases stepped
  | _ => cases stepped

theorem stopStep_tracked {before after : State} {action : Action} (tracked : Tracked before)
    (stepped : stopStep before action = some after) : Tracked after := by
  have custody {running : Bool} {taskQueue resultQueue : Queue} {stop : StopPc} :
      Custody { before with running, taskQueue, resultQueue, stop }.holds (· < before.nextTag) :=
    tracked.custody.rearrange fun place => by cases place <;> exact .refl _
  have ⟨_, acked, acking, alive, dispatched, reported, joined⟩ := tracked
  cases action with
  | stopCall =>
      simp only [stopStep] at stepped
      split at stepped
      · split at stepped
        · cases stepped; exact ⟨custody, acked, acking, alive, dispatched, reported, nofun⟩
        · cases stepped
      · cases stepped
  | closeTasks =>
      simp only [stopStep] at stepped
      split at stepped
      · cases stepped; exact ⟨custody, acked, acking, alive, dispatched, reported, nofun⟩
      · cases stepped
  | closeResults =>
      simp only [stopStep] at stepped
      split at stepped
      · cases stepped; exact ⟨custody, acked, acking, alive, dispatched, reported, nofun⟩
      · cases stepped
  | join =>
      simp only [stopStep] at stepped
      split at stepped
      · split at stepped
        · rename_i ended
          cases stepped
          exact ⟨custody, acked, acking, alive, dispatched, reported, fun _ => ended.2.2⟩
        · cases stepped
      · cases stepped
  | stopPool =>
      simp only [stopStep] at stepped
      split at stepped
      · rename_i pc
        split at stepped
        · cases stepped
          exact ⟨custody, acked, acking, alive, dispatched, reported, fun _ => joined (by rw [pc]; rfl)⟩
        · cases stepped
      · cases stepped
  | _ => cases stepped

theorem lifecycleStep_tracked {workerId : Bytes} {before after : State} {action : Action}
    (tracked : Tracked before) (quiesces : Quiesces before action)
    (stepped : lifecycleStep workerId before action = some after) : Tracked after := by
  simp only [lifecycleStep, tracked.alive, Bool.false_eq_true, if_false] at stepped
  cases action
  case receiveCheck | consume | cache | ack => exact receiveStep_tracked tracked stepped
  case execCheck | execLock | execWake | take | submitJob => exact execStep_tracked tracked quiesces stepped
  case finish => exact poolStep_tracked tracked stepped
  case reportCheck | reportLock | reportWake | reportFront | reportUnlock =>
      exact reportStep_tracked tracked quiesces stepped
  all_goals exact stopStep_tracked tracked stepped

/-- After `stop` the published results are the only place left. -/
theorem graceful_of_tracked {state : State} (tracked : Tracked state) : Graceful state := by
  refine ⟨tracked.alive, ?_⟩
  intro returned tag member
  obtain ⟨results, pool, exec⟩ := tracked.reported (tracked.joined (by rw [returned]; rfl))
  obtain ⟨pending, receive⟩ := tracked.dispatched exec
  apply tracked.custody.count_of_last .published _ (tracked.acked tag member)
  intro place notPublished
  cases place <;> simp_all [State.holds, ReceivePc.hand, ExecPc.hand]

/-- Every run in which results are published on an open queue and the two
queue threads leave their loops behind the last item stops gracefully. -/
theorem worker_stops_gracefully (workerId : Bytes) (state : State)
    (reached : (lifecycle workerId).ReachableBy Quiesces state) : Graceful state := by
  refine graceful_of_tracked (reached.invariant ?_ ?_)
  · refine ⟨.empty ?_ (fun tag => Nat.not_lt_zero tag), nofun, nofun, rfl, nofun, nofun, nofun⟩
    intro place
    cases place <;> rfl
  · intro before action after tracked quiesces stepped
    exact lifecycleStep_tracked tracked quiesces stepped

/-- An execution in which every command prints one byte. -/
def echo : Execution where
  now := 9
  execCmd _ := .ok [111]
  execFunc _ _ := .error []

/-- The bytes of a command task with the id `t`. -/
def commandMessage : Bytes := [10, 1, 116, 16, 1]

/-- One task is delivered, executed and reported before `stop` is called. -/
theorem worker_stops_after_one_task :
    ∃ state, (lifecycle [119]).ReachableBy Quiesces state ∧ state.stop = .returned ∧ state.acked = [0] ∧
      Graceful state := by
  obtain ⟨state, reached, returned, acked⟩ := (lifecycle [119]).reachableBy_of_any Quiesces
    (fun state => state.stop = .returned ∧ state.acked = [0])
    [.receiveCheck, .consume (.normal commandMessage), .cache 8, .ack, .execCheck, .execLock, .take,
      .submitJob, .finish 0 echo [], .reportCheck, .reportLock, .reportFront, .reportUnlock, .stopCall,
      .closeTasks, .closeResults, .receiveCheck, .execCheck, .reportCheck, .join, .stopPool] (by decide)
  exact ⟨state, reached, returned, acked, worker_stops_gracefully [119] state reached⟩

/-- A result that is reported after `stop` has closed the result queue ends the
process, and a task that is still cached when `stop` is called is acknowledged
and never executed. -/
theorem worker_stop_loses_task :
    (∃ state, (lifecycle [119]).Reachable state ∧ state.terminated = true ∧ state.acked = [0] ∧
        state.published = [] ∧ ¬ Graceful state) ∧
      ∃ state, (lifecycle [119]).Reachable state ∧ state.stop = .returned ∧ state.acked = [0] ∧
        state.published = [] ∧ ¬ Graceful state := by
  constructor
  · exact (lifecycle [119]).reachable_of_any
      [.receiveCheck, .consume (.normal commandMessage), .cache 8, .ack, .execCheck, .execLock, .take,
        .submitJob, .finish 0 echo [], .reportCheck, .stopCall, .closeTasks, .closeResults, .reportLock,
        .reportFront] (by decide)
  · exact (lifecycle [119]).reachable_of_any
      [.receiveCheck, .consume (.normal commandMessage), .cache 8, .ack, .stopCall, .execCheck, .closeTasks,
        .receiveCheck, .reportCheck, .closeResults, .join, .stopPool] (by decide)

end TaskHive.Worker
