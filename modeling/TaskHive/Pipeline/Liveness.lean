import TaskHive.Pipeline.Progress

namespace TaskHive.Pipeline

open TaskHive.Wire

variable {C S W ν : Type} [DecidableEq C] [DecidableEq S] [DecidableEq W]
variable {workerId : W → Bytes} {toolbox : ν → Worker.Execution}

/-! # Every result comes back

In a run that is fair to every thread, to the broker's messages, the pool's jobs
and the connections, every submitted task comes back to its client.  The submit
thread of a client waits for a mutex that the polling thread takes again and
again, so weak fairness would not do for it. -/

/-! ## Who can act -/

section Enabled

variable {state : State C S W} {client : C} {id : Bytes}

theorem pollThread_enabled (client : C) (state : State C S W) :
    (pipeline workerId toolbox).Enabled DistinctIds (Agent.pollThread client).Does state := by
  cases polling : state.polling client with
  | resting => exact ⟨.pollBegin client, rfl, trivial, by simp [pipeline, pipelineStep, clientStep, polling]⟩
  | removing completed =>
      exact ⟨.pollRemove client, rfl, trivial, by simp [pipeline, pipelineStep, clientStep, polling]⟩
  | querying remaining completed =>
      cases remaining with
      | nil => exact ⟨.pollEnd client, rfl, trivial, by simp [pipeline, pipelineStep, clientStep, polling]⟩
      | cons asked rest =>
          refine ⟨.pollOne client, rfl, trivial, ?_⟩
          cases found : state.redis.lookup asked <;> simp [pipeline, pipelineStep, clientStep, polling, found]

/-- A submit thread with work is held up by a round of queries only. -/
theorem submitThread_enabled [Nonempty S] (free : (state.polling client).isQuerying = false)
    (work : state.submitUndistributionTask client ≠ [] ∨ state.recording client ≠ none) :
    (pipeline workerId toolbox).Enabled DistinctIds (Agent.submitThread client).Does state := by
  cases recording : state.recording client with
  | some sent =>
      exact ⟨.record client, rfl, trivial, by simp [pipeline, pipelineStep, clientStep, recording, free]⟩
  | none =>
      obtain ⟨scheduler⟩ := ‹Nonempty S›
      obtain ⟨task, rest, queue⟩ := List.exists_cons_of_ne_nil (work.resolve_right (by simp [recording]))
      exact ⟨.send client scheduler, rfl, trivial, by simp [pipeline, pipelineStep, clientStep, recording, queue]⟩

/-- Whoever a task waits for can act, or waits for the end of the queries. -/
theorem Spot.enabled [Nonempty S] [Nonempty W] [Nonempty ν] {spot : Spot S W} (stands : spot.Stands client id state)
    (free : (state.polling client).isQuerying = false) :
    (pipeline workerId toolbox).Enabled DistinctIds (spot.agent client id).Does state := by
  cases spot with
  | clientQueue ahead recording =>
      refine submitThread_enabled free (.inl ?_)
      intro empty
      simp [Spot.Stands, empty] at stands
  | unrecorded =>
      refine submitThread_enabled free (.inr ?_)
      simp [stands.2]
  | passedOver | removing | resting | queried => exact pollThread_enabled client state
  | connection scheduler =>
      obtain ⟨task, member, rfl⟩ := List.mem_map.mp stands
      obtain ⟨index, found⟩ := List.mem_iff_getElem?.mp member
      refine ⟨.receive scheduler index 0, ⟨rfl, by rw [found, Option.map_some]⟩, trivial, ?_⟩
      simp [pipeline, pipelineStep, schedulerStep, found]
  | schedulerPending scheduler ahead =>
      refine ⟨.publish scheduler 0, rfl, trivial, ?_⟩
      cases queue : state.schedulerPending scheduler with
      | nil => simp [Spot.Stands, queue] at stands
      | cons task rest => simp [pipeline, pipelineStep, schedulerStep, queue]
  | taskQueue =>
      obtain ⟨worker⟩ := ‹Nonempty W›
      obtain ⟨task, member, rfl⟩ := List.mem_map.mp stands
      obtain ⟨index, found⟩ := List.mem_iff_getElem?.mp member
      refine ⟨.receiveTask worker index 0, by rw [Spot.agent, Agent.Does, found, Option.map_some], trivial, ?_⟩
      simp [pipeline, pipelineStep, workerStep, found]
  | workerPending worker ahead =>
      refine ⟨.dispatch worker, rfl, trivial, ?_⟩
      cases queue : state.workerPending worker with
      | nil => simp [Spot.Stands, queue] at stands
      | cons task rest => simp [pipeline, pipelineStep, workerStep, queue]
  | threadPool worker =>
      obtain ⟨nonce⟩ := ‹Nonempty ν›
      obtain ⟨task, member, rfl⟩ := List.mem_map.mp stands
      obtain ⟨index, found⟩ := List.mem_iff_getElem?.mp member
      obtain ⟨order, iterates⟩ := exists_iterates task.metadata
      refine ⟨.execute worker index nonce order, ⟨rfl, by rw [found, Option.map_some]⟩, trivial, ?_⟩
      simp [pipeline, pipelineStep, workerStep, found, iterates]
  | taskResultQueue worker ahead =>
      refine ⟨.report worker, rfl, trivial, ?_⟩
      cases queue : state.taskResultQueue worker with
      | nil => simp [Spot.Stands, queue] at stands
      | cons result rest => simp [pipeline, pipelineStep, workerStep, queue]
  | resultQueue =>
      obtain ⟨result, member, rfl⟩ := List.mem_map.mp stands
      obtain ⟨index, found⟩ := List.mem_iff_getElem?.mp member
      refine ⟨.store index, by rw [Spot.agent, Agent.Does, found, Option.map_some], trivial, ?_⟩
      simp [pipeline, pipelineStep, schedulerStep, found]

end Enabled

/-! ## Fair runs -/

section Fair

abbrev Run (C S W : Type) [DecidableEq C] [DecidableEq S] [DecidableEq W] {ν : Type} (workerId : W → Bytes)
    (toolbox : ν → Worker.Execution) : Type :=
  Machine.Trace (pipeline workerId toolbox : Machine (State C S W) (Action C S W ν)) DistinctIds

def FairRun (run : Run C S W workerId toolbox) : Prop := ∀ agent : Agent C S W, run.Fair agent.Does

variable {run : Run C S W workerId toolbox}

theorem Run.effect (run : Run C S W workerId toolbox) {now : Nat} {action : Action C S W ν}
    (acted : run.action now = some action) :
    Effect workerId toolbox (run.state now) action (run.state (now + 1)) :=
  effect_of_step (run.steps now action acted).2

/-- The queries of a round come to an end. -/
theorem FairRun.round_ends (fair : FairRun run) (client : C) (now : Nat) :
    run.Eventually (fun state => (state.polling client).isQuerying = false) now := by
  have descent : Machine.Trace.Descent run (· < ·) (fun _ => (Agent.pollThread client).Does)
      (fun left state => ∃ remaining completed,
        state.polling client = .querying remaining completed ∧ remaining.length = left)
      (fun state => (state.polling client).isQuerying = false) := by
    refine ⟨?_, fun now _ _ => ⟨now, Nat.le_refl now, pollThread_enabled client _⟩⟩
    rintro now left action ⟨remaining, completed, querying, length⟩ acted
    have effect := run.effect acted
    by_cases does : (Agent.pollThread client : Agent C S W).Does (run.state now) action
    · obtain ⟨next, noted, polling, same, move⟩ := effect.pollMove does
      rw [querying] at move
      cases move with
      | ask asked rest _ done =>
          refine .inr (.inl ⟨rest.length, ?_, rest, done, polling, rfl⟩)
          rw [← length, List.length_cons]
          exact Nat.lt_succ_self _
      | finish => exact .inl (by rw [polling]; rfl)
    · exact .inr (.inr ⟨⟨remaining, completed, (effect.polling does).1.trans querying, length⟩, does⟩)
  cases polling : (run.state now).polling client with
  | resting => exact ⟨now, Nat.le_refl now, by simp [polling, PollPc.isQuerying]⟩
  | removing completed => exact ⟨now, Nat.le_refl now, by simp [polling, PollPc.isQuerying]⟩
  | querying remaining completed =>
      exact descent.eventually Nat.lt_wfRel.wf (fun _ => fair (.pollThread client)) ⟨remaining, completed, polling, rfl⟩

theorem Effect.submitted {before after : State C S W} {action : Action C S W ν}
    (effect : Effect workerId toolbox before action after) : before.submitted ⊆ after.submitted := by
  cases effect with
  | submitOneTask | submitMoreTask => exact List.subset_append_left _ _
  | _ => exact List.Subset.refl _

omit [DecidableEq C] [DecidableEq S] [DecidableEq W] in
/-- A submitted task has come back or stands somewhere. -/
theorem Remembered.spot {state : State C S W} (remembered : Remembered workerId toolbox state) {client : C}
    {task : Task} (submitted : (client, task) ∈ state.submitted) :
    Answered client task.taskId state ∨ ∃ spot : Spot S W, spot.Stands client task.taskId state := by
  obtain ⟨attributed, custody⟩ := remembered.owned
  obtain ⟨place, held⟩ := custody.held task.taskId (List.mem_map.mpr ⟨_, submitted, rfl⟩)
  obtain ⟨item, member, named⟩ := List.mem_map.mp held.mem
  have inside := (attributed.carries submitted member named).1
  have found := held.mem
  simp only [State.holds] at found
  cases place with
  | clientQueue owner =>
      cases inside
      simp only [State.items, List.map_map, Item.taskId_comp_task] at found
      obtain ⟨ahead, waits⟩ := List.mem_iff_getElem?.mp found
      exact .inr ⟨.clientQueue ahead _, waits, rfl⟩
  | connection scheduler =>
      simp only [State.items, List.map_map, Item.taskId_comp_task] at found
      exact .inr ⟨.connection scheduler, found⟩
  | schedulerPending scheduler =>
      simp only [State.items, List.map_map, Item.taskId_comp_task] at found
      obtain ⟨ahead, waits⟩ := List.mem_iff_getElem?.mp found
      exact .inr ⟨.schedulerPending scheduler ahead, waits⟩
  | taskQueue =>
      simp only [State.items, List.map_map, Item.taskId_comp_task] at found
      exact .inr ⟨.taskQueue, found⟩
  | workerPending worker =>
      simp only [State.items, List.map_map, Item.taskId_comp_task] at found
      obtain ⟨ahead, waits⟩ := List.mem_iff_getElem?.mp found
      exact .inr ⟨.workerPending worker ahead, waits⟩
  | threadPool worker =>
      simp only [State.items, List.map_map, Item.taskId_comp_task] at found
      exact .inr ⟨.threadPool worker, found⟩
  | taskResultQueue worker =>
      simp only [State.items, List.map_map, Item.taskId_comp_result] at found
      obtain ⟨ahead, waits⟩ := List.mem_iff_getElem?.mp found
      exact .inr ⟨.taskResultQueue worker ahead, waits⟩
  | resultQueue =>
      simp only [State.items, List.map_map, Item.taskId_comp_result] at found
      exact .inr ⟨.resultQueue, found⟩
  | redis =>
      rcases remembered.noted client task submitted with answered | noted
      · exact .inl answered
      · simp only [State.items, List.map_map, Item.taskId_comp_entry] at found
        rw [ResultTable.ids_eq_keys fun entry member => (attributed.stored entry member).1] at found
        obtain ⟨spot, _, stands⟩ := noted.spot remembered.owned found
        exact .inr ⟨spot, stands⟩
  | taskresult owner =>
      cases inside
      obtain ⟨entry, fetched, rfl⟩ := List.mem_map.mp member
      exact .inl ⟨entry, List.mem_append_left _ fetched, (attributed.fetched client entry fetched).named.trans named⟩
  | returned owner =>
      cases inside
      obtain ⟨entry, returned, rfl⟩ := List.mem_map.mp member
      have same := (attributed.returned client entry returned).named.trans named
      exact .inl ⟨entry, List.mem_append_right _ returned, same⟩

theorem FairRun.answered [Nonempty S] [Nonempty W] [Nonempty ν] (fair : FairRun run) {now : Nat} {client : C}
    {task : Task} (submitted : (client, task) ∈ (run.state now).submitted) :
    run.Eventually (fun state => (client, task) ∈ state.submitted ∧ Answered client task.taskId state) now := by
  have remembered (now : Nat) := remembered_of_reachable (run.reachable now)
  have descent : Machine.Trace.Descent run Spot.Below (fun spot => (spot.agent client task.taskId).Does)
      (fun (spot : Spot S W) state => (client, task) ∈ state.submitted ∧ spot.Stands client task.taskId state)
      (fun state => (client, task) ∈ state.submitted ∧ Answered client task.taskId state) := by
    refine ⟨?_, ?_⟩
    · rintro now spot action ⟨submitted, stands⟩ acted
      have effect := run.effect acted
      have still := effect.submitted submitted
      rcases onward (remembered now) (remembered (now + 1)) submitted still stands effect with
        answered | ⟨lower, below, there⟩ | ⟨same, other⟩
      · exact .inl ⟨still, answered⟩
      · exact .inr (.inl ⟨lower, below, still, there⟩)
      · exact .inr (.inr ⟨⟨still, same⟩, other⟩)
    · intro now spot always
      obtain ⟨later, after, free⟩ := fair.round_ends client now
      exact ⟨later, after, Spot.enabled (always later after).2 free⟩
  rcases (remembered now).spot submitted with answered | ⟨spot, stands⟩
  · exact ⟨now, Nat.le_refl now, submitted, answered⟩
  · exact descent.eventually Spot.below_wellFounded (fun spot => fair _) ⟨submitted, stands⟩

/-- In every fair run of any clients, schedulers and workers, whatever else is
submitted meanwhile, every submitted task is executed and its result comes back
to the client that submitted it. -/
theorem every_result_comes_back [Nonempty S] [Nonempty W] [Nonempty ν] (run : Run C S W workerId toolbox)
    (fair : FairRun run) {now : Nat} {client : C} {task : Task}
    (submitted : (client, task) ∈ (run.state now).submitted) :
    ∃ later, now ≤ later ∧ ∃ result, ResultOf workerId toolbox task result ∧
      (task.taskId, result) ∈ (run.state later).taskresult client ++ (run.state later).returned client := by
  obtain ⟨later, after, still, entry, member, named⟩ := fair.answered submitted
  have attributed := (remembered_of_reachable (run.reachable later)).owned.attributed
  have answer : IsAnswer workerId toolbox (run.state later).submitted client entry := by
    rcases List.mem_append.mp member with fetched | returned
    · exact attributed.fetched client entry fetched
    · exact attributed.returned client entry returned
  obtain ⟨other, known, sameId, made⟩ := answer
  -- ids are distinct, so the answer under the id is the answer to this task
  cases entry_unique attributed.distinct still known (named.symm.trans sameId.symm)
  exact ⟨later, after, entry.2, made, by rw [← named]; exact member⟩

end Fair

/-! ## A fair run -/

/-- A round with nothing to ask for. -/
def emptyRound : Nat → Action Unit Unit Unit Unit
  | 0 => .pollBegin ()
  | 1 => .pollEnd ()
  | _ => .pollRemove ()

def emptyRoundPc : Nat → PollPc
  | 0 => .resting
  | 1 => .querying [] []
  | _ => .removing []

/-- One task goes round; after that the polling thread finds nothing. -/
def roundTrip : Nat → Action Unit Unit Unit Unit
  | 0 => .submitOneTask () (printTask 1)
  | 1 => .send () ()
  | 2 => .record ()
  | 3 => .receive () 0 2
  | 4 => .publish () 4
  | 5 => .receiveTask () 0 6
  | 6 => .dispatch ()
  | 7 => .execute () 0 () []
  | 8 => .report ()
  | 9 => .store 0
  | 10 => .pollBegin ()
  | 11 => .pollOne ()
  | 12 => .pollEnd ()
  | 13 => .pollRemove ()
  | later + 14 => emptyRound (later % 3)

/-- Nothing is under way, and the polling thread is in the given phase. -/
structure Drained (phase : Nat) (state : State Unit Unit Unit) : Prop where
  queue : state.submitUndistributionTask () = []
  recording : state.recording () = none
  distributed : state.distributionTaskid () = []
  polling : state.polling () = emptyRoundPc phase
  connections : state.connections () = []
  schedulerPending : state.schedulerPending () = []
  taskQueue : state.taskQueue = []
  workerPending : state.workerPending () = []
  threadPool : state.threadPool () = []
  taskResultQueue : state.taskResultQueue () = []
  resultQueue : state.resultQueue = []

abbrev printer : Machine (State Unit Unit Unit) (Action Unit Unit Unit Unit) := pipeline (fun _ => [119]) printing

theorem Drained.round {phase : Nat} {state : State Unit Unit Unit} (drained : Drained phase state) (low : phase < 3) :
    ∃ next, printer.step state (emptyRound phase) = some next ∧ Drained ((phase + 1) % 3) next := by
  have polling := drained.polling
  obtain rfl | rfl | rfl : phase = 0 ∨ phase = 1 ∨ phase = 2 := by omega
  · refine ⟨state.poll () (.querying [] []), ?_, { drained with polling := by simp [emptyRoundPc] }⟩
    simp [pipeline, pipelineStep, clientStep, emptyRound, polling, emptyRoundPc, drained.distributed, State.poll]
  · refine ⟨state.poll () (.removing []), ?_, { drained with polling := by simp [emptyRoundPc] }⟩
    simp [pipeline, pipelineStep, clientStep, emptyRound, polling, emptyRoundPc, State.poll]
  · refine ⟨_, by simp [pipeline, pipelineStep, clientStep, emptyRound, polling, emptyRoundPc]; rfl, ?_⟩
    exact { drained with polling := by simp [emptyRoundPc], distributed := by simp [drained.distributed] }

theorem distinctIds_emptyRound (phase : Nat) (state : State Unit Unit Unit) : DistinctIds state (emptyRound phase) := by
  unfold emptyRound
  split <;> trivial

theorem drained_later (later : Nat) : Drained (later % 3) (Machine.Trace.visited printer roundTrip (later + 14)) := by
  induction later with
  | zero => constructor <;> decide
  | succ later ih =>
      obtain ⟨next, stepped, drained⟩ := ih.round (Nat.mod_lt later (by decide))
      have state : Machine.Trace.visited printer roundTrip (later + 1 + 14) = next := by
        rw [Nat.add_right_comm, Machine.Trace.visited, roundTrip, stepped, Option.getD_some]
      rw [state]
      rwa [Nat.mod_add_mod] at drained

theorem roundTrip_runs (now : Nat) :
    DistinctIds (Machine.Trace.visited printer roundTrip now) (roundTrip now) ∧
      (printer.step (Machine.Trace.visited printer roundTrip now) (roundTrip now)).isSome := by
  by_cases early : now < 14
  · revert now
    decide
  · obtain ⟨later, rfl⟩ := Nat.exists_eq_add_of_le (Nat.le_of_not_lt early)
    rw [Nat.add_comm]
    obtain ⟨next, stepped, _⟩ := (drained_later later).round (Nat.mod_lt later (by decide))
    rw [roundTrip]
    exact ⟨distinctIds_emptyRound _ _, by rw [stepped]; rfl⟩

/-- The run of one task. -/
def roundTripRun : Run Unit Unit Unit (fun _ => [119]) printing := .ofSchedule roundTrip roundTrip_runs

/-- Only the polling thread can still act. -/
theorem Drained.disabled {phase : Nat} {state : State Unit Unit Unit} (drained : Drained phase state)
    {agent : Agent Unit Unit Unit} (other : agent ≠ .pollThread ()) :
    ¬ printer.Enabled DistinctIds agent.Does state := by
  rintro ⟨action, does, _, enabled⟩
  cases action with
  | submitOneTask | submitMoreTask | getTaskResultAndDelete => cases agent <;> cases does
  | send => simp [pipeline, pipelineStep, clientStep, drained.recording, drained.queue] at enabled
  | record => simp [pipeline, pipelineStep, clientStep, drained.recording] at enabled
  | receive => simp [pipeline, pipelineStep, schedulerStep, drained.connections] at enabled
  | publish => simp [pipeline, pipelineStep, schedulerStep, drained.schedulerPending] at enabled
  | receiveTask => simp [pipeline, pipelineStep, workerStep, drained.taskQueue] at enabled
  | dispatch => simp [pipeline, pipelineStep, workerStep, drained.workerPending] at enabled
  | execute => simp [pipeline, pipelineStep, workerStep, drained.threadPool] at enabled
  | report => simp [pipeline, pipelineStep, workerStep, drained.taskResultQueue] at enabled
  | store => simp [pipeline, pipelineStep, schedulerStep, drained.resultQueue] at enabled
  | pollBegin | pollOne | pollEnd | pollRemove =>
      cases agent with
      | pollThread => exact other rfl
      | _ => cases does

theorem roundTripRun_fair : FairRun roundTripRun := by
  intro agent
  by_cases polls : agent = .pollThread ()
  · subst polls
    refine Machine.Trace.Fair.of_acts fun now => ⟨now + 14, Nat.le_add_right now 14, emptyRound (now % 3), rfl, ?_⟩
    unfold emptyRound
    split <;> rfl
  · refine Machine.Trace.Fair.of_disabled fun now (after : 14 ≤ now) => ?_
    obtain ⟨later, rfl⟩ := Nat.exists_eq_add_of_le after
    rw [Nat.add_comm]
    exact (drained_later later).disabled polls

theorem printed_line_comes_back :
    ∃ later, 1 ≤ later ∧ ∃ result, ResultOf (fun _ : Unit => [119]) printing (printTask 1) result ∧
      ((printTask 1).taskId, result) ∈
        (roundTripRun.state later).taskresult () ++ (roundTripRun.state later).returned () :=
  every_result_comes_back roundTripRun roundTripRun_fair (by decide)

end TaskHive.Pipeline
