import TaskHive.Machine
import TaskHive.Scheduler.Heartbeat
import TaskHive.ZooKeeper.Client

namespace TaskHive.Scheduler

open TaskHive.Wire TaskHive.ZooKeeper

/-! # A scheduler and its node

`start` registers the scheduler with `createNode`, which asks whether the node
exists and creates it only then, in two separate requests.  A node that is
there counts as created, whoever owns it.  A heartbeat that finds no node is
not noticed. -/

inductive Process where
  | down
  | initialised (session : Nat)
  | creating (session : Nat)
  | running (session : Nat)
deriving DecidableEq

/-- `lastBeat` records the data of the last `report_healthy_heartbeat_to_zk`
that the process completed, unless a session has expired since. -/
structure Registration where
  servers : Ensemble := .empty
  process : Process := .down
  lastBeat : Option Bytes := none

inductive RegistrationAction (D : Type u) where
  | init
  | checkNode
  | createNode (now : Int64) (decOrder order : List (Bytes × Bytes))
  | reportHealthyHeartbeat (now : Int64) (info : SystemInfo D) (decOrder order : List (Bytes × Bytes))
  | crash
  | expire (session : Nat)

section Steps

variable {D : Type u}

def registrationStep (toText : D → Bytes) (identity : Identity) (state : Registration) :
    RegistrationAction D → Option Registration
  | .init =>
      match state.process with
      | .down =>
          some { servers := state.servers.connect, process := .initialised state.servers.next, lastBeat := none }
      | _ => none
  | .checkNode =>
      match state.process with
      | .initialised session =>
          some { state with
            process := if state.servers.hasNode session then .running session else .creating session }
      | _ => none
  | .createNode now decOrder order =>
      match state.process with
      | .creating session =>
          match state.servers.create session
              ((registeredHeartbeat identity decOrder now).serializeToString order) with
          | some servers => some { state with servers, process := .running session }
          -- the exception of `start` ends the process
          | none => some { state with process := .down }
      | _ => none
  | .reportHealthyHeartbeat now info decOrder order =>
      match state.process with
      | .running session =>
          let data := (healthyHeartbeat toText identity decOrder now info).serializeToString order
          some { state with
            servers := (state.servers.setNodeData session data).getD state.servers
            lastBeat := some data }
      | _ => none
  | .crash =>
      match state.process with
      | .down => none
      | _ => some { state with process := .down, lastBeat := none }
  | .expire session =>
      if session ∈ state.servers.live then
        some { state with servers := state.servers.expire session, lastBeat := none }
      else none

def registration (toText : D → Bytes) (identity : Identity) : Machine Registration (RegistrationAction D) where
  init := {}
  step := registrationStep toText identity

/-- A running scheduler whose session lives and that has completed a heartbeat
finds the node with this heartbeat. -/
def Registration.Registered (state : Registration) : Prop :=
  ∀ session data, state.process = .running session → session ∈ state.servers.live →
    state.lastBeat = some data → ∃ owner, state.servers.node = some { owner, data }

/-- `start` finds no node that a previous session left behind. -/
def NoStaleNode (state : Registration) : RegistrationAction D → Prop
  | .checkNode => state.servers.node = none
  | _ => True

instance (state : Registration) : (action : RegistrationAction D) → Decidable (NoStaleNode state action)
  | .checkNode => inferInstanceAs (Decidable (state.servers.node = none))
  | .init | .createNode _ _ _ | .reportHealthyHeartbeat _ _ _ _ | .crash | .expire _ =>
      inferInstanceAs (Decidable True)

end Steps

/-- A running scheduler with a live session owns the node, and the node has the
data of its last heartbeat. -/
structure Registration.OwnsNode (state : Registration) : Prop where
  node : ∀ session, state.process = .running session → session ∈ state.servers.live →
    ∃ data, state.servers.node = some { owner := session, data } ∧
      ∀ beat, state.lastBeat = some beat → data = beat
  silent : (∀ session, state.process ≠ .running session) → state.lastBeat = none

theorem Registration.OwnsNode.registered {state : Registration} (owns : state.OwnsNode) : state.Registered := by
  intro session data running live beat
  obtain ⟨held, node, same⟩ := owns.node session running live
  rw [same data beat] at node
  exact ⟨session, node⟩

theorem Registration.OwnsNode.expire {state : Registration} (owns : state.OwnsNode) (session : Nat) :
    { state with servers := state.servers.expire session, lastBeat := none : Registration }.OwnsNode := by
  refine ⟨?_, by simp⟩
  intro own running live
  obtain ⟨survives, different⟩ := List.mem_filter.mp live
  obtain ⟨data, node, _⟩ := owns.node own running survives
  exact ⟨data, Ensemble.node_expire_of_ne node (by simpa using different), by simp⟩

theorem ownsNode_step {D : Type u} {toText : D → Bytes} {identity : Identity} {before after : Registration}
    {action : RegistrationAction D} (owns : before.OwnsNode) (permitted : NoStaleNode before action)
    (stepped : registrationStep toText identity before action = some after) : after.OwnsNode := by
  cases action with
  | init =>
      simp only [registrationStep] at stepped
      split at stepped
      · cases stepped
        exact ⟨by simp, by simp⟩
      · cases stepped
  | checkNode =>
      simp only [registrationStep] at stepped
      split at stepped
      · rename_i session initialised
        cases stepped
        have absent : before.servers.hasNode session = false := by
          rw [Ensemble.hasNode, show before.servers.node = none from permitted, Option.isSome_none, Bool.and_false]
        exact ⟨by simp [absent], fun _ => owns.silent (by simp [initialised])⟩
      · cases stepped
  | createNode now decOrder order =>
      simp only [registrationStep] at stepped
      split at stepped
      · rename_i session creating
        have silent := owns.silent (by simp [creating])
        split at stepped
        · rename_i servers created
          cases stepped
          refine ⟨?_, by simp [silent]⟩
          rintro own ⟨⟩ live
          exact ⟨_, Ensemble.create_eq_some created, by simp [silent]⟩
        · cases stepped
          exact ⟨by simp, by simp [silent]⟩
      · cases stepped
  | reportHealthyHeartbeat now info decOrder order =>
      simp only [registrationStep] at stepped
      split at stepped
      · rename_i session running
        cases stepped
        refine ⟨?_, fun stopped => absurd running (stopped session)⟩
        intro own runs live
        have lives : own ∈ before.servers.live := by rwa [Ensemble.live_setNodeData] at live
        obtain ⟨old, node, _⟩ := owns.node own runs lives
        rw [running, Process.running.injEq] at runs
        subst own
        exact ⟨_, Ensemble.node_setNodeData _ lives node, by simp⟩
      · cases stepped
  | crash =>
      simp only [registrationStep] at stepped
      split at stepped
      · cases stepped
      · cases stepped
        exact ⟨by simp, by simp⟩
  | expire session =>
      simp only [registrationStep] at stepped
      split at stepped
      · cases stepped
        exact owns.expire session
      · cases stepped

/-- As long as every start finds that the node of the previous session is gone,
a running scheduler stays registered. -/
theorem running_scheduler_registered {D : Type u} (toText : D → Bytes) (identity : Identity)
    {state : Registration} (reached : (registration toText identity).ReachableBy NoStaleNode state) :
    state.Registered := by
  have owns : state.OwnsNode := by
    refine reached.invariant ?_ ?_
    · exact ⟨by simp [registration], by simp [registration]⟩
    · intro before action after owns permitted stepped
      exact ownsNode_step owns permitted stepped
  exact owns.registered

def idle : SystemInfo Unit := { cpuUsage := (), memoryUsage := (), diskUsage := (), networkSpeed := () }

def zeroText (_ : Unit) : Bytes := utf8 "0"

/-- The heartbeat of the idle scheduler at time `now`. -/
def idleBeat (now : Int64) : RegistrationAction Unit :=
  .reportHealthyHeartbeat now idle [] (idle.entries zeroText)

def idleData (now : Int64) : Bytes :=
  (healthyHeartbeat zeroText plainScheduler [] now idle).serializeToString (idle.entries zeroText)

/-- A start, a crash, the expiry of its session, and a second start. -/
theorem restarted_scheduler_registered :
    ∃ state, (registration zeroText plainScheduler).ReachableBy NoStaleNode state ∧ state.process = .running 1 ∧
      1 ∈ state.servers.live ∧ state.lastBeat = some (idleData 9) ∧ state.Registered := by
  obtain ⟨state, reached, running, live, beat⟩ :=
    (registration zeroText plainScheduler).reachableBy_of_any NoStaleNode
      (fun state => state.process = .running 1 ∧ 1 ∈ state.servers.live ∧ state.lastBeat = some (idleData 9))
      [.init, .checkNode, .createNode 5 [] [], idleBeat 6, .crash, .expire 0, .init, .checkNode,
        .createNode 8 [] [], idleBeat 9] (by decide)
  exact ⟨state, reached, running, live, beat, running_scheduler_registered _ _ reached⟩

/-- The second start finds the node of the crashed process and creates none.
When the old session expires the node is gone, and the heartbeats of the running
scheduler do not bring it back. -/
theorem running_scheduler_unregistered :
    ∃ state, (registration zeroText plainScheduler).Reachable state ∧ state.process = .running 1 ∧
      1 ∈ state.servers.live ∧ state.lastBeat = some (idleData 9) ∧ state.servers.node = none ∧
      ¬ state.Registered := by
  obtain ⟨state, reached, running, live, beat, gone⟩ :=
    (registration zeroText plainScheduler).reachableBy_of_any (fun _ _ => True)
      (fun state => state.process = .running 1 ∧ 1 ∈ state.servers.live ∧ state.lastBeat = some (idleData 9) ∧
        state.servers.node = none)
      [.init, .checkNode, .createNode 5 [] [], idleBeat 6, .crash, .init, .checkNode, .expire 0, idleBeat 9]
      (by decide)
  refine ⟨state, reached, running, live, beat, gone, ?_⟩
  intro registered
  obtain ⟨owner, present⟩ := registered 1 _ running live beat
  rw [gone] at present
  cases present

end TaskHive.Scheduler
