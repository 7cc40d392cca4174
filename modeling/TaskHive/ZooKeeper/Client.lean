import TaskHive.Wire.Varint

namespace TaskHive.ZooKeeper

open TaskHive.Wire

/-! # `ZkClient` and the servers behind it

All calls of a scheduler concern one path.  The node at this path is ephemeral:
it belongs to the session that created it and goes with that session.  Anyone
with a live session may set its data. -/

structure Node where
  owner : Nat
  data : Bytes
deriving DecidableEq

/-- Sessions are numbered in the order in which they are opened. -/
structure Ensemble where
  node : Option Node
  live : List Nat
  next : Nat
  owned : ∀ found, node = some found → found.owner ∈ live
  known : ∀ session ∈ live, session < next

namespace Ensemble

def empty : Ensemble where
  node := none
  live := []
  next := 0
  owned := by simp
  known := by simp

/-- `zookeeper_init` opens session number `next`. -/
def connect (servers : Ensemble) : Ensemble where
  node := servers.node
  live := servers.next :: servers.live
  next := servers.next + 1
  owned found present := List.mem_cons_of_mem _ (servers.owned found present)
  known := by
    intro session member
    rcases List.mem_cons.mp member with rfl | old
    · exact Nat.lt_succ_self _
    · exact Nat.lt_succ_of_lt (servers.known session old)

/-- The answer of `exists`; a session that has expired gets an error, which
counts as no. -/
def hasNode (servers : Ensemble) (session : Nat) : Bool :=
  decide (session ∈ servers.live) && servers.node.isSome

/-- `zoo_create`, which fails when the node is there. -/
def create (servers : Ensemble) (session : Nat) (data : Bytes) : Option Ensemble :=
  if present : session ∈ servers.live then
    if servers.node = none then
      some {
        node := some { owner := session, data }
        live := servers.live
        next := servers.next
        owned := by
          rintro found ⟨⟩
          exact present
        known := servers.known }
    else none
  else none

/-- `setNodeData`, which fails when the node is not there. -/
def setNodeData (servers : Ensemble) (session : Nat) (data : Bytes) : Option Ensemble :=
  if servers.hasNode session then
    some {
      node := servers.node.map fun old => { old with data }
      live := servers.live
      next := servers.next
      owned := by
        intro found set
        obtain ⟨old, present, rfl⟩ := Option.map_eq_some_iff.mp set
        exact servers.owned old present
      known := servers.known }
  else none

/-- The servers give a session up and remove its node. -/
def expire (servers : Ensemble) (session : Nat) : Ensemble where
  node := servers.node.filter fun node => node.owner ≠ session
  live := servers.live.filter fun other => other ≠ session
  next := servers.next
  owned := by
    intro found kept
    obtain ⟨present, other⟩ := Option.filter_eq_some_iff.mp kept
    exact List.mem_filter.mpr ⟨servers.owned found present, other⟩
  known := by
    intro other member
    exact servers.known other (List.mem_filter.mp member).1

theorem create_eq_some {servers after : Ensemble} {session : Nat} {data : Bytes}
    (created : servers.create session data = some after) :
    after.node = some { owner := session, data } := by
  unfold create at created
  split at created
  · split at created
    · cases created
      rfl
    · cases created
  · cases created

/-- Also when its result is ignored: a node that is there gets the data and
keeps its owner, whoever sets it. -/
theorem node_setNodeData {servers : Ensemble} {session : Nat} {old : Node} (data : Bytes)
    (live : session ∈ servers.live) (present : servers.node = some old) :
    ((servers.setNodeData session data).getD servers).node = some { old with data } := by
  have found : servers.hasNode session = true := by simp [hasNode, live, present]
  rw [setNodeData, if_pos found, Option.getD_some]
  exact Option.map_eq_some_iff.mpr ⟨old, present, rfl⟩

theorem live_setNodeData (servers : Ensemble) (session : Nat) (data : Bytes) :
    ((servers.setNodeData session data).getD servers).live = servers.live := by
  unfold setNodeData
  split <;> rfl

theorem node_expire_of_ne {servers : Ensemble} {session : Nat} {node : Node}
    (present : servers.node = some node) (other : node.owner ≠ session) :
    (servers.expire session).node = some node :=
  Option.filter_eq_some_iff.mpr ⟨present, by simpa using other⟩

end Ensemble

end TaskHive.ZooKeeper
