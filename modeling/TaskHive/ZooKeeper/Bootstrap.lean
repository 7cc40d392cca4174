import Mathlib.Data.List.DropRight
import Mathlib.Logic.Function.Basic
import TaskHive.Machine
import TaskHive.Wire.Text

namespace TaskHive.ZooKeeper

open TaskHive.Wire

/-! # How components make the nodes that they share

`scheduler::init` and `Worker::init` create the nodes above their own when they
are missing.  `createNode` asks with `exists` first and creates in a second
request, so another component can come between.  A scheduler whose `init` is
broken off by the exception starts nevertheless, without its queues; a worker
returns from `init` and is started without its queues as well.

The node of a component itself is ephemeral.  If `createNode` finds it, it
belongs to the session of somebody else, a predecessor that has not timed out
yet or a component of the same name, and goes away with that session.

The other calls of `init` and `start`, the socket and the connections to
ZooKeeper, Redis and RabbitMQ, are taken to succeed. -/

/-- The path above, which is empty for a node at the top. -/
def parent (path : Bytes) : Bytes := (path.rdropWhile (· != 47)).dropLast

theorem parent_append (path : Bytes) {name : Bytes} (plain : 47 ∉ name) : parent (path ++ 47 :: name) = path := by
  induction name using List.reverseRecOn with
  | nil =>
      rw [parent, List.rdropWhile_concat_neg _ _ _ (by decide)]
      exact List.dropLast_concat
  | append_singleton name last ih =>
      have other : (last != 47) = true := by
        rw [bne_iff_ne]
        rintro rfl
        exact plain (List.mem_append_right _ List.mem_cons_self)
      rw [← List.cons_append, ← List.append_assoc, parent, List.rdropWhile_concat_pos (· != 47) _ last other]
      exact ih fun member => plain (List.mem_append_left _ member)

/-- The nodes on the servers: there is none without the one above it. -/
structure Tree where
  nodes : List Bytes
  closed : ∀ path ∈ nodes, parent path = [] ∨ parent path ∈ nodes

namespace Tree

def empty : Tree where
  nodes := []
  closed := by simp

/-- `zoo_create`. -/
def create (tree : Tree) (path : Bytes) : Option Tree :=
  if path ∈ tree.nodes then none
  else if above : parent path = [] ∨ parent path ∈ tree.nodes then
    some {
      nodes := path :: tree.nodes
      closed := by
        intro other member
        rcases List.mem_cons.mp member with rfl | old
        · exact above.imp_right (List.mem_cons_of_mem _)
        · exact (tree.closed other old).imp_right (List.mem_cons_of_mem _) }
  else none

theorem nodes_create {tree grown : Tree} {path : Bytes} (created : tree.create path = some grown) :
    grown.nodes = path :: tree.nodes := by
  unfold create at created
  split at created
  · cases created
  · split at created
    · cases created
      rfl
    · cases created

theorem mem_of_create_eq_none {tree : Tree} {path : Bytes} (refused : tree.create path = none)
    (above : parent path = [] ∨ parent path ∈ tree.nodes) : path ∈ tree.nodes := by
  unfold create at refused
  split at refused
  · assumption
  · cases refused

end Tree

/-- `ZK_ROOT_PATH`, `ZK_PATH` and `ZK_NODE`. -/
structure Placement where
  rootPath : Bytes
  path : Bytes
  node : Bytes
  top : parent rootPath = []
  named : rootPath ≠ []
  inside : parent path = rootPath
  plain : 47 ∉ node

namespace Placement

variable (placement other : Placement)

def nodePath : Bytes := placement.path ++ 47 :: placement.node

theorem parent_nodePath : parent placement.nodePath = placement.path := parent_append _ placement.plain

theorem path_ne_nil : placement.path ≠ [] := by
  intro empty
  have above : parent [] = placement.rootPath := empty ▸ placement.inside
  exact placement.named above.symm

theorem rootPath_ne_path : placement.rootPath ≠ other.path := by
  intro same
  have above := other.inside
  rw [← same, placement.top] at above
  exact other.named above.symm

theorem rootPath_ne_nodePath : placement.rootPath ≠ other.nodePath := by
  intro same
  have above := other.parent_nodePath
  rw [← same, placement.top] at above
  exact other.path_ne_nil above.symm

theorem path_ne_nodePath : placement.path ≠ other.nodePath := by
  intro same
  have above := other.parent_nodePath
  rw [← same, placement.inside] at above
  exact placement.rootPath_ne_path other above

end Placement

/-- The nodes that a component creates when it starts alone. -/
def Placement.needs (placement : Placement) (start : Tree) : List Bytes :=
  (if placement.path ∈ start.nodes then [placement.nodePath]
    else [placement.rootPath, placement.path, placement.nodePath]).filter fun path => path ∉ start.nodes

theorem Placement.mem_needs {placement : Placement} {start : Tree} {path : Bytes} :
    path ∈ placement.needs start ↔ path ∉ start.nodes ∧
      (path = placement.nodePath ∨
        placement.path ∉ start.nodes ∧ (path = placement.rootPath ∨ path = placement.path)) := by
  unfold needs
  by_cases present : placement.path ∈ start.nodes
  · simp [present, and_comm]
  · simp only [present, if_false, List.mem_filter, List.mem_cons, List.not_mem_nil, decide_not, Bool.not_eq_true',
      decide_eq_false_iff_not]
    tauto

inductive Kind where
  | scheduler
  | worker
deriving DecidableEq

/-- `initialised` tells whether `init` got to its end, which makes the queues,
and `registered` whether the own session has made the own node. -/
inductive Pc where
  | checkPath
  | checkRoot
  | createRoot
  | checkAgain
  | createPath
  | checkNode (initialised : Bool)
  | createNode (initialised : Bool)
  | running (initialised registered : Bool)
  | dead
deriving DecidableEq

/-- The component goes on without something that `init` or `start` should have
made, or not at all. -/
def Pc.broken : Pc → Bool
  | .checkNode initialised | .createNode initialised => !initialised
  | .running initialised registered => !(initialised && registered)
  | .dead => true
  | _ => false

/-- A shared node could not be created. -/
def Kind.breaksOff : Kind → Pc
  | .scheduler => .checkNode false
  | .worker => .running false false

/-- The own node could not be created: `scheduler::start` throws, `Worker::init`
returns. -/
def Kind.refused : Kind → Pc
  | .scheduler => .dead
  | .worker => .running false false

def componentStep (kind : Kind) (placement : Placement) (tree : Tree) : Pc → Option (Tree × Pc)
  | .checkPath => some (tree, if placement.path ∈ tree.nodes then .checkNode true else .checkRoot)
  | .checkRoot => some (tree, if placement.rootPath ∈ tree.nodes then .checkAgain else .createRoot)
  | .createRoot =>
      match tree.create placement.rootPath with
      | some grown => some (grown, .checkAgain)
      | none => some (tree, kind.breaksOff)
  | .checkAgain => some (tree, if placement.path ∈ tree.nodes then .checkNode true else .createPath)
  | .createPath =>
      match tree.create placement.path with
      | some grown => some (grown, .checkNode true)
      | none => some (tree, kind.breaksOff)
  | .checkNode initialised =>
      some (tree, if placement.nodePath ∈ tree.nodes then .running initialised false else .createNode initialised)
  | .createNode initialised =>
      match tree.create placement.nodePath with
      | some grown => some (grown, .running initialised true)
      | none => some (tree, kind.refused)
  | .running _ _ | .dead => none

structure Start (P : Type) where
  tree : Tree
  pc : P → Pc

section Steps

variable {P : Type} [DecidableEq P]

def bootstrapStep (kind : P → Kind) (placement : P → Placement) (state : Start P) (component : P) :
    Option (Start P) :=
  (componentStep (kind component) (placement component) state.tree (state.pc component)).map fun next =>
    { tree := next.1, pc := Function.update state.pc component next.2 }

end Steps

/-! ## One step -/

inductive Move (kind : Kind) (placement : Placement) (tree : Tree) : Pc → Tree → Pc → Prop where
  | pathFound (found : placement.path ∈ tree.nodes) : Move kind placement tree .checkPath tree (.checkNode true)
  | pathMissing (absent : placement.path ∉ tree.nodes) : Move kind placement tree .checkPath tree .checkRoot
  | rootFound (found : placement.rootPath ∈ tree.nodes) : Move kind placement tree .checkRoot tree .checkAgain
  | rootMissing (absent : placement.rootPath ∉ tree.nodes) : Move kind placement tree .checkRoot tree .createRoot
  | rootCreated (grown : Tree) (created : tree.create placement.rootPath = some grown) :
      Move kind placement tree .createRoot grown .checkAgain
  | rootRefused (refused : tree.create placement.rootPath = none) :
      Move kind placement tree .createRoot tree kind.breaksOff
  | pathThere (found : placement.path ∈ tree.nodes) : Move kind placement tree .checkAgain tree (.checkNode true)
  | pathAbsent (absent : placement.path ∉ tree.nodes) : Move kind placement tree .checkAgain tree .createPath
  | pathCreated (grown : Tree) (created : tree.create placement.path = some grown) :
      Move kind placement tree .createPath grown (.checkNode true)
  | pathRefused (refused : tree.create placement.path = none) :
      Move kind placement tree .createPath tree kind.breaksOff
  | nodeFound (initialised : Bool) (found : placement.nodePath ∈ tree.nodes) :
      Move kind placement tree (.checkNode initialised) tree (.running initialised false)
  | nodeMissing (initialised : Bool) (absent : placement.nodePath ∉ tree.nodes) :
      Move kind placement tree (.checkNode initialised) tree (.createNode initialised)
  | nodeCreated (initialised : Bool) (grown : Tree) (created : tree.create placement.nodePath = some grown) :
      Move kind placement tree (.createNode initialised) grown (.running initialised true)
  | nodeRefused (initialised : Bool) (refused : tree.create placement.nodePath = none) :
      Move kind placement tree (.createNode initialised) tree kind.refused

theorem componentStep_move {kind : Kind} {placement : Placement} {tree grown : Tree} {pc next : Pc}
    (stepped : componentStep kind placement tree pc = some (grown, next)) : Move kind placement tree pc grown next := by
  cases pc with
  | checkPath =>
      cases stepped
      split
      · exact .pathFound ‹_›
      · exact .pathMissing ‹_›
  | checkRoot =>
      cases stepped
      split
      · exact .rootFound ‹_›
      · exact .rootMissing ‹_›
  | createRoot =>
      simp only [componentStep] at stepped
      split at stepped <;> cases stepped
      · exact .rootCreated _ ‹_›
      · exact .rootRefused ‹_›
  | checkAgain =>
      cases stepped
      split
      · exact .pathThere ‹_›
      · exact .pathAbsent ‹_›
  | createPath =>
      simp only [componentStep] at stepped
      split at stepped <;> cases stepped
      · exact .pathCreated _ ‹_›
      · exact .pathRefused ‹_›
  | checkNode initialised =>
      cases stepped
      split
      · exact .nodeFound initialised ‹_›
      · exact .nodeMissing initialised ‹_›
  | createNode initialised =>
      simp only [componentStep] at stepped
      split at stepped <;> cases stepped
      · exact .nodeCreated initialised _ ‹_›
      · exact .nodeRefused initialised ‹_›
  | running | dead => cases stepped

theorem Move.componentStep {kind : Kind} {placement : Placement} {tree grown : Tree} {pc next : Pc}
    (move : Move kind placement tree pc grown next) :
    ZooKeeper.componentStep kind placement tree pc = some (grown, next) := by
  cases move <;> simp [ZooKeeper.componentStep, *]

/-! ## What a component has seen and made -/

section Traces

variable {start tree grown : Tree} {kind : Kind} {placement : Placement} {pc next : Pc}

/-- What follows from where a component is, on a tree that has grown out of `start`. -/
def Knows (start tree : Tree) (placement : Placement) : Pc → Prop
  | .checkPath => True
  | .checkRoot => placement.path ∉ start.nodes
  | .createRoot => placement.path ∉ start.nodes ∧ placement.rootPath ∉ start.nodes
  | .checkAgain | .createPath => placement.path ∉ start.nodes ∧ placement.rootPath ∈ tree.nodes
  | .checkNode true | .running true _ => placement.path ∈ tree.nodes
  | .createNode true => placement.path ∈ tree.nodes ∧ placement.nodePath ∉ start.nodes
  | .checkNode false | .createNode false => placement.path ∉ start.nodes
  | .running false true => placement.path ∉ start.nodes ∧ placement.nodePath ∈ tree.nodes
  | .running false false | .dead => True

def Pc.pastRoot : Pc → Bool
  | .checkPath | .checkRoot | .createRoot => false
  | _ => true

/-- The component may have made its path: a scheduler that starts without queues
has not. -/
def Pc.pastPath : Pc → Bool
  | .checkNode initialised | .createNode initialised => initialised
  | .running initialised registered => initialised || !registered
  | .dead => true
  | _ => false

def Pc.pastNode : Pc → Bool
  | .running _ registered => registered
  | _ => false

/-- The component may have made the node. -/
inductive Made (start : Tree) (placement : Placement) (pc : Pc) : Bytes → Prop where
  | root (missed : placement.path ∉ start.nodes) (past : pc.pastRoot = true) :
      Made start placement pc placement.rootPath
  | path (past : pc.pastPath = true) : Made start placement pc placement.path
  | node (past : pc.pastNode = true) : Made start placement pc placement.nodePath

theorem Knows.grow (knows : Knows start tree placement pc) (growth : tree.nodes ⊆ grown.nodes) :
    Knows start grown placement pc := by
  cases pc with
  | checkPath | checkRoot | createRoot | dead => exact knows
  | checkAgain | createPath => exact ⟨knows.1, growth knows.2⟩
  | checkNode initialised =>
      cases initialised with
      | true => exact growth knows
      | false => exact knows
  | createNode initialised =>
      cases initialised with
      | true => exact ⟨growth knows.1, knows.2⟩
      | false => exact knows
  | running initialised registered =>
      cases initialised with
      | true => exact growth knows
      | false =>
          cases registered with
          | true => exact ⟨knows.1, growth knows.2⟩
          | false => trivial

theorem Move.grows (move : Move kind placement tree pc grown next) : tree.nodes ⊆ grown.nodes := by
  cases move with
  | rootCreated _ created | pathCreated _ created | nodeCreated _ _ created =>
      rw [Tree.nodes_create created]
      exact List.subset_cons_self _ _
  | _ => exact List.Subset.refl _

theorem Move.knows (move : Move kind placement tree pc grown next) (older : start.nodes ⊆ tree.nodes)
    (knows : Knows start tree placement pc) : Knows start grown placement next := by
  cases move with
  | pathFound found | pathThere found => exact found
  | pathMissing absent => exact fun member => absent (older member)
  | rootFound found => exact ⟨knows, found⟩
  | rootMissing absent => exact ⟨knows, fun member => absent (older member)⟩
  | rootCreated _ created => exact ⟨knows.1, Tree.nodes_create created ▸ List.mem_cons_self⟩
  | rootRefused | pathRefused =>
      cases kind with
      | scheduler => exact knows.1
      | worker => trivial
  | pathAbsent => exact knows
  | pathCreated _ created =>
      change placement.path ∈ grown.nodes
      rw [Tree.nodes_create created]
      exact List.mem_cons_self
  | nodeFound initialised found =>
      cases initialised with
      | true => exact knows
      | false => trivial
  | nodeMissing initialised absent =>
      cases initialised with
      | true => exact ⟨knows, fun member => absent (older member)⟩
      | false => exact knows
  | nodeCreated initialised _ created =>
      cases initialised with
      | true =>
          change placement.path ∈ grown.nodes
          rw [Tree.nodes_create created]
          exact List.mem_cons_of_mem _ knows.1
      | false => exact ⟨knows, Tree.nodes_create created ▸ List.mem_cons_self⟩
  | nodeRefused => cases kind <;> trivial

theorem Move.past (move : Move kind placement tree pc grown next) :
    (pc.pastRoot = true → next.pastRoot = true) ∧ (pc.pastPath = true → next.pastPath = true) ∧
      (pc.pastNode = true → next.pastNode = true) := by
  cases move with
  | rootRefused | pathRefused => cases kind <;> decide
  | nodeRefused initialised => cases kind <;> cases initialised <;> decide
  | nodeFound initialised | nodeMissing initialised | nodeCreated initialised => cases initialised <;> decide
  | _ => decide

theorem Move.made (move : Move kind placement tree pc grown next) {path : Bytes} (made : Made start placement pc path) :
    Made start placement next path := by
  obtain ⟨root, own, node⟩ := move.past
  cases made with
  | root missed past => exact .root missed (root past)
  | path past => exact .path (own past)
  | node past => exact .node (node past)

theorem Move.new (move : Move kind placement tree pc grown next) (knows : Knows start tree placement pc)
    {path : Bytes} (member : path ∈ grown.nodes) : path ∈ tree.nodes ∨ Made start placement next path := by
  cases move with
  | rootCreated _ created =>
      rw [Tree.nodes_create created] at member
      rcases List.mem_cons.mp member with rfl | old
      · exact .inr (.root knows.1 rfl)
      · exact .inl old
  | pathCreated _ created =>
      rw [Tree.nodes_create created] at member
      rcases List.mem_cons.mp member with rfl | old
      · exact .inr (.path rfl)
      · exact .inl old
  | nodeCreated initialised _ created =>
      rw [Tree.nodes_create created] at member
      rcases List.mem_cons.mp member with rfl | old
      · exact .inr (.node rfl)
      · exact .inl old
  | _ => exact .inl member

end Traces

section Runs

variable {P : Type} {kind : P → Kind} {placement : P → Placement} {start : Tree} {before after : Start P}

/-- Every node was there or was made by a component that needed it. -/
structure Traced (placement : P → Placement) (start : Tree) (state : Start P) : Prop where
  older : start.nodes ⊆ state.tree.nodes
  knows : ∀ component, Knows start state.tree (placement component) (state.pc component)
  made : ∀ path ∈ state.tree.nodes,
    path ∈ start.nodes ∨ ∃ component, Made start (placement component) (state.pc component) path

variable [DecidableEq P]

theorem bootstrapStep_move {component : P} (stepped : bootstrapStep kind placement before component = some after) :
    ∃ next, Move (kind component) (placement component) before.tree (before.pc component) after.tree next ∧
      after.pc = Function.update before.pc component next := by
  obtain ⟨next, moved, rfl⟩ := Option.map_eq_some_iff.mp stepped
  exact ⟨next.2, componentStep_move moved, rfl⟩

theorem Traced.step (traced : Traced placement start before) {component : P}
    (stepped : bootstrapStep kind placement before component = some after) : Traced placement start after := by
  obtain ⟨next, move, updated⟩ := bootstrapStep_move stepped
  refine ⟨fun path member => move.grows (traced.older member), ?_, ?_⟩
  · rw [updated]
    exact (Function.forall_update_iff before.pc fun other pc => Knows start after.tree (placement other) pc).mpr
      ⟨move.knows traced.older (traced.knows component), fun other _ => (traced.knows other).grow move.grows⟩
  · have kept {path : Bytes} {other : P} (made : Made start (placement other) (before.pc other) path) :
        Made start (placement other) (after.pc other) path := by
      rw [updated]
      by_cases mine : other = component
      · subst other
        rw [Function.update_self]
        exact move.made made
      · rwa [Function.update_of_ne mine]
    intro path member
    rcases move.new (traced.knows component) member with old | new
    · rcases traced.made path old with first | ⟨other, made⟩
      · exact .inl first
      · exact .inr ⟨other, kept made⟩
    · refine .inr ⟨component, ?_⟩
      rwa [updated, Function.update_self]

variable {state : Start P}

omit [DecidableEq P] in
theorem Traced.root_maker (traced : Traced placement start state) {component : P}
    (present : (placement component).rootPath ∈ state.tree.nodes)
    (missed : (placement component).rootPath ∉ start.nodes) :
    ∃ maker, (placement maker).rootPath = (placement component).rootPath ∧
      (placement maker).path ∉ start.nodes ∧ (state.pc maker).pastRoot = true := by
  rcases traced.made _ present with old | ⟨maker, made⟩
  · exact absurd old missed
  · generalize target : (placement component).rootPath = path at made
    cases made with
    | root absent past => exact ⟨maker, rfl, absent, past⟩
    | path => exact absurd target ((placement component).rootPath_ne_path _)
    | node => exact absurd target ((placement component).rootPath_ne_nodePath _)

omit [DecidableEq P] in
theorem Traced.path_maker (traced : Traced placement start state) {component : P}
    (present : (placement component).path ∈ state.tree.nodes) (missed : (placement component).path ∉ start.nodes) :
    ∃ maker, (placement maker).path = (placement component).path ∧ (state.pc maker).pastPath = true := by
  rcases traced.made _ present with old | ⟨maker, made⟩
  · exact absurd old missed
  · generalize target : (placement component).path = path at made
    cases made with
    | root => exact absurd target.symm ((placement maker).rootPath_ne_path _)
    | path past => exact ⟨maker, rfl, past⟩
    | node => exact absurd target ((placement component).path_ne_nodePath _)

omit [DecidableEq P] in
theorem Traced.node_maker (traced : Traced placement start state) {component : P}
    (present : (placement component).nodePath ∈ state.tree.nodes)
    (missed : (placement component).nodePath ∉ start.nodes) :
    ∃ maker, (placement maker).nodePath = (placement component).nodePath ∧ (state.pc maker).pastNode = true := by
  rcases traced.made _ present with old | ⟨maker, made⟩
  · exact absurd old missed
  · generalize target : (placement component).nodePath = path at made
    cases made with
    | root => exact absurd target.symm ((placement maker).rootPath_ne_nodePath _)
    | path => exact absurd target.symm ((placement maker).path_ne_nodePath _)
    | node past => exact ⟨maker, rfl, past⟩

end Runs

end TaskHive.ZooKeeper
