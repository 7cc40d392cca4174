import Mathlib.Data.Fintype.Basic
import Mathlib.Logic.Pairwise
import TaskHive.Ending
import TaskHive.Tally
import TaskHive.ZooKeeper.Bootstrap

namespace TaskHive.ZooKeeper

open TaskHive.Wire

variable {P : Type} [DecidableEq P]
variable {kind : P → Kind} {placement : P → Placement} {start : Tree} {state : Start P}

/-! # Who loses when components start together -/

/-! ## Without contention -/

section Refusals

variable {component : P}

omit [DecidableEq P] in
/-- A component that finds its own node there has it in common with another one. -/
theorem Traced.node_contended (traced : Traced placement start state)
    (fresh : (placement component).nodePath ∉ start.nodes) (before : (state.pc component).pastNode = false)
    (present : (placement component).nodePath ∈ state.tree.nodes) :
    ∃ other ≠ component, ∃ path ∈ (placement component).needs start, path ∈ (placement other).needs start := by
  obtain ⟨maker, same, past⟩ := traced.node_maker present fresh
  refine ⟨maker, ?_, _, Placement.mem_needs.mpr ⟨fresh, .inl rfl⟩, Placement.mem_needs.mpr ⟨fresh, .inl same.symm⟩⟩
  rintro rfl
  rw [before] at past
  cases past

omit [DecidableEq P] in
/-- Whoever cannot create a node needed it, and so did the one that has made it. -/
theorem Traced.contended (traced : Traced placement start state)
    (fresh : (placement component).nodePath ∉ start.nodes) {grown : Tree} {next : Pc}
    (move : Move (kind component) (placement component) state.tree (state.pc component) grown next)
    (whole : (state.pc component).broken = false) (breaks : next.broken = true) :
    ∃ other ≠ component, ∃ path ∈ (placement component).needs start, path ∈ (placement other).needs start := by
  have knows := traced.knows component
  generalize here : state.pc component = pc at move whole knows
  cases move with
  | rootRefused refused =>
      have present := Tree.mem_of_create_eq_none refused (.inl (placement component).top)
      obtain ⟨maker, same, missed, past⟩ := traced.root_maker present knows.2
      refine ⟨maker, ?_, _, Placement.mem_needs.mpr ⟨knows.2, .inr ⟨knows.1, .inl rfl⟩⟩,
        Placement.mem_needs.mpr ⟨knows.2, .inr ⟨missed, .inl same.symm⟩⟩⟩
      rintro rfl
      rw [here] at past
      cases past
  | pathRefused refused =>
      have present := Tree.mem_of_create_eq_none refused (.inr ((placement component).inside ▸ knows.2))
      obtain ⟨maker, same, past⟩ := traced.path_maker present knows.1
      refine ⟨maker, ?_, _, Placement.mem_needs.mpr ⟨knows.1, .inr ⟨knows.1, .inr rfl⟩⟩,
        Placement.mem_needs.mpr ⟨knows.1, .inr ⟨same ▸ knows.1, .inr same.symm⟩⟩⟩
      rintro rfl
      rw [here] at past
      cases past
  | nodeRefused initialised refused =>
      cases initialised with
      | false => cases whole
      | true =>
          have above : parent (placement component).nodePath ∈ state.tree.nodes :=
            (placement component).parent_nodePath ▸ knows.1
          have present := Tree.mem_of_create_eq_none refused (.inr above)
          exact traced.node_contended fresh (by rw [here]; rfl) present
  | nodeFound initialised present => exact traced.node_contended fresh (by rw [here]; rfl) present
  | nodeMissing initialised | nodeCreated initialised =>
      cases initialised with
      | false => cases whole
      | true => cases breaks
  | _ => cases breaks

end Refusals

section Duel

variable {left right : P} {tree grown : Tree} {leftPc rightPc next : Pc}

end Duel

/-- The component has got past its root, and nothing has kept it back. -/
def Pc.promising : Pc → Bool
  | .checkAgain | .createPath => true
  | .checkNode initialised | .createNode initialised => initialised
  | .running initialised registered => initialised && registered
  | _ => false

def Pc.left : Pc → Nat
  | .checkPath => 7
  | .checkRoot => 6
  | .createRoot => 5
  | .checkAgain => 4
  | .createPath => 3
  | .checkNode _ => 2
  | .createNode _ => 1
  | .running _ _ | .dead => 0

/-- The component has its path, and nothing has kept it back. -/
def Pc.settled : Pc → Bool
  | .checkNode initialised | .createNode initialised => initialised
  | .running initialised registered => initialised && registered
  | _ => false

/-- Either nothing has happened yet that could keep anybody back, or somebody is
on the way to success; and who has made a path is. -/
structure Hopeful (placement : P → Placement) (start : Tree) (state : Start P) : Prop where
  traced : Traced placement start state
  made : ∀ component, (placement component).path ∈ state.tree.nodes → (placement component).path ∉ start.nodes →
    ∃ maker, (placement maker).path = (placement component).path ∧ (state.pc maker).settled = true
  hope : (state.tree.nodes ⊆ start.nodes ∧ ∀ component, (state.pc component).broken = false) ∨
    ∃ component, (state.pc component).promising = true

section Hope

variable {before after : Start P} {component : P} {grown : Tree} {next : Pc}

theorem Pc.promising_of_settled {pc : Pc} (settled : pc.settled = true) : pc.promising = true := by
  cases pc with
  | checkNode | createNode | running => exact settled
  | _ => cases settled

/-- The components have nodes of their own, and nobody has left one there. -/
structure OwnNodes (placement : P → Placement) (start : Tree) : Prop where
  distinct : Function.Injective fun component => (placement component).nodePath
  fresh : ∀ component, (placement component).nodePath ∉ start.nodes

omit [DecidableEq P] in
/-- Nobody else makes the own node of a component. -/
theorem Traced.own_absent (traced : Traced placement start before) (own : OwnNodes placement start)
    (unmade : (before.pc component).pastNode = false) : (placement component).nodePath ∉ before.tree.nodes := by
  intro present
  obtain ⟨maker, same, past⟩ := traced.node_maker present (own.fresh component)
  obtain rfl : maker = component := own.distinct same
  rw [unmade] at past
  cases past

omit [DecidableEq P] in
theorem Traced.not_refused (traced : Traced placement start before) (own : OwnNodes placement start)
    (here : before.pc component = .createNode true) : before.tree.create (placement component).nodePath ≠ none := by
  intro refused
  have knows := traced.knows component
  rw [here] at knows
  have above : parent (placement component).nodePath ∈ before.tree.nodes :=
    (placement component).parent_nodePath ▸ knows.1
  exact traced.own_absent own (by rw [here]; rfl) (Tree.mem_of_create_eq_none refused (.inr above))

omit [DecidableEq P] in
theorem Traced.settled (traced : Traced placement start before) (own : OwnNodes placement start)
    (move : Move (kind component) (placement component) before.tree (before.pc component) grown next)
    (settled : (before.pc component).settled = true) : next.settled = true := by
  generalize here : before.pc component = pc at move settled
  cases move with
  | nodeFound initialised present => exact absurd present (traced.own_absent own (by rw [here]; rfl))
  | nodeMissing initialised | nodeCreated initialised =>
      cases initialised with
      | true => rfl
      | false => cases settled
  | nodeRefused initialised refused =>
      cases initialised with
      | true => exact absurd refused (traced.not_refused own here)
      | false => cases settled
  | _ => cases settled

omit [DecidableEq P] in
/-- Somebody who was on the way to success is kept back only by somebody who is
further. -/
theorem Hopeful.overtaken (hopeful : Hopeful placement start before) (own : OwnNodes placement start)
    (move : Move (kind component) (placement component) before.tree (before.pc component) grown next)
    (promising : (before.pc component).promising = true) (lost : next.promising = false) :
    ∃ maker ≠ component, (before.pc maker).promising = true := by
  have knows := hopeful.traced.knows component
  generalize here : before.pc component = pc at move promising knows
  cases move with
  | pathRefused refused =>
      have present := Tree.mem_of_create_eq_none refused (.inr ((placement component).inside ▸ knows.2))
      obtain ⟨maker, _, settled⟩ := hopeful.made component present knows.1
      refine ⟨maker, ?_, Pc.promising_of_settled settled⟩
      rintro rfl
      rw [here] at settled
      cases settled
  | nodeRefused initialised refused =>
      cases initialised with
      | true => exact absurd refused (hopeful.traced.not_refused own here)
      | false => cases promising
  | nodeFound initialised present => exact absurd present (hopeful.traced.own_absent own (by rw [here]; rfl))
  | nodeMissing initialised | nodeCreated initialised =>
      cases initialised with
      | true => cases lost
      | false => cases promising
  | rootFound | rootCreated | pathFound | pathThere | pathAbsent | pathCreated => cases lost
  | pathMissing | rootMissing | rootRefused => cases promising

/-- A path comes up by the step of a component whose path it is. -/
theorem Move.makes_path {kind : Kind} {placement other : Placement} {tree : Tree} {pc : Pc}
    (move : Move kind placement tree pc grown next) (present : other.path ∈ grown.nodes)
    (absent : other.path ∉ tree.nodes) : placement.path = other.path ∧ next.settled = true := by
  cases move with
  | rootCreated _ created =>
      rw [Tree.nodes_create created, List.mem_cons] at present
      exact absurd (present.resolve_right absent).symm (placement.rootPath_ne_path other)
  | pathCreated _ created =>
      rw [Tree.nodes_create created, List.mem_cons] at present
      exact ⟨(present.resolve_right absent).symm, rfl⟩
  | nodeCreated _ _ created =>
      rw [Tree.nodes_create created, List.mem_cons] at present
      exact absurd (present.resolve_right absent) (other.path_ne_nodePath placement)
  | _ => exact absurd present absent

/-- As long as nothing has been created, nobody is kept back. -/
theorem Move.undisturbed {kind : Kind} {placement : Placement} {tree : Tree} {pc : Pc}
    (move : Move kind placement tree pc grown next) (knows : Knows start tree placement pc)
    (nothing : tree.nodes ⊆ start.nodes) (whole : pc.broken = false) (unpromising : pc.promising = false)
    (still : next.promising = false) : grown.nodes ⊆ start.nodes ∧ next.broken = false := by
  cases move with
  | pathMissing | rootMissing => exact ⟨nothing, rfl⟩
  | rootRefused refused =>
      exact absurd (nothing (Tree.mem_of_create_eq_none refused (.inl placement.top))) knows.2
  | nodeFound initialised | nodeMissing initialised | nodeCreated initialised | nodeRefused initialised =>
      cases initialised with
      | true => cases unpromising
      | false => cases whole
  | pathFound | rootFound | rootCreated => cases still
  | pathThere | pathAbsent | pathCreated | pathRefused => cases unpromising

theorem Hopeful.step (own : OwnNodes placement start)
    (hopeful : Hopeful placement start before)
    (stepped : bootstrapStep kind placement before component = some after) : Hopeful placement start after := by
  obtain ⟨next, move, updated⟩ := bootstrapStep_move stepped
  have traced := hopeful.traced
  refine ⟨traced.step stepped, ?_, ?_⟩
  · intro other present absent
    by_cases old : (placement other).path ∈ before.tree.nodes
    · obtain ⟨maker, same, settled⟩ := hopeful.made other old absent
      refine ⟨maker, same, ?_⟩
      rw [updated]
      by_cases mine : maker = component
      · subst maker
        rw [Function.update_self]
        exact traced.settled own move settled
      · rwa [Function.update_of_ne mine]
    · obtain ⟨same, settled⟩ := move.makes_path present old
      exact ⟨component, same, by rw [updated, Function.update_self, settled]⟩
  · cases promised : next.promising with
    | true => exact .inr ⟨component, by rw [updated, Function.update_self, promised]⟩
    | false =>
        cases was : (before.pc component).promising with
        | true =>
            obtain ⟨maker, different, promising⟩ := hopeful.overtaken own move was promised
            exact .inr ⟨maker, by rw [updated, Function.update_of_ne different, promising]⟩
        | false =>
            rcases hopeful.hope with ⟨nothing, whole⟩ | ⟨other, promising⟩
            · obtain ⟨still, sound⟩ :=
                move.undisturbed (traced.knows component) nothing (whole component) was promised
              refine .inl ⟨still, ?_⟩
              rw [updated]
              exact (Function.forall_update_iff before.pc fun _ pc => pc.broken = false).mpr
                ⟨sound, fun other _ => whole other⟩
            · have different : other ≠ component := by
                rintro rfl
                rw [was] at promising
                cases promising
              exact .inr ⟨other, by rw [updated, Function.update_of_ne different, promising]⟩

end Hope

end TaskHive.ZooKeeper
