import Mathlib.Order.WellFounded
import TaskHive.Machine

namespace TaskHive

/-! # Fair runs

Liveness is stated over the infinite runs of a machine.  An agent is given by the
steps that are its own, and a run is fair to it when an agent that can act again
and again does act. -/

namespace Machine

variable {σ : Type u} {α : Type v} {machine : Machine σ α} {allowed : σ → α → Prop}

/-- At a moment without an action nothing happens. -/
structure Trace (machine : Machine σ α) (allowed : σ → α → Prop) where
  state : Nat → σ
  action : Nat → Option α
  starts : state 0 = machine.init
  rests : ∀ now, action now = none → state (now + 1) = state now
  steps : ∀ now act, action now = some act →
    allowed (state now) act ∧ machine.step (state now) act = some (state (now + 1))

def Enabled (machine : Machine σ α) (allowed agent : σ → α → Prop) (state : σ) : Prop :=
  ∃ action, agent state action ∧ allowed state action ∧ (machine.step state action).isSome

namespace Trace

variable (trace : Trace machine allowed)

theorem reachable (now : Nat) : machine.ReachableBy allowed (trace.state now) := by
  induction now with
  | zero =>
      rw [trace.starts]
      exact .init
  | succ now ih =>
      cases acted : trace.action now with
      | none =>
          rw [trace.rests now acted]
          exact ih
      | some action =>
          obtain ⟨permitted, stepped⟩ := trace.steps now action acted
          exact .step ih permitted stepped

def Acts (agent : σ → α → Prop) (now : Nat) : Prop :=
  ∃ action, trace.action now = some action ∧ agent (trace.state now) action

/-- Strong fairness: the agent need not be able to act all the time. -/
def Fair (agent : σ → α → Prop) : Prop :=
  ∀ now, (∀ later, now ≤ later → ∃ again, later ≤ again ∧ machine.Enabled allowed agent (trace.state again)) →
    ∃ later, now ≤ later ∧ trace.Acts agent later

def Eventually (goal : σ → Prop) (now : Nat) : Prop := ∃ later, now ≤ later ∧ goal (trace.state later)

variable {trace}

theorem Fair.of_acts {agent : σ → α → Prop} (again : ∀ now, ∃ later, now ≤ later ∧ trace.Acts agent later) :
    trace.Fair agent :=
  fun now _ => again now

theorem Fair.of_disabled {agent : σ → α → Prop} {last : Nat}
    (disabled : ∀ now, last ≤ now → ¬ machine.Enabled allowed agent (trace.state now)) : trace.Fair agent := by
  intro now often
  obtain ⟨again, after, enabled⟩ := often (max now last) (Nat.le_max_left now last)
  exact absurd enabled (disabled again (Nat.le_trans (Nat.le_max_right now last) after))

/-- Every step keeps the spot, lowers it, or reaches the goal, and a step of the
agent that the spot waits for does not keep it. -/
structure Descent (trace : Trace machine allowed) {Spot : Type w} (below : Spot → Spot → Prop)
    (agent : Spot → σ → α → Prop) (stands : Spot → σ → Prop) (goal : σ → Prop) : Prop where
  moves : ∀ now spot action, stands spot (trace.state now) → trace.action now = some action →
    goal (trace.state (now + 1)) ∨ (∃ lower, below lower spot ∧ stands lower (trace.state (now + 1))) ∨
      stands spot (trace.state (now + 1)) ∧ ¬ agent spot (trace.state now) action
  enabled : ∀ now spot, (∀ later, now ≤ later → stands spot (trace.state later)) →
    ∃ later, now ≤ later ∧ machine.Enabled allowed (agent spot) (trace.state later)

/-- While a spot is neither left nor the goal reached, its agent has not
acted. -/
theorem Descent.stays {Spot : Type w} {below : Spot → Spot → Prop} {agent : Spot → σ → α → Prop}
    {stands : Spot → σ → Prop} {goal : σ → Prop} (descent : Descent trace below agent stands goal) {spot : Spot}
    {now : Nat} (here : stands spot (trace.state now)) (never : ¬ trace.Eventually goal now)
    (kept : ∀ later lower, now ≤ later → below lower spot → ¬ stands lower (trace.state later)) (later : Nat) :
    stands spot (trace.state (now + later)) ∧ ∀ earlier < later, ¬ trace.Acts (agent spot) (now + earlier) := by
  induction later with
  | zero => exact ⟨here, fun earlier before => absurd before (Nat.not_lt_zero earlier)⟩
  | succ later ih =>
      obtain ⟨standing, quiet⟩ := ih
      have step : stands spot (trace.state (now + later + 1)) ∧ ¬ trace.Acts (agent spot) (now + later) := by
        cases acted : trace.action (now + later) with
        | none =>
            rw [trace.rests _ acted]
            refine ⟨standing, ?_⟩
            rintro ⟨action, taken, _⟩
            rw [acted] at taken
            cases taken
        | some action =>
            rcases descent.moves _ spot action standing acted with reached | ⟨lower, less, there⟩ | ⟨same, other⟩
            · exact absurd ⟨_, by omega, reached⟩ never
            · exact absurd there (kept _ lower (by omega) less)
            · refine ⟨same, ?_⟩
              rintro ⟨taken, takes, own⟩
              rw [acted] at takes
              cases takes
              exact other own
      refine ⟨step.1, fun earlier before => ?_⟩
      rcases Nat.lt_succ_iff_lt_or_eq.mp before with old | rfl
      · exact quiet earlier old
      · exact step.2

theorem Descent.eventually {Spot : Type w} {below : Spot → Spot → Prop} {agent : Spot → σ → α → Prop}
    {stands : Spot → σ → Prop} {goal : σ → Prop} (descent : Descent trace below agent stands goal)
    (founded : WellFounded below) (fair : ∀ spot, trace.Fair (agent spot)) {spot : Spot} {now : Nat}
    (here : stands spot (trace.state now)) : trace.Eventually goal now := by
  induction spot using founded.induction generalizing now with
  | h spot ih =>
      by_contra never
      -- A lower spot would lead to the goal, so the spot is kept for ever.
      have kept (later : Nat) (lower : Spot) (after : now ≤ later) (less : below lower spot) :
          ¬ stands lower (trace.state later) := by
        intro there
        obtain ⟨last, afterwards, reached⟩ := ih lower less there
        exact never ⟨last, Nat.le_trans after afterwards, reached⟩
      have stays := descent.stays here never kept
      have always (later : Nat) (after : now ≤ later) : stands spot (trace.state later) := by
        obtain ⟨gap, rfl⟩ := Nat.exists_eq_add_of_le after
        exact (stays gap).1
      obtain ⟨later, after, acts⟩ := fair spot now fun later after =>
        descent.enabled later spot fun last afterwards => always last (Nat.le_trans after afterwards)
      obtain ⟨gap, rfl⟩ := Nat.exists_eq_add_of_le after
      exact (stays (gap + 1)).2 gap (Nat.lt_succ_self gap) acts

/-! ## The run of a schedule -/

def visited (machine : Machine σ α) (schedule : Nat → α) : Nat → σ
  | 0 => machine.init
  | now + 1 => (machine.step (visited machine schedule now) (schedule now)).getD (visited machine schedule now)

def ofSchedule (schedule : Nat → α)
    (runs : ∀ now, allowed (visited machine schedule now) (schedule now) ∧
      (machine.step (visited machine schedule now) (schedule now)).isSome) : Trace machine allowed where
  state := visited machine schedule
  action now := some (schedule now)
  starts := rfl
  rests now acted := by cases acted
  steps now action acted := by
    cases acted
    obtain ⟨permitted, some⟩ := runs now
    obtain ⟨next, stepped⟩ := Option.isSome_iff_exists.mp some
    refine ⟨permitted, ?_⟩
    rw [visited, stepped, Option.getD_some]

/-- The run of a finite schedule, which rests afterwards. -/
def visitedBy (machine : Machine σ α) (schedule : List α) (now : Nat) : σ :=
  (schedule.take now).foldl (fun state action => (machine.step state action).getD state) machine.init

def ofList (schedule : List α)
    (runs : ∀ now action, schedule[now]? = some action →
      allowed (visitedBy machine schedule now) action ∧ (machine.step (visitedBy machine schedule now) action).isSome) :
    Trace machine allowed where
  state := visitedBy machine schedule
  action now := schedule[now]?
  starts := rfl
  rests now ended := by
    have past : schedule.length ≤ now := List.getElem?_eq_none_iff.mp ended
    rw [visitedBy, visitedBy, List.take_of_length_le past, List.take_of_length_le (Nat.le_succ_of_le past)]
  steps now action taken := by
    obtain ⟨permitted, some⟩ := runs now action taken
    obtain ⟨next, stepped⟩ := Option.isSome_iff_exists.mp some
    apply And.intro permitted
    have after : visitedBy machine schedule (now + 1) =
        (machine.step (visitedBy machine schedule now) action).getD (visitedBy machine schedule now) := by
      simp [visitedBy, List.take_add_one, taken, List.foldl_append]
    rw [after, stepped, Option.getD_some]

end Trace

end Machine

end TaskHive
