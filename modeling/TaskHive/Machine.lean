namespace TaskHive

/-! # Machines with scheduled steps

Every concurrent component is a machine whose nondeterminism is carried by the
action: the scheduler and the environment choose it, and `step` answers `none`
when the chosen action is not enabled.  Safety results are stated over
`ReachableBy`, which restricts the runs to those whose every step meets a
condition on the state before it. -/

structure Machine (σ : Type u) (α : Type v) where
  init : σ
  step : σ → α → Option σ

namespace Machine

variable {σ : Type u} {α : Type v} {machine : Machine σ α} {allowed : σ → α → Prop}

/-- Execute a schedule, giving up at the first action that is disabled or that
breaks the condition. -/
def runWhile (machine : Machine σ α) (allowed : σ → α → Prop)
    [∀ state action, Decidable (allowed state action)] : σ → List α → Option σ
  | state, [] => some state
  | state, action :: rest =>
      if allowed state action then
        (machine.step state action).bind fun next => machine.runWhile allowed next rest
      else none

def run (machine : Machine σ α) (schedule : List α) : Option σ :=
  machine.runWhile (fun _ _ => True) machine.init schedule

/-- The states visited by runs whose steps all meet `allowed`. -/
inductive ReachableBy (machine : Machine σ α) (allowed : σ → α → Prop) : σ → Prop where
  | init : ReachableBy machine allowed machine.init
  | step {before after : σ} {action : α} (reached : ReachableBy machine allowed before)
      (permitted : allowed before action) (stepped : machine.step before action = some after) :
      ReachableBy machine allowed after

def Reachable (machine : Machine σ α) (state : σ) : Prop :=
  machine.ReachableBy (fun _ _ => True) state

theorem ReachableBy.invariant {property : σ → Prop} {state : σ}
    (reached : machine.ReachableBy allowed state) (initial : property machine.init)
    (preserved : ∀ before action after, property before → allowed before action →
      machine.step before action = some after → property after) :
    property state := by
  induction reached with
  | init => exact initial
  | step _ permitted stepped ih => exact preserved _ _ _ ih permitted stepped

/-- More runs visit more states. -/
theorem ReachableBy.mono {more : σ → α → Prop} {state : σ} (reached : machine.ReachableBy allowed state)
    (implied : ∀ before action, allowed before action → more before action) : machine.ReachableBy more state := by
  induction reached with
  | init => exact .init
  | step _ permitted stepped ih => exact .step ih (implied _ _ permitted) stepped

theorem ReachableBy.of_runWhile [∀ state action, Decidable (allowed state action)]
    {before after : σ} {schedule : List α} (reached : machine.ReachableBy allowed before)
    (executed : machine.runWhile allowed before schedule = some after) :
    machine.ReachableBy allowed after := by
  induction schedule generalizing before with
  | nil => cases executed; exact reached
  | cons action rest ih =>
      simp only [runWhile] at executed
      split at executed
      · rename_i permitted
        cases stepped : machine.step before action with
        | none => simp [stepped] at executed
        | some next =>
            simp only [stepped, Option.bind_some] at executed
            exact ih (.step reached permitted stepped) executed
      · contradiction

/-- A measure that every permitted step lowers pays for every step of a run. -/
theorem length_add_le_of_runWhile [∀ state action, Decidable (allowed state action)] {property : σ → Prop}
    (measure : σ → Nat)
    (lowered : ∀ before action after, property before → allowed before action →
      machine.step before action = some after → property after ∧ measure after < measure before)
    {before after : σ} {schedule : List α} (holds : property before)
    (executed : machine.runWhile allowed before schedule = some after) :
    property after ∧ schedule.length + measure after ≤ measure before := by
  induction schedule generalizing before with
  | nil =>
      cases executed
      exact ⟨holds, by simp⟩
  | cons action rest ih =>
      simp only [runWhile] at executed
      split at executed
      · rename_i permitted
        obtain ⟨next, stepped, continued⟩ := Option.bind_eq_some_iff.mp executed
        obtain ⟨nextHolds, lower⟩ := lowered before action next holds permitted stepped
        obtain ⟨afterHolds, paid⟩ := ih nextHolds continued
        exact ⟨afterHolds, by rw [List.length_cons]; omega⟩
      · contradiction

/-- A schedule that can be evaluated produces a visited state with every
decidable property that evaluation confirms. -/
theorem reachableBy_of_any (machine : Machine σ α) (allowed : σ → α → Prop)
    [∀ state action, Decidable (allowed state action)] (property : σ → Prop) [DecidablePred property]
    (schedule : List α)
    (found : (machine.runWhile allowed machine.init schedule).any
      (fun state => decide (property state)) = true) :
    ∃ state, machine.ReachableBy allowed state ∧ property state := by
  cases executed : machine.runWhile allowed machine.init schedule with
  | none => simp [executed] at found
  | some state =>
      simp only [executed, Option.any_some, decide_eq_true_eq] at found
      exact ⟨state, .of_runWhile .init executed, found⟩

theorem reachable_of_any (machine : Machine σ α) {property : σ → Prop} [DecidablePred property]
    (schedule : List α)
    (found : (machine.run schedule).any (fun state => decide (property state)) = true) :
    ∃ state, machine.Reachable state ∧ property state :=
  machine.reachableBy_of_any _ property schedule found

end Machine

end TaskHive
