import Mathlib.Tactic.Push
import TaskHive.Machine

namespace TaskHive.Machine

/-! # Runs that come to an end

A program that runs by itself ends where none of its own steps is possible.  To
show where it ends takes an invariant, a measure that each of its steps lowers,
and what the invariant leaves when nothing can move. -/

variable {σ : Type u} {α : Type v} {machine : Machine σ α} {allowed : σ → α → Prop}

/-- No allowed step is possible. -/
def Halted (machine : Machine σ α) (allowed : σ → α → Prop) (state : σ) : Prop :=
  ∀ action, allowed state action → machine.step state action = none

/-- Whichever allowed steps are taken from here, there is an end to them, and
then the goal is reached. -/
def EndsIn (machine : Machine σ α) (allowed : σ → α → Prop) [∀ state action, Decidable (allowed state action)]
    (goal : σ → Prop) (state : σ) : Prop :=
  ∃ bound, ∀ schedule final, machine.runWhile allowed state schedule = some final →
    schedule.length ≤ bound ∧ (machine.Halted allowed final → goal final)

theorem EndsIn.step [∀ state action, Decidable (allowed state action)] {goal : σ → Prop} {before after : σ} {action : α}
    (ends : machine.EndsIn allowed goal before) (permitted : allowed before action)
    (stepped : machine.step before action = some after) : machine.EndsIn allowed goal after := by
  obtain ⟨bound, within⟩ := ends
  apply Exists.intro bound
  intro schedule final executed
  have longer : machine.runWhile allowed before (action :: schedule) = some final := by
    simp [runWhile, permitted, stepped, executed]
  obtain ⟨short, reached⟩ := within (action :: schedule) final longer
  rw [List.length_cons] at short
  exact ⟨by omega, reached⟩

/-- A property that some step always keeps is kept for ever. -/
theorem not_endsIn_of_forever [∀ state action, Decidable (allowed state action)] {property goal : σ → Prop}
    (goes : ∀ state, property state →
      ∃ action next, allowed state action ∧ machine.step state action = some next ∧ property next)
    {state : σ} (holds : property state) : ¬ machine.EndsIn allowed goal state := by
  have runs (count : Nat) : ∀ state, property state →
      ∃ schedule final, machine.runWhile allowed state schedule = some final ∧ schedule.length = count := by
    induction count with
    | zero =>
        intro state _
        exact ⟨[], state, rfl, rfl⟩
    | succ count ih =>
        intro state holds
        obtain ⟨action, next, permitted, stepped, still⟩ := goes state holds
        obtain ⟨schedule, final, executed, counted⟩ := ih next still
        exact ⟨action :: schedule, final, by simp [runWhile, permitted, stepped, executed], by simp [counted]⟩
  intro ends
  obtain ⟨bound, within⟩ := ends
  obtain ⟨schedule, final, executed, counted⟩ := runs (bound + 1) state holds
  have short := (within schedule final executed).1
  omega

theorem endsIn_of_measure [∀ state action, Decidable (allowed state action)] {property goal : σ → Prop}
    (measure : σ → Nat)
    (lowered : ∀ before action after, property before → allowed before action →
      machine.step before action = some after → property after ∧ measure after < measure before)
    (settled : ∀ state, property state → machine.Halted allowed state → goal state)
    {state : σ} (holds : property state) : machine.EndsIn allowed goal state := by
  refine ⟨measure state, ?_⟩
  intro schedule final executed
  obtain ⟨finalHolds, paid⟩ := length_add_le_of_runWhile measure lowered holds executed
  exact ⟨by omega, settled final finalHolds⟩

/-- Taking allowed steps as long as there are any leads to an end. -/
theorem exists_halted [∀ state action, Decidable (allowed state action)] {property : σ → Prop}
    (measure : σ → Nat)
    (lowered : ∀ before action after, property before → allowed before action →
      machine.step before action = some after → property after ∧ measure after < measure before)
    {state : σ} (holds : property state) :
    ∃ schedule final, machine.runWhile allowed state schedule = some final ∧ property final ∧
      machine.Halted allowed final := by
  induction left : measure state using Nat.strongRecOn generalizing state with
  | ind left ih =>
      by_cases halted : machine.Halted allowed state
      · exact ⟨[], state, rfl, holds, halted⟩
      · unfold Halted at halted
        push Not at halted
        obtain ⟨action, permitted, enabled⟩ := halted
        obtain ⟨next, stepped⟩ := Option.ne_none_iff_exists'.mp enabled
        obtain ⟨nextHolds, lower⟩ := lowered state action next holds permitted stepped
        obtain ⟨schedule, final, executed, ended⟩ := ih (measure next) (left ▸ lower) nextHolds rfl
        refine ⟨action :: schedule, final, ?_, ended⟩
        simp [runWhile, permitted, stepped, executed]

end TaskHive.Machine
