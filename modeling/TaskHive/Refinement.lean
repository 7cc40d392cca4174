import TaskHive.Machine

namespace TaskHive

/-! # Refinement

What a system shows to the outside is the sequence of events that its steps make
visible.  A system refines another one when everything that it shows could have
been shown by the other. -/

/-- A step shows an event, or is silent. -/
structure Specification (σ : Type u) (ε : Type w) where
  init : σ
  step : σ → Option ε → σ → Prop

namespace Specification

variable {σ : Type u} {τ : Type v} {ε : Type w}

/-- The specification can show these events and be in this state then. -/
inductive Shows (spec : Specification σ ε) : List ε → σ → Prop where
  | init : Shows spec [] spec.init
  | event {events : List ε} {before after : σ} {event : ε} (shown : Shows spec events before)
      (stepped : spec.step before (some event) after) : Shows spec (events ++ [event]) after
  | silent {events : List ε} {before after : σ} (shown : Shows spec events before)
      (stepped : spec.step before none after) : Shows spec events after

/-- Every step between states that can occur is a step of the abstract
specification between their views, or changes nothing and shows nothing there. -/
structure Refines (concrete : Specification σ ε) (abstract : Specification τ ε) (view : σ → τ) : Prop where
  init : view concrete.init = abstract.init
  step : ∀ events before shown after, concrete.Shows events before → concrete.step before shown after →
    abstract.step (view before) shown (view after) ∨ shown = none ∧ view after = view before

theorem Refines.shows {concrete : Specification σ ε} {abstract : Specification τ ε} {view : σ → τ}
    (refines : Refines concrete abstract view) {events : List ε} {state : σ}
    (shown : concrete.Shows events state) : abstract.Shows events (view state) := by
  induction shown with
  | init =>
      rw [refines.init]
      exact .init
  | event shown stepped ih =>
      rcases refines.step _ _ _ _ shown stepped with matched | ⟨silent, _⟩
      · exact .event ih matched
      · cases silent
  | silent shown stepped ih =>
      rcases refines.step _ _ _ _ shown stepped with matched | ⟨_, same⟩
      · exact .silent ih matched
      · rw [same]
        exact ih

end Specification

/-- A machine, and what an observer sees of its steps. -/
def Machine.observed {σ : Type u} {α : Type v} {ε : Type w} (machine : Machine σ α) (allowed : σ → α → Prop)
    (seen : σ → α → Option ε) : Specification σ ε where
  init := machine.init
  step before shown after :=
    ∃ action, allowed before action ∧ machine.step before action = some after ∧ seen before action = shown

theorem Machine.reachableBy_of_shows {σ : Type u} {α : Type v} {ε : Type w} {machine : Machine σ α}
    {allowed : σ → α → Prop} {seen : σ → α → Option ε} {events : List ε} {state : σ}
    (shown : (machine.observed allowed seen).Shows events state) : machine.ReachableBy allowed state := by
  induction shown with
  | init => exact .init
  | event _ stepped ih | silent _ stepped ih =>
      obtain ⟨action, permitted, executed, _⟩ := stepped
      exact .step ih permitted executed

/-! ## Executed schedules -/

section Watch

variable {σ : Type u} {α : Type v} {ε : Type w} {allowed : σ → α → Prop}
  [∀ state action, Decidable (allowed state action)]

/-- Execute a schedule and note what it shows. -/
def Machine.watch (machine : Machine σ α) (allowed : σ → α → Prop) [∀ state action, Decidable (allowed state action)]
    (seen : σ → α → Option ε) : σ → List α → Option (List ε × σ)
  | state, [] => some ([], state)
  | state, action :: rest =>
      if allowed state action then
        (machine.step state action).bind fun next =>
          (machine.watch allowed seen next rest).map fun later => ((seen state action).toList ++ later.1, later.2)
      else none

theorem Machine.shows_of_watch {machine : Machine σ α} {seen : σ → α → Option ε} {schedule : List α}
    {before after : σ} {events more : List ε} (shown : (machine.observed allowed seen).Shows events before)
    (executed : machine.watch allowed seen before schedule = some (more, after)) :
    (machine.observed allowed seen).Shows (events ++ more) after := by
  induction schedule generalizing before events more with
  | nil =>
      cases executed
      rw [List.append_nil]
      exact shown
  | cons action rest ih =>
      simp only [watch] at executed
      split at executed
      · rename_i permitted
        obtain ⟨next, stepped, continued⟩ := Option.bind_eq_some_iff.mp executed
        obtain ⟨later, watched, joined⟩ := Option.map_eq_some_iff.mp continued
        cases joined
        rw [← List.append_assoc]
        refine ih ?_ watched
        cases visible : seen before action with
        | none =>
            rw [Option.toList_none, List.append_nil]
            exact .silent shown ⟨action, permitted, stepped, visible⟩
        | some event => exact .event shown ⟨action, permitted, stepped, visible⟩
      · cases executed

theorem Machine.shows_of_any [DecidableEq ε] (machine : Machine σ α) (seen : σ → α → Option ε) (events : List ε)
    (schedule : List α)
    (found : (machine.watch allowed seen machine.init schedule).any (fun ended => decide (ended.1 = events)) = true) :
    ∃ state, (machine.observed allowed seen).Shows events state := by
  cases executed : machine.watch allowed seen machine.init schedule with
  | none => simp [executed] at found
  | some ended =>
      simp only [executed, Option.any_some, decide_eq_true_eq] at found
      subst found
      exact ⟨ended.2, Machine.shows_of_watch .init executed⟩

end Watch

end TaskHive
