import Mathlib.Logic.Function.Basic
import TaskHive.Machine

namespace TaskHive

/-! # Stores that implement a map

A store is written by commands and answers queries.  Next to it runs the map it
is to implement, which a command changes as its caller was told; every answer is
recorded with what the map held at that time. -/

structure MapStore (σ : Type u) (ω : Type v) (ι : Type w) (κ : Type x) (ν : Type y) (ρ : Type z) where
  init : σ
  write : σ → ω → σ
  /-- What a command means to its caller: a key and what it is to hold. -/
  meaning : σ → ω → Option (κ × Option ν)
  read : σ → ι → ρ
  key : ι → κ

structure Reading (κ : Type x) (ν : Type y) (ρ : Type z) where
  key : κ
  returned : ρ
  expected : Option ν

structure Tracked (σ : Type u) (κ : Type x) (ν : Type y) (ρ : Type z) where
  store : σ
  map : κ → Option ν
  readings : List (Reading κ ν ρ)

inductive Access (ω : Type v) (ι : Type w) where
  | write (command : ω)
  | read (query : ι)

/-- The map after a command. -/
def assign [DecidableEq κ] (map : κ → Option ν) : Option (κ × Option ν) → κ → Option ν
  | none => map
  | some (key, value) => Function.update map key value

namespace MapStore

variable {σ : Type u} {ω : Type v} {ι : Type w} {κ : Type x} {ν : Type y} {ρ : Type z} [DecidableEq κ]

def step (store : MapStore σ ω ι κ ν ρ) (state : Tracked σ κ ν ρ) : Access ω ι → Tracked σ κ ν ρ
  | .write command =>
      { state with
        store := store.write state.store command
        map := assign state.map (store.meaning state.store command) }
  | .read query =>
      { state with
        readings := state.readings ++ [{
          key := store.key query
          returned := store.read state.store query
          expected := state.map (store.key query) }] }

def machine (store : MapStore σ ω ι κ ν ρ) : Machine (Tracked σ κ ν ρ) (Access ω ι) where
  init := { store := store.init, map := fun _ => none, readings := [] }
  step state access := some (store.step state access)

/-- What carries over from one access to the next: the store represents the
map, and a query is answered from what is represented. -/
structure Implements (store : MapStore σ ω ι κ ν ρ) (allowed : σ → Access ω ι → Prop)
    (represents : σ → (κ → Option ν) → Prop) (correct : ρ → Option ν → Prop) : Prop where
  init : represents store.init fun _ => none
  write : ∀ state map command, represents state map → allowed state (.write command) →
    represents (store.write state command) (assign map (store.meaning state command))
  read : ∀ state map query, represents state map → allowed state (.read query) →
    correct (store.read state query) (map (store.key query))

variable {store : MapStore σ ω ι κ ν ρ} {allowed : σ → Access ω ι → Prop}
  {represents : σ → (κ → Option ν) → Prop} {correct : ρ → Option ν → Prop}

theorem Implements.reachable (implements : store.Implements allowed represents correct) {state : Tracked σ κ ν ρ}
    (reached : store.machine.ReachableBy (fun state access => allowed state.store access) state) :
    represents state.store state.map ∧ ∀ reading ∈ state.readings, correct reading.returned reading.expected := by
  refine @Machine.ReachableBy.invariant _ _ store.machine _
    (fun state => represents state.store state.map ∧
      ∀ reading ∈ state.readings, correct reading.returned reading.expected) _ reached
    ⟨implements.init, by simp [machine]⟩ ?_
  rintro before access after ⟨represented, answered⟩ permitted stepped
  cases stepped
  cases access with
  | write command => exact ⟨implements.write _ _ _ represented permitted, answered⟩
  | read query =>
      refine ⟨represented, fun reading member => ?_⟩
      rcases List.mem_append.mp member with earlier | last
      · exact answered reading earlier
      · rw [List.mem_singleton.mp last]
        exact implements.read _ _ _ represented permitted

end MapStore

end TaskHive
