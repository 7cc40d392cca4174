import Mathlib.Logic.Function.Basic

namespace TaskHive

universe u

/-! # One lock and the agents inside it -/

/-- The owner of the lock is the only agent inside. -/
def Exclusive {ι : Type u} (owner : Option ι) (inside : ι → Bool) : Prop :=
  ∀ agent, inside agent = true ↔ owner = some agent

namespace Exclusive

variable {ι : Type u} [DecidableEq ι] {owner : Option ι} {inside : ι → Bool} {agent other : ι}

omit [DecidableEq ι] in
theorem outside_of_free (exclusive : Exclusive none inside) (agent : ι) : inside agent = false := by
  have owned := (exclusive agent).mp
  cases entered : inside agent with
  | false => rfl
  | true => cases owned entered

omit [DecidableEq ι] in
theorem unique (exclusive : Exclusive owner inside) (first : inside agent = true) (second : inside other = true) :
    other = agent :=
  Option.some.inj (((exclusive other).mp second).symm.trans ((exclusive agent).mp first))

theorem acquire (exclusive : Exclusive none inside) (agent : ι) :
    Exclusive (some agent) (Function.update inside agent true) := by
  refine (Function.forall_update_iff inside fun other entered => entered = true ↔ some agent = some other).mpr ?_
  refine ⟨by simp, fun other different => ?_⟩
  rw [exclusive.outside_of_free other]
  simp [Ne.symm different]

theorem release (exclusive : Exclusive owner inside) (held : inside agent = true) :
    Exclusive none (Function.update inside agent false) := by
  refine (Function.forall_update_iff inside fun other entered => entered = true ↔ none = some other).mpr ?_
  refine ⟨by simp, fun other different => ?_⟩
  simp only [reduceCtorEq, iff_false]
  exact fun entered => different (exclusive.unique held entered)

theorem keep (exclusive : Exclusive owner inside) {value : Bool} (same : value = inside agent) :
    Exclusive owner (Function.update inside agent value) := by
  rw [same, Function.update_eq_self]
  exact exclusive

end Exclusive

end TaskHive
