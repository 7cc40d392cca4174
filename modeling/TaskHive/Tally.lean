import Mathlib.Algebra.BigOperators.Group.Finset.Piecewise
import Mathlib.Algebra.Order.BigOperators.Group.Finset
import Mathlib.Data.Nat.Count
import Mathlib.Logic.Function.Basic

namespace TaskHive

/-! # Counting in a numbered family

How many of the first members of a family have a property, and how the number
changes when one member is replaced or the next one is added. -/

section Tally

variable {α : Type u} {property : α → Bool} {family : Nat → α} {bound index : Nat}

def tally (property : α → Bool) (family : Nat → α) (bound : Nat) : Nat :=
  Nat.count (fun index => property (family index) = true) bound

theorem tally_succ (property : α → Bool) (family : Nat → α) (bound : Nat) :
    tally property family (bound + 1) = tally property family bound + (property (family bound)).toNat := by
  rw [tally, Nat.count_succ, ← tally]
  cases property (family bound) <;> rfl

/-- A member beyond the bound does not count. -/
theorem tally_update_of_le (outside : bound ≤ index) (value : α) :
    tally property (Function.update family index value) bound = tally property family bound := by
  induction bound with
  | zero => rfl
  | succ bound ih =>
      have different : bound ≠ index := Nat.ne_of_lt outside
      rw [tally_succ, tally_succ, ih (Nat.le_of_succ_le outside), Function.update_of_ne different]

theorem tally_update (inside : index < bound) (value : α) :
    tally property (Function.update family index value) bound + (property (family index)).toNat =
      tally property family bound + (property value).toNat := by
  induction bound with
  | zero => cases inside
  | succ bound ih =>
      rw [tally_succ, tally_succ]
      by_cases last : index = bound
      · subst index
        rw [tally_update_of_le (Nat.le_refl bound), Function.update_self]
        omega
      · have before : index < bound := by omega
        rw [Function.update_of_ne (Ne.symm last)]
        have earlier := ih before
        omega

theorem tally_update_same {value : α} (same : property value = property (family index)) (bound : Nat) :
    tally property (Function.update family index value) bound = tally property family bound := by
  by_cases inside : index < bound
  · have changed := @tally_update _ property family bound index inside value
    rw [same] at changed
    omega
  · exact tally_update_of_le (Nat.le_of_not_lt inside) value

theorem tally_update_next (property : α → Bool) (family : Nat → α) (bound : Nat) (value : α) :
    tally property (Function.update family bound value) (bound + 1) =
      tally property family bound + (property value).toNat := by
  rw [tally_succ, tally_update_of_le (Nat.le_refl bound), Function.update_self]

theorem tally_pos (inside : index < bound) (holds : property (family index) = true) :
    0 < tally property family bound := by
  refine Nat.pos_of_ne_zero fun zero => ?_
  exact Nat.count_iff_forall_not.mp zero index inside holds

theorem tally_le_tally {weaker : α → Bool} (implied : ∀ value, property value = true → weaker value = true)
    (family : Nat → α) (bound : Nat) : tally property family bound ≤ tally weaker family bound :=
  Nat.count_mono_left fun index _ => implied (family index)

theorem tally_lt_tally {weaker : α → Bool} (implied : ∀ value, property value = true → weaker value = true)
    (inside : index < bound) (excluded : property (family index) = false) (included : weaker (family index) = true) :
    tally property family bound < tally weaker family bound := by
  induction bound with
  | zero => cases inside
  | succ bound ih =>
      rw [tally_succ, tally_succ]
      by_cases last : index = bound
      · subst index
        have most := tally_le_tally implied family bound
        rw [excluded, included]
        exact Nat.lt_succ_of_le most
      · have fewer := ih (by omega)
        have most : (property (family bound)).toNat ≤ (weaker (family bound)).toNat :=
          Bool.toNat_le_toNat (implied (family bound))
        omega

theorem tally_eq_zero (none : ∀ index, property (family index) = false) (bound : Nat) :
    tally property family bound = 0 :=
  Nat.count_iff_forall_not.mpr fun index _ => by simp [none index]

end Tally

/-! # The weight of a family

The sum of the ranks of some members. -/

section Weight

variable {ι : Type v} {α : Type u} {rank : α → Nat} {members : Finset ι} {family : ι → α}

def weight (rank : α → Nat) (members : Finset ι) (family : ι → α) : Nat :=
  ∑ member ∈ members, rank (family member)

theorem weight_update [DecidableEq ι] {index : ι} (member : index ∈ members) (value : α) :
    weight rank members (Function.update family index value) + rank (family index) =
      weight rank members family + rank value := by
  have updated : (fun other => rank (Function.update family index value other)) =
      Function.update (fun other => rank (family other)) index (rank value) :=
    Function.comp_update rank family index value
  rw [weight, updated, Finset.sum_update_of_mem member, weight,
    Finset.sum_eq_add_sum_sdiff_singleton_of_mem member fun other => rank (family other)]
  omega

theorem weight_map_le {change : α → α} {extra : Nat} (most : ∀ value, rank (change value) ≤ rank value + extra) :
    weight rank members (fun index => change (family index)) ≤
      weight rank members family + members.card * extra := by
  have constant : ∑ _member ∈ members, extra = members.card * extra := by simp
  rw [weight, weight, ← constant, ← Finset.sum_add_distrib]
  exact Finset.sum_le_sum fun index _ => most (family index)

end Weight

end TaskHive
