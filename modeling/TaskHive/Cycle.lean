import Mathlib.Data.List.Rotate

namespace TaskHive

/-! # Going round a list -/

section Cycle

variable {α : Type u}

/-- As many steps as the list has items, from any start, give a rotation of
the list. -/
theorem map_getElem?_mod_length (items : List α) (start : Nat) :
    (List.range items.length).map (fun step => items[(start + step) % items.length]?) =
      (items.rotate start).map some := by
  refine List.ext_getElem (by simp) fun step inside _ => ?_
  have below : step < items.length := by simpa using inside
  have reduced : (start + step) % items.length < items.length := Nat.mod_lt _ (Nat.zero_lt_of_lt below)
  simp [List.getElem_rotate, List.getElem?_eq_getElem reduced, Nat.add_comm]

/-- Every position lies ahead of every start. -/
theorem exists_add_mod_eq (start : Nat) {position size : Nat} (inside : position < size) :
    ∃ distance, (start + distance) % size = position := by
  refine ⟨start * (size - 1) + position, ?_⟩
  have whole : start + (start * (size - 1) + position) = size * start + position := by
    obtain ⟨smaller, rfl⟩ : ∃ smaller, size = smaller + 1 := ⟨size - 1, by omega⟩
    rw [Nat.add_sub_cancel, Nat.mul_comm, Nat.succ_mul]
    omega
  rw [whole, Nat.mul_add_mod, Nat.mod_eq_of_lt inside]

variable [BEq α] [LawfulBEq α]

/-- Some items are replaced by `first`. -/
theorem count_le_of_replaced {before after : List α} {first : α}
    (replaced : List.Forall₂ (fun old new => new = old ∨ new = first) before after) {item : α}
    (other : item ≠ first) : after.count item ≤ before.count item := by
  induction replaced with
  | nil => exact Nat.le_refl _
  | cons head _ ih =>
      rcases head with rfl | rfl
      · rw [List.count_cons, List.count_cons]
        exact Nat.add_le_add_right ih _
      · rw [List.count_cons_of_ne (Ne.symm other)]
        exact Nat.le_trans ih List.count_le_count_cons

/-- The replacement keeps all counts only if it changes nothing. -/
theorem count_eq_iff_of_replaced {before after : List α} {first : α}
    (replaced : List.Forall₂ (fun old new => new = old ∨ new = first) before after) :
    (∀ item ∈ before, after.count item = before.count item) ↔ after = before := by
  refine ⟨fun counts => ?_, fun same _ _ => by rw [same]⟩
  have others : ∀ item ∈ before, item ≠ first → after.count item = before.count item :=
    fun item member _ => counts item member
  clear counts
  induction replaced with
  | nil => rfl
  | @cons old new before after head tail ih =>
      have kept : new = old := by
        by_contra changed
        have taken : new = first := head.resolve_left changed
        have different : old ≠ first := fun same => changed (taken.trans same.symm)
        have fewer := count_le_of_replaced tail different
        have equal := others old List.mem_cons_self different
        rw [List.count_cons_of_ne changed, List.count_cons_self] at equal
        omega
      subst kept
      rw [ih fun item member other => ?_]
      have equal := others item (List.mem_cons_of_mem _ member) other
      rw [List.count_cons, List.count_cons] at equal
      omega

end Cycle

end TaskHive
