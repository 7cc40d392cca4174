import TaskHive.Cycle
import TaskHive.LoadBalancer.Model

namespace TaskHive.LoadBalancer

/-! # Weighted round robin

A non-negative counter selects by its remainder, so consecutive calls go round
a list in which every worker occurs as often as its weight.  A negative counter
has a remainder that is not positive and always selects the first worker. -/

/-- The weights that `update_worker_node` stores are positive. -/
theorem one_le_calculateWorkerWeight {R : Type u} [Double R] (node : WorkerNode R) :
    1 ≤ calculateWorkerWeight node :=
  Int.le_max_left 1 _

section Weighted

variable {α : Type v} {weight : α → Int}

/-- Every worker as often as its weight, in order. -/
def shares (weight : α → Int) (workers : List α) : List α :=
  workers.flatMap fun worker => List.replicate (weight worker).toNat worker

theorem shares_cons (worker : α) (rest : List α) :
    shares weight (worker :: rest) = List.replicate (weight worker).toNat worker ++ shares weight rest := rfl

theorem length_shares {workers : List α} (positive : ∀ worker ∈ workers, 1 ≤ weight worker) :
    ((shares weight workers).length : Int) = totalWeight weight workers := by
  induction workers with
  | nil => rfl
  | cons worker rest ih =>
      have here := positive worker List.mem_cons_self
      have later := ih fun other member => positive other (List.mem_cons_of_mem _ member)
      rw [totalWeight] at later ⊢
      rw [shares_cons, List.length_append, List.length_replicate, List.map_cons, List.sum_cons, ← later]
      omega

theorem count_shares [DecidableEq α] {workers : List α} (distinct : workers.Nodup) {worker : α}
    (member : worker ∈ workers) : (shares weight workers).count worker = (weight worker).toNat := by
  induction workers with
  | nil => cases member
  | cons first rest ih =>
      obtain ⟨fresh, distinctRest⟩ := List.nodup_cons.mp distinct
      rw [shares_cons, List.count_append]
      by_cases same : worker = first
      · subst same
        have absent : worker ∉ shares weight rest := by
          intro found
          obtain ⟨other, otherMember, copy⟩ := List.mem_flatMap.mp found
          rw [List.eq_of_mem_replicate copy] at fresh
          exact fresh otherMember
        rw [List.count_replicate_self, List.count_eq_zero_of_not_mem absent, Nat.add_zero]
      · rw [List.count_replicate, if_neg (by simpa using Ne.symm same), Nat.zero_add]
        exact ih distinctRest ((List.mem_cons.mp member).resolve_left same)

/-- The scan stops at the worker that owns the share. -/
theorem weightedScan_eq {workers : List α} (positive : ∀ worker ∈ workers, 1 ≤ weight worker)
    {index currentWeight : Int} (reached : currentWeight ≤ index) :
    weightedScan weight index currentWeight workers =
      (shares weight workers)[(index - currentWeight).toNat]? := by
  induction workers generalizing currentWeight with
  | nil => rfl
  | cons worker rest ih =>
      have here := positive worker List.mem_cons_self
      rw [weightedScan, shares_cons]
      split
      · rename_i inside
        rw [List.getElem?_append_left (by rw [List.length_replicate]; omega), List.getElem?_replicate,
          if_pos (by omega)]
      · rename_i beyond
        rw [ih (fun other member => positive other (List.mem_cons_of_mem _ member)) (by omega),
          List.getElem?_append_right (by rw [List.length_replicate]; omega), List.length_replicate]
        congr 1
        omega

section Calls

variable {first : α} {rest : List α}

theorem totalWeight_pos (positive : ∀ worker ∈ first :: rest, 1 ≤ weight worker) :
    weight first ≤ totalWeight weight (first :: rest) ∧ 0 < totalWeight weight (first :: rest) ∧
      (totalWeight weight (first :: rest) = weight first ↔ rest = []) := by
  have here := positive first List.mem_cons_self
  have shared := length_shares fun other member => positive other (List.mem_cons_of_mem first member)
  rw [totalWeight] at shared ⊢
  rw [List.map_cons, List.sum_cons, ← shared]
  refine ⟨by omega, by omega, fun same => ?_, fun none => by simp [none, shares]⟩
  cases rest with
  | nil => rfl
  | cons second others =>
      have there := positive second (by simp)
      rw [shares_cons, List.length_append, List.length_replicate] at same
      omega

theorem select_of_nonneg (positive : ∀ worker ∈ first :: rest, 1 ≤ weight worker) {index : Int32}
    (nonneg : 0 ≤ index.toInt) :
    (selectWeightedRoundRobin weight index (first :: rest)).1 =
      (shares weight (first :: rest))[(index.toInt % totalWeight weight (first :: rest)).toNat]? := by
  obtain ⟨_, total, _⟩ := totalWeight_pos positive
  have reduced := Int.emod_nonneg index.toInt (Int.ne_of_gt total)
  have inside : (index.toInt % totalWeight weight (first :: rest)).toNat <
      (shares weight (first :: rest)).length := by
    have below := Int.emod_lt_of_pos index.toInt total
    have shared := length_shares positive
    omega
  simp only [selectWeightedRoundRobin, List.isEmpty_cons, Bool.false_eq_true, if_false, if_neg (Int.ne_of_gt total)]
  rw [Int.tmod_eq_emod_of_nonneg nonneg, weightedScan_eq positive reduced, Int.sub_zero,
    List.getElem?_eq_getElem inside, Option.some_or]

theorem select_of_neg (positive : ∀ worker ∈ first :: rest, 1 ≤ weight worker) {index : Int32}
    (negative : index.toInt < 0) :
    (selectWeightedRoundRobin weight index (first :: rest)).1 = some first := by
  obtain ⟨_, total, _⟩ := totalWeight_pos positive
  have here := positive first List.mem_cons_self
  have sign : index.toInt.tmod (totalWeight weight (first :: rest)) ≤ 0 := by
    have mirrored := Int.tmod_nonneg (totalWeight weight (first :: rest)) (show 0 ≤ -index.toInt by omega)
    rw [Int.neg_tmod] at mirrored
    omega
  simp only [selectWeightedRoundRobin, List.isEmpty_cons, Bool.false_eq_true, if_false, if_neg (Int.ne_of_gt total)]
  rw [weightedScan, if_pos (by omega), Option.some_or]

/-- Consecutive calls with the counter at a start value. -/
def weightedCalls (weight : α → Int) (workers : List α) : Nat → Int32 → List (Option α)
  | 0, _ => []
  | count + 1, index =>
      let selection := selectWeightedRoundRobin weight index workers
      selection.1 :: weightedCalls weight workers count selection.2

theorem weightedCalls_eq (positive : ∀ worker ∈ first :: rest, 1 ≤ weight worker) (count : Nat) (index : Int32) :
    weightedCalls weight (first :: rest) count index =
      (List.range count).map fun step =>
        (selectWeightedRoundRobin weight (index + Int32.ofNat step) (first :: rest)).1 := by
  induction count generalizing index with
  | zero => rfl
  | succ count ih =>
      obtain ⟨_, total, _⟩ := totalWeight_pos positive
      have next : (selectWeightedRoundRobin weight index (first :: rest)).2 = index + 1 := by
        simp only [selectWeightedRoundRobin, List.isEmpty_cons, Bool.false_eq_true, if_false,
          if_neg (Int.ne_of_gt total)]
      rw [weightedCalls, next, ih, List.range_succ_eq_map, List.map_cons, List.map_map]
      refine congrArg₂ List.cons ?_ (List.map_congr_left fun step _ => ?_)
      · simp
      · have sum : index + 1 + Int32.ofNat step = index + Int32.ofNat (step + 1) := by
          rw [Int32.ofNat_add, Int32.add_assoc, Int32.add_comm 1]
          rfl
        rw [Function.comp_apply, sum]

/-! ## The exact condition -/

/-- As many calls as the total weight return each worker as often as its
weight. -/
def Proportional [DecidableEq α] (weight : α → Int) (workers : List α) (start : Int32) : Prop :=
  ∀ worker ∈ workers,
    (weightedCalls weight workers (totalWeight weight workers).toNat start).count (some worker) =
      (weight worker).toNat

/-- The share that the counter should select, were it not limited. -/
def dueShare (weight : α → Int) (workers : List α) (start : Int32) (step : Nat) : Option α :=
  (shares weight workers)[((start.toInt + step) % totalWeight weight workers).toNat]?

/-- The counter is negative from the start, or becomes so by wrapping around. -/
def Negative (start : Int32) (step : Nat) : Prop :=
  start.toInt + step < 0 ∨ 2 ^ 31 ≤ start.toInt + step

theorem select_step (positive : ∀ worker ∈ first :: rest, 1 ≤ weight worker) {start : Int32} {step : Nat}
    (small : step < 2 ^ 31) :
    (¬ Negative start step → (selectWeightedRoundRobin weight (start + Int32.ofNat step) (first :: rest)).1 =
        dueShare weight (first :: rest) start step) ∧
      (Negative start step →
        (selectWeightedRoundRobin weight (start + Int32.ofNat step) (first :: rest)).1 = some first) := by
  have counter : (start + Int32.ofNat step).toInt = (start.toInt + step).bmod (2 ^ 32) := by
    rw [Int32.toInt_add, Int32.toInt_ofNat_of_lt small]
  have lower := start.le_toInt
  have upper := start.toInt_lt
  constructor
  · intro stays
    have same : (start + Int32.ofNat step).toInt = start.toInt + step := by
      rw [counter]
      unfold Negative at stays
      exact Int.bmod_eq_of_le (by omega) (by omega)
    rw [select_of_nonneg positive (by unfold Negative at stays; omega), same, dueShare]
  · intro negative
    refine select_of_neg positive ?_
    rw [counter]
    unfold Negative at negative
    rcases negative with early | wrapped
    · rw [Int.bmod_eq_of_le (by omega) (by omega)]
      exact early
    · rw [Int.bmod_def]
      omega

theorem map_dueShare (positive : ∀ worker ∈ first :: rest, 1 ≤ weight worker) (start : Int32) :
    (List.range (totalWeight weight (first :: rest)).toNat).map (dueShare weight (first :: rest) start) =
      ((shares weight (first :: rest)).rotate
        (start.toInt % totalWeight weight (first :: rest)).toNat).map some := by
  obtain ⟨_, total, _⟩ := totalWeight_pos positive
  have shared := length_shares positive
  have reduced := Int.emod_nonneg start.toInt (Int.ne_of_gt total)
  rw [← map_getElem?_mod_length, ← shared, Int.toNat_natCast]
  refine List.map_congr_left fun step _ => ?_
  rw [dueShare, ← shared]
  congr 1
  rw [← Int.toNat_natCast (((start.toInt % ((shares weight (first :: rest)).length : Int)).toNat + step) %
    (shares weight (first :: rest)).length), Int.natCast_emod, Int.natCast_add, Int.toNat_of_nonneg, Int.emod_add_emod]
  rwa [shared]

/-- The first worker owns the first shares and no others. -/
theorem shares_getElem?_eq_first_iff (distinct : (first :: rest).Nodup) (index : Nat) :
    (shares weight (first :: rest))[index]? = some first ↔ index < (weight first).toNat := by
  rw [shares_cons]
  by_cases early : index < (weight first).toNat
  · rw [List.getElem?_append_left (by rwa [List.length_replicate]), List.getElem?_replicate, if_pos early]
    exact iff_of_true rfl early
  · refine iff_of_false (fun found => ?_) early
    rw [List.getElem?_append_right (by rw [List.length_replicate]; omega)] at found
    obtain ⟨other, member, copy⟩ := List.mem_flatMap.mp (List.mem_of_getElem? found)
    rw [← List.eq_of_mem_replicate copy] at member
    exact (List.nodup_cons.mp distinct).1 member

theorem proportional_iff_due [DecidableEq α] (distinct : (first :: rest).Nodup)
    (positive : ∀ worker ∈ first :: rest, 1 ≤ weight worker)
    (fits : totalWeight weight (first :: rest) < 2 ^ 31) (start : Int32) :
    Proportional weight (first :: rest) start ↔
      ∀ step < (totalWeight weight (first :: rest)).toNat, Negative start step →
        dueShare weight (first :: rest) start step = some first := by
  have small {step : Nat} (member : step ∈ List.range (totalWeight weight (first :: rest)).toNat) :
      step < 2 ^ 31 := by
    rw [List.mem_range] at member
    omega
  have due := map_dueShare positive start
  have counts (worker : α) (member : worker ∈ first :: rest) :
      ((List.range (totalWeight weight (first :: rest)).toNat).map
        (dueShare weight (first :: rest) start)).count (some worker) = (weight worker).toNat := by
    rw [due, List.count_map_of_injective _ some (Option.some_injective α), (List.rotate_perm _ _).count_eq,
      count_shares distinct member]
  have owners (item : Option α) :
      item ∈ (List.range (totalWeight weight (first :: rest)).toNat).map (dueShare weight (first :: rest) start) ↔
        ∃ worker ∈ first :: rest, item = some worker := by
    rw [due, List.mem_map]
    constructor
    · rintro ⟨worker, member, rfl⟩
      obtain ⟨other, otherMember, copy⟩ := List.mem_flatMap.mp (List.mem_rotate.mp member)
      rw [List.eq_of_mem_replicate copy]
      exact ⟨other, otherMember, rfl⟩
    · rintro ⟨worker, member, rfl⟩
      have here := positive worker member
      refine ⟨worker, List.mem_rotate.mpr (List.mem_flatMap.mpr ⟨worker, member, ?_⟩), rfl⟩
      exact List.mem_replicate.mpr ⟨by omega, rfl⟩
  have replaced : List.Forall₂ (fun old new => new = old ∨ new = some first)
      ((List.range (totalWeight weight (first :: rest)).toNat).map (dueShare weight (first :: rest) start))
      (weightedCalls weight (first :: rest) (totalWeight weight (first :: rest)).toNat start) := by
    rw [weightedCalls_eq positive, List.forall₂_map_left_iff, List.forall₂_map_right_iff, List.forall₂_same]
    intro step member
    by_cases negative : Negative start step
    · exact .inr ((select_step positive (small member)).2 negative)
    · exact .inl ((select_step positive (small member)).1 negative)
  calc Proportional weight (first :: rest) start
      ↔ ∀ item ∈ (List.range (totalWeight weight (first :: rest)).toNat).map
            (dueShare weight (first :: rest) start),
          (weightedCalls weight (first :: rest) (totalWeight weight (first :: rest)).toNat start).count item =
            ((List.range (totalWeight weight (first :: rest)).toNat).map
              (dueShare weight (first :: rest) start)).count item := by
        constructor
        · intro proportional item member
          obtain ⟨worker, listed, rfl⟩ := (owners item).mp member
          rw [counts worker listed, proportional worker listed]
        · intro same worker listed
          rw [same _ ((owners _).mpr ⟨worker, listed, rfl⟩), counts worker listed]
    _ ↔ weightedCalls weight (first :: rest) (totalWeight weight (first :: rest)).toNat start =
          (List.range (totalWeight weight (first :: rest)).toNat).map (dueShare weight (first :: rest) start) :=
        count_eq_iff_of_replaced replaced
    _ ↔ ∀ step < (totalWeight weight (first :: rest)).toNat, Negative start step →
          dueShare weight (first :: rest) start step = some first := by
        rw [weightedCalls_eq positive, List.map_inj_left]
        refine forall_congr' fun step => ?_
        rw [List.mem_range]
        refine imp_congr_right fun inside => ?_
        have chosen := @select_step _ _ _ _ positive start _ (small (List.mem_range.mpr inside))
        by_cases negative : Negative start step
        · rw [chosen.2 negative, eq_comm]
          exact ⟨fun same _ => same, fun same => same negative⟩
        · rw [chosen.1 negative]
          exact ⟨fun _ wrapped => absurd wrapped negative, fun _ => rfl⟩

/-- Weighted round robin is proportional exactly if there is one worker, or the
counter starts non-negative and the calls after it wraps around would have
selected the first worker anyway. -/
theorem weighted_round_robin_proportional_iff [DecidableEq α] (weight : α → Int) (first : α) (rest : List α)
    (distinct : (first :: rest).Nodup) (positive : ∀ worker ∈ first :: rest, 1 ≤ weight worker)
    (fits : totalWeight weight (first :: rest) < 2 ^ 31) (start : Int32) :
    Proportional weight (first :: rest) start ↔
      rest = [] ∨ (0 ≤ start.toInt ∧ ∀ step < (totalWeight weight (first :: rest)).toNat,
        2 ^ 31 ≤ start.toInt + step →
          (start.toInt + step) % totalWeight weight (first :: rest) < weight first) := by
  obtain ⟨least, total, alone⟩ := totalWeight_pos positive
  have here := positive first List.mem_cons_self
  have owned (step : Nat) : dueShare weight (first :: rest) start step = some first ↔
      (start.toInt + step) % totalWeight weight (first :: rest) < weight first := by
    have reduced := Int.emod_nonneg (start.toInt + step) (Int.ne_of_gt total)
    rw [dueShare, shares_getElem?_eq_first_iff distinct]
    omega
  rw [proportional_iff_due distinct positive fits]
  simp only [owned]
  constructor
  · intro due
    by_cases negative : start.toInt < 0
    · -- some call is due for the last share
      refine .inl (alone.mp ?_)
      have nonneg := Int.emod_nonneg (-1 - start.toInt) (Int.ne_of_gt total)
      have below := Int.emod_lt_of_pos (-1 - start.toInt) total
      have most : (-1 - start.toInt) % totalWeight weight (first :: rest) ≤ -1 - start.toInt := by
        have parts := Int.mul_ediv_add_emod (-1 - start.toInt) (totalWeight weight (first :: rest))
        have quotient := Int.ediv_nonneg (show 0 ≤ -1 - start.toInt by omega) (Int.le_of_lt total)
        have product := Int.mul_nonneg (Int.le_of_lt total) quotient
        omega
      have last := due ((-1 - start.toInt) % totalWeight weight (first :: rest)).toNat (by omega)
        (.inl (by omega))
      have remainder : (start.toInt + (-1 - start.toInt)) % totalWeight weight (first :: rest) =
          totalWeight weight (first :: rest) - 1 := by
        rw [← Int.add_emod_right, Int.emod_eq_of_lt (by omega) (by omega)]
        omega
      rw [Int.toNat_of_nonneg nonneg, Int.add_emod_emod, remainder] at last
      omega
    · exact .inr ⟨by omega, fun step inside wrapped => due step inside (.inr wrapped)⟩
  · rintro (none | ⟨nonneg, due⟩) step inside negative
    · rw [← alone.mpr none]
      exact Int.emod_lt_of_pos _ total
    · exact due step inside (negative.resolve_left (by omega))

end Calls

end Weighted

theorem two_shares_to_one :
    Proportional (fun ref : Nat => if ref = 0 then 2 else 1) [0, 1] 5 :=
  (weighted_round_robin_proportional_iff _ 0 [1] (by decide) (by decide) (by decide) 5).mpr
    (.inr ⟨by decide, by decide⟩)

/-- Two workers with equal weights: once the counter is negative, the first
one gets every task. -/
theorem negative_counter_starves_second :
    weightedCalls (fun _ : Nat => 1) [0, 1] 2 (-2) = [some 0, some 0] ∧
      ¬ Proportional (fun _ : Nat => 1) [0, 1] (-2) := by
  have calls : weightedCalls (fun _ : Nat => 1) [0, 1] 2 (-2) = [some 0, some 0] := by decide
  refine ⟨calls, fun proportional => ?_⟩
  have second := proportional 1 (by decide)
  have total : (totalWeight (fun _ : Nat => 1) [0, 1]).toNat = 2 := by decide
  rw [total, calls] at second
  exact absurd second (by decide)

end TaskHive.LoadBalancer
