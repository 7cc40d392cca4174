import Mathlib.Algebra.Ring.Nat
import Mathlib.Data.List.Basic
import Mathlib.Order.Lattice

namespace TaskHive

/-! # Maps with ordered keys

A map is the list of its entries in the order of their keys.  Apart from
insertion and lookup it has `lowerBound`, the first entry at or behind a point,
`successor`, which goes round to the first entry when there is none, and
`walk`, an iteration that may insert into the map under its own iterator. -/

structure OrderedMap (κ : Type u) (α : Type v) [LinearOrder κ] where
  entries : List (κ × α)
  sorted : entries.Pairwise fun left right => left.1 < right.1

namespace OrderedMap

variable {κ : Type u} {α : Type v} [LinearOrder κ]

def empty : OrderedMap κ α where
  entries := []
  sorted := .nil

def insertEntry (key : κ) (value : α) : List (κ × α) → List (κ × α)
  | [] => [(key, value)]
  | entry :: rest =>
      if key < entry.1 then (key, value) :: entry :: rest
      else if key = entry.1 then (key, value) :: rest
      else entry :: insertEntry key value rest

theorem mem_insertEntry {key : κ} {value : α} {entries : List (κ × α)} {entry : κ × α}
    (member : entry ∈ insertEntry key value entries) : entry = (key, value) ∨ entry ∈ entries := by
  induction entries with
  | nil => exact .inl (List.mem_singleton.mp member)
  | cons first rest ih =>
      simp only [insertEntry] at member
      split at member
      · exact List.mem_cons.mp member
      · split at member
        · exact (List.mem_cons.mp member).imp_right (List.mem_cons_of_mem first)
        · rcases List.mem_cons.mp member with rfl | later
          · exact .inr List.mem_cons_self
          · exact (ih later).imp_right (List.mem_cons_of_mem first)

theorem sorted_insertEntry (key : κ) (value : α) {entries : List (κ × α)}
    (sorted : entries.Pairwise fun left right => left.1 < right.1) :
    (insertEntry key value entries).Pairwise fun left right => left.1 < right.1 := by
  induction entries with
  | nil => exact List.pairwise_singleton _ _
  | cons first rest ih =>
      obtain ⟨smaller, sortedRest⟩ := List.pairwise_cons.mp sorted
      simp only [insertEntry]
      split
      · rename_i before
        refine List.pairwise_cons.mpr ⟨fun entry member => ?_, sorted⟩
        rcases List.mem_cons.mp member with rfl | later
        · exact before
        · exact lt_trans before (smaller entry later)
      · rename_i notBefore
        split
        · rename_i same
          subst same
          exact List.pairwise_cons.mpr ⟨smaller, sortedRest⟩
        · rename_i different
          refine List.pairwise_cons.mpr ⟨fun entry member => ?_, ih sortedRest⟩
          rcases mem_insertEntry member with rfl | later
          · exact lt_of_le_of_ne (not_lt.mp notBefore) (Ne.symm different)
          · exact smaller entry later

/-- `map[key] = value` -/
def insert (map : OrderedMap κ α) (key : κ) (value : α) : OrderedMap κ α where
  entries := insertEntry key value map.entries
  sorted := sorted_insertEntry key value map.sorted

def insertAll (map : OrderedMap κ α) (pairs : List (κ × α)) : OrderedMap κ α :=
  pairs.foldl (fun map pair => map.insert pair.1 pair.2) map

def get? (map : OrderedMap κ α) (key : κ) : Option α := map.entries.lookup key

def lowerBound (map : OrderedMap κ α) (point : κ) : Option (κ × α) :=
  map.entries.find? fun entry => point ≤ entry.1

def successor (map : OrderedMap κ α) (point : κ) : Option (κ × α) :=
  (map.lowerBound point).or map.entries.head?

variable {map : OrderedMap κ α}

/-! ## Lookup -/

theorem lookup_cons_ite (entry : κ × α) (rest : List (κ × α)) (key : κ) :
    (entry :: rest).lookup key = if key = entry.1 then some entry.2 else rest.lookup key := by
  rw [List.lookup_cons]
  by_cases same : key = entry.1
  · simp [same]
  · rw [if_neg same, beq_false_of_ne same]

theorem lookup_insertEntry (key : κ) (value : α) (entries : List (κ × α)) (other : κ) :
    (insertEntry key value entries).lookup other = if other = key then some value else entries.lookup other := by
  induction entries with
  | nil => exact lookup_cons_ite (key, value) [] other
  | cons first rest ih =>
      simp only [insertEntry]
      split
      · exact lookup_cons_ite (key, value) (first :: rest) other
      · split
        · rename_i equal
          rw [lookup_cons_ite, lookup_cons_ite, ← equal]
          by_cases same : other = key
          · rw [if_pos same, if_pos same]
          · rw [if_neg same, if_neg same, if_neg same]
        · rename_i different
          rw [lookup_cons_ite, lookup_cons_ite, ih]
          by_cases atFirst : other = first.1
          · have elsewhere : other ≠ key := fun same => different (same.symm.trans atFirst)
            rw [if_pos atFirst, if_neg elsewhere, if_pos atFirst]
          · rw [if_neg atFirst, if_neg atFirst]

theorem get?_insert (map : OrderedMap κ α) (key : κ) (value : α) (other : κ) :
    (map.insert key value).get? other = if other = key then some value else map.get? other :=
  lookup_insertEntry key value map.entries other

/-- The last pair with a key wins. -/
theorem get?_insertAll (map : OrderedMap κ α) (pairs : List (κ × α)) (key : κ) :
    (map.insertAll pairs).get? key = (pairs.reverse.lookup key).or (map.get? key) := by
  induction pairs generalizing map with
  | nil => rfl
  | cons pair rest ih =>
      rw [insertAll, List.foldl_cons, ← insertAll, ih, get?_insert, List.reverse_cons, List.lookup_append,
        Option.or_assoc, lookup_cons_ite]
      by_cases same : key = pair.1
      · rw [if_pos same, if_pos same, Option.some_or]
      · rw [if_neg same, if_neg same]
        rfl

theorem lookup_eq_some_iff_mem {entries : List (κ × α)}
    (sorted : entries.Pairwise fun left right => left.1 < right.1) {key : κ} {value : α} :
    entries.lookup key = some value ↔ (key, value) ∈ entries := by
  induction entries with
  | nil => simp
  | cons first rest ih =>
      obtain ⟨smaller, sortedRest⟩ := List.pairwise_cons.mp sorted
      rw [lookup_cons_ite, List.mem_cons]
      by_cases same : key = first.1
      · have absent : (key, value) ∉ rest := by
          intro later
          exact absurd (smaller _ later) (by rw [same]; exact lt_irrefl first.1)
        rw [if_pos same, or_iff_left absent, Option.some.injEq, Prod.ext_iff]
        exact ⟨fun equal => ⟨same, equal.symm⟩, fun equal => equal.2.symm⟩
      · have apart : (key, value) ≠ first := by
          rintro rfl
          exact same rfl
        rw [if_neg same, ih sortedRest, or_iff_right apart]

theorem get?_eq_some_iff {key : κ} {value : α} : map.get? key = some value ↔ (key, value) ∈ map.entries :=
  lookup_eq_some_iff_mem map.sorted

theorem entries_eq_nil_iff : map.entries = [] ↔ ∀ key, map.get? key = none := by
  constructor
  · intro empty key
    rw [get?, empty]
    rfl
  · intro absent
    refine List.eq_nil_iff_forall_not_mem.mpr fun entry member => ?_
    have found := get?_eq_some_iff.mpr member
    rw [absent entry.1] at found
    cases found

/-! ## Successor -/

/-- Going round from the point, the key comes first. -/
def Precedes (point key other : κ) : Prop :=
  if point ≤ key then point ≤ other → key ≤ other else other < point ∧ key ≤ other

theorem successor_eq_none_iff {point : κ} : map.successor point = none ↔ map.entries = [] := by
  rw [successor, Option.or_eq_none_iff, List.head?_eq_none_iff, lowerBound]
  constructor
  · exact fun none => none.2
  · intro nil
    simp [nil]

theorem find?_ge_eq_some {entries : List (κ × α)}
    (sorted : entries.Pairwise fun left right => left.1 < right.1) {point key : κ} {value : α}
    (found : entries.find? (fun entry => point ≤ entry.1) = some (key, value)) :
    (key, value) ∈ entries ∧ point ≤ key ∧ ∀ entry ∈ entries, point ≤ entry.1 → key ≤ entry.1 := by
  refine ⟨List.mem_of_find?_eq_some found, by simpa using List.find?_some found, ?_⟩
  induction entries with
  | nil => cases found
  | cons first rest ih =>
      obtain ⟨smaller, sortedRest⟩ := List.pairwise_cons.mp sorted
      rw [List.find?_cons] at found
      split at found
      · cases found
        intro entry member _
        rcases List.mem_cons.mp member with rfl | later
        · exact le_refl _
        · exact le_of_lt (smaller entry later)
      · rename_i before
        intro entry member behind
        rcases List.mem_cons.mp member with rfl | later
        · simp [behind] at before
        · exact ih sortedRest found entry later behind

theorem head_le {entries : List (κ × α)} (sorted : entries.Pairwise fun left right => left.1 < right.1)
    {first : κ × α} (found : entries.head? = some first) : ∀ entry ∈ entries, first.1 ≤ entry.1 := by
  cases entries with
  | nil => cases found
  | cons head rest =>
      cases found
      intro entry member
      rcases List.mem_cons.mp member with rfl | later
      · exact le_refl _
      · exact le_of_lt ((List.pairwise_cons.mp sorted).1 entry later)

/-- The successor is an entry that comes first. -/
theorem successor_spec {point key : κ} {value : α} (found : map.successor point = some (key, value)) :
    (key, value) ∈ map.entries ∧ ∀ entry ∈ map.entries, Precedes point key entry.1 := by
  rw [successor] at found
  cases bound : map.lowerBound point with
  | some entry =>
      rw [bound, Option.some_or] at found
      cases found
      obtain ⟨member, behind, first⟩ := find?_ge_eq_some map.sorted bound
      refine ⟨member, fun entry other => ?_⟩
      rw [Precedes, if_pos behind]
      exact first entry other
  | none =>
      rw [bound, Option.none_or] at found
      have before (entry : κ × α) (member : entry ∈ map.entries) : entry.1 < point := by
        have missed := List.find?_eq_none.mp bound entry member
        simpa using missed
      have member := List.mem_of_mem_head? found
      refine ⟨member, fun entry other => ?_⟩
      rw [Precedes, if_neg (not_le.mpr (before _ member))]
      exact ⟨before entry other, head_le map.sorted found entry other⟩

theorem Precedes.antisymm {point key other : κ} (first : Precedes point key other)
    (second : Precedes point other key) : key = other := by
  unfold Precedes at first second
  by_cases keyBehind : point ≤ key
  · rw [if_pos keyBehind] at first
    by_cases otherBehind : point ≤ other
    · rw [if_pos otherBehind] at second
      exact le_antisymm (first otherBehind) (second keyBehind)
    · rw [if_neg otherBehind] at second
      exact absurd keyBehind (not_le.mpr second.1)
  · rw [if_neg keyBehind] at first
    rw [if_neg (not_le.mpr first.1)] at second
    exact le_antisymm first.2 second.2

theorem successor_eq_some_iff {point key : κ} {value : α} :
    map.successor point = some (key, value) ↔
      (key, value) ∈ map.entries ∧ ∀ entry ∈ map.entries, Precedes point key entry.1 := by
  refine ⟨successor_spec, fun ⟨member, first⟩ => ?_⟩
  cases found : map.successor point with
  | none =>
      rw [successor_eq_none_iff.mp found] at member
      cases member
  | some entry =>
      obtain ⟨otherMember, otherFirst⟩ := successor_spec (show _ = some (entry.1, entry.2) from found)
      have same : key = entry.1 := (first _ otherMember).antisymm (otherFirst _ member)
      have values : some entry.2 = some value := by
        rw [← get?_eq_some_iff.mpr otherMember, ← same, get?_eq_some_iff.mpr member]
      cases values
      rw [same]

/-- One value takes over some keys, new or old: every point keeps its
successor or gets the value. -/
theorem successor_of_takeover {before after : OrderedMap κ α} {value : α}
    (takeover : ∀ key, after.get? key = before.get? key ∨ after.get? key = some value) (point : κ) :
    (after.successor point).map Prod.snd = some value ∨ after.successor point = before.successor point := by
  cases found : after.successor point with
  | none =>
      refine .inr ?_
      have empty := entries_eq_nil_iff.mp (successor_eq_none_iff.mp found)
      rw [eq_comm, successor_eq_none_iff, entries_eq_nil_iff]
      intro key
      rcases takeover key with same | taken
      · rw [← same, empty key]
      · rw [empty key] at taken
        cases taken
  | some entry =>
      obtain ⟨key, owner⟩ := entry
      obtain ⟨member, first⟩ := successor_spec found
      rcases takeover key with same | taken
      · refine .inr (eq_comm.mp (successor_eq_some_iff.mpr ⟨?_, fun other old => ?_⟩))
        · rw [← get?_eq_some_iff, ← same]
          exact get?_eq_some_iff.mpr member
        · -- the keys that were there before are still there
          rcases takeover other.1 with kept | taken
          · refine first other (get?_eq_some_iff.mp ?_)
            rw [kept]
            exact get?_eq_some_iff.mpr old
          · exact first (other.1, value) (get?_eq_some_iff.mp taken)
      · rw [get?_eq_some_iff.mpr member] at taken
        exact .inl taken

/-- Pairs with one value, inserted among others, take over some keys. -/
theorem get?_insertAll_middle (map : OrderedMap κ α) (earlier middle later : List (κ × α)) {value : α}
    (same : ∀ pair ∈ middle, pair.2 = value) (key : κ) :
    (map.insertAll (earlier ++ middle ++ later)).get? key = (map.insertAll (earlier ++ later)).get? key ∨
      (map.insertAll (earlier ++ middle ++ later)).get? key = some value := by
  simp only [get?_insertAll, List.reverse_append, List.lookup_append]
  cases later.reverse.lookup key with
  | some last => exact .inl rfl
  | none =>
      cases found : middle.reverse.lookup key with
      | none => exact .inl rfl
      | some owner =>
          obtain ⟨_, _, split, _⟩ := List.lookup_eq_some_iff.mp found
          have member : (key, owner) ∈ middle := List.mem_reverse.mp (by rw [split]; simp)
          have owned : owner = value := same _ member
          rw [owned]
          exact .inr rfl

/-! ## Walking a map that grows -/

def after (map : OrderedMap κ α) (point : κ) : List (κ × α) :=
  map.entries.filter fun entry => point < entry.1

/-- An iteration over the entries.  A visit may insert entries; the iterator
stays at its entry and comes to those that lie behind it. -/
def walk {σ : Type w} {ε : Type x} (visit : OrderedMap κ α → σ → α → Except ε (OrderedMap κ α × σ)) :
    Nat → OrderedMap κ α → Option (κ × α) → σ → Option (Except ε σ)
  | _, _, none, state => some (.ok state)
  | 0, _, some _, _ => none
  | fuel + 1, map, some (key, item), state =>
      match visit map state item with
      | .error what => some (.error what)
      | .ok (map, state) => walk visit fuel map (map.after key).head? state

theorem filter_lt_of_filter_eq_cons {entries : List (κ × α)}
    (sorted : entries.Pairwise fun left right => left.1 < right.1) {point : κ} {entry : κ × α} {rest : List (κ × α)}
    (ahead : (entries.filter fun entry => point < entry.1) = entry :: rest) :
    (entries.filter fun other => entry.1 < other.1) = rest := by
  induction entries with
  | nil => cases ahead
  | cons first tail ih =>
      obtain ⟨smaller, sortedTail⟩ := List.pairwise_cons.mp sorted
      by_cases behind : point < first.1
      · have all (bound : κ) (low : bound ≤ first.1) : (tail.filter fun other => bound < other.1) = tail := by
          refine List.filter_eq_self.mpr fun other member => ?_
          simpa using lt_of_le_of_lt low (smaller other member)
        rw [List.filter_cons_of_pos (by simpa using behind), all point (le_of_lt behind)] at ahead
        obtain ⟨same, rfl⟩ := List.cons.inj ahead
        rw [← same, List.filter_cons_of_neg (by simp), all first.1 (le_refl _)]
      · rw [List.filter_cons_of_neg (by simpa using behind)] at ahead
        have member : entry ∈ tail.filter fun entry => point < entry.1 := by rw [ahead]; exact List.mem_cons_self
        have later : first.1 < entry.1 := smaller entry (List.mem_filter.mp member).1
        rw [List.filter_cons_of_neg (by simpa using le_of_lt later)]
        exact ih sortedTail ahead

theorem after_of_after_eq_cons {point : κ} {entry : κ × α} {rest : List (κ × α)}
    (ahead : map.after point = entry :: rest) : map.after entry.1 = rest :=
  filter_lt_of_filter_eq_cons map.sorted ahead

theorem after_head {entry : κ × α} {rest : List (κ × α)} (whole : map.entries = entry :: rest) :
    map.after entry.1 = rest := by
  have sorted := map.sorted
  rw [whole] at sorted
  rw [after, whole, List.filter_cons_of_neg (by simp)]
  refine List.filter_eq_self.mpr fun other member => ?_
  simpa using (List.pairwise_cons.mp sorted).1 other member

theorem perm_insertEntry {key : κ} {value : α} {entries : List (κ × α)} (absent : entries.lookup key = none) :
    (insertEntry key value entries).Perm ((key, value) :: entries) := by
  induction entries with
  | nil => exact .refl _
  | cons first rest ih =>
      rw [lookup_cons_ite] at absent
      have different : key ≠ first.1 := fun same => by simp [same] at absent
      rw [if_neg different] at absent
      simp only [insertEntry, if_neg different]
      split
      · exact .refl _
      · exact ((ih absent).cons first).trans (.swap _ _ _)

/-- What the entries cost together. -/
def total (weight : α → Nat) (entries : List (κ × α)) : Nat :=
  (entries.map fun entry => weight entry.2).sum

theorem total_after_insert (weight : α → Nat) {key : κ} (value : α) (absent : map.get? key = none) (point : κ) :
    total weight ((map.insert key value).after point) =
      (if point < key then weight value else 0) + total weight (map.after point) := by
  have inserted : (insertEntry key value map.entries).Perm ((key, value) :: map.entries) := perm_insertEntry absent
  have summed := ((inserted.filter fun entry => point < entry.1).map fun entry => weight entry.2).sum_nat
  rw [total, after, insert, summed]
  by_cases behind : point < key <;> simp [behind, total, after]

/-- What is left of a walk. -/
def cost (weight : α → Nat) (map : OrderedMap κ α) : Option (κ × α) → Nat
  | none => 0
  | some (key, item) => weight item + total weight (map.after key)

theorem cost_head (weight : α → Nat) (map : OrderedMap κ α) :
    cost weight map map.entries.head? = total weight map.entries := by
  cases whole : map.entries with
  | nil => rfl
  | cons entry rest => rw [List.head?_cons, cost, after_head whole]; rfl

theorem cost_next (weight : α → Nat) (map : OrderedMap κ α) (point : κ) :
    cost weight map (map.after point).head? = total weight (map.after point) := by
  cases ahead : map.after point with
  | nil => rfl
  | cons entry rest => rw [List.head?_cons, cost, after_of_after_eq_cons ahead]; rfl

/-- A walk whose visits all succeed and are paid by the weight of the entry
they visit ends, with every property that a visit preserves. -/
theorem walk_ends {σ : Type w} {ε : Type x} {visit : OrderedMap κ α → σ → α → Except ε (OrderedMap κ α × σ)}
    (weight : α → Nat) {property : OrderedMap κ α → σ → Prop}
    (visits : ∀ map state key item, property map state → (key, item) ∈ map.entries →
      ∃ nextMap nextState, visit map state item = .ok (nextMap, nextState) ∧ property nextMap nextState ∧
        total weight (nextMap.after key) < weight item + total weight (map.after key))
    {fuel : Nat} {map : OrderedMap κ α} {cursor : Option (κ × α)} {state : σ} (holds : property map state)
    (inside : ∀ entry ∈ cursor, entry ∈ map.entries) (enough : cost weight map cursor ≤ fuel) :
    ∃ finalMap finalState, walk visit fuel map cursor state = some (.ok finalState) ∧
      property finalMap finalState := by
  induction fuel generalizing map cursor state with
  | zero =>
      cases cursor with
      | none => exact ⟨map, state, rfl, holds⟩
      | some entry =>
          obtain ⟨_, _, _, _, paid⟩ := visits map state entry.1 entry.2 holds (inside entry rfl)
          simp only [cost] at enough
          omega
  | succ fuel ih =>
      cases cursor with
      | none => exact ⟨map, state, rfl, holds⟩
      | some entry =>
          obtain ⟨nextMap, nextState, visited, kept, paid⟩ :=
            visits map state entry.1 entry.2 holds (inside entry rfl)
          simp only [cost] at enough
          simp only [walk, visited]
          refine ih kept ?_ ?_
          · intro next found
            exact (List.mem_filter.mp (List.mem_of_mem_head? found)).1
          · rw [cost_next]
            omega

end OrderedMap

end TaskHive
