import Mathlib.Data.List.Count
import Mathlib.Data.List.Nodup
import Mathlib.Data.List.Perm.Basic
import Mathlib.Logic.Function.Basic

namespace TaskHive

/-! # Custody of tokens

A system moves tokens between places.  Custody says that every issued token is
in exactly one place, once, and that no other token is anywhere.  A step of the
system issues tokens, moves one token, or leaves all places alone; each rule
needs to know only the places that the step touches. -/

section Custody

variable {Place : Type u} {Token : Type v} [DecidableEq Token]

def HeldOnce (holds : Place → List Token) (token : Token) (place : Place) : Prop :=
  (holds place).count token = 1 ∧ ∀ other, other ≠ place → token ∉ holds other

structure Custody (holds : Place → List Token) (issued : Token → Prop) : Prop where
  held : ∀ token, issued token → ∃ place, HeldOnce holds token place
  absent : ∀ token, ¬ issued token → ∀ place, token ∉ holds place

variable {holds after : Place → List Token} {issued : Token → Prop}

/-- Of places that are numbered, only the one at the changed number changes. -/
theorem update_apart {ι : Type w} {β : Type x} [DecidableEq ι] {place : ι → Place} {number other : ι}
    (apart : place other ≠ place number) (family : ι → β) (value : β) :
    Function.update family number value other = family other :=
  Function.update_of_ne (fun same => apart (congrArg place same)) value family

/-- A view of a family that does not see the change. -/
theorem update_view {ι : Type w} {β : Type x} {γ : Type y} [DecidableEq ι] {family : ι → β} {number : ι} {value : β}
    (view : β → γ) (same : view value = view (family number)) (other : ι) :
    view (Function.update family number value other) = view (family other) := by
  by_cases here : other = number
  · subst other
    rw [Function.update_self, same]
  · rw [Function.update_of_ne here]

theorem HeldOnce.mem {token : Token} {place : Place} (held : HeldOnce holds token place) :
    token ∈ holds place :=
  List.count_pos_iff.mp (by rw [held.1]; exact Nat.one_pos)

theorem HeldOnce.unique {token : Token} {place other : Place} (held : HeldOnce holds token place)
    (found : token ∈ holds other) : other = place := by
  by_contra different
  exact held.2 other different found

/-- The place without the token has everything else that it had. -/
theorem HeldOnce.perm_filter {token : Token} {place : Place} (held : HeldOnce holds token place) :
    (holds place).Perm (token :: (holds place).filter fun other => other ≠ token) := by
  refine List.perm_iff_count.mpr fun other => ?_
  by_cases same : other = token
  · subst other
    rw [held.1, List.count_cons_self, List.count_eq_zero_of_not_mem (by simp)]
  · rw [List.count_cons_of_ne (Ne.symm same), List.count_filter (by simpa using same)]

theorem Custody.issued_of_mem (custody : Custody holds issued) {token : Token} (place : Place)
    (found : token ∈ holds place) : issued token := by
  by_contra unknown
  exact custody.absent token unknown place found

/-- A token that is found somewhere is held there and nowhere else. -/
theorem Custody.heldOnce_of_mem (custody : Custody holds issued) {token : Token} (place : Place)
    (found : token ∈ holds place) : HeldOnce holds token place := by
  obtain ⟨home, held⟩ := custody.held token (custody.issued_of_mem place found)
  cases held.unique found
  exact held

/-- When only one place is left with tokens, it has every issued token once. -/
theorem Custody.count_of_last (custody : Custody holds issued) (last : Place)
    (empty : ∀ place, place ≠ last → holds place = []) {token : Token} (known : issued token) :
    (holds last).count token = 1 := by
  obtain ⟨place, held⟩ := custody.held token known
  by_cases same : place = last
  · subst place
    exact held.1
  · have found := held.mem
    rw [empty place same] at found
    cases found

theorem Custody.empty (none : ∀ place, holds place = []) (unissued : ∀ token, ¬ issued token) :
    Custody holds issued where
  held token known := absurd known (unissued token)
  absent token _ place := by simp [none place]

theorem Custody.congr (custody : Custody holds issued) {known : Token → Prop}
    (same : ∀ token, known token ↔ issued token) : Custody holds known where
  held token member := custody.held token ((same token).mp member)
  absent token unknown := custody.absent token fun member => unknown ((same token).mpr member)

theorem Custody.rearrange (custody : Custody holds issued) (same : ∀ place, (after place).Perm (holds place)) :
    Custody after issued where
  held token known := by
    obtain ⟨place, held⟩ := custody.held token known
    refine ⟨place, ?_, ?_⟩
    · rw [(same place).count_eq, held.1]
    · intro other different found
      exact held.2 other different ((same other).mem_iff.mp found)
  absent token unknown place found := custody.absent token unknown place ((same place).mem_iff.mp found)

/-- New tokens appear at one place. -/
theorem Custody.issueAll (custody : Custody holds issued) (tokens : List Token) (target : Place)
    (distinct : tokens.Nodup) (new : ∀ token ∈ tokens, ¬ issued token)
    (gained : (after target).Perm (holds target ++ tokens))
    (others : ∀ place, place ≠ target → (after place).Perm (holds place)) :
    Custody after (fun other => other ∈ tokens ∨ issued other) := by
  -- a token that is not new keeps its count everywhere
  have kept (other : Token) (old : other ∉ tokens) (place : Place) :
      (after place).count other = (holds place).count other := by
    by_cases same : place = target
    · subst place
      rw [gained.count_eq, List.count_append, List.count_eq_zero_of_not_mem old, Nat.add_zero]
    · rw [(others place same).count_eq]
  have keptMem (other : Token) (old : other ∉ tokens) (place : Place) :
      other ∈ after place ↔ other ∈ holds place := by
    rw [← List.count_pos_iff, ← List.count_pos_iff, kept other old place]
  refine ⟨?_, ?_⟩
  · intro other known
    by_cases fresh : other ∈ tokens
    · have unheld := custody.absent other (new other fresh)
      refine ⟨target, ?_, ?_⟩
      · rw [gained.count_eq, List.count_append, List.count_eq_zero_of_not_mem (unheld target),
          List.count_eq_one_of_mem distinct fresh]
      · intro place different found
        exact unheld place ((others place different).mem_iff.mp found)
    · obtain ⟨place, held⟩ := custody.held other (known.resolve_left fresh)
      refine ⟨place, by rw [kept other fresh place, held.1], ?_⟩
      intro elsewhere different found
      exact held.2 elsewhere different ((keptMem other fresh elsewhere).mp found)
  · intro other unknown place found
    obtain ⟨old, unissued⟩ := not_or.mp unknown
    exact custody.absent other unissued place ((keptMem other old place).mp found)

theorem Custody.issue (custody : Custody holds issued) (token : Token) (target : Place)
    (new : ¬ issued token) (gained : (after target).Perm (token :: holds target))
    (others : ∀ place, place ≠ target → (after place).Perm (holds place)) :
    Custody after (fun other => other = token ∨ issued other) := by
  refine (custody.issueAll [token] target (List.nodup_singleton token) ?_ ?_ others).congr ?_
  · intro other member
    rwa [List.mem_singleton.mp member]
  · exact gained.trans (List.perm_append_singleton token (holds target)).symm
  · intro other
    rw [List.mem_singleton]

/-- One token moves from one place to another. -/
theorem Custody.move (custody : Custody holds issued) (token : Token) (source target : Place)
    (apart : source ≠ target) (lost : (holds source).Perm (token :: after source))
    (gained : (after target).Perm (token :: holds target))
    (others : ∀ place, place ≠ source → place ≠ target → (after place).Perm (holds place)) :
    Custody after issued := by
  have home : HeldOnce holds token source := custody.heldOnce_of_mem source (lost.mem_iff.mpr (by simp))
  have sourceLeft : token ∉ after source := by
    have count := home.1
    rw [lost.count_eq, List.count_cons_self] at count
    exact List.count_eq_zero.mp (by omega)
  -- every other token keeps its count everywhere
  have kept (other : Token) (distinct : other ≠ token) (place : Place) :
      (after place).count other = (holds place).count other := by
    by_cases atSource : place = source
    · subst place
      rw [lost.count_eq, List.count_cons_of_ne (Ne.symm distinct)]
    · by_cases atTarget : place = target
      · subst place
        rw [gained.count_eq, List.count_cons_of_ne (Ne.symm distinct)]
      · rw [(others place atSource atTarget).count_eq]
  have keptMem (other : Token) (distinct : other ≠ token) (place : Place) :
      other ∈ after place ↔ other ∈ holds place := by
    rw [← List.count_pos_iff, ← List.count_pos_iff, kept other distinct place]
  refine ⟨?_, ?_⟩
  · intro other known
    by_cases same : other = token
    · subst other
      refine ⟨target, ?_, ?_⟩
      · rw [gained.count_eq, List.count_cons_self,
          List.count_eq_zero_of_not_mem (home.2 target (Ne.symm apart))]
      · intro place different found
        by_cases atSource : place = source
        · subst place
          exact sourceLeft found
        · exact home.2 place atSource ((others place atSource different).mem_iff.mp found)
    · obtain ⟨place, held⟩ := custody.held other known
      refine ⟨place, by rw [kept other same place, held.1], ?_⟩
      intro elsewhere different found
      exact held.2 elsewhere different ((keptMem other same elsewhere).mp found)
  · intro other unknown place found
    have distinct : other ≠ token := by
      rintro rfl
      exact unknown (custody.issued_of_mem source home.mem)
    exact custody.absent other unknown place ((keptMem other distinct place).mp found)

/-- Tokens are lost; those that are left are the ones issued. -/
theorem Custody.fewer (custody : Custody holds issued) (fewer : ∀ place, (after place).Subperm (holds place)) :
    Custody after (fun token => ∃ place, token ∈ after place) where
  held token present := by
    obtain ⟨place, found⟩ := present
    have held := custody.heldOnce_of_mem place ((fewer place).subset found)
    refine ⟨place, ?_, ?_⟩
    · have most := (fewer place).count_le token
      have least := List.count_pos_iff.mpr found
      rw [held.1] at most
      omega
    · intro other different there
      exact held.2 other different ((fewer other).subset there)
  absent token missing place found := missing ⟨place, found⟩

theorem Custody.nodup (custody : Custody holds issued) (place : Place) : (holds place).Nodup := by
  refine List.nodup_iff_count_le_one.mpr fun token => ?_
  by_cases found : token ∈ holds place
  · exact Nat.le_of_eq (custody.heldOnce_of_mem place found).1
  · rw [List.count_eq_zero_of_not_mem found]
    exact Nat.zero_le 1

end Custody

/-! # Families of queues

What holds of everything that an indexed family of queues contains. -/

section Everywhere

variable {ι : Type u} {α : Type v} {property : ι → α → Prop} {queues : ι → List α}

def Everywhere (property : ι → α → Prop) (queues : ι → List α) : Prop :=
  ∀ index, ∀ item ∈ queues index, property index item

theorem forall_mem_concat {property : α → Prop} {items : List α} {item : α}
    (holds : ∀ other ∈ items, property other) (fits : property item) :
    ∀ other ∈ items ++ [item], property other := by
  intro other member
  rcases List.mem_append.mp member with old | new
  · exact holds other old
  · rwa [List.mem_singleton.mp new]

theorem Everywhere.mono {weaker : ι → α → Prop} (holds : Everywhere property queues)
    (implied : ∀ index item, property index item → weaker index item) : Everywhere weaker queues :=
  fun index item member => implied index item (holds index item member)

/-- One state of a family is replaced; `view` reads a queue off each state. -/
theorem Everywhere.updateView {σ : Type w} [DecidableEq ι] {states : ι → σ} {view : σ → List α}
    (holds : Everywhere property fun index => view (states index)) (index : ι) {state : σ}
    (replaced : ∀ item ∈ view state, property index item) :
    Everywhere property fun other => view (Function.update states index state other) := by
  intro other item member
  by_cases same : other = index
  · subst other
    simp only [Function.update_self] at member
    exact replaced item member
  · simp only [Function.update_of_ne same] at member
    exact holds other item member

theorem Everywhere.update [DecidableEq ι] (holds : Everywhere property queues) (index : ι)
    {queue : List α} (replaced : ∀ item ∈ queue, property index item) :
    Everywhere property (Function.update queues index queue) :=
  @Everywhere.updateView _ _ _ _ _ queues id holds index _ replaced

theorem Everywhere.push [DecidableEq ι] (holds : Everywhere property queues) (index : ι) {item : α}
    (fits : property index item) :
    Everywhere property (Function.update queues index (queues index ++ [item])) :=
  holds.update index (forall_mem_concat (holds index) fits)

theorem Everywhere.shrink [DecidableEq ι] (holds : Everywhere property queues) (index : ι)
    {queue : List α} (fewer : queue ⊆ queues index) :
    Everywhere property (Function.update queues index queue) :=
  holds.update index fun item member => holds index item (fewer member)

end Everywhere

end TaskHive
