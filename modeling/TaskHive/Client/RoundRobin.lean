import TaskHive.Client.NodeTable
import TaskHive.Cycle

namespace TaskHive.Client

open TaskHive.Wire

/-! # Round robin while the table changes

The table thread inserts entries and sweeps the table between the calls of
`round_robin_load_balance`, and the index stays whatever the last call left. -/

/-! ## The stored index -/

/-- The index as the source computes it: the sum is an `int`, `size()` makes
the remainder unsigned, and the result is stored as an `int` again. -/
def storedIndex (index : Int) (size : Nat) : Int :=
  Int.bmod (Int.bmod (index + 1) (2 ^ 32) % 2 ^ 64 % size) (2 ^ 32)

/-- Any index at all is brought back into a table that an `int` can count. -/
theorem storedIndex_inside (index : Int) {size : Nat} (nonempty : 0 < size) (small : size ≤ 2 ^ 31) :
    0 ≤ storedIndex index size ∧ storedIndex index size < size := by
  unfold storedIndex
  generalize Int.bmod (index + 1) (2 ^ 32) % 2 ^ 64 = sum
  have nonneg : 0 ≤ sum % size := Int.emod_nonneg sum (by omega)
  have below : sum % size < size := Int.emod_lt_of_pos sum (by omega)
  rw [Int.bmod_eq_of_le (by omega) (by omega)]
  exact ⟨nonneg, below⟩

/-- An index that a call stored is advanced exactly. -/
theorem storedIndex_eq {index size : Nat} (stored : index + 1 < 2 ^ 31) (nonempty : 0 < size)
    (small : size ≤ 2 ^ 31) : storedIndex index size = ((index + 1) % size : Nat) := by
  have sum : Int.bmod ((index : Int) + 1) (2 ^ 32) = index + 1 := Int.bmod_eq_of_le (by omega) (by omega)
  have unsigned : ((index : Int) + 1) % 2 ^ 64 = index + 1 := Int.emod_eq_of_lt (by omega) (by omega)
  have below := Nat.mod_lt (index + 1) nonempty
  rw [storedIndex, sum, unsigned, Int.natCast_emod, Int.natCast_add, Int.natCast_one]
  refine Int.bmod_eq_of_le ?_ ?_
  all_goals
    have cast : ((index : Int) + 1) % size = ((index + 1) % size : Nat) := by simp
    omega

/-! ## Calls -/

section Calls

variable {R : Type u}

/-- One call: the table it saw, the index it stored and what it returned. -/
structure RoundRobinCall (R : Type u) where
  table : NodeTable R
  index : Nat
  answer : Except String Host

def callRoundRobin (index : Nat) (table : NodeTable R) : RoundRobinCall R :=
  { table
    index := (roundRobinLoadBalance index table).2
    answer := (roundRobinLoadBalance index table).1 }

/-- Where `std::advance` leaves the iterator; `none` is past the end. -/
def RoundRobinCall.selected (call : RoundRobinCall R) : Option (Bytes × SchedulerNodeInfo R) :=
  call.table[call.index]?

theorem callRoundRobin_index {index : Nat} {table : NodeTable R} (nonempty : table ≠ []) :
    (callRoundRobin index table).index = (index + 1) % table.length := by
  simp [callRoundRobin, roundRobinLoadBalance, nonempty]

theorem callRoundRobin_answer {index : Nat} {table : NodeTable R} (nonempty : table ≠ []) :
    (callRoundRobin index table).answer = hostOf (callRoundRobin index table).selected := by
  simp [callRoundRobin, roundRobinLoadBalance, nonempty, RoundRobinCall.selected]

/-- Whatever the index was, the call returns an entry. -/
theorem callRoundRobin_selects (index : Nat) {table : NodeTable R} (nonempty : table ≠ []) :
    ∃ entry ∈ table, (callRoundRobin index table).selected = some entry ∧
      (callRoundRobin index table).answer = .ok entry.2.host := by
  have inside : (index + 1) % table.length < table.length :=
    Nat.mod_lt _ (List.length_pos_iff.mpr nonempty)
  have found : (callRoundRobin index table).selected = some (table.get ⟨_, inside⟩) := by
    rw [RoundRobinCall.selected, callRoundRobin_index nonempty]
    exact List.getElem?_eq_getElem inside
  refine ⟨table.get ⟨_, inside⟩, List.get_mem table _, found, ?_⟩
  rw [callRoundRobin_answer nonempty, found]
  rfl

/-- The arithmetic of the source on any `int` is a call from some index: from
the same one if that is not negative and can be increased. -/
theorem exists_callRoundRobin (index : Int) {table : NodeTable R} (nonempty : table ≠ [])
    (small : table.length < 2 ^ 31) :
    ∃ before : Nat, (0 ≤ index → index + 1 < 2 ^ 31 → (before : Int) = index) ∧
      ((callRoundRobin before table).index : Int) = storedIndex index table.length := by
  have entries : 0 < table.length := List.length_pos_iff.mpr nonempty
  by_cases exactly : 0 ≤ index ∧ index + 1 < 2 ^ 31
  · obtain ⟨before, rfl⟩ := Int.eq_ofNat_of_zero_le exactly.1
    refine ⟨before, fun _ _ => rfl, ?_⟩
    rw [callRoundRobin_index nonempty]
    exact (storedIndex_eq (by omega) entries (by omega)).symm
  · obtain ⟨nonneg, below⟩ := storedIndex_inside index entries (Nat.le_of_lt small)
    obtain ⟨stored, same⟩ := Int.eq_ofNat_of_zero_le nonneg
    refine ⟨stored + (table.length - 1), fun positive room => absurd ⟨positive, room⟩ exactly, ?_⟩
    have behind : stored + (table.length - 1) + 1 = stored + table.length := by omega
    rw [callRoundRobin_index nonempty, behind, Nat.add_mod_right, Nat.mod_eq_of_lt (by omega), same]

/-- The second call starts from the index that the first one stored. -/
def Succeeds (before after : RoundRobinCall R) : Prop :=
  after = callRoundRobin before.index after.table

/-- Calls on tables of one size go from position to position. -/
theorem index_of_isChain {size : Nat} (nonempty : 0 < size) {first : RoundRobinCall R}
    {rest : List (RoundRobinCall R)} (chain : (first :: rest).IsChain Succeeds)
    (sizes : ∀ call ∈ rest, call.table.length = size) :
    rest.map RoundRobinCall.index = (List.range rest.length).map fun step => (first.index + 1 + step) % size := by
  induction rest generalizing first with
  | nil => rfl
  | cons second rest ih =>
      obtain ⟨succeeds, later⟩ := List.isChain_cons_cons.mp chain
      have length := sizes second List.mem_cons_self
      have index : second.index = (first.index + 1) % size := by
        rw [succeeds, callRoundRobin_index (List.length_pos_iff.mp (by omega)), length]
      rw [List.map_cons, List.length_cons, List.range_succ_eq_map, List.map_cons, List.map_map,
        ih later fun call member => sizes call (List.mem_cons_of_mem _ member), index]
      refine congrArg (_ :: ·) (List.map_congr_left fun step _ => ?_)
      simp only [Function.comp_apply, Nat.add_assoc, Nat.mod_add_mod, Nat.add_comm 1 step]

/-- As many calls in a row as the table has entries go once round the table. -/
theorem selected_perm_of_isChain {window : List (RoundRobinCall R)} {schedulerIds : List Bytes}
    (made : ∀ call ∈ window, ∃ index, call = callRoundRobin index call.table)
    (chain : window.IsChain Succeeds) (length : window.length = schedulerIds.length)
    (kept : ∀ call ∈ window, call.table.map Prod.fst = schedulerIds) :
    (window.map fun call => call.selected.map Prod.fst).Perm (schedulerIds.map some) := by
  cases window with
  | nil =>
      have empty : schedulerIds = [] := List.length_eq_zero_iff.mp length.symm
      simp [empty]
  | cons first rest =>
      have nonempty : 0 < schedulerIds.length := by rw [← length, List.length_cons]; omega
      have sizes (call : RoundRobinCall R) (member : call ∈ first :: rest) :
          call.table.length = schedulerIds.length := by rw [← kept call member, List.length_map]
      have start : first.index < schedulerIds.length := by
        obtain ⟨index, same⟩ := made first List.mem_cons_self
        have entries : first.table ≠ [] :=
          List.length_pos_iff.mp (by rw [sizes first List.mem_cons_self]; exact nonempty)
        rw [same, callRoundRobin_index entries, sizes first List.mem_cons_self]
        exact Nat.mod_lt _ nonempty
      have indices : (first :: rest).map RoundRobinCall.index =
          (List.range schedulerIds.length).map fun step => (first.index + step) % schedulerIds.length := by
        rw [← length, List.length_cons, List.range_succ_eq_map, List.map_cons, List.map_cons, List.map_map,
          ← List.length_cons, length, Nat.add_zero, Nat.mod_eq_of_lt start,
          index_of_isChain nonempty chain fun call member => sizes call (List.mem_cons_of_mem _ member)]
        refine congrArg (_ :: ·) (List.map_congr_left fun step _ => ?_)
        simp only [Function.comp_apply, Nat.add_assoc, Nat.succ_eq_add_one, Nat.add_comm 1 step]
      have named : ((first :: rest).map fun call => call.selected.map Prod.fst) =
          ((first :: rest).map RoundRobinCall.index).map fun index => schedulerIds[index]? := by
        rw [List.map_map]
        refine List.map_congr_left fun call member => ?_
        rw [Function.comp_apply, ← kept call member, List.getElem?_map]
        rfl
      rw [named, indices, List.map_map]
      have rotated := map_getElem?_mod_length schedulerIds first.index
      exact (List.Perm.of_eq rotated).trans ((List.rotate_perm schedulerIds first.index).map some)

/-! ## Runs -/

structure RoundRobinState (R : Type u) where
  thread : TableState R := {}
  roundRobinIndex : Nat
  calls : List (RoundRobinCall R) := []

inductive RoundRobinAction (R : Type u) where
  | thread (action : TableAction R)
  | call

def roundRobinStep [DecidableEq R] (stod : Bytes → Option R) (state : RoundRobinState R) :
    RoundRobinAction R → Option (RoundRobinState R)
  | .thread action => (tableStep stod state.thread action).map fun next => { state with thread := next }
  | .call =>
      let call := callRoundRobin state.roundRobinIndex state.thread.table
      some { state with roundRobinIndex := call.index, calls := state.calls ++ [call] }

/-- The table thread beside the calls, from any stored index. -/
def roundRobinClient [DecidableEq R] (stod : Bytes → Option R) (start : Nat) :
    Machine (RoundRobinState R) (RoundRobinAction R) where
  init := { roundRobinIndex := start }
  step := roundRobinStep stod

/-- The calls follow each other, up to the stored index. -/
structure CallsInOrder (index : Nat) (calls : List (RoundRobinCall R)) : Prop where
  made : ∀ call ∈ calls, ∃ index, call = callRoundRobin index call.table
  chain : calls.IsChain Succeeds
  stored : ∀ call ∈ calls.getLast?, call.index = index

theorem CallsInOrder.concat {index : Nat} {calls : List (RoundRobinCall R)} (order : CallsInOrder index calls)
    (table : NodeTable R) :
    CallsInOrder (callRoundRobin index table).index (calls ++ [callRoundRobin index table]) where
  made call member := by
    rcases List.mem_append.mp member with old | new
    · exact order.made call old
    · rw [List.mem_singleton.mp new]
      exact ⟨index, rfl⟩
  chain := by
    refine List.isChain_append.mpr ⟨order.chain, List.isChain_singleton _, ?_⟩
    rintro last found _ ⟨⟩
    rw [Succeeds, order.stored last found]
    rfl
  stored call found := by
    rw [List.getLast?_concat] at found
    cases found
    rfl

theorem callsInOrder [DecidableEq R] {stod : Bytes → Option R} {start : Nat} {state : RoundRobinState R}
    (reached : (roundRobinClient stod start).Reachable state) :
    CallsInOrder state.roundRobinIndex state.calls := by
  refine @Machine.ReachableBy.invariant _ _ _ _
    (fun state : RoundRobinState R => CallsInOrder state.roundRobinIndex state.calls) _ reached ?_ ?_
  · exact ⟨by simp [roundRobinClient], .nil, by simp [roundRobinClient]⟩
  · intro before action after order _ stepped
    cases action with
    | thread action =>
        obtain ⟨next, _, rfl⟩ := Option.map_eq_some_iff.mp stepped
        exact order
    | call =>
        cases stepped
        exact order.concat before.thread.table

/-- However the table changes between the calls, a call on a table with entries
returns one of them; and as many calls in a row as the table has entries, while
it keeps them in their order, return each of them once.  The `int` that the
source computes on is never outside the table either. -/
theorem round_robin_safe_and_fair [DecidableEq R] (stod : Bytes → Option R) (start : Nat)
    {state : RoundRobinState R} (reached : (roundRobinClient stod start).Reachable state) :
    (∀ call ∈ state.calls, call.table ≠ [] →
      ∃ entry ∈ call.table, call.selected = some entry ∧ call.answer = .ok entry.2.host) ∧
    (∀ (window : List (RoundRobinCall R)) (schedulerIds : List Bytes), window <:+: state.calls →
      window.length = schedulerIds.length → (∀ call ∈ window, call.table.map Prod.fst = schedulerIds) →
      (window.map fun call => call.selected.map Prod.fst).Perm (schedulerIds.map some)) ∧
    ∀ (index : Int) (table : NodeTable R), table ≠ [] → table.length < 2 ^ 31 →
      ∃ before : Nat, (0 ≤ index → index + 1 < 2 ^ 31 → (before : Int) = index) ∧
        ((callRoundRobin before table).index : Int) = storedIndex index table.length := by
  have order := callsInOrder reached
  refine ⟨?_, ?_, fun index table => exists_callRoundRobin index⟩
  · intro call member nonempty
    obtain ⟨index, same⟩ := order.made call member
    rw [same]
    exact callRoundRobin_selects index nonempty
  · intro window schedulerIds inside length kept
    obtain ⟨earlier, later, whole⟩ := inside
    have chain := order.chain
    rw [← whole] at chain
    refine selected_perm_of_isChain ?_ chain.left_of_append.right_of_append length kept
    intro call member
    refine order.made call ?_
    rw [← whole]
    exact List.mem_append_left _ (List.mem_append_right _ member)

end Calls

/-- From an index far outside the table: two calls on two entries, then one on
the entry that a sweep left. -/
theorem round_robin_two_then_one :
    ∃ state : RoundRobinState Int, (roundRobinClient (fun _ => some 0) 7).Reachable state ∧
      (state.calls.map fun call => call.selected.map Prod.fst) =
        [some (utf8 "s"), some (utf8 "t"), some (utf8 "t")] ∧
      (∀ call ∈ state.calls, call.table ≠ [] →
        ∃ entry ∈ call.table, call.selected = some entry ∧ call.answer = .ok entry.2.host) ∧
      ∀ (window : List (RoundRobinCall Int)) (schedulerIds : List Bytes), window <:+: state.calls →
        window.length = schedulerIds.length → (∀ call ∈ window, call.table.map Prod.fst = schedulerIds) →
        (window.map fun call => call.selected.map Prod.fst).Perm (schedulerIds.map some) := by
  obtain ⟨state, reached, calls⟩ :=
    (roundRobinClient (fun _ => some 0) 7).reachableBy_of_any (fun _ _ => True)
      (fun state : RoundRobinState Int => (state.calls.map fun call => call.selected.map Prod.fst) =
        [some (utf8 "s"), some (utf8 "t"), some (utf8 "t")])
      [.thread (.getAllNode [utf8 "s", utf8 "t"]),
        .thread (visitOf (utf8 "s") (utf8 "h") 80), .thread (.record [(utf8 "s", plainNode (utf8 "h") 80)]),
        .thread (visitOf (utf8 "t") (utf8 "k") 81),
        .thread (.record [(utf8 "s", plainNode (utf8 "h") 80), (utf8 "t", plainNode (utf8 "k") 81)]),
        .call, .call, .thread .endPass, .thread .sweep,
        .thread (.getAllNode [utf8 "t"]), .thread (visitOf (utf8 "t") (utf8 "k") 81),
        .thread (.record [(utf8 "s", { plainNode (utf8 "h") 80 with undataFlag := false }),
          (utf8 "t", plainNode (utf8 "k") 81)]),
        .thread .endPass, .thread .sweep, .call] (by decide)
  obtain ⟨safe, fair, _⟩ := round_robin_safe_and_fair _ 7 reached
  exact ⟨state, reached, calls, safe, fair⟩

end TaskHive.Client
