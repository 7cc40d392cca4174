import TaskHive.LoadBalancer.Model

namespace TaskHive.LoadBalancer

open TaskHive.Wire

/-! # Consistent hashing moves as little as possible

The ring is the result of inserting all virtual nodes one after the other, so a
worker that joins or leaves takes over or gives up some of its keys. -/

section Ring

variable {R : Type u} [Double R]

/-- The insertions for one worker. -/
def virtualNodes (hash : Bytes → UInt32) (heap : Nat → WorkerNode R) (ref : Nat) : List (Nat × Nat) :=
  (List.range 150).map fun index => ((hash (virtualNode (heap ref).workerId index)).toNat, ref)

theorem updateConsistentHashRing_eq (hash : Bytes → UInt32) (registry : Registry R) :
    updateConsistentHashRing hash registry =
      OrderedMap.empty.insertAll (registry.healthyWorkers.flatMap (virtualNodes hash registry.heap)) := by
  simp only [updateConsistentHashRing, OrderedMap.insertAll, List.foldl_flatMap, virtualNodes, List.foldl_map]

omit [Double R] in
theorem mem_virtualNodes {hash : Bytes → UInt32} {heap : Nat → WorkerNode R} {ref : Nat} {pair : Nat × Nat}
    (member : pair ∈ virtualNodes hash heap ref) : pair.2 = ref := by
  obtain ⟨index, _, rfl⟩ := List.mem_map.mp member
  rfl

/-- Everything on the ring is a healthy worker of the registry. -/
theorem mem_updateConsistentHashRing {hash : Bytes → UInt32} {registry : Registry R} {key ref : Nat}
    (member : (key, ref) ∈ (updateConsistentHashRing hash registry).entries) : ref ∈ registry.healthyWorkers := by
  rw [updateConsistentHashRing_eq, ← OrderedMap.get?_eq_some_iff, OrderedMap.get?_insertAll] at member
  have found := (Option.or_eq_some_iff.mp member).resolve_right (by simp [OrderedMap.get?, OrderedMap.empty])
  obtain ⟨_, _, split, _⟩ := List.lookup_eq_some_iff.mp found
  have inserted : (key, ref) ∈ registry.healthyWorkers.flatMap (virtualNodes hash registry.heap) :=
    List.mem_reverse.mp (by rw [split]; simp)
  obtain ⟨worker, healthy, virtual⟩ := List.mem_flatMap.mp inserted
  rwa [show ref = worker from mem_virtualNodes virtual]

/-- The virtual nodes of a healthy worker are on the ring, under its name or
under that of a later worker. -/
theorem updateConsistentHashRing_ne_nil (hash : Bytes → UInt32) {registry : Registry R}
    (healthy : registry.healthyWorkers ≠ []) : (updateConsistentHashRing hash registry).entries ≠ [] := by
  obtain ⟨ref, rest, workers⟩ := List.exists_cons_of_ne_nil healthy
  intro empty
  have absent := OrderedMap.entries_eq_nil_iff.mp empty (hash (virtualNode (registry.heap ref).workerId 0)).toNat
  rw [updateConsistentHashRing_eq, OrderedMap.get?_insertAll] at absent
  have missing := List.lookup_eq_none_iff.mp (Option.or_eq_none_iff.mp absent).1
    ((hash (virtualNode (registry.heap ref).workerId 0)).toNat, ref) ?_
  · simp at missing
  · rw [List.mem_reverse, workers, List.flatMap_cons, List.mem_append]
    exact .inl (List.mem_map.mpr ⟨0, by simp, rfl⟩)

/-- With the ring of the registry, every task is mapped to a healthy worker. -/
theorem selectConsistentHash_healthy (hash : Bytes → UInt32) {registry : Registry R}
    (healthy : registry.healthyWorkers ≠ []) (taskId : Bytes) :
    ∃ ref ∈ registry.healthyWorkers,
      selectConsistentHash hash (updateConsistentHashRing hash registry) registry.healthyWorkers taskId =
        .worker ref := by
  have present : registry.healthyWorkers.isEmpty = false := Bool.eq_false_iff.mpr (mt List.isEmpty_iff.mp healthy)
  cases found : (updateConsistentHashRing hash registry).successor (hash taskId).toNat with
  | none => exact absurd (OrderedMap.successor_eq_none_iff.mp found) (updateConsistentHashRing_ne_nil hash healthy)
  | some entry =>
      obtain ⟨key, ref⟩ := entry
      have member := (OrderedMap.successor_spec found).1
      refine ⟨ref, mem_updateConsistentHashRing member, ?_⟩
      simp only [selectConsistentHash, present, Bool.false_eq_true, if_false, found]

omit [Double R] in
theorem successor_join (hash : Bytes → UInt32) (heap : Nat → WorkerNode R) (earlier later : List Nat)
    (worker point : Nat) :
    let joined := OrderedMap.empty.insertAll ((earlier ++ [worker] ++ later).flatMap (virtualNodes hash heap))
    let without := OrderedMap.empty.insertAll ((earlier ++ later).flatMap (virtualNodes hash heap))
    (joined.successor point).map Prod.snd = some worker ∨ joined.successor point = without.successor point := by
  simp only [List.flatMap_append, List.flatMap_singleton]
  exact OrderedMap.successor_of_takeover
    (OrderedMap.get?_insertAll_middle _ _ _ _ fun _ => mem_virtualNodes) point

/-- One worker more or less, healthy or not: a task keeps its worker, unless it
is mapped to that worker. -/
theorem selectConsistentHash_join (hash : Bytes → UInt32) (heap : Nat → WorkerNode R) (allocated : Nat)
    (earlier later : List Nat) (worker : Nat) (taskId : Bytes) :
    let without : Registry R := { heap, allocated, workerNodes := earlier ++ later }
    let joined : Registry R := { heap, allocated, workerNodes := earlier ++ [worker] ++ later }
    selectConsistentHash hash (updateConsistentHashRing hash joined) joined.healthyWorkers taskId =
        .worker worker ∨
      selectConsistentHash hash (updateConsistentHashRing hash joined) joined.healthyWorkers taskId =
        selectConsistentHash hash (updateConsistentHashRing hash without) without.healthyWorkers taskId := by
  intro without joined
  have others : without.healthyWorkers =
      earlier.filter (fun ref => (heap ref).isHealthy) ++ later.filter (fun ref => (heap ref).isHealthy) := by
    simp [without, Registry.healthyWorkers]
  cases healthy : (heap worker).isHealthy with
  | false =>
      have same : joined.healthyWorkers = without.healthyWorkers := by
        simp [joined, without, Registry.healthyWorkers, healthy]
      refine .inr ?_
      rw [updateConsistentHashRing_eq, updateConsistentHashRing_eq, same]
  | true =>
      have workers : joined.healthyWorkers = earlier.filter (fun ref => (heap ref).isHealthy) ++ [worker] ++
          later.filter (fun ref => (heap ref).isHealthy) := by
        simp [joined, Registry.healthyWorkers, healthy]
      have present : joined.healthyWorkers.isEmpty = false := by simp [workers]
      have moved := successor_join hash heap (earlier.filter fun ref => (heap ref).isHealthy)
        (later.filter fun ref => (heap ref).isHealthy) worker (hash taskId).toNat
      rw [← workers, ← others] at moved
      simp only [selectConsistentHash, present, Bool.false_eq_true, if_false, updateConsistentHashRing_eq]
      rcases moved with taken | kept
      · obtain ⟨⟨key, ref⟩, found, rfl⟩ := Option.map_eq_some_iff.mp taken
        rw [found]
        exact .inl rfl
      · refine .inr ?_
        rw [kept]
        cases alone : without.healthyWorkers.isEmpty with
        | false => rfl
        | true =>
            -- the ring without the worker would be empty, but the ring with it is not
            have empty : OrderedMap.successor (OrderedMap.empty.insertAll
                (without.healthyWorkers.flatMap (virtualNodes hash heap))) (hash taskId).toNat = none := by
              rw [List.isEmpty_iff.mp alone]
              rfl
            have ring := updateConsistentHashRing_ne_nil hash (show joined.healthyWorkers ≠ [] by simp [workers])
            rw [updateConsistentHashRing_eq] at ring
            exact absurd (OrderedMap.successor_eq_none_iff.mp (kept.trans empty)) ring

/-- One worker more or less: a task keeps its worker, unless it is mapped to
that worker.  While a worker is healthy, every task has one. -/
theorem consistent_hashing_moves_least (hash : Bytes → UInt32) (heap : Nat → WorkerNode R) (allocated : Nat)
    (earlier later : List Nat) (worker : Nat) (taskId : Bytes) :
    let without : Registry R := { heap, allocated, workerNodes := earlier ++ later }
    let joined : Registry R := { heap, allocated, workerNodes := earlier ++ [worker] ++ later }
    let selected (registry : Registry R) : Selection :=
      selectConsistentHash hash (updateConsistentHashRing hash registry) registry.healthyWorkers taskId
    (selected joined = .worker worker ∨ selected joined = selected without) ∧
      (without.healthyWorkers ≠ [] → ∃ ref ∈ without.healthyWorkers, selected without = .worker ref) ∧
      (joined.healthyWorkers ≠ [] → ∃ ref ∈ joined.healthyWorkers, selected joined = .worker ref) := by
  intro without joined selected
  refine ⟨selectConsistentHash_join hash heap allocated earlier later worker taskId, ?_, ?_⟩
  · intro healthy
    exact selectConsistentHash_healthy hash healthy taskId
  · intro healthy
    exact selectConsistentHash_healthy hash healthy taskId

end Ring

end TaskHive.LoadBalancer
