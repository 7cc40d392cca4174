import TaskHive.LoadBalancer.HashRing
import TaskHive.LoadBalancer.Registry

namespace TaskHive.LoadBalancer

open TaskHive.Wire

/-! # Selecting live workers

Discovery believes every heartbeat, also one that it has read before, and the
ring is rebuilt only at the end of a pass. -/

variable {R : Type u} [Double R]

/-- No worker, or a registered and healthy one that the latest health check did
not find dead, unless a later heartbeat was read since. -/
def Answer.Safe (answer : Answer) : Prop :=
  match answer.selection with
  | .nullptr => True
  | .worker _ => answer.registered = true ∧ answer.healthy = true ∧ answer.condemned = false
  | .pastTheEnd => False

instance (answer : Answer) : Decidable answer.Safe := by
  unfold Answer.Safe
  split <;> infer_instance

def NeverSelectsDead (state : Balancer R) : Prop := ∀ answer ∈ state.answers, answer.Safe

instance (state : Balancer R) : Decidable (NeverSelectsDead state) :=
  inferInstanceAs (Decidable (∀ _ ∈ _, _))

/-- A heartbeat that reports a dead worker as healthy is later than the one it
had when it was found dead, and the ring is used only when it was rebuilt since
a health check last made a worker unhealthy and a pass last broke off. -/
def HeardAgain (state : Balancer R) : Action → Prop
  | .discover listing =>
      ∀ heartbeat ∈ readAll listing, heartbeat.isHealthy = true →
        ∀ entry ∈ state.condemned, entry.1 = heartbeat.workerId → entry.2 < heartbeat.timestamp
  | .selectWorker _ _ => state.strategy = .consistentHash → state.ringCurrent = true
  | _ => True

instance (state : Balancer R) : (action : Action) → Decidable (HeardAgain state action)
  | .discover _ => inferInstanceAs (Decidable (∀ _ ∈ _, _))
  | .selectWorker _ _ => inferInstanceAs (Decidable (_ → _))
  | .check _ | .setStrategy _ | .distribute _ => inferInstanceAs (Decidable True)

/-! ## Selection among healthy workers -/

section Select

variable {α : Type v} {workers : List α}

theorem selectRoundRobin_mem (index : Int32) (nonempty : workers ≠ []) :
    ∃ worker ∈ workers, (selectRoundRobin index workers).1 = some worker := by
  have inside : (index.toInt % 2 ^ 64).toNat % workers.length < workers.length :=
    Nat.mod_lt _ (List.length_pos_iff.mpr nonempty)
  rw [selectRoundRobin, if_neg (by simpa using nonempty)]
  exact ⟨_, List.getElem_mem inside, List.getElem?_eq_getElem inside⟩

theorem minElement_mem (less : α → α → Bool) (nonempty : workers ≠ []) :
    ∃ worker ∈ workers, Client.minElement less workers = some worker := by
  obtain ⟨first, rest, rfl⟩ := List.exists_cons_of_ne_nil nonempty
  exact ⟨_, Client.mem_of_minElement rfl, rfl⟩

theorem weightedScan_mem {weight : α → Int} {index currentWeight : Int} {worker : α}
    (found : weightedScan weight index currentWeight workers = some worker) : worker ∈ workers := by
  induction workers generalizing currentWeight with
  | nil => cases found
  | cons first rest ih =>
      rw [weightedScan] at found
      split at found
      · cases found
        exact List.mem_cons_self
      · exact List.mem_cons_of_mem first (ih found)

theorem selectWeightedRoundRobin_mem (weight : α → Int) (index : Int32) (nonempty : workers ≠ []) :
    ∃ worker ∈ workers, (selectWeightedRoundRobin weight index workers).1 = some worker := by
  obtain ⟨first, rest, rfl⟩ := List.exists_cons_of_ne_nil nonempty
  simp only [selectWeightedRoundRobin, List.isEmpty_cons, Bool.false_eq_true, if_false]
  split
  · exact ⟨first, List.mem_cons_self, rfl⟩
  · cases scanned : weightedScan weight (index.toInt.tmod (totalWeight weight (first :: rest))) 0 (first :: rest) with
    | none => exact ⟨first, List.mem_cons_self, rfl⟩
    | some worker => exact ⟨worker, weightedScan_mem scanned, rfl⟩

theorem selectRandom_mem (draw : Nat) (nonempty : workers ≠ []) :
    ∃ worker ∈ workers, selectRandom draw workers = some worker := by
  have inside : draw % workers.length < workers.length := Nat.mod_lt _ (List.length_pos_iff.mpr nonempty)
  exact ⟨_, List.getElem_mem inside, List.getElem?_eq_getElem inside⟩

end Select

/-- The ring holds healthy workers, and some if there are any. -/
structure RingHealthy (healthyWorkers : List Nat) (ring : HashRing) : Prop where
  healthy : ∀ entry ∈ ring.entries, entry.2 ∈ healthyWorkers
  populated : healthyWorkers ≠ [] → ring.entries ≠ []

theorem selectConsistentHash_mem {healthyWorkers : List Nat} {ring : HashRing}
    (fits : RingHealthy healthyWorkers ring) (hash : Bytes → UInt32) (taskId : Bytes)
    (nonempty : healthyWorkers ≠ []) :
    ∃ ref ∈ healthyWorkers, selectConsistentHash hash ring healthyWorkers taskId = .worker ref := by
  rw [selectConsistentHash, if_neg (by simpa using nonempty)]
  cases found : ring.successor (hash taskId).toNat with
  | none => exact absurd (OrderedMap.successor_eq_none_iff.mp found) (fits.populated nonempty)
  | some entry => exact ⟨entry.2, fits.healthy entry (OrderedMap.successor_spec found).1, rfl⟩

omit [Double R] in
/-- Every strategy selects a healthy worker, the ring provided. -/
theorem selectWorker_spec (state : Balancer R) (hash : Bytes → UInt32) (taskId : Bytes) (draw : Nat)
    (ring : state.strategy = .consistentHash → RingHealthy state.registry.healthyWorkers state.hashRing) :
    (selectWorker hash state taskId draw).1 = .nullptr ∨
      ∃ ref ∈ state.registry.healthyWorkers, (selectWorker hash state taskId draw).1 = .worker ref := by
  by_cases nonempty : state.registry.healthyWorkers = []
  · exact .inl (by simp [selectWorker, nonempty])
  · refine .inr ?_
    have present {selected : Option Nat} (found : ∃ ref ∈ state.registry.healthyWorkers, selected = some ref) :
        ∃ ref ∈ state.registry.healthyWorkers, Selection.ofOption selected = .worker ref := by
      obtain ⟨ref, member, rfl⟩ := found
      exact ⟨ref, member, rfl⟩
    rw [selectWorker, if_neg (by simpa using nonempty)]
    cases strategy : state.strategy with
    | roundRobin => exact present (selectRoundRobin_mem _ nonempty)
    | leastConnections => exact present (minElement_mem _ nonempty)
    | weightedRoundRobin => exact present (selectWeightedRoundRobin_mem _ _ nonempty)
    | leastResponseTime => exact present (minElement_mem _ nonempty)
    | consistentHash => exact selectConsistentHash_mem (ring strategy) hash taskId nonempty
    | random => exact present (selectRandom_mem draw nonempty)

/-! ## The invariant -/

structure Alive (state : Balancer R) : Prop where
  valid : state.registry.Valid
  unharmed : ∀ ref ∈ state.registry.healthyWorkers,
    (state.registry.heap ref).workerId ∉ state.condemned.map Prod.fst
  ring : state.ringCurrent = true → RingHealthy state.registry.healthyWorkers state.hashRing
  safe : NeverSelectsDead state

omit [Double R] in
theorem mem_healthyWorkers {registry : Registry R} {ref : Nat} :
    ref ∈ registry.healthyWorkers ↔ ref ∈ registry.workerNodes ∧ (registry.heap ref).isHealthy = true :=
  List.mem_filter

theorem mem_renew {condemned : List (Bytes × Int64)} {heartbeats : List WorkerHeartbeat} {entry : Bytes × Int64} :
    entry ∈ renew condemned heartbeats ↔ entry ∈ condemned ∧
      ∀ heartbeat ∈ heartbeats, heartbeat.workerId = entry.1 → ¬ entry.2 < heartbeat.timestamp := by
  simp [renew]

/-- After the loop over the children, a healthy worker was renewed or is
unchanged. -/
theorem Alive.unharmed_visit {state : Balancer R} (alive : Alive state) {listing : Listing}
    (permitted : HeardAgain state (.discover listing)) {ref : Nat}
    (healthy : ref ∈ (state.registry.visit listing).registry.healthyWorkers) :
    ((state.registry.visit listing).registry.heap ref).workerId ∉
      (renew state.condemned (state.registry.visit listing).heartbeats).map Prod.fst := by
  have visited := Registry.visit_spec alive.valid listing
  obtain ⟨member, isHealthy⟩ := mem_healthyWorkers.mp healthy
  intro dead
  obtain ⟨entry, stillDead, named⟩ := List.mem_map.mp dead
  obtain ⟨condemned, unrenewed⟩ := mem_renew.mp stillDead
  rcases visited.node ref member with ⟨heartbeat, last, carries, reported⟩ | ⟨_, old, unchanged⟩
  · have read : heartbeat ∈ (state.registry.visit listing).heartbeats :=
      List.mem_reverse.mp (List.mem_of_find?_eq_some last)
    have same : entry.1 = heartbeat.workerId := named.trans carries.workerId
    refine unrenewed heartbeat read same.symm ?_
    exact permitted heartbeat (visited.read.subset read) (reported.symm.trans isHealthy) entry condemned same
  · rw [unchanged] at named isHealthy
    exact alive.unharmed ref (mem_healthyWorkers.mpr ⟨old, isHealthy⟩) (List.mem_map.mpr ⟨entry, condemned, named⟩)

theorem Alive.discover {state : Balancer R} (alive : Alive state) (hash : Bytes → UInt32) {listing : Listing}
    (permitted : HeardAgain state (.discover listing)) : Alive (LoadBalancer.discover hash state listing) := by
  have valid := alive.valid.discover hash listing
  have unharmed {ref : Nat} := @Alive.unharmed_visit _ _ _ alive _ permitted ref
  rw [LoadBalancer.discover] at valid ⊢
  split at valid <;> rename_i completed
  · rw [if_pos completed]
    refine ⟨valid, fun ref healthy => ?_, fun _ => ⟨fun entry => mem_updateConsistentHashRing, ?_⟩, alive.safe⟩
    · obtain ⟨member, isHealthy⟩ := mem_healthyWorkers.mp healthy
      exact unharmed (mem_healthyWorkers.mpr ⟨(List.mem_filter.mp member).1, isHealthy⟩)
    · exact updateConsistentHashRing_ne_nil hash
  · rw [if_neg completed]
    exact ⟨valid, fun ref => unharmed, by simp, alive.safe⟩

/-- A worker that is healthy after the check was so before and is not found
dead. -/
theorem healthy_check {registry : Registry R} {now : Int} {ref : Nat}
    (healthy : ref ∈ (registry.checkWorkers now).healthyWorkers) :
    ref ∈ registry.healthyWorkers ∧ foundDead now (registry.heap ref) = false := by
  obtain ⟨member, isHealthy⟩ := mem_healthyWorkers.mp healthy
  simp only [Registry.checkWorkers, show ref ∈ registry.workerNodes from member, if_true, checkNode] at isHealthy
  split at isHealthy
  · cases isHealthy
  · rename_i alive
    exact ⟨mem_healthyWorkers.mpr ⟨member, isHealthy⟩, Bool.eq_false_iff.mpr alive⟩

/-- A check that finds no healthy worker dead leaves the healthy workers. -/
theorem healthyWorkers_check {registry : Registry R} {now : Int}
    (spared : ∀ ref ∈ registry.healthyWorkers, foundDead now (registry.heap ref) = false) :
    (registry.checkWorkers now).healthyWorkers = registry.healthyWorkers := by
  refine List.filter_congr fun ref member => ?_
  simp only [Registry.checkWorkers, show ref ∈ registry.workerNodes from member, if_true, checkNode]
  split
  · rename_i dead
    cases isHealthy : (registry.heap ref).isHealthy with
    | false => rfl
    | true =>
        rw [spared ref (mem_healthyWorkers.mpr ⟨member, isHealthy⟩)] at dead
        cases dead
  · rfl

theorem Alive.check {state : Balancer R} (alive : Alive state) (now : Int) : Alive (LoadBalancer.check state now) := by
  have same := state.registry.sameWorker_checkWorkers now
  refine ⟨alive.valid.congr rfl rfl same, fun ref healthy => ?_, fun current => ?_, alive.safe⟩
  · obtain ⟨before, spared⟩ := healthy_check healthy
    have member := (mem_healthyWorkers.mp before).1
    intro dead
    rw [show (LoadBalancer.check state now).registry = state.registry.checkWorkers now from rfl,
      (same ref).workerId] at dead
    simp only [LoadBalancer.check, List.map_map, List.mem_map, Function.comp_apply, List.mem_filter] at dead
    obtain ⟨other, ⟨otherMember, found⟩, named⟩ := dead
    cases alive.valid.unique otherMember member named
    rw [spared] at found
    cases found
  · simp only [LoadBalancer.check, Bool.and_eq_true, Bool.not_eq_true'] at current
    have kept : (state.registry.checkWorkers now).healthyWorkers = state.registry.healthyWorkers := by
      refine healthyWorkers_check fun ref healthy => ?_
      obtain ⟨member, isHealthy⟩ := mem_healthyWorkers.mp healthy
      refine Bool.eq_false_iff.mpr fun dead => ?_
      have none := List.any_eq_false.mp current.2 ref (List.mem_filter.mpr ⟨member, dead⟩)
      exact none isHealthy
    have ring := alive.ring current.1
    rwa [← kept] at ring

omit [Double R] in
theorem Alive.select {state : Balancer R} (alive : Alive state) (hash : Bytes → UInt32) {taskId : Bytes} {draw : Nat}
    (permitted : HeardAgain state (.selectWorker taskId draw)) :
    (state.answer (selectWorker hash state taskId draw).1).Safe := by
  rcases selectWorker_spec state hash taskId draw fun strategy => alive.ring (permitted strategy) with
    none | ⟨ref, healthy, selected⟩
  · rw [none]
    trivial
  · obtain ⟨member, isHealthy⟩ := mem_healthyWorkers.mp healthy
    rw [selected]
    refine ⟨decide_eq_true member, isHealthy, ?_⟩
    refine Bool.eq_false_iff.mpr fun condemned => ?_
    exact alive.unharmed ref healthy (List.contains_iff_mem.mp condemned)

omit [Double R] in
theorem healthyWorkers_distribute (state : Balancer R) (ref : Nat) (published : Bool) :
    (distribute state ref published).registry.healthyWorkers = state.registry.healthyWorkers := by
  refine List.filter_congr fun other _ => ?_
  by_cases same : other = ref
  · subst same
    simp [distribute, Registry.setNode]
  · simp [distribute, Registry.setNode, same]

omit [Double R] in
theorem Alive.distribute {state : Balancer R} (alive : Alive state) (ref : Nat) (published : Bool) :
    Alive (LoadBalancer.distribute state ref published) := by
  have same := sameWorker_distribute state ref published
  have kept := healthyWorkers_distribute state ref published
  refine ⟨alive.valid.congr rfl rfl same, fun other healthy => ?_, fun current => ?_, alive.safe⟩
  · rw [(same other).workerId]
    exact alive.unharmed other (kept ▸ healthy)
  · have ring := alive.ring current
    rwa [← kept] at ring

/-- In every run in which dead workers are heard again before they count as
healthy, and in which the ring is used only when it is current, no dead worker is
selected. -/
theorem never_selects_dead (hash : Bytes → UInt32) (strategy : LoadBalanceStrategy) (state : Balancer R)
    (reached : (balancer hash strategy).ReachableBy HeardAgain state) : NeverSelectsDead state := by
  have alive : Alive state := by
    refine reached.invariant ?_ ?_
    · exact ⟨⟨List.nodup_nil, nofun⟩, nofun, fun _ => ⟨nofun, fun nonempty => absurd rfl nonempty⟩, nofun⟩
    · intro before action after alive permitted stepped
      cases action with
      | discover listing =>
          cases stepped
          exact alive.discover hash permitted
      | check now =>
          cases stepped
          exact alive.check now
      | setStrategy strategy =>
          cases stepped
          exact { alive with }
      | selectWorker taskId draw =>
          cases stepped
          refine ⟨alive.valid, alive.unharmed, alive.ring, fun answer member => ?_⟩
          rcases List.mem_append.mp member with old | new
          · exact alive.safe answer old
          · rw [List.mem_singleton.mp new]
            exact alive.select hash permitted
      | distribute published =>
          simp only [balancer, balancerStep] at stepped
          split at stepped
          · cases stepped
            exact alive.distribute _ published
          · cases stepped
  exact alive.safe

/-- A worker is found dead and not selected; it is heard again, and then it is
selected, also from the ring. -/
theorem never_selects_dead_plain :
    ∃ state : Balancer Exact, (balancer (fun _ => 0) .leastConnections).ReachableBy HeardAgain state ∧
      state.answers.map Answer.selection = [.nullptr, .worker 0, .worker 0] ∧ NeverSelectsDead state := by
  obtain ⟨state, reached, selections⟩ :=
    (balancer (fun _ => 0) .leastConnections).reachableBy_of_any HeardAgain
      (fun state : Balancer Exact => state.answers.map Answer.selection = [.nullptr, .worker 0, .worker 0])
      [.discover [znode "a" (plainHeartbeat "a" 100 ∅) []], .check 140, .selectWorker (utf8 "t") 0,
        .discover [znode "a" (plainHeartbeat "a" 150 ∅) []], .selectWorker (utf8 "t") 0, .distribute true,
        .check 160, .setStrategy .consistentHash, .selectWorker (utf8 "u") 0] (by decide +kernel)
  exact ⟨state, reached, selections, never_selects_dead _ _ state reached⟩

/-- A worker that was found dead is healthy again because its old heartbeat is
read once more; the ring still holds a worker that the health check has made
unhealthy; and a first pass that breaks off leaves a healthy worker and an empty
ring. -/
theorem selects_dead_workers :
    (∃ state : Balancer Exact, (balancer (fun _ => 0) .leastConnections).Reachable state ∧
      state.condemned = [(utf8 "a", 100)] ∧
      state.answers = [{ selection := .worker 0, registered := true, healthy := true, condemned := true }] ∧
      ¬ NeverSelectsDead state) ∧
    (∃ state : Balancer Exact, (balancer (fun _ => 0) .consistentHash).Reachable state ∧
      state.registry.workerIds = [utf8 "b", utf8 "a"] ∧ state.condemned = [(utf8 "a", 100)] ∧
      state.answers = [{ selection := .worker 1, registered := true, healthy := false, condemned := true }] ∧
      ¬ NeverSelectsDead state) ∧
    (∃ state : Balancer Exact, (balancer (fun _ => 0) .consistentHash).Reachable state ∧
      state.registry.healthyWorkers = [0] ∧ state.hashRing.entries = [] ∧
      state.answers.map Answer.selection = [.pastTheEnd] ∧ ¬ NeverSelectsDead state) := by
  refine ⟨?_, ?_, ?_⟩
  · exact (balancer (fun _ => 0) .leastConnections).reachableBy_of_any (fun _ _ => True)
      (fun state : Balancer Exact => state.condemned = [(utf8 "a", 100)] ∧
        state.answers = [{ selection := .worker 0, registered := true, healthy := true, condemned := true }] ∧
        ¬ NeverSelectsDead state)
      [.discover [znode "a" (plainHeartbeat "a" 100 ∅) []], .check 200,
        .discover [znode "a" (plainHeartbeat "a" 100 ∅) []], .selectWorker (utf8 "t") 0] (by decide +kernel)
  · exact (balancer (fun _ => 0) .consistentHash).reachableBy_of_any (fun _ _ => True)
      (fun state : Balancer Exact => state.registry.workerIds = [utf8 "b", utf8 "a"] ∧
        state.condemned = [(utf8 "a", 100)] ∧
        state.answers = [{ selection := .worker 1, registered := true, healthy := false, condemned := true }] ∧
        ¬ NeverSelectsDead state)
      [.discover [znode "b" (plainHeartbeat "b" 200 ∅) [], znode "a" (plainHeartbeat "a" 100 ∅) []], .check 210,
        .selectWorker (utf8 "t") 0] (by decide +kernel)
  · exact (balancer (fun _ => 0) .consistentHash).reachableBy_of_any (fun _ _ => True)
      (fun state : Balancer Exact => state.registry.healthyWorkers = [0] ∧ state.hashRing.entries = [] ∧
        state.answers.map Answer.selection = [.pastTheEnd] ∧ ¬ NeverSelectsDead state)
      [.discover [znode "a" (plainHeartbeat "a" 100 (cpuText "x")) [(utf8 "cpu_usage", utf8 "x")]],
        .selectWorker (utf8 "t") 0] (by decide +kernel)

end TaskHive.LoadBalancer
