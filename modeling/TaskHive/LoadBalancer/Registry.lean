import TaskHive.LoadBalancer.Model

namespace TaskHive.LoadBalancer

open TaskHive.Wire

/-! # The registry and ZooKeeper

Workers are added under the id in their heartbeat and removed by the name of
their node.  The worker ids are distinct in any case, but they are those of the
heartbeats only if a pass reaches its end, every heartbeat is found under the
name of its worker, and every registered worker that is listed can be read. -/

variable {R : Type u} [Double R]

/-! ## One update -/

/-- The four conversions succeed. -/
def wellFormed (R : Type u) [Double R] (heartbeat : WorkerHeartbeat) : Bool :=
  Metric.all.all fun metric =>
    match heartbeat.dec.lookup metric.key with
    | none => true
    | some text => (Double.stod text : Option R).isSome

/-- The node has the data of the heartbeat that no health check changes. -/
structure Carries (node : WorkerNode R) (heartbeat : WorkerHeartbeat) : Prop where
  workerId : node.workerId = heartbeat.workerId
  workerIp : node.workerIp = heartbeat.workerIp
  workerPort : node.workerPort = heartbeat.workerPort
  lastHeartbeat : node.lastHeartbeat = heartbeat.timestamp
  capabilities : node.capabilities = heartbeat.dec

omit [Double R] in
theorem Carries.setMetric {node : WorkerNode R} {heartbeat : WorkerHeartbeat} (carries : Carries node heartbeat)
    (metric : Metric) (value : R) : Carries (node.setMetric metric value) heartbeat := by
  cases metric <;> exact { carries with }

theorem readMetrics_spec {node : WorkerNode R} {heartbeat : WorkerHeartbeat} (carries : Carries node heartbeat)
    (metrics : List Metric) :
    Carries (readMetrics node metrics).1 heartbeat ∧ (readMetrics node metrics).1.isHealthy = node.isHealthy ∧
      (readMetrics node metrics).2 = metrics.all fun metric =>
        match heartbeat.dec.lookup metric.key with
        | none => true
        | some text => (Double.stod text : Option R).isSome := by
  induction metrics generalizing node with
  | nil => exact ⟨carries, rfl, rfl⟩
  | cons metric rest ih =>
      rw [readMetrics, carries.capabilities, List.all_cons]
      cases heartbeat.dec.lookup metric.key with
      | none => exact ih carries
      | some text =>
          cases number : (Double.stod text : Option R) with
          | none => simpa [number] using carries
          | some value =>
              obtain ⟨kept, healthy, completed⟩ := ih (carries.setMetric metric value)
              have same : (node.setMetric metric value).isHealthy = node.isHealthy := by cases metric <;> rfl
              simp only [number]
              exact ⟨kept, healthy.trans same, by simpa using completed⟩

/-- Whether or not a conversion throws, the node has the data of the
heartbeat. -/
theorem refresh_spec (node : WorkerNode R) (heartbeat : WorkerHeartbeat) :
    Carries (refresh node heartbeat).1 heartbeat ∧
      (refresh node heartbeat).1.isHealthy = heartbeat.isHealthy ∧
      (refresh node heartbeat).2 = wellFormed R heartbeat := by
  have measured := readMetrics_spec (show Carries (describe node heartbeat) heartbeat from ⟨rfl, rfl, rfl, rfl, rfl⟩)
    Metric.all
  rw [refresh]
  rcases outcome : readMetrics (describe node heartbeat) Metric.all with ⟨after, completed⟩
  rw [outcome] at measured
  obtain ⟨carries, healthy, whether⟩ := measured
  cases completed with
  | true => exact ⟨{ carries with }, healthy, whether⟩
  | false => exact ⟨carries, healthy, whether⟩

namespace Registry

/-- Nodes in use are allocated, and ids are distinct. -/
structure Valid (registry : Registry R) : Prop where
  distinct : registry.workerIds.Nodup
  allocated : ∀ ref ∈ registry.workerNodes, ref < registry.allocated

variable {registry : Registry R} {heartbeat : WorkerHeartbeat}

omit [Double R] in
theorem Valid.unique (valid : registry.Valid) {left right : Nat} (leftMember : left ∈ registry.workerNodes)
    (rightMember : right ∈ registry.workerNodes)
    (same : (registry.heap left).workerId = (registry.heap right).workerId) : left = right :=
  List.inj_on_of_nodup_map valid.distinct leftMember rightMember same

/-- What an update does: it refreshes the one node with the id of the
heartbeat, or adds such a node. -/
theorem updateWorkerNode_cases (registry : Registry R) (heartbeat : WorkerHeartbeat) :
    ∃ node : WorkerNode R, Carries node heartbeat ∧ node.isHealthy = heartbeat.isHealthy ∧
      (registry.updateWorkerNode heartbeat).2 = wellFormed R heartbeat ∧
      ((∃ ref ∈ registry.workerNodes, (registry.heap ref).workerId = heartbeat.workerId ∧
          (registry.updateWorkerNode heartbeat).1 = registry.setNode ref node) ∨
        ((∀ ref ∈ registry.workerNodes, (registry.heap ref).workerId ≠ heartbeat.workerId) ∧
          (registry.updateWorkerNode heartbeat).1 = registry.addNode node)) := by
  rw [updateWorkerNode]
  cases found : registry.workerNodes.find? fun ref => (registry.heap ref).workerId = heartbeat.workerId with
  | some ref =>
      obtain ⟨carries, healthy, completed⟩ := refresh_spec (registry.heap ref) heartbeat
      refine ⟨_, carries, healthy, completed, .inl ⟨ref, List.mem_of_find?_eq_some found, ?_, rfl⟩⟩
      simpa using List.find?_some found
  | none =>
      obtain ⟨carries, healthy, completed⟩ := refresh_spec (WorkerNode.fresh : WorkerNode R) heartbeat
      refine ⟨_, carries, healthy, completed, .inr ⟨fun ref member => ?_, rfl⟩⟩
      simpa using List.find?_eq_none.mp found ref member

omit [Double R] in
theorem workerIds_setNode {ref : Nat} {node : WorkerNode R} (same : node.workerId = (registry.heap ref).workerId) :
    (registry.setNode ref node).workerIds = registry.workerIds := by
  refine List.map_congr_left fun other _ => ?_
  by_cases equal : other = ref
  · subst equal
    simp [setNode, same]
  · simp [setNode, equal]

omit [Double R] in
theorem heap_addNode_of_mem (valid : registry.Valid) {ref : Nat} (member : ref ∈ registry.workerNodes)
    (node : WorkerNode R) : (registry.addNode node).heap ref = registry.heap ref :=
  Function.update_of_ne (Nat.ne_of_lt (valid.allocated ref member)) _ _

omit [Double R] in
theorem workerIds_addNode (valid : registry.Valid) (node : WorkerNode R) :
    (registry.addNode node).workerIds = registry.workerIds ++ [node.workerId] := by
  simp only [workerIds, addNode, List.map_append, List.map_singleton, Function.update_self]
  congr 1
  exact List.map_congr_left fun ref member => congrArg _ (heap_addNode_of_mem valid member node)

theorem Valid.update (valid : registry.Valid) (heartbeat : WorkerHeartbeat) :
    (registry.updateWorkerNode heartbeat).1.Valid := by
  obtain ⟨node, carries, _, _, ⟨ref, member, named, after⟩ | ⟨absent, after⟩⟩ :=
    updateWorkerNode_cases registry heartbeat
  · rw [after]
    refine ⟨?_, valid.allocated⟩
    rw [workerIds_setNode (carries.workerId.trans named.symm)]
    exact valid.distinct
  · rw [after]
    refine ⟨?_, ?_⟩
    · rw [workerIds_addNode valid, List.nodup_append]
      refine ⟨valid.distinct, List.nodup_singleton _, ?_⟩
      intro known old id new
      obtain ⟨ref, member, rfl⟩ := List.mem_map.mp old
      rw [List.mem_singleton.mp new, carries.workerId]
      exact absent ref member
    · intro ref member
      rcases List.mem_append.mp member with old | new
      · exact Nat.lt_succ_of_lt (valid.allocated ref old)
      · rw [List.mem_singleton.mp new]
        exact Nat.lt_succ_self _

theorem mem_workerIds_update (valid : registry.Valid) (heartbeat : WorkerHeartbeat) (id : Bytes) :
    id ∈ (registry.updateWorkerNode heartbeat).1.workerIds ↔
      id ∈ registry.workerIds ∨ id = heartbeat.workerId := by
  obtain ⟨node, carries, _, _, ⟨ref, member, named, after⟩ | ⟨absent, after⟩⟩ :=
    updateWorkerNode_cases registry heartbeat
  · rw [after, workerIds_setNode (carries.workerId.trans named.symm)]
    have known : heartbeat.workerId ∈ registry.workerIds := List.mem_map.mpr ⟨ref, member, named⟩
    constructor
    · exact .inl
    · rintro (old | rfl)
      · exact old
      · exact known
  · rw [after, workerIds_addNode valid, List.mem_append, List.mem_singleton, carries.workerId]

/-- A node of the updated registry is the one of the heartbeat, or an old one
of another worker. -/
theorem node_update (valid : registry.Valid) (heartbeat : WorkerHeartbeat) {ref : Nat}
    (member : ref ∈ (registry.updateWorkerNode heartbeat).1.workerNodes) :
    (Carries ((registry.updateWorkerNode heartbeat).1.heap ref) heartbeat ∧
        ((registry.updateWorkerNode heartbeat).1.heap ref).isHealthy = heartbeat.isHealthy) ∨
      (ref ∈ registry.workerNodes ∧ (registry.updateWorkerNode heartbeat).1.heap ref = registry.heap ref ∧
        (registry.heap ref).workerId ≠ heartbeat.workerId) := by
  obtain ⟨node, carries, healthy, _, ⟨known, knownMember, named, after⟩ | ⟨absent, after⟩⟩ :=
    updateWorkerNode_cases registry heartbeat
  · rw [after] at member ⊢
    by_cases same : ref = known
    · subst same
      simp only [setNode, Function.update_self]
      exact .inl ⟨carries, healthy⟩
    · refine .inr ⟨member, Function.update_of_ne same _ _, fun equal => ?_⟩
      exact same (valid.unique member knownMember (equal.trans named.symm))
  · rw [after] at member ⊢
    rcases List.mem_append.mp member with old | new
    · exact .inr ⟨old, heap_addNode_of_mem valid old node, absent ref old⟩
    · rw [List.mem_singleton.mp new]
      simp only [addNode, Function.update_self]
      exact .inl ⟨carries, healthy⟩

end Registry

/-! ## One pass -/

/-- The heartbeats of the listed nodes whose data is not empty and parses. -/
def readAll (listing : Listing) : List WorkerHeartbeat :=
  listing.filterMap fun child => readHeartbeat (Client.getNodeData child.2)

/-- The last heartbeat that was read for a worker. -/
def lastHeartbeat (heartbeats : List WorkerHeartbeat) (workerId : Bytes) : Option WorkerHeartbeat :=
  heartbeats.reverse.find? fun heartbeat => heartbeat.workerId = workerId

theorem lastHeartbeat_cons (heartbeat : WorkerHeartbeat) (rest : List WorkerHeartbeat) (workerId : Bytes) :
    lastHeartbeat (heartbeat :: rest) workerId =
      (lastHeartbeat rest workerId).or (if heartbeat.workerId = workerId then some heartbeat else none) := by
  rw [lastHeartbeat, List.reverse_cons, List.find?_append, ← lastHeartbeat, List.find?_singleton]
  by_cases same : heartbeat.workerId = workerId <;> simp [same]

/-- What the loop over the children leaves. -/
structure Visited (before : Registry R) (listing : Listing) (visited : Visit R) : Prop where
  valid : visited.registry.Valid
  ids : ∀ id, id ∈ visited.registry.workerIds ↔
    id ∈ before.workerIds ∨ ∃ heartbeat ∈ visited.heartbeats, heartbeat.workerId = id
  node : ∀ ref ∈ visited.registry.workerNodes,
    (∃ heartbeat, lastHeartbeat visited.heartbeats (visited.registry.heap ref).workerId = some heartbeat ∧
        Carries (visited.registry.heap ref) heartbeat ∧
        (visited.registry.heap ref).isHealthy = heartbeat.isHealthy) ∨
      (lastHeartbeat visited.heartbeats (visited.registry.heap ref).workerId = none ∧
        ref ∈ before.workerNodes ∧ visited.registry.heap ref = before.heap ref)
  read : visited.heartbeats <+: readAll listing
  complete : visited.completed = (readAll listing).all (wellFormed R)
  all : visited.completed = true → visited.heartbeats = readAll listing

theorem Visited.skip {before : Registry R} {rest : Listing} {visited : Visit R} {child : Bytes × Option Bytes}
    (unread : readHeartbeat (Client.getNodeData child.2) = none) (later : Visited before rest visited) :
    Visited before (child :: rest) visited := by
  have same : readAll (child :: rest) = readAll rest := by
    rw [readAll, List.filterMap_cons, unread]
    rfl
  exact { later with
    read := by rw [same]; exact later.read
    complete := by rw [same]; exact later.complete
    all := by rw [same]; exact later.all }

/-- The heartbeat of the first child is used, and the loop goes on or breaks
off. -/
theorem Visited.use {before : Registry R} {rest : Listing} {child : Bytes × Option Bytes}
    {heartbeat : WorkerHeartbeat} (valid : before.Valid)
    (reading : readHeartbeat (Client.getNodeData child.2) = some heartbeat) {later : Visit R}
    (visited : Visited (before.updateWorkerNode heartbeat).1 rest later)
    (fine : wellFormed R heartbeat = true) :
    Visited before (child :: rest) { later with heartbeats := heartbeat :: later.heartbeats } := by
  have listed : readAll (child :: rest) = heartbeat :: readAll rest := by
    rw [readAll, List.filterMap_cons, reading]
    rfl
  refine ⟨visited.valid, fun id => ?_, fun ref member => ?_, ?_, ?_, fun completed => ?_⟩
  · rw [visited.ids, Registry.mem_workerIds_update valid, or_assoc, @eq_comm _ id]
    simp only [List.mem_cons, exists_eq_or_imp]
  · rw [lastHeartbeat_cons]
    rcases visited.node ref member with ⟨last, found, carries⟩ | ⟨missing, old, unchanged⟩
    · exact .inl ⟨last, by rw [found, Option.some_or], carries⟩
    · rw [missing, Option.none_or, unchanged]
      rcases Registry.node_update valid heartbeat old with ⟨carries, healthy⟩ | ⟨older, same, other⟩
      · exact .inl ⟨heartbeat, if_pos carries.workerId.symm, carries, healthy⟩
      · rw [same]
        exact .inr ⟨if_neg (Ne.symm other), older, rfl⟩
  · rw [listed]
    exact List.prefix_cons_inj heartbeat |>.mpr visited.read
  · rw [listed, List.all_cons, fine, Bool.true_and]
    exact visited.complete
  · rw [listed, visited.all completed]

theorem Visited.breakOff {before : Registry R} {rest : Listing} {child : Bytes × Option Bytes}
    {heartbeat : WorkerHeartbeat} (valid : before.Valid)
    (reading : readHeartbeat (Client.getNodeData child.2) = some heartbeat)
    (malformed : wellFormed R heartbeat = false) :
    Visited before (child :: rest)
      { registry := (before.updateWorkerNode heartbeat).1, heartbeats := [heartbeat], completed := false } := by
  have listed : readAll (child :: rest) = heartbeat :: readAll rest := by
    rw [readAll, List.filterMap_cons, reading]
    rfl
  refine ⟨valid.update heartbeat, fun id => ?_, fun ref member => ?_, ?_, ?_, nofun⟩
  · rw [Registry.mem_workerIds_update valid]
    simp [eq_comm]
  · rw [lastHeartbeat_cons]
    rcases Registry.node_update valid heartbeat member with ⟨carries, healthy⟩ | ⟨older, same, other⟩
    · exact .inl ⟨heartbeat, if_pos carries.workerId.symm, carries, healthy⟩
    · simp only [same]
      exact .inr ⟨if_neg (Ne.symm other), older, trivial⟩
  · rw [listed]
    exact List.prefix_cons_inj heartbeat |>.mpr List.nil_prefix
  · rw [listed, List.all_cons, malformed, Bool.false_and]

theorem Registry.visit_cons {registry : Registry R} {rest : Listing} {child : Bytes × Option Bytes}
    {heartbeat : WorkerHeartbeat} (reading : readHeartbeat (Client.getNodeData child.2) = some heartbeat) :
    registry.visit (child :: rest) =
      if wellFormed R heartbeat then
        let later := (registry.updateWorkerNode heartbeat).1.visit rest
        { later with heartbeats := heartbeat :: later.heartbeats }
      else
        { registry := (registry.updateWorkerNode heartbeat).1, heartbeats := [heartbeat], completed := false } := by
  obtain ⟨_, _, _, whether, _⟩ := updateWorkerNode_cases registry heartbeat
  simp only [visit, reading]
  rcases outcome : registry.updateWorkerNode heartbeat with ⟨next, completed⟩
  rw [outcome] at whether
  cases completed with
  | true => simp only [if_pos whether.symm]
  | false => simp only [if_neg (Bool.eq_false_iff.mp whether.symm)]

theorem Registry.visit_spec {registry : Registry R} (valid : registry.Valid) (listing : Listing) :
    Visited registry listing (registry.visit listing) := by
  induction listing generalizing registry with
  | nil =>
      refine ⟨valid, fun id => ?_, fun ref member => .inr ⟨rfl, member, rfl⟩, List.nil_prefix, rfl, fun _ => rfl⟩
      simp [visit]
  | cons child rest ih =>
      cases reading : readHeartbeat (Client.getNodeData child.2) with
      | none =>
          have skipped : registry.visit (child :: rest) = registry.visit rest := by rw [visit, reading]
          rw [skipped]
          exact (ih valid).skip reading
      | some heartbeat =>
          rw [visit_cons reading]
          cases fine : wellFormed R heartbeat with
          | true => exact Visited.use valid reading (ih (valid.update heartbeat)) fine
          | false => exact Visited.breakOff valid reading fine

/-! ## Whole runs -/

/-- The registered ids are distinct, they are those of the heartbeats that the
latest pass could read, and every worker has the data of its last heartbeat. -/
structure MirrorsZooKeeper (state : Balancer R) : Prop where
  distinct : state.registry.workerIds.Nodup
  exact : ∀ id, id ∈ state.registry.workerIds ↔
    ∃ heartbeat ∈ readAll state.lastListing, heartbeat.workerId = id
  current : ∀ ref ∈ state.registry.workerNodes, ∀ heartbeat,
    lastHeartbeat (readAll state.lastListing) (state.registry.heap ref).workerId = some heartbeat →
      Carries (state.registry.heap ref) heartbeat

/-- Every heartbeat of a pass has metrics that are numbers and is found under
the name of its worker, and every registered worker that is listed can be read. -/
def ListsReadableWorkers (state : Balancer R) : Action → Prop
  | .discover listing =>
      (∀ heartbeat ∈ readAll listing,
          wellFormed R heartbeat = true ∧ heartbeat.workerId ∈ listing.map Prod.fst) ∧
        ∀ id ∈ state.registry.workerIds, id ∈ listing.map Prod.fst →
          ∃ heartbeat ∈ readAll listing, heartbeat.workerId = id
  | _ => True

instance ListsReadableWorkers.instDecidable (state : Balancer R) :
    (action : Action) → Decidable (ListsReadableWorkers state action)
  | .discover _ => inferInstanceAs (Decidable (_ ∧ _))
  | .check _ | .setStrategy _ | .selectWorker _ _ | .distribute _ => inferInstanceAs (Decidable True)

section Passes

variable {registry : Registry R}

omit [Double R] in
theorem Registry.workerIds_remove (registry : Registry R) (names : List Bytes) :
    (registry.removeInactiveWorkers names).workerIds = registry.workerIds.filter names.contains := by
  simp only [workerIds, removeInactiveWorkers, List.filter_map]
  rfl

omit [Double R] in
theorem Registry.Valid.remove (valid : registry.Valid) (names : List Bytes) :
    (registry.removeInactiveWorkers names).Valid where
  distinct := by
    rw [workerIds_remove]
    exact valid.distinct.filter _
  allocated ref member := valid.allocated ref (List.mem_filter.mp member).1

/-- The nodes differ at most in what heartbeats do not set for good. -/
structure SameWorker (left right : WorkerNode R) : Prop where
  workerId : left.workerId = right.workerId
  workerIp : left.workerIp = right.workerIp
  workerPort : left.workerPort = right.workerPort
  lastHeartbeat : left.lastHeartbeat = right.lastHeartbeat
  capabilities : left.capabilities = right.capabilities

theorem Registry.sameWorker_checkWorkers (registry : Registry R) (now : Int) (ref : Nat) :
    SameWorker ((registry.checkWorkers now).heap ref) (registry.heap ref) := by
  simp only [checkWorkers, checkNode]
  split
  · split <;> exact ⟨rfl, rfl, rfl, rfl, rfl⟩
  · exact ⟨rfl, rfl, rfl, rfl, rfl⟩

omit [Double R] in
theorem sameWorker_distribute (balancer : Balancer R) (ref : Nat) (published : Bool) (other : Nat) :
    SameWorker ((distribute balancer ref published).registry.heap other) (balancer.registry.heap other) := by
  by_cases same : other = ref
  · subst same
    simp only [distribute, Registry.setNode, Function.update_self]
    exact ⟨rfl, rfl, rfl, rfl, rfl⟩
  · simp only [distribute, Registry.setNode, Function.update_of_ne same]
    exact ⟨rfl, rfl, rfl, rfl, rfl⟩

variable {before after : Registry R}

omit [Double R] in
theorem Registry.workerIds_congr (sameNodes : after.workerNodes = before.workerNodes)
    (same : ∀ ref, SameWorker (after.heap ref) (before.heap ref)) : after.workerIds = before.workerIds := by
  rw [workerIds, workerIds, sameNodes]
  exact List.map_congr_left fun ref _ => (same ref).workerId

omit [Double R] in
theorem Registry.Valid.congr (valid : before.Valid) (sameNodes : after.workerNodes = before.workerNodes)
    (sameAllocated : after.allocated = before.allocated)
    (same : ∀ ref, SameWorker (after.heap ref) (before.heap ref)) : after.Valid where
  distinct := by
    rw [workerIds_congr sameNodes same]
    exact valid.distinct
  allocated ref member := by
    rw [sameAllocated]
    exact valid.allocated ref (sameNodes ▸ member)

/-- Ids are distinct after any pass. -/
theorem Registry.Valid.discover {state : Balancer R} (valid : state.registry.Valid) (hash : Bytes → UInt32)
    (listing : Listing) : (LoadBalancer.discover hash state listing).registry.Valid := by
  have visited := Registry.visit_spec valid listing
  rw [LoadBalancer.discover]
  split
  · exact visited.valid.remove _
  · exact visited.valid

end Passes

omit [Double R] in
theorem MirrorsZooKeeper.congr {before after : Balancer R} (mirrors : MirrorsZooKeeper before)
    (sameListing : after.lastListing = before.lastListing)
    (sameNodes : after.registry.workerNodes = before.registry.workerNodes)
    (same : ∀ ref, SameWorker (after.registry.heap ref) (before.registry.heap ref)) :
    MirrorsZooKeeper after := by
  have ids := Registry.workerIds_congr sameNodes same
  refine ⟨by rw [ids]; exact mirrors.distinct, by rw [ids, sameListing]; exact mirrors.exact, ?_⟩
  intro ref member heartbeat found
  have worker := same ref
  rw [sameListing, worker.workerId] at found
  have carries := mirrors.current ref (sameNodes ▸ member) heartbeat found
  exact ⟨worker.workerId.trans carries.workerId, worker.workerIp.trans carries.workerIp,
    worker.workerPort.trans carries.workerPort, worker.lastHeartbeat.trans carries.lastHeartbeat,
    worker.capabilities.trans carries.capabilities⟩

/-- Exact numbers, read from decimal digits. -/
def Exact : Type := Rat

def readDigits (text : Bytes) : Option Nat :=
  if text.isEmpty then none
  else text.foldlM (fun value digit =>
    if 48 ≤ digit ∧ digit ≤ 57 then some (value * 10 + (digit.toNat - 48)) else none) 0

instance Exact.instDouble : Double Exact where
  add := Rat.add
  sub := Rat.sub
  mul := Rat.mul
  div := Rat.div
  lt left right := Rat.blt left right = true
  ofScientific := Rat.ofScientific
  intCast := Rat.ofInt
  decideLT left right := inferInstanceAs (Decidable (Rat.blt left right = true))
  stod text := (readDigits text).map fun value => Rat.ofInt value
  toInt value := value.num.tdiv value.den

def plainHeartbeat (workerId : String) (timestamp : Int64) (dec : StringMap) : WorkerHeartbeat :=
  { workerId := utf8 workerId, workerIp := utf8 "h", workerPort := 80, timestamp, isHealthy := true, dec }

/-- A child that can be read, with at most one item in its `dec`. -/
def znode (name : String) (heartbeat : WorkerHeartbeat) (order : List (Bytes × Bytes)) : Bytes × Option Bytes :=
  (utf8 name, some (heartbeat.serializeToString order))

def cpuText (text : String) : StringMap := (∅ : StringMap).insert (utf8 "cpu_usage") (utf8 text)

end TaskHive.LoadBalancer
