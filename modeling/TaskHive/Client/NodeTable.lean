import Mathlib.Algebra.Order.Ring.Int
import Mathlib.Data.List.Perm.Basic
import TaskHive.Client.LoadBalance
import TaskHive.Machine
import TaskHive.Scheduler.Heartbeat

namespace TaskHive.Client

open TaskHive.Wire

/-! # `updata_secheduler_node_table_threadfunction`

The table thread reads the heartbeat of every registered scheduler into the
table and sweeps the entries that the last pass did not renew.  It tests
neither whether the node was still there, nor whether its data parses, nor
`is_healthy`. -/

/-! ## Reading one heartbeat -/

inductive Metric where
  | cpuUsage
  | memoryUsage
  | diskUsage
  | networkUsage
deriving DecidableEq

def Metric.key : Metric → Bytes
  | .cpuUsage => utf8 "cpu_usage"
  | .memoryUsage => utf8 "memory_usage"
  | .diskUsage => utf8 "disk_usage"
  | .networkUsage => utf8 "network_usage"

def Metric.ofKey (key : Bytes) : Option Metric :=
  if key = Metric.cpuUsage.key then some .cpuUsage
  else if key = Metric.memoryUsage.key then some .memoryUsage
  else if key = Metric.diskUsage.key then some .diskUsage
  else if key = Metric.networkUsage.key then some .networkUsage
  else none

theorem Metric.ofKey_eq_some {key : Bytes} {metric : Metric} : ofKey key = some metric ↔ key = metric.key := by
  constructor
  · intro found
    unfold ofKey at found
    repeat' split at found
    all_goals cases found
    all_goals assumption
  · rintro rfl
    cases metric <;> decide

theorem Metric.key_injective {left right : Metric} (same : left.key = right.key) : left = right := by
  have found := ofKey_eq_some.mpr same
  rw [ofKey_eq_some.mpr rfl, Option.some.injEq] at found
  exact found

section Node

variable {R : Type u}

def SchedulerNodeInfo.metric (node : SchedulerNodeInfo R) : Metric → R
  | .cpuUsage => node.cpuUsage
  | .memoryUsage => node.memoryUsage
  | .diskUsage => node.diskUsage
  | .networkUsage => node.networkUsage

def SchedulerNodeInfo.setMetric (node : SchedulerNodeInfo R) (metric : Metric) (value : R) :
    SchedulerNodeInfo R :=
  match metric with
  | .cpuUsage => { node with cpuUsage := value }
  | .memoryUsage => { node with memoryUsage := value }
  | .diskUsage => { node with diskUsage := value }
  | .networkUsage => { node with networkUsage := value }

def SchedulerNodeInfo.host (node : SchedulerNodeInfo R) : Host := (node.ip, node.port)

@[simp] theorem SchedulerNodeInfo.metric_setMetric_self (node : SchedulerNodeInfo R) (metric : Metric) (value : R) :
    (node.setMetric metric value).metric metric = value := by
  cases metric <;> rfl

theorem SchedulerNodeInfo.metric_setMetric_of_ne (node : SchedulerNodeInfo R) {metric other : Metric} (value : R)
    (different : other ≠ metric) : (node.setMetric metric value).metric other = node.metric other := by
  cases metric <;> cases other <;> first | rfl | exact absurd rfl different

theorem SchedulerNodeInfo.host_setMetric (node : SchedulerNodeInfo R) (metric : Metric) (value : R) :
    (node.setMetric metric value).host = node.host := by
  cases metric <;> rfl

theorem SchedulerNodeInfo.undataFlag_setMetric (node : SchedulerNodeInfo R) (metric : Metric) (value : R) :
    (node.setMetric metric value).undataFlag = node.undataFlag := by
  cases metric <;> rfl

/-- One item of `dec()`.  `stod` throws on a text that is no number. -/
def assignMetric (stod : Bytes → Option R) (node : SchedulerNodeInfo R) (item : Bytes × Bytes) :
    Option (SchedulerNodeInfo R) :=
  match Metric.ofKey item.1 with
  | some metric => (stod item.2).map (node.setMetric metric)
  | none => some node

/-- A metric that no item of `dec()` names keeps whatever `stale` was in its
memory. -/
def nodeInfo (stod : Bytes → Option R) (stale : Metric → R) (order : List (Bytes × Bytes))
    (heartbeat : SchedulerHeartbeat) : Option (SchedulerNodeInfo R) :=
  order.foldlM (assignMetric stod)
    { ip := heartbeat.schedulerIp
      port := heartbeat.schedulerPort
      undataFlag := true
      cpuUsage := stale .cpuUsage
      memoryUsage := stale .memoryUsage
      diskUsage := stale .diskUsage
      networkUsage := stale .networkUsage }

variable {stod : Bytes → Option R}

/-- The loop leaves alone whatever no metric is part of. -/
theorem foldlM_assignMetric_keeps {β : Type v} {part : SchedulerNodeInfo R → β}
    (kept : ∀ node metric value, part (node.setMetric metric value) = part node)
    {order : List (Bytes × Bytes)} {node final : SchedulerNodeInfo R}
    (read : order.foldlM (assignMetric stod) node = some final) : part final = part node := by
  induction order generalizing node with
  | nil => cases read; rfl
  | cons item rest ih =>
      obtain ⟨next, assigned, continued⟩ := Option.bind_eq_some_iff.mp read
      rw [ih continued]
      unfold assignMetric at assigned
      split at assigned
      · obtain ⟨value, _, rfl⟩ := Option.map_eq_some_iff.mp assigned
        exact kept node _ value
      · cases assigned; rfl

theorem host_nodeInfo {stale : Metric → R} {order : List (Bytes × Bytes)} {heartbeat : SchedulerHeartbeat}
    {node : SchedulerNodeInfo R} (read : nodeInfo stod stale order heartbeat = some node) :
    node.host = (heartbeat.schedulerIp, heartbeat.schedulerPort) :=
  foldlM_assignMetric_keeps SchedulerNodeInfo.host_setMetric read

theorem undataFlag_nodeInfo {stale : Metric → R} {order : List (Bytes × Bytes)} {heartbeat : SchedulerHeartbeat}
    {node : SchedulerNodeInfo R} (read : nodeInfo stod stale order heartbeat = some node) :
    node.undataFlag = true :=
  foldlM_assignMetric_keeps SchedulerNodeInfo.undataFlag_setMetric read

/-- What a metric becomes: the number of the text that was found for it, or what
its memory held before. -/
def Becomes (stod : Bytes → Option R) (stale : R) (found : Option Bytes) (value : R) : Prop :=
  match found with
  | some text => stod text = some value
  | none => stale = value

/-- The loop as a whole: a metric with an item gets the number of its text, the
others keep what was there. -/
theorem foldlM_assignMetric_iff {order : List (Bytes × Bytes)} (distinct : (order.map Prod.fst).Nodup)
    (node : SchedulerNodeInfo R) (value : Metric → R) :
    (∃ final, order.foldlM (assignMetric stod) node = some final ∧ ∀ metric, final.metric metric = value metric) ↔
      ∀ metric, Becomes stod (node.metric metric) (order.lookup metric.key) (value metric) := by
  induction order generalizing node with
  | nil => simp [Becomes]
  | cons item rest ih =>
      rw [List.map_cons, List.nodup_cons] at distinct
      have assigned (metric : Metric) :
          (item :: rest).lookup metric.key =
            if metric.key = item.1 then some item.2 else rest.lookup metric.key := by
        rw [List.lookup_cons]
        by_cases same : metric.key = item.1
        · simp [same]
        · rw [if_neg same, beq_false_of_ne same]
      have absent {metric : Metric} (named : metric.key = item.1) : rest.lookup metric.key = none := by
        refine List.lookup_eq_none_iff.mpr fun other member => ?_
        have different : metric.key ≠ other.1 := by
          rintro same
          exact distinct.1 (List.mem_map.mpr ⟨other, member, same.symm.trans named⟩)
        simpa using different
      simp only [List.foldlM_cons, assigned]
      cases named : Metric.ofKey item.1 with
      | none =>
          have unnamed (metric : Metric) : metric.key ≠ item.1 := by
            intro same
            rw [Metric.ofKey_eq_some.mpr same.symm] at named
            cases named
          simp only [assignMetric, named, unnamed, if_false]
          exact ih distinct.2 node
      | some target =>
          have key := Metric.ofKey_eq_some.mp named
          simp only [assignMetric, named]
          cases number : stod item.2 with
          | none =>
              simp only [Option.map_none]
              constructor
              · rintro ⟨final, read, _⟩
                cases read
              · intro fits
                have target := fits target
                rw [if_pos key.symm, Becomes, number] at target
                cases target
          | some read =>
              refine (ih distinct.2 (node.setMetric target read)).trans (forall_congr' fun metric => ?_)
              by_cases same : metric = target
              · subst metric
                simp [Becomes, absent key.symm, key, number]
              · have other : metric.key ≠ item.1 := by
                  rw [key]
                  exact fun equal => same (Metric.key_injective equal)
                rw [if_neg other, node.metric_setMetric_of_ne read same]

theorem nodeInfo_metrics_iff (stod : Bytes → Option R) (stale : Metric → R) {order : List (Bytes × Bytes)}
    {heartbeat : SchedulerHeartbeat} (iterates : Iterates order heartbeat.dec) (value : Metric → R) :
    (∃ node, nodeInfo stod stale order heartbeat = some node ∧ ∀ metric, node.metric metric = value metric) ↔
      ∀ metric, Becomes stod (stale metric) (heartbeat.dec.lookup metric.key) (value metric) := by
  refine (foldlM_assignMetric_iff iterates.distinct _ value).trans (forall_congr' fun metric => ?_)
  rw [iterates.assocLookup]
  cases metric <;> rfl

end Node

/-! ## The table thread -/

/-- `getNodeData` answers with an empty text when the node cannot be read, and
with the first 1024 bytes of its data otherwise. -/
def getNodeData : Option Bytes → Bytes
  | none => []
  | some data => data.take 1024

/-- What one read left in the message: a failed parse is not noticed, and
leaves some part of the data in it. -/
structure Reading where
  parsed : Bool
  heartbeat : SchedulerHeartbeat
deriving DecidableEq

def readHeartbeat (text : Bytes) (leftover : SchedulerHeartbeat) : Reading :=
  match SchedulerHeartbeat.parseFromString text with
  | some heartbeat => { parsed := true, heartbeat }
  | none => { parsed := false, heartbeat := leftover }

theorem readHeartbeat_of_parsed {text : Bytes} {heartbeat : SchedulerHeartbeat}
    (parsed : SchedulerHeartbeat.parseFromString text = some heartbeat) (leftover : SchedulerHeartbeat) :
    readHeartbeat text leftover = { parsed := true, heartbeat } := by
  rw [readHeartbeat, parsed]

def Reading.host (reading : Reading) : Host :=
  (reading.heartbeat.schedulerIp, reading.heartbeat.schedulerPort)

/-- The reading is one of a scheduler that can be chosen. -/
def Reading.Good (reading : Reading) : Prop :=
  reading.parsed = true ∧ reading.heartbeat.isHealthy = true ∧ reading.heartbeat.schedulerIp ≠ []

instance : DecidablePred Reading.Good := fun _ => inferInstanceAs (Decidable (_ ∧ _))

/-- Where the table thread is.  An exception of `stod` ends the process. -/
inductive TablePc (R : Type u) where
  | listing
  | visiting (children : List Bytes)
  | recording (schedulerId : Bytes) (node : SchedulerNodeInfo R) (children : List Bytes)
  | sleeping
  | terminated
deriving DecidableEq

/-- `readings` records every heartbeat in the order it was read. -/
structure TableState (R : Type u) where
  table : NodeTable R := []
  pc : TablePc R := .listing
  readings : List Reading := []

/-- The environment chooses what ZooKeeper answers, what a failed parse leaves,
what uninitialised metrics hold and the iteration orders of the hash maps. -/
inductive TableAction (R : Type u) where
  | getAllNode (children : List Bytes)
  | visit (data : Option Bytes) (leftover : SchedulerHeartbeat) (stale : Metric → R)
      (order : List (Bytes × Bytes))
  | record (rearranged : NodeTable R)
  | endPass
  | sweep

section Machine

variable {R : Type u}

def NodeTable.insert (table : NodeTable R) (schedulerId : Bytes) (node : SchedulerNodeInfo R) : NodeTable R :=
  table.filter (fun entry => entry.1 ≠ schedulerId) ++ [(schedulerId, node)]

/-- Entries that were not renewed go, the others have their flag reset. -/
def NodeTable.sweep (table : NodeTable R) : NodeTable R :=
  (table.filter fun entry => entry.2.undataFlag).map fun entry => (entry.1, { entry.2 with undataFlag := false })

def tableStep [DecidableEq R] (stod : Bytes → Option R) (state : TableState R) :
    TableAction R → Option (TableState R)
  | .getAllNode children =>
      match state.pc with
      | .listing => some { state with pc := .visiting children }
      | _ => none
  | .visit data leftover stale order =>
      match state.pc with
      | .visiting (_ :: rest) =>
          let reading := readHeartbeat (getNodeData data) leftover
          if Iterates order reading.heartbeat.dec then
            match nodeInfo stod stale order reading.heartbeat with
            | some node =>
                some { state with
                  readings := state.readings ++ [reading]
                  pc := .recording reading.heartbeat.schedulerId node rest }
            | none => some { state with readings := state.readings ++ [reading], pc := .terminated }
          else none
      | _ => none
  | .record rearranged =>
      match state.pc with
      | .recording schedulerId node rest =>
          -- the insertion may rehash the map
          if rearranged.Perm (state.table.insert schedulerId node) then
            some { state with table := rearranged, pc := .visiting rest }
          else none
      | _ => none
  | .endPass =>
      match state.pc with
      | .visiting [] => some { state with pc := .sleeping }
      | _ => none
  | .sweep =>
      match state.pc with
      | .sleeping => some { state with table := state.table.sweep, pc := .listing }
      | _ => none

def tableThread [DecidableEq R] (stod : Bytes → Option R) : Machine (TableState R) (TableAction R) where
  init := {}
  step := tableStep stod

/-- The last heartbeat that was read for this scheduler. -/
def lastReading (readings : List Reading) (schedulerId : Bytes) : Option Reading :=
  readings.reverse.find? fun reading => reading.heartbeat.schedulerId = schedulerId

/-- Whatever strategy is asked, and whatever the round-robin index is, a host
that comes back was read from a scheduler whose last reading is good. -/
def ChoosesHealthy [LT R] [DecidableLT R] [Zero R] [Add R] [Sub R] [Mul R] (state : TableState R) : Prop :=
  ∀ (config : LoadBalanceConfig R) (index : Nat) (host : Host),
    (chooseNode config index state.table).1 = .ok host →
      ∃ reading ∈ state.readings, reading.host = host ∧
        ∃ last, lastReading state.readings reading.heartbeat.schedulerId = some last ∧ last.Good

/-- Every node that is visited can be read and holds a healthy heartbeat with
an address. -/
def VisitsHealthy (_ : TableState R) : TableAction R → Prop
  | .visit data leftover _ _ => (readHeartbeat (getNodeData data) leftover).Good
  | _ => True

instance (state : TableState R) : (action : TableAction R) → Decidable (VisitsHealthy state action)
  | .visit data leftover _ _ => inferInstanceAs (Decidable (readHeartbeat (getNodeData data) leftover).Good)
  | .getAllNode _ | .record _ | .endPass | .sweep => inferInstanceAs (Decidable True)

/-- The node was built from a reading of this scheduler. -/
def ReadFrom (readings : List Reading) (schedulerId : Bytes) (node : SchedulerNodeInfo R) : Prop :=
  ∃ reading ∈ readings, reading.heartbeat.schedulerId = schedulerId ∧ reading.host = node.host

theorem ReadFrom.concat {readings : List Reading} {schedulerId : Bytes} {node : SchedulerNodeInfo R}
    (known : ReadFrom readings schedulerId node) (reading : Reading) :
    ReadFrom (readings ++ [reading]) schedulerId node := by
  obtain ⟨earlier, member, named⟩ := known
  exact ⟨earlier, List.mem_append_left _ member, named⟩

/-- What is in the table, or about to be, was read. -/
structure TableRead (state : TableState R) : Prop where
  entries : ∀ entry ∈ state.table, ReadFrom state.readings entry.1 entry.2
  recording : ∀ schedulerId node children, state.pc = .recording schedulerId node children →
    ReadFrom state.readings schedulerId node

/-- What a step of the thread does to its state. -/
inductive TableStep (stod : Bytes → Option R) (before : TableState R) : TableAction R → TableState R → Prop where
  | getAllNode {children : List Bytes} (listing : before.pc = .listing) :
      TableStep stod before (.getAllNode children) { before with pc := .visiting children }
  | visit {data : Option Bytes} {leftover : SchedulerHeartbeat} {stale : Metric → R} {order : List (Bytes × Bytes)}
      {child : Bytes} {rest : List Bytes} {reading : Reading} {node : SchedulerNodeInfo R}
      (visiting : before.pc = .visiting (child :: rest))
      (came : reading = readHeartbeat (getNodeData data) leftover)
      (iterates : Iterates order reading.heartbeat.dec)
      (read : nodeInfo stod stale order reading.heartbeat = some node) :
      TableStep stod before (.visit data leftover stale order)
        { before with
          readings := before.readings ++ [reading]
          pc := .recording reading.heartbeat.schedulerId node rest }
  | throw {data : Option Bytes} {leftover : SchedulerHeartbeat} {stale : Metric → R} {order : List (Bytes × Bytes)}
      {child : Bytes} {rest : List Bytes} {reading : Reading}
      (visiting : before.pc = .visiting (child :: rest))
      (came : reading = readHeartbeat (getNodeData data) leftover)
      (thrown : nodeInfo stod stale order reading.heartbeat = none) :
      TableStep stod before (.visit data leftover stale order)
        { before with readings := before.readings ++ [reading], pc := .terminated }
  | record {rearranged : NodeTable R} {schedulerId : Bytes} {node : SchedulerNodeInfo R} {rest : List Bytes}
      (recording : before.pc = .recording schedulerId node rest)
      (rearrangement : rearranged.Perm (before.table.insert schedulerId node)) :
      TableStep stod before (.record rearranged) { before with table := rearranged, pc := .visiting rest }
  | endPass (visiting : before.pc = .visiting []) :
      TableStep stod before .endPass { before with pc := .sleeping }
  | sweep (sleeping : before.pc = .sleeping) :
      TableStep stod before .sweep { before with table := before.table.sweep, pc := .listing }

theorem tableStep_cases [DecidableEq R] {stod : Bytes → Option R} {before after : TableState R}
    {action : TableAction R} (stepped : tableStep stod before action = some after) :
    TableStep stod before action after := by
  cases action with
  | getAllNode children =>
      simp only [tableStep] at stepped
      split at stepped
      · rename_i listing
        cases stepped
        exact .getAllNode listing
      · cases stepped
  | visit data leftover stale order =>
      simp only [tableStep] at stepped
      split at stepped
      · rename_i visiting
        split at stepped
        · rename_i iterates
          split at stepped
          · rename_i read
            cases stepped
            exact .visit visiting rfl iterates read
          · rename_i thrown
            cases stepped
            exact .throw visiting rfl thrown
        · cases stepped
      · cases stepped
  | record rearranged =>
      simp only [tableStep] at stepped
      split at stepped
      · rename_i recording
        split at stepped
        · rename_i rearrangement
          cases stepped
          exact .record recording rearrangement
        · cases stepped
      · cases stepped
  | endPass =>
      simp only [tableStep] at stepped
      split at stepped
      · rename_i visiting
        cases stepped
        exact .endPass visiting
      · cases stepped
  | sweep =>
      simp only [tableStep] at stepped
      split at stepped
      · rename_i sleeping
        cases stepped
        exact .sweep sleeping
      · cases stepped

theorem NodeTable.mem_insert {table : NodeTable R} {schedulerId : Bytes} {node : SchedulerNodeInfo R}
    {entry : Bytes × SchedulerNodeInfo R} :
    entry ∈ table.insert schedulerId node ↔
      entry ∈ table ∧ entry.1 ≠ schedulerId ∨ entry = (schedulerId, node) := by
  simp [NodeTable.insert]

theorem NodeTable.mem_sweep {table : NodeTable R} {entry : Bytes × SchedulerNodeInfo R} :
    entry ∈ table.sweep ↔
      ∃ old ∈ table, old.2.undataFlag = true ∧ (old.1, { old.2 with undataFlag := false }) = entry := by
  simp only [NodeTable.sweep, List.mem_map, List.mem_filter, and_assoc]

theorem tableRead_step [DecidableEq R] {stod : Bytes → Option R} {before after : TableState R}
    {action : TableAction R} (known : TableRead before) (stepped : tableStep stod before action = some after) :
    TableRead after := by
  cases tableStep_cases stepped with
  | getAllNode | endPass => exact { known with recording := by simp }
  | visit visiting came iterates read =>
      refine ⟨fun entry member => (known.entries entry member).concat _, ?_⟩
      rintro _ _ _ ⟨⟩
      exact ⟨_, List.mem_append_right _ (List.mem_singleton_self _), rfl, (host_nodeInfo read).symm⟩
  | throw => exact ⟨fun entry member => (known.entries entry member).concat _, by simp⟩
  | record recording rearrangement =>
      refine ⟨fun entry member => ?_, by simp⟩
      rcases NodeTable.mem_insert.mp (rearrangement.mem_iff.mp member) with ⟨kept, _⟩ | rfl
      · exact known.entries entry kept
      · exact known.recording _ _ _ recording
  | sweep =>
      refine ⟨fun entry member => ?_, by simp⟩
      obtain ⟨old, kept, _, rfl⟩ := NodeTable.mem_sweep.mp member
      exact known.entries old kept

/-- A step adds at most the reading of its own visit. -/
theorem good_readings_step [DecidableEq R] {stod : Bytes → Option R} {before after : TableState R}
    {action : TableAction R} (good : ∀ reading ∈ before.readings, reading.Good)
    (permitted : VisitsHealthy before action) (stepped : tableStep stod before action = some after) :
    ∀ reading ∈ after.readings, reading.Good := by
  cases tableStep_cases stepped with
  | getAllNode | record | endPass | sweep => exact good
  | visit _ came | throw _ came =>
      intro reading member
      rcases List.mem_append.mp member with old | new
      · exact good reading old
      · rw [List.mem_singleton.mp new, came]
        exact permitted

theorem lastReading_good {readings : List Reading} (good : ∀ reading ∈ readings, reading.Good)
    {reading : Reading} (member : reading ∈ readings) :
    ∃ last, lastReading readings reading.heartbeat.schedulerId = some last ∧ last.Good := by
  cases found : lastReading readings reading.heartbeat.schedulerId with
  | some last => exact ⟨last, rfl, good last (List.mem_reverse.mp (List.mem_of_find?_eq_some found))⟩
  | none =>
      have absent := List.find?_eq_none.mp found reading (List.mem_reverse.mpr member)
      simp at absent

/-- As long as every visited node holds a healthy heartbeat with an address,
every host that is returned is one of such a scheduler. -/
theorem chooses_healthy_schedulers [DecidableEq R] [LT R] [DecidableLT R] [Zero R] [Add R] [Sub R] [Mul R]
    (stod : Bytes → Option R) {state : TableState R}
    (reached : (tableThread stod).ReachableBy VisitsHealthy state) : ChoosesHealthy state := by
  have known : TableRead state ∧ ∀ reading ∈ state.readings, reading.Good := by
    refine @Machine.ReachableBy.invariant _ _ _ _
      (fun state => TableRead state ∧ ∀ reading ∈ state.readings, reading.Good) _ reached ?_ ?_
    · exact ⟨⟨by simp [tableThread], by simp [tableThread]⟩, by simp [tableThread]⟩
    · intro before action after holds permitted stepped
      exact ⟨tableRead_step holds.1 stepped, good_readings_step holds.2 permitted stepped⟩
  intro config index host chosen
  obtain ⟨entry, member, rfl⟩ := mem_of_chooseNode chosen
  obtain ⟨reading, readMember, _, sameHost⟩ := known.1.entries entry member
  exact ⟨reading, readMember, sameHost, lastReading_good known.2 readMember⟩

end Machine

/-- The visit of a node, with zeros in the memory of the metrics. -/
def plainVisit (data : Option Bytes) : TableAction Int :=
  .visit data {} (fun _ => 0) []

/-- The visit of a scheduler with this name and address. -/
def visitOf (zkNode receiveTaskHost : Bytes) (receiveTaskPort : Int32) : TableAction Int :=
  let identity : Scheduler.Identity := { zkNode, receiveTaskHost, receiveTaskPort, dec := ∅ }
  plainVisit (some ((identity.heartbeat 7 true).serializeToString []))

def plainNode (ip : Bytes) (port : Int32) : SchedulerNodeInfo Int :=
  { ip, port, undataFlag := true, cpuUsage := 0, memoryUsage := 0, diskUsage := 0, networkUsage := 0 }

/-- One healthy scheduler is registered, and it is chosen. -/
theorem chooses_healthy_plain_scheduler :
    ∃ state : TableState Int, (tableThread fun _ => some 0).ReachableBy VisitsHealthy state ∧
      state.table = [(utf8 "s", plainNode (utf8 "h") 80)] ∧ ChoosesHealthy state := by
  obtain ⟨state, reached, table⟩ :=
    (tableThread fun _ => some 0).reachableBy_of_any VisitsHealthy
      (fun state : TableState Int => state.table = [(utf8 "s", plainNode (utf8 "h") 80)])
      [.getAllNode [utf8 "s"],
        plainVisit (some ((Scheduler.plainScheduler.heartbeat 7 true).serializeToString [])),
        .record [(utf8 "s", plainNode (utf8 "h") 80)], .endPass] (by decide)
  exact ⟨state, reached, table, chooses_healthy_schedulers _ reached⟩

/-- One child is gone when its data is read, and a scheduler that shuts down
has published its unhealthy heartbeat: the table holds an entry without an
address and the unhealthy scheduler, and round robin returns both. -/
theorem chooses_unhealthy_scheduler :
    ∃ state : TableState Int, (tableThread fun _ => some 0).Reachable state ∧
      state.table = [([], plainNode [] 0), (utf8 "s", plainNode (utf8 "h") 80)] ∧
      (roundRobinLoadBalance 0 state.table).1 = .ok (utf8 "h", 80) ∧
      (roundRobinLoadBalance 1 state.table).1 = .ok ([], 0) ∧
      lastReading state.readings (utf8 "s") =
        some { parsed := true, heartbeat := Scheduler.unhealthyHeartbeat Scheduler.plainScheduler 7 } ∧
      ¬ ChoosesHealthy state := by
  obtain ⟨state, reached, table, readings⟩ :=
    (tableThread fun _ => some 0).reachableBy_of_any (fun _ _ => True)
      (fun state : TableState Int =>
        state.table = [([], plainNode [] 0), (utf8 "s", plainNode (utf8 "h") 80)] ∧
        state.readings = [{ parsed := true, heartbeat := {} },
          { parsed := true, heartbeat := Scheduler.unhealthyHeartbeat Scheduler.plainScheduler 7 }])
      [.getAllNode [utf8 "a", utf8 "s"], plainVisit none, .record [([], plainNode [] 0)],
        plainVisit (some ((Scheduler.unhealthyHeartbeat Scheduler.plainScheduler 7).serializeToString [])),
        .record [([], plainNode [] 0), (utf8 "s", plainNode (utf8 "h") 80)], .endPass] (by decide)
  refine ⟨state, reached, table, by rw [table]; rfl, by rw [table]; rfl, by rw [readings]; decide, ?_⟩
  intro healthy
  obtain ⟨reading, member, _, last, found, good⟩ :=
    healthy { loadBalanceType := .roundRobin, loadBalanceWeight := [] } 1 ([], 0) (by rw [table]; rfl)
  have bad : ∀ reading ∈ state.readings, ¬ reading.Good := by
    rw [readings]
    decide
  exact bad last (List.mem_reverse.mp (List.mem_of_find?_eq_some found)) good

end TaskHive.Client
