import TaskHive.Wire.Varint

namespace TaskHive.Client

open TaskHive.Wire

/-! # Host selection

The table of schedulers is kept in the order in which its hash map is
iterated.  Metrics are values of an arbitrary ordered type. -/

inductive LoadBalanceType where
  | roundRobin
  | cpuPriority
  | memoryPriority
  | diskPriority
  | networkPriority
  | combinedLoadBalance
deriving DecidableEq, Repr

structure SchedulerNodeInfo (R : Type u) where
  ip : Bytes
  port : Int32
  undataFlag : Bool
  cpuUsage : R
  memoryUsage : R
  diskUsage : R
  networkUsage : R
deriving DecidableEq

abbrev NodeTable (R : Type u) := List (Bytes × SchedulerNodeInfo R)

abbrev Host := Bytes × Int32

structure LoadBalanceConfig (R : Type u) where
  loadBalanceType : LoadBalanceType
  loadBalanceWeight : List (String × R)

/-- `std::min_element`: the first element that no later one is below. -/
def minElement {α : Type u} (less : α → α → Bool) : List α → Option α
  | [] => none
  | first :: rest => some (rest.foldl (fun best next => if less next best then next else best) first)

/-- `std::max_element`: the first element that is not below a later one. -/
def maxElement {α : Type u} (less : α → α → Bool) : List α → Option α
  | [] => none
  | first :: rest => some (rest.foldl (fun best next => if less best next then next else best) first)

theorem mem_of_foldl_choice {α : Type u} (better : α → α → Bool) (first : α) (rest : List α) :
    rest.foldl (fun best next => if better best next then next else best) first ∈ first :: rest := by
  induction rest generalizing first with
  | nil => exact List.mem_singleton_self first
  | cons next rest ih =>
      rw [List.foldl_cons]
      split
      · exact List.mem_cons_of_mem first (ih next)
      · rcases List.mem_cons.mp (ih first) with same | later
        · rw [same]
          exact List.mem_cons_self
        · exact List.mem_cons_of_mem first (List.mem_cons_of_mem next later)

theorem mem_of_minElement {α : Type u} {less : α → α → Bool} {items : List α} {chosen : α}
    (found : minElement less items = some chosen) : chosen ∈ items := by
  cases items with
  | nil => cases found
  | cons first rest =>
      cases found
      exact mem_of_foldl_choice (fun best next => less next best) first rest

theorem mem_of_maxElement {α : Type u} {less : α → α → Bool} {items : List α} {chosen : α}
    (found : maxElement less items = some chosen) : chosen ∈ items := by
  cases items with
  | nil => cases found
  | cons first rest =>
      cases found
      exact mem_of_foldl_choice less first rest

def noHealthyNode : String := "no healthy scheduler node!!!!"

section Strategies

variable {R : Type u} [LT R] [DecidableLT R] [Zero R] [Add R] [Sub R] [Mul R]

/-- An empty table throws; otherwise the chosen entry gives the host. -/
def hostOf (chosen : Option (Bytes × SchedulerNodeInfo R)) : Except String Host :=
  match chosen with
  | none => .error noHealthyNode
  | some (_, node) => .ok (node.ip, node.port)

/-- The index moves before it is used, and only on a table with entries. -/
def roundRobinLoadBalance (index : Nat) (table : NodeTable R) : Except String Host × Nat :=
  if table.isEmpty then (.error noHealthyNode, index)
  else
    let next := (index + 1) % table.length
    (hostOf table[next]?, next)

/-- The entry with the least value, the first of several. -/
def leastNode (value : SchedulerNodeInfo R → R) (table : NodeTable R) : Option (Bytes × SchedulerNodeInfo R) :=
  minElement (fun left right => decide (value left.2 < value right.2)) table

def cpuPriorityNode (table : NodeTable R) : Option (Bytes × SchedulerNodeInfo R) :=
  leastNode SchedulerNodeInfo.cpuUsage table

def cpuPriorityLoadBalance (table : NodeTable R) : Except String Host := hostOf (cpuPriorityNode table)

def memoryPriorityNode (table : NodeTable R) : Option (Bytes × SchedulerNodeInfo R) :=
  leastNode SchedulerNodeInfo.memoryUsage table

def memoryPriorityLoadBalance (table : NodeTable R) : Except String Host := hostOf (memoryPriorityNode table)

def diskPriorityNode (table : NodeTable R) : Option (Bytes × SchedulerNodeInfo R) :=
  leastNode SchedulerNodeInfo.diskUsage table

def diskPriorityLoadBalance (table : NodeTable R) : Except String Host := hostOf (diskPriorityNode table)

/-- The only strategy that looks for the greatest value. -/
def networkPriorityNode (table : NodeTable R) : Option (Bytes × SchedulerNodeInfo R) :=
  maxElement (fun left right => decide (left.2.networkUsage < right.2.networkUsage)) table

def networkPriorityLoadBalance (table : NodeTable R) : Except String Host := hostOf (networkPriorityNode table)

/-- A weight that is not configured counts as zero. -/
def getCombinedScore (weights : List (String × R)) (node : SchedulerNodeInfo R) : R :=
  let weight (name : String) : R := (weights.lookup name).getD 0
  weight "cpu_usage" * node.cpuUsage + weight "memory_usage" * node.memoryUsage +
    weight "disk_usage" * node.diskUsage - weight "network_usage" * node.networkUsage

def combinedNode (weights : List (String × R)) (table : NodeTable R) : Option (Bytes × SchedulerNodeInfo R) :=
  leastNode (getCombinedScore weights) table

def combinedLoadBalance (weights : List (String × R)) (table : NodeTable R) : Except String Host :=
  hostOf (combinedNode weights table)

/-- The first critical section of `get_hearly_secheduler_node`. -/
def checkTable (table : NodeTable R) : Except String Unit :=
  if table.isEmpty then .error noHealthyNode else .ok ()

/-- The second critical section, inside the chosen strategy.  The table may
have changed in between. -/
def chooseNode (config : LoadBalanceConfig R) (index : Nat) (table : NodeTable R) :
    Except String Host × Nat :=
  match config.loadBalanceType with
  | .roundRobin => roundRobinLoadBalance index table
  | .cpuPriority => (cpuPriorityLoadBalance table, index)
  | .memoryPriority => (memoryPriorityLoadBalance table, index)
  | .diskPriority => (diskPriorityLoadBalance table, index)
  | .networkPriority => (networkPriorityLoadBalance table, index)
  | .combinedLoadBalance => (combinedLoadBalance config.loadBalanceWeight table, index)

omit [LT R] [DecidableLT R] [Zero R] [Add R] [Sub R] [Mul R] in
theorem checkTable_ok {table : NodeTable R} (nonempty : table ≠ []) : checkTable table = .ok () := by
  cases table with
  | nil => exact absurd rfl nonempty
  | cons entry rest => rfl

/-- Every strategy finds a host in a table with entries. -/
theorem chooseNode_ok (config : LoadBalanceConfig R) (index : Nat) {table : NodeTable R}
    (nonempty : table ≠ []) : ∃ host, (chooseNode config index table).1 = .ok host := by
  cases table with
  | nil => exact absurd rfl nonempty
  | cons entry rest =>
      cases balance : config.loadBalanceType <;> simp only [chooseNode, balance]
      case roundRobin =>
          have inside : (index + 1) % (entry :: rest).length < (entry :: rest).length :=
            Nat.mod_lt _ (by simp)
          simp only [roundRobinLoadBalance, List.isEmpty_cons, Bool.false_eq_true, if_false,
            List.getElem?_eq_getElem inside]
          exact ⟨_, rfl⟩
      all_goals exact ⟨_, rfl⟩

omit [LT R] [DecidableLT R] [Zero R] [Add R] [Sub R] [Mul R] in
theorem hostOf_eq_ok {chosen : Option (Bytes × SchedulerNodeInfo R)} {host : Host}
    (found : hostOf chosen = .ok host) : ∃ entry, chosen = some entry ∧ host = (entry.2.ip, entry.2.port) := by
  cases chosen with
  | none => cases found
  | some entry =>
      cases found
      exact ⟨entry, rfl, rfl⟩

/-- Every strategy answers with the host of some entry. -/
theorem mem_of_chooseNode {config : LoadBalanceConfig R} {index : Nat} {table : NodeTable R} {host : Host}
    (chosen : (chooseNode config index table).1 = .ok host) :
    ∃ entry ∈ table, host = (entry.2.ip, entry.2.port) := by
  cases balance : config.loadBalanceType <;> simp only [chooseNode, balance] at chosen
  case roundRobin =>
      unfold roundRobinLoadBalance at chosen
      split at chosen
      · cases chosen
      · obtain ⟨entry, found, named⟩ := hostOf_eq_ok chosen
        exact ⟨entry, List.mem_of_getElem? found, named⟩
  all_goals
    obtain ⟨entry, found, named⟩ := hostOf_eq_ok chosen
    refine ⟨entry, ?_, named⟩
  case networkPriority => exact mem_of_maxElement found
  all_goals exact mem_of_minElement found

end Strategies

end TaskHive.Client
