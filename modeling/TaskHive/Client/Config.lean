import Mathlib.Algebra.Ring.Defs
import TaskHive.Client.NodeTable
import TaskHive.Json

namespace TaskHive.Client

open TaskHive.Wire

/-! # `ClientConfig` and the combined strategy

The loader reads the weights with a loop over the values of the object
`load_balance_weight`, and takes the text of each value for a key. -/

structure ClientConfig (R : Type) where
  zkHost : String
  zkPath : String
  redisHost : String
  redisPort : Int32
  redisPassword : String
  updateInterval : Int32
  loadBalanceType : Int32
  loadBalanceWeight : List (String × R) := []

section Load

variable {R : Type}

/-- Everything but the weights, in the order in which it is read. -/
def readSettings (numbers : JsonNumbers R) (root : Json R) : Except String (ClientConfig R) := do
  let zkHost ← (← (← root.member "zk").member "host").asString numbers
  let zkPath ← (← (← root.member "zk").member "path").asString numbers
  let redisHost ← (← (← root.member "redis").member "host").asString numbers
  let redisPort ← (← (← root.member "redis").member "port").asInt numbers
  let redisPassword ← (← (← root.member "redis").member "password").asString numbers
  let updateInterval ← (← root.member "update_interval").asInt numbers
  let loadBalanceType ← (← root.member "load_balance_type").asInt numbers
  pure { zkHost, zkPath, redisHost, redisPort, redisPassword, updateInterval, loadBalanceType }

/-- `weights[name] = value` -/
def setWeight (weights : List (String × R)) (name : String) (value : R) : List (String × R) :=
  weights.filter (fun weight => weight.1 ≠ name) ++ [(name, value)]

/-- `operator[]` creates a missing member, in the object that is iterated. -/
def memberOrNull (members : OrderedMap String (Json R)) (key : String) : OrderedMap String (Json R) × Json R :=
  match members.get? key with
  | some value => (members, value)
  | none => (members.insert key .null, .null)

/-- One turn of the loop: `item` is a value of the object. -/
def loadWeight [IntCast R] [Zero R] [One R] (numbers : JsonNumbers R) (members : OrderedMap String (Json R))
    (weights : List (String × R)) (item : Json R) :
    Except String (OrderedMap String (Json R) × List (String × R)) := do
  let text ← item.asString numbers
  let found := memberOrNull members text
  let value ← found.2.asDouble
  pure (found.1, setWeight weights text value)

/-- The loop over `root["load_balance_weight"]`.  An array is iterated as well,
but has no members; other values are empty. -/
def loadBalanceWeights [IntCast R] [Zero R] [One R] (numbers : JsonNumbers R) :
    Json R → Option (Except String (List (String × R)))
  | .object pairs =>
      let members := Json.members pairs
      OrderedMap.walk (loadWeight numbers) (2 * members.entries.length) members members.entries.head? []
  | .array (item :: rest) =>
      some do
        let text ← item.asString numbers
        let _ ← (Json.array (item :: rest)).member text
        pure []
  | _ => some (.ok [])

/-- `none` as the result would be a loop that does not end. -/
def loadConfigFile [IntCast R] [Zero R] [One R] (numbers : JsonNumbers R) (path : String)
    (file : Option (Except String (Json R))) : Option (Except String (ClientConfig R)) :=
  match file with
  | none => some (.error ("Failed to open config file: " ++ path))
  | some (.error errs) => some (.error ("Failed to parse config file: " ++ errs))
  | some (.ok root) =>
      match readSettings numbers root, root.member "load_balance_weight" with
      | .ok settings, .ok value =>
          (loadBalanceWeights numbers value).map fun result =>
            result.map fun weights => { settings with loadBalanceWeight := weights }
      | .error what, _ => some (.error what)
      | .ok _, .error what => some (.error what)

/-- The strategies by their number in the file. -/
def loadBalanceTypeOf (number : Int32) : LoadBalanceType :=
  if number = 0 then .roundRobin
  else if number = 1 then .cpuPriority
  else if number = 2 then .memoryPriority
  else if number = 3 then .diskPriority
  else if number = 4 then .networkPriority
  else if number = 5 then .combinedLoadBalance
  else .roundRobin

/-- What `init` takes from the configuration for the selection of hosts; the
round-robin index starts at zero. -/
def initBalance (config : ClientConfig R) : LoadBalanceConfig R × Nat :=
  ({ loadBalanceType := loadBalanceTypeOf config.loadBalanceType
     loadBalanceWeight := config.loadBalanceWeight }, 0)

end Load

/-! ## The loop over the weights -/

section Loop

variable {R : Type}

/-- Only null members are added to an object of numbers, and no weight gets the
name of a metric. -/
structure Unnamed (members : OrderedMap String (Json R)) (weights : List (String × R)) : Prop where
  numbers : ∀ entry ∈ members.entries, entry.2.IsNumber ∨ entry.2 = .null
  names : ∀ weight ∈ weights, weight.1 = "" ∨ Numeric weight.1

theorem Unnamed.memberOrNull {members : OrderedMap String (Json R)} {weights : List (String × R)}
    (unnamed : Unnamed members weights) (key : String) :
    Unnamed (memberOrNull members key).1 weights ∧
      ((memberOrNull members key).2.IsNumber ∨ (memberOrNull members key).2 = .null) := by
  unfold Client.memberOrNull
  split
  · rename_i value found
    exact ⟨unnamed, unnamed.numbers _ (OrderedMap.get?_eq_some_iff.mp found)⟩
  · refine ⟨⟨fun entry member => ?_, unnamed.names⟩, .inr rfl⟩
    rcases OrderedMap.mem_insertEntry member with rfl | old
    · exact .inr rfl
    · exact unnamed.numbers entry old

theorem Unnamed.setWeight {members : OrderedMap String (Json R)} {weights : List (String × R)}
    (unnamed : Unnamed members weights) {text : String} (numeric : text = "" ∨ Numeric text) (value : R) :
    Unnamed members (setWeight weights text value) where
  numbers := unnamed.numbers
  names weight member := by
    rcases List.mem_append.mp member with old | new
    · exact unnamed.names weight (List.mem_filter.mp old).1
    · rw [List.mem_singleton.mp new]
      exact numeric

/-- A visit pays two for a value and one for null. -/
def visitCost : Json R → Nat
  | .null => 1
  | .boolean _ | .int _ | .real _ | .string _ | .array _ | .object _ => 2

theorem not_lt_empty (key : String) : ¬ key < "" := by
  rw [String.lt_iff_toList_lt]
  simp

/-- A member that is created costs one, and the one that null creates is never
ahead of the iterator. -/
theorem total_after_memberOrNull (numbers : JsonNumbers R) (members : OrderedMap String (Json R)) (key : String)
    {item : Json R} {text : String} (read : item.asString numbers = .ok text) :
    OrderedMap.total visitCost ((memberOrNull members text).1.after key) <
      visitCost item + OrderedMap.total visitCost (members.after key) := by
  have positive : 0 < visitCost item := by cases item <;> simp [visitCost]
  unfold memberOrNull
  split
  · exact Nat.lt_add_of_pos_left positive
  · rename_i absent
    rw [OrderedMap.total_after_insert visitCost .null absent]
    cases item with
    | null =>
        cases read
        rw [if_neg (not_lt_empty key)]
        omega
    | boolean | int | real | string | array | object =>
        simp only [visitCost]
        split <;> omega

theorem loadWeight_of_unnamed [IntCast R] [Zero R] [One R] (numbers : JsonNumbers R)
    {members : OrderedMap String (Json R)} {weights : List (String × R)} (unnamed : Unnamed members weights)
    {key : String} {item : Json R} (member : (key, item) ∈ members.entries) :
    ∃ nextMembers nextWeights, loadWeight numbers members weights item = .ok (nextMembers, nextWeights) ∧
      Unnamed nextMembers nextWeights ∧
      OrderedMap.total visitCost (nextMembers.after key) <
        visitCost item + OrderedMap.total visitCost (members.after key) := by
  have known : item.IsNumber ∨ item = .null := unnamed.numbers _ member
  obtain ⟨text, read, numeric⟩ := Json.asString_of_number numbers known
  obtain ⟨next, number⟩ := unnamed.memberOrNull text
  obtain ⟨value, converted⟩ := Json.asDouble_of_number number
  refine ⟨(memberOrNull members text).1, setWeight weights text value, ?_, next.setWeight numeric value, ?_⟩
  · rw [loadWeight, read]
    simp only [bind, Except.bind, converted, pure, Except.pure]
  · exact total_after_memberOrNull numbers members key read

theorem total_visitCost_le (entries : List (String × Json R)) :
    OrderedMap.total visitCost entries ≤ 2 * entries.length := by
  induction entries with
  | nil => exact Nat.le_refl 0
  | cons entry rest ih =>
      have most : visitCost entry.2 ≤ 2 := by cases entry.2 <;> simp [visitCost]
      simp only [OrderedMap.total, List.map_cons, List.sum_cons, List.length_cons] at ih ⊢
      omega

/-- The loop ends on every object of numbers, with weights under the texts of
its values only. -/
theorem loadBalanceWeights_unnamed [IntCast R] [Zero R] [One R] (numbers : JsonNumbers R)
    {pairs : List (String × Json R)} (numeric : ∀ entry ∈ (Json.members pairs).entries, entry.2.IsNumber) :
    ∃ weights, loadBalanceWeights numbers (.object pairs) = some (.ok weights) ∧
      ∀ weight ∈ weights, weight.1 = "" ∨ Numeric weight.1 := by
  have start : Unnamed (Json.members pairs) ([] : List (String × R)) :=
    ⟨fun entry member => .inl (numeric entry member), by simp⟩
  have enough : OrderedMap.cost visitCost (Json.members pairs) (Json.members pairs).entries.head? ≤
      2 * (Json.members pairs).entries.length := by
    rw [OrderedMap.cost_head]
    exact total_visitCost_le _
  obtain ⟨_, weights, ended, unnamed⟩ :=
    OrderedMap.walk_ends visitCost
      (fun members weights key item unnamed member => loadWeight_of_unnamed numbers unnamed member)
      start (fun entry first => List.mem_of_mem_head? first) enough
  exact ⟨weights, ended, unnamed.names⟩

end Loop

/-! ## The combined strategy -/

/-- The member of the file that holds the weight of a metric. -/
def Metric.weightKey : Metric → String
  | .cpuUsage => "cpu_usage_weight"
  | .memoryUsage => "memory_usage_weight"
  | .diskUsage => "disk_usage_weight"
  | .networkUsage => "network_usage_weight"

/-- The name under which the strategy looks for the weight. -/
def Metric.name : Metric → String
  | .cpuUsage => "cpu_usage"
  | .memoryUsage => "memory_usage"
  | .diskUsage => "disk_usage"
  | .networkUsage => "network_usage"

theorem Metric.name_ne {text : String} (numeric : text = "" ∨ Numeric text) (metric : Metric) :
    metric.name ≠ text := by
  rintro rfl
  rcases numeric with empty | ⟨first, found, leading⟩
  · revert empty
    cases metric <;> decide
  · cases metric <;> cases found <;> revert leading <;> decide

section Combined

variable {R : Type}

/-- The load of a node under these weights: less is better. -/
def loadScore [Add R] [Sub R] [Mul R] (weight : Metric → R) (node : SchedulerNodeInfo R) : R :=
  weight .cpuUsage * node.cpuUsage + weight .memoryUsage * node.memoryUsage +
    weight .diskUsage * node.diskUsage - weight .networkUsage * node.networkUsage

/-- The object holds nothing but numbers, among them the weight of each metric. -/
structure GivesWeights [IntCast R] [Zero R] [One R] (pairs : List (String × Json R)) (weight : Metric → R) :
    Prop where
  numeric : ∀ entry ∈ (Json.members pairs).entries, entry.2.IsNumber
  given : ∀ metric, ∃ value, (Json.members pairs).get? metric.weightKey = some value ∧
    value.asDouble = .ok (weight metric)

theorem getCombinedScore_eq [Zero R] [Add R] [Sub R] [Mul R] (weights : List (String × R))
    (node : SchedulerNodeInfo R) :
    getCombinedScore weights node = loadScore (fun metric => (weights.lookup metric.name).getD 0) node := rfl

/-- Without a weight under the name of a metric every node scores zero. -/
theorem getCombinedScore_of_unnamed [Ring R] {weights : List (String × R)}
    (names : ∀ weight ∈ weights, weight.1 = "" ∨ Numeric weight.1) (node : SchedulerNodeInfo R) :
    getCombinedScore weights node = 0 := by
  have unweighted (metric : Metric) : (weights.lookup metric.name).getD 0 = 0 := by
    have absent : weights.lookup metric.name = none := by
      refine List.lookup_eq_none_iff.mpr fun weight member => ?_
      simpa using metric.name_ne (names weight member)
    rw [absent, Option.getD_none]
  rw [getCombinedScore_eq, loadScore, unweighted, unweighted, unweighted, unweighted]
  simp

theorem minElement_of_never_less {α : Type v} {less : α → α → Bool} (never : ∀ left right, less left right = false)
    (items : List α) : minElement less items = items.head? := by
  cases items with
  | nil => rfl
  | cons first rest =>
      rw [minElement, List.head?_cons]
      induction rest with
      | nil => rfl
      | cons next rest ih =>
          rw [List.foldl_cons, never next first]
          exact ih

/-- The combined strategy then takes the first entry of the table. -/
theorem combinedNode_of_unnamed [Ring R] [LinearOrder R] {weights : List (String × R)}
    (names : ∀ weight ∈ weights, weight.1 = "" ∨ Numeric weight.1) (table : NodeTable R) :
    combinedNode weights table = table.head? := by
  refine minElement_of_never_less (fun left right => ?_) table
  rw [getCombinedScore_of_unnamed names, getCombinedScore_of_unnamed names]
  simp

theorem loadConfigFile_unnamed [IntCast R] [Zero R] [One R] (numbers : JsonNumbers R) (path : String) {root : Json R}
    {settings : ClientConfig R} {pairs : List (String × Json R)} (readable : readSettings numbers root = .ok settings)
    (present : root.member "load_balance_weight" = .ok (.object pairs))
    (numeric : ∀ entry ∈ (Json.members pairs).entries, entry.2.IsNumber) :
    ∃ config, loadConfigFile numbers path (some (.ok root)) = some (.ok config) ∧
      ∀ weight ∈ config.loadBalanceWeight, weight.1 = "" ∨ Numeric weight.1 := by
  obtain ⟨weights, ended, names⟩ := loadBalanceWeights_unnamed numbers numeric
  refine ⟨{ settings with loadBalanceWeight := weights }, ?_, names⟩
  simp [loadConfigFile, readable, present, ended, Except.map]

/-- For every file that gives the weights, the loader returns, and the entry
that the combined strategy then takes has the least load under these weights
exactly if the first entry of the table has. -/
theorem combined_honours_weights_iff [Ring R] [LinearOrder R] (numbers : JsonNumbers R) (path : String) {root : Json R}
    {settings : ClientConfig R} {pairs : List (String × Json R)} {weight : Metric → R}
    (readable : readSettings numbers root = .ok settings)
    (present : root.member "load_balance_weight" = .ok (.object pairs)) (configured : GivesWeights pairs weight) :
    ∃ config, loadConfigFile numbers path (some (.ok root)) = some (.ok config) ∧
      ∀ table : NodeTable R,
        (∀ chosen, combinedNode (initBalance config).1.loadBalanceWeight table = some chosen →
          ∀ entry ∈ table, loadScore weight chosen.2 ≤ loadScore weight entry.2) ↔
        ∀ first, table.head? = some first → ∀ entry ∈ table, loadScore weight first.2 ≤ loadScore weight entry.2 := by
  obtain ⟨config, loaded, names⟩ := loadConfigFile_unnamed numbers path readable present configured.numeric
  refine ⟨config, loaded, fun table => ?_⟩
  rw [show (initBalance config).1.loadBalanceWeight = config.loadBalanceWeight from rfl,
    combinedNode_of_unnamed names table]

end Combined

/-- The weights of the file in the repository, in tenths. -/
def shippedWeight : Metric → Int
  | .cpuUsage | .memoryUsage => 3
  | .diskUsage | .networkUsage => 2

def shippedWeights : List (String × Json Int) :=
  [("cpu_usage_weight", .int 3), ("memory_usage_weight", .int 3), ("disk_usage_weight", .int 2),
    ("network_usage_weight", .int 2)]

/-- The file in the repository, with the combined strategy. -/
def shippedConfig : Json Int :=
  .object
    [("zk", .object [("host", .string "127.0.0.1:2181"), ("path", .string "/TaskHive/schedulers")]),
      ("redis", .object [("host", .string "127.0.0.1"), ("port", .int 6379), ("password", .string "")]),
      ("update_interval", .int 1000), ("load_balance_type", .int 5),
      ("load_balance_weight", .object shippedWeights)]

theorem givesWeights_shipped : GivesWeights shippedWeights shippedWeight where
  numeric entry member := by
    have listed := Json.mem_of_mem_members member
    simp only [shippedWeights, List.mem_cons, List.not_mem_nil, or_false] at listed
    rcases listed with rfl | rfl | rfl | rfl <;> trivial
  given metric := by cases metric <;> exact ⟨_, rfl, rfl⟩

theorem shipped_weights_honoured_iff :
    ∃ config, loadConfigFile plainNumbers "../config/client_config.json" (some (.ok shippedConfig)) =
        some (.ok config) ∧
      ∀ table : NodeTable Int,
        (∀ chosen, combinedNode (initBalance config).1.loadBalanceWeight table = some chosen →
          ∀ entry ∈ table, loadScore shippedWeight chosen.2 ≤ loadScore shippedWeight entry.2) ↔
        ∀ first, table.head? = some first →
          ∀ entry ∈ table, loadScore shippedWeight first.2 ≤ loadScore shippedWeight entry.2 :=
  combined_honours_weights_iff plainNumbers "../config/client_config.json" rfl rfl givesWeights_shipped

def busyNode : SchedulerNodeInfo Int := { plainNode (utf8 "h") 80 with cpuUsage := 90 }

def idleNode : SchedulerNodeInfo Int := { plainNode (utf8 "k") 81 with cpuUsage := 10 }

/-- With the file in the repository the keys of the weights are the texts of
the values, and the busy scheduler is taken because it comes first. -/
theorem shipped_weights_ignored :
    GivesWeights shippedWeights shippedWeight ∧
      ∃ config, loadConfigFile plainNumbers "../config/client_config.json" (some (.ok shippedConfig)) =
          some (.ok config) ∧
        config.loadBalanceWeight = [("3", 0), ("2", 0)] ∧
        combinedNode (initBalance config).1.loadBalanceWeight [(utf8 "s", busyNode), (utf8 "t", idleNode)] =
          some (utf8 "s", busyNode) ∧
        ¬ loadScore shippedWeight busyNode ≤ loadScore shippedWeight idleNode :=
  ⟨givesWeights_shipped, _, rfl, rfl, rfl, by decide⟩

end TaskHive.Client
