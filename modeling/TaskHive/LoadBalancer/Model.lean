import TaskHive.Client.NodeTable
import TaskHive.OrderedMap

namespace TaskHive.LoadBalancer

open TaskHive.Wire

/-! # `LoadBalancer`

The discovery thread, the health check and `select_worker` each hold
`worker_nodes_mutex_` for their whole pass, so a pass is one step.  Worker nodes
live on a heap, since the vector and the hash ring share them. -/

inductive LoadBalanceStrategy where
  | roundRobin
  | leastConnections
  | weightedRoundRobin
  | leastResponseTime
  | consistentHash
  | random
deriving DecidableEq, Repr

/-- What the code needs of a `double`: its arithmetic, `std::stod`, which
throws on a text that is no number, and the conversions from and to `int`. -/
class Double (R : Type u) extends Add R, Sub R, Mul R, Div R, LT R, OfScientific R, IntCast R where
  decideLT : DecidableLT R
  stod : Bytes → Option R
  toInt : R → Int

instance Double.instDecidableLT {R : Type u} [Double R] : DecidableLT R := Double.decideLT

structure WorkerNode (R : Type u) where
  workerId : Bytes
  workerIp : Bytes
  workerPort : Int32
  capabilities : StringMap
  currentConnections : Int
  cpuUsage : R
  memoryUsage : R
  diskUsage : R
  networkSpeed : R
  responseTimeMs : Int
  weight : Int
  isHealthy : Bool
  lastHeartbeat : Int64
  totalTasksProcessed : Int
  failedTasks : Int

/-- What the four `find` calls look for, in this order. -/
inductive Metric where
  | cpuUsage
  | memoryUsage
  | diskUsage
  | networkSpeed
deriving DecidableEq

def Metric.all : List Metric := [.cpuUsage, .memoryUsage, .diskUsage, .networkSpeed]

def Metric.key : Metric → Bytes
  | .cpuUsage => utf8 "cpu_usage"
  | .memoryUsage => utf8 "memory_usage"
  | .diskUsage => utf8 "disk_usage"
  | .networkSpeed => utf8 "network_speed"

/-! ## One worker -/

section Node

variable {R : Type u} [Double R]

/-- The default constructor. -/
def WorkerNode.fresh : WorkerNode R where
  workerId := []
  workerIp := []
  workerPort := 0
  capabilities := ∅
  currentConnections := 0
  cpuUsage := 0.0
  memoryUsage := 0.0
  diskUsage := 0.0
  networkSpeed := 0.0
  responseTimeMs := 0
  weight := 1
  isHealthy := true
  lastHeartbeat := 0
  totalTasksProcessed := 0
  failedTasks := 0

def WorkerNode.setMetric (node : WorkerNode R) (metric : Metric) (value : R) : WorkerNode R :=
  match metric with
  | .cpuUsage => { node with cpuUsage := value }
  | .memoryUsage => { node with memoryUsage := value }
  | .diskUsage => { node with diskUsage := value }
  | .networkSpeed => { node with networkSpeed := value }

/-- The remaining conversions.  The second component tells whether they all
succeeded: an exception leaves the node as it is at that point. -/
def readMetrics (node : WorkerNode R) : List Metric → WorkerNode R × Bool
  | [] => (node, true)
  | metric :: rest =>
      match node.capabilities.lookup metric.key with
      | none => readMetrics node rest
      | some text =>
          match Double.stod text with
          | some value => readMetrics (node.setMetric metric value) rest
          | none => (node, false)

def calculateWorkerWeight (node : WorkerNode R) : Int :=
  let cpuFactor : R := 1.0 - node.cpuUsage / 100.0
  let memFactor : R := 1.0 - node.memoryUsage / 100.0
  let speed : R := node.networkSpeed / 1000.0
  let netFactor : R := if (1.0 : R) < speed then 1.0 else speed
  let totalFactor : R := (cpuFactor + memFactor + netFactor) / 3.0
  max 1 (Double.toInt (totalFactor * 10.0))

/-- The steps by which a usage lowers the score. -/
def usagePenalty (usage score : R) : R :=
  if (90.0 : R) < usage then score - 0.3
  else if (80.0 : R) < usage then score - 0.2
  else if (70.0 : R) < usage then score - 0.1
  else score

def diskPenalty (usage score : R) : R :=
  if (90.0 : R) < usage then score - 0.2
  else if (80.0 : R) < usage then score - 0.1
  else score

def failurePenalty (failed total : Int) (score : R) : R :=
  if 0 < total then
    let failureRate : R := (failed : R) / (total : R)
    if (0.1 : R) < failureRate then score - 0.3
    else if (0.05 : R) < failureRate then score - 0.2
    else score
  else score

def calculateHealthScore (node : WorkerNode R) : R :=
  let score : R := failurePenalty node.failedTasks node.totalTasksProcessed
    (diskPenalty node.diskUsage (usagePenalty node.memoryUsage (usagePenalty node.cpuUsage 1.0)))
  if (0.0 : R) < score then score else 0.0

/-- The assignments of `update_worker_node` that cannot fail. -/
def describe (node : WorkerNode R) (heartbeat : WorkerHeartbeat) : WorkerNode R :=
  { node with
    workerId := heartbeat.workerId
    workerIp := heartbeat.workerIp
    workerPort := heartbeat.workerPort
    lastHeartbeat := heartbeat.timestamp
    isHealthy := heartbeat.isHealthy
    capabilities := heartbeat.dec }

/-- The part of `update_worker_node` after the node is found or created. -/
def refresh (node : WorkerNode R) (heartbeat : WorkerHeartbeat) : WorkerNode R × Bool :=
  match readMetrics (describe node heartbeat) Metric.all with
  | (measured, true) => ({ measured with weight := calculateWorkerWeight measured }, true)
  | (measured, false) => (measured, false)

/-- What the health check finds: no heartbeat for 30 seconds, or a low score. -/
def foundDead (now : Int) (node : WorkerNode R) : Bool :=
  decide (30 < now - node.lastHeartbeat.toInt) || decide (calculateHealthScore node < (0.3 : R))

/-- The health check never makes a worker healthy. -/
def checkNode (now : Int) (node : WorkerNode R) : WorkerNode R :=
  if foundDead now node then { node with isHealthy := false } else node

end Node

/-! ## The registry -/

/-- `worker_nodes_` and the nodes it points to. -/
structure Registry (R : Type u) where
  heap : Nat → WorkerNode R
  allocated : Nat
  workerNodes : List Nat

/-- A listed child, and what its node holds when it is read. -/
abbrev Listing := List (Bytes × Option Bytes)

/-- An empty text is not parsed. -/
def readHeartbeat (text : Bytes) : Option WorkerHeartbeat :=
  if text.isEmpty then none else WorkerHeartbeat.parseFromString text

/-- What the loop over the children leaves: the heartbeats for which
`update_worker_node` was called, and whether none of the calls threw. -/
structure Visit (R : Type u) where
  registry : Registry R
  heartbeats : List WorkerHeartbeat
  completed : Bool

namespace Registry

variable {R : Type u} [Double R]

def workerIds (registry : Registry R) : List Bytes :=
  registry.workerNodes.map fun ref => (registry.heap ref).workerId

def healthyWorkers (registry : Registry R) : List Nat :=
  registry.workerNodes.filter fun ref => (registry.heap ref).isHealthy

def setNode (registry : Registry R) (ref : Nat) (node : WorkerNode R) : Registry R :=
  { registry with heap := Function.update registry.heap ref node }

/-- `push_back` of a new node. -/
def addNode (registry : Registry R) (node : WorkerNode R) : Registry R where
  heap := Function.update registry.heap registry.allocated node
  allocated := registry.allocated + 1
  workerNodes := registry.workerNodes ++ [registry.allocated]

def updateWorkerNode (registry : Registry R) (heartbeat : WorkerHeartbeat) : Registry R × Bool :=
  match registry.workerNodes.find? fun ref => (registry.heap ref).workerId = heartbeat.workerId with
  | some ref =>
      let (node, completed) := refresh (registry.heap ref) heartbeat
      (registry.setNode ref node, completed)
  | none =>
      let (node, completed) := refresh .fresh heartbeat
      (registry.addNode node, completed)

def visit (registry : Registry R) : Listing → Visit R
  | [] => { registry, heartbeats := [], completed := true }
  | child :: rest =>
      match readHeartbeat (Client.getNodeData child.2) with
      | none => visit registry rest
      | some heartbeat =>
          match updateWorkerNode registry heartbeat with
          | (next, true) =>
              let later := visit next rest
              { later with heartbeats := heartbeat :: later.heartbeats }
          | (next, false) => { registry := next, heartbeats := [heartbeat], completed := false }

/-- The children are compared with the ids of the workers. -/
def removeInactiveWorkers (registry : Registry R) (activeWorkerIds : List Bytes) : Registry R :=
  { registry with
    workerNodes := registry.workerNodes.filter fun ref => activeWorkerIds.contains (registry.heap ref).workerId }

def checkWorkers (registry : Registry R) (now : Int) : Registry R :=
  { registry with
    heap := fun ref =>
      if ref ∈ registry.workerNodes then checkNode now (registry.heap ref) else registry.heap ref }

end Registry

/-! ## The hash ring -/

abbrev HashRing := OrderedMap Nat Nat

def virtualNode (workerId : Bytes) (index : Nat) : Bytes :=
  workerId ++ utf8 "#" ++ utf8 (toString index)

/-- A later virtual node replaces an earlier one with the same hash. -/
def updateConsistentHashRing {R : Type u} [Double R] (hash : Bytes → UInt32) (registry : Registry R) : HashRing :=
  registry.healthyWorkers.foldl (fun ring ref =>
    (List.range 150).foldl (fun ring index =>
      ring.insert (hash (virtualNode (registry.heap ref).workerId index)).toNat ref) ring) .empty

/-! ## Selection -/

/-- The answer of `select_worker`.  `pastTheEnd` stands for the access to an
element behind the last one, of a vector or of the ring. -/
inductive Selection where
  | nullptr
  | worker (ref : Nat)
  | pastTheEnd
deriving DecidableEq, Repr

def Selection.ofOption : Option Nat → Selection
  | none => .pastTheEnd
  | some ref => .worker ref

section Select

variable {α : Type v}

/-- The counter is converted to the unsigned type of the size. -/
def selectRoundRobin (index : Int32) (workers : List α) : Option α × Int32 :=
  if workers.isEmpty then (none, index)
  else (workers[(index.toInt % 2 ^ 64).toNat % workers.length]?, index + 1)

def totalWeight (weight : α → Int) (workers : List α) : Int := (workers.map weight).sum

/-- The first worker whose weight, added to those before, exceeds the index. -/
def weightedScan (weight : α → Int) (index : Int) : Int → List α → Option α
  | _, [] => none
  | currentWeight, worker :: rest =>
      if index < currentWeight + weight worker then some worker
      else weightedScan weight index (currentWeight + weight worker) rest

/-- The remainder has the sign of the counter. -/
def selectWeightedRoundRobin (weight : α → Int) (index : Int32) (workers : List α) : Option α × Int32 :=
  if workers.isEmpty then (none, index)
  else if totalWeight weight workers = 0 then (workers.head?, index)
  else
    ((weightedScan weight (index.toInt.tmod (totalWeight weight workers)) 0 workers).or workers.head?, index + 1)

/-- `workers` is looked at only to see whether it is empty. -/
def selectConsistentHash (hash : Bytes → UInt32) (ring : HashRing) (workers : List Nat) (taskId : Bytes) :
    Selection :=
  if workers.isEmpty then .nullptr
  else
    match ring.successor (hash taskId).toNat with
    | some (_, ref) => .worker ref
    | none => .pastTheEnd

def selectRandom (draw : Nat) (workers : List α) : Option α := workers[draw % workers.length]?

end Select

/-! ## The balancer -/

/-- One answer, and what was true of the selected worker at that time. -/
structure Answer where
  selection : Selection
  registered : Bool
  healthy : Bool
  condemned : Bool
deriving DecidableEq, Repr

/-- The last four fields record the history: the workers that the latest
health check found dead and for which no later heartbeat has been read since,
with the time of their last heartbeat then; whether the ring was rebuilt since a
health check last made a worker unhealthy and a pass last broke off; what the
latest pass listed; and all answers. -/
structure Balancer (R : Type u) where
  registry : Registry R
  hashRing : HashRing
  strategy : LoadBalanceStrategy
  currentRoundRobinIndex : Int32
  selected : Option Nat
  condemned : List (Bytes × Int64)
  ringCurrent : Bool
  lastListing : Listing
  answers : List Answer

inductive Action where
  | discover (listing : Listing)
  | check (now : Int)
  | setStrategy (strategy : LoadBalanceStrategy)
  | selectWorker (taskId : Bytes) (draw : Nat)
  | distribute (published : Bool)

section Steps

variable {R : Type u} [Double R]

/-- A heartbeat with a later timestamp takes a worker off the list. -/
def renew (condemned : List (Bytes × Int64)) (heartbeats : List WorkerHeartbeat) : List (Bytes × Int64) :=
  condemned.filter fun entry => !heartbeats.any fun heartbeat =>
    decide (heartbeat.workerId = entry.1 ∧ entry.2 < heartbeat.timestamp)

/-- One pass of the discovery thread.  An exception leaves the registry half
updated and the ring as it was. -/
def discover (hash : Bytes → UInt32) (balancer : Balancer R) (listing : Listing) : Balancer R :=
  let visited := balancer.registry.visit listing
  let condemned := renew balancer.condemned visited.heartbeats
  if visited.completed then
    let registry := visited.registry.removeInactiveWorkers (listing.map Prod.fst)
    { balancer with
      registry
      hashRing := updateConsistentHashRing hash registry
      condemned
      ringCurrent := true
      lastListing := listing }
  else
    { balancer with registry := visited.registry, condemned, ringCurrent := false, lastListing := listing }

/-- One pass of the health check. -/
def check (balancer : Balancer R) (now : Int) : Balancer R :=
  let registry := balancer.registry
  let dead := registry.workerNodes.filter fun ref => foundDead now (registry.heap ref)
  { balancer with
    registry := registry.checkWorkers now
    condemned := dead.map fun ref => ((registry.heap ref).workerId, (registry.heap ref).lastHeartbeat)
    ringCurrent := balancer.ringCurrent && !dead.any fun ref => (registry.heap ref).isHealthy }

def selectWorker (hash : Bytes → UInt32) (balancer : Balancer R) (taskId : Bytes) (draw : Nat) :
    Selection × Int32 :=
  let heap := balancer.registry.heap
  let index := balancer.currentRoundRobinIndex
  let healthyWorkers := balancer.registry.healthyWorkers
  if healthyWorkers.isEmpty then (.nullptr, index)
  else
    match balancer.strategy with
    | .roundRobin =>
        let (worker, next) := selectRoundRobin index healthyWorkers
        (.ofOption worker, next)
    | .leastConnections =>
        (.ofOption (Client.minElement
          (fun left right => decide ((heap left).currentConnections < (heap right).currentConnections))
          healthyWorkers), index)
    | .weightedRoundRobin =>
        let (worker, next) := selectWeightedRoundRobin (fun ref => (heap ref).weight) index healthyWorkers
        (.ofOption worker, next)
    | .leastResponseTime =>
        (.ofOption (Client.minElement
          (fun left right => decide ((heap left).responseTimeMs < (heap right).responseTimeMs))
          healthyWorkers), index)
    | .consistentHash => (selectConsistentHash hash balancer.hashRing healthyWorkers taskId, index)
    | .random => (.ofOption (selectRandom draw healthyWorkers), index)

def Balancer.answer (balancer : Balancer R) (selection : Selection) : Answer :=
  match selection with
  | .worker ref =>
      { selection
        registered := decide (ref ∈ balancer.registry.workerNodes)
        healthy := (balancer.registry.heap ref).isHealthy
        condemned := (balancer.condemned.map Prod.fst).contains (balancer.registry.heap ref).workerId }
  | _ => { selection, registered := false, healthy := false, condemned := false }

/-- `distribute_task` counts a connection, and takes it back when the task
cannot be published. -/
def distribute (balancer : Balancer R) (ref : Nat) (published : Bool) : Balancer R :=
  let node := balancer.registry.heap ref
  { balancer with
    registry := balancer.registry.setNode ref
      { node with currentConnections := node.currentConnections + (if published then 1 else 0) }
    selected := none }

def balancerStep (hash : Bytes → UInt32) (balancer : Balancer R) : Action → Option (Balancer R)
  | .discover listing => some (discover hash balancer listing)
  | .check now => some (check balancer now)
  | .setStrategy strategy => some { balancer with strategy }
  | .selectWorker taskId draw =>
      let (selection, next) := selectWorker hash balancer taskId draw
      some { balancer with
        currentRoundRobinIndex := next
        selected := match selection with
          | .worker ref => some ref
          | _ => none
        answers := balancer.answers ++ [balancer.answer selection] }
  | .distribute published =>
      match balancer.selected with
      | some ref => some (distribute balancer ref published)
      | none => none

def balancer (hash : Bytes → UInt32) (strategy : LoadBalanceStrategy) : Machine (Balancer R) Action where
  init := {
    registry := { heap := fun _ => .fresh, allocated := 0, workerNodes := [] }
    hashRing := .empty
    strategy
    currentRoundRobinIndex := 0
    selected := none
    condemned := []
    ringCurrent := true
    lastListing := []
    answers := [] }
  step := balancerStep hash

end Steps

end TaskHive.LoadBalancer
