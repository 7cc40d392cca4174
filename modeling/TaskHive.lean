import TaskHive.Machine
import TaskHive.Custody
import TaskHive.Wire.Varint
import TaskHive.Wire.Message
import TaskHive.Wire.Text
import TaskHive.Wire.Schema
import TaskHive.Wire.Transfer
import TaskHive.Proto.Task
import TaskHive.MessageQueue.Queue
import TaskHive.MessageQueue.Hop
import TaskHive.Redis.Client
import TaskHive.Scheduler.Results
import TaskHive.Scheduler.Shutdown
import TaskHive.Scheduler.TalkingClients
import TaskHive.Worker.Receive
import TaskHive.MessageQueue.Malformed
import TaskHive.Scheduler.Receive
import TaskHive.Client.LoadBalance
import TaskHive.Client.Submit
import TaskHive.Scheduler.Lifecycle
import TaskHive.Worker.FunctionLibrary
import TaskHive.Worker.StaticResult
import TaskHive.Worker.ExecTask
import TaskHive.Worker.Lifecycle
import TaskHive.ThreadPool.Model
import TaskHive.ThreadPool.Transition
import TaskHive.ThreadPool.Mutex
import TaskHive.ThreadPool.Fixed
import TaskHive.Pipeline.Model
import TaskHive.Pipeline.Transition
import TaskHive.Pipeline.Attribution
import TaskHive.Pipeline.Ownership
import TaskHive.Client.Fetch
import TaskHive.Client.Polling
import TaskHive.Pipeline.Sharing
import TaskHive.Proto.Heartbeat
import TaskHive.Scheduler.Heartbeat
import TaskHive.Client.NodeTable
import TaskHive.Client.Metrics
import TaskHive.ZooKeeper.Client
import TaskHive.Scheduler.Registration
import TaskHive.Tally
import TaskHive.ThreadPool.Workers
import TaskHive.ThreadPool.ScaleUp
import TaskHive.Exclusion
import TaskHive.LogSystem.Buffer
import TaskHive.LogSystem.AsyncWorker
import TaskHive.LogSystem.Stream
import TaskHive.LogSystem.Stop
import TaskHive.WorkQueue
import TaskHive.LogSystem.ThreadPool.Model
import TaskHive.LogSystem.ThreadPool.Safety
import TaskHive.LogSystem.ThreadPool.Completion
import TaskHive.OrderedMap
import TaskHive.Cycle
import TaskHive.LoadBalancer.Model
import TaskHive.LoadBalancer.HashRing
import TaskHive.LoadBalancer.WeightedRoundRobin
import TaskHive.LoadBalancer.Registry
import TaskHive.LoadBalancer.Health
import TaskHive.Client.Stop
import TaskHive.Client.Sweep
import TaskHive.Client.RoundRobin
import TaskHive.Client.Retry
import TaskHive.Json
import TaskHive.Client.Config
import TaskHive.Worker.Command
import TaskHive.Client.Query
import TaskHive.Decimal
import TaskHive.LogSystem.Backup
import TaskHive.Scheduler.Connections
import TaskHive.Worker.ExecFunc
import TaskHive.MapStore
import TaskHive.Redis.Map
import TaskHive.ZooKeeper.Map
import TaskHive.AppendStream
import TaskHive.LogSystem.Bounded
import TaskHive.LogSystem.RollingFile
import TaskHive.ThreadPool.Counters
import TaskHive.ThreadPool.QueueBound
import TaskHive.LogSystem.BufferOperations
import TaskHive.LogSystem.Growth
import TaskHive.LogSystem.BackupClient
import TaskHive.LogSystem.BackupIsolation
import TaskHive.Ending
import TaskHive.LogSystem.Notifications
import TaskHive.LogSystem.Progress
import TaskHive.Handoff.Model
import TaskHive.Handoff.Safety
import TaskHive.Handoff.Service
import TaskHive.Handoff.Stop
import TaskHive.AckQueue
import TaskHive.Delivery.Model
import TaskHive.Delivery.Loss
import TaskHive.Delivery.Duplicates
import TaskHive.Fairness
import TaskHive.Pipeline.Journey
import TaskHive.Pipeline.Progress
import TaskHive.Pipeline.Liveness
import TaskHive.ThreadPool.AnyMode
import TaskHive.ThreadPool.ThreadTable
import TaskHive.ThreadPool.Stopping
import TaskHive.Refinement
import TaskHive.Pipeline.Service
import TaskHive.ZooKeeper.Bootstrap
import TaskHive.ZooKeeper.Race
import TaskHive.LogSystem.Logger
