import TaskHive.Proto.Heartbeat

namespace TaskHive.Scheduler

open TaskHive.Wire

/-! # The heartbeats of a scheduler

`DEC` is inserted before the measured values, and an insertion leaves an entry
that is already there alone. -/

/-- The configured constants that a heartbeat carries. -/
structure Identity where
  zkNode : Bytes
  receiveTaskHost : Bytes
  receiveTaskPort : Int32
  dec : StringMap

/-- A scheduler without capabilities at port 80 of host `h`. -/
def plainScheduler : Identity :=
  { zkNode := utf8 "s", receiveTaskHost := utf8 "h", receiveTaskPort := 80, dec := ∅ }

structure SystemInfo (D : Type u) where
  cpuUsage : D
  memoryUsage : D
  diskUsage : D
  networkSpeed : D

/-- The fields that all heartbeats set.  The time is cut to 32 bits. -/
def Identity.heartbeat (identity : Identity) (now : Int64) (isHealthy : Bool) : SchedulerHeartbeat :=
  { schedulerId := identity.zkNode
    schedulerIp := identity.receiveTaskHost
    schedulerPort := identity.receiveTaskPort
    timetamp := now.toInt32
    isHealthy }

/-- The heartbeat that `start` registers, with `DEC` in its iteration order. -/
def registeredHeartbeat (identity : Identity) (order : List (Bytes × Bytes)) (now : Int64) :
    SchedulerHeartbeat :=
  { identity.heartbeat now true with dec := order.foldl insertNew ∅ }

/-- The four insertions behind `DEC`; `toText` is `std::to_string`. -/
def SystemInfo.entries {D : Type u} (toText : D → Bytes) (info : SystemInfo D) : List (Bytes × Bytes) :=
  [(utf8 "cpu_usage", toText info.cpuUsage), (utf8 "memory_usage", toText info.memoryUsage),
    (utf8 "disk_usage", toText info.diskUsage), (utf8 "network_speed", toText info.networkSpeed)]

def healthyHeartbeat {D : Type u} (toText : D → Bytes) (identity : Identity) (order : List (Bytes × Bytes))
    (now : Int64) (info : SystemInfo D) : SchedulerHeartbeat :=
  { identity.heartbeat now true with
    dec := (info.entries toText).foldl insertNew (order.foldl insertNew ∅) }

def unhealthyHeartbeat (identity : Identity) (now : Int64) : SchedulerHeartbeat :=
  identity.heartbeat now false

theorem lookup_healthyHeartbeat {D : Type u} (toText : D → Bytes) {identity : Identity}
    {order : List (Bytes × Bytes)} (iterates : Iterates order identity.dec) (now : Int64) (info : SystemInfo D)
    (key : Bytes) :
    (healthyHeartbeat toText identity order now info).dec.lookup key =
      (identity.dec.lookup key).or ((info.entries toText).lookup key) := by
  rw [healthyHeartbeat, lookup_foldl_insertNew, lookup_foldl_insertNew, Finmap.lookup_empty,
    Option.none_or, iterates.assocLookup]

end TaskHive.Scheduler
