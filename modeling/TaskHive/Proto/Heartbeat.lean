import TaskHive.Proto.Task

namespace TaskHive

open TaskHive.Wire

/-! # `SchedulerHeartbeat` and `WorkerHeartbeat` of `task.proto` -/

structure SchedulerHeartbeat where
  schedulerId : Bytes := []
  schedulerIp : Bytes := []
  schedulerPort : Int32 := 0
  timetamp : Int32 := 0
  isHealthy : Bool := false
  dec : StringMap := ∅
deriving DecidableEq

/-- Any number but zero is read as true. -/
def boolSlot {M : Type u} (number : Nat) (get : M → Bool) (set : M → Bool → M) : Slot M :=
  .varint number (fun message => (get message).toNat) (fun message value => set message (value != 0))

theorem boolSlot_lawful {M : Type u} {number : Nat} {get : M → Bool} {set : M → Bool → M}
    (stored : ∀ message value, get (set message value) = value) : (boolSlot number get set).Lawful := by
  refine ⟨fun message => ?_, fun message other => ?_⟩
  · exact Nat.lt_of_le_of_lt (Bool.toNat_le (get message)) (by decide)
  · simp only [stored]
    cases get other <;> rfl

theorem bool_of_wire {left right : Bool} (same : left.toNat = right.toNat) : left = right := by
  cases left <;> cases right <;> first | rfl | cases same

namespace SchedulerHeartbeat

/-- An `int32` travels like an enumeration. -/
def slots : List (Slot SchedulerHeartbeat) := [
  .string 1 schedulerId (fun heartbeat value => { heartbeat with schedulerId := value }),
  .string 2 schedulerIp (fun heartbeat value => { heartbeat with schedulerIp := value }),
  enumSlot 3 schedulerPort (fun heartbeat value => { heartbeat with schedulerPort := value }),
  enumSlot 4 timetamp (fun heartbeat value => { heartbeat with timetamp := value }),
  boolSlot 5 isHealthy (fun heartbeat value => { heartbeat with isHealthy := value }),
  .map 6 dec (fun heartbeat value => { heartbeat with dec := value })]

theorem slots_lawful : ∀ slot ∈ slots, slot.Lawful := by
  simp only [slots, List.forall_mem_cons, List.not_mem_nil, false_implies, implies_true, and_true]
  exact ⟨fun _ _ => rfl, fun _ _ => rfl, enumSlot_lawful fun _ _ => rfl, enumSlot_lawful fun _ _ => rfl,
    boolSlot_lawful fun _ _ => rfl, fun _ _ => rfl⟩

theorem slots_independent : ∀ slot ∈ slots, ∀ other ∈ slots,
    slot.number ≠ other.number → slot.Frames other := by
  simp only [slots, List.forall_mem_cons, List.not_mem_nil, false_implies, implies_true, and_true]
  repeat' apply And.intro
  all_goals
    intro different
    first
      | exact absurd rfl different
      | exact fun _ _ => rfl

theorem slots_determined (left right : SchedulerHeartbeat) (same : ∀ slot ∈ slots, slot.Same left right) :
    left = right := by
  simp only [slots, List.forall_mem_cons, List.not_mem_nil, false_implies, implies_true, and_true] at same
  obtain ⟨schedulerId, schedulerIp, schedulerPort, timetamp, isHealthy, dec⟩ := same
  cases left
  cases right
  simp only [SchedulerHeartbeat.mk.injEq]
  exact ⟨schedulerId, schedulerIp, enum_of_wire schedulerPort, enum_of_wire timetamp,
    bool_of_wire isHealthy, dec⟩

def schema : Schema SchedulerHeartbeat where
  slots := slots
  empty := {}
  numbered := by decide
  distinct := by decide
  lawful := slots_lawful
  defaults := by
    simp only [slots, List.forall_mem_cons, List.not_mem_nil, false_implies, implies_true, and_true]
    exact ⟨rfl, rfl, rfl, rfl, rfl, rfl⟩
  independent := slots_independent
  determined := slots_determined

def serializeToString (heartbeat : SchedulerHeartbeat) (order : List (Bytes × Bytes)) : Bytes :=
  schema.serialize order heartbeat

def parseFromString (bytes : Bytes) : Option SchedulerHeartbeat := schema.parse bytes

end SchedulerHeartbeat

structure WorkerHeartbeat where
  workerId : Bytes := []
  workerIp : Bytes := []
  workerPort : Int32 := 0
  timestamp : Int64 := 0
  isHealthy : Bool := false
  dec : StringMap := ∅
deriving DecidableEq

namespace WorkerHeartbeat

def slots : List (Slot WorkerHeartbeat) := [
  .string 1 workerId (fun heartbeat value => { heartbeat with workerId := value }),
  .string 2 workerIp (fun heartbeat value => { heartbeat with workerIp := value }),
  enumSlot 3 workerPort (fun heartbeat value => { heartbeat with workerPort := value }),
  int64Slot 4 timestamp (fun heartbeat value => { heartbeat with timestamp := value }),
  boolSlot 5 isHealthy (fun heartbeat value => { heartbeat with isHealthy := value }),
  .map 6 dec (fun heartbeat value => { heartbeat with dec := value })]

theorem slots_lawful : ∀ slot ∈ slots, slot.Lawful := by
  simp only [slots, List.forall_mem_cons, List.not_mem_nil, false_implies, implies_true, and_true]
  exact ⟨fun _ _ => rfl, fun _ _ => rfl, enumSlot_lawful fun _ _ => rfl, int64Slot_lawful fun _ _ => rfl,
    boolSlot_lawful fun _ _ => rfl, fun _ _ => rfl⟩

theorem slots_independent : ∀ slot ∈ slots, ∀ other ∈ slots,
    slot.number ≠ other.number → slot.Frames other := by
  simp only [slots, List.forall_mem_cons, List.not_mem_nil, false_implies, implies_true, and_true]
  repeat' apply And.intro
  all_goals
    intro different
    first
      | exact absurd rfl different
      | exact fun _ _ => rfl

theorem slots_determined (left right : WorkerHeartbeat) (same : ∀ slot ∈ slots, slot.Same left right) :
    left = right := by
  simp only [slots, List.forall_mem_cons, List.not_mem_nil, false_implies, implies_true, and_true] at same
  obtain ⟨workerId, workerIp, workerPort, timestamp, isHealthy, dec⟩ := same
  cases left
  cases right
  simp only [WorkerHeartbeat.mk.injEq]
  exact ⟨workerId, workerIp, enum_of_wire workerPort, int64_of_wire timestamp, bool_of_wire isHealthy, dec⟩

def schema : Schema WorkerHeartbeat where
  slots := slots
  empty := {}
  numbered := by decide
  distinct := by decide
  lawful := slots_lawful
  defaults := by
    simp only [slots, List.forall_mem_cons, List.not_mem_nil, false_implies, implies_true, and_true]
    exact ⟨rfl, rfl, rfl, rfl, rfl, rfl⟩
  independent := slots_independent
  determined := slots_determined

def serializeToString (heartbeat : WorkerHeartbeat) (order : List (Bytes × Bytes)) : Bytes :=
  schema.serialize order heartbeat

def parseFromString (bytes : Bytes) : Option WorkerHeartbeat := schema.parse bytes

end WorkerHeartbeat

end TaskHive
