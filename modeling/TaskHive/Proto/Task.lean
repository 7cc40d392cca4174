import TaskHive.Wire.Transfer

namespace TaskHive

open TaskHive.Wire

/-! # The messages of `task.proto`

Both enumerations are open, as proto3 declares them: a field may hold any
32-bit number, not only the named ones. -/

structure TaskType where
  value : Int32
deriving DecidableEq, Repr

def TaskType.function : TaskType := ⟨0⟩
def TaskType.command : TaskType := ⟨1⟩

structure TaskStatus where
  value : Int32
deriving DecidableEq, Repr

def TaskStatus.pending : TaskStatus := ⟨0⟩
def TaskStatus.running : TaskStatus := ⟨1⟩
def TaskStatus.success : TaskStatus := ⟨2⟩
def TaskStatus.failed : TaskStatus := ⟨3⟩

structure Task where
  taskId : Bytes := []
  type : TaskType := .function
  content : Bytes := []
  workerId : Bytes := []
  status : TaskStatus := .pending
  metadata : StringMap := ∅
  startSchedTime : Int64 := 0
  endSchedTime : Int64 := 0
  startWorkerTime : Int64 := 0
deriving DecidableEq

structure TaskResult where
  taskId : Bytes := []
  status : TaskStatus := .pending
  output : Bytes := []
  errorMessage : Bytes := []
  startSchedTime : Int64 := 0
  endSchedTime : Int64 := 0
  startWorkerTime : Int64 := 0
  startExcTime : Int64 := 0
  endWorkerTime : Int64 := 0
  durationMs : Int64 := 0
  workerId : Bytes := []
deriving DecidableEq

/-! ## Integer slots

Negative numbers travel as ten-byte varints of their 64-bit two's complement;
an enumeration is sign-extended when written and truncated when read. -/

def int64Slot {M : Type u} (number : Nat) (get : M → Int64) (set : M → Int64 → M) : Slot M :=
  .varint number (fun message => (get message).toUInt64.toNat)
    (fun message value => set message (UInt64.ofNat value).toInt64)

def enumSlot {M : Type u} (number : Nat) (get : M → Int32) (set : M → Int32 → M) : Slot M :=
  .varint number (fun message => (get message).toInt64.toUInt64.toNat)
    (fun message value => set message (UInt64.ofNat value).toInt64.toInt32)

theorem int64_of_wire {left right : Int64} (same : left.toUInt64.toNat = right.toUInt64.toNat) :
    left = right := by
  have bits := congrArg UInt64.toInt64 (UInt64.toNat_inj.mp same)
  simpa using bits

theorem enum_of_wire {left right : Int32}
    (same : left.toInt64.toUInt64.toNat = right.toInt64.toUInt64.toNat) : left = right := by
  have bits := congrArg Int64.toInt32 (int64_of_wire same)
  simpa using bits

theorem int64Slot_lawful {M : Type u} {number : Nat} {get : M → Int64} {set : M → Int64 → M}
    (stored : ∀ message value, get (set message value) = value) : (int64Slot number get set).Lawful := by
  refine ⟨fun message => UInt64.toNat_lt _, fun message other => ?_⟩
  simp [stored]

theorem enumSlot_lawful {M : Type u} {number : Nat} {get : M → Int32} {set : M → Int32 → M}
    (stored : ∀ message value, get (set message value) = value) : (enumSlot number get set).Lawful := by
  refine ⟨fun message => UInt64.toNat_lt _, fun message other => ?_⟩
  simp [stored]

/-! ## Declarations -/

namespace Task

def slots : List (Slot Task) := [
  .string 1 taskId (fun task value => { task with taskId := value }),
  enumSlot 2 (fun task => task.type.value) (fun task value => { task with type := ⟨value⟩ }),
  .string 3 content (fun task value => { task with content := value }),
  .string 4 workerId (fun task value => { task with workerId := value }),
  enumSlot 5 (fun task => task.status.value) (fun task value => { task with status := ⟨value⟩ }),
  .map 6 metadata (fun task value => { task with metadata := value }),
  int64Slot 7 startSchedTime (fun task value => { task with startSchedTime := value }),
  int64Slot 8 endSchedTime (fun task value => { task with endSchedTime := value }),
  int64Slot 9 startWorkerTime (fun task value => { task with startWorkerTime := value })]

theorem slots_lawful : ∀ slot ∈ slots, slot.Lawful := by
  simp only [slots, List.forall_mem_cons, List.not_mem_nil, false_implies, implies_true, and_true]
  exact ⟨fun _ _ => rfl, enumSlot_lawful fun _ _ => rfl, fun _ _ => rfl, fun _ _ => rfl,
    enumSlot_lawful fun _ _ => rfl, fun _ _ => rfl, int64Slot_lawful fun _ _ => rfl,
    int64Slot_lawful fun _ _ => rfl, int64Slot_lawful fun _ _ => rfl⟩

theorem slots_independent : ∀ slot ∈ slots, ∀ other ∈ slots,
    slot.number ≠ other.number → slot.Frames other := by
  simp only [slots, List.forall_mem_cons, List.not_mem_nil, false_implies, implies_true, and_true]
  repeat' apply And.intro
  all_goals
    intro different
    first
      | exact absurd rfl different
      | exact fun _ _ => rfl

theorem slots_determined (left right : Task) (same : ∀ slot ∈ slots, slot.Same left right) :
    left = right := by
  simp only [slots, List.forall_mem_cons, List.not_mem_nil, false_implies, implies_true, and_true] at same
  obtain ⟨taskId, type, content, workerId, status, metadata, startSched, endSched, startWorker⟩ := same
  cases left
  cases right
  simp only [Task.mk.injEq]
  exact ⟨taskId, congrArg TaskType.mk (enum_of_wire type), content, workerId,
    congrArg TaskStatus.mk (enum_of_wire status), metadata, int64_of_wire startSched,
    int64_of_wire endSched, int64_of_wire startWorker⟩

def schema : Schema Task where
  slots := slots
  empty := {}
  numbered := by decide
  distinct := by decide
  lawful := slots_lawful
  defaults := by
    simp only [slots, List.forall_mem_cons, List.not_mem_nil, false_implies, implies_true, and_true]
    exact ⟨rfl, rfl, rfl, rfl, rfl, rfl, rfl, rfl, rfl⟩
  independent := slots_independent
  determined := slots_determined

/-- The order is the one in which the hash map of metadata happens to be
iterated. -/
def serializeToString (task : Task) (order : List (Bytes × Bytes)) : Bytes :=
  schema.serialize order task

def parseFromString (bytes : Bytes) : Option Task := schema.parse bytes

theorem ordered_iff {task : Task} {order : List (Bytes × Bytes)} :
    schema.Ordered order task ↔ Iterates order task.metadata := by
  simp only [Schema.Ordered, schema, slots, List.forall_mem_cons, List.not_mem_nil, false_implies, implies_true,
    and_true]
  constructor
  · intro ordered
    obtain ⟨_, _, _, _, _, metadata, _⟩ := ordered
    exact metadata
  · intro iterates
    -- only the slot of the metadata asks for something
    exact ⟨trivial, trivial, trivial, trivial, trivial, iterates, trivial, trivial, trivial⟩

end Task

namespace TaskResult

def slots : List (Slot TaskResult) := [
  .string 1 taskId (fun result value => { result with taskId := value }),
  enumSlot 2 (fun result => result.status.value) (fun result value => { result with status := ⟨value⟩ }),
  .string 3 output (fun result value => { result with output := value }),
  .string 4 errorMessage (fun result value => { result with errorMessage := value }),
  int64Slot 5 startSchedTime (fun result value => { result with startSchedTime := value }),
  int64Slot 6 endSchedTime (fun result value => { result with endSchedTime := value }),
  int64Slot 7 startWorkerTime (fun result value => { result with startWorkerTime := value }),
  int64Slot 8 startExcTime (fun result value => { result with startExcTime := value }),
  int64Slot 9 endWorkerTime (fun result value => { result with endWorkerTime := value }),
  int64Slot 10 durationMs (fun result value => { result with durationMs := value }),
  .string 11 workerId (fun result value => { result with workerId := value })]

theorem slots_lawful : ∀ slot ∈ slots, slot.Lawful := by
  simp only [slots, List.forall_mem_cons, List.not_mem_nil, false_implies, implies_true, and_true]
  exact ⟨fun _ _ => rfl, enumSlot_lawful fun _ _ => rfl, fun _ _ => rfl, fun _ _ => rfl,
    int64Slot_lawful fun _ _ => rfl, int64Slot_lawful fun _ _ => rfl, int64Slot_lawful fun _ _ => rfl,
    int64Slot_lawful fun _ _ => rfl, int64Slot_lawful fun _ _ => rfl, int64Slot_lawful fun _ _ => rfl,
    fun _ _ => rfl⟩

theorem slots_independent : ∀ slot ∈ slots, ∀ other ∈ slots,
    slot.number ≠ other.number → slot.Frames other := by
  simp only [slots, List.forall_mem_cons, List.not_mem_nil, false_implies, implies_true, and_true]
  repeat' apply And.intro
  all_goals
    intro different
    first
      | exact absurd rfl different
      | exact fun _ _ => rfl

theorem slots_determined (left right : TaskResult) (same : ∀ slot ∈ slots, slot.Same left right) :
    left = right := by
  simp only [slots, List.forall_mem_cons, List.not_mem_nil, false_implies, implies_true, and_true] at same
  obtain ⟨taskId, status, output, errorMessage, startSched, endSched, startWorker, startExc,
    endWorker, duration, workerId⟩ := same
  cases left
  cases right
  simp only [TaskResult.mk.injEq]
  exact ⟨taskId, congrArg TaskStatus.mk (enum_of_wire status), output, errorMessage,
    int64_of_wire startSched, int64_of_wire endSched, int64_of_wire startWorker,
    int64_of_wire startExc, int64_of_wire endWorker, int64_of_wire duration, workerId⟩

def schema : Schema TaskResult where
  slots := slots
  empty := {}
  numbered := by decide
  distinct := by decide
  lawful := slots_lawful
  defaults := by
    simp only [slots, List.forall_mem_cons, List.not_mem_nil, false_implies, implies_true, and_true]
    exact ⟨rfl, rfl, rfl, rfl, rfl, rfl, rfl, rfl, rfl, rfl, rfl⟩
  independent := slots_independent
  determined := slots_determined

def serializeToString (result : TaskResult) : Bytes := schema.serialize [] result

def parseFromString (bytes : Bytes) : Option TaskResult := schema.parse bytes

theorem ordered (result : TaskResult) : schema.Ordered [] result := by
  simp only [Schema.Ordered, schema, slots, List.forall_mem_cons, List.not_mem_nil, false_implies, implies_true,
    and_true]
  repeat' apply And.intro
  all_goals exact trivial

end TaskResult

/-! ## Text that survives the queues -/

def CleanText (text : Bytes) : Prop := validUtf8 text = true ∧ (0 : UInt8) ∉ text

/-- Every string is valid UTF-8 without zero bytes and no metadata key or value
is empty. -/
def Task.Transparent (task : Task) : Prop :=
  CleanText task.taskId ∧ CleanText task.content ∧ CleanText task.workerId ∧
    ∀ key value, task.metadata.lookup key = some value →
      (CleanText key ∧ key ≠ []) ∧ CleanText value ∧ value ≠ []

def TaskResult.Transparent (result : TaskResult) : Prop :=
  CleanText result.taskId ∧ CleanText result.output ∧ CleanText result.errorMessage ∧
    CleanText result.workerId

/-- No string holds a zero byte. -/
def TaskResult.ZeroFree (result : TaskResult) : Prop :=
  (0 : UInt8) ∉ result.taskId ∧ (0 : UInt8) ∉ result.output ∧ (0 : UInt8) ∉ result.errorMessage ∧
    (0 : UInt8) ∉ result.workerId

theorem TaskResult.zero_notMem_serialize_iff (result : TaskResult) :
    (0 : UInt8) ∉ result.serializeToString ↔ result.ZeroFree := by
  rw [TaskResult.serializeToString, Schema.zero_mem_serialize_iff]
  simp [TaskResult.schema, TaskResult.slots, Slot.ZeroFree, enumSlot, int64Slot, TaskResult.ZeroFree]

theorem Task.transparent_iff {task : Task} {order : List (Bytes × Bytes)}
    (iterates : Iterates order task.metadata) :
    (∀ slot ∈ Task.schema.slots, slot.Utf8 order task ∧ slot.ZeroFree order task) ↔
      task.Transparent := by
  have entries : (∀ entry ∈ order, (validUtf8 entry.1 = true ∧ validUtf8 entry.2 = true) ∧
      (entry.1 ≠ [] ∧ (0 : UInt8) ∉ entry.1) ∧ entry.2 ≠ [] ∧ (0 : UInt8) ∉ entry.2) ↔
      ∀ key value, task.metadata.lookup key = some value →
        (CleanText key ∧ key ≠ []) ∧ CleanText value ∧ value ≠ [] := by
    constructor
    · intro clean key value found
      have := clean (key, value) (iterates.lookup.mpr found)
      unfold CleanText
      tauto
    · intro clean entry member
      have := clean entry.1 entry.2 (iterates.lookup.mp member)
      unfold CleanText at this
      tauto
  rw [Task.Transparent, ← entries]
  simp only [Task.schema, Task.slots, List.forall_mem_cons, Slot.Utf8, Slot.ZeroFree, enumSlot,
    int64Slot, CleanText, List.not_mem_nil, false_implies, implies_true, and_true, true_and,
    ← forall_and]

theorem TaskResult.transparent_iff (result : TaskResult) :
    (∀ slot ∈ TaskResult.schema.slots, slot.Utf8 [] result ∧ slot.ZeroFree [] result) ↔
      result.Transparent := by
  simp [TaskResult.schema, TaskResult.slots, Slot.Utf8, Slot.ZeroFree, enumSlot, int64Slot,
    TaskResult.Transparent, CleanText]

end TaskHive
