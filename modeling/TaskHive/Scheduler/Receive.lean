import TaskHive.Proto.Task

namespace TaskHive.Scheduler

open TaskHive.Wire

/-! # `receive_task_thread_function`

One connection carries one serialized task without a length, and the scheduler
calls `read` once.  A cut between two fields, or between two metadata entries,
leaves a shorter message that parses. -/

/-- The fields that the scheduler sets itself on arrival. -/
def stamp (now : Int64) (task : Task) : Task :=
  { task with startSchedTime := now, endSchedTime := 0, startWorkerTime := 0, status := .pending }

inductive Accept where
  | failed
  | readFailed
  | read (bytes : Bytes)
deriving DecidableEq, Repr

/-- The task that one connection brings, if any. -/
def acceptTask (now : Int64) : Accept → Option Task
  | .failed => none
  | .readFailed => none
  | .read [] => none
  | .read bytes => (Task.parseFromString bytes).map (stamp now)

/-- One round of the loop, on the contents of `pending_tasks_`. -/
def receiveTask (now : Int64) (pending : List Task) (accept : Accept) : List Task :=
  pending ++ (acceptTask now accept).toList

/-- What the single `read` may return of the bytes that were sent. -/
structure FirstRead (sent : Bytes) where
  bytes : Bytes
  isPrefix : bytes <+: sent
  nonempty : bytes ≠ []
  bounded : bytes.length ≤ 4096

/-- The numbers of the fields that `stamp` overwrites. -/
def stampedFields : List Nat := [5, 7, 8, 9]

/-- The bytes end exactly behind a record, the text up to there is valid, and
a record of a field that the scheduler does not set comes later. -/
def CutBetweenFields (task : Task) (order : List (Bytes × Bytes)) (bytes : Bytes) : Prop :=
  ∃ kept dropped, Task.schema.records order task = kept ++ dropped ∧ bytes = encodeRecords kept ∧
    (kept.map Record.field).all Task.schema.accepts = true ∧
    ∃ record ∈ dropped, record.field.number ∉ stampedFields

theorem stamp_eq_iff (now : Int64) (left right : Task) :
    stamp now left = stamp now right ↔
      ∀ slot ∈ Task.schema.slots, slot.number ∉ stampedFields → slot.Same left right := by
  have typed : left.type = right.type ↔
      left.type.value.toInt64.toUInt64.toNat = right.type.value.toInt64.toUInt64.toNat := by
    constructor
    · intro same
      rw [same]
    · intro same
      exact congrArg TaskType.mk (enum_of_wire same)
  simp only [stamp, Task.mk.injEq, typed, Task.schema, Task.slots, List.forall_mem_cons, enumSlot, int64Slot,
    Slot.number, stampedFields, Slot.Same]
  simp

theorem acceptTask_read {bytes : Bytes} (nonempty : bytes ≠ []) (now : Int64) :
    acceptTask now (.read bytes) = (Task.parseFromString bytes).map (stamp now) := by
  cases bytes with
  | nil => exact absurd rfl nonempty
  | cons byte rest => rfl

/-- Records before a cut give back the task, up to the stamped fields, exactly
when only stamped fields were cut off. -/
theorem stamp_read_iff {task read : Task} {order : List (Bytes × Bytes)}
    (iterates : Iterates order task.metadata) {kept dropped : List Record}
    (cut : Task.schema.records order task = kept ++ dropped)
    (folded : (kept.map Record.field).foldlM Task.schema.merge Task.schema.empty = some read)
    (now : Int64) :
    stamp now read = stamp now task ↔ ∀ record ∈ dropped, record.field.number ∈ stampedFields := by
  rw [stamp_eq_iff]
  have ordered := Task.ordered_iff.mpr iterates
  constructor
  · intro same record member
    by_contra unstamped
    have written : record ∈ Task.schema.records order task := by simp [cut, member]
    obtain ⟨slot, slotMember, recordMember⟩ := List.mem_flatMap.mp written
    have number := Slot.number_of_mem_records recordMember
    have recovered := same slot slotMember (number ▸ unstamped)
    exact (Schema.same_iff_not_dropped ordered cut folded slotMember).mp recovered record member number
  · intro stamped slot member unstamped
    rw [Schema.same_iff_not_dropped ordered cut folded member]
    intro record recordMember same
    exact unstamped (same ▸ stamped record recordMember)

theorem parse_kept {task : Task} {order : List (Bytes × Bytes)} {kept dropped : List Record}
    (cut : Task.schema.records order task = kept ++ dropped) :
    Task.parseFromString (encodeRecords kept) =
      (kept.map Record.field).foldlM Task.schema.merge Task.schema.empty := by
  apply parseMessage_encodeRecords
  intro record member
  exact Task.schema.records_valid order task record (by simp [cut, member])

/-- The scheduler pushes nothing or the very task that was sent, up to the
fields it sets itself, exactly when the read does not end between two fields
with one of the client's fields behind the cut. -/
theorem receives_whole_task_iff (now : Int64) (pending : List Task) (task : Task)
    (order : List (Bytes × Bytes)) (iterates : Iterates order task.metadata)
    (first : FirstRead (task.serializeToString order)) :
    (receiveTask now pending (.read first.bytes) = pending ∨
        receiveTask now pending (.read first.bytes) = pending ++ [stamp now task]) ↔
      ¬ CutBetweenFields task order first.bytes := by
  rw [receiveTask, acceptTask_read first.nonempty]
  constructor
  · rintro whole ⟨kept, dropped, cut, ends, accepted, record, member, unstamped⟩
    have parsed := parse_kept cut
    rw [← Schema.isSome_foldlM Task.schema _ Task.schema.empty] at accepted
    obtain ⟨read, folded⟩ := Option.isSome_iff_exists.mp accepted
    rw [ends, parsed, folded] at whole
    simp only [Option.map_some, Option.toList_some, List.append_right_eq_self,
      List.append_cancel_left_eq, List.cons.injEq, and_true, List.cons_ne_nil, false_or] at whole
    exact unstamped ((stamp_read_iff iterates cut folded now).mp whole record member)
  · intro uncut
    have valid := Task.schema.records_valid order task
    rcases parseMessage_prefix valid first.isPrefix Task.schema.empty with refused |
      ⟨kept, dropped, cut, ends, parsed⟩
    · left
      rw [Task.parseFromString, Schema.parse, refused]
      exact List.append_nil pending
    · rw [Task.parseFromString, Schema.parse, parsed]
      cases folded : (kept.map Record.field).foldlM Task.schema.merge Task.schema.empty with
      | none => exact .inl (List.append_nil pending)
      | some read =>
          right
          have accepted := Schema.isSome_foldlM Task.schema (kept.map Record.field) Task.schema.empty
          rw [folded, Option.isSome_some] at accepted
          have same := (stamp_read_iff iterates cut folded now).mpr fun record member => by
            by_contra unstamped
            exact uncut ⟨kept, dropped, cut, ends, accepted.symm, record, member, unstamped⟩
          simp only [Option.map_some, Option.toList_some, same]

/-- The command `ls` with one metadata entry. -/
def listing : Task :=
  { taskId := [116, 49], type := .command, content := [108, 115], metadata := Finmap.insert [97] [49] ∅ }

/-- A read that ends right before the metadata. -/
def listingCut : FirstRead (listing.serializeToString [([97], [49])]) where
  bytes := [10, 2, 116, 49, 16, 1, 26, 2, 108, 115]
  isPrefix := by decide
  nonempty := by decide
  bounded := by decide

theorem receives_whole_listing_iff :
    Iterates [([97], [49])] listing.metadata ∧
      ((receiveTask 7 [] (.read listingCut.bytes) = [] ∨
          receiveTask 7 [] (.read listingCut.bytes) = [] ++ [stamp 7 listing]) ↔
        ¬ CutBetweenFields listing [([97], [49])] listingCut.bytes) := by
  have iterates : Iterates [([97], [49])] listing.metadata := ⟨by decide, by decide⟩
  exact ⟨iterates, receives_whole_task_iff 7 [] listing [([97], [49])] iterates listingCut⟩

/-- The scheduler accepts the shorter message and queues the task without its
metadata. -/
theorem receives_listing_without_metadata :
    receiveTask 7 [] (.read listingCut.bytes) = [{ stamp 7 listing with metadata := ∅ }] ∧
      ¬ (receiveTask 7 [] (.read listingCut.bytes) = [] ∨
        receiveTask 7 [] (.read listingCut.bytes) = [] ++ [stamp 7 listing]) := by
  decide

end TaskHive.Scheduler
