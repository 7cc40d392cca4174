import Mathlib.Data.List.Nodup
import TaskHive.Wire.Schema

namespace TaskHive.Wire

/-- A declared message: its slots and the facts about its record type that the
generated accessors provide. -/
structure Schema (M : Type u) where
  slots : List (Slot M)
  empty : M
  numbered : ∀ slot ∈ slots, 0 < slot.number ∧ slot.number < 2 ^ 29
  distinct : (slots.map Slot.number).Nodup
  lawful : ∀ slot ∈ slots, slot.Lawful
  defaults : ∀ slot ∈ slots, slot.Default empty
  independent : ∀ slot ∈ slots, ∀ other ∈ slots, slot.number ≠ other.number → slot.Frames other
  determined : ∀ left right, (∀ slot ∈ slots, slot.Same left right) → left = right

namespace Schema

variable {M : Type u} {schema : Schema M} {order : List (Bytes × Bytes)} {message : M}

/-- Dispatch on the field number; an undeclared number is an unknown field. -/
def merge (schema : Schema M) (message : M) (field : Field) : Option M :=
  match schema.slots.find? fun slot => slot.number == field.number with
  | some slot => slot.merge message field.payload
  | none => some message

def accepts (schema : Schema M) (field : Field) : Bool :=
  match schema.slots.find? fun slot => slot.number == field.number with
  | some slot => slot.accepts field.payload
  | none => true

def records (schema : Schema M) (order : List (Bytes × Bytes)) (message : M) : List Record :=
  schema.slots.flatMap (Slot.records order message)

def serialize (schema : Schema M) (order : List (Bytes × Bytes)) (message : M) : Bytes :=
  encodeRecords (schema.records order message)

def parse (schema : Schema M) (bytes : Bytes) : Option M :=
  parseMessage schema.merge schema.empty bytes

/-- The iteration order used by the writer enumerates the map that the message
holds. -/
def Ordered (schema : Schema M) (order : List (Bytes × Bytes)) (message : M) : Prop :=
  ∀ slot ∈ schema.slots, slot.Ordered order message

theorem find_slot {slot : Slot M} (member : slot ∈ schema.slots) :
    (schema.slots.find? fun other => other.number == slot.number) = some slot := by
  cases found : schema.slots.find? fun other => other.number == slot.number with
  | none =>
      have absent := List.find?_eq_none.mp found slot member
      simp at absent
  | some other =>
      have same : other.number = slot.number := by simpa using List.find?_some found
      have equal := List.inj_on_of_nodup_map schema.distinct (List.mem_of_find?_eq_some found) member same
      rw [equal]

theorem merge_own {slot : Slot M} (member : slot ∈ schema.slots) (message : M) {field : Field}
    (own : field.number = slot.number) : schema.merge message field = slot.merge message field.payload := by
  simp only [merge, own, find_slot member]

theorem accepts_own {slot : Slot M} (member : slot ∈ schema.slots) {field : Field}
    (own : field.number = slot.number) : schema.accepts field = slot.accepts field.payload := by
  simp only [accepts, own, find_slot member]

theorem isSome_merge (schema : Schema M) (message : M) (field : Field) :
    (schema.merge message field).isSome = schema.accepts field := by
  simp only [merge, accepts]
  cases schema.slots.find? fun slot => slot.number == field.number with
  | none => rfl
  | some slot => exact slot.isSome_merge message field.payload

/-- Whether a sequence of fields is accepted does not depend on the message
they are merged into. -/
theorem isSome_foldlM (schema : Schema M) (fields : List Field) (message : M) :
    (fields.foldlM schema.merge message).isSome = fields.all schema.accepts := by
  induction fields generalizing message with
  | nil => rfl
  | cons field rest ih =>
      have head := schema.isSome_merge message field
      rw [List.foldlM_cons, List.all_cons, ← head]
      cases merged : schema.merge message field with
      | none => rfl
      | some next => simpa using ih next

theorem same_of_merge_other {slot : Slot M} (member : slot ∈ schema.slots) {field : Field} {before after : M}
    (other : field.number ≠ slot.number) (merged : schema.merge before field = some after) :
    slot.Same before after := by
  simp only [merge] at merged
  split at merged
  · rename_i found lookup
    have number : found.number = field.number := by simpa using List.find?_some lookup
    have frames := schema.independent found (List.mem_of_find?_eq_some lookup) slot member
      (by rw [number]; exact other)
    exact frames.merge merged
  · cases merged
    exact Slot.Same.refl slot before

/-- Fields of other numbers leave a slot alone. -/
theorem same_of_foldlM_others {slot : Slot M} (member : slot ∈ schema.slots) {fields : List Field}
    {before after : M} (others : ∀ field ∈ fields, field.number ≠ slot.number)
    (folded : fields.foldlM schema.merge before = some after) : slot.Same before after := by
  induction fields generalizing before with
  | nil => cases folded; exact Slot.Same.refl slot _
  | cons field rest ih =>
      rw [List.foldlM_cons] at folded
      obtain ⟨next, merged, tail⟩ := Option.bind_eq_some_iff.mp folded
      exact (same_of_merge_other member (others field (by simp)) merged).trans
        (ih (fun later laterMember => others later (by simp [laterMember])) tail)

/-! ## Values after reading a list of records -/

def own (slot : Slot M) (record : Record) : Bool := record.field.number == slot.number

theorem same_of_no_own {slot : Slot M} (member : slot ∈ schema.slots) {records : List Record}
    {before after : M} (none : records.filter (own slot) = [])
    (folded : (records.map Record.field).foldlM schema.merge before = some after) :
    slot.Same before after := by
  apply same_of_foldlM_others member _ folded
  intro field fieldMember
  obtain ⟨record, recordMember, rfl⟩ := List.mem_map.mp fieldMember
  simpa [own] using List.filter_eq_nil_iff.mp none record recordMember

/-- Isolate the first record of a slot: a message just before it that agrees
with the start, and the merge of that record. -/
theorem foldlM_first_own {slot : Slot M} (member : slot ∈ schema.slots) {records later : List Record}
    {record : Record} {before after : M} (first : records.filter (own slot) = record :: later)
    (folded : (records.map Record.field).foldlM schema.merge before = some after) :
    ∃ (middle next : M) (rest : List Record), slot.Same before middle ∧
      slot.merge middle record.field.payload = some next ∧ rest.filter (own slot) = later ∧
      (rest.map Record.field).foldlM schema.merge next = some after := by
  obtain ⟨front, rest, rfl, frontOthers, recordOwn, restOwn⟩ := List.filter_eq_cons_iff.mp first
  rw [List.map_append, List.foldlM_append, List.map_cons] at folded
  obtain ⟨middle, frontFolded, folded⟩ := Option.bind_eq_some_iff.mp folded
  rw [List.foldlM_cons] at folded
  obtain ⟨next, merged, folded⟩ := Option.bind_eq_some_iff.mp folded
  rw [merge_own member middle (by simpa [own] using recordOwn)] at merged
  have frontNone : front.filter (own slot) = [] := List.filter_eq_nil_iff.mpr frontOthers
  exact ⟨middle, next, rest, same_of_no_own member frontNone frontFolded, merged, restOwn, folded⟩

/-- A single record of a slot decides its value. -/
theorem same_of_single_own {slot : Slot M} (member : slot ∈ schema.slots) {records : List Record}
    {record : Record} {before after : M} (single : records.filter (own slot) = [record])
    (written : slot.records order message = [record]) (notMap : ∀ number get set, slot ≠ .map number get set)
    (folded : (records.map Record.field).foldlM schema.merge before = some after) :
    slot.Same after message := by
  obtain ⟨middle, next, rest, _, merged, restNone, restFolded⟩ := foldlM_first_own member single folded
  have settled := same_of_no_own member restNone restFolded
  refine settled.symm.trans ?_
  have lawful := schema.lawful slot member
  cases slot with
  | string number get set =>
      simp only [Slot.records] at written
      split at written
      · cases written
      · cases written
        simp only [Record.field, Slot.merge] at merged
        split at merged
        · cases merged; exact lawful middle (get message)
        · cases merged
  | varint number get set =>
      simp only [Slot.records] at written
      split at written
      · cases written
      · cases written
        simp only [Record.field, Slot.merge] at merged
        cases merged
        exact lawful.2 middle message
  | map number get set => exact absurd rfl (notMap number get set)

/-- Entry records insert their entries one after the other. -/
theorem map_after_entries {number : Nat} {get : M → StringMap} {set : M → StringMap → M}
    (member : Slot.map number get set ∈ schema.slots) {entries : List (Bytes × Bytes)}
    {records : List Record} {before after : M}
    (entriesOnly : records.filter (own (Slot.map number get set)) =
      entries.map fun entry => .delimited number (entryBytes entry))
    (folded : (records.map Record.field).foldlM schema.merge before = some after) :
    get after = insertAll (get before) entries := by
  have lawful := schema.lawful _ member
  induction entries generalizing records before with
  | nil => exact (same_of_no_own member entriesOnly folded).symm
  | cons entry entries ih =>
      obtain ⟨middle, next, rest, frame, merged, restOwn, restFolded⟩ :=
        foldlM_first_own member entriesOnly folded
      have frameGet : get before = get middle := frame
      simp only [Record.field, Slot.merge] at merged
      obtain ⟨parsed, entryParsed, rfl⟩ := Option.map_eq_some_iff.mp merged
      rw [parseEntry_entryBytes] at entryParsed
      split at entryParsed
      · cases entryParsed
        have stored : get (set middle ((get middle).insert entry.1 entry.2)) =
            (get middle).insert entry.1 entry.2 := lawful _ _
        rw [ih restOwn restFolded, stored, ← frameGet]
        rfl
      · cases entryParsed

/-! ## Whole and cut messages -/

theorem filter_flatMap_records {slots : List (Slot M)} (distinct : (slots.map Slot.number).Nodup)
    {slot : Slot M} (member : slot ∈ slots) :
    (slots.flatMap (Slot.records order message)).filter (own slot) = slot.records order message := by
  have ownRecords : (slot.records order message).filter (own slot) = slot.records order message := by
    apply List.filter_eq_self.mpr
    intro record recordMember
    simp [own, Slot.number_of_mem_records recordMember]
  have othersNone (others : List (Slot M)) (different : slot.number ∉ others.map Slot.number) :
      (others.flatMap (Slot.records order message)).filter (own slot) = [] := by
    apply List.filter_eq_nil_iff.mpr
    intro record recordMember
    obtain ⟨other, otherMember, recordMember⟩ := List.mem_flatMap.mp recordMember
    simp only [own, Slot.number_of_mem_records recordMember, beq_iff_eq]
    intro same
    exact different (List.mem_map.mpr ⟨other, otherMember, same⟩)
  induction slots with
  | nil => cases member
  | cons head rest ih =>
      rw [List.map_cons, List.nodup_cons] at distinct
      rw [List.flatMap_cons, List.filter_append]
      rcases List.mem_cons.mp member with rfl | later
      · rw [ownRecords, othersNone rest distinct.1, List.append_nil]
      · have headNone := othersNone [head] (by
          simp only [List.map_cons, List.map_nil, List.mem_singleton]
          intro same
          exact distinct.1 (same ▸ List.mem_map.mpr ⟨slot, later, rfl⟩))
        rw [List.flatMap_cons, List.flatMap_nil, List.append_nil] at headNone
        rw [headNone, ih distinct.2 later, List.nil_append]

theorem records_valid (schema : Schema M) (order : List (Bytes × Bytes)) (message : M) :
    ∀ record ∈ schema.records order message, record.Valid := by
  intro record member
  obtain ⟨slot, slotMember, recordMember⟩ := List.mem_flatMap.mp member
  have numbered := schema.numbered slot slotMember
  have lawful := schema.lawful slot slotMember
  cases slot with
  | string number get set =>
      simp only [Slot.records] at recordMember
      split at recordMember
      · cases recordMember
      · cases List.mem_singleton.mp recordMember; exact numbered
  | varint number get set =>
      simp only [Slot.records] at recordMember
      split at recordMember
      · cases recordMember
      · cases List.mem_singleton.mp recordMember; exact ⟨numbered.1, numbered.2, lawful.1 message⟩
  | map number get set =>
      obtain ⟨entry, _, rfl⟩ := List.mem_map.mp recordMember
      exact numbered

theorem same_of_default {slot : Slot M} {left right : M} (leftDefault : slot.Default left)
    (rightDefault : slot.Default right) : slot.Same left right := by
  cases slot <;> exact Eq.trans leftDefault (Eq.symm rightDefault)

theorem default_of_same {slot : Slot M} {left right : M} (same : slot.Same left right)
    (leftDefault : slot.Default left) : slot.Default right := by
  cases slot <;> exact Eq.trans (Eq.symm same) leftDefault

/-- A slot that writes at most one record keeps its value exactly when that
record is not cut off. -/
theorem same_iff_of_scalar {slot : Slot M} (member : slot ∈ schema.slots)
    (notMap : ∀ number get set, slot ≠ .map number get set)
    (shape : (slot.records order message = [] ∧ slot.Default message) ∨
      ∃ record, slot.records order message = [record] ∧ ¬ slot.Default message)
    {kept dropped : List Record} (cut : kept.filter (own slot) ++ dropped.filter (own slot) =
      slot.records order message) {read : M}
    (folded : (kept.map Record.field).foldlM schema.merge schema.empty = some read) :
    slot.Same read message ↔ dropped.filter (own slot) = [] := by
  have emptyDefault := schema.defaults slot member
  rcases shape with ⟨none, messageDefault⟩ | ⟨record, single, notDefault⟩
  · rw [none, List.append_eq_nil_iff] at cut
    have frame := same_of_no_own member cut.1 folded
    exact iff_of_true (frame.symm.trans (same_of_default emptyDefault messageDefault)) cut.2
  · rw [single] at cut
    rcases List.append_eq_singleton_iff.mp cut with ⟨keptNone, droppedOne⟩ | ⟨keptOne, droppedNone⟩
    · have frame := same_of_no_own member keptNone folded
      refine iff_of_false ?_ (by simp [droppedOne])
      intro same
      exact notDefault (default_of_same (frame.trans same) emptyDefault)
    · exact iff_of_true (same_of_single_own member keptOne single notMap folded) droppedNone

/-- Reading the records before a cut recovers exactly the slots none of whose
records were cut off. -/
theorem same_iff_not_dropped (ordered : schema.Ordered order message) {kept dropped : List Record}
    (cut : schema.records order message = kept ++ dropped) {read : M}
    (folded : (kept.map Record.field).foldlM schema.merge schema.empty = some read)
    {slot : Slot M} (member : slot ∈ schema.slots) :
    slot.Same read message ↔ ∀ record ∈ dropped, record.field.number ≠ slot.number := by
  have ownCut : kept.filter (own slot) ++ dropped.filter (own slot) = slot.records order message := by
    rw [← List.filter_append, ← cut]
    exact filter_flatMap_records schema.distinct member
  have droppedIff : dropped.filter (own slot) = [] ↔
      ∀ record ∈ dropped, record.field.number ≠ slot.number := by
    simp [List.filter_eq_nil_iff, own]
  rw [← droppedIff]
  cases shape : slot with
  | string number get set =>
      subst shape
      refine same_iff_of_scalar member (by simp) ?_ ownCut folded
      by_cases empty : get message = []
      · exact .inl ⟨by simp [Slot.records, empty], empty⟩
      · exact .inr ⟨.delimited number (get message), by simp [Slot.records, empty], empty⟩
  | varint number get set =>
      subst shape
      refine same_iff_of_scalar member (by simp) ?_ ownCut folded
      by_cases zero : get message = 0
      · exact .inl ⟨by simp [Slot.records, zero], zero⟩
      · exact .inr ⟨.varint number (get message), by simp [Slot.records, zero], zero⟩
  | map number get set =>
      subst shape
      obtain ⟨keptEntries, droppedEntries, rfl, keptOwn, droppedOwn⟩ :=
        List.append_eq_map_iff.mp ownCut
      have iterates : Iterates (keptEntries ++ droppedEntries) (get message) := ordered _ member
      have readMap := map_after_entries member keptOwn.symm folded
      have emptyMap : get schema.empty = ∅ := schema.defaults _ member
      rw [emptyMap] at readMap
      rw [← droppedOwn, List.map_eq_nil_iff]
      constructor
      · intro same
        have sameMap : get read = get message := same
        cases droppedEntries with
        | nil => rfl
        | cons entry rest =>
            exfalso
            have stored := iterates.lookup.mp (show entry ∈ keptEntries ++ entry :: rest by simp)
            have distinct := iterates.distinct
            rw [List.map_append, List.nodup_append] at distinct
            have absent : entry.1 ∉ keptEntries.map Prod.fst := by
              intro present
              exact distinct.2.2 entry.1 present entry.1 (by simp) rfl
            rw [← sameMap, readMap, lookup_insertAll_of_notMem absent, Finmap.lookup_empty] at stored
            cases stored
      · rintro rfl
        have built := iterates.built
        rw [List.append_nil] at built
        exact readMap.trans built

/-- A whole message is read back exactly, provided its strings are accepted. -/
theorem parse_serialize (ordered : schema.Ordered order message) :
    schema.parse (schema.serialize order message) =
      if ((schema.records order message).map Record.field).all schema.accepts then some message
      else none := by
  rw [parse, serialize, parseMessage_encodeRecords (schema.records_valid order message)]
  have accepted := schema.isSome_foldlM ((schema.records order message).map Record.field) schema.empty
  cases folded : ((schema.records order message).map Record.field).foldlM schema.merge schema.empty with
  | none => simp only [folded, Option.isSome_none] at accepted; simp [← accepted]
  | some read =>
      simp only [folded, Option.isSome_some] at accepted
      have same : read = message := by
        apply schema.determined
        intro slot member
        exact (same_iff_not_dropped ordered (List.append_nil _).symm folded member).mpr (by simp)
      simp [← accepted, same]

end Schema

/-! ## Strlen-based transfer -/

namespace Slot

variable {M : Type u} {order : List (Bytes × Bytes)} {message : M}

def Utf8 (order : List (Bytes × Bytes)) (message : M) : Slot M → Prop
  | .string _ get _ => validUtf8 (get message) = true
  | .varint _ _ _ => True
  | .map _ _ _ => ∀ entry ∈ order, validUtf8 entry.1 = true ∧ validUtf8 entry.2 = true

/-- No zero byte is written for this slot.  An empty key or value writes its
length as a zero byte. -/
def ZeroFree (order : List (Bytes × Bytes)) (message : M) : Slot M → Prop
  | .string _ get _ => (0 : UInt8) ∉ get message
  | .varint _ _ _ => True
  | .map _ _ _ => ∀ entry ∈ order,
      (entry.1 ≠ [] ∧ (0 : UInt8) ∉ entry.1) ∧ entry.2 ≠ [] ∧ (0 : UInt8) ∉ entry.2

theorem accepts_records_iff (slot : Slot M) :
    (∀ record ∈ slot.records order message, slot.accepts record.field.payload = true) ↔
      slot.Utf8 order message := by
  cases slot with
  | string number get set =>
      by_cases empty : get message = []
      · simp [records, Utf8, empty, validUtf8]
      · simp [records, Utf8, empty, Record.field, accepts]
  | varint number get set =>
      by_cases zero : get message = 0 <;> simp [records, Utf8, zero, accepts]
  | map number get set =>
      simp only [records, List.mem_map, forall_exists_index, and_imp, forall_apply_eq_imp_iff₂,
        Record.field, accepts, parseEntry_entryBytes, Utf8]
      refine forall₂_congr fun entry _ => ?_
      split <;> simp_all

theorem zero_mem_records_iff (slot : Slot M) (positive : 0 < slot.number) :
    (∃ record ∈ slot.records order message, (0 : UInt8) ∈ record.encode) ↔
      ¬ slot.ZeroFree order message := by
  cases slot with
  | string number get set =>
      change 0 < number at positive
      by_cases empty : get message = []
      · simp [records, ZeroFree, empty]
      · simp [records, ZeroFree, empty, Record.zero_mem_encode_delimited positive]
  | varint number get set =>
      change 0 < number at positive
      by_cases zero : get message = 0
      · simp [records, ZeroFree, zero]
      · simp [records, ZeroFree, zero, Record.zero_mem_encode_varint positive (Nat.pos_of_ne_zero zero)]
  | map number get set =>
      change 0 < number at positive
      simp only [records, List.mem_map, exists_exists_and_eq_and, ZeroFree,
        Record.zero_mem_encode_delimited positive, entryBytes_ne_nil, false_or, zero_mem_entryBytes]
      push Not
      refine exists_congr fun entry => and_congr_right fun _ => ?_
      tauto

end Slot

namespace Schema

variable {M : Type u} {schema : Schema M} {order : List (Bytes × Bytes)} {message : M}

theorem all_accepts_iff (schema : Schema M) (order : List (Bytes × Bytes)) (message : M) :
    ((schema.records order message).map Record.field).all schema.accepts = true ↔
      ∀ slot ∈ schema.slots, slot.Utf8 order message := by
  simp only [List.all_map, List.all_eq_true, records, List.mem_flatMap, Function.comp_apply,
    forall_exists_index, and_imp]
  constructor
  · intro accepted slot member
    rw [← slot.accepts_records_iff]
    intro record recordMember
    rw [← accepts_own member (Slot.number_of_mem_records recordMember)]
    exact accepted record slot member recordMember
  · intro valid record slot member recordMember
    rw [accepts_own member (Slot.number_of_mem_records recordMember)]
    exact slot.accepts_records_iff.mpr (valid slot member) record recordMember

theorem zero_mem_serialize_iff (schema : Schema M) (order : List (Bytes × Bytes)) (message : M) :
    (0 : UInt8) ∈ schema.serialize order message ↔
      ∃ slot ∈ schema.slots, ¬ slot.ZeroFree order message := by
  simp only [serialize, encodeRecords, records, List.mem_flatMap]
  constructor
  · rintro ⟨record, ⟨slot, member, recordMember⟩, zero⟩
    exact ⟨slot, member, (slot.zero_mem_records_iff (schema.numbered slot member).1).mp
      ⟨record, recordMember, zero⟩⟩
  · rintro ⟨slot, member, notFree⟩
    obtain ⟨record, recordMember, zero⟩ :=
      (slot.zero_mem_records_iff (schema.numbered slot member).1).mpr notFree
    exact ⟨record, ⟨slot, member, recordMember⟩, zero⟩

/-- A message passes a strlen-based hop unchanged or is refused by the reader,
and it passes exactly when its text is valid and writes no zero byte. -/
theorem parse_cString_serialize (ordered : schema.Ordered order message) :
    (schema.parse (cString (schema.serialize order message)) = some message ∧
        ∀ slot ∈ schema.slots, slot.Utf8 order message ∧ slot.ZeroFree order message) ∨
      (schema.parse (cString (schema.serialize order message)) = none ∧
        ¬ ∀ slot ∈ schema.slots, slot.Utf8 order message ∧ slot.ZeroFree order message) := by
  by_cases zero : (0 : UInt8) ∈ schema.serialize order message
  · right
    refine ⟨parseMessage_cString (schema.records_valid order message) zero schema.empty, ?_⟩
    obtain ⟨slot, member, notFree⟩ := (schema.zero_mem_serialize_iff order message).mp zero
    exact fun clean => notFree (clean slot member).2
  · have free : ∀ slot ∈ schema.slots, slot.ZeroFree order message := by
      intro slot member
      by_contra notFree
      exact zero ((schema.zero_mem_serialize_iff order message).mpr ⟨slot, member, notFree⟩)
    rw [cString_eq_self zero, parse_serialize ordered]
    by_cases valid : ∀ slot ∈ schema.slots, slot.Utf8 order message
    · left
      rw [if_pos ((schema.all_accepts_iff order message).mpr valid)]
      exact ⟨rfl, fun slot member => ⟨valid slot member, free slot member⟩⟩
    · right
      rw [if_neg (fun accepted => valid ((schema.all_accepts_iff order message).mp accepted))]
      exact ⟨rfl, fun clean => valid fun slot member => (clean slot member).1⟩

end Schema

end TaskHive.Wire
