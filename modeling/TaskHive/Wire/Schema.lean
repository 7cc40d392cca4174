import Mathlib.Data.Finmap
import TaskHive.Wire.Text

namespace TaskHive.Wire

/-! # Message schemas

A message declaration is a list of slots: string, integer and string-map
fields with their numbers.  Writing omits defaults, reading merges the fields
it knows and passes over the others.  The schema carries the frame facts of
its record type, so that one round trip, one truncation and one zero-byte
result serve every declared message. -/

abbrev StringMap := Finmap fun _ : Bytes => Bytes

def insertAll (map : StringMap) (entries : List (Bytes × Bytes)) : StringMap :=
  entries.foldl (fun map entry => map.insert entry.1 entry.2) map

/-- One iteration over a hash map: each entry once, in an order that the
library does not promise. -/
structure Iterates (order : List (Bytes × Bytes)) (map : StringMap) : Prop where
  distinct : (order.map Prod.fst).Nodup
  built : insertAll ∅ order = map

instance (order : List (Bytes × Bytes)) (map : StringMap) : Decidable (Iterates order map) :=
  decidable_of_iff ((order.map Prod.fst).Nodup ∧ insertAll ∅ order = map)
    ⟨fun ⟨distinct, built⟩ => ⟨distinct, built⟩, fun iterates => ⟨iterates.distinct, iterates.built⟩⟩

theorem lookup_insertAll_of_notMem {entries : List (Bytes × Bytes)} {key : Bytes}
    (absent : key ∉ entries.map Prod.fst) (map : StringMap) :
    (insertAll map entries).lookup key = map.lookup key := by
  induction entries generalizing map with
  | nil => rfl
  | cons entry rest ih =>
      simp only [List.map_cons, List.mem_cons, not_or] at absent
      rw [insertAll, List.foldl_cons, ← insertAll, ih absent.2, Finmap.lookup_insert_of_ne _ absent.1]

theorem lookup_insertAll_of_mem {entries : List (Bytes × Bytes)} {entry : Bytes × Bytes}
    (distinct : (entries.map Prod.fst).Nodup) (member : entry ∈ entries) (map : StringMap) :
    (insertAll map entries).lookup entry.1 = some entry.2 := by
  induction entries generalizing map with
  | nil => cases member
  | cons head rest ih =>
      rw [List.map_cons, List.nodup_cons] at distinct
      rw [insertAll, List.foldl_cons, ← insertAll]
      rcases List.mem_cons.mp member with rfl | later
      · rw [lookup_insertAll_of_notMem distinct.1, Finmap.lookup_insert]
      · exact ih distinct.2 later _

theorem Iterates.lookup {order : List (Bytes × Bytes)} {map : StringMap} (iterates : Iterates order map)
    {entry : Bytes × Bytes} : entry ∈ order ↔ map.lookup entry.1 = some entry.2 := by
  rw [← iterates.built]
  constructor
  · intro member
    exact lookup_insertAll_of_mem iterates.distinct member ∅
  · intro found
    by_cases present : entry.1 ∈ order.map Prod.fst
    · obtain ⟨other, member, same⟩ := List.mem_map.mp present
      have stored := lookup_insertAll_of_mem iterates.distinct member ∅
      rw [same, found] at stored
      have equal : entry = other := Prod.ext same.symm (Option.some.inj stored)
      rwa [equal]
    · rw [lookup_insertAll_of_notMem present, Finmap.lookup_empty] at found
      cases found

theorem exists_iterates (map : StringMap) : ∃ order, Iterates order map := by
  induction map using Finmap.induction_on with
  | H entries =>
      induction entries using AList.insertRec with
      | H0 => exact ⟨[], List.nodup_nil, rfl⟩
      | IH key value rest fresh ih =>
          obtain ⟨order, iterates⟩ := ih
          have absent : key ∉ order.map Prod.fst := by
            intro member
            obtain ⟨entry, found, rfl⟩ := List.mem_map.mp member
            exact fresh (Finmap.mem_of_lookup_eq_some (iterates.lookup.mp found))
          refine ⟨order ++ [(key, value)], ?_, ?_⟩
          · rw [List.map_append, List.nodup_append]
            refine ⟨iterates.distinct, List.nodup_singleton key, ?_⟩
            intro old member new last same
            rw [List.map_singleton, List.mem_singleton] at last
            rw [same, last] at member
            exact absent member
          · have built := iterates.built
            rw [insertAll] at built ⊢
            rw [List.foldl_append, built]
            exact Finmap.insert_toFinmap key value rest

theorem Iterates.assocLookup {order : List (Bytes × Bytes)} {map : StringMap} (iterates : Iterates order map)
    (key : Bytes) : order.lookup key = map.lookup key := by
  cases found : order.lookup key with
  | some value =>
      obtain ⟨before, after, split, _⟩ := List.lookup_eq_some_iff.mp found
      exact (iterates.lookup.mp (show (key, value) ∈ order by simp [split])).symm
  | none =>
      have absent : key ∉ order.map Prod.fst := by
        intro present
        obtain ⟨entry, member, rfl⟩ := List.mem_map.mp present
        simpa using List.lookup_eq_none_iff.mp found entry member
      rw [← iterates.built, lookup_insertAll_of_notMem absent, Finmap.lookup_empty]

/-- `insert` of a message's map, which leaves an entry that is there alone. -/
def insertNew (map : StringMap) (entry : Bytes × Bytes) : StringMap :=
  if entry.1 ∈ map then map else map.insert entry.1 entry.2

theorem lookup_insertNew (map : StringMap) (entry : Bytes × Bytes) (key : Bytes) :
    (insertNew map entry).lookup key =
      (map.lookup key).or (if key = entry.1 then some entry.2 else none) := by
  unfold insertNew
  by_cases same : key = entry.1
  · subst key
    by_cases present : entry.1 ∈ map
    · obtain ⟨value, found⟩ := Finmap.mem_iff.mp present
      simp [present, found]
    · simp [present, Finmap.lookup_eq_none.mpr present]
  · rw [if_neg same, Option.or_none]
    split
    · rfl
    · exact Finmap.lookup_insert_of_ne _ same

theorem lookup_foldl_insertNew (entries : List (Bytes × Bytes)) (map : StringMap) (key : Bytes) :
    (entries.foldl insertNew map).lookup key = (map.lookup key).or (entries.lookup key) := by
  induction entries generalizing map with
  | nil => simp
  | cons entry rest ih =>
      rw [List.foldl_cons, ih, lookup_insertNew, Option.or_assoc, List.lookup_cons]
      by_cases same : key = entry.1
      · simp [same]
      · rw [if_neg same, beq_false_of_ne same, Option.none_or]

/-! ## Map entries -/

/-- An entry always writes both its key and its value. -/
def entryBytes (entry : Bytes × Bytes) : Bytes :=
  encodeRecords [.delimited 1 entry.1, .delimited 2 entry.2]

def mergeEntry (entry : Bytes × Bytes) (field : Field) : Option (Bytes × Bytes) :=
  match field.number, field.payload with
  | 1, .delimited bytes => if validUtf8 bytes then some (bytes, entry.2) else none
  | 2, .delimited bytes => if validUtf8 bytes then some (entry.1, bytes) else none
  | _, _ => some entry

def parseEntry (bytes : Bytes) : Option (Bytes × Bytes) := parseMessage mergeEntry ([], []) bytes

theorem parseEntry_entryBytes (entry : Bytes × Bytes) :
    parseEntry (entryBytes entry) =
      if validUtf8 entry.1 ∧ validUtf8 entry.2 then some entry else none := by
  rw [parseEntry, entryBytes, parseMessage_encodeRecords]
  · cases keyValid : validUtf8 entry.1 <;> cases valueValid : validUtf8 entry.2 <;>
      simp [Record.field, mergeEntry, keyValid, valueValid]
  · simp [Record.Valid]

theorem zero_mem_entryBytes (entry : Bytes × Bytes) :
    (0 : UInt8) ∈ entryBytes entry ↔
      entry.1 = [] ∨ (0 : UInt8) ∈ entry.1 ∨ entry.2 = [] ∨ (0 : UInt8) ∈ entry.2 := by
  simp only [entryBytes, encodeRecords_cons, encodeRecords_nil, List.mem_append,
    Record.zero_mem_encode_delimited (show 0 < 1 by decide),
    Record.zero_mem_encode_delimited (show 0 < 2 by decide), List.not_mem_nil, or_false, or_assoc]

theorem entryBytes_ne_nil (entry : Bytes × Bytes) : entryBytes entry ≠ [] := by
  simp [entryBytes, Record.encode_ne_nil]

/-! ## Slots -/

inductive Slot (M : Type u) where
  | string (number : Nat) (get : M → Bytes) (set : M → Bytes → M)
  | varint (number : Nat) (get : M → Nat) (set : M → Nat → M)
  | map (number : Nat) (get : M → StringMap) (set : M → StringMap → M)

namespace Slot

variable {M : Type u}

def number : Slot M → Nat
  | .string number _ _ | .varint number _ _ | .map number _ _ => number

/-- Two messages agree on this slot. -/
def Same : Slot M → M → M → Prop
  | .string _ get _, left, right => get left = get right
  | .varint _ get _, left, right => get left = get right
  | .map _ get _, left, right => get left = get right

def Default : Slot M → M → Prop
  | .string _ get _, message => get message = []
  | .varint _ get _, message => get message = 0
  | .map _ get _, message => get message = ∅

/-- Reading back what was stored.  Integer slots may be narrower than the
wire, so only values they can hold come back. -/
def Lawful : Slot M → Prop
  | .string _ get set => ∀ message value, get (set message value) = value
  | .varint _ get set => (∀ message, get message < 2 ^ 64) ∧
      ∀ message other, get (set message (get other)) = get other
  | .map _ get set => ∀ message value, get (set message value) = value

/-- Writing this slot leaves the other one alone. -/
def Frames (slot other : Slot M) : Prop :=
  match slot with
  | .string _ _ set => ∀ message value, other.Same message (set message value)
  | .varint _ _ set => ∀ message value, other.Same message (set message value)
  | .map _ _ set => ∀ message value, other.Same message (set message value)

/-- Strings are checked for UTF-8, an entry is inserted or overwritten, and a
payload of another wire type is an unknown field. -/
def merge (slot : Slot M) (message : M) (payload : Payload) : Option M :=
  match slot, payload with
  | .string _ _ set, .delimited bytes => if validUtf8 bytes then some (set message bytes) else none
  | .varint _ _ set, .varint value => some (set message value)
  | .map _ get set, .delimited bytes =>
      (parseEntry bytes).map fun entry => set message ((get message).insert entry.1 entry.2)
  | _, _ => some message

def accepts (slot : Slot M) (payload : Payload) : Bool :=
  match slot, payload with
  | .string _ _ _, .delimited bytes => validUtf8 bytes
  | .map _ _ _, .delimited bytes => (parseEntry bytes).isSome
  | _, _ => true

/-- The records written for this slot; defaults are omitted. -/
def records (order : List (Bytes × Bytes)) (message : M) : Slot M → List Record
  | .string number get _ => if get message = [] then [] else [.delimited number (get message)]
  | .varint number get _ => if get message = 0 then [] else [.varint number (get message)]
  | .map number _ _ => order.map fun entry => .delimited number (entryBytes entry)

/-- The chosen iteration order belongs to the map of this message. -/
def Ordered (order : List (Bytes × Bytes)) (message : M) : Slot M → Prop
  | .map _ get _ => Iterates order (get message)
  | _ => True

theorem Same.refl (slot : Slot M) (message : M) : slot.Same message message := by
  cases slot <;> rfl

theorem Same.trans {slot : Slot M} {first second third : M} (left : slot.Same first second)
    (right : slot.Same second third) : slot.Same first third := by
  cases slot <;> exact Eq.trans left right

theorem Same.symm {slot : Slot M} {left right : M} (same : slot.Same left right) :
    slot.Same right left := by
  cases slot <;> exact Eq.symm same

theorem isSome_merge (slot : Slot M) (message : M) (payload : Payload) :
    (slot.merge message payload).isSome = slot.accepts payload := by
  cases slot <;> cases payload <;> simp [merge, accepts]
  split <;> simp_all

theorem Frames.merge {slot other : Slot M} (frames : slot.Frames other) {message next : M}
    {payload : Payload} (merged : slot.merge message payload = some next) :
    other.Same message next := by
  cases slot <;> cases payload <;> simp only [Slot.merge] at merged
  case string.delimited =>
      split at merged
      · cases merged; exact frames _ _
      · cases merged
  case varint.varint => cases merged; exact frames _ _
  case map.delimited =>
      obtain ⟨entry, _, rfl⟩ := Option.map_eq_some_iff.mp merged
      exact frames _ _
  all_goals
    cases merged
    exact Same.refl other message

theorem number_of_mem_records {slot : Slot M} {order : List (Bytes × Bytes)} {message : M}
    {record : Record} (member : record ∈ slot.records order message) :
    record.field.number = slot.number := by
  cases slot with
  | string number get set => simp only [records] at member; split at member <;> simp_all [Record.field, Slot.number]
  | varint number get set => simp only [records] at member; split at member <;> simp_all [Record.field, Slot.number]
  | map number get set =>
      obtain ⟨entry, _, rfl⟩ := List.mem_map.mp member
      rfl

end Slot

end TaskHive.Wire
