import Mathlib.Data.List.Basic
import Mathlib.Data.List.TakeWhile
import TaskHive.Wire.Message

namespace TaskHive.Wire

/-! # Text on the wire

`cString` is what a strlen-based interface sees of a byte string.  Tags and
sizes of nonempty payloads contain no zero byte, so a zero byte always lies
strictly inside a record and the cut it causes is refused by the parser. -/

def cString (bytes : Bytes) : Bytes := bytes.takeWhile (· ≠ 0)

/-- The bytes of a string literal of the source. -/
def utf8 (text : String) : Bytes := text.toUTF8.data.toList

def isContinuation (byte : UInt8) : Bool := decide (0x80 ≤ byte ∧ byte ≤ 0xBF)

/-- Structural UTF-8 validity: no overlong forms, no surrogates, nothing above
U+10FFFF. -/
def validUtf8 : Bytes → Bool
  | [] => true
  | first :: rest =>
      if first < 0x80 then validUtf8 rest
      else match rest with
        | [] => false
        | second :: rest =>
            if 0xC2 ≤ first ∧ first ≤ 0xDF then isContinuation second && validUtf8 rest
            else match rest with
              | [] => false
              | third :: rest =>
                  if 0xE0 ≤ first ∧ first ≤ 0xEF then
                    isContinuation second && decide (first = 0xE0 → 0xA0 ≤ second) &&
                      decide (first = 0xED → second ≤ 0x9F) && isContinuation third && validUtf8 rest
                  else match rest with
                    | [] => false
                    | fourth :: rest =>
                        decide (0xF0 ≤ first ∧ first ≤ 0xF4) && isContinuation second &&
                          decide (first = 0xF0 → 0x90 ≤ second) &&
                          decide (first = 0xF4 → second ≤ 0x8F) &&
                          isContinuation third && isContinuation fourth && validUtf8 rest

theorem cString_isPrefix (bytes : Bytes) : cString bytes <+: bytes :=
  List.takeWhile_prefix _

theorem zero_notMem_cString (bytes : Bytes) : (0 : UInt8) ∉ cString bytes := by
  intro member
  simpa using List.mem_takeWhile_imp member

theorem cString_eq_self {bytes : Bytes} (clean : (0 : UInt8) ∉ bytes) : cString bytes = bytes := by
  rw [cString, List.takeWhile_eq_self_iff]
  intro byte member
  simp only [ne_eq, decide_not, Bool.not_eq_eq_eq_not, Bool.not_true, decide_eq_false_iff_not]
  intro zero
  exact clean (zero ▸ member)

theorem cString_append_of_mem {bytes : Bytes} (zero : (0 : UInt8) ∈ bytes) (rest : Bytes) :
    cString (bytes ++ rest) = cString bytes := by
  induction bytes with
  | nil => cases zero
  | cons byte bytes ih =>
      simp only [cString, List.cons_append, List.takeWhile_cons]
      split
      · rename_i nonzero
        have later : (0 : UInt8) ∈ bytes := by
          refine (List.mem_cons.mp zero).resolve_left ?_
          rintro rfl
          simp at nonzero
        exact congrArg (byte :: ·) (ih later)
      · rfl

/-- The byte at which `cString` stops is a zero byte. -/
theorem cString_append_stop {left right : Bytes} (stop : cString (left ++ right) = left)
    (nonempty : right ≠ []) : right.head? = some 0 := by
  induction left with
  | nil =>
      obtain ⟨byte, rest, rfl⟩ := List.exists_cons_of_ne_nil nonempty
      by_cases zero : byte = 0
      · simp [zero]
      · simp [cString, zero] at stop
  | cons byte rest ih =>
      simp only [cString, List.cons_append, List.takeWhile_cons] at stop ih
      split at stop
      · exact ih (List.cons.inj stop).2
      · cases stop

namespace Record

theorem zero_notMem_tag {number : Nat} (positive : 0 < number) (wireType : Nat) :
    (0 : UInt8) ∉ encodeVarint (number * 8 + wireType) :=
  zero_notMem_encodeVarint (by omega)

theorem zero_mem_encode_varint {number value : Nat} (positive : 0 < number) (nonzero : 0 < value) :
    (0 : UInt8) ∉ (Record.varint number value).encode := by
  simp only [encode, List.mem_append, not_or]
  exact ⟨zero_notMem_tag positive 0, zero_notMem_encodeVarint nonzero⟩

theorem zero_mem_encode_delimited {number : Nat} (positive : 0 < number) (bytes : Bytes) :
    (0 : UInt8) ∈ (Record.delimited number bytes).encode ↔ bytes = [] ∨ (0 : UInt8) ∈ bytes := by
  simp only [encode, List.mem_append, zero_notMem_tag positive, false_or]
  cases bytes with
  | nil => simp [encodeVarint_zero]
  | cons byte rest =>
      have size : (0 : UInt8) ∉ encodeVarint (byte :: rest).length := zero_notMem_encodeVarint (by simp)
      simp only [size, false_or, reduceCtorEq]

/-- Every record starts with a nonzero tag byte. -/
theorem head_encode_ne_zero {record : Record} (valid : record.Valid) :
    record.encode.head? ≠ some 0 := by
  cases record with
  | varint number value =>
      intro head
      have member : (0 : UInt8) ∈ encodeVarint (number * 8 + 0) := by
        rw [encode, List.head?_append_of_ne_nil _ (encodeVarint_ne_nil _)] at head
        exact List.mem_of_head? head
      exact zero_notMem_tag valid.1 0 member
  | delimited number bytes =>
      intro head
      have member : (0 : UInt8) ∈ encodeVarint (number * 8 + 2) := by
        rw [encode, List.head?_append_of_ne_nil _ (encodeVarint_ne_nil _)] at head
        exact List.mem_of_head? head
      exact zero_notMem_tag valid.1 2 member

end Record

theorem head_encodeRecords_ne_zero {records : List Record}
    (valid : ∀ record ∈ records, record.Valid) : (encodeRecords records).head? ≠ some 0 := by
  cases records with
  | nil => simp
  | cons record rest =>
      rw [encodeRecords_cons, List.head?_append_of_ne_nil _ record.encode_ne_nil]
      exact record.head_encode_ne_zero (valid record (by simp))

/-- A message that contains a zero byte does not survive a strlen-based
interface: what is left of it never parses. -/
theorem parseMessage_cString {M : Type u} {merge : M → Field → Option M} {records : List Record}
    (valid : ∀ record ∈ records, record.Valid)
    (zero : (0 : UInt8) ∈ encodeRecords records) (message : M) :
    parseMessage merge message (cString (encodeRecords records)) = none := by
  rcases prefix_encodeRecords (cString_isPrefix (encodeRecords records)) with
    ⟨kept, dropped, split, boundary⟩ |
      ⟨kept, record, dropped, inside, split, cut, partly, notWhole, nonempty⟩
  · exfalso
    rw [split, encodeRecords_append] at boundary
    by_cases complete : encodeRecords dropped = []
    · have clean := zero_notMem_cString (encodeRecords kept ++ encodeRecords dropped)
      rw [boundary] at clean
      rw [split, encodeRecords_append, complete, List.append_nil] at zero
      exact clean zero
    · exact head_encodeRecords_ne_zero
        (fun record member => valid record (by simp [split, member]))
        (cString_append_stop boundary complete)
  · rw [cut]
    refine parseMessage_truncated ?_ (valid record (by simp [split])) partly notWhole nonempty message
    exact fun other member => valid other (by simp [split, member])

end TaskHive.Wire
