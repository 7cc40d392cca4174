import TaskHive.Wire.Varint

namespace TaskHive.Wire

/-! # Messages as sequences of tagged fields

The reader follows the protobuf loop: a tag, a payload whose extent is decided
by the wire type, and a merge of that field into the message under
construction.  The writer emits records.  A record is self-delimiting: the
reader recovers it from any continuation and refuses every proper cut of it.
All results on truncated messages follow from that one property. -/

inductive Payload where
  | varint (value : Nat)
  | fixed64 (bytes : Bytes)
  | delimited (bytes : Bytes)
  | group
  | fixed32 (bytes : Bytes)
deriving DecidableEq, Repr

structure Field where
  number : Nat
  payload : Payload
deriving DecidableEq, Repr

def readTag (bytes : Bytes) : Option (Nat × Bytes) :=
  (readVarint 5 bytes).map fun (tag, rest) => (tag % 2 ^ 32, rest)

def readVarint64 (bytes : Bytes) : Option (Nat × Bytes) :=
  (readVarint 10 bytes).map fun (value, rest) => (value % 2 ^ 64, rest)

def takeBytes (count : Nat) (bytes : Bytes) : Option (Bytes × Bytes) :=
  if count ≤ bytes.length then some (bytes.take count, bytes.drop count) else none

/-- Sizes are idealized: they are bounded by the data that is present, not by
the two gigabyte limit of the library. -/
def readDelimited (bytes : Bytes) : Option (Bytes × Bytes) :=
  (readVarint bytes.length bytes).bind fun (size, rest) => takeBytes size rest

def skipScalar (wireType : Nat) (bytes : Bytes) : Option (Payload × Bytes) :=
  match wireType with
  | 0 => (readVarint64 bytes).map fun (value, rest) => (.varint value, rest)
  | 1 => (takeBytes 8 bytes).map fun (taken, rest) => (.fixed64 taken, rest)
  | 2 => (readDelimited bytes).map fun (taken, rest) => (.delimited taken, rest)
  | 5 => (takeBytes 4 bytes).map fun (taken, rest) => (.fixed32 taken, rest)
  | _ => none

/-- Consume an unknown group up to its matching end tag. -/
def skipGroup : Nat → Nat → Bytes → Option Bytes
  | 0, _, _ => none
  | fuel + 1, number, bytes =>
      (readTag bytes).bind fun (tag, rest) =>
        if tag / 8 = 0 then none
        else if tag % 8 = 4 then if tag / 8 = number then some rest else none
        else if tag % 8 = 3 then
          (skipGroup fuel (tag / 8) rest).bind fun rest => skipGroup fuel number rest
        else (skipScalar (tag % 8) rest).bind fun (_, rest) => skipGroup fuel number rest

def readPayload (number wireType : Nat) (bytes : Bytes) : Option (Payload × Bytes) :=
  if wireType = 3 then (skipGroup bytes.length number bytes).map fun rest => (.group, rest)
  else skipScalar wireType bytes

/-- One iteration of the parsing loop.  A zero tag and an end tag without a
group both make the top-level parse fail. -/
def readField (bytes : Bytes) : Option (Field × Bytes) :=
  (readTag bytes).bind fun (tag, rest) =>
    if tag / 8 = 0 then none
    else (readPayload (tag / 8) (tag % 8) rest).map fun (payload, rest) =>
      ({ number := tag / 8, payload }, rest)

section Loop

variable {M : Type u}

def parseLoop (merge : M → Field → Option M) : Nat → M → Bytes → Option M
  | _, message, [] => some message
  | 0, _, _ :: _ => none
  | fuel + 1, message, byte :: bytes =>
      (readField (byte :: bytes)).bind fun (field, rest) =>
        (merge message field).bind fun message => parseLoop merge fuel message rest

/-- Every iteration consumes at least one byte, so the input's length is
enough fuel. -/
def parseMessage (merge : M → Field → Option M) (message : M) (bytes : Bytes) : Option M :=
  parseLoop merge bytes.length message bytes

end Loop

/-- What the writers emit. -/
inductive Record where
  | varint (number value : Nat)
  | delimited (number : Nat) (bytes : Bytes)
deriving DecidableEq, Repr

namespace Record

def encode : Record → Bytes
  | .varint number value => encodeVarint (number * 8) ++ encodeVarint value
  | .delimited number bytes =>
      encodeVarint (number * 8 + 2) ++ (encodeVarint bytes.length ++ bytes)

def field : Record → Field
  | .varint number value => { number, payload := .varint value }
  | .delimited number bytes => { number, payload := .delimited bytes }

def Valid : Record → Prop
  | .varint number value => 0 < number ∧ number < 2 ^ 29 ∧ value < 2 ^ 64
  | .delimited number _ => 0 < number ∧ number < 2 ^ 29

end Record

def encodeRecords (records : List Record) : Bytes := records.flatMap Record.encode

@[simp] theorem encodeRecords_nil : encodeRecords [] = [] := rfl

@[simp] theorem encodeRecords_cons (record : Record) (records : List Record) :
    encodeRecords (record :: records) = record.encode ++ encodeRecords records := by
  simp [encodeRecords]

@[simp] theorem encodeRecords_append (left right : List Record) :
    encodeRecords (left ++ right) = encodeRecords left ++ encodeRecords right := by
  simp [encodeRecords]

/-! ## Records are self-delimiting -/

/-- A prefix of a concatenation either ends inside the first part or contains
all of it. -/
theorem prefix_append_cases {cut left right : Bytes} (isPrefix : cut <+: left ++ right) :
    (cut <+: left ∧ cut ≠ left) ∨ ∃ rest, cut = left ++ rest ∧ rest <+: right := by
  rcases List.prefix_or_prefix_of_prefix isPrefix (List.prefix_append left right) with shorter | longer
  · by_cases same : cut = left
    · exact .inr ⟨[], by simp [same], List.nil_prefix⟩
    · exact .inl ⟨shorter, same⟩
  · obtain ⟨rest, rfl⟩ := longer
    exact .inr ⟨rest, rfl, (List.prefix_append_right_inj left).mp isPrefix⟩

theorem readTag_encodeVarint (tag : Nat) (bound : tag < 2 ^ 32) (rest : Bytes) :
    readTag (encodeVarint tag ++ rest) = some (tag, rest) := by
  have room := encodeVarint_length_le 4 tag (by omega)
  simp only [readTag, readVarint_encodeVarint tag rest room, Option.map_some, Nat.mod_eq_of_lt bound]

theorem readTag_truncated {tag : Nat} {cut : Bytes} (isPrefix : cut <+: encodeVarint tag)
    (proper : cut ≠ encodeVarint tag) : readTag cut = none := by
  simp [readTag, readVarint_truncated tag isPrefix proper]

theorem readVarint64_encodeVarint {value : Nat} (bound : value < 2 ^ 64) (rest : Bytes) :
    readVarint64 (encodeVarint value ++ rest) = some (value, rest) := by
  have room := encodeVarint_length_le 9 value (by omega)
  simp only [readVarint64, readVarint_encodeVarint value rest room, Option.map_some,
    Nat.mod_eq_of_lt bound]

theorem readDelimited_encode (bytes rest : Bytes) :
    readDelimited (encodeVarint bytes.length ++ (bytes ++ rest)) = some (bytes, rest) := by
  have room : (encodeVarint bytes.length).length ≤
      (encodeVarint bytes.length ++ (bytes ++ rest)).length := by
    rw [List.length_append]
    omega
  rw [readDelimited, readVarint_encodeVarint _ _ room]
  simp [takeBytes]

theorem readDelimited_truncated {bytes cut : Bytes}
    (isPrefix : cut <+: encodeVarint bytes.length ++ bytes)
    (proper : cut ≠ encodeVarint bytes.length ++ bytes) : readDelimited cut = none := by
  rcases prefix_append_cases isPrefix with ⟨inSize, notSize⟩ | ⟨rest, rfl, inBytes⟩
  · simp [readDelimited, readVarint_truncated _ inSize notSize]
  · have room : (encodeVarint bytes.length).length ≤
        (encodeVarint bytes.length ++ rest).length := by
      rw [List.length_append]
      omega
    have missing : rest.length < bytes.length := by
      apply Nat.lt_of_le_of_ne inBytes.length_le
      intro same
      exact proper (by rw [inBytes.eq_of_length same])
    rw [readDelimited, readVarint_encodeVarint _ _ room]
    simp [takeBytes, missing]

namespace Record

theorem encode_ne_nil (record : Record) : record.encode ≠ [] := by
  cases record <;> simp [encode, encodeVarint_ne_nil]

theorem encode_length_pos (record : Record) : 0 < record.encode.length :=
  List.length_pos_iff.mpr record.encode_ne_nil

/-- The reader recovers a record in front of any continuation. -/
theorem readField_encode {record : Record} (valid : record.Valid) (rest : Bytes) :
    readField (record.encode ++ rest) = some (record.field, rest) := by
  cases record with
  | varint number value =>
      obtain ⟨positive, small, bound⟩ := valid
      have tag : number * 8 / 8 = number := by omega
      have wire : number * 8 % 8 = 0 := by omega
      simp only [encode, readField, List.append_assoc,
        readTag_encodeVarint (number * 8) (by omega), Option.bind_some, tag, wire, readPayload]
      simp [skipScalar, readVarint64_encodeVarint bound, field, Nat.ne_of_gt positive]
  | delimited number bytes =>
      obtain ⟨positive, small⟩ := valid
      have tag : (number * 8 + 2) / 8 = number := by omega
      have wire : (number * 8 + 2) % 8 = 2 := by omega
      simp only [encode, readField, List.append_assoc,
        readTag_encodeVarint (number * 8 + 2) (by omega), Option.bind_some, tag, wire, readPayload]
      simp [skipScalar, readDelimited_encode, field, Nat.ne_of_gt positive]

/-- Every proper cut of a record is refused. -/
theorem readField_truncated {record : Record} (valid : record.Valid) {cut : Bytes}
    (isPrefix : cut <+: record.encode) (proper : cut ≠ record.encode) : readField cut = none := by
  cases record with
  | varint number value =>
      obtain ⟨positive, small, bound⟩ := valid
      rcases prefix_append_cases isPrefix with ⟨inTag, notTag⟩ | ⟨rest, rfl, inValue⟩
      · simp [readField, readTag_truncated inTag notTag]
      · have wire : number * 8 % 8 = 0 := by omega
        have rejected := @readVarint_truncated value 10 _ inValue (by simpa [encode] using proper)
        simp only [readField, readTag_encodeVarint (number * 8) (by omega), Option.bind_some,
          wire, readPayload]
        simp [skipScalar, readVarint64, rejected]
  | delimited number bytes =>
      obtain ⟨positive, small⟩ := valid
      rcases prefix_append_cases isPrefix with ⟨inTag, notTag⟩ | ⟨rest, rfl, inBody⟩
      · simp [readField, readTag_truncated inTag notTag]
      · have wire : (number * 8 + 2) % 8 = 2 := by omega
        have rejected := readDelimited_truncated inBody (by simpa [encode] using proper)
        simp only [readField, readTag_encodeVarint (number * 8 + 2) (by omega),
          Option.bind_some, wire, readPayload]
        simp [skipScalar, rejected]

end Record

/-! ## Parsing whole and cut messages -/

section Parsing

variable {M : Type u} {merge : M → Field → Option M}

theorem parseLoop_encodeRecords {records : List Record} (valid : ∀ record ∈ records, record.Valid)
    (message : M) (fuel : Nat) (rest : Bytes)
    (enough : (encodeRecords records).length + rest.length ≤ fuel) :
    ∃ remaining, rest.length ≤ remaining ∧
      parseLoop merge fuel message (encodeRecords records ++ rest) =
        ((records.map Record.field).foldlM merge message).bind fun message =>
          parseLoop merge remaining message rest := by
  induction records generalizing message fuel with
  | nil => exact ⟨fuel, by simpa using enough, by simp⟩
  | cons record records ih =>
      have recordValid := valid record (by simp)
      have restValid : ∀ other ∈ records, other.Valid := fun other member => valid other (by simp [member])
      have consumed := record.readField_encode recordValid (encodeRecords records ++ rest)
      have positive := record.encode_length_pos
      obtain ⟨byte, tail, shape⟩ := List.exists_cons_of_ne_nil record.encode_ne_nil
      simp only [encodeRecords_cons, List.length_append] at enough
      cases fuel with
      | zero => omega
      | succ fuel =>
          have unfolded : parseLoop merge (fuel + 1) message (record.encode ++ (encodeRecords records ++ rest)) =
              (merge message record.field).bind fun next =>
                parseLoop merge fuel next (encodeRecords records ++ rest) := by
            rw [shape] at consumed ⊢
            simp only [List.cons_append] at consumed ⊢
            rw [parseLoop, consumed, Option.bind_some]
          simp only [encodeRecords_cons, List.append_assoc, unfolded, List.map_cons, List.foldlM_cons]
          cases merged : merge message record.field with
          | none => exact ⟨fuel, by omega, rfl⟩
          | some next =>
              obtain ⟨remaining, large, tailParsed⟩ := ih restValid next fuel (by omega)
              exact ⟨remaining, large, tailParsed⟩

theorem parseMessage_encodeRecords {records : List Record}
    (valid : ∀ record ∈ records, record.Valid) (message : M) :
    parseMessage merge message (encodeRecords records) =
      (records.map Record.field).foldlM merge message := by
  obtain ⟨remaining, _, parsed⟩ := @parseLoop_encodeRecords _ merge _ valid message
    (encodeRecords records).length [] (by simp)
  rw [List.append_nil] at parsed
  rw [parseMessage, parsed]
  simp [parseLoop]

/-- A cut of an encoded message falls between two records or inside one. -/
theorem prefix_encodeRecords {records : List Record} {cut : Bytes}
    (isPrefix : cut <+: encodeRecords records) :
    (∃ kept dropped, records = kept ++ dropped ∧ cut = encodeRecords kept) ∨
      ∃ kept record dropped inside, records = kept ++ record :: dropped ∧
        cut = encodeRecords kept ++ inside ∧ inside <+: record.encode ∧
        inside ≠ record.encode ∧ inside ≠ [] := by
  induction records generalizing cut with
  | nil => exact .inl ⟨[], [], rfl, List.prefix_nil.mp isPrefix⟩
  | cons record records ih =>
      rw [encodeRecords_cons] at isPrefix
      rcases prefix_append_cases isPrefix with ⟨inRecord, notRecord⟩ | ⟨rest, rfl, inRest⟩
      · by_cases empty : cut = []
        · exact .inl ⟨[], record :: records, rfl, by simp [empty]⟩
        · exact .inr ⟨[], record, records, cut, rfl, by simp, inRecord, notRecord, empty⟩
      · rcases ih inRest with ⟨kept, dropped, rfl, rfl⟩ |
          ⟨kept, inner, dropped, inside, rfl, rfl, partly, notWhole, nonempty⟩
        · exact .inl ⟨record :: kept, dropped, rfl, by simp⟩
        · exact .inr ⟨record :: kept, inner, dropped, inside, rfl, by simp, partly, notWhole, nonempty⟩

theorem parseMessage_truncated {kept : List Record} {record : Record} {inside : Bytes}
    (valid : ∀ other ∈ kept, other.Valid) (recordValid : record.Valid)
    (partly : inside <+: record.encode) (notWhole : inside ≠ record.encode)
    (nonempty : inside ≠ []) (message : M) :
    parseMessage merge message (encodeRecords kept ++ inside) = none := by
  obtain ⟨remaining, large, parsed⟩ := @parseLoop_encodeRecords _ merge _ valid message
    (encodeRecords kept ++ inside).length inside (by simp)
  rw [parseMessage, parsed]
  cases (kept.map Record.field).foldlM merge message with
  | none => rfl
  | some next =>
      have rejected := record.readField_truncated recordValid partly notWhole
      obtain ⟨byte, tail, shape⟩ := List.exists_cons_of_ne_nil nonempty
      subst inside
      cases remaining with
      | zero => simp at large
      | succ remaining => simp [parseLoop, rejected]

/-- A cut message is read as the records before the cut, or not at all. -/
theorem parseMessage_prefix {records : List Record} (valid : ∀ record ∈ records, record.Valid)
    {cut : Bytes} (isPrefix : cut <+: encodeRecords records) (message : M) :
    parseMessage merge message cut = none ∨
      ∃ kept dropped, records = kept ++ dropped ∧ cut = encodeRecords kept ∧
        parseMessage merge message cut = (kept.map Record.field).foldlM merge message := by
  rcases prefix_encodeRecords isPrefix with ⟨kept, dropped, rfl, rfl⟩ |
    ⟨kept, record, dropped, inside, rfl, rfl, partly, notWhole, nonempty⟩
  · refine .inr ⟨kept, dropped, rfl, rfl, ?_⟩
    exact parseMessage_encodeRecords (fun record member => valid record (by simp [member])) message
  · left
    exact parseMessage_truncated (fun other member => valid other (by simp [member]))
      (valid record (by simp)) partly notWhole nonempty message

end Parsing

end TaskHive.Wire
