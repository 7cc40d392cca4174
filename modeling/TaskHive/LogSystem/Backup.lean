import TaskHive.Decimal
import TaskHive.Wire.Text

namespace TaskHive.LogSystem

open Wire

/-! # Backup of log lines

`start_backup` sends a formatted line over a connection of its own, without a
length.  `TcpServer::service` reads once into an array of 1024 bytes, writes a
terminator behind what it read and takes the array for a C string.  An access
outside the array is the end of the model: C++ gives it no meaning. -/

inductive LogLevel where
  | debug
  | info
  | warn
  | error
  | fatal
deriving DecidableEq, Repr

/-- `ToString` -/
def LogLevel.text : LogLevel → Bytes
  | .debug => utf8 "DEBUG"
  | .info => utf8 "INFO"
  | .warn => utf8 "WARN"
  | .error => utf8 "ERROR"
  | .fatal => utf8 "FATAL"

/-- The time and the thread are kept as the texts that `format` prints. -/
structure LogMessage where
  line : Nat
  ctime : Bytes
  fileName : Bytes
  name : Bytes
  payload : Bytes
  tid : Bytes
  level : LogLevel

def LogMessage.format (message : LogMessage) : Bytes :=
  let tmp1 := utf8 "[" ++ message.ctime ++ utf8 "]["
  let tmp2 := utf8 "[" ++ message.level.text ++ utf8 "][" ++ message.name ++ utf8 "][" ++ message.fileName ++
    utf8 ":" ++ decimal message.line ++ utf8 "]\t" ++ message.payload ++ utf8 "\n"
  tmp1 ++ message.tid ++ tmp2

/-- The index of an access outside an array. -/
structure OutOfBounds where
  index : Nat
deriving DecidableEq, Repr

/-- `buf[index] = byte` -/
def writeAt (buf : Bytes) (index : Nat) (byte : UInt8) : Except OutOfBounds Bytes :=
  if index < buf.length then .ok (buf.set index byte) else .error ⟨index⟩

/-- The constructor `std::string(buf)`: it reads the cells from `index` on, of
which the list is what the array has left, up to the first zero byte. -/
def stringAt : Bytes → Nat → Except OutOfBounds Bytes
  | [], index => .error ⟨index⟩
  | byte :: cells, index => if byte = 0 then .ok [] else (stringAt cells (index + 1)).map (byte :: ·)

/-- What `read` returns; it copies no more than it was asked for. -/
inductive ReadResult where
  | failed
  | received (bytes : Bytes) (bounded : bytes.length ≤ 1024)

/-- `char buf[1024] = {0}` -/
def zeroed : Bytes := List.replicate 1024 0

/-- The argument of the callback, or `none` when it is not called. -/
def service : ReadResult → Except OutOfBounds (Option Bytes)
  | .failed => .ok none
  | .received bytes _ =>
      if 0 < bytes.length then do
        let filled := bytes ++ zeroed.drop bytes.length
        let terminated ← writeAt filled bytes.length 0
        let msg ← stringAt terminated 0
        return some msg
      else .ok none

/-- The first read of a connection over which the message was sent in full. -/
def firstRead (message : Bytes) : ReadResult :=
  .received (message.take 1024) (by rw [List.length_take]; exact Nat.min_le_left _ _)

/-! ## What the server makes of a message -/

theorem stringAt_eq (cells : Bytes) (index : Nat) :
    stringAt cells index =
      if (0 : UInt8) ∈ cells then .ok (cString cells) else .error ⟨index + cells.length⟩ := by
  induction cells generalizing index with
  | nil => rfl
  | cons byte cells ih =>
      by_cases zero : byte = 0
      · simp [stringAt, cString, zero]
      · rw [stringAt, if_neg zero, ih]
        by_cases terminated : (0 : UInt8) ∈ cells
        · simp [terminated, Except.map, cString, zero]
        · simp only [terminated, if_false, Except.map, List.mem_cons, Ne.symm zero, or_self, List.length_cons]
          congr 2
          omega

theorem cString_append_zero (text rest : Bytes) : cString (text ++ 0 :: rest) = cString text := by
  induction text with
  | nil => simp [cString]
  | cons byte text ih =>
      by_cases zero : byte = 0
      · simp [cString, zero]
      · simpa [cString, zero] using ih

theorem length_filled {bytes : Bytes} (bounded : bytes.length ≤ 1024) :
    (bytes ++ zeroed.drop bytes.length).length = 1024 := by
  rw [List.length_append, List.length_drop, zeroed, List.length_replicate]
  omega

theorem set_filled {bytes : Bytes} (short : bytes.length < 1024) :
    (bytes ++ zeroed.drop bytes.length).set bytes.length 0 = bytes ++ 0 :: zeroed.drop (bytes.length + 1) := by
  obtain ⟨rest, left⟩ : ∃ rest, 1024 - bytes.length = rest + 1 := ⟨1024 - (bytes.length + 1), by omega⟩
  have right : 1024 - (bytes.length + 1) = rest := by omega
  rw [List.set_append_right _ _ (Nat.le_refl _), Nat.sub_self, zeroed, List.drop_replicate, List.drop_replicate,
    left, right, List.replicate_succ, List.set_cons_zero]

theorem service_of_short {bytes : Bytes} (nonempty : bytes ≠ []) (short : bytes.length < 1024)
    (bounded : bytes.length ≤ 1024) : service (.received bytes bounded) = .ok (some (cString bytes)) := by
  have terminated : writeAt (bytes ++ zeroed.drop bytes.length) bytes.length 0 =
      .ok (bytes ++ 0 :: zeroed.drop (bytes.length + 1)) := by
    rw [writeAt, length_filled bounded, if_pos short, set_filled short]
  have read : stringAt (bytes ++ 0 :: zeroed.drop (bytes.length + 1)) 0 = .ok (cString bytes) := by
    rw [stringAt_eq, if_pos (by simp), cString_append_zero]
  simp only [service, if_pos (List.length_pos_iff.mpr nonempty), terminated, read, bind, Except.bind]
  rfl

/-- The terminator goes behind the array. -/
theorem service_of_full {bytes : Bytes} (full : bytes.length = 1024) (bounded : bytes.length ≤ 1024) :
    service (.received bytes bounded) = .error ⟨1024⟩ := by
  have outside : writeAt (bytes ++ zeroed.drop bytes.length) bytes.length 0 = .error ⟨1024⟩ := by
    rw [writeAt, length_filled bounded, if_neg (by omega), full]
  have positive : 0 < bytes.length := by omega
  simp only [service, if_pos positive, outside, bind, Except.bind]

theorem service_firstRead_of_long {message : Bytes} (long : 1024 ≤ message.length) :
    service (firstRead message) = .error ⟨1024⟩ :=
  service_of_full (by rw [List.length_take]; omega) _

theorem service_firstRead_of_short {message : Bytes} (nonempty : message ≠ []) (short : message.length < 1024) :
    service (firstRead message) = .ok (some (cString message)) := by
  have whole : message.take 1024 = message := List.take_of_length_le (Nat.le_of_lt short)
  simp only [firstRead, whole]
  exact service_of_short nonempty short _

/-- The callback gets the message that was sent, with every access inside the
array, exactly when the message is shorter than the array and holds no zero
byte. -/
theorem service_delivers_iff (message : Bytes) (nonempty : message ≠ []) :
    service (firstRead message) = .ok (some message) ↔ message.length < 1024 ∧ (0 : UInt8) ∉ message := by
  constructor
  · intro delivered
    have short : message.length < 1024 := by
      by_contra long
      rw [service_firstRead_of_long (Nat.not_lt.mp long)] at delivered
      cases delivered
    rw [service_firstRead_of_short nonempty short, Except.ok.injEq, Option.some.injEq] at delivered
    exact ⟨short, delivered ▸ zero_notMem_cString message⟩
  · rintro ⟨short, clean⟩
    rw [service_firstRead_of_short nonempty short, cString_eq_self clean]

theorem service_delivers_word :
    utf8 "ok" ≠ [] ∧
      (service (firstRead (utf8 "ok")) = .ok (some (utf8 "ok")) ↔
        (utf8 "ok").length < 1024 ∧ (0 : UInt8) ∉ utf8 "ok") :=
  ⟨by decide, service_delivers_iff (utf8 "ok") (by decide)⟩

theorem LogMessage.length_payload_lt (message : LogMessage) : message.payload.length < message.format.length := by
  simp only [format, List.length_append]
  have newline : (utf8 "\n").length = 1 := rfl
  omega

/-- An error line with a payload of 1024 bytes makes the server write outside
its array, and a logger name with a zero byte cuts its lines short. -/
theorem service_faults :
    (∃ message : LogMessage, message.level = .error ∧ message.format ≠ [] ∧
        service (firstRead message.format) = .error ⟨1024⟩) ∧
      ∃ message : LogMessage, message.level = .error ∧ message.format ≠ [] ∧
        service (firstRead message.format) = .ok (some (utf8 "[12:00:00][7[ERROR][a")) ∧
        message.format ≠ utf8 "[12:00:00][7[ERROR][a" := by
  constructor
  · let message : LogMessage := {
      line := 1, ctime := utf8 "12:00:00", fileName := utf8 "a.cpp", name := utf8 "a"
      payload := List.replicate 1024 120, tid := utf8 "7", level := .error }
    have longer := message.length_payload_lt
    have payload : message.payload.length = 1024 := List.length_replicate
    refine ⟨message, rfl, ?_, service_firstRead_of_long (by omega)⟩
    exact List.ne_nil_of_length_pos (by omega)
  · let message : LogMessage := {
      line := 1, ctime := utf8 "12:00:00", fileName := utf8 "a.cpp", name := [97, 0, 98]
      payload := utf8 "x", tid := utf8 "7", level := .error }
    have nonempty : message.format ≠ [] := by decide
    refine ⟨message, rfl, nonempty, ?_, by decide⟩
    rw [service_firstRead_of_short nonempty (by decide)]
    rfl

end TaskHive.LogSystem
