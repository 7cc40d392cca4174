import Mathlib.Algebra.Group.Nat.Defs

namespace TaskHive.Wire

/-! # Base-128 varints

Seven payload bits per byte, lowest group first, with the high bit set on
every byte but the last.  Two facts about the format carry the results on
truncated messages: a varint cut short is refused by every reader, and only
the varint of zero contains a zero byte. -/

abbrev Bytes := List UInt8

/-- The fuel is the value itself, which is never smaller than the number of
groups still to be written. -/
def encodeGroups : Nat → Nat → Bytes
  | 0, value => [UInt8.ofNat value]
  | fuel + 1, value =>
      if value < 128 then [UInt8.ofNat value]
      else UInt8.ofNat (value % 128 + 128) :: encodeGroups fuel (value / 128)

def encodeVarint (value : Nat) : Bytes := encodeGroups value value

/-- Read a varint of at most `limit` bytes, together with the bytes after it. -/
def readVarint : Nat → Bytes → Option (Nat × Bytes)
  | 0, _ => none
  | _ + 1, [] => none
  | limit + 1, byte :: rest =>
      if byte.toNat < 128 then some (byte.toNat, rest)
      else (readVarint limit rest).map fun (high, rest) => (byte.toNat - 128 + 128 * high, rest)

theorem encodeGroups_fuel {fuel value : Nat} (enough : value ≤ fuel) :
    encodeGroups fuel value = encodeGroups value value := by
  induction fuel using Nat.strongRecOn generalizing value with
  | ind fuel ih =>
      match fuel, value with
      | 0, value =>
          have zero : value = 0 := by omega
          rw [zero]
      | fuel + 1, 0 => simp [encodeGroups]
      | fuel + 1, value + 1 =>
          simp only [encodeGroups]
          split
          · rfl
          · rw [ih fuel (by omega) (by omega), ih value (by omega) (by omega)]

theorem encodeVarint_small {value : Nat} (small : value < 128) :
    encodeVarint value = [UInt8.ofNat value] := by
  unfold encodeVarint
  cases value <;> simp [encodeGroups]
  omega

theorem encodeVarint_large {value : Nat} (large : 128 ≤ value) :
    encodeVarint value = UInt8.ofNat (value % 128 + 128) :: encodeVarint (value / 128) := by
  unfold encodeVarint
  cases value with
  | zero => omega
  | succ value =>
      rw [encodeGroups, if_neg (by omega), encodeGroups_fuel (by omega)]

/-- Induction along the groups of an encoded value. -/
theorem varint_induction {property : Nat → Prop}
    (small : ∀ value, value < 128 → property value)
    (large : ∀ value, 128 ≤ value → property (value / 128) → property value) (value : Nat) :
    property value := by
  induction value using Nat.strongRecOn with
  | ind value ih =>
      by_cases bound : value < 128
      · exact small value bound
      · exact large value (by omega) (ih (value / 128) (by omega))

theorem toNat_continuation (value : Nat) :
    (UInt8.ofNat (value % 128 + 128)).toNat = value % 128 + 128 := by
  rw [UInt8.toNat_ofNat']
  omega

theorem encodeVarint_ne_nil (value : Nat) : encodeVarint value ≠ [] := by
  by_cases small : value < 128
  · simp [encodeVarint_small small]
  · simp [encodeVarint_large (Nat.not_lt.mp small)]

theorem encodeVarint_length_le (groups value : Nat) (bound : value < 128 ^ (groups + 1)) :
    (encodeVarint value).length ≤ groups + 1 := by
  induction groups generalizing value with
  | zero => simp [encodeVarint_small (show value < 128 by simpa using bound)]
  | succ groups ih =>
      by_cases small : value < 128
      · simp [encodeVarint_small small]
      · rw [encodeVarint_large (Nat.not_lt.mp small), List.length_cons]
        have shorter : value / 128 < 128 ^ (groups + 1) := by
          rw [Nat.div_lt_iff_lt_mul (by decide), ← Nat.pow_succ]
          exact bound
        have := ih _ shorter
        omega

/-- A reader that may look at enough bytes recovers the value and stops
exactly behind it. -/
theorem readVarint_encodeVarint (value : Nat) {limit : Nat} (rest : Bytes)
    (room : (encodeVarint value).length ≤ limit) :
    readVarint limit (encodeVarint value ++ rest) = some (value, rest) := by
  induction value using varint_induction generalizing limit with
  | small value small =>
      rw [encodeVarint_small small] at room ⊢
      cases limit with
      | zero => simp at room
      | succ limit =>
          have exactByte : (UInt8.ofNat value).toNat = value := by rw [UInt8.toNat_ofNat']; omega
          simp [readVarint, exactByte, small]
  | large value large ih =>
      rw [encodeVarint_large large] at room ⊢
      cases limit with
      | zero => simp at room
      | succ limit =>
          have tail := @ih limit (by simpa using room)
          have continues : ¬ value % 128 + 128 < 128 := by omega
          simp only [List.cons_append, readVarint, toNat_continuation, if_neg continues, tail,
            Option.map_some, Option.some.injEq, Prod.mk.injEq, and_true]
          omega

/-- Input that ends inside a varint is refused, whatever the reader's limit. -/
theorem readVarint_truncated (value : Nat) {limit : Nat} {cut : Bytes}
    (isPrefix : cut <+: encodeVarint value) (proper : cut ≠ encodeVarint value) :
    readVarint limit cut = none := by
  induction value using varint_induction generalizing limit cut with
  | small value small =>
      rw [encodeVarint_small small] at isPrefix proper
      have empty : cut = [] := by
        rcases List.prefix_cons_iff.mp isPrefix with rfl | ⟨tail, rfl, tailPrefix⟩
        · rfl
        · simp [List.prefix_nil.mp tailPrefix] at proper
      subst cut
      cases limit <;> rfl
  | large value large ih =>
      rw [encodeVarint_large large] at isPrefix proper
      rcases List.prefix_cons_iff.mp isPrefix with rfl | ⟨tail, rfl, tailPrefix⟩
      · cases limit <;> rfl
      · cases limit with
        | zero => rfl
        | succ limit =>
            have continues : ¬ value % 128 + 128 < 128 := by omega
            have rejected := @ih limit tail tailPrefix (by simpa using proper)
            simp only [readVarint, toNat_continuation, if_neg continues, rejected, Option.map_none]

/-- Minimal encodings keep zero bytes out of every nonzero value. -/
theorem zero_notMem_encodeVarint {value : Nat} (positive : 0 < value) :
    (0 : UInt8) ∉ encodeVarint value := by
  induction value using varint_induction with
  | small value small =>
      rw [encodeVarint_small small]
      intro member
      have equal := congrArg UInt8.toNat (List.mem_singleton.mp member)
      rw [UInt8.toNat_ofNat'] at equal
      simp only [UInt8.toNat_zero] at equal
      omega
  | large value large ih =>
      rw [encodeVarint_large large]
      intro member
      rcases List.mem_cons.mp member with head | tail
      · have equal := congrArg UInt8.toNat head
        rw [toNat_continuation] at equal
        simp only [UInt8.toNat_zero] at equal
        omega
      · exact ih (by omega) tail

theorem encodeVarint_zero : encodeVarint 0 = [0] := rfl

end TaskHive.Wire
