import Mathlib.Data.List.Basic

namespace TaskHive

/-! # Decimal numerals as bytes

What `std::to_string` writes.  A numeral of a natural number holds digits only
and can be read back. -/

/-- The bytes of a text that is all ASCII. -/
def asciiBytes (text : List Char) : List UInt8 := text.map fun char => UInt8.ofNat char.toNat

def decimal (value : Nat) : List UInt8 := asciiBytes (Nat.toDigits 10 value)

def decimalInt : Int → List UInt8
  | .ofNat value => decimal value
  | .negSucc value => 45 :: decimal (value + 1)

theorem asciiBytes_injOn {left right : List Char} (leftAscii : ∀ char ∈ left, char.toNat < 256)
    (rightAscii : ∀ char ∈ right, char.toNat < 256) (same : asciiBytes left = asciiBytes right) : left = right := by
  induction left generalizing right with
  | nil => exact (List.map_eq_nil_iff.mp same.symm).symm
  | cons first rest ih =>
      cases right with
      | nil => cases same
      | cons other others =>
          simp only [asciiBytes, List.map_cons, List.cons.injEq] at same
          have codes : first.toNat = other.toNat := by
            have equal := congrArg UInt8.toNat same.1
            rwa [UInt8.toNat_ofNat_of_lt' (leftAscii first (by simp)),
              UInt8.toNat_ofNat_of_lt' (rightAscii other (by simp))] at equal
          have tails := ih (fun char member => leftAscii char (by simp [member]))
            (fun char member => rightAscii char (by simp [member])) same.2
          rw [Char.toNat_inj.mp codes, tails]

theorem digit_bounds {digit : Char} {value : Nat} (member : digit ∈ Nat.toDigits 10 value) :
    48 ≤ digit.toNat ∧ digit.toNat ≤ 57 := by
  have numeral := Nat.isDigit_of_mem_toDigits (b := 10) (by decide) (by decide) member
  simp only [Char.isDigit, Bool.and_eq_true, decide_eq_true_eq, ge_iff_le, UInt32.le_iff_toNat_le] at numeral
  exact numeral

theorem decimal_injective : Function.Injective decimal := by
  intro left right same
  have digits : Nat.toDigits 10 left = Nat.toDigits 10 right := by
    refine asciiBytes_injOn ?_ ?_ same
    all_goals
      intro digit member
      have bounds := digit_bounds member
      omega
  have value := congrArg (fun digits => Nat.ofDigitChars 10 digits 0) digits
  simpa using value

theorem digit_of_mem_decimal {byte : UInt8} {value : Nat} (member : byte ∈ decimal value) :
    48 ≤ byte.toNat ∧ byte.toNat ≤ 57 := by
  obtain ⟨digit, inside, rfl⟩ := List.mem_map.mp member
  have bounds := digit_bounds inside
  rw [UInt8.toNat_ofNat_of_lt' (by simp only [UInt8.size]; omega)]
  exact bounds

theorem zero_notMem_decimal (value : Nat) : (0 : UInt8) ∉ decimal value := by
  intro member
  have bounds := digit_of_mem_decimal member
  exact absurd bounds.1 (by decide)

theorem zero_notMem_decimalInt (value : Int) : (0 : UInt8) ∉ decimalInt value := by
  cases value with
  | ofNat value => exact zero_notMem_decimal value
  | negSucc value =>
      intro member
      rcases List.mem_cons.mp member with sign | digits
      · cases sign
      · exact zero_notMem_decimal _ digits

/-- What stands behind the last separator. -/
theorem append_cons_inj_of_notMem {α : Type u} {separator : α} {first second left right : List α}
    (leftClean : separator ∉ left) (rightClean : separator ∉ right)
    (same : first ++ separator :: left = second ++ separator :: right) : left = right := by
  classical
  have behind (front back : List α) (clean : separator ∉ back) :
      ((front ++ separator :: back).reverse.takeWhile (· ≠ separator)).reverse = back := by
    have all : ∀ item ∈ back.reverse, decide (item ≠ separator) = true := by
      intro item member
      have different : item ≠ separator := by
        rintro rfl
        exact clean (List.mem_reverse.mp member)
      simpa using different
    rw [List.reverse_append, List.reverse_cons, List.append_assoc, List.takeWhile_append_of_pos all]
    simp
  rw [← behind first left leftClean, ← behind second right rightClean, same]

/-- Names that end in a number are told apart by it. -/
theorem eq_of_append_decimal {separator : UInt8} {first second : List UInt8} {left right : Nat}
    (nondigit : separator.toNat < 48)
    (same : first ++ separator :: decimal left = second ++ separator :: decimal right) : left = right := by
  have clean (value : Nat) : separator ∉ decimal value := by
    intro member
    have bounds := digit_of_mem_decimal member
    omega
  exact decimal_injective (append_cons_inj_of_notMem (clean left) (clean right) same)

end TaskHive
