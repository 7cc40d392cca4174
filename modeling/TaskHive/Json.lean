import Mathlib.Data.String.Basic
import TaskHive.OrderedMap

namespace TaskHive

/-! # JSON values

A value as the parser builds it, and the conversions that read it.  The
members of an object are kept in the order of their keys, the last one of a
key; a member that is asked for and missing is created as null. -/

inductive Json (R : Type u) where
  | null
  | boolean (value : Bool)
  | int (value : Int)
  | real (value : R)
  | string (value : String)
  | array (items : List (Json R))
  | object (members : List (String × Json R))

/-- The text of a number starts with a digit or a minus sign. -/
def Numeric (text : String) : Prop :=
  ∃ first, text.toList.head? = some first ∧ (first = '-' ∨ first.isDigit = true)

theorem numeric_toString_int (value : Int) : Numeric (toString value) := by
  cases value with
  | ofNat value =>
      obtain ⟨first, rest, digits⟩ := List.exists_cons_of_ne_nil (Nat.toDigits_ne_nil (n := value) (b := 10))
      refine ⟨first, ?_, .inr ?_⟩
      · simp [toString, Int.repr, Nat.repr, digits]
      · exact Nat.isDigit_of_mem_toDigits (b := 10) (by decide) (by decide) (by rw [digits]; exact List.mem_cons_self)
  | negSucc value => exact ⟨'-', by simp [toString, Int.repr], .inl rfl⟩

/-- How floating-point numbers are written, and cut to an `int` if they fit. -/
structure JsonNumbers (R : Type u) where
  realText : R → String
  toInt : R → Option Int32
  realText_numeric : ∀ value, Numeric (realText value)

/-- Integers in the place of floating-point numbers. -/
def plainNumbers : JsonNumbers Int where
  realText := toString
  toInt value := some (Int32.ofInt value)
  realText_numeric := numeric_toString_int

namespace Json

variable {R : Type u}

def members (pairs : List (String × Json R)) : OrderedMap String (Json R) :=
  OrderedMap.empty.insertAll pairs

theorem mem_of_mem_members {pairs : List (String × Json R)} {entry : String × Json R}
    (member : entry ∈ (members pairs).entries) : entry ∈ pairs := by
  have found : (members pairs).get? entry.1 = some entry.2 := OrderedMap.get?_eq_some_iff.mpr member
  rw [members, OrderedMap.get?_insertAll, show (OrderedMap.empty (α := Json R)).get? entry.1 = none from rfl,
    Option.or_none] at found
  obtain ⟨before, after, split, _⟩ := List.lookup_eq_some_iff.mp found
  exact List.mem_reverse.mp (by rw [split]; simp)

/-- `value[key]` for reading -/
def member (json : Json R) (key : String) : Except String (Json R) :=
  match json with
  | .null => .ok .null
  | .object pairs => .ok (((members pairs).get? key).getD .null)
  | _ => .error "in Json::Value::resolveReference(key, end): requires objectValue"

def asString (numbers : JsonNumbers R) : Json R → Except String String
  | .null => .ok ""
  | .boolean value => .ok (if value then "true" else "false")
  | .int value => .ok (toString value)
  | .real value => .ok (numbers.realText value)
  | .string value => .ok value
  | .array _ | .object _ => .error "Type is not convertible to string"

def asInt (numbers : JsonNumbers R) : Json R → Except String Int32
  | .null => .ok 0
  | .boolean value => .ok (if value then 1 else 0)
  | .int value =>
      if -2147483648 ≤ value ∧ value ≤ 2147483647 then .ok (Int32.ofInt value) else .error "LargestInt out of Int range"
  | .real value =>
      match numbers.toInt value with
      | some value => .ok value
      | none => .error "double out of Int range"
  | .string _ | .array _ | .object _ => .error "Value is not convertible to Int."

/-- `toInt64` cuts a floating-point number if it fits. -/
def asInt64 (toInt64 : R → Option Int64) : Json R → Except String Int64
  | .null => .ok 0
  | .boolean value => .ok (if value then 1 else 0)
  | .int value =>
      if -9223372036854775808 ≤ value ∧ value ≤ 9223372036854775807 then .ok (Int64.ofInt value)
      else .error "LargestUInt out of Int64 range"
  | .real value =>
      match toInt64 value with
      | some value => .ok value
      | none => .error "double out of Int64 range"
  | .string _ | .array _ | .object _ => .error "Value is not convertible to Int64."

def asDouble [IntCast R] [Zero R] [One R] : Json R → Except String R
  | .null => .ok 0
  | .boolean value => .ok (if value then 1 else 0)
  | .int value => .ok value
  | .real value => .ok value
  | .string _ | .array _ | .object _ => .error "Value is not convertible to double."

def IsNumber : Json R → Prop
  | .int _ | .real _ => True
  | .null | .boolean _ | .string _ | .array _ | .object _ => False

/-- A number has a numeric text, and null an empty one. -/
theorem asString_of_number (numbers : JsonNumbers R) {json : Json R} (number : json.IsNumber ∨ json = .null) :
    ∃ text, json.asString numbers = .ok text ∧ (text = "" ∨ Numeric text) := by
  cases json with
  | null => exact ⟨_, rfl, .inl rfl⟩
  | int value => exact ⟨_, rfl, .inr (numeric_toString_int value)⟩
  | real value => exact ⟨_, rfl, .inr (numbers.realText_numeric value)⟩
  | boolean | string | array | object => simp [IsNumber] at number

theorem asDouble_of_number [IntCast R] [Zero R] [One R] {json : Json R} (number : json.IsNumber ∨ json = .null) :
    ∃ value, json.asDouble = .ok value := by
  cases json with
  | null | int | real => exact ⟨_, rfl⟩
  | boolean | string | array | object => simp [IsNumber] at number

end Json

end TaskHive
