import TaskHive.Wire.Varint

namespace TaskHive.LogSystem

open Wire

/-! # `Buffer`

A growing vector with a write and a read position.  Only the bytes between the
two positions are unread; what lies behind the write position is left over from
earlier use. -/

structure Config where
  bufferSize : Nat
  threshold : Nat
  linearGrowth : Nat
deriving DecidableEq, Repr

/-- The length of `buffer` is the vector's `size()`. -/
structure Buffer where
  buffer : Bytes
  capacity : Nat
  writePos : Nat := 0
  readPos : Nat := 0
deriving DecidableEq

namespace Buffer

def new (config : Config) : Buffer where
  buffer := List.replicate config.bufferSize 0
  capacity := config.bufferSize

def isEmpty (buffer : Buffer) : Bool := buffer.writePos == buffer.readPos

def writeableSize (buffer : Buffer) : Nat := buffer.capacity - buffer.writePos

def readableSize (buffer : Buffer) : Nat := buffer.writePos - buffer.readPos

/-- What `Begin()` and `ReadableSize()` denote. -/
def unread (buffer : Buffer) : Bytes := (buffer.buffer.drop buffer.readPos).take buffer.readableSize

def reset (buffer : Buffer) : Buffer := { buffer with writePos := 0, readPos := 0 }

def reserve (buffer : Buffer) (capacity : Nat) : Buffer :=
  { buffer with capacity := max buffer.capacity capacity }

/-- The vector's `resize` to a larger size, if it is larger. -/
def resize (buffer : Buffer) (size : Nat) : Buffer :=
  if buffer.buffer.length < size then
    { buffer with
      buffer := buffer.buffer ++ List.replicate (size - buffer.buffer.length) 0
      capacity := max buffer.capacity size }
  else buffer

/-- The body of the growth loop. -/
def grow (config : Config) (cap : Nat) : Nat :=
  if cap < config.threshold then cap * 2 else cap + config.linearGrowth

/-- The growth loop, with `none` when `fuel` rounds do not end it. -/
def growLoop (config : Config) (needCap : Nat) : Nat → Nat → Option Nat
  | 0, cap => if cap < needCap then none else some cap
  | fuel + 1, cap => if cap < needCap then growLoop config needCap fuel (grow config cap) else some cap

/-- A round that changes the capacity raises it, so `needCap` rounds are enough
for every loop that ends. -/
def tobeEnough (config : Config) (buffer : Buffer) (len : Nat) : Option Buffer :=
  let needCap := len + buffer.writePos
  let cap := if buffer.capacity = 0 then config.bufferSize else buffer.capacity
  (growLoop config needCap needCap cap).map buffer.reserve

def write (buffer : Buffer) (data : Bytes) : Buffer :=
  let written := buffer.writePos + data.length
  let resized := buffer.resize written
  { resized with
    buffer := resized.buffer.take buffer.writePos ++ data ++ resized.buffer.drop written
    writePos := written }

/-- `none` when the growth loop does not end. -/
def push (config : Config) (buffer : Buffer) (data : Bytes) : Option Buffer :=
  (tobeEnough config buffer data.length).map (write · data)

/-! ## The growth loop -/

section Growth

variable {config : Config} {needCap fuel cap grown : Nat}

theorem growLoop_of_le (enough : needCap ≤ cap) (fuel : Nat) : growLoop config needCap fuel cap = some cap := by
  cases fuel <;> exact if_neg (Nat.not_lt.mpr enough)

theorem growLoop_of_lt (short : cap < needCap) :
    growLoop config needCap (fuel + 1) cap = growLoop config needCap fuel (grow config cap) :=
  if_pos short

theorem le_of_growLoop (ended : growLoop config needCap fuel cap = some grown) : needCap ≤ grown := by
  induction fuel generalizing cap with
  | zero =>
      simp only [growLoop] at ended
      split at ended
      · cases ended
      · cases ended
        omega
  | succ fuel ih =>
      simp only [growLoop] at ended
      split at ended
      · exact ih ended
      · cases ended
        omega

/-- A round that leaves the capacity as it is leaves it so for ever. -/
theorem growLoop_stuck (short : cap < needCap) (stuck : grow config cap = cap) (fuel : Nat) :
    growLoop config needCap fuel cap = none := by
  induction fuel with
  | zero => exact if_pos short
  | succ fuel ih => rw [growLoop_of_lt short, stuck, ih]

theorem le_grow (config : Config) (cap : Nat) : cap ≤ grow config cap := by
  unfold grow
  split <;> omega

theorem growLoop_mono (ended : growLoop config needCap fuel cap = some grown) (more : Nat) :
    growLoop config needCap (fuel + more) cap = some grown := by
  induction fuel generalizing cap with
  | zero =>
      by_cases short : cap < needCap
      · simp [growLoop, short] at ended
      · simp only [growLoop, short, if_false] at ended
        rw [growLoop_of_le (Nat.not_lt.mp short), ended]
  | succ fuel ih =>
      by_cases short : cap < needCap
      · rw [growLoop_of_lt short] at ended
        rw [Nat.add_right_comm, growLoop_of_lt short]
        exact ih ended
      · rw [growLoop_of_le (Nat.not_lt.mp short)] at ended ⊢
        exact ended

/-- The fuel that `tobeEnough` gives the loop is enough whenever any is. -/
theorem growLoop_complete (ended : growLoop config needCap fuel cap = some grown) :
    growLoop config needCap needCap cap = some grown := by
  suffices growLoop config needCap (needCap - cap) cap = some grown by
    have reached := growLoop_mono this (needCap - (needCap - cap))
    rwa [Nat.add_sub_cancel' (Nat.sub_le _ _)] at reached
  induction fuel generalizing cap with
  | zero =>
      by_cases short : cap < needCap
      · simp [growLoop, short] at ended
      · rw [growLoop_of_le (Nat.not_lt.mp short)] at ended ⊢
        exact ended
  | succ fuel ih =>
      by_cases short : cap < needCap
      · rw [growLoop_of_lt short] at ended
        have raised : cap < grow config cap := by
          refine Nat.lt_of_le_of_ne (le_grow config cap) fun same => ?_
          rw [← same, growLoop_stuck short same.symm] at ended
          cases ended
        have rounds : needCap - cap = needCap - cap - 1 + 1 := by omega
        have spare := growLoop_mono (ih ended) (needCap - cap - 1 - (needCap - grow config cap))
        rw [Nat.add_sub_cancel' (by omega)] at spare
        rw [rounds, growLoop_of_lt short]
        exact spare
      · rw [growLoop_of_le (Nat.not_lt.mp short)] at ended ⊢
        exact ended

end Growth

/-! ## Well-formed buffers -/

structure Valid (buffer : Buffer) : Prop where
  ordered : buffer.readPos ≤ buffer.writePos
  inside : buffer.writePos ≤ buffer.buffer.length
  fits : buffer.buffer.length ≤ buffer.capacity

theorem Valid.new (config : Config) : (new config).Valid where
  ordered := Nat.le_refl 0
  inside := Nat.zero_le _
  fits := by simp [Buffer.new]

theorem Valid.reset {buffer : Buffer} (valid : buffer.Valid) : buffer.reset.Valid where
  ordered := Nat.le_refl 0
  inside := Nat.zero_le _
  fits := valid.fits

theorem Valid.reserve {buffer : Buffer} (valid : buffer.Valid) (capacity : Nat) : (buffer.reserve capacity).Valid where
  ordered := valid.ordered
  inside := valid.inside
  fits := Nat.le_trans valid.fits (Nat.le_max_left _ _)

/-- Only the bytes before the write position matter. -/
theorem unread_eq (buffer : Buffer) : buffer.unread = (buffer.buffer.take buffer.writePos).drop buffer.readPos :=
  List.drop_take.symm

theorem unread_reset (buffer : Buffer) : buffer.reset.unread = [] := by
  simp [unread_eq, reset]

theorem unread_new (config : Config) : (new config).unread = [] := by
  simp [unread_eq, new]

theorem isEmpty_iff {buffer : Buffer} (valid : buffer.Valid) : buffer.isEmpty = true ↔ buffer.unread = [] := by
  have ordered := valid.ordered
  have inside := valid.inside
  rw [← List.length_eq_zero_iff]
  simp only [isEmpty, beq_iff_eq, unread, readableSize, List.length_take, List.length_drop]
  omega

section Writing

variable {buffer : Buffer} {size : Nat}

theorem resize_frame (buffer : Buffer) (size : Nat) :
    (buffer.resize size).readPos = buffer.readPos ∧ (buffer.resize size).writePos = buffer.writePos ∧
      buffer.buffer <+: (buffer.resize size).buffer := by
  unfold resize
  split
  · exact ⟨rfl, rfl, List.prefix_append _ _⟩
  · exact ⟨rfl, rfl, List.prefix_refl _⟩

theorem le_length_resize (buffer : Buffer) (size : Nat) : size ≤ (buffer.resize size).buffer.length := by
  unfold resize
  split
  · simp only [List.length_append, List.length_replicate]
    omega
  · omega

theorem Valid.length_resize_le (valid : buffer.Valid) (size : Nat) :
    (buffer.resize size).buffer.length ≤ (buffer.resize size).capacity := by
  have fits := valid.fits
  unfold resize
  split
  · simp only [List.length_append, List.length_replicate]
    omega
  · exact fits

theorem Valid.write (valid : buffer.Valid) (data : Bytes) : (buffer.write data).Valid := by
  have ordered := valid.ordered
  have fits := valid.length_resize_le (buffer.writePos + data.length)
  have reached := le_length_resize buffer (buffer.writePos + data.length)
  obtain ⟨sameRead, _⟩ := resize_frame buffer (buffer.writePos + data.length)
  refine ⟨?_, ?_, ?_⟩
  · simp only [Buffer.write, sameRead]
    omega
  · simp only [Buffer.write, List.length_append, List.length_take, List.length_drop]
    omega
  · simp only [Buffer.write, List.length_append, List.length_take, List.length_drop]
    omega

theorem unread_write (valid : buffer.Valid) (data : Bytes) :
    (buffer.write data).unread = buffer.unread ++ data := by
  have ordered := valid.ordered
  have inside := valid.inside
  obtain ⟨sameRead, _, prefixed⟩ := resize_frame buffer (buffer.writePos + data.length)
  have kept : (buffer.resize (buffer.writePos + data.length)).buffer.take buffer.writePos =
      buffer.buffer.take buffer.writePos := by
    obtain ⟨rest, extended⟩ := prefixed
    rw [← extended, List.take_append_of_le_length inside]
  have length : (buffer.buffer.take buffer.writePos ++ data).length = buffer.writePos + data.length := by
    rw [List.length_append, List.length_take, Nat.min_eq_left inside]
  simp only [unread_eq, Buffer.write, sameRead, kept]
  rw [List.take_left' length, List.drop_append_of_le_length]
  rw [List.length_take]
  omega

end Writing

theorem push_eq_some {config : Config} {buffer pushed : Buffer} {data : Bytes}
    (accepted : push config buffer data = some pushed) :
    ∃ capacity, data.length + buffer.writePos ≤ capacity ∧ pushed = (buffer.reserve capacity).write data := by
  obtain ⟨reserved, enough, rfl⟩ := Option.map_eq_some_iff.mp accepted
  obtain ⟨capacity, ended, rfl⟩ := Option.map_eq_some_iff.mp enough
  exact ⟨capacity, le_of_growLoop ended, rfl⟩

theorem Valid.push {config : Config} {buffer pushed : Buffer} {data : Bytes} (valid : buffer.Valid)
    (accepted : Buffer.push config buffer data = some pushed) : pushed.Valid := by
  obtain ⟨capacity, _, rfl⟩ := push_eq_some accepted
  exact (valid.reserve capacity).write data

theorem unread_push {config : Config} {buffer pushed : Buffer} {data : Bytes} (valid : buffer.Valid)
    (accepted : push config buffer data = some pushed) : pushed.unread = buffer.unread ++ data := by
  obtain ⟨capacity, _, rfl⟩ := push_eq_some accepted
  exact unread_write (valid.reserve capacity) data

end Buffer

/-- The buffers of an `AsyncWorker`. -/
abbrev ValidBuffer := { buffer : Buffer // buffer.Valid }

namespace ValidBuffer

def new (config : Config) : ValidBuffer := ⟨.new config, .new config⟩

def push (config : Config) (buffer : ValidBuffer) (data : Bytes) : Option ValidBuffer :=
  (buffer.1.push config data).pmap Subtype.mk fun _ pushed => buffer.2.push pushed

def reset (buffer : ValidBuffer) : ValidBuffer := ⟨buffer.1.reset, buffer.2.reset⟩

def isEmpty (buffer : ValidBuffer) : Bool := buffer.1.isEmpty

def unread (buffer : ValidBuffer) : Bytes := buffer.1.unread

@[simp] theorem unread_new (config : Config) : (new config).unread = [] := Buffer.unread_new config

@[simp] theorem unread_reset (buffer : ValidBuffer) : buffer.reset.unread = [] := Buffer.unread_reset buffer.1

theorem isEmpty_iff (buffer : ValidBuffer) : buffer.isEmpty = true ↔ buffer.unread = [] :=
  Buffer.isEmpty_iff buffer.2

theorem unread_push {config : Config} {buffer pushed : ValidBuffer} {data : Bytes}
    (accepted : push config buffer data = some pushed) : pushed.unread = buffer.unread ++ data := by
  obtain ⟨raw, valid, same, rfl⟩ := Option.pmap_eq_some_iff.mp accepted
  exact Buffer.unread_push buffer.2 same

end ValidBuffer

end TaskHive.LogSystem
