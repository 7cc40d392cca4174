import Mathlib.Logic.Function.Basic
import TaskHive.LogSystem.Buffer

namespace TaskHive.LogSystem

open Wire

/-! # The public operations of `Buffer`

The logger itself only pushes, swaps and resets.  `MoveWritePos` and
`MoveReadPos` are public as well, and they compare with different sizes:
`MoveReadPos` with what is unread, `MoveWritePos` with the capacity of the
vector and not with its size. -/

namespace Buffer

/-- `assert(len <= bound)`.  A negative `len` is converted to a `size_t` larger
than the size of any vector. -/
def asserted (len : Int) (bound : Nat) : Bool := decide (0 ≤ len ∧ len ≤ bound)

def moveWritePos (buffer : Buffer) (len : Int) : Option Buffer :=
  if asserted len buffer.writeableSize then some { buffer with writePos := buffer.writePos + len.toNat } else none

def moveReadPos (buffer : Buffer) (len : Int) : Option Buffer :=
  if asserted len buffer.readableSize then some { buffer with readPos := buffer.readPos + len.toNat } else none

variable {buffer moved : Buffer} {len : Int}

theorem moveWritePos_eq_some (ended : buffer.moveWritePos len = some moved) :
    moved = { buffer with writePos := buffer.writePos + len.toNat } := by
  simp only [moveWritePos, Option.ite_none_right_eq_some, Option.some.injEq] at ended
  exact ended.2.symm

theorem moveReadPos_eq_some (ended : buffer.moveReadPos len = some moved) :
    len.toNat ≤ buffer.readableSize ∧ moved = { buffer with readPos := buffer.readPos + len.toNat } := by
  simp only [moveReadPos, asserted, decide_eq_true_eq, Option.ite_none_right_eq_some, Option.some.injEq] at ended
  obtain ⟨⟨_, bounded⟩, rfl⟩ := ended
  exact ⟨by omega, rfl⟩

theorem Valid.moveReadPos (valid : buffer.Valid) (ended : buffer.moveReadPos len = some moved) : moved.Valid := by
  obtain ⟨bounded, rfl⟩ := moveReadPos_eq_some ended
  have ordered := valid.ordered
  exact { valid with ordered := by simp only [readableSize] at bounded ⊢; omega }

theorem Valid.moveWritePos_iff (valid : buffer.Valid) (ended : buffer.moveWritePos len = some moved) :
    moved.Valid ↔ buffer.writePos + len.toNat ≤ buffer.buffer.length := by
  rw [moveWritePos_eq_some ended]
  constructor
  · intro after
    exact after.inside
  · intro inside
    exact ⟨Nat.le_add_right_of_le valid.ordered, inside, valid.fits⟩

/-- All that `Begin()` and `ReadableSize()` denote is in the vector. -/
theorem Valid.length_unread (valid : buffer.Valid) : buffer.unread.length = buffer.readableSize := by
  have inside := valid.inside
  simp only [unread, readableSize, List.length_take, List.length_drop]
  omega

end Buffer

/-! ## Two buffers and their operations -/

inductive Side where
  | first
  | second
deriving DecidableEq

def Side.other : Side → Side
  | .first => .second
  | .second => .first

abbrev BufferPair := Side → Buffer

inductive BufferOperation where
  | push (side : Side) (data : Bytes)
  | moveReadPos (side : Side) (len : Int)
  | moveWritePos (side : Side) (len : Int)
  | swap
  | reset (side : Side)

namespace BufferPair

def new (config : Config) : BufferPair := fun _ => .new config

/-- `none` when the asserted bound does not hold or the growth loop does not end. -/
def step (config : Config) (pair : BufferPair) : BufferOperation → Option BufferPair
  | .push side data => ((pair side).push config data).map (Function.update pair side)
  | .moveReadPos side len => ((pair side).moveReadPos len).map (Function.update pair side)
  | .moveWritePos side len => ((pair side).moveWritePos len).map (Function.update pair side)
  | .swap => some fun side => pair side.other
  | .reset side => some (Function.update pair side (pair side).reset)

def run (config : Config) (pair : BufferPair) (operations : List BufferOperation) : Option BufferPair :=
  operations.foldlM (step config) pair

/-- Both buffers are well formed, and what they denote as unread is in their vectors. -/
def Sound (pair : BufferPair) : Prop :=
  ∀ side, (pair side).Valid ∧ (pair side).unread.length = (pair side).readableSize

/-- The pair is sound at the start and after each operation that is carried out. -/
def SoundThroughout (config : Config) (pair : BufferPair) : List BufferOperation → Prop
  | [] => Sound pair
  | operation :: rest =>
      Sound pair ∧ ∀ next, step config pair operation = some next → SoundThroughout config next rest

/-- The write position is not moved past the elements of the vector. -/
def StaysInside (pair : BufferPair) : BufferOperation → Prop
  | .moveWritePos side len => (pair side).writePos + len.toNat ≤ (pair side).buffer.length
  | _ => True

def StaysInsideThroughout (config : Config) (pair : BufferPair) : List BufferOperation → Prop
  | [] => True
  | operation :: rest =>
      ∀ next, step config pair operation = some next →
        StaysInside pair operation ∧ StaysInsideThroughout config next rest

variable {config : Config} {pair next : BufferPair} {operation : BufferOperation}

theorem sound_iff : Sound pair ↔ ∀ side, (pair side).Valid := by
  constructor
  · intro sound side
    exact (sound side).1
  · intro valid side
    exact ⟨valid side, (valid side).length_unread⟩

theorem sound_new (config : Config) : Sound (new config) :=
  sound_iff.mpr fun _ => .new config

/-- An operation on one buffer leaves the other as it was. -/
theorem Sound.update_iff (sound : Sound pair) (side : Side) (buffer : Buffer) :
    Sound (Function.update pair side buffer) ↔ buffer.Valid := by
  rw [sound_iff, Function.forall_update_iff pair fun _ changed => changed.Valid]
  constructor
  · intro both
    exact both.1
  · intro valid
    exact ⟨valid, fun other _ => (sound other).1⟩

/-- Of all operations only `MoveWritePos` can break a sound pair. -/
theorem Sound.step_iff (sound : Sound pair) (ended : step config pair operation = some next) :
    Sound next ↔ StaysInside pair operation := by
  cases operation with
  | push side data =>
      obtain ⟨pushed, accepted, rfl⟩ := Option.map_eq_some_iff.mp ended
      rw [sound.update_iff]
      exact iff_true_intro ((sound side).1.push accepted)
  | moveReadPos side len =>
      obtain ⟨moved, asserted, rfl⟩ := Option.map_eq_some_iff.mp ended
      rw [sound.update_iff]
      exact iff_true_intro ((sound side).1.moveReadPos asserted)
  | moveWritePos side len =>
      obtain ⟨moved, asserted, rfl⟩ := Option.map_eq_some_iff.mp ended
      rw [sound.update_iff]
      exact (sound side).1.moveWritePos_iff asserted
  | swap =>
      cases ended
      exact iff_true_intro fun side => sound side.other
  | reset side =>
      cases ended
      rw [sound.update_iff]
      exact iff_true_intro (sound side).1.reset

theorem Sound.throughout_iff (sound : Sound pair) (operations : List BufferOperation) :
    SoundThroughout config pair operations ↔ StaysInsideThroughout config pair operations := by
  induction operations generalizing pair with
  | nil => exact iff_true_intro sound
  | cons operation rest ih =>
      constructor
      · intro throughout next ended
        have after := throughout.2 next ended
        have soundNext : Sound next := by
          cases rest with
          | nil => exact after
          | cons _ _ => exact after.1
        exact ⟨(sound.step_iff ended).mp soundNext, (ih soundNext).mp after⟩
      · intro inside
        refine ⟨sound, fun next ended => ?_⟩
        obtain ⟨stays, later⟩ := inside next ended
        exact (ih ((sound.step_iff ended).mpr stays)).mpr later

theorem SoundThroughout.run {operations : List BufferOperation} {final : BufferPair}
    (throughout : SoundThroughout config pair operations) (ended : run config pair operations = some final) :
    Sound final := by
  induction operations generalizing pair with
  | nil =>
      cases ended
      exact throughout
  | cons operation rest ih =>
      obtain ⟨next, first, later⟩ := Option.bind_eq_some_iff.mp ended
      exact ih (throughout.2 next first) later

/-- Two buffers keep their invariant through a sequence of operations exactly
if no `MoveWritePos` of it goes behind the elements of the vector. -/
theorem soundThroughout_new_iff (config : Config) (operations : List BufferOperation) :
    SoundThroughout config (new config) operations ↔ StaysInsideThroughout config (new config) operations :=
  (sound_new config).throughout_iff operations

/-- Three bytes pushed into a vector of two leave it with three elements and a
capacity of four, which is what `MoveWritePos(1)` is compared with. -/
theorem moveWritePos_leaves_elements :
    ∃ config operations pair,
      run config (new config) operations = some pair ∧ ¬ SoundThroughout config (new config) operations ∧
      (pair .first).buffer = [1, 2, 3] ∧ (pair .first).capacity = 4 ∧
      (pair .first).writePos = 4 ∧ (pair .first).readableSize = 4 := by
  refine ⟨⟨2, 8, 4⟩, [.push .first [1, 2, 3], .moveWritePos .first 1], _, rfl, fun throughout => ?_, rfl, rfl, rfl, rfl⟩
  exact absurd (throughout.run rfl .first).1.inside (by decide)

end BufferPair

end TaskHive.LogSystem
