import Mathlib.Data.List.Basic
import Mathlib.Data.Set.Piecewise
import Mathlib.Logic.Function.Basic

namespace TaskHive

/-! # Files written through an appending stream

A stream passes on what it was given when it likes, at the latest when it is
flushed or closed.  The content of a file is what the file system has of it and
what a stream that is open on it still holds; only a write changes it. -/

structure AppendStream (ν : Type u) (β : Type v) where
  file : ν → Option (List β)
  /-- The files created through the stream, oldest first. -/
  created : List ν := []
  path : Option ν := none
  pending : List β := []
  failed : Bool := false

namespace AppendStream

variable {ν : Type u} {β : Type v} [DecidableEq ν] {stream : AppendStream ν β} {path other : ν}

def content (stream : AppendStream ν β) (path : ν) : List β :=
  (stream.file path).getD [] ++ if stream.path = some path then stream.pending else []

/-- Some of what is pending goes to the file. -/
def pass (stream : AppendStream ν β) (count : Nat) : AppendStream ν β :=
  match stream.path with
  | none => stream
  | some path =>
      { stream with
        file := Function.update stream.file path ((stream.file path).map (· ++ stream.pending.take count))
        pending := stream.pending.drop count }

def flush (stream : AppendStream ν β) : AppendStream ν β := stream.pass stream.pending.length

/-- To close a stream that is not open is a failure. -/
def close (stream : AppendStream ν β) : AppendStream ν β :=
  if stream.path.isNone then { stream with failed := true } else { stream.flush with path := none }

/-- The stream passes on the first `count` bytes that it holds then. -/
def write (stream : AppendStream ν β) (data : List β) (count : Nat) (succeeds : Bool) : AppendStream ν β :=
  if stream.failed = true ∨ stream.path.isNone ∨ succeeds = false then { stream with failed := true }
  else { stream with pending := stream.pending ++ data }.pass count

def create (stream : AppendStream ν β) (path : ν) : AppendStream ν β :=
  if (stream.file path).isNone then
    { stream with file := Function.update stream.file path (some []), created := stream.created ++ [path] }
  else stream

/-- A stream that is already open cannot be opened; success clears an earlier
failure. -/
def openAppend (stream : AppendStream ν β) (path : ν) (succeeds : Bool) : AppendStream ν β :=
  if stream.path.isNone ∧ succeeds = true then
    { stream.create path with path := some path, pending := [], failed := false }
  else { stream with failed := true }

/-- The file that the stream is open on exists. -/
def Attached (stream : AppendStream ν β) : Prop :=
  ∀ path, stream.path = some path → (stream.file path).isSome = true

/-! ## What passing on leaves alone -/

@[simp] theorem pass_path (stream : AppendStream ν β) (count : Nat) : (stream.pass count).path = stream.path := by
  unfold pass
  split <;> simp_all

@[simp] theorem pass_created (stream : AppendStream ν β) (count : Nat) :
    (stream.pass count).created = stream.created := by
  unfold pass
  split <;> rfl

@[simp] theorem pass_failed (stream : AppendStream ν β) (count : Nat) :
    (stream.pass count).failed = stream.failed := by
  unfold pass
  split <;> rfl

@[simp] theorem pass_zero (stream : AppendStream ν β) : stream.pass 0 = stream := by
  unfold pass
  split <;> simp

theorem isSome_pass (stream : AppendStream ν β) (count : Nat) (path : ν) :
    ((stream.pass count).file path).isSome = (stream.file path).isSome := by
  unfold pass
  split
  · rfl
  · rename_i opened _
    by_cases same : path = opened
    · subst same
      simp
    · simp [same]

theorem pass_file_of_ne (count : Nat) (different : stream.path ≠ some path) :
    (stream.pass count).file path = stream.file path := by
  unfold pass
  split
  · rfl
  · rename_i opened isOpen
    have other : path ≠ opened := by
      rintro rfl
      exact different isOpen
    exact Function.update_of_ne other _ _

theorem content_pass (attached : stream.Attached) (count : Nat) (path : ν) :
    (stream.pass count).content path = stream.content path := by
  by_cases here : stream.path = some path
  · obtain ⟨stored, exists_⟩ := Option.isSome_iff_exists.mp (attached path here)
    have passed : (stream.pass count).file path = some (stored ++ stream.pending.take count) := by
      simp [pass, here, exists_]
    have left : (stream.pass count).pending = stream.pending.drop count := by
      simp [pass, here]
    rw [content, content, pass_path, if_pos here, if_pos here, passed, left, exists_]
    simp
  · rw [content, content, pass_path, if_neg here, if_neg here, pass_file_of_ne count here]

theorem pending_flush (opened : stream.path = some path) : stream.flush.pending = [] := by
  simp [flush, AppendStream.pass, opened]

/-! ## Closing and opening -/

@[simp] theorem close_path (stream : AppendStream ν β) : stream.close.path = none := by
  unfold close
  split
  · rename_i closed
    simpa using closed
  · rfl

@[simp] theorem close_created (stream : AppendStream ν β) : stream.close.created = stream.created := by
  unfold close
  split
  · rfl
  · exact pass_created stream _

theorem isSome_close (stream : AppendStream ν β) (path : ν) :
    (stream.close.file path).isSome = (stream.file path).isSome := by
  unfold close
  split
  · rfl
  · exact isSome_pass stream _ path

theorem close_file_of_ne (different : stream.path ≠ some path) : stream.close.file path = stream.file path := by
  unfold close
  split
  · rfl
  · exact pass_file_of_ne _ different

theorem content_close (attached : stream.Attached) (path : ν) : stream.close.content path = stream.content path := by
  unfold close
  split
  · rfl
  · rename_i opened
    obtain ⟨current, isOpen⟩ := Option.ne_none_iff_exists'.mp (by simpa using opened)
    have passed : stream.flush.content path = (stream.flush.file path).getD [] := by
      rw [content, pending_flush isOpen]
      simp
    rw [← content_pass attached stream.pending.length path, ← flush, passed]
    simp [content]

theorem create_created (stream : AppendStream ν β) (path : ν) :
    (stream.create path).created =
      if (stream.file path).isNone then stream.created ++ [path] else stream.created := by
  unfold create
  split <;> rfl

theorem create_file (stream : AppendStream ν β) (path : ν) :
    (stream.create path).file path = some ((stream.file path).getD []) := by
  cases stored : stream.file path <;> simp [create, stored]

theorem create_file_of_ne (stream : AppendStream ν β) (different : other ≠ path) :
    (stream.create path).file other = stream.file other := by
  unfold create
  split
  · exact Function.update_of_ne different _ _
  · rfl

theorem getD_create (stream : AppendStream ν β) (path other : ν) :
    ((stream.create path).file other).getD [] = (stream.file other).getD [] := by
  by_cases same : other = path
  · subst other
    rw [create_file, Option.getD_some]
  · rw [create_file_of_ne stream same]

/-- The stream goes on with another file. -/
def reopen (stream : AppendStream ν β) (path : ν) : AppendStream ν β := stream.close.openAppend path true

theorem reopen_eq (stream : AppendStream ν β) (path : ν) :
    stream.reopen path = { stream.close.create path with path := some path, pending := [], failed := false } := by
  simp [reopen, openAppend]

@[simp] theorem reopen_path (stream : AppendStream ν β) (path : ν) : (stream.reopen path).path = some path := by
  rw [reopen_eq]

@[simp] theorem reopen_pending (stream : AppendStream ν β) (path : ν) : (stream.reopen path).pending = [] := by
  rw [reopen_eq]

@[simp] theorem reopen_failed (stream : AppendStream ν β) (path : ν) : (stream.reopen path).failed = false := by
  rw [reopen_eq]

theorem reopen_created (stream : AppendStream ν β) (path : ν) :
    (stream.reopen path).created =
      if (stream.file path).isNone then stream.created ++ [path] else stream.created := by
  have same : (stream.close.file path).isNone = (stream.file path).isNone := by
    rw [← Option.not_isSome, ← Option.not_isSome, isSome_close]
  rw [reopen_eq]
  change (stream.close.create path).created = _
  rw [create_created, close_created, same]

theorem reopen_file_of_ne (different : other ≠ path) (elsewhere : stream.path ≠ some other) :
    (stream.reopen path).file other = stream.file other := by
  rw [reopen_eq]
  exact (create_file_of_ne _ different).trans (close_file_of_ne elsewhere)

theorem isSome_reopen (stream : AppendStream ν β) (path other : ν) :
    ((stream.reopen path).file other).isSome = true ↔ other = path ∨ (stream.file other).isSome = true := by
  rw [reopen_eq]
  change ((stream.close.create path).file other).isSome = true ↔ _
  by_cases same : other = path
  · subst other
    simp [create_file]
  · rw [create_file_of_ne _ same, isSome_close]
    simp [same]

theorem content_reopen (attached : stream.Attached) (path other : ν) :
    (stream.reopen path).content other = stream.content other := by
  have closed : stream.close.content other = (stream.close.file other).getD [] := by simp [content]
  rw [← content_close attached other, closed, reopen_eq, ← getD_create stream.close path other]
  simp [content]

theorem stored_reopen (stream : AppendStream ν β) (path : ν) :
    ((stream.reopen path).file path).getD [] = (stream.reopen path).content path := by
  simp [content]

/-! ## Writing -/

section Write

variable (unfailed : stream.failed = false) (opened : stream.path = some path) (data : List β) (count : Nat)
include unfailed opened

theorem write_eq : stream.write data count true = { stream with pending := stream.pending ++ data }.pass count := by
  simp [write, unfailed, opened]

theorem write_path : (stream.write data count true).path = some path := by
  rw [write_eq unfailed opened, pass_path]
  exact opened

theorem write_failed : (stream.write data count true).failed = false := by
  rw [write_eq unfailed opened, pass_failed]
  exact unfailed

theorem write_created : (stream.write data count true).created = stream.created := by
  rw [write_eq unfailed opened, pass_created]

theorem isSome_write (other : ν) :
    ((stream.write data count true).file other).isSome = (stream.file other).isSome := by
  rw [write_eq unfailed opened]
  exact isSome_pass _ count other

theorem write_file_of_ne (different : other ≠ path) :
    (stream.write data count true).file other = stream.file other := by
  rw [write_eq unfailed opened]
  refine pass_file_of_ne count ?_
  change stream.path ≠ some other
  rw [opened]
  exact fun same => different (Option.some.inj same).symm

theorem attached_write (attached : stream.Attached) : (stream.write data count true).Attached := by
  intro current here
  rw [isSome_write unfailed opened]
  rw [write_path unfailed opened, ← opened] at here
  exact attached current here

theorem content_write (attached : stream.Attached) (other : ν) :
    (stream.write data count true).content other = stream.content other ++ if other = path then data else [] := by
  have kept : ({ stream with pending := stream.pending ++ data } : AppendStream ν β).Attached := attached
  rw [write_eq unfailed opened, content_pass kept]
  by_cases same : other = path
  · simp [content, opened, same]
  · have elsewhere : path ≠ other := Ne.symm same
    simp [content, opened, same, elsewhere]

end Write

/-! ## Several streams on one file system

A stream that keeps to some places does there what it would do alone, and leaves
the rest of the file system as the other streams have made it. -/

/-- The stream finds this file system in place of the one it saw last. -/
def seeing (file : ν → Option (List β)) (stream : AppendStream ν β) : AppendStream ν β := { stream with file }

theorem content_seeing {file : ν → Option (List β)} (found : file path = stream.file path) :
    (stream.seeing file).content path = stream.content path := by
  have stored : (stream.seeing file).file path = stream.file path := found
  rw [content, content, stored]
  rfl

/-- The stream is open on one of the places, if at all. -/
def Within (places : Set ν) (stream : AppendStream ν β) : Prop :=
  ∀ path, stream.path = some path → path ∈ places

section Shared

variable {places : Set ν}

open Classical in
/-- One file system on the places, another one elsewhere. -/
noncomputable def overlay (places : Set ν) (own shared : ν → Option (List β)) : ν → Option (List β) :=
  places.piecewise own shared

omit [DecidableEq ν] in
theorem overlay_of_mem (own shared : ν → Option (List β)) (inside : path ∈ places) :
    overlay places own shared path = own path := by
  classical exact Set.piecewise_eq_of_mem _ _ _ inside

omit [DecidableEq ν] in
theorem overlay_of_notMem (own shared : ν → Option (List β)) (outside : path ∉ places) :
    overlay places own shared path = shared path := by
  classical exact Set.piecewise_eq_of_notMem _ _ _ outside

theorem overlay_update (own shared : ν → Option (List β)) (inside : path ∈ places) (stored : Option (List β)) :
    Function.update (overlay places own shared) path stored =
      overlay places (Function.update own path stored) shared := by
  funext other
  by_cases same : other = path
  · subst other
    rw [overlay_of_mem _ _ inside, Function.update_self, Function.update_self]
  · rw [Function.update_of_ne same]
    by_cases member : other ∈ places
    · rw [overlay_of_mem _ _ member, overlay_of_mem _ _ member, Function.update_of_ne same]
    · rw [overlay_of_notMem _ _ member, overlay_of_notMem _ _ member]

/-- The stream on its places in a file system that it shares. -/
noncomputable def overlaid (places : Set ν) (shared : ν → Option (List β)) (stream : AppendStream ν β) :
    AppendStream ν β :=
  stream.seeing (overlay places stream.file shared)

omit [DecidableEq ν] in
/-- The stream finds its places as it left them. -/
theorem overlaid_eq_seeing {shared : ν → Option (List β)} {stream : AppendStream ν β}
    (found : ∀ path ∈ places, shared path = stream.file path) :
    stream.overlaid places shared = stream.seeing shared := by
  have same : overlay places stream.file shared = shared := by
    funext path
    by_cases inside : path ∈ places
    · rw [overlay_of_mem _ _ inside, found path inside]
    · exact overlay_of_notMem _ _ inside
  rw [overlaid, same]

theorem content_overlaid (shared : ν → Option (List β)) (stream : AppendStream ν β) (inside : path ∈ places) :
    (stream.overlaid places shared).content path = stream.content path :=
  content_seeing (overlay_of_mem _ _ inside)

theorem pass_overlaid (shared : ν → Option (List β)) (within : stream.Within places) (count : Nat) :
    (stream.overlaid places shared).pass count = (stream.pass count).overlaid places shared := by
  cases opened : stream.path with
  | none => simp only [pass, overlaid, seeing, opened]
  | some path =>
      have inside := within path opened
      simp only [pass, overlaid, seeing, opened, overlay_of_mem _ _ inside, overlay_update _ _ inside]

theorem flush_overlaid (shared : ν → Option (List β)) (within : stream.Within places) :
    (stream.overlaid places shared).flush = stream.flush.overlaid places shared :=
  pass_overlaid shared within stream.pending.length

theorem close_overlaid (shared : ν → Option (List β)) (within : stream.Within places) :
    (stream.overlaid places shared).close = stream.close.overlaid places shared := by
  have flushed := flush_overlaid shared within
  cases opened : stream.path with
  | none => simp [close, overlaid, seeing, opened]
  | some path =>
      have isOpen : (stream.overlaid places shared).path = some path := opened
      rw [close, close, isOpen, opened, if_neg (by simp), if_neg (by simp)]
      exact congrArg (fun stream : AppendStream ν β => { stream with path := none }) flushed

theorem write_overlaid (shared : ν → Option (List β)) (within : stream.Within places) (data : List β)
    (count : Nat) (succeeds : Bool) :
    (stream.overlaid places shared).write data count succeeds =
      (stream.write data count succeeds).overlaid places shared := by
  have same : (stream.overlaid places shared).failed = stream.failed ∧
      (stream.overlaid places shared).path = stream.path := ⟨rfl, rfl⟩
  rw [write, write, same.1, same.2]
  split
  · rfl
  · have held : ({ stream with pending := stream.pending ++ data } : AppendStream ν β).Within places := within
    exact pass_overlaid shared held count

theorem create_overlaid (shared : ν → Option (List β)) (inside : path ∈ places) :
    (stream.overlaid places shared).create path = (stream.create path).overlaid places shared := by
  have found : (stream.overlaid places shared).file path = stream.file path := overlay_of_mem _ _ inside
  rw [create, create, found]
  split
  · simp only [overlaid, seeing, overlay_update _ _ inside]
  · rfl

theorem openAppend_overlaid (shared : ν → Option (List β)) (inside : path ∈ places) (succeeds : Bool) :
    (stream.overlaid places shared).openAppend path succeeds =
      (stream.openAppend path succeeds).overlaid places shared := by
  have same : (stream.overlaid places shared).path = stream.path := rfl
  rw [openAppend, openAppend, same, create_overlaid shared inside]
  split <;> rfl

/-! A stream stays within its places. -/

theorem Within.pass (within : stream.Within places) (count : Nat) : (stream.pass count).Within places := by
  intro path opened
  rw [pass_path] at opened
  exact within path opened

theorem Within.write (within : stream.Within places) (data : List β) (count : Nat) (succeeds : Bool) :
    (stream.write data count succeeds).Within places := by
  unfold AppendStream.write
  split
  · exact within
  · have held : ({ stream with pending := stream.pending ++ data } : AppendStream ν β).Within places := within
    exact held.pass count

theorem within_close (stream : AppendStream ν β) : stream.close.Within places := by
  intro path opened
  rw [close_path] at opened
  cases opened

theorem Within.openAppend (within : stream.Within places) (inside : path ∈ places) (succeeds : Bool) :
    (stream.openAppend path succeeds).Within places := by
  unfold AppendStream.openAppend
  split
  · intro other opened
    cases opened
    exact inside
  · exact within

end Shared

end AppendStream

end TaskHive
