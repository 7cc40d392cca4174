import TaskHive.Json
import TaskHive.LogSystem.Bounded

namespace TaskHive.LogSystem

open Wire

/-! # Configurations under which the buffer can grow

A round of the loop of `TobeEnough` doubles the capacity below the threshold
and adds `linear_growth` from there on.  Either can leave it as it is. -/

namespace Buffer

/-- The loop of `TobeEnough` ends. -/
def GrowthEnds (config : Config) (buffer : Buffer) (len : Nat) : Prop :=
  ∃ rounds cap, growLoop config (len + buffer.writePos) rounds (buffer.startCap config) = some cap

section Loop

variable {config : Config} {needCap fuel cap grown bound : Nat}

/-- A bound that no round passes is never passed. -/
theorem growLoop_bounded (closed : ∀ cap ≤ bound, grow config cap ≤ bound) (short : bound < needCap)
    (start : cap ≤ bound) (fuel : Nat) : growLoop config needCap fuel cap = none := by
  have below : cap < needCap := Nat.lt_of_le_of_lt start short
  induction fuel generalizing cap with
  | zero => exact if_pos below
  | succ fuel ih =>
      rw [growLoop_of_lt below]
      have next := closed cap start
      exact ih next (Nat.lt_of_le_of_lt next short)

theorem lt_grow (growing : 0 < config.linearGrowth) (started : 0 < cap ∨ config.threshold = 0) :
    cap < grow config cap := by
  unfold grow
  split <;> omega

theorem growLoop_ends (growing : 0 < config.linearGrowth) (started : 0 < cap ∨ config.threshold = 0)
    (enough : needCap - cap ≤ fuel) : ∃ grown, growLoop config needCap fuel cap = some grown := by
  induction fuel generalizing cap with
  | zero => exact ⟨cap, growLoop_of_le (by omega) 0⟩
  | succ fuel ih =>
      by_cases short : cap < needCap
      · rw [growLoop_of_lt short]
        have raised := lt_grow growing started
        exact ih (.inl (Nat.zero_lt_of_lt raised)) (by omega)
      · exact ⟨cap, growLoop_of_le (Nat.not_lt.mp short) _⟩

theorem le_growLoop (ended : growLoop config needCap fuel cap = some grown) : cap ≤ grown := by
  induction fuel generalizing cap with
  | zero =>
      simp only [growLoop, Option.ite_none_left_eq_some, Option.some.injEq] at ended
      exact Nat.le_of_eq ended.2
  | succ fuel ih =>
      by_cases short : cap < needCap
      · rw [growLoop_of_lt short] at ended
        exact Nat.le_trans (le_grow config cap) (ih ended)
      · rw [growLoop_of_le (Nat.not_lt.mp short), Option.some.injEq] at ended
        exact Nat.le_of_eq ended

/-- Without linear growth the last doubling starts below the threshold. -/
theorem grow_le_of_not_growing (still : config.linearGrowth = 0) (start : 2 * config.threshold ≤ bound)
    (inside : cap ≤ bound) : grow config cap ≤ bound := by
  unfold grow
  split <;> omega

end Loop

variable {config : Config} {buffer : Buffer} {len : Nat}

theorem capacity_le_startCap (config : Config) (buffer : Buffer) : buffer.capacity ≤ buffer.startCap config := by
  unfold startCap
  split <;> omega

/-- A capacity that is never passed and a length that needs more -/
theorem not_growthEnds {bound : Nat} (closed : ∀ cap ≤ bound, grow config cap ≤ bound)
    (start : buffer.startCap config ≤ bound) (short : bound < len + buffer.writePos) :
    ¬ GrowthEnds config buffer len := by
  intro ends
  obtain ⟨rounds, cap, ended⟩ := ends
  rw [growLoop_bounded closed short start] at ended
  cases ended

theorem not_growthEnds_of_zero (doubling : 0 < config.threshold ∨ config.linearGrowth = 0)
    (start : buffer.startCap config = 0) (short : 0 < len + buffer.writePos) : ¬ GrowthEnds config buffer len := by
  have closed : ∀ cap ≤ 0, grow config cap ≤ 0 := by
    intro cap inside
    unfold grow
    split <;> omega
  exact not_growthEnds closed (Nat.le_of_eq start) short

theorem growthEnds_iff (config : Config) (buffer : Buffer) :
    (∀ len writePos, GrowthEnds config { buffer with writePos } len) ↔
      0 < config.linearGrowth ∧ (0 < buffer.startCap config ∨ config.threshold = 0) := by
  constructor
  · intro ends
    have growing : 0 < config.linearGrowth := by
      by_contra still
      have ended := ends (max (buffer.startCap config) (2 * config.threshold) + 1) 0
      apply not_growthEnds _ (Nat.le_max_left _ (2 * config.threshold)) (Nat.lt_succ_self _) ended
      intro cap inside
      exact grow_le_of_not_growing (Nat.eq_zero_of_not_pos still) (Nat.le_max_right _ _) inside
    refine ⟨growing, ?_⟩
    by_contra stuck
    have start : buffer.startCap config = 0 := by omega
    have doubling : 0 < config.threshold := by omega
    exact absurd (ends 1 0) (not_growthEnds_of_zero (.inl doubling) start (Nat.succ_pos _))
  · intro sane len writePos
    obtain ⟨cap, ended⟩ := growLoop_ends sane.1 sane.2 (Nat.le_refl (len + writePos - buffer.startCap config))
    exact ⟨_, cap, ended⟩

/-- `reserve` gets what the loop ends with. -/
theorem tobeEnough_of_growLoop {rounds cap : Nat}
    (ended : growLoop config (len + buffer.writePos) rounds (buffer.startCap config) = some cap) :
    tobeEnough config buffer len = some { buffer with capacity := cap } ∧
      max buffer.capacity (len + buffer.writePos) ≤ cap := by
  have held : buffer.capacity ≤ cap := Nat.le_trans (capacity_le_startCap config buffer) (le_growLoop ended)
  constructor
  · change (growLoop config (len + buffer.writePos) (len + buffer.writePos) (buffer.startCap config)).map _ = _
    rw [growLoop_complete ended, Option.map_some, reserve, Nat.max_eq_right held]
  · exact Nat.max_le.mpr ⟨held, le_of_growLoop ended⟩

end Buffer

/-! ## The constructor of `Config` -/

/-- What reading a file comes to.  `failed` is a read that stops early, after
the content has been given the size of the file. -/
inductive FileRead where
  | unopened
  | unsized
  | failed (size : Nat) (got : Bytes)
  | complete (content : Bytes)

/-- `GetFileContent`: its result and what it leaves in `content`. -/
def getFileContent : FileRead → Bool × Bytes
  | .unopened => (false, [])
  | .unsized => (false, [])
  | .failed size got => (false, got ++ List.replicate (size - got.length) 0)
  | .complete content => (true, content)

/-- No byte of the file comes in. -/
def FileRead.Unreadable : FileRead → Prop
  | .unopened | .unsized => True
  | .failed _ got => got = []
  | .complete _ => False

/-- What `DeSerialize` leaves in `root`, whether or not the text is accepted.
A text without any token leaves the null with which `root` starts. -/
structure JsonParser (R : Type) where
  root : Bytes → Json R
  root_zeros : ∀ size, root (List.replicate size 0) = .null

/-- The parser for a file that is one numeral; a NUL ends the text. -/
def numeralParser : JsonParser Int where
  root text :=
    let digits := text.takeWhile (· ≠ 0)
    if !digits.isEmpty && digits.all fun digit => Nat.ble 48 digit.toNat && Nat.ble digit.toNat 57 then
      .int (digits.foldl (fun value digit => 10 * value + (digit.toNat - 48 : Nat)) 0)
    else .null
  root_zeros size := by cases size <;> rfl

/-- All values of the singleton -/
structure Settings extends Config where
  flushLog : Nat
  backupAddr : String
  backupPort : UInt16
  threadCount : Nat
deriving DecidableEq

namespace Settings

variable {R : Type}

/-- A value that is stored in a `size_t` -/
def size (toInt64 : R → Option Int64) (root : Json R) (key : String) : Except String Nat := do
  let value ← (← root.member key).asInt64 toInt64
  pure value.toUInt64.toNat

def read (numbers : JsonNumbers R) (toInt64 : R → Option Int64) (root : Json R) : Except String Settings := do
  let bufferSize ← size toInt64 root "buffer_size"
  let threshold ← size toInt64 root "threshold"
  let linearGrowth ← size toInt64 root "linear_growth"
  let flushLog ← size toInt64 root "flush_log"
  let backupAddr ← (← root.member "backup_addr").asString numbers
  let backupPort ← (← root.member "backup_port").asInt numbers
  let threadCount ← (← root.member "thread_count").asInt numbers
  pure
    { bufferSize, threshold, linearGrowth, flushLog, backupAddr
      backupPort := backupPort.toUInt32.toUInt16
      threadCount := threadCount.toInt64.toUInt64.toNat }

/-- The constructor goes on when the file cannot be read or parsed. -/
def construct (numbers : JsonNumbers R) (toInt64 : R → Option Int64) (parser : JsonParser R) (file : FileRead) :
    Except String Settings :=
  read numbers toInt64 (parser.root (getFileContent file).2)

def unread : Settings where
  bufferSize := 0
  threshold := 0
  linearGrowth := 0
  flushLog := 0
  backupAddr := ""
  backupPort := 0
  threadCount := 0

theorem read_null (numbers : JsonNumbers R) (toInt64 : R → Option Int64) :
    read numbers toInt64 .null = .ok unread := rfl

theorem getFileContent_unreadable {file : FileRead} (unreadable : file.Unreadable) :
    ∃ size, (getFileContent file).2 = List.replicate size 0 := by
  cases file with
  | unopened => exact ⟨0, rfl⟩
  | unsized => exact ⟨0, rfl⟩
  | failed size got =>
      cases unreadable
      exact ⟨size, rfl⟩
  | complete content => cases unreadable

theorem construct_unreadable (numbers : JsonNumbers R) (toInt64 : R → Option Int64) (parser : JsonParser R)
    {file : FileRead} (unreadable : file.Unreadable) : construct numbers toInt64 parser file = .ok unread := by
  obtain ⟨size, zeros⟩ := getFileContent_unreadable unreadable
  rw [construct, zeros, parser.root_zeros, read_null]

end Settings

/-- The loop of `TobeEnough` ends for every length and write position exactly if
the linear growth is positive and doubling does not start from zero.  When it
ends, the vector gets a capacity for both the old and the new content.  Without
a readable `config.conf` it never ends on a fresh buffer. -/
theorem tobeEnough_terminates_iff (config : Config) (buffer : Buffer) :
    ((∀ len writePos, Buffer.GrowthEnds config { buffer with writePos } len) ↔
      0 < config.linearGrowth ∧ (0 < buffer.startCap config ∨ config.threshold = 0)) ∧
    (∀ len rounds cap,
      Buffer.growLoop config (len + buffer.writePos) rounds (buffer.startCap config) = some cap →
        Buffer.tobeEnough config buffer len = some { buffer with capacity := cap } ∧
          max buffer.capacity (len + buffer.writePos) ≤ cap) ∧
    ∀ (R : Type) (numbers : JsonNumbers R) (toInt64 : R → Option Int64) (parser : JsonParser R) (file : FileRead),
      file.Unreadable →
        ∃ settings, Settings.construct numbers toInt64 parser file = .ok settings ∧
          settings.toConfig = ⟨0, 0, 0⟩ ∧
          ∀ len, 0 < len → ¬ Buffer.GrowthEnds settings.toConfig (.new settings.toConfig) len := by
  refine ⟨Buffer.growthEnds_iff config buffer, fun len rounds cap ended => ?_, ?_⟩
  · exact Buffer.tobeEnough_of_growLoop ended
  · intro R numbers toInt64 parser file unreadable
    refine ⟨.unread, Settings.construct_unreadable numbers toInt64 parser unreadable, rfl, ?_⟩
    intro len positive
    exact Buffer.not_growthEnds_of_zero (.inr rfl) rfl positive

/-- The file is opened and has three bytes, but none of them can be read. -/
theorem unread_config_never_grows :
    ∃ settings, Settings.construct plainNumbers (fun value => some (Int64.ofInt value)) numeralParser
        (.failed 3 []) = .ok settings ∧
      settings.toConfig = ⟨0, 0, 0⟩ ∧
      ∀ len, 0 < len → ¬ Buffer.GrowthEnds settings.toConfig (.new settings.toConfig) len :=
  (tobeEnough_terminates_iff ⟨0, 0, 0⟩ (.new ⟨0, 0, 0⟩)).2.2 Int plainNumbers (fun value => some (Int64.ofInt value))
    numeralParser (.failed 3 []) rfl

end TaskHive.LogSystem
