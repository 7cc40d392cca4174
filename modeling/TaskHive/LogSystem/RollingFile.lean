import Mathlib.Data.List.Nodup
import TaskHive.AppendStream
import TaskHive.Decimal
import TaskHive.Wire.Text

namespace TaskHive.LogSystem

open Wire

/-! # `RollingFileFlush`

The sink opens a new file for its first write and whenever the current file has
reached `max_size_`, before a write as well as after it.  A file is opened by
its name as a C string, so a base name with a zero byte leads every name to one
file. -/

/-- The fields of `struct tm` that a name is made of. -/
structure Tm where
  tmYear : Int
  tmMon : Int
  tmMday : Int
  tmHour : Int
  tmMin : Int
  tmSec : Int

namespace RollingFileFlush

/-- The name of the file number `cnt_`. -/
def creatLogFileName (baseName : Bytes) (t : Tm) (cnt : Nat) : Bytes :=
  baseName ++ (decimalInt (t.tmYear + 1900) ++ decimalInt (t.tmMon + 1) ++ decimalInt t.tmMday ++
    decimalInt (t.tmHour + 1) ++ decimalInt (t.tmMin + 1) ++ decimalInt (t.tmSec + 1) ++
    utf8 "-" ++ decimal cnt ++ utf8 ".log")

/-- `base_name_` and `max_size_`, and the `flush_log` of the configuration. -/
structure Setup where
  baseName : Bytes
  maxSize : Nat
  flushLog : Nat

/-- The last field records the names in the order of their creation. -/
structure State where
  ofs : AppendStream Bytes UInt8
  currentSize : Nat := 0
  cnt : Nat := 0
  filename : Bytes
  generated : List Bytes := []

/-- What `InitLogFile` meets if it opens a file. -/
structure Attempt where
  now : Tm
  opens : Bool

/-- A call of `Flush`, with what it meets before and after the write.  The
stream passes on `passed` bytes on its own. -/
structure Call where
  data : Bytes
  before : Attempt
  writes : Bool
  passed : Nat
  after : Attempt

def Call.Succeeds (call : Call) : Prop :=
  call.before.opens = true ∧ call.writes = true ∧ call.after.opens = true

def init (setup : Setup) (file : Bytes → Option Bytes) : State where
  ofs := { file }
  filename := setup.baseName

/-- A new file is due. -/
def State.due (setup : Setup) (state : State) : Bool :=
  state.ofs.path.isNone || decide (setup.maxSize ≤ state.currentSize)

def initLogFile (setup : Setup) (attempt : Attempt) (state : State) : Except String State :=
  if state.due setup then
    let closed := if state.ofs.failed then state.ofs else state.ofs.close
    let newFilename := creatLogFileName setup.baseName attempt.now state.cnt
    if newFilename = [] then .error "create log file name fail"
    else
      let opened := closed.openAppend (cString newFilename) attempt.opens
      if opened.failed then .error "ofstream open fail"
      else .ok {
        ofs := opened
        currentSize := (opened.file (cString newFilename)).elim 0 List.length
        cnt := state.cnt + 1
        filename := newFilename
        generated := state.generated ++ [newFilename] }
  else .ok state

/-- The state after the write; an `fsync` changes nothing that is modelled. -/
def State.wrote (setup : Setup) (call : Call) (state : State) : State :=
  let written := state.ofs.write call.data call.passed call.writes
  { state with
    ofs := if setup.flushLog = 1 ∨ setup.flushLog = 2 then written.flush else written
    currentSize := state.currentSize + call.data.length }

def flush (setup : Setup) (call : Call) (state : State) : Except String State := do
  let ready ← initLogFile setup call.before state
  if (ready.ofs.write call.data call.passed call.writes).failed then .error "ofstream write fail"
  else if setup.maxSize ≤ (ready.wrote setup call).currentSize then
    initLogFile setup call.after (ready.wrote setup call)
  else .ok (ready.wrote setup call)

def flushAll (setup : Setup) : State → List Call → Except String State
  | state, [] => .ok state
  | state, call :: rest => do
      let next ← flush setup call state
      flushAll setup next rest

/-! ## Names -/

section Names

variable {baseName : Bytes} {t : Tm} {cnt : Nat}

theorem creatLogFileName_ne_nil (baseName : Bytes) (t : Tm) (cnt : Nat) : creatLogFileName baseName t cnt ≠ [] := by
  have dash : utf8 "-" ≠ [] := List.cons_ne_nil _ _
  simp [creatLogFileName, dash]

theorem cString_creatLogFileName (clean : (0 : UInt8) ∉ baseName) (t : Tm) (cnt : Nat) :
    cString (creatLogFileName baseName t cnt) = creatLogFileName baseName t cnt := by
  have dash : (0 : UInt8) ∉ utf8 "-" := by decide
  have extension : (0 : UInt8) ∉ utf8 ".log" := by decide
  refine cString_eq_self ?_
  simp [creatLogFileName, clean, zero_notMem_decimal, zero_notMem_decimalInt, dash, extension]

theorem cString_creatLogFileName_of_zero (zero : (0 : UInt8) ∈ baseName) (t : Tm) (cnt : Nat) :
    cString (creatLogFileName baseName t cnt) = cString baseName :=
  cString_append_of_mem zero _

/-- Whatever the clock shows, the number behind the last dash tells names
apart. -/
theorem cnt_of_creatLogFileName {first second : Tm} {left right : Nat}
    (same : creatLogFileName baseName first left = creatLogFileName baseName second right) : left = right := by
  have dash : utf8 "-" = [45] := rfl
  simp only [creatLogFileName, dash, ← List.append_assoc] at same
  have numbered := List.append_cancel_right same
  simp only [List.append_assoc, List.singleton_append] at numbered
  simp only [← List.append_assoc] at numbered
  exact eq_of_append_decimal (by decide) numbered

end Names

/-- The names that are generated one after the other. -/
inductive Named (baseName : Bytes) : List Bytes → Prop where
  | nil : Named baseName []
  | snoc {names : List Bytes} (named : Named baseName names) (t : Tm) :
      Named baseName (names ++ [creatLogFileName baseName t names.length])

theorem Named.exists_cnt {baseName name : Bytes} {names : List Bytes} (named : Named baseName names)
    (member : name ∈ names) : ∃ t cnt, cnt < names.length ∧ name = creatLogFileName baseName t cnt := by
  induction named with
  | nil => cases member
  | @snoc names _ t ih =>
      rw [List.length_append, List.length_singleton]
      rcases List.mem_append.mp member with earlier | newest
      · obtain ⟨t, cnt, below, rfl⟩ := ih earlier
        exact ⟨t, cnt, Nat.lt_succ_of_lt below, rfl⟩
      · exact ⟨t, names.length, Nat.lt_succ_self _, List.mem_singleton.mp newest⟩

theorem Named.next_notMem {baseName : Bytes} {names : List Bytes} (named : Named baseName names) (t : Tm) :
    creatLogFileName baseName t names.length ∉ names := by
  intro member
  obtain ⟨other, cnt, below, same⟩ := named.exists_cnt member
  exact Nat.ne_of_gt below (cnt_of_creatLogFileName same)

theorem Named.nodup {baseName : Bytes} {names : List Bytes} (named : Named baseName names) : names.Nodup := by
  induction named with
  | nil => exact List.nodup_nil
  | snoc named t ih =>
      rw [← List.concat_eq_append]
      exact ih.concat (named.next_notMem t)

/-- The files that the names lead to. -/
def madePaths (baseName : Bytes) (names : List Bytes) : List Bytes :=
  if (0 : UInt8) ∈ baseName then [cString baseName] else names

theorem madePaths_nodup {baseName : Bytes} {names : List Bytes} (named : Named baseName names) :
    (madePaths baseName names).Nodup := by
  unfold madePaths
  split
  · exact List.nodup_singleton _
  · exact named.nodup

theorem mem_madePaths {baseName : Bytes} {names : List Bytes} (named : Named baseName names) (some : names ≠ [])
    (path : Bytes) : path ∈ madePaths baseName names ↔ ∃ name ∈ names, cString name = path := by
  have leads {name : Bytes} (member : name ∈ names) :
      cString name = if (0 : UInt8) ∈ baseName then cString baseName else name := by
    obtain ⟨t, cnt, _, rfl⟩ := named.exists_cnt member
    split
    · rename_i zero
      exact cString_creatLogFileName_of_zero zero t cnt
    · rename_i clean
      exact cString_creatLogFileName clean t cnt
  by_cases zero : (0 : UInt8) ∈ baseName
  · rw [madePaths, if_pos zero, List.mem_singleton]
    constructor
    · rintro rfl
      obtain ⟨name, member⟩ := List.exists_mem_of_ne_nil names some
      exact ⟨name, member, (leads member).trans (if_pos zero)⟩
    · rintro ⟨name, member, rfl⟩
      exact (leads member).trans (if_pos zero)
  · rw [madePaths, if_neg zero]
    constructor
    · intro member
      exact ⟨path, member, (leads member).trans (if_neg zero)⟩
    · rintro ⟨name, member, rfl⟩
      rw [leads member, if_neg zero]
      exact member

/-! ## What the functions do when nothing fails -/

section Steps

variable {setup : Setup} {state : State}

/-- `InitLogFile` with a new file. -/
def State.rolled (setup : Setup) (t : Tm) (state : State) : State where
  ofs := state.ofs.reopen (cString (creatLogFileName setup.baseName t state.cnt))
  currentSize := ((state.ofs.reopen (cString (creatLogFileName setup.baseName t state.cnt))).content
    (cString (creatLogFileName setup.baseName t state.cnt))).length
  cnt := state.cnt + 1
  filename := creatLogFileName setup.baseName t state.cnt
  generated := state.generated ++ [creatLogFileName setup.baseName t state.cnt]

def State.prepared (setup : Setup) (t : Tm) (state : State) : State :=
  if state.due setup then state.rolled setup t else state

theorem initLogFile_eq {attempt : Attempt} (unfailed : state.ofs.failed = false) (opens : attempt.opens = true) :
    initLogFile setup attempt state = .ok (state.prepared setup attempt.now) := by
  unfold initLogFile State.prepared
  split
  · have stored : ∀ path, ((state.ofs.reopen path).file path).elim 0 List.length =
        ((state.ofs.reopen path).content path).length := by
      intro path
      rw [← AppendStream.stored_reopen]
      cases (state.ofs.reopen path).file path <;> rfl
    simp only [unfailed, opens, creatLogFileName_ne_nil, Bool.false_eq_true, if_false]
    rw [← AppendStream.reopen, if_neg (by simp), stored]
    rfl
  · rfl

theorem prepared_unfailed (setup : Setup) (unfailed : state.ofs.failed = false) (t : Tm) :
    (state.prepared setup t).ofs.failed = false := by
  unfold State.prepared
  split
  · exact AppendStream.reopen_failed _ _
  · exact unfailed

theorem prepared_opened (setup : Setup) (state : State) (t : Tm) :
    ∃ path, (state.prepared setup t).ofs.path = some path := by
  unfold State.prepared
  split
  · exact ⟨_, AppendStream.reopen_path _ _⟩
  · rename_i current
    simp only [State.due, Bool.or_eq_true, not_or, Option.isNone_iff_eq_none] at current
    exact Option.ne_none_iff_exists'.mp current.1

/-- What is flushed after the write is passed on like the rest. -/
theorem wrote_ofs (setup : Setup) (state : State) {call : Call} (writes : call.writes = true) :
    ∃ count, (state.wrote setup call).ofs = (state.ofs.write call.data call.passed true).pass count := by
  simp only [State.wrote, writes]
  split
  · exact ⟨_, rfl⟩
  · exact ⟨0, (AppendStream.pass_zero _).symm⟩

section Wrote

variable {call : Call} {path other : Bytes} (unfailed : state.ofs.failed = false)
  (opened : state.ofs.path = some path) (writes : call.writes = true)
include unfailed opened writes

theorem wrote_path : (state.wrote setup call).ofs.path = some path := by
  obtain ⟨count, passed⟩ := wrote_ofs setup state writes
  rw [passed, AppendStream.pass_path]
  exact AppendStream.write_path unfailed opened call.data call.passed

theorem wrote_unfailed : (state.wrote setup call).ofs.failed = false := by
  obtain ⟨count, passed⟩ := wrote_ofs setup state writes
  rw [passed, AppendStream.pass_failed]
  exact AppendStream.write_failed unfailed opened call.data call.passed

theorem wrote_created : (state.wrote setup call).ofs.created = state.ofs.created := by
  obtain ⟨count, passed⟩ := wrote_ofs setup state writes
  rw [passed, AppendStream.pass_created]
  exact AppendStream.write_created unfailed opened call.data call.passed

theorem isSome_wrote (other : Bytes) :
    ((state.wrote setup call).ofs.file other).isSome = (state.ofs.file other).isSome := by
  obtain ⟨count, passed⟩ := wrote_ofs setup state writes
  rw [passed, AppendStream.isSome_pass]
  exact AppendStream.isSome_write unfailed opened call.data call.passed other

theorem wrote_file_of_ne (different : other ≠ path) :
    (state.wrote setup call).ofs.file other = state.ofs.file other := by
  obtain ⟨count, passed⟩ := wrote_ofs setup state writes
  have elsewhere : (state.ofs.write call.data call.passed true).path ≠ some other := by
    rw [AppendStream.write_path unfailed opened]
    exact fun same => different (Option.some.inj same).symm
  rw [passed, AppendStream.pass_file_of_ne count elsewhere]
  exact AppendStream.write_file_of_ne unfailed opened call.data call.passed different

theorem content_wrote (attached : state.ofs.Attached) (other : Bytes) :
    (state.wrote setup call).ofs.content other = state.ofs.content other ++ if other = path then call.data else [] := by
  obtain ⟨count, passed⟩ := wrote_ofs setup state writes
  have stays := AppendStream.attached_write unfailed opened call.data call.passed attached
  rw [passed, AppendStream.content_pass stays]
  exact AppendStream.content_write unfailed opened call.data call.passed attached other

theorem wrote_pending (flushes : setup.flushLog = 1 ∨ setup.flushLog = 2) :
    (state.wrote setup call).ofs.pending = [] := by
  simp only [State.wrote, writes, flushes, if_true]
  exact AppendStream.pending_flush (AppendStream.write_path unfailed opened call.data call.passed)

end Wrote

theorem flush_eq {call : Call} (unfailed : state.ofs.failed = false) (succeeds : call.Succeeds) :
    flush setup call state =
      .ok (((state.prepared setup call.before.now).wrote setup call).prepared setup call.after.now) := by
  obtain ⟨opensBefore, writes, opensAfter⟩ := succeeds
  have ready := prepared_unfailed setup unfailed call.before.now
  obtain ⟨path, opened⟩ := prepared_opened setup state call.before.now
  have written := AppendStream.write_failed ready opened call.data call.passed
  have wrote := @wrote_unfailed setup _ call path ready opened writes
  have stays := @wrote_path setup _ call path ready opened writes
  rw [flush, initLogFile_eq unfailed opensBefore]
  simp only [bind, Except.bind, writes, written, Bool.false_eq_true, if_false]
  split
  · exact initLogFile_eq wrote opensAfter
  · rename_i below
    have current : ¬ ((state.prepared setup call.before.now).wrote setup call).due setup = true := by
      simp [State.due, stays, below]
    exact congrArg Except.ok (if_neg current).symm

end Steps

/-! ## How the files divide the stream -/

/-- What was flushed into a file that reached the limit with the last of it. -/
def Full (limit : Nat) (group : List Bytes) : Prop :=
  limit ≤ group.flatten.length ∧ group.dropLast.flatten.length < limit

/-- Nothing has been flushed. -/
structure Unbegun (initial : Bytes → Option Bytes) (state : State) : Prop where
  file : state.ofs.file = initial
  created : state.ofs.created = []
  path : state.ofs.path = none
  generated : state.generated = []

/-- The files that have been left hold the groups `earlier`, and the current one
holds `last`. -/
structure Underway (setup : Setup) (initial : Bytes → Option Bytes) (state : State) (older : List Bytes)
    (path : Bytes) (earlier : List (List Bytes)) (last : List Bytes) : Prop where
  opened : state.ofs.path = some path
  filename : path = cString state.filename
  recorded : state.filename ∈ state.generated
  created : state.ofs.created = older ++ [path]
  made : older ++ [path] = madePaths setup.baseName state.generated
  exist : ∀ other ∈ older ++ [path], (state.ofs.file other).isSome = true
  others : ∀ other, other ∉ older ++ [path] → state.ofs.file other = initial other
  contents : older.map state.ofs.content = earlier.map List.flatten
  content : state.ofs.content path = last.flatten
  full : ∀ group ∈ earlier, Full setup.maxSize group
  size : state.currentSize = last.flatten.length
  passed : setup.flushLog = 1 ∨ setup.flushLog = 2 → state.ofs.pending = []

section Dividing

variable {setup : Setup} {initial : Bytes → Option Bytes} {state : State} {older : List Bytes} {path : Bytes}
  {earlier : List (List Bytes)} {last flushed : List Bytes} {t : Tm}

/-- The first file. -/
theorem Unbegun.roll (unbegun : Unbegun initial state)
    (fresh : initial (cString (creatLogFileName setup.baseName t state.cnt)) = none) :
    Underway setup initial (state.rolled setup t) [] (cString (creatLogFileName setup.baseName t state.cnt)) []
      [] := by
  have attached : state.ofs.Attached := by simp [AppendStream.Attached, unbegun.path]
  have absent : state.ofs.file (cString (creatLogFileName setup.baseName t state.cnt)) = none := by
    rw [unbegun.file]
    exact fresh
  have empty : (state.rolled setup t).ofs.content (cString (creatLogFileName setup.baseName t state.cnt)) = [] := by
    refine (AppendStream.content_reopen attached _ _).trans ?_
    simp [AppendStream.content, absent, unbegun.path]
  refine ⟨AppendStream.reopen_path _ _, rfl, by simp [State.rolled], ?_, ?_, ?_, ?_, rfl, empty, by simp,
    congrArg List.length empty, ?_⟩
  · refine (AppendStream.reopen_created _ _).trans ?_
    simp [absent, unbegun.created]
  · simp only [State.rolled, unbegun.generated, List.nil_append, madePaths]
    split
    · rename_i zero
      rw [cString_creatLogFileName_of_zero zero]
    · rename_i clean
      rw [cString_creatLogFileName clean]
  · intro other member
    exact (AppendStream.isSome_reopen _ _ _).mpr (.inl (by simpa using member))
  · intro other outside
    refine (AppendStream.reopen_file_of_ne (by simpa using outside) (by simp [unbegun.path])).trans ?_
    rw [unbegun.file]
  · intro _
    exact AppendStream.reopen_pending _ _

namespace Underway

theorem attached (underway : Underway setup initial state older path earlier last) : state.ofs.Attached := by
  intro current here
  rw [underway.opened, Option.some.injEq] at here
  exact underway.exist current (by simp [here])

theorem path_notMem (underway : Underway setup initial state older path earlier last)
    (named : Named setup.baseName state.generated) : path ∉ older := by
  have distinct := madePaths_nodup named
  rw [← underway.made] at distinct
  intro member
  exact (List.nodup_append.mp distinct).2.2 path member path (by simp) rfl

/-- To open another file changes the content of none. -/
theorem content_rolled (underway : Underway setup initial state older path earlier last) (t : Tm) :
    (state.rolled setup t).ofs.content = state.ofs.content :=
  funext fun _ => AppendStream.content_reopen underway.attached _ _

theorem others_rolled (underway : Underway setup initial state older path earlier last) (t : Tm) {other : Bytes}
    (outside : other ∉ older ++ [path])
    (different : other ≠ cString (creatLogFileName setup.baseName t state.cnt)) :
    (state.rolled setup t).ofs.file other = initial other := by
  have elsewhere : state.ofs.path ≠ some other := by
    rw [underway.opened]
    intro same
    exact outside (by simp [Option.some.inj same])
  exact (AppendStream.reopen_file_of_ne different elsewhere).trans (underway.others other outside)

theorem exist_rolled (underway : Underway setup initial state older path earlier last) (t : Tm) {other : Bytes}
    (member : other ∈ older ++ [path] ∨ other = cString (creatLogFileName setup.baseName t state.cnt)) :
    ((state.rolled setup t).ofs.file other).isSome = true := by
  refine (AppendStream.isSome_reopen _ _ _).mpr ?_
  rcases member with before | newest
  · exact .inr (underway.exist other before)
  · exact .inl newest

/-- With a zero byte in the base name the file is opened again. -/
theorem rollSame (underway : Underway setup initial state older path earlier last)
    (zero : (0 : UInt8) ∈ setup.baseName) (t : Tm) :
    Underway setup initial (state.rolled setup t) older path earlier last := by
  have target : cString (creatLogFileName setup.baseName t state.cnt) = cString setup.baseName :=
    cString_creatLogFileName_of_zero zero t state.cnt
  have made := underway.made
  simp only [madePaths, zero, if_true] at made
  obtain ⟨rfl, rfl⟩ : older = [] ∧ path = cString setup.baseName := by
    cases older with
    | nil => exact ⟨rfl, by simpa using made⟩
    | cons first rest => simp at made
  have kept := underway.content_rolled t
  have present := underway.exist (cString setup.baseName) (by simp)
  refine ⟨?_, target.symm, by simp [State.rolled], ?_, ?_, ?_, ?_, underway.contents, ?_, underway.full, ?_, ?_⟩
  · exact (AppendStream.reopen_path _ _).trans (congrArg some target)
  · refine (AppendStream.reopen_created _ _).trans ?_
    rw [target, if_neg (by simpa using Option.isSome_iff_ne_none.mp present)]
    exact underway.created
  · simp [madePaths, zero]
  · intro other member
    exact underway.exist_rolled t (.inl member)
  · intro other outside
    exact underway.others_rolled t outside (by rw [target]; simpa using outside)
  · rw [kept]
    exact underway.content
  · change ((state.rolled setup t).ofs.content _).length = _
    rw [kept, target, underway.content]
  · intro _
    exact AppendStream.reopen_pending _ _

/-- Otherwise the new file is the next one. -/
theorem rollNew (underway : Underway setup initial state older path earlier last)
    (clean : (0 : UInt8) ∉ setup.baseName) (named : Named setup.baseName state.generated)
    (counted : state.cnt = state.generated.length) (t : Tm)
    (fresh : initial (cString (creatLogFileName setup.baseName t state.cnt)) = none)
    (full : Full setup.maxSize last) :
    Underway setup initial (state.rolled setup t) (older ++ [path]) (creatLogFileName setup.baseName t state.cnt)
      (earlier ++ [last]) [] := by
  have target := cString_creatLogFileName clean t state.cnt
  have made := underway.made
  simp only [madePaths, clean, if_false] at made
  have unmade : creatLogFileName setup.baseName t state.cnt ∉ older ++ [path] := by
    rw [made, counted]
    exact named.next_notMem t
  have absent : state.ofs.file (creatLogFileName setup.baseName t state.cnt) = none := by
    rw [underway.others _ unmade, ← target]
    exact fresh
  have elsewhere : state.ofs.path ≠ some (creatLogFileName setup.baseName t state.cnt) := by
    rw [underway.opened]
    intro same
    exact unmade (by simp [Option.some.inj same])
  have kept := underway.content_rolled t
  have empty : (state.rolled setup t).ofs.content (creatLogFileName setup.baseName t state.cnt) = [] := by
    rw [kept]
    simp [AppendStream.content, absent, elsewhere]
  refine ⟨?_, target.symm, by simp [State.rolled], ?_, ?_, ?_, ?_, ?_, empty, ?_, ?_, ?_⟩
  · exact (AppendStream.reopen_path _ _).trans (congrArg some target)
  · refine (AppendStream.reopen_created _ _).trans ?_
    rw [target, absent, underway.created]
    rfl
  · rw [made]
    simp [State.rolled, madePaths, clean]
  · intro other member
    rw [List.mem_append, List.mem_singleton, ← target] at member
    exact underway.exist_rolled t member
  · intro other outside
    rw [List.mem_append, not_or, List.mem_singleton, ← target] at outside
    exact underway.others_rolled t outside.1 outside.2
  · rw [kept, List.map_append, List.map_append, underway.contents, List.map_singleton, List.map_singleton,
      underway.content]
  · intro group member
    rcases List.mem_append.mp member with before | newest
    · exact underway.full group before
    · exact (List.mem_singleton.mp newest) ▸ full
  · exact congrArg List.length ((congrArg _ target).trans empty)
  · intro _
    exact AppendStream.reopen_pending _ _

theorem write (underway : Underway setup initial state older path earlier last)
    (named : Named setup.baseName state.generated) (unfailed : state.ofs.failed = false) {call : Call}
    (writes : call.writes = true) :
    Underway setup initial (state.wrote setup call) older path earlier (last ++ [call.data]) := by
  have opened := underway.opened
  have changed := @content_wrote setup state call path unfailed opened writes underway.attached
  have outside := underway.path_notMem named
  refine ⟨wrote_path unfailed opened writes, underway.filename, underway.recorded, ?_, underway.made, ?_, ?_, ?_, ?_,
    underway.full, ?_, ?_⟩
  · rw [wrote_created unfailed opened writes]
    exact underway.created
  · intro other member
    rw [isSome_wrote unfailed opened writes]
    exact underway.exist other member
  · intro other elsewhere
    have different : other ≠ path := by
      rintro rfl
      simp at elsewhere
    rw [wrote_file_of_ne unfailed opened writes different]
    exact underway.others other elsewhere
  · rw [← underway.contents]
    refine List.map_congr_left fun other member => ?_
    have different : other ≠ path := by
      rintro rfl
      exact outside member
    rw [changed other, if_neg different, List.append_nil]
  · rw [changed path, if_pos rfl, underway.content, List.flatten_append, List.flatten_singleton]
  · change state.currentSize + call.data.length = _
    rw [underway.size, List.flatten_append, List.flatten_singleton, List.length_append]
  · exact wrote_pending unfailed opened writes

end Underway

/-- Only a file that every name leads to is full between two calls. -/
structure Divided (setup : Setup) (initial : Bytes → Option Bytes) (state : State) (flushed : List Bytes) : Prop where
  groups : ∃ older path earlier last, Underway setup initial state older path earlier last ∧
    flushed = earlier.flatten ++ last
  room : (0 : UInt8) ∉ setup.baseName → state.currentSize < setup.maxSize

theorem fresh_of_rolled (fresh : ∀ name ∈ (state.rolled setup t).generated, initial (cString name) = none) :
    initial (cString (creatLogFileName setup.baseName t state.cnt)) = none :=
  fresh _ (by simp [State.rolled])

/-- `InitLogFile` before the write opens the first file or, in the case of a zero
byte, the same one. -/
theorem Divided.prepare
    (start : Unbegun initial state ∧ flushed = [] ∨ Divided setup initial state flushed)
    (positive : 0 < setup.maxSize)
    (fresh : ∀ name ∈ (state.prepared setup t).generated, initial (cString name) = none) :
    Divided setup initial (state.prepared setup t) flushed := by
  rcases start with ⟨unbegun, rfl⟩ | divided
  · have due : state.due setup = true := by simp [State.due, unbegun.path]
    rw [State.prepared, if_pos due] at fresh ⊢
    have underway := unbegun.roll (fresh_of_rolled fresh)
    refine ⟨⟨_, _, _, _, underway, rfl⟩, fun _ => ?_⟩
    rw [underway.size]
    exact positive
  · by_cases due : state.due setup = true
    · obtain ⟨older, path, earlier, last, underway, rfl⟩ := divided.groups
      have zero : (0 : UInt8) ∈ setup.baseName := by
        by_contra clean
        have below := divided.room clean
        simp only [State.due, underway.opened, Option.isNone_some, Bool.false_or, decide_eq_true_eq] at due
        omega
      rw [State.prepared, if_pos due]
      exact ⟨⟨_, _, _, _, underway.rollSame zero t, rfl⟩, absurd zero⟩
    · rw [State.prepared, if_neg due]
      exact divided

/-- `InitLogFile` after the write leaves a file that has become full. -/
theorem Underway.finish (underway : Underway setup initial state older path earlier last)
    (named : Named setup.baseName state.generated) (counted : state.cnt = state.generated.length)
    (positive : 0 < setup.maxSize)
    (room : (0 : UInt8) ∉ setup.baseName → last.dropLast.flatten.length < setup.maxSize)
    (fresh : ∀ name ∈ (state.prepared setup t).generated, initial (cString name) = none) :
    Divided setup initial (state.prepared setup t) (earlier.flatten ++ last) := by
  by_cases due : state.due setup = true
  · rw [State.prepared, if_pos due] at fresh ⊢
    by_cases zero : (0 : UInt8) ∈ setup.baseName
    · exact ⟨⟨_, _, _, _, underway.rollSame zero t, rfl⟩, absurd zero⟩
    · simp only [State.due, underway.opened, Option.isNone_some, Bool.false_or, decide_eq_true_eq,
        underway.size] at due
      have next := underway.rollNew zero named counted t (fresh_of_rolled fresh) ⟨due, room zero⟩
      refine ⟨⟨_, _, _, _, next, by simp⟩, fun _ => ?_⟩
      rw [next.size]
      exact positive
  · rw [State.prepared, if_neg due]
    refine ⟨⟨_, _, _, _, underway, rfl⟩, fun _ => ?_⟩
    simpa [State.due, underway.opened] using due

end Dividing

/-! ## Whole runs -/

/-- The files divide what was flushed so far, unless one of them was there
before. -/
structure Progress (setup : Setup) (initial : Bytes → Option Bytes) (state : State) (flushed : List Bytes) :
    Prop where
  unfailed : state.ofs.failed = false
  named : Named setup.baseName state.generated
  counted : state.cnt = state.generated.length
  divided : (∀ name ∈ state.generated, initial (cString name) = none) →
    Unbegun initial state ∧ flushed = [] ∨ Divided setup initial state flushed

section Runs

variable {setup : Setup} {initial : Bytes → Option Bytes} {state : State} {flushed : List Bytes}

theorem prepared_named (named : Named setup.baseName state.generated)
    (counted : state.cnt = state.generated.length) (t : Tm) :
    Named setup.baseName (state.prepared setup t).generated ∧
      (state.prepared setup t).cnt = (state.prepared setup t).generated.length := by
  unfold State.prepared
  split
  · simp only [State.rolled, counted, List.length_append, List.length_singleton, and_true]
    exact named.snoc t
  · exact ⟨named, counted⟩

theorem generated_subset_prepared (setup : Setup) (state : State) (t : Tm) :
    state.generated ⊆ (state.prepared setup t).generated := by
  unfold State.prepared
  split
  · exact List.subset_append_left _ _
  · exact List.Subset.refl _

theorem Progress.flush (progress : Progress setup initial state flushed) (positive : 0 < setup.maxSize) {call : Call}
    (succeeds : call.Succeeds) :
    ∃ after, RollingFileFlush.flush setup call state = .ok after ∧
      Progress setup initial after (flushed ++ [call.data]) := by
  refine ⟨_, flush_eq progress.unfailed succeeds, ?_⟩
  obtain ⟨opensBefore, writes, opensAfter⟩ := succeeds
  have ready := prepared_unfailed setup progress.unfailed call.before.now
  obtain ⟨path, opened⟩ := prepared_opened setup state call.before.now
  obtain ⟨named, counted⟩ := prepared_named progress.named progress.counted call.before.now
  obtain ⟨nextNamed, nextCounted⟩ := @prepared_named setup
    ((state.prepared setup call.before.now).wrote setup call) named counted call.after.now
  refine ⟨prepared_unfailed setup (wrote_unfailed ready opened writes) _, nextNamed, nextCounted, fun fresh => .inr ?_⟩
  have freshBefore : ∀ name ∈ (state.prepared setup call.before.now).generated, initial (cString name) = none :=
    fun name member => fresh name (generated_subset_prepared setup _ _ member)
  have started := progress.divided fun name member =>
    freshBefore name (generated_subset_prepared setup state _ member)
  have prepared := Divided.prepare started positive freshBefore
  obtain ⟨older, current, earlier, last, underway, rfl⟩ := prepared.groups
  have written := underway.write named ready writes
  have finished := written.finish named counted positive ?_ fresh
  · rwa [List.append_assoc]
  · intro clean
    rw [List.dropLast_concat, ← underway.size]
    exact prepared.room clean

theorem Progress.flushAll (positive : 0 < setup.maxSize) {calls : List Call}
    (succeed : ∀ call ∈ calls, call.Succeeds) (progress : Progress setup initial state flushed) :
    ∃ after, RollingFileFlush.flushAll setup state calls = .ok after ∧
      Progress setup initial after (flushed ++ calls.map Call.data) := by
  induction calls generalizing state flushed with
  | nil => exact ⟨state, rfl, by simpa using progress⟩
  | cons call rest ih =>
      obtain ⟨next, flushedCall, reached⟩ := progress.flush positive (succeed call (by simp))
      obtain ⟨after, flushedRest, finished⟩ := ih (fun call member => succeed call (by simp [member])) reached
      refine ⟨after, ?_, by simpa using finished⟩
      rw [RollingFileFlush.flushAll, flushedCall]
      exact flushedRest

theorem progress_init (setup : Setup) (file : Bytes → Option Bytes) :
    Progress setup file (init setup file) [] where
  unfailed := rfl
  named := .nil
  counted := rfl
  divided _ := .inl ⟨⟨rfl, rfl, rfl, rfl⟩, rfl⟩

end Runs

/-- The created files, oldest first, divide what was flushed into groups of whole
flushes.  Every file but the newest reached `max_size_` with the last of its
flushes.  A file that was left is on the disk as a whole, and so is the current
one if the stream is flushed after each write. -/
structure Partitioned (setup : Setup) (initial : Bytes → Option Bytes) (state : State) (flushed : List Bytes) :
    Prop where
  names : state.generated.Nodup
  created : state.ofs.created.Nodup
  files : ∀ path, path ∈ state.ofs.created ↔ ∃ name ∈ state.generated, cString name = path
  others : ∀ path, path ∉ state.ofs.created → state.ofs.file path = initial path
  stream : (state.ofs.created.map state.ofs.content).flatten = flushed.flatten
  groups : ∃ groups : List (List Bytes), state.ofs.created.map state.ofs.content = groups.map List.flatten ∧
    groups.flatten = flushed ∧ ∀ group ∈ groups.dropLast, Full setup.maxSize group
  current : flushed ≠ [] → ∃ path, state.ofs.path = some path ∧ path = cString state.filename ∧
    state.ofs.created.getLast? = some path ∧ state.currentSize = (state.ofs.content path).length
  stored : ∀ path ∈ state.ofs.created, state.ofs.path ≠ some path ∨ setup.flushLog = 1 ∨ setup.flushLog = 2 →
    state.ofs.file path = some (state.ofs.content path)

section Result

variable {setup : Setup} {initial : Bytes → Option Bytes} {state : State} {flushed : List Bytes}

theorem Unbegun.partitioned (unbegun : Unbegun initial state) : Partitioned setup initial state [] where
  names := by simp [unbegun.generated]
  created := by simp [unbegun.created]
  files := by simp [unbegun.created, unbegun.generated]
  others := by simp [unbegun.file]
  stream := by simp [unbegun.created]
  groups := ⟨[], by simp [unbegun.created]⟩
  current some := absurd rfl some
  stored := by simp [unbegun.created]

theorem Underway.stored {older : List Bytes} {path : Bytes} {earlier : List (List Bytes)} {last : List Bytes}
    (underway : Underway setup initial state older path earlier last) {other : Bytes}
    (member : other ∈ older ++ [path])
    (passed : state.ofs.path ≠ some other ∨ setup.flushLog = 1 ∨ setup.flushLog = 2) :
    state.ofs.file other = some (state.ofs.content other) := by
  obtain ⟨bytes, present⟩ := Option.isSome_iff_exists.mp (underway.exist other member)
  rcases passed with left | flushes
  · simp [AppendStream.content, present, left]
  · simp [AppendStream.content, present, underway.passed flushes]

theorem Divided.partitioned (divided : Divided setup initial state flushed)
    (named : Named setup.baseName state.generated) : Partitioned setup initial state flushed := by
  obtain ⟨older, path, earlier, last, underway, rfl⟩ := divided.groups
  have created := underway.created
  have contents : state.ofs.created.map state.ofs.content = (earlier ++ [last]).map List.flatten := by
    rw [created, List.map_append, List.map_append, underway.contents, List.map_singleton, List.map_singleton,
      underway.content]
  refine ⟨named.nodup, ?_, ?_, ?_, ?_, ?_, ?_, ?_⟩
  · rw [created, underway.made]
    exact madePaths_nodup named
  · rw [created, underway.made]
    exact mem_madePaths named (List.ne_nil_of_mem underway.recorded)
  · rw [created]
    exact underway.others
  · rw [contents, ← List.flatten_flatten]
    simp
  · refine ⟨earlier ++ [last], contents, by simp, ?_⟩
    rw [List.dropLast_concat]
    exact underway.full
  · intro _
    refine ⟨path, underway.opened, underway.filename, by simp [created], ?_⟩
    rw [underway.size, underway.content]
  · rw [created]
    exact fun other member => underway.stored member

end Result

/-- Whatever the clock shows and the stream holds back, the files that a
`RollingFileFlush` creates partition the stream of what is flushed. -/
theorem rolling_files_partition_stream (setup : Setup) (positive : 0 < setup.maxSize)
    (file : Bytes → Option Bytes) (calls : List Call) (succeed : ∀ call ∈ calls, call.Succeeds) :
    ∃ state, flushAll setup (init setup file) calls = .ok state ∧
      ((∀ name ∈ state.generated, file (cString name) = none) →
        Partitioned setup file state (calls.map Call.data)) := by
  obtain ⟨state, ran, progress⟩ := (progress_init setup file).flushAll positive succeed
  refine ⟨state, ran, fun fresh => ?_⟩
  rcases progress.divided fresh with ⟨unbegun, none⟩ | divided
  · rw [List.nil_append] at none
    rw [none]
    exact unbegun.partitioned
  · exact divided.partitioned progress.named

/-- The first second of 1900. -/
def epoch : Tm := ⟨0, 0, 1, 0, 0, 0⟩

/-- A call at that time whose data all stay in the stream. -/
def held (data : Bytes) : Call := ⟨data, ⟨epoch, true⟩, true, 0, ⟨epoch, true⟩⟩

/-- At a limit of three bytes, two flushes of two bytes fill the first file and
the third goes to the second. -/
theorem three_flushes_fill_two_files :
    (flushAll ⟨utf8 "log", 3, 0⟩ (init ⟨utf8 "log", 3, 0⟩ fun _ => none) [held [1, 2], held [3, 4], held [5]]).map
        (fun state => state.ofs.created.map state.ofs.content) = .ok [[1, 2, 3, 4], [5]] ∧
      ∃ state, flushAll ⟨utf8 "log", 3, 0⟩ (init ⟨utf8 "log", 3, 0⟩ fun _ => none)
          [held [1, 2], held [3, 4], held [5]] = .ok state ∧
        Partitioned ⟨utf8 "log", 3, 0⟩ (fun _ => none) state [[1, 2], [3, 4], [5]] := by
  obtain ⟨state, ran, partitioned⟩ := rolling_files_partition_stream ⟨utf8 "log", 3, 0⟩ (by decide) (fun _ => none)
    [held [1, 2], held [3, 4], held [5]] (by simp [held, Call.Succeeds])
  exact ⟨rfl, state, ran, partitioned fun _ _ => rfl⟩

end RollingFileFlush

end TaskHive.LogSystem
