import TaskHive.LogSystem.RollingFile

namespace TaskHive.LogSystem

open Wire

/-! # The sinks of a logger

All sinks of a process share `std::cout` and the file system.  `StdoutFlush`
writes to the one, `FileFlush` and `RollingFileFlush` through streams of their
own to the other; a `RollingFileFlush` also prints a line of its own with every
call. -/

/-- `std::cout`.  It does not throw: after a failure it drops what it is given. -/
structure Console where
  output : Bytes
  failed : Bool := false

def Console.write (succeeds : Bool) (text : Bytes) (console : Console) : Console :=
  if console.failed = true ∨ succeeds = false then { console with failed := true }
  else { console with output := console.output ++ text }

structure Shared where
  cout : Console
  file : Bytes → Option Bytes

/-- What a call of `Flush` meets, as in `RollingFileFlush.Call`, and whether
`std::cout` takes what is printed beside the data. -/
structure Meeting where
  prints : Bool
  before : RollingFileFlush.Attempt
  writes : Bool
  passed : Nat
  after : RollingFileFlush.Attempt

def Meeting.call (meeting : Meeting) (data : Bytes) : RollingFileFlush.Call where
  data
  before := meeting.before
  writes := meeting.writes
  passed := meeting.passed
  after := meeting.after

structure Meeting.Succeeds (meeting : Meeting) : Prop where
  prints : meeting.prints = true
  before : meeting.before.opens = true
  writes : meeting.writes = true
  after : meeting.after.opens = true

instance (meeting : Meeting) : Decidable meeting.Succeeds :=
  decidable_of_iff
    (meeting.prints = true ∧ meeting.before.opens = true ∧ meeting.writes = true ∧ meeting.after.opens = true)
    ⟨fun all => ⟨all.1, all.2.1, all.2.2.1, all.2.2.2⟩,
      fun succeeds => ⟨succeeds.prints, succeeds.before, succeeds.writes, succeeds.after⟩⟩

/-- The state finds this file system in place of the one it saw last. -/
def RollingFileFlush.State.seeing (file : Bytes → Option Bytes) (state : State) : State :=
  { state with ofs := state.ofs.seeing file }

/-- `StdoutFlush`, `FileFlush` and `RollingFileFlush`.  Between two calls the
file system inside a stream is the one that its last call left. -/
inductive Sink where
  | stdout
  | file (path : Bytes) (flushLog : Nat) (ofs : AppendStream Bytes UInt8)
  | rolling (setup : RollingFileFlush.Setup) (state : RollingFileFlush.State)

/-- The constructor of `FileFlush`. -/
def FileFlush.new (filename : Bytes) (flushLog : Nat) (file : Bytes → Option Bytes) (opens : Bool) : Sink :=
  .file (cString filename) flushLog (({ file } : AppendStream Bytes UInt8).openAppend (cString filename) opens)

def FileFlush.flush (flushLog : Nat) (meeting : Meeting) (data : Bytes) (ofs : AppendStream Bytes UInt8) :
    Except String (AppendStream Bytes UInt8) :=
  let written := ofs.write data meeting.passed meeting.writes
  if written.failed then .error "ofstream write fail"
  else .ok (if flushLog = 1 ∨ flushLog = 2 then written.flush else written)

def rollingFlushLine : Bytes := utf8 "RollingFileFlush::Flush\n"

/-- An exception ends the process, and with it what the sinks share. -/
def Sink.flush (meeting : Meeting) (data : Bytes) (shared : Shared) : Sink → Except String (Sink × Shared)
  | .stdout => .ok (.stdout, { shared with cout := shared.cout.write meeting.writes data })
  | .file path flushLog ofs =>
      (FileFlush.flush flushLog meeting data (ofs.seeing shared.file)).map fun ofs =>
        (.file path flushLog ofs, { shared with file := ofs.file })
  | .rolling setup state =>
      (RollingFileFlush.flush setup (meeting.call data) (state.seeing shared.file)).map fun state =>
        (.rolling setup state,
          { cout := shared.cout.write meeting.prints rollingFlushLine, file := state.ofs.file })

/-! ## A rolling file among other files -/

namespace RollingFileFlush

/-- The files that the sink may ever open. -/
def places (setup : Setup) : Set Bytes :=
  { path | ∃ t cnt, path = cString (creatLogFileName setup.baseName t cnt) }

noncomputable def State.overlaid (setup : Setup) (shared : Bytes → Option Bytes) (state : State) : State :=
  { state with ofs := state.ofs.overlaid (places setup) shared }

section Shared

variable {setup : Setup} {state : State} (shared : Bytes → Option Bytes)

theorem name_mem_places (setup : Setup) (t : Tm) (cnt : Nat) :
    cString (creatLogFileName setup.baseName t cnt) ∈ places setup := ⟨t, cnt, rfl⟩

theorem reopen_overlaid {places : Set Bytes} {ofs : AppendStream Bytes UInt8} (within : ofs.Within places)
    {path : Bytes} (inside : path ∈ places) :
    (ofs.overlaid places shared).reopen path = (ofs.reopen path).overlaid places shared := by
  rw [AppendStream.reopen, AppendStream.close_overlaid shared within, AppendStream.openAppend_overlaid shared inside]
  rfl

theorem rolled_overlaid (within : state.ofs.Within (places setup)) (t : Tm) :
    (state.overlaid setup shared).rolled setup t = (state.rolled setup t).overlaid setup shared := by
  have inside := name_mem_places setup t state.cnt
  have reopened := reopen_overlaid shared within inside
  have content : ((state.ofs.reopen (cString (creatLogFileName setup.baseName t state.cnt))).overlaid
      (places setup) shared).content (cString (creatLogFileName setup.baseName t state.cnt)) =
      (state.ofs.reopen (cString (creatLogFileName setup.baseName t state.cnt))).content
        (cString (creatLogFileName setup.baseName t state.cnt)) :=
    AppendStream.content_overlaid shared _ inside
  simp only [State.rolled, State.overlaid, reopened, content]

theorem within_rolled (setup : Setup) (state : State) (t : Tm) :
    (state.rolled setup t).ofs.Within (places setup) :=
  (AppendStream.within_close state.ofs).openAppend (name_mem_places setup t state.cnt) true

theorem prepared_overlaid (within : state.ofs.Within (places setup)) (t : Tm) :
    (state.overlaid setup shared).prepared setup t = (state.prepared setup t).overlaid setup shared := by
  have due : (state.overlaid setup shared).due setup = state.due setup := rfl
  rw [State.prepared, State.prepared, due]
  split
  · exact rolled_overlaid shared within t
  · rfl

theorem within_prepared (within : state.ofs.Within (places setup)) (t : Tm) :
    (state.prepared setup t).ofs.Within (places setup) := by
  unfold State.prepared
  split
  · exact within_rolled setup state t
  · exact within

theorem wrote_overlaid (within : state.ofs.Within (places setup)) (call : Call) :
    (state.overlaid setup shared).wrote setup call = (state.wrote setup call).overlaid setup shared := by
  have written := AppendStream.write_overlaid shared within call.data call.passed call.writes
  have stays := within.write call.data call.passed call.writes
  simp only [State.wrote, State.overlaid, written, AppendStream.flush_overlaid shared stays]
  split <;> rfl

theorem within_wrote (within : state.ofs.Within (places setup)) (call : Call) :
    (state.wrote setup call).ofs.Within (places setup) := by
  have stays := within.write call.data call.passed call.writes
  simp only [State.wrote]
  split
  · exact stays.pass _
  · exact stays

/-- In a file system that others use as well, the sink does on its places what
it does alone. -/
theorem flush_overlaid (within : state.ofs.Within (places setup)) (unfailed : state.ofs.failed = false) {call : Call}
    (succeeds : call.Succeeds) :
    ∃ after, flush setup call state = .ok after ∧ after.ofs.Within (places setup) ∧
      flush setup call (state.overlaid setup shared) = .ok (after.overlaid setup shared) := by
  have ready := within_prepared within call.before.now
  have wrote := within_wrote ready call
  have alsoUnfailed : (state.overlaid setup shared).ofs.failed = false := unfailed
  refine ⟨_, flush_eq unfailed succeeds, within_prepared wrote call.after.now, ?_⟩
  rw [flush_eq alsoUnfailed succeeds, prepared_overlaid shared within, wrote_overlaid shared ready,
    prepared_overlaid shared wrote]

theorem State.overlaid_eq_seeing {shared : Bytes → Option Bytes}
    (found : ∀ path ∈ places setup, shared path = state.ofs.file path) :
    state.overlaid setup shared = state.seeing shared := by
  rw [State.overlaid, AppendStream.overlaid_eq_seeing found]
  rfl

end Shared

end RollingFileFlush

theorem FileFlush.flush_eq (flushLog : Nat) {meeting : Meeting} (succeeds : meeting.Succeeds)
    {ofs : AppendStream Bytes UInt8} {path : Bytes} (unfailed : ofs.failed = false) (opened : ofs.path = some path)
    (data : Bytes) :
    ∃ count, FileFlush.flush flushLog meeting data ofs = .ok ((ofs.write data meeting.passed true).pass count) := by
  have written := AppendStream.write_failed unfailed opened data meeting.passed
  by_cases flushes : flushLog = 1 ∨ flushLog = 2
  · refine ⟨(ofs.write data meeting.passed true).pending.length, ?_⟩
    rw [FileFlush.flush, succeeds.writes, written, if_neg Bool.false_ne_true, if_pos flushes]
    rfl
  · refine ⟨0, ?_⟩
    rw [FileFlush.flush, succeeds.writes, written, if_neg Bool.false_ne_true, if_neg flushes, AppendStream.pass_zero]

theorem FileFlush.flush_overlaid (flushLog : Nat) {meeting : Meeting} (data : Bytes)
    (shared : Bytes → Option Bytes) {ofs : AppendStream Bytes UInt8} {places : Set Bytes} (within : ofs.Within places) :
    FileFlush.flush flushLog meeting data (ofs.overlaid places shared) =
      (FileFlush.flush flushLog meeting data ofs).map (AppendStream.overlaid places shared) := by
  have written := AppendStream.write_overlaid shared within data meeting.passed meeting.writes
  have stays := within.write data meeting.passed meeting.writes
  have failed : ((ofs.write data meeting.passed meeting.writes).overlaid places shared).failed =
      (ofs.write data meeting.passed meeting.writes).failed := rfl
  simp only [FileFlush.flush, written, failed, AppendStream.flush_overlaid shared stays]
  split
  · rfl
  · split <;> rfl

/-- One more chunk for a file that nobody else writes to. -/
theorem FileFlush.flush_shared (flushLog : Nat) {meeting : Meeting} (succeeds : meeting.Succeeds) (data : Bytes)
    {shared : Bytes → Option Bytes} {ofs : AppendStream Bytes UInt8} {path : Bytes} (unfailed : ofs.failed = false)
    (opened : ofs.path = some path) (attached : ofs.Attached)
    (found : ∀ other ∈ ({path} : Set Bytes), shared other = ofs.file other) :
    ∃ after : AppendStream Bytes UInt8,
      FileFlush.flush flushLog meeting data (ofs.seeing shared) = .ok (after.overlaid {path} shared) ∧
      after.failed = false ∧ after.path = some path ∧ after.Attached ∧
      after.content path = ofs.content path ++ data := by
  have within : ofs.Within {path} := by
    intro other here
    rw [opened, Option.some.injEq] at here
    exact here.symm
  obtain ⟨count, flushed⟩ := FileFlush.flush_eq flushLog succeeds unfailed opened data
  have openedWrite := AppendStream.write_path unfailed opened data meeting.passed
  have attachedWrite := AppendStream.attached_write unfailed opened data meeting.passed attached
  refine ⟨(ofs.write data meeting.passed true).pass count, ?_, ?_, ?_, ?_, ?_⟩
  · rw [← AppendStream.overlaid_eq_seeing found, FileFlush.flush_overlaid flushLog data shared within, flushed]
    rfl
  · rw [AppendStream.pass_failed, AppendStream.write_failed unfailed opened]
  · rw [AppendStream.pass_path, openedWrite]
  · intro other here
    rw [AppendStream.pass_path] at here
    rw [AppendStream.isSome_pass]
    exact attachedWrite other here
  · rw [AppendStream.content_pass attachedWrite, AppendStream.content_write unfailed opened _ _ attached, if_pos rfl]

/-! ## What a sink has been given -/

def Sink.places : Sink → Set Bytes
  | .stdout => ∅
  | .file path _ _ => {path}
  | .rolling setup _ => RollingFileFlush.places setup

/-- No file is a place of both sinks. -/
def Sink.Apart (sink other : Sink) : Prop := ∀ path ∈ sink.places, path ∉ other.places

def Sink.seeing (file : Bytes → Option Bytes) : Sink → Sink
  | .stdout => .stdout
  | .file path flushLog ofs => .file path flushLog (ofs.seeing file)
  | .rolling setup state => .rolling setup (state.seeing file)

/-- The file system that the sink left. -/
def Sink.left : Sink → Bytes → Option Bytes
  | .stdout => fun _ => none
  | .file _ _ ofs => ofs.file
  | .rolling _ state => state.ofs.file

/-- A sink that had the file system `initial` to itself was `first` before the
chunks were flushed into it.  What goes to `std::cout` is accounted for there. -/
inductive Sink.Alone (initial : Bytes → Option Bytes) (chunks : List Bytes) : Sink → Sink → Prop where
  | stdout : Alone initial chunks .stdout .stdout
  | file (path : Bytes) (flushLog : Nat) (first now : AppendStream Bytes UInt8) (unfailed : now.failed = false)
      (opened : now.path = some path) (attached : now.Attached)
      (content : now.content path = (first.seeing initial).content path ++ chunks.flatten) :
      Alone initial chunks (.file path flushLog first) (.file path flushLog now)
  | rolling (setup : RollingFileFlush.Setup) (positive : 0 < setup.maxSize) (first now : RollingFileFlush.State)
      (within : now.ofs.Within (RollingFileFlush.places setup))
      (progress : RollingFileFlush.Progress setup initial now chunks) :
      Alone initial chunks (.rolling setup first) (.rolling setup now)

/-- In the file system `file`, which it shares, the sink stands as it would
alone. -/
structure Sink.StandsAs (alone : Sink) (file : Bytes → Option Bytes) (now : Sink) : Prop where
  same : now.seeing file = alone.seeing file
  places : ∀ path ∈ alone.places, file path = alone.left path

def Sink.Holds (initial : Bytes → Option Bytes) (chunks : List Bytes) (first : Sink) (file : Bytes → Option Bytes)
    (now : Sink) : Prop :=
  ∃ alone, Sink.Alone initial chunks first alone ∧ alone.StandsAs file now

@[simp] theorem Sink.seeing_seeing (file other : Bytes → Option Bytes) (sink : Sink) :
    (sink.seeing file).seeing other = sink.seeing other := by
  cases sink <;> rfl

/-- What the sink gives to `std::cout`. -/
def Sink.echo (data : Bytes) : Sink → Bytes
  | .stdout => data
  | .file _ _ _ => []
  | .rolling _ _ => rollingFlushLine

theorem Sink.echo_seeing (file : Bytes → Option Bytes) (data : Bytes) (sink : Sink) :
    (sink.seeing file).echo data = sink.echo data := by
  cases sink <;> rfl

section Flush

variable {initial : Bytes → Option Bytes} {chunks : List Bytes} {first alone now : Sink} {shared : Shared}
  {meeting : Meeting} {data : Bytes}

theorem Console.write_true {console : Console} (unfailed : console.failed = false) (text : Bytes) :
    console.write true text = { output := console.output ++ text } := by
  simp [Console.write, unfailed]

theorem Sink.flush_cout (succeeds : meeting.Succeeds) (unfailed : shared.cout.failed = false) {after : Sink}
    {left : Shared} (flushed : now.flush meeting data shared = .ok (after, left)) :
    left.cout = { output := shared.cout.output ++ now.echo data } := by
  cases now with
  | stdout =>
      cases flushed
      rw [succeeds.writes]
      exact Console.write_true unfailed data
  | file path flushLog ofs =>
      rw [Sink.flush] at flushed
      cases result : FileFlush.flush flushLog meeting data (ofs.seeing shared.file) with
      | error reason =>
          rw [result] at flushed
          cases flushed
      | ok written =>
          rw [result] at flushed
          cases flushed
          rw [Sink.echo, List.append_nil, ← unfailed]
  | rolling setup state =>
      rw [Sink.flush] at flushed
      cases result : RollingFileFlush.flush setup (meeting.call data) (state.seeing shared.file) with
      | error reason =>
          rw [result] at flushed
          cases flushed
      | ok written =>
          rw [result] at flushed
          cases flushed
          rw [succeeds.prints]
          exact Console.write_true unfailed rollingFlushLine

theorem Sink.Alone.places_eq (held : Sink.Alone initial chunks first alone) : alone.places = first.places := by
  cases held <;> rfl

theorem Sink.Alone.echo_eq (held : Sink.Alone initial chunks first alone) (data : Bytes) :
    alone.echo data = first.echo data := by
  cases held <;> rfl

theorem Sink.Holds.echo_eq {file : Bytes → Option Bytes} (holds : Sink.Holds initial chunks first file now)
    (data : Bytes) : now.echo data = first.echo data := by
  obtain ⟨alone, held, stands⟩ := holds
  rw [← held.echo_eq, ← now.echo_seeing file, stands.same, Sink.echo_seeing]

/-- What others do elsewhere does not touch the sink. -/
theorem Sink.Holds.elsewhere {file other : Bytes → Option Bytes} (holds : Sink.Holds initial chunks first file now)
    (kept : ∀ path ∈ first.places, other path = file path) : Sink.Holds initial chunks first other now := by
  obtain ⟨alone, held, stands⟩ := holds
  refine ⟨alone, held, ?_, ?_⟩
  · rw [← now.seeing_seeing file, stands.same, Sink.seeing_seeing]
  · intro path inside
    rw [kept path (held.places_eq ▸ inside)]
    exact stands.places path inside

/-- The chunk goes to the places of the sink and nowhere else. -/
theorem Sink.Holds.flush (holds : Sink.Holds initial chunks first shared.file now) (succeeds : meeting.Succeeds)
    (data : Bytes) :
    ∃ after left, now.flush meeting data shared = .ok (after, left) ∧
      Sink.Holds initial (chunks ++ [data]) first left.file after ∧
      ∀ path, path ∉ first.places → left.file path = shared.file path := by
  obtain ⟨alone, held, same, found⟩ := holds
  cases held with
  | stdout =>
      cases now with
      | stdout => exact ⟨_, _, rfl, ⟨.stdout, .stdout, rfl, by simp [Sink.places]⟩, fun _ _ => rfl⟩
      | file | rolling => cases same
  | file path flushLog before alone unfailed opened attached content =>
      cases now with
      | stdout | rolling => cases same
      | file place mode ofs =>
          rw [Sink.seeing, Sink.seeing, Sink.file.injEq] at same
          obtain ⟨rfl, rfl, same⟩ := same
          obtain ⟨after, flushed, afterUnfailed, afterOpened, afterAttached, afterContent⟩ :=
            FileFlush.flush_shared mode succeeds data unfailed opened attached found
          rw [Sink.flush, same, flushed]
          refine ⟨_, _, rfl, ⟨.file place mode after, ?_, rfl, ?_⟩, ?_⟩
          · refine .file place mode before after afterUnfailed afterOpened afterAttached ?_
            rw [afterContent, content, List.append_assoc, List.flatten_append, List.flatten_singleton]
          · intro path inside
            exact AppendStream.overlay_of_mem _ _ inside
          · intro path outside
            exact AppendStream.overlay_of_notMem _ _ outside
  | rolling setup positive before alone within progress =>
      cases now with
      | stdout | file => cases same
      | rolling design state =>
          rw [Sink.seeing, Sink.seeing, Sink.rolling.injEq] at same
          obtain ⟨rfl, same⟩ := same
          have accepted : (meeting.call data).Succeeds := ⟨succeeds.before, succeeds.writes, succeeds.after⟩
          obtain ⟨after, flushed, stays, together⟩ :=
            RollingFileFlush.flush_overlaid shared.file within progress.unfailed accepted
          obtain ⟨_, again, reached⟩ := progress.flush positive accepted
          rw [flushed, Except.ok.injEq] at again
          subst again
          rw [Sink.flush, same, ← RollingFileFlush.State.overlaid_eq_seeing found, together]
          refine ⟨_, _, rfl, ⟨.rolling design after, .rolling design positive before after stays reached, rfl, ?_⟩, ?_⟩
          · intro path inside
            exact AppendStream.overlay_of_mem _ _ inside
          · intro path outside
            exact AppendStream.overlay_of_notMem _ _ outside

end Flush

end TaskHive.LogSystem
