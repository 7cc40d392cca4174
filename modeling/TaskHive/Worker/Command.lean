import TaskHive.Wire.Text
import TaskHive.Worker.ExecTask

namespace TaskHive.Worker

open TaskHive.Wire

/-! # `exec_cmd`

The output of a command is read in pieces of at most 127 bytes and put together
again as C strings.  The caller only sees the text that comes of it: an empty
one is a failure. -/

/-! ## Reading the pipe -/

/-- A line, or as much of it as there is room for. -/
def takeLine : Nat → Bytes → Bytes × Bytes
  | 0, stream => ([], stream)
  | _ + 1, [] => ([], [])
  | room + 1, byte :: stream =>
      if byte = 10 then ([byte], stream)
      else (byte :: (takeLine room stream).1, (takeLine room stream).2)

/-- `fgets(buffer, size, pipe)`: the buffer, which ends in a zero byte, and what
is left in the pipe; `none` is the null pointer at its end. -/
def fgets (size : Nat) (stream : Bytes) : Option (Bytes × Bytes) :=
  if stream = [] then none else some (takeLine (size - 1) stream)

theorem takeLine_append (room : Nat) (stream : Bytes) :
    (takeLine room stream).1 ++ (takeLine room stream).2 = stream := by
  induction stream generalizing room with
  | nil => cases room <;> rfl
  | cons byte stream ih =>
      cases room with
      | zero => rfl
      | succ room =>
          simp only [takeLine]
          split
          · rfl
          · exact congrArg (byte :: ·) (ih room)

/-- Every call takes something out of the pipe. -/
theorem fgets_eq_some {stream chunk rest : Bytes} (read : fgets 128 stream = some (chunk, rest)) :
    stream = chunk ++ rest ∧ chunk ≠ [] := by
  unfold fgets at read
  split at read
  · cases read
  · rename_i nonempty
    have taken := Option.some.inj read
    obtain ⟨byte, stream, rfl⟩ := List.exists_cons_of_ne_nil nonempty
    have whole := takeLine_append (128 - 1) (byte :: stream)
    rw [taken] at whole
    refine ⟨whole.symm, ?_⟩
    rintro rfl
    simp only [takeLine] at taken
    split at taken <;> cases taken

theorem fgets_eq_none {stream : Bytes} (finished : fgets 128 stream = none) : stream = [] := by
  unfold fgets at finished
  split at finished
  · assumption
  · cases finished

/-- The loop of `exec_cmd`: each buffer is appended as a C string. -/
def readPipe (stream result : Bytes) : Bytes :=
  match _read : fgets 128 stream with
  | none => result
  | some (chunk, rest) => readPipe rest (result ++ cString chunk)
termination_by stream.length
decreasing_by
  obtain ⟨rfl, nonempty⟩ := fgets_eq_some _read
  have positive := List.length_pos_iff.mpr nonempty
  rw [List.length_append]
  omega

theorem readPipe_of_none {stream : Bytes} (finished : fgets 128 stream = none) (result : Bytes) :
    readPipe stream result = result := by
  rw [readPipe]
  split
  · rfl
  · rename_i read
    rw [finished] at read
    cases read

theorem readPipe_of_some {stream chunk rest : Bytes} (read : fgets 128 stream = some (chunk, rest)) (result : Bytes) :
    readPipe stream result = readPipe rest (result ++ cString chunk) := by
  rw [readPipe]
  split
  · rename_i finished
    rw [read] at finished
    cases finished
  · rename_i again
    rw [read] at again
    cases again
    rfl

theorem length_cString_lt {bytes : Bytes} (zero : (0 : UInt8) ∈ bytes) : (cString bytes).length < bytes.length := by
  refine Nat.lt_of_le_of_ne (cString_isPrefix bytes).length_le fun same => ?_
  have whole := (cString_isPrefix bytes).eq_of_length same
  exact zero_notMem_cString bytes (by rw [whole]; exact zero)

/-- Without a zero byte the pieces give the whole output. -/
theorem readPipe_of_clean {stream : Bytes} (clean : (0 : UInt8) ∉ stream) (result : Bytes) :
    readPipe stream result = result ++ stream := by
  induction stream, result using readPipe.induct with
  | case1 stream result finished =>
      rw [readPipe_of_none finished, fgets_eq_none finished, List.append_nil]
  | case2 stream result chunk rest read ih =>
      obtain ⟨rfl, _⟩ := fgets_eq_some read
      rw [List.mem_append, not_or] at clean
      rw [readPipe_of_some read, ih clean.2, cString_eq_self clean.1, List.append_assoc]

theorem length_readPipe_le (stream result : Bytes) :
    (readPipe stream result).length ≤ result.length + stream.length := by
  induction stream, result using readPipe.induct with
  | case1 stream result finished =>
      rw [readPipe_of_none finished]
      omega
  | case2 stream result chunk rest read ih =>
      obtain ⟨rfl, _⟩ := fgets_eq_some read
      have shorter := (cString_isPrefix chunk).length_le
      rw [readPipe_of_some read]
      simp only [List.length_append] at ih ⊢
      omega

/-- What follows a zero byte in its piece is lost. -/
theorem length_readPipe_lt {stream : Bytes} (zero : (0 : UInt8) ∈ stream) (result : Bytes) :
    (readPipe stream result).length < result.length + stream.length := by
  induction stream, result using readPipe.induct with
  | case1 stream result finished =>
      rw [fgets_eq_none finished] at zero
      cases zero
  | case2 stream result chunk rest read ih =>
      obtain ⟨rfl, _⟩ := fgets_eq_some read
      rw [readPipe_of_some read]
      rcases List.mem_append.mp zero with here | later
      · have cut := length_cString_lt here
        have rest := length_readPipe_le rest (result ++ cString chunk)
        simp only [List.length_append] at rest ⊢
        omega
      · have shorter := (cString_isPrefix chunk).length_le
        have rest := ih later
        simp only [List.length_append] at rest ⊢
        omega

theorem readPipe_eq_iff (stream : Bytes) : readPipe stream [] = stream ↔ (0 : UInt8) ∉ stream := by
  constructor
  · intro whole zero
    have shorter := length_readPipe_lt zero []
    rw [whole, List.length_nil] at shorter
    omega
  · exact fun clean => readPipe_of_clean clean []

/-! ## The result of a command -/

/-- How a command goes: `popen` fails, or the command writes `stdout` and
`pclose` returns its status. -/
inductive CommandRun where
  | popenFailed
  | ran (stdout : Bytes) (status : Int32)

def execCmd (popen : Bytes → CommandRun) (cmd : Bytes) : Bytes :=
  match popen (cString cmd) with
  | .popenFailed => utf8 "popen failed!"
  | .ran stdout status =>
      let result := readPipe stdout []
      if status ≠ 0 then [] else result

/-- An execution in which commands go as `popen` says. -/
def executionOf (now : Int64) (popen : Bytes → CommandRun) (execFunc : Bytes → Params → Except Bytes FunctionReply) :
    Execution where
  now
  execCmd cmd := .ok (execCmd popen cmd)
  execFunc

/-- The result reports success exactly for a command that ran and ended with
status zero, with all that it wrote; otherwise it reports failure. -/
structure Truthful (run : CommandRun) (result : TaskResult) : Prop where
  success : result.status = .success ↔ ∃ stdout, run = .ran stdout 0
  output : ∀ stdout, run = .ran stdout 0 → result.output = stdout
  failure : (¬ ∃ stdout, run = .ran stdout 0) → result.status = .failed

/-- The command ran, and if it succeeded it wrote something, and no zero byte. -/
def CommandRun.Reportable : CommandRun → Prop
  | .popenFailed => False
  | .ran stdout status => status = 0 → stdout ≠ [] ∧ (0 : UInt8) ∉ stdout

theorem status_runCommand (now : Int64) (popen : Bytes → CommandRun)
    (execFunc : Bytes → Params → Except Bytes FunctionReply) (task : Task) (params : Params) :
    (runCommand (executionOf now popen execFunc) task params).status =
      if execCmd popen (commandLine task.content params) = [] then .failed else .success := by
  simp only [runCommand, executionOf]
  cases execCmd popen (commandLine task.content params) <;> rfl

theorem output_runCommand (now : Int64) (popen : Bytes → CommandRun)
    (execFunc : Bytes → Params → Except Bytes FunctionReply) (task : Task) (params : Params) :
    (runCommand (executionOf now popen execFunc) task params).output =
      execCmd popen (commandLine task.content params) := by
  simp only [runCommand, executionOf]
  cases execCmd popen (commandLine task.content params) <;> rfl

/-- A result with the status and the output that the text of `exec_cmd` gives. -/
theorem truthful_iff {run : CommandRun} {result : TaskResult} {text : Bytes} (output : result.output = text)
    (status : result.status = if text = [] then .failed else .success)
    (text_eq : text = execCmd (fun _ => run) []) : Truthful run result ↔ run.Reportable := by
  cases run with
  | popenFailed =>
      have nonempty : text ≠ [] := by rw [text_eq]; decide
      rw [if_neg nonempty] at status
      refine iff_of_false (fun truthful => ?_) id
      obtain ⟨stdout, ran⟩ := truthful.success.mp status
      cases ran
  | ran stdout code =>
      by_cases ended : code = 0
      · subst ended
        have read : text = readPipe stdout [] := by rw [text_eq]; simp [execCmd]
        constructor
        · intro truthful _
          have whole : readPipe stdout [] = stdout := by rw [← read, ← output]; exact truthful.output stdout rfl
          refine ⟨fun empty => ?_, (readPipe_eq_iff stdout).mp whole⟩
          have success := truthful.success.mpr ⟨stdout, rfl⟩
          rw [status, read, whole, if_pos empty] at success
          cases success
        · intro reportable
          obtain ⟨nonempty, clean⟩ := reportable rfl
          rw [(readPipe_eq_iff stdout).mpr clean] at read
          rw [read, if_neg nonempty] at status
          exact
            { success := iff_of_true status ⟨stdout, rfl⟩
              output := by rintro _ ⟨⟩; exact output.trans read
              failure := fun failed => absurd ⟨stdout, rfl⟩ failed }
      · have empty : text = [] := by rw [text_eq]; simp [execCmd, ended]
        rw [if_pos empty] at status
        have never : ¬ ∃ written, CommandRun.ran stdout code = .ran written 0 := by
          rintro ⟨_, ⟨⟩⟩
          exact ended rfl
        refine iff_of_true ?_ fun zero => absurd zero ended
        exact
          { success := iff_of_false (by rw [status]; decide) never
            output := fun written ran => absurd ⟨written, ran⟩ never
            failure := fun _ => status }

/-- The result of a command task tells the truth exactly if `popen` succeeded
and a command that ended with status zero wrote something without zero bytes. -/
theorem command_result_truthful_iff (workerId : Bytes) (now : Int64) (popen : Bytes → CommandRun)
    (execFunc : Bytes → Params → Except Bytes FunctionReply) (order : List (Bytes × Bytes)) {task : Task}
    (command : task.type = .command) :
    Truthful (popen (cString (commandLine task.content (collectParams order))))
        (execTask workerId (executionOf now popen execFunc) order task) ↔
      (popen (cString (commandLine task.content (collectParams order)))).Reportable := by
  have ran : runTask (executionOf now popen execFunc) task (collectParams order) =
      runCommand (executionOf now popen execFunc) task (collectParams order) := if_pos command
  refine truthful_iff ?_ ?_ rfl
  · exact (congrArg TaskResult.output ran).trans (output_runCommand now popen execFunc task (collectParams order))
  · exact (congrArg TaskResult.status ran).trans (status_runCommand now popen execFunc task (collectParams order))

/-- A task that runs `ls` without parameters. -/
def listing : Task := { taskId := utf8 "t", type := .command, content := utf8 "ls" }

/-- The result of `listing` when its command goes like this. -/
def listingResult (run : CommandRun) : TaskResult :=
  execTask (utf8 "w") (executionOf 0 (fun _ => run) fun _ _ => .error []) [] listing

theorem listing_result_truthful :
    Truthful (.ran (utf8 "src\n") 0) (listingResult (.ran (utf8 "src\n") 0)) ↔
      (CommandRun.ran (utf8 "src\n") 0).Reportable :=
  command_result_truthful_iff (utf8 "w") 0 (fun _ => .ran (utf8 "src\n") 0) (fun _ _ => .error []) [] rfl

/-- A failed `popen` is reported as a success with its message as the output, a
command that writes nothing as a failure, and a zero byte cuts the output. -/
theorem command_results_mislead :
    (listingResult .popenFailed).status = .success ∧
      (listingResult .popenFailed).output = utf8 "popen failed!" ∧
      (listingResult (.ran [] 0)).status = .failed ∧
      (listingResult (.ran [65, 0, 66] 0)).output = [65] ∧
      ∀ run ∈ [CommandRun.popenFailed, .ran [] 0, .ran [65, 0, 66] 0], ¬ Truthful run (listingResult run) := by
  have silent : readPipe [] [] = [] := readPipe_of_none rfl []
  have cut : readPipe [65, 0, 66] [] = [65] := by
    rw [readPipe_of_some rfl, readPipe_of_none rfl]
    rfl
  have misled (run : CommandRun) (unreportable : ¬ run.Reportable) : ¬ Truthful run (listingResult run) := by
    have known : Truthful run (listingResult run) ↔ run.Reportable :=
      truthful_iff (output_runCommand 0 (fun _ => run) (fun _ _ => .error []) listing [])
        (status_runCommand 0 (fun _ => run) (fun _ _ => .error []) listing []) rfl
    exact fun truthful => unreportable (known.mp truthful)
  refine ⟨rfl, rfl, ?_, ?_, ?_⟩
  · refine (status_runCommand 0 (fun _ => .ran [] 0) (fun _ _ => .error []) listing []).trans (if_pos ?_)
    simp [execCmd, silent]
  · refine (output_runCommand 0 (fun _ => .ran [65, 0, 66] 0) (fun _ _ => .error []) listing []).trans ?_
    simp [execCmd, cut]
  · intro run member
    refine misled run ?_
    simp only [List.mem_cons, List.not_mem_nil, or_false] at member
    rcases member with rfl | rfl | rfl
    · exact id
    · exact fun reportable => (reportable rfl).1 rfl
    · exact fun reportable => (reportable rfl).2 (by decide)

end TaskHive.Worker
