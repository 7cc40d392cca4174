import TaskHive.Worker.ExecTask

namespace TaskHive.Worker

open TaskHive.Wire

/-! # `exec_func` and what becomes of its text

`exec_func` reports a library that does not open in the text it returns, where
`exec_task` expects a JSON object.  A text that does not parse is only logged,
and the members are then read from a null value.

A name that the library does not have is worse: `dlclose` comes before
`dlerror`, which then has nothing to report, and the string built from its null
pointer takes the worker down before there is a result. -/

/-- The dynamic linker.  An error is the text of `dlerror`; a function that is
found responds through `create_json_response` or throws. -/
structure DynamicLibrary where
  dlopen : Except Bytes Unit
  dlsym : Bytes → Option (Bytes → Except Bytes Response)

/-- The function that is called, the text that is returned in its place, or
the end of the worker. -/
inductive Lookup where
  | found (function : Bytes → Except Bytes Response)
  | reported (text : Bytes)
  | crashed

def DynamicLibrary.find (library : DynamicLibrary) (func : Bytes) : Lookup :=
  match library.dlopen with
  | .error error => .reported (utf8 "dlopen failed: " ++ error)
  | .ok () =>
      match library.dlsym (cString func) with
      -- the successful dlclose has cleared the error, and dlerror() is null
      | none => .crashed
      | some function => .found function

/-- The members that `create_json_response` writes. -/
def responseMembers (response : Response) : List (Bytes × JsonScalar) :=
  (if response.data = [] then [] else [(utf8 "data", JsonScalar.string response.data)]) ++
    [(utf8 "message", .string response.message), (utf8 "success", .bool response.success)]

def JsonScalar.mapText (recode : Bytes → Bytes) : JsonScalar → JsonScalar
  | .string text => .string (recode text)
  | .bool value => .bool value

section Reading

variable {R : Type} (support : Support R)

theorem createJsonResponse_eq (response : Response) :
    createJsonResponse support response = support.writeString (responseMembers response) := rfl

/-- What `exec_func` returns or throws, if it gets that far. -/
def execFunc (library : DynamicLibrary) (func : Bytes) (params : Params) : Option (Except Bytes Bytes) :=
  match library.find func with
  | .crashed => none
  | .reported text => some (.ok text)
  | .found function =>
      some ((function (cString (paramJson support params))).map fun response =>
        cString (createJsonResponse support response))

/-- A JSON reader, which gives the members of an object.  It reads back what
the writer wrote, except that bytes which are no UTF-8 may be replaced, and it
refuses a text that starts with the letter d. -/
structure JsonReader where
  parse : Bytes → Option (List (Bytes × JsonScalar))
  recode : Bytes → Bytes
  recode_eq_nil : ∀ text, recode text = [] ↔ text = []
  parse_response : ∀ response, parse (support.writeString (responseMembers response)) =
    some ((responseMembers response).map fun member => (member.1, member.2.mapText recode))
  parse_letter : ∀ rest, parse (100 :: rest) = none

/-- `asString`, with null for a missing member -/
def asString : Option JsonScalar → Bytes
  | none => []
  | some (.string text) => text
  | some (.bool value) => utf8 (if value then "true" else "false")

def asBool : Option JsonScalar → Except Bytes Bool
  | none => .ok false
  | some (.bool value) => .ok value
  | some (.string _) => .error (utf8 "Value is not convertible to bool.")

/-- After a failed parse `root` is null, which has no members. -/
def readReply (reader : JsonReader support) (text : Bytes) : Except Bytes FunctionReply :=
  let root := (reader.parse text).getD []
  (asBool (root.lookup (utf8 "success"))).map fun success =>
    { data := asString (root.lookup (utf8 "data")), message := asString (root.lookup (utf8 "message")), success }

/-- A run of a task in which the call of `exec_func` came back with this. -/
def calledExecution (reader : JsonReader support) (now : Int64) (execCmd : Bytes → Except Bytes Bytes)
    (called : Except Bytes Bytes) : Execution where
  now
  execCmd
  execFunc _ _ := called.bind (readReply support reader)

/-- The result that the job pushes, unless the worker crashes in it. -/
def pushedResult (reader : JsonReader support) (library : DynamicLibrary) (workerId : Bytes) (now : Int64)
    (execCmd : Bytes → Except Bytes Bytes) (order : List (Bytes × Bytes)) (task : Task) : Option TaskResult :=
  -- only a function task calls `exec_func`
  let called :=
    if task.type = .function then execFunc support library task.content (collectParams order) else some (.ok [])
  called.map fun called => execTask workerId (calledExecution support reader now execCmd called) order task

end Reading

/-- A failed result says why, and what is wrong with a library or a name that
is not found is part of the result. -/
structure SaysWhy (library : DynamicLibrary) (task : Task) (pushed : Option TaskResult) : Prop where
  nonempty : ∀ result, pushed = some result → result.status = .failed → result.errorMessage ≠ []
  lookup : task.type = .function → (∀ function, library.find task.content ≠ .found function) →
    ∃ result text, pushed = some result ∧ library.find task.content = .reported text ∧ text <:+: result.errorMessage

/-- The function exists, and where it reports a failure it gives a message. -/
def Explains (support : Support R) (library : DynamicLibrary) (func : Bytes) (params : Params) : Prop :=
  ∃ function, library.find func = .found function ∧
    ∀ response, function (paramJson support params) = .ok response → response.success = true ∨ response.message ≠ []

section Replies

variable {R : Type} {support : Support R} (reader : JsonReader support) {library : DynamicLibrary}

theorem not_explains {func : Bytes} {params : Params} (missing : ∀ function, library.find func ≠ .found function) :
    ¬ Explains support library func params := by
  intro explains
  obtain ⟨function, found, _⟩ := explains
  exact missing function found

theorem find_reported_starts {func text : Bytes} (missing : library.find func = .reported text) :
    ∃ rest, text = 100 :: rest := by
  unfold DynamicLibrary.find at missing
  split at missing
  · cases missing
    exact ⟨_, rfl⟩
  · split at missing
    · cases missing
    · cases missing

theorem readReply_letter (rest : Bytes) :
    readReply support reader (100 :: rest) = .ok { data := [], message := [], success := false } := by
  simp [readReply, reader.parse_letter, asBool, asString, Except.map]

theorem readReply_response (response : Response) :
    ∃ data, readReply support reader (createJsonResponse support response) =
      .ok { data, message := reader.recode response.message, success := response.success } := by
  rw [createJsonResponse_eq, readReply, reader.parse_response, Option.getD_some, responseMembers]
  split
  · exact ⟨[], rfl⟩
  · exact ⟨reader.recode response.data, rfl⟩

theorem execFunc_reported {func text : Bytes} (missing : library.find func = .reported text) (params : Params) :
    execFunc support library func params = some (.ok text) := by
  rw [execFunc, missing]

theorem execFunc_crashed {func : Bytes} (missing : library.find func = .crashed) (params : Params) :
    execFunc support library func params = none := by
  rw [execFunc, missing]

theorem execFunc_found {func : Bytes} {function : Bytes → Except Bytes Response}
    (found : library.find func = .found function) (params : Params) :
    execFunc support library func params =
      some ((function (paramJson support params)).map (createJsonResponse support)) := by
  have argument : cString (paramJson support params) = paramJson support params :=
    cString_eq_self (support.zero_notMem_writeString _)
  have text : (fun response => cString (createJsonResponse support response)) = createJsonResponse support := by
    funext response
    exact cString_eq_self (support.zero_notMem_writeString _)
  rw [execFunc, found, argument, text]

end Replies

section Results

variable {R : Type} {support : Support R} (reader : JsonReader support) (now : Int64)
  (execCmd : Bytes → Except Bytes Bytes) (task : Task) (params : Params)

/-- A text in place of a response leaves a failed result without a message. -/
theorem runFunction_letter (rest : Bytes) :
    runFunction (calledExecution support reader now execCmd (.ok (100 :: rest))) task params =
      fail { startExcTime := now } [] := by
  simp [runFunction, calledExecution, Except.bind, readReply_letter]

theorem runFunction_threw (what : Bytes) :
    runFunction (calledExecution support reader now execCmd (.error what)) task params =
      fail { startExcTime := now } (utf8 "执行异常: " ++ what) := by
  simp [runFunction, calledExecution, Except.bind]

theorem runFunction_responded (response : Response) :
    ∃ data, runFunction (calledExecution support reader now execCmd (.ok (createJsonResponse support response)))
      task params =
      if response.success then succeed { startExcTime := now } data
      else fail { startExcTime := now } (reader.recode response.message) := by
  obtain ⟨data, read⟩ := readReply_response reader response
  exact ⟨data, by simp [runFunction, calledExecution, Except.bind, read]⟩

theorem append_ne_nil (literal rest : Bytes) (nonempty : literal ≠ []) : literal ++ rest ≠ [] := by
  simp [nonempty]

/-- A function that was called reports a failure with a message unless it gave
none itself. -/
theorem nonempty_runFunction (called : Except Bytes Response) {result : TaskResult}
    (ran : result = runFunction
      (calledExecution support reader now execCmd (called.map (createJsonResponse support))) task params) :
    (result.status = .failed → result.errorMessage ≠ []) ↔
      ∀ response, called = .ok response → response.success = true ∨ response.message ≠ [] := by
  subst result
  cases called with
  | error what =>
      rw [Except.map, runFunction_threw]
      simp [fail, append_ne_nil (utf8 "执行异常: ") what (by decide)]
  | ok response =>
      obtain ⟨data, result⟩ := runFunction_responded reader now execCmd task params response
      rw [Except.map, result]
      cases success : response.success with
      | true => simp [succeed, TaskStatus.success, TaskStatus.failed, success]
      | false => simp [fail, success, reader.recode_eq_nil]

theorem runCommand_nonempty (execution : Execution) (task : Task) (params : Params)
    (failed : (runCommand execution task params).status = .failed) :
    (runCommand execution task params).errorMessage ≠ [] := by
  unfold runCommand at failed ⊢
  split
  · exact append_ne_nil _ _ (by decide)
  · exact List.cons_ne_nil _ _
  · rename_i executed
    simp [executed, succeed, TaskStatus.success, TaskStatus.failed] at failed

end Results

section Library

variable {R : Type} (support : Support R) (world : World)

/-- No function of the library fails without a message. -/
theorem LibraryFunction.message_ne_nil (function : LibraryFunction) (params : Params) :
    (function.response support world params).message ≠ [] := by
  cases function with
  | reverseString =>
      simp only [response, Worker.reverseString]
      exact List.cons_ne_nil _ _
  | addNumbers =>
      simp only [response, Worker.addNumbers, arithmetic]
      split <;> exact List.cons_ne_nil _ _
  | multiplyNumbers =>
      simp only [response, Worker.multiplyNumbers, arithmetic]
      split <;> exact List.cons_ne_nil _ _
  | readFileContent =>
      simp only [response, Worker.readFileContent]
      split
      · exact List.cons_ne_nil _ _
      · exact append_ne_nil _ _ (by decide)
  | writeFileContent =>
      simp only [response, Worker.writeFileContent]
      split
      · exact List.cons_ne_nil _ _
      · exact append_ne_nil _ _ (by decide)
  | getSystemInfo =>
      simp only [response, Worker.getSystemInfo]
      exact List.cons_ne_nil _ _
  | processData =>
      simp only [response, Worker.processData]
      exact List.cons_ne_nil _ _
  | filterData =>
      unfold response Worker.filterData
      dsimp only
      split
      · split <;> exact List.cons_ne_nil _ _
      · exact List.cons_ne_nil _ _
  | pingHost =>
      simp only [response, Worker.pingHost]
      split
      · split <;> exact List.cons_ne_nil _ _
      · exact List.cons_ne_nil _ _
  | checkPort =>
      simp only [response, Worker.checkPort]
      split <;> exact List.cons_ne_nil _ _

theorem LibraryFunction.explains (function : LibraryFunction) {library : DynamicLibrary} {func : Bytes}
    (found : library.find func = .found fun input =>
      .ok (function.response support world (support.parseJsonParams input))) (params : Params) :
    Explains support library func params := by
  refine ⟨_, found, fun response called => .inr ?_⟩
  cases called
  exact function.message_ne_nil support world _

end Library

section Pushed

variable {R : Type} {support : Support R} {reader : JsonReader support} {library : DynamicLibrary}
  {workerId : Bytes} {now : Int64} {execCmd : Bytes → Except Bytes Bytes} {order : List (Bytes × Bytes)}
  {task : Task}

/-- A library that does not open leaves a failed result without a message. -/
theorem pushedResult_reported (function : task.type = .function) {text : Bytes}
    (missing : library.find task.content = .reported text) :
    ∃ result, pushedResult support reader library workerId now execCmd order task = some result ∧
      result.status = .failed ∧ result.errorMessage = [] := by
  obtain ⟨rest, rfl⟩ := find_reported_starts missing
  have ran := runFunction_letter reader now execCmd task (collectParams order) rest
  rw [pushedResult, if_pos function, execFunc_reported missing]
  refine ⟨_, rfl, ?_, ?_⟩
  · rw [execTask_status, runTask_function function, ran]
    rfl
  · rw [execTask_errorMessage, runTask_function function, ran]
    rfl

/-- A name that is not found leaves no result. -/
theorem pushedResult_crashed (function : task.type = .function)
    (missing : library.find task.content = .crashed) :
    pushedResult support reader library workerId now execCmd order task = none := by
  rw [pushedResult, if_pos function, execFunc_crashed missing]
  rfl

theorem pushedResult_found (function : task.type = .function) {called : Bytes → Except Bytes Response}
    (found : library.find task.content = .found called) :
    ∃ result, pushedResult support reader library workerId now execCmd order task = some result ∧
      ((result.status = .failed → result.errorMessage ≠ []) ↔
        ∀ response, called (paramJson support (collectParams order)) = .ok response →
          response.success = true ∨ response.message ≠ []) := by
  rw [pushedResult, if_pos function, execFunc_found found]
  refine ⟨_, rfl, ?_⟩
  rw [execTask_status, execTask_errorMessage, runTask_function function]
  exact nonempty_runFunction reader now execCmd task (collectParams order) _ rfl

theorem pushedResult_other (other : task.type ≠ .function) :
    ∃ result, pushedResult support reader library workerId now execCmd order task = some result ∧
      (result.status = .failed → result.errorMessage ≠ []) := by
  rw [pushedResult, if_neg other]
  refine ⟨_, rfl, ?_⟩
  rw [execTask_status, execTask_errorMessage]
  intro failed
  by_cases command : task.type = .command
  · rw [runTask, if_pos command] at failed ⊢
    exact runCommand_nonempty _ _ _ failed
  · rw [runTask, if_neg command, if_neg other]
    exact List.cons_ne_nil _ _

end Pushed

/-- A task says why it failed exactly when it is not a function task, or the
function is found and gives a message where it fails. -/
theorem failed_result_says_why_iff (support : Support R) (reader : JsonReader support) (library : DynamicLibrary)
    (workerId : Bytes) (now : Int64) (execCmd : Bytes → Except Bytes Bytes) (order : List (Bytes × Bytes))
    (task : Task) :
    SaysWhy library task (pushedResult support reader library workerId now execCmd order task) ↔
      (task.type = .function → Explains support library task.content (collectParams order)) := by
  by_cases function : task.type = .function
  · cases found : library.find task.content with
    | crashed =>
        have missing : ∀ called, library.find task.content ≠ .found called := by simp [found]
        refine iff_of_false (fun explained => ?_) (fun explains => not_explains missing (explains function))
        obtain ⟨_, _, pushed, _⟩ := explained.lookup function missing
        rw [pushedResult_crashed function found] at pushed
        cases pushed
    | reported text =>
        have missing : ∀ called, library.find task.content ≠ .found called := by simp [found]
        refine iff_of_false (fun explained => ?_) (fun explains => not_explains missing (explains function))
        obtain ⟨result, pushed, failed, empty⟩ := pushedResult_reported function found
        exact explained.nonempty result pushed failed empty
    | found called =>
        obtain ⟨result, pushed, nonempty⟩ := pushedResult_found function found
        rw [pushed]
        constructor
        · intro explained _
          exact ⟨called, found, nonempty.mp (explained.nonempty result rfl)⟩
        · intro explains
          obtain ⟨other, same, answers⟩ := explains function
          rw [found, Lookup.found.injEq] at same
          subst other
          refine ⟨fun other same => ?_, fun _ missing => absurd found (missing called)⟩
          cases same
          exact nonempty.mpr answers
  · obtain ⟨result, pushed, nonempty⟩ := pushedResult_other function
    rw [pushed]
    refine iff_of_true ⟨fun other same => ?_, fun same => absurd same function⟩ fun same => absurd same function
    cases same
    exact nonempty

/-! A writer that keeps of each text only whether it is empty, and its reader. -/

def JsonScalar.shape : JsonScalar → UInt8
  | .string [] => 1
  | .string _ => 2
  | .bool true => 3
  | .bool false => 4

theorem JsonScalar.shape_ne_zero (scalar : JsonScalar) : scalar.shape ≠ 0 := by
  cases scalar with
  | string text =>
      cases text with
      | nil => decide
      | cons => exact (by decide : (2 : UInt8) ≠ 0)
  | bool value => cases value <;> decide

def ofShape (shape : UInt8) : JsonScalar :=
  if shape = 1 then .string [] else if shape = 2 then .string (utf8 "?") else .bool (shape == 3)

def shapeSupport : Support Nat where
  stod bytes := if bytes = [] then none else some bytes.length
  toString number := List.replicate number 49
  add := Nat.add
  mul := Nat.mul
  parseJsonParams bytes := [(utf8 "text", bytes)]
  writeString fields := 123 :: fields.map fun field => field.2.shape
  zero_notMem_writeString fields := by
    intro member
    rcases List.mem_cons.mp member with zero | member
    · cases zero
    · obtain ⟨field, _, zero⟩ := List.mem_map.mp member
      exact field.2.shape_ne_zero zero

def shapeReader : JsonReader shapeSupport where
  parse
    | [123, message, success] =>
        some [(utf8 "message", ofShape message), (utf8 "success", ofShape success)]
    | [123, data, message, success] =>
        some [(utf8 "data", ofShape data), (utf8 "message", ofShape message), (utf8 "success", ofShape success)]
    | _ => none
  recode text := if text = [] then [] else utf8 "?"
  recode_eq_nil text := by
    split
    · simp [*]
    · exact iff_of_false (List.cons_ne_nil _ _) ‹_›
  parse_response response := by
    obtain ⟨success, message, data⟩ := response
    cases data <;> cases message <;> cases success <;> rfl
  parse_letter rest := rfl

/-- A task for a library that does not open fails without a message. -/
theorem missing_library_unexplained :
    ∃ (library : DynamicLibrary) (task : Task) (result : TaskResult),
      library.find task.content = .reported (utf8 "dlopen failed: no such file") ∧
      pushedResult shapeSupport shapeReader library (utf8 "w") 7 (fun _ => .ok []) [] task = some result ∧
      result.status = .failed ∧ result.errorMessage = [] ∧ ¬ SaysWhy library task (some result) := by
  let library : DynamicLibrary := {
    dlopen := .error (utf8 "no such file")
    dlsym := fun _ => none }
  let task : Task := { taskId := utf8 "t", type := .function, content := utf8 "reverse_string" }
  refine ⟨library, task, _, rfl, rfl, rfl, rfl, fun explained => ?_⟩
  exact explained.nonempty _ rfl rfl rfl

end TaskHive.Worker
