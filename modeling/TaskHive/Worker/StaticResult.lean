import Mathlib.Data.Fintype.Basic
import Mathlib.Logic.Function.Basic
import TaskHive.Machine
import TaskHive.Worker.FunctionLibrary

namespace TaskHive.Worker

open TaskHive.Wire

/-! # The static result strings under concurrent calls

Every library function keeps its response in one `static std::string` and
returns a pointer into its buffer.  `exec_func` copies the text behind the
pointer after the function has returned, so the calls of several pool threads
share one string per function.

A response is longer than what a string keeps inside itself, so the assignment
takes over the buffer of the new response and frees the one before.  Two calls
can go wrong in two ways: a call that returns after the other's assignment
hands on the other's buffer, and one that returned before it holds a pointer to
freed memory. -/

/-- A FUNCTION task as `exec_func` sees it. -/
structure FunctionTask where
  function : LibraryFunction
  params : Params

/-- The static string of a function: its buffer, by the number of assignments
that came before, and the text in it. -/
structure StaticString where
  buffer : Nat
  text : Bytes

def StaticString.assign (static : StaticString) (text : Bytes) : StaticString :=
  { buffer := static.buffer + 1, text }

/-- A call remembers the machine state it computed its response in, and the
buffer that its pointer leads to. -/
inductive CallPc where
  | called
  | assigned (world : World)
  | returned (world : World) (pointer : Nat)
  | copied (world : World) (text : Bytes)
  | readFreed (world : World)

structure CallState (ι : Type) where
  result : LibraryFunction → StaticString
  call : ι → CallPc

inductive CallAction (ι : Type) where
  | assign (caller : ι) (world : World)
  | returnPointer (caller : ι)
  | copy (caller : ι)

/-- The response was computed and its text is still to be copied. -/
def CallPc.exposed : CallPc → Bool
  | .assigned _ | .returned _ _ => true
  | _ => false

/-- What `exec_func` returned. -/
def CallPc.text : CallPc → Option Bytes
  | .copied _ text => some text
  | _ => none

section Calls

variable {ι : Type} [DecidableEq ι] {R : Type} (support : Support R) (task : ι → FunctionTask)

def FunctionTask.response (task : FunctionTask) (world : World) : Bytes :=
  task.function.respond support world (paramJson support task.params)

def callStep (state : CallState ι) : CallAction ι → Option (CallState ι)
  | .assign caller world =>
      match state.call caller with
      | .called =>
          let static := state.result (task caller).function
          some { result := Function.update state.result (task caller).function
                    (static.assign ((task caller).response support world))
                 call := Function.update state.call caller (.assigned world) }
      | _ => none
  | .returnPointer caller =>
      match state.call caller with
      | .assigned world =>
          -- c_str() of whatever buffer the string has by now
          let pointer := (state.result (task caller).function).buffer
          some { state with call := Function.update state.call caller (.returned world pointer) }
      | _ => none
  | .copy caller =>
      match state.call caller with
      | .returned world pointer =>
          let static := state.result (task caller).function
          some { state with
            call := Function.update state.call caller <|
              if static.buffer = pointer then .copied world (cString static.text) else .readFreed world }
      | _ => none

def calls : Machine (CallState ι) (CallAction ι) where
  init := { result := fun _ => { buffer := 0, text := [] }, call := fun _ => .called }
  step := callStep support task

/-- The copied text is the response to the caller's own parameters.  What a
call reads from freed memory is nobody's response. -/
def CallPc.Own (task : FunctionTask) : CallPc → Prop
  | .copied world text => text = task.response support world
  | .readFreed _ => False
  | _ => True

instance (task : FunctionTask) (pc : CallPc) : Decidable (pc.Own support task) := by
  cases pc <;> unfold CallPc.Own <;> infer_instance

def Isolated (state : CallState ι) : Prop := ∀ caller, (state.call caller).Own support (task caller)

instance [Fintype ι] : DecidablePred (Isolated support task) := fun _ => inferInstanceAs (Decidable (∀ _, _))

/-- No function assigns its static string while the text of another call of
the same function is still to be copied. -/
def Exclusive (state : CallState ι) : CallAction ι → Prop
  | .assign caller _ => ∀ other, other ≠ caller → (task other).function = (task caller).function →
      (state.call other).exposed = false
  | _ => True

instance [Fintype ι] (state : CallState ι) (action : CallAction ι) :
    Decidable (Exclusive task state action) := by
  cases action <;> unfold Exclusive <;> infer_instance

/-- A call whose text is still to be copied finds its own response in the
static string of its function, and its pointer leads there. -/
def CallPc.Settled (task : FunctionTask) (result : LibraryFunction → StaticString) : CallPc → Prop
  | .called => True
  | .assigned world => (result task.function).text = task.response support world
  | .returned world pointer => result task.function = { buffer := pointer, text := task.response support world }
  | .copied world text => text = task.response support world
  | .readFreed _ => False

def Settled (state : CallState ι) : Prop :=
  ∀ caller, (state.call caller).Settled support (task caller) state.result

variable {support task}

theorem cString_response (task : FunctionTask) (world : World) :
    cString (task.response support world) = task.response support world :=
  cString_eq_self (zero_notMem_respond support world _ _)

theorem CallPc.Settled.reassigned {task : FunctionTask} {result other : LibraryFunction → StaticString}
    {pc : CallPc} (settled : pc.Settled support task result)
    (kept : pc.exposed = true → other task.function = result task.function) :
    pc.Settled support task other := by
  cases pc with
  | called => trivial
  | assigned world =>
      have same := congrArg StaticString.text (kept rfl)
      exact same.trans settled
  | returned world pointer => exact (kept rfl).trans settled
  | copied world text => exact settled
  | readFreed world => exact settled

theorem callStep_settled {before after : CallState ι} {action : CallAction ι}
    (settled : Settled support task before) (exclusive : Exclusive task before action)
    (stepped : callStep support task before action = some after) : Settled support task after := by
  cases action with
  | assign caller world =>
      simp only [callStep] at stepped
      split at stepped
      · cases stepped
        intro other
        by_cases same : other = caller
        · subst other
          simp [CallPc.Settled, StaticString.assign]
        · simp only [Function.update_of_ne same]
          refine (settled other).reassigned fun exposed => ?_
          have different : (task other).function ≠ (task caller).function := by
            intro equal
            rw [exclusive other same equal] at exposed
            cases exposed
          rw [Function.update_of_ne different]
      · cases stepped
  | returnPointer caller =>
      simp only [callStep] at stepped
      split at stepped
      · rename_i world pc
        cases stepped
        intro other
        have holds := settled other
        by_cases same : other = caller
        · subst other
          simp only [CallPc.Settled, pc] at holds
          simp only [Function.update_self, CallPc.Settled, ← holds]
        · simpa only [Function.update_of_ne same] using holds
      · cases stepped
  | copy caller =>
      simp only [callStep] at stepped
      split at stepped
      · rename_i world pointer pc
        cases stepped
        intro other
        have holds := settled other
        by_cases same : other = caller
        · subst other
          simp only [CallPc.Settled, pc] at holds
          simp only [Function.update_self, holds, if_true, CallPc.Settled, cString_response]
        · simpa only [Function.update_of_ne same] using holds
      · cases stepped

omit [DecidableEq ι] in
theorem isolated_of_settled {state : CallState ι} (settled : Settled support task state) :
    Isolated support task state := by
  intro caller
  have holds := settled caller
  cases pc : state.call caller with
  | copied world text => simpa only [CallPc.Own, CallPc.Settled, pc] using holds
  | readFreed world => simp only [CallPc.Settled, pc] at holds
  | _ => trivial

/-- In every run in which no call assigns over a text that is still to be
copied, every task gets the response to its own parameters and none reads freed
memory. -/
theorem function_results_isolated (support : Support R) (task : ι → FunctionTask) (state : CallState ι)
    (reached : (calls support task).ReachableBy (Exclusive task) state) : Isolated support task state := by
  refine isolated_of_settled (reached.invariant ?_ ?_)
  · intro caller
    trivial
  · intro before action after settled exclusive stepped
    exact callStep_settled settled exclusive stepped

end Calls

/-- A support whose JSON text is the list of its strings. -/
def plainSupport : Support Nat where
  stod bytes := if bytes = [] then none else some bytes.length
  toString number := List.replicate number 49
  add := Nat.add
  mul := Nat.mul
  parseJsonParams bytes := [(utf8 "text", bytes)]
  writeString fields := cString (fields.flatMap fun field =>
    match field.2 with
    | .string text => text
    | .bool _ => [])
  zero_notMem_writeString _ := zero_notMem_cString _

def idleWorld : World where
  readFile _ := none
  canWrite _ := false
  popen _ := none
  system _ := 1

/-- Two tasks that reverse different texts. -/
def reversals : Fin 2 → FunctionTask
  | 0 => { function := .reverseString, params := [(utf8 "text", [97, 98])] }
  | 1 => { function := .reverseString, params := [(utf8 "text", [99, 100])] }

/-- One after the other, both tasks get their own response. -/
theorem reversals_isolated :
    ∃ state, (calls plainSupport reversals).ReachableBy (Exclusive reversals) state ∧
      (state.call 0).text ≠ none ∧ (state.call 1).text ≠ none ∧ Isolated plainSupport reversals state := by
  obtain ⟨state, reached, first, second⟩ := (calls plainSupport reversals).reachableBy_of_any
    (Exclusive reversals) (fun state => (state.call 0).text ≠ none ∧ (state.call 1).text ≠ none)
    [.assign 0 idleWorld, .returnPointer 0, .copy 0, .assign 1 idleWorld, .returnPointer 1, .copy 1] (by decide)
  exact ⟨state, reached, first, second, function_results_isolated plainSupport reversals state reached⟩

/-- The second call assigns between the first call's assignment and its
return, and the first task gets the reversal of the second task's text. -/
theorem reversals_mixed_up :
    ∃ state, (calls plainSupport reversals).Reachable state ∧
      (state.call 0).text = some ((reversals 1).response plainSupport idleWorld) ∧
      ¬ Isolated plainSupport reversals state :=
  (calls plainSupport reversals).reachable_of_any
    [.assign 0 idleWorld, .assign 1 idleWorld, .returnPointer 0, .copy 0] (by decide)

end TaskHive.Worker
