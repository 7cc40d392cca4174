import TaskHive.Custody

namespace TaskHive

/-! # A queue with workers

Tokens enter a queue at the back, workers take them from the front, and what a
worker had in its hand ends among the finished ones.  `Flows` says that tokens
pass the queue in order and that every accepted token is in exactly one place;
there is one rule for each way in which a token moves. -/

namespace WorkQueue

inductive Place (ι : Type u) where
  | queue
  | hand (worker : ι)
  | finished
deriving DecidableEq

variable {ι : Type u} {κ : Type v}

def holds (queue : List κ) (hand : ι → List κ) (finished : List κ) : Place ι → List κ
  | .queue => queue
  | .hand worker => hand worker
  | .finished => finished

variable [DecidableEq κ]

structure Flows (accepted : κ → Prop) (queue : List κ) (hand : ι → List κ)
    (enqueued taken finished : List κ) : Prop where
  ordered : enqueued = taken ++ queue
  entered : ∀ token, token ∈ enqueued ↔ accepted token
  custody : Custody (holds queue hand finished) accepted

namespace Flows

variable {accepted : κ → Prop} {queue : List κ} {hand : ι → List κ} {enqueued taken finished : List κ}
  {token : κ} {worker : ι}

theorem empty (none : ∀ worker, hand worker = []) (unaccepted : ∀ token, ¬ accepted token) :
    Flows accepted [] hand [] [] [] where
  ordered := rfl
  entered token := by simp [unaccepted token]
  custody := by
    refine .empty (fun place => ?_) unaccepted
    cases place with
    | queue => rfl
    | hand worker => exact none worker
    | finished => rfl

theorem congr (flows : Flows accepted queue hand enqueued taken finished) {known : κ → Prop}
    (same : ∀ token, known token ↔ accepted token) : Flows known queue hand enqueued taken finished where
  ordered := flows.ordered
  entered token := (flows.entered token).trans (same token).symm
  custody := flows.custody.congr same

theorem push (flows : Flows accepted queue hand enqueued taken finished) (new : ¬ accepted token) :
    Flows (fun other => other = token ∨ accepted other) (queue ++ [token]) hand (enqueued ++ [token]) taken
      finished where
  ordered := by rw [flows.ordered, List.append_assoc]
  entered other := by
    rw [List.mem_append, List.mem_singleton, flows.entered other, or_comm]
  custody := by
    refine flows.custody.issue token .queue new (List.perm_append_singleton token queue) ?_
    intro place different
    cases place with
    | queue => exact absurd rfl different
    | hand _ | finished => exact .refl _

theorem take [DecidableEq ι] {rest : List κ} (flows : Flows accepted (token :: rest) hand enqueued taken finished)
    (free : hand worker = []) :
    Flows accepted rest (Function.update hand worker [token]) enqueued (taken ++ [token]) finished where
  ordered := by rw [flows.ordered, List.append_assoc, List.singleton_append]
  entered := flows.entered
  custody := by
    refine flows.custody.move token .queue (.hand worker) (by simp) (.refl _) ?_ ?_
    · simp only [holds, Function.update_self, free]
      exact .refl _
    · intro place notSource notTarget
      cases place with
      | queue => exact absurd rfl notSource
      | finished => exact .refl _
      | hand other =>
          have different : other ≠ worker := by
            rintro rfl
            exact notTarget rfl
          simp only [holds, Function.update_of_ne different]
          exact .refl _

theorem finish [DecidableEq ι] (flows : Flows accepted queue hand enqueued taken finished)
    (held : hand worker = [token]) :
    Flows accepted queue (Function.update hand worker []) enqueued taken (finished ++ [token]) where
  ordered := flows.ordered
  entered := flows.entered
  custody := by
    refine flows.custody.move token (.hand worker) .finished (by simp) ?_ ?_ ?_
    · simp only [holds, Function.update_self, held]
      exact .refl _
    · exact List.perm_append_singleton token finished
    · intro place notSource notTarget
      cases place with
      | queue => exact .refl _
      | finished => exact absurd rfl notTarget
      | hand other =>
          have different : other ≠ worker := by
            rintro rfl
            exact notSource rfl
          simp only [holds, Function.update_of_ne different]
          exact .refl _

/-- A token that was not accepted is nowhere, and never was in the queue. -/
theorem absent (flows : Flows accepted queue hand enqueued taken finished) (refused : ¬ accepted token) :
    token ∉ queue ∧ (∀ worker, token ∉ hand worker) ∧ token ∉ taken ∧ token ∉ finished := by
  have nowhere := flows.custody.absent token refused
  refine ⟨nowhere .queue, fun worker => nowhere (.hand worker), ?_, nowhere .finished⟩
  intro member
  exact refused ((flows.entered token).mp (by simp [flows.ordered, member]))

theorem once (flows : Flows accepted queue hand enqueued taken finished) (token : κ) :
    finished.count token ≤ 1 := by
  by_cases member : token ∈ finished
  · exact Nat.le_of_eq (flows.custody.heldOnce_of_mem .finished member).1
  · simp [List.count_eq_zero_of_not_mem member]

/-- When the queue and all hands are empty, everything is finished. -/
theorem drained (flows : Flows accepted [] hand enqueued taken finished) (idle : ∀ worker, hand worker = [])
    (known : accepted token) : finished.count token = 1 := by
  refine flows.custody.count_of_last .finished ?_ known
  intro place different
  cases place with
  | queue => rfl
  | hand worker => exact idle worker
  | finished => exact absurd rfl different

end Flows

end WorkQueue

end TaskHive
