import Mathlib.Data.List.Perm.Basic

namespace TaskHive

/-! # A queue with acknowledgements

A message waits until it is delivered to a consumer, and stays on the queue's
books until the consumer has handled it and acknowledged it.  What a consumer
that goes away has not acknowledged waits again. -/

/-- A message that is out, and whether its consumer has handled it. -/
structure Delivery (χ : Type u) (τ : Type v) where
  consumer : χ
  message : τ
  handled : Bool := false
deriving DecidableEq

structure AckQueue (χ : Type u) (τ : Type v) where
  ready : List τ := []
  unacked : List (Delivery χ τ) := []

namespace AckQueue

variable {χ : Type u} {τ : Type v}

def publish (queue : AckQueue χ τ) (message : τ) : AckQueue χ τ := { queue with ready := queue.ready ++ [message] }

def deliver (queue : AckQueue χ τ) (consumer : χ) (index : Nat) : Option (AckQueue χ τ) :=
  queue.ready[index]?.map fun message =>
    { ready := queue.ready.eraseIdx index, unacked := queue.unacked ++ [{ consumer, message }] }

/-- A consumer handles a message that was delivered to it. -/
def handle [DecidableEq χ] (queue : AckQueue χ τ) (consumer : χ) (index : Nat) : Option (τ × AckQueue χ τ) :=
  match queue.unacked[index]? with
  | some delivery =>
      if delivery.consumer = consumer ∧ delivery.handled = false then
        some (delivery.message, { queue with unacked := queue.unacked.set index { delivery with handled := true } })
      else none
  | none => none

def ack (queue : AckQueue χ τ) (index : Nat) : Option (AckQueue χ τ) :=
  match queue.unacked[index]? with
  | some delivery =>
      if delivery.handled then some { queue with unacked := queue.unacked.eraseIdx index } else none
  | none => none

/-- The consumer goes away. -/
def requeue [DecidableEq χ] (queue : AckQueue χ τ) (consumer : χ) : AckQueue χ τ where
  ready := queue.ready ++ (queue.unacked.filter fun delivery => delivery.consumer = consumer).map Delivery.message
  unacked := queue.unacked.filter fun delivery => delivery.consumer ≠ consumer

/-- All consumers go away. -/
def requeueAll (queue : AckQueue χ τ) : AckQueue χ τ where
  ready := queue.ready ++ queue.unacked.map Delivery.message
  unacked := []

/-- What is out and not handled. -/
def unhandled (queue : AckQueue χ τ) : List τ :=
  (queue.unacked.filter fun delivery => !delivery.handled).map Delivery.message

/-- What waits or is out and not handled. -/
def owed (queue : AckQueue χ τ) : List τ := queue.ready ++ queue.unhandled

/-! ## Where the messages are -/

section Lemmas

variable {queue after : AckQueue χ τ} {consumer : χ} {index : Nat} {message : τ}

theorem deliver_spec (delivered : queue.deliver consumer index = some after) :
    ∃ message, queue.ready.Perm (message :: after.ready) ∧ after.unhandled = queue.unhandled ++ [message] := by
  obtain ⟨message, found, rfl⟩ := Option.map_eq_some_iff.mp delivered
  refine ⟨message, ?_, by simp [unhandled]⟩
  obtain ⟨inside, rfl⟩ := List.getElem?_eq_some_iff.mp found
  exact (List.getElem_cons_eraseIdx_perm inside).symm

theorem handle_spec [DecidableEq χ] (handled : queue.handle consumer index = some (message, after)) :
    after.ready = queue.ready ∧ queue.unhandled.Perm (message :: after.unhandled) := by
  unfold handle at handled
  split at handled
  · rename_i delivery found
    split at handled
    · rename_i waiting
      cases handled
      refine ⟨rfl, ?_⟩
      obtain ⟨inside, rfl⟩ := List.getElem?_eq_some_iff.mp found
      -- Only the delivery at the index changes, and it no longer counts.
      have before := (List.getElem_cons_eraseIdx_perm inside).symm
      have marked := List.set_perm_cons_eraseIdx inside { queue.unacked[index] with handled := true }
      have counted := (before.filter fun delivery => !delivery.handled).map Delivery.message
      have uncounted := (marked.filter fun delivery => !delivery.handled).map Delivery.message
      simp only [List.filter_cons, waiting.2, Bool.not_false, if_true, List.map_cons] at counted
      simp only [List.filter_cons, Bool.not_true, Bool.false_eq_true, if_false] at uncounted
      exact counted.trans (uncounted.symm.cons _)
    · cases handled
  · cases handled

theorem ack_spec (acked : queue.ack index = some after) :
    after.ready = queue.ready ∧ after.unhandled.Perm queue.unhandled := by
  unfold ack at acked
  split at acked
  · rename_i delivery found
    split at acked
    · rename_i handled
      cases acked
      refine ⟨rfl, ?_⟩
      obtain ⟨inside, rfl⟩ := List.getElem?_eq_some_iff.mp found
      have before := ((List.getElem_cons_eraseIdx_perm inside).filter fun delivery => !delivery.handled).map
        Delivery.message
      simp only [List.filter_cons, handled, Bool.not_true, Bool.false_eq_true, if_false] at before
      exact before
    · cases acked
  · cases acked

/-! ## What is owed -/

theorem owed_publish (queue : AckQueue χ τ) (message : τ) :
    message ∈ (queue.publish message).owed ∧ queue.owed ⊆ (queue.publish message).owed := by
  rw [← List.cons_subset, owed, owed, publish, List.append_assoc]
  exact List.perm_middle.symm.subset

theorem owed_deliver (delivered : queue.deliver consumer index = some after) : after.owed.Perm queue.owed := by
  obtain ⟨message, waiting, out⟩ := deliver_spec delivered
  rw [owed, owed, out, ← List.append_assoc]
  exact (List.perm_append_singleton message _).trans (waiting.symm.append_right queue.unhandled)

theorem owed_handle [DecidableEq χ] (handled : queue.handle consumer index = some (message, after)) :
    queue.owed.Perm (message :: after.owed) := by
  obtain ⟨ready, out⟩ := handle_spec handled
  rw [owed, owed, ready]
  exact (out.append_left queue.ready).trans List.perm_middle

theorem owed_ack (acked : queue.ack index = some after) : after.owed.Perm queue.owed := by
  obtain ⟨ready, out⟩ := ack_spec acked
  rw [owed, owed, ready]
  exact out.append_left queue.ready

/-- A message that was handled and not acknowledged is owed again. -/
theorem owed_requeue [DecidableEq χ] (queue : AckQueue χ τ) (consumer : χ) :
    queue.owed ⊆ (queue.requeue consumer).owed := by
  intro message found
  rcases List.mem_append.mp found with ready | out
  · exact List.mem_append_left _ (List.mem_append_left _ ready)
  · obtain ⟨delivery, member, rfl⟩ := List.mem_map.mp out
    obtain ⟨unacked, waiting⟩ := List.mem_filter.mp member
    by_cases mine : delivery.consumer = consumer
    · refine List.mem_append_left _ (List.mem_append_right _ (List.mem_map.mpr ⟨delivery, ?_, rfl⟩))
      exact List.mem_filter.mpr ⟨unacked, by simpa using mine⟩
    · refine List.mem_append_right _ (List.mem_map.mpr ⟨delivery, List.mem_filter.mpr ⟨?_, waiting⟩, rfl⟩)
      exact List.mem_filter.mpr ⟨unacked, by simpa using mine⟩

end Lemmas

end AckQueue

end TaskHive
