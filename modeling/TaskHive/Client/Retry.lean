import TaskHive.Client.Submit
import TaskHive.Cycle

namespace TaskHive.Client

open TaskHive.Wire

/-! # Asking again for a host

The submit thread repeats `get_hearly_secheduler_node` as long as the address
it gets is empty.  It holds the submit lock meanwhile; the table here is one
that does not change under it. -/

section Retry

variable {R : Type u} [LT R] [DecidableLT R] [Zero R] [Add R] [Sub R] [Mul R]

def getHearlySechedulerNode (config : LoadBalanceConfig R) (index : Nat) (table : NodeTable R) :
    Except String Host × Nat :=
  match checkTable table with
  | .error what => (.error what, index)
  | .ok () => chooseNode config index table

/-- The loop, with the number of calls it may make; `none` is a loop that has
not ended by then. -/
def retry (config : LoadBalanceConfig R) (table : NodeTable R) : Nat → Nat → Option (Except String Host × Nat)
  | 0, _ => none
  | calls + 1, index =>
      match getHearlySechedulerNode config index table with
      | (.error what, next) => some (.error what, next)
      | (.ok host, next) => if host.1 = [] then retry config table calls next else some (.ok host, next)

/-- The entry that a strategy other than round robin prefers. -/
def preferred (config : LoadBalanceConfig R) (table : NodeTable R) : Option (Bytes × SchedulerNodeInfo R) :=
  match config.loadBalanceType with
  | .roundRobin => none
  | .cpuPriority => cpuPriorityNode table
  | .memoryPriority => memoryPriorityNode table
  | .diskPriority => diskPriorityNode table
  | .networkPriority => networkPriorityNode table
  | .combinedLoadBalance => combinedNode config.loadBalanceWeight table

theorem chooseNode_preferred {config : LoadBalanceConfig R} (ranked : config.loadBalanceType ≠ .roundRobin)
    (index : Nat) (table : NodeTable R) : chooseNode config index table = (hostOf (preferred config table), index) := by
  cases balance : config.loadBalanceType <;> simp only [chooseNode, preferred, balance]
  case roundRobin => exact absurd balance ranked
  all_goals rfl

theorem exists_preferred {config : LoadBalanceConfig R} (ranked : config.loadBalanceType ≠ .roundRobin)
    {table : NodeTable R} (nonempty : table ≠ []) : ∃ entry, preferred config table = some entry := by
  obtain ⟨host, chosen⟩ := chooseNode_ok config 0 nonempty
  rw [chooseNode_preferred ranked] at chosen
  obtain ⟨entry, found, _⟩ := hostOf_eq_ok chosen
  exact ⟨entry, found⟩

/-- One turn of the loop on a table with entries. -/
theorem retry_succ (config : LoadBalanceConfig R) {table : NodeTable R} {index next : Nat} {host : Host}
    (nonempty : table ≠ []) (chosen : chooseNode config index table = (.ok host, next)) (calls : Nat) :
    retry config table (calls + 1) index =
      if host.1 = [] then retry config table calls next else some (.ok host, next) := by
  simp only [retry, getHearlySechedulerNode, checkTable_ok nonempty, chosen]

/-- The same entry is preferred in every turn. -/
theorem retry_preferred {config : LoadBalanceConfig R} (ranked : config.loadBalanceType ≠ .roundRobin)
    {table : NodeTable R} (nonempty : table ≠ []) {entry : Bytes × SchedulerNodeInfo R}
    (found : preferred config table = some entry) (index calls : Nat) :
    retry config table (calls + 1) index =
      if entry.2.ip = [] then retry config table calls index else some (.ok (entry.2.ip, entry.2.port), index) := by
  have chosen : chooseNode config index table = (.ok (entry.2.ip, entry.2.port), index) := by
    rw [chooseNode_preferred ranked, found]
    rfl
  exact retry_succ config nonempty chosen calls

theorem retry_preferred_spins {config : LoadBalanceConfig R} (ranked : config.loadBalanceType ≠ .roundRobin)
    {table : NodeTable R} (nonempty : table ≠ []) {entry : Bytes × SchedulerNodeInfo R}
    (found : preferred config table = some entry) (unusable : entry.2.ip = []) (index calls : Nat) :
    retry config table calls index = none := by
  induction calls with
  | zero => rfl
  | succ calls ih => rw [retry_preferred ranked nonempty found, if_pos unusable, ih]

omit [LT R] [DecidableLT R] [Zero R] [Add R] [Sub R] [Mul R] in
theorem roundRobinLoadBalance_eq {index : Nat} {table : NodeTable R} {entry : Bytes × SchedulerNodeInfo R}
    (found : table[(index + 1) % table.length]? = some entry) :
    roundRobinLoadBalance index table = (.ok (entry.2.ip, entry.2.port), (index + 1) % table.length) := by
  have nonempty : table ≠ [] := List.ne_nil_of_mem (List.mem_of_getElem? found)
  simp [roundRobinLoadBalance, nonempty, found, hostOf]

/-- Round robin ends the loop when it comes to a usable entry, or before. -/
theorem retry_roundRobin {config : LoadBalanceConfig R} (balance : config.loadBalanceType = .roundRobin)
    {table : NodeTable R} (distance : Nat) {index : Nat} {entry : Bytes × SchedulerNodeInfo R}
    (ahead : table[(index + 1 + distance) % table.length]? = some entry) (usable : entry.2.ip ≠ []) :
    ∃ host next, retry config table (distance + 1) index = some (.ok host, next) ∧ host.1 ≠ [] := by
  have nonempty : table ≠ [] := List.ne_nil_of_mem (List.mem_of_getElem? ahead)
  have chosen (index : Nat) {entry : Bytes × SchedulerNodeInfo R}
      (found : table[(index + 1) % table.length]? = some entry) :
      chooseNode config index table = (.ok (entry.2.ip, entry.2.port), (index + 1) % table.length) := by
    rw [chooseNode, balance]
    exact roundRobinLoadBalance_eq found
  induction distance generalizing index with
  | zero =>
      refine ⟨(entry.2.ip, entry.2.port), (index + 1) % table.length, ?_, usable⟩
      rw [retry_succ config nonempty (chosen index ahead), if_neg usable]
  | succ distance ih =>
      have inside : (index + 1) % table.length < table.length := Nat.mod_lt _ (List.length_pos_iff.mpr nonempty)
      rw [retry_succ config nonempty (chosen index (List.getElem?_eq_getElem inside))]
      split
      · refine ih ?_
        rw [Nat.add_assoc, Nat.mod_add_mod, Nat.add_comm 1 distance]
        exact ahead
      · rename_i stopped
        exact ⟨_, _, rfl, stopped⟩

/-- With a usable scheduler in the table the loop ends with an address exactly
for round robin, or if the preferred entry has an address. -/
theorem host_selection_ends_iff (config : LoadBalanceConfig R) (index : Nat) {table : NodeTable R}
    (usable : ∃ entry ∈ table, entry.2.ip ≠ []) :
    (∃ calls host next, retry config table calls index = some (.ok host, next) ∧ host.1 ≠ []) ↔
      config.loadBalanceType = .roundRobin ∨ ∃ entry, preferred config table = some entry ∧ entry.2.ip ≠ [] := by
  obtain ⟨good, member, address⟩ := usable
  have nonempty : table ≠ [] := List.ne_nil_of_mem member
  by_cases ranked : config.loadBalanceType = .roundRobin
  · refine iff_of_true ?_ (.inl ranked)
    obtain ⟨position, found⟩ := List.mem_iff_getElem?.mp member
    obtain ⟨distance, ahead⟩ := exists_add_mod_eq (index + 1) (List.getElem?_eq_some_iff.mp found).1
    rw [← ahead] at found
    exact ⟨distance + 1, retry_roundRobin ranked distance found address⟩
  · obtain ⟨entry, found⟩ := exists_preferred ranked nonempty
    rw [or_iff_right ranked]
    constructor
    · rintro ⟨calls, host, next, ended, _⟩
      refine ⟨entry, found, fun unusable => ?_⟩
      rw [retry_preferred_spins ranked nonempty found unusable] at ended
      cases ended
    · rintro ⟨other, chosen, usable⟩
      refine ⟨1, (other.2.ip, other.2.port), index, ?_, usable⟩
      rw [retry_preferred ranked nonempty chosen, if_neg usable]

/-! ## The loop in the submit thread -/

/-- What the submit thread does in this many turns of the loop. -/
def turns (count : Nat) : List (SubmitAction R) :=
  (List.replicate count [SubmitAction.checkTable, .chooseNode]).flatten

theorem runWhile_turn (config : LoadBalanceConfig R) {state : SubmitState R} {task : Task} {host : Host} {next : Nat}
    (checking : state.pc = .checking task) (nonempty : state.table ≠ [])
    (chosen : chooseNode config state.roundRobinIndex state.table = (.ok host, next)) (rest : List (SubmitAction R)) :
    (submitMachine config).runWhile (fun _ _ => True) state (.checkTable :: .chooseNode :: rest) =
      (submitMachine config).runWhile (fun _ _ => True)
        { state with
          roundRobinIndex := next
          pc := if host.1 = [] then .checking task else .sending task host } rest := by
  simp [Machine.runWhile, submitMachine, submitStep, checking, checkTable_ok nonempty, chosen]

/-- The thread goes on to send when the loop ends, and is still asking as long
as it does not. -/
theorem submit_retries (config : LoadBalanceConfig R) (calls : Nat) {state : SubmitState R} {task : Task}
    (checking : state.pc = .checking task) (nonempty : state.table ≠ []) :
    (∀ host next, retry config state.table calls state.roundRobinIndex = some (.ok host, next) →
      ∃ count, (submitMachine config).runWhile (fun _ _ => True) state (turns count) =
        some { state with roundRobinIndex := next, pc := .sending task host }) ∧
    (retry config state.table calls state.roundRobinIndex = none →
      ∃ next, (submitMachine config).runWhile (fun _ _ => True) state (turns calls) =
        some { state with roundRobinIndex := next, pc := .checking task }) := by
  induction calls generalizing state with
  | zero =>
      refine ⟨fun host next ended => (by cases ended), fun _ => ⟨state.roundRobinIndex, ?_⟩⟩
      rw [← checking]
      rfl
  | succ calls ih =>
      obtain ⟨host, found⟩ := chooseNode_ok config state.roundRobinIndex nonempty
      have chosen : chooseNode config state.roundRobinIndex state.table =
          (.ok host, (chooseNode config state.roundRobinIndex state.table).2) := by rw [← found]
      have turn := runWhile_turn config checking nonempty chosen
      rw [retry_succ config nonempty chosen]
      by_cases empty : host.1 = []
      · rw [if_pos empty]
        simp only [if_pos empty] at turn
        obtain ⟨ends, spins⟩ := @ih
          { state with
            roundRobinIndex := (chooseNode config state.roundRobinIndex state.table).2
            pc := .checking task } rfl nonempty
        constructor
        · intro last next ended
          obtain ⟨count, sent⟩ := ends last next ended
          exact ⟨count + 1, (turn (turns count)).trans sent⟩
        · intro asking
          obtain ⟨next, still⟩ := spins asking
          exact ⟨next, (turn (turns calls)).trans still⟩
      · rw [if_neg empty]
        simp only [if_neg empty] at turn
        refine ⟨?_, fun asking => by cases asking⟩
        rintro _ _ ⟨⟩
        exact ⟨1, turn []⟩

end Retry

/-- A scheduler whose node could not be read, with an idle processor, before
one with an address. -/
def unreadBesideUsable : NodeTable Int :=
  [([], { ip := [], port := 0, undataFlag := true, cpuUsage := 0, memoryUsage := 0, diskUsage := 0
          networkUsage := 0 }),
    (utf8 "s", { ip := utf8 "h", port := 80, undataFlag := true, cpuUsage := 1, memoryUsage := 1, diskUsage := 1
                 networkUsage := 1 })]

/-- Round robin comes to the usable entry from the index of the other one. -/
theorem round_robin_selection_ends :
    (∃ calls host next, retry balance unreadBesideUsable calls 1 = some (.ok host, next) ∧ host.1 ≠ []) ↔
      balance.loadBalanceType = .roundRobin ∨
        ∃ entry, preferred balance unreadBesideUsable = some entry ∧ entry.2.ip ≠ [] :=
  host_selection_ends_iff balance 1 ⟨_, List.mem_cons_of_mem _ List.mem_cons_self, by decide⟩

/-- The idle processor of the entry without an address is preferred for ever. -/
theorem cpu_priority_selection_never_ends :
    (∃ entry ∈ unreadBesideUsable, entry.2.ip ≠ []) ∧
      ¬ ∃ calls host next,
        retry { balance with loadBalanceType := .cpuPriority } unreadBesideUsable calls 0 = some (.ok host, next) := by
  refine ⟨⟨_, List.mem_cons_of_mem _ List.mem_cons_self, by decide⟩, ?_⟩
  rintro ⟨calls, host, next, ended⟩
  rw [retry_preferred_spins (by decide) (by decide) rfl rfl] at ended
  cases ended

end TaskHive.Client
