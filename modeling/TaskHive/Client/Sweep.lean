import TaskHive.Client.NodeTable

namespace TaskHive.Client

open TaskHive.Wire

/-! # The table after a sweep

The table thread marks the entries that a pass renews and sweeps the others
away, so that after a sweep the table is what the pass before it read. -/

section Loop

variable {R : Type u}

/-- The sweep as the source writes it: `kept` is what the iterator has passed,
and `erase` answers with the iterator of the next entry. -/
def NodeTable.sweepLoop (kept : NodeTable R) : NodeTable R → NodeTable R
  | [] => kept
  | entry :: rest =>
      if entry.2.undataFlag = false then sweepLoop kept rest
      else sweepLoop (kept ++ [(entry.1, { entry.2 with undataFlag := false })]) rest

theorem NodeTable.sweepLoop_eq_append (kept table : NodeTable R) :
    NodeTable.sweepLoop kept table = kept ++ table.sweep := by
  induction table generalizing kept with
  | nil => simp [sweepLoop, sweep]
  | cons entry rest ih =>
      cases marked : entry.2.undataFlag <;> simp [sweepLoop, sweep, ih, marked]

/-- Erasing while iterating skips no entry and visits none twice. -/
theorem NodeTable.sweepLoop_eq_sweep (table : NodeTable R) : NodeTable.sweepLoop [] table = table.sweep :=
  NodeTable.sweepLoop_eq_append [] table

end Loop

/-! ## What one heartbeat leaves in an entry -/

section Shows

variable {R : Type u} {stod : Bytes → Option R}

/-- The node holds the data of this heartbeat. -/
structure Shows (stod : Bytes → Option R) (heartbeat : SchedulerHeartbeat) (node : SchedulerNodeInfo R) : Prop where
  host : node.host = (heartbeat.schedulerIp, heartbeat.schedulerPort)
  metrics : ∀ (metric : Metric) (text : Bytes), heartbeat.dec.lookup metric.key = some text →
    stod text = some (node.metric metric)

theorem Shows.reset {heartbeat : SchedulerHeartbeat} {node : SchedulerNodeInfo R}
    (shows : Shows stod heartbeat node) (flag : Bool) : Shows stod heartbeat { node with undataFlag := flag } where
  host := shows.host
  metrics metric text found := by
    rw [shows.metrics metric text found]
    cases metric <;> rfl

theorem shows_nodeInfo {stale : Metric → R} {order : List (Bytes × Bytes)} {heartbeat : SchedulerHeartbeat}
    {node : SchedulerNodeInfo R} (iterates : Iterates order heartbeat.dec)
    (read : nodeInfo stod stale order heartbeat = some node) : Shows stod heartbeat node where
  host := host_nodeInfo read
  metrics metric text found := by
    have becomes := (nodeInfo_metrics_iff stod stale iterates node.metric).mp ⟨node, read, fun _ => rfl⟩ metric
    rwa [found] at becomes

end Shows

theorem lastReading_concat (readings : List Reading) (reading : Reading) (schedulerId : Bytes) :
    lastReading (readings ++ [reading]) schedulerId =
      if reading.heartbeat.schedulerId = schedulerId then some reading else lastReading readings schedulerId := by
  simp only [lastReading, List.reverse_concat, List.find?_cons]
  split <;> simp_all

theorem mem_of_lastReading {readings : List Reading} {schedulerId : Bytes} {reading : Reading}
    (found : lastReading readings schedulerId = some reading) :
    reading ∈ readings ∧ reading.heartbeat.schedulerId = schedulerId :=
  ⟨List.mem_reverse.mp (List.mem_of_find?_eq_some found), by simpa using List.find?_some found⟩

/-! ## Passes -/

section Pass

variable {R : Type u}

/-- The thread together with how many readings there were when its last pass
began. -/
structure PassState (R : Type u) where
  thread : TableState R := {}
  passStart : Nat := 0

/-- What the last pass read: the one under way, or the one before the sweep. -/
def PassState.pass (state : PassState R) : List Reading :=
  state.thread.readings.drop state.passStart

/-- A pass begins when the thread asks for the children. -/
def PassState.nextStart (state : PassState R) : TableAction R → Nat
  | .getAllNode _ => state.thread.readings.length
  | .visit .. | .record _ | .endPass | .sweep => state.passStart

def passStep [DecidableEq R] (stod : Bytes → Option R) (state : PassState R) (action : TableAction R) :
    Option (PassState R) :=
  (tableStep stod state.thread action).map fun next =>
    { thread := next, passStart := state.nextStart action }

def passThread [DecidableEq R] (stod : Bytes → Option R) : Machine (PassState R) (TableAction R) where
  init := {}
  step := passStep stod

/-- The table is what this pass read: no entry of an earlier pass is left, each
entry shows the last heartbeat of its scheduler, and no entry is marked. -/
structure LastPass (stod : Bytes → Option R) (pass : List Reading) (table : NodeTable R) : Prop where
  distinct : (table.map Prod.fst).Nodup
  keys : ∀ schedulerId, schedulerId ∈ table.map Prod.fst ↔
    ∃ reading ∈ pass, reading.heartbeat.schedulerId = schedulerId
  entries : ∀ entry ∈ table, ∃ last, lastReading pass entry.1 = some last ∧ Shows stod last.heartbeat entry.2
  unmarked : ∀ entry ∈ table, entry.2.undataFlag = false

/-- While a pass is under way: exactly the schedulers recorded so far are
marked, and a marked entry shows the last heartbeat of its scheduler. -/
structure Marked (stod : Bytes → Option R) (recorded : List Reading) (table : NodeTable R) : Prop where
  distinct : (table.map Prod.fst).Nodup
  renewed : ∀ reading ∈ recorded, ∃ entry ∈ table,
    entry.1 = reading.heartbeat.schedulerId ∧ entry.2.undataFlag = true
  entries : ∀ entry ∈ table, entry.2.undataFlag = true →
    ∃ last, lastReading recorded entry.1 = some last ∧ Shows stod last.heartbeat entry.2

variable {stod : Bytes → Option R}

theorem LastPass.marked {pass : List Reading} {table : NodeTable R} (last : LastPass stod pass table) :
    Marked stod [] table where
  distinct := last.distinct
  renewed := by simp
  entries entry member marked := by
    rw [last.unmarked entry member] at marked
    cases marked

theorem NodeTable.nodup_insert {table : NodeTable R} (distinct : (table.map Prod.fst).Nodup)
    (schedulerId : Bytes) (node : SchedulerNodeInfo R) :
    ((table.insert schedulerId node).map Prod.fst).Nodup := by
  rw [NodeTable.insert, List.map_append]
  refine List.Nodup.append (distinct.sublist (List.filter_sublist.map _)) (by simp) ?_
  simp [List.disjoint_singleton]

/-- Recording a reading marks its scheduler. -/
theorem Marked.insert {recorded : List Reading} {table rearranged : NodeTable R} {reading : Reading}
    {node : SchedulerNodeInfo R} (known : Marked stod recorded table)
    (rearrangement : rearranged.Perm (table.insert reading.heartbeat.schedulerId node))
    (shows : Shows stod reading.heartbeat node) (marked : node.undataFlag = true) :
    Marked stod (recorded ++ [reading]) rearranged where
  distinct := (rearrangement.map Prod.fst).nodup_iff.mpr (NodeTable.nodup_insert known.distinct _ _)
  renewed other member := by
    have own : (reading.heartbeat.schedulerId, node) ∈ rearranged :=
      rearrangement.mem_iff.mpr (NodeTable.mem_insert.mpr (.inr rfl))
    by_cases same : other.heartbeat.schedulerId = reading.heartbeat.schedulerId
    · exact ⟨_, own, same.symm, marked⟩
    · rcases List.mem_append.mp member with earlier | new
      · obtain ⟨entry, kept, named, flagged⟩ := known.renewed other earlier
        refine ⟨entry, rearrangement.mem_iff.mpr (NodeTable.mem_insert.mpr (.inl ⟨kept, ?_⟩)), named, flagged⟩
        rwa [named]
      · exact absurd (by rw [List.mem_singleton.mp new]) same
  entries entry member flagged := by
    rw [lastReading_concat]
    rcases NodeTable.mem_insert.mp (rearrangement.mem_iff.mp member) with ⟨kept, other⟩ | rfl
    · rw [if_neg other.symm]
      exact known.entries entry kept flagged
    · exact ⟨reading, if_pos rfl, shows⟩

/-- A sweep turns the marks of a whole pass into the table of that pass. -/
theorem Marked.sweep {recorded : List Reading} {table : NodeTable R} (known : Marked stod recorded table) :
    LastPass stod recorded table.sweep where
  distinct := by
    rw [NodeTable.sweep, List.map_map]
    exact known.distinct.sublist (List.filter_sublist.map _)
  keys schedulerId := by
    constructor
    · intro member
      obtain ⟨entry, kept, rfl⟩ := List.mem_map.mp member
      obtain ⟨old, oldMember, flagged, rfl⟩ := NodeTable.mem_sweep.mp kept
      obtain ⟨last, found, _⟩ := known.entries old oldMember flagged
      exact ⟨last, mem_of_lastReading found⟩
    · rintro ⟨reading, member, rfl⟩
      obtain ⟨entry, kept, named, flagged⟩ := known.renewed reading member
      exact List.mem_map.mpr ⟨_, NodeTable.mem_sweep.mpr ⟨entry, kept, flagged, rfl⟩, named⟩
  entries entry member := by
    obtain ⟨old, oldMember, flagged, rfl⟩ := NodeTable.mem_sweep.mp member
    obtain ⟨last, found, shows⟩ := known.entries old oldMember flagged
    exact ⟨last, found, shows.reset false⟩
  unmarked entry member := by
    obtain ⟨old, _, _, rfl⟩ := NodeTable.mem_sweep.mp member
    rfl

/-- What the thread knows of its table, by where it is in its pass. -/
def Following (stod : Bytes → Option R) (pass : List Reading) (table : NodeTable R) : TablePc R → Prop
  | .listing => LastPass stod pass table
  | .visiting _ | .sleeping => Marked stod pass table
  | .recording schedulerId node _ =>
      ∃ recorded reading, pass = recorded ++ [reading] ∧ Marked stod recorded table ∧
        reading.heartbeat.schedulerId = schedulerId ∧ Shows stod reading.heartbeat node ∧ node.undataFlag = true
  | .terminated => True

/-- The pass began before all that was read in it. -/
structure FollowsPasses (stod : Bytes → Option R) (state : PassState R) : Prop where
  started : state.passStart ≤ state.thread.readings.length
  following : Following stod state.pass state.thread.table state.thread.pc

theorem PassState.drop_concat {state : PassState R} (started : state.passStart ≤ state.thread.readings.length)
    (reading : Reading) : (state.thread.readings ++ [reading]).drop state.passStart = state.pass ++ [reading] :=
  List.drop_append_of_le_length started

theorem followsPasses_step [DecidableEq R] {before after : PassState R} {action : TableAction R}
    (known : FollowsPasses stod before) (stepped : passStep stod before action = some after) :
    FollowsPasses stod after := by
  obtain ⟨next, threadStepped, rfl⟩ := Option.map_eq_some_iff.mp stepped
  obtain ⟨started, following⟩ := known
  cases tableStep_cases threadStepped with
  | getAllNode listing =>
      rw [listing] at following
      refine ⟨le_refl _, ?_⟩
      simp only [PassState.pass, PassState.nextStart, List.drop_length]
      exact following.marked
  | visit visiting came iterates read =>
      rw [visiting] at following
      refine ⟨started.trans (by simp), before.pass, _, PassState.drop_concat started _, following, rfl, ?_, ?_⟩
      · exact shows_nodeInfo iterates read
      · exact undataFlag_nodeInfo read
  | throw => exact ⟨started.trans (by simp), trivial⟩
  | record recording rearrangement =>
      rw [recording] at following
      obtain ⟨recorded, reading, whole, marked, rfl, shows, flagged⟩ := following
      refine ⟨started, ?_⟩
      have renewed := marked.insert rearrangement shows flagged
      rwa [← whole] at renewed
  | endPass visiting =>
      rw [visiting] at following
      exact ⟨started, following⟩
  | sweep sleeping =>
      rw [sleeping] at following
      exact ⟨started, following.sweep⟩

theorem followsPasses [DecidableEq R] {state : PassState R} (reached : (passThread stod).Reachable state) :
    FollowsPasses stod state := by
  refine reached.invariant ?_ ?_
  · refine ⟨le_refl 0, ?_⟩
    exact { distinct := .nil, keys := by simp [PassState.pass, passThread]
            entries := by simp [passThread], unmarked := by simp [passThread] }
  · intro before action after holds _ stepped
    exact followsPasses_step holds stepped

/-- Counting the readings of a pass changes nothing about the thread. -/
theorem exists_passStart [DecidableEq R] {state : TableState R} (reached : (tableThread stod).Reachable state) :
    ∃ passStart, (passThread stod).Reachable { thread := state, passStart } := by
  induction reached with
  | init => exact ⟨0, .init⟩
  | step _ _ stepped ih =>
      obtain ⟨passStart, before⟩ := ih
      exact ⟨_, before.step trivial (Option.map_eq_some_iff.mpr ⟨_, stepped, rfl⟩)⟩

/-- After every sweep the table is exactly what the pass before it read, so the
entry of a scheduler that a pass did not read is gone when that pass is swept. -/
theorem table_is_last_pass [DecidableEq R] (stod : Bytes → Option R) {state : PassState R}
    (reached : (passThread stod).Reachable state) (swept : state.thread.pc = .listing) :
    LastPass stod state.pass state.thread.table ∧
      ∀ schedulerId, (∀ reading ∈ state.pass, reading.heartbeat.schedulerId ≠ schedulerId) →
        ∀ entry ∈ state.thread.table, entry.1 ≠ schedulerId := by
  have last := (followsPasses reached).following
  rw [swept] at last
  refine ⟨last, ?_⟩
  rintro schedulerId unread entry member rfl
  obtain ⟨reading, read, named⟩ := (last.keys entry.1).mp (List.mem_map_of_mem member)
  exact unread reading read named

end Pass

/-- The first pass reads two schedulers, the second one only one of them, under
two addresses: its last address is all that the second sweep leaves. -/
theorem second_pass_leaves_last_address :
    ∃ state : PassState Int, (passThread fun _ => some 0).Reachable state ∧ state.thread.pc = .listing ∧
      state.thread.table = [(utf8 "t", { plainNode (utf8 "k") 81 with undataFlag := false })] ∧
      LastPass (fun _ => some 0) state.pass state.thread.table ∧
      ∀ schedulerId, (∀ reading ∈ state.pass, reading.heartbeat.schedulerId ≠ schedulerId) →
        ∀ entry ∈ state.thread.table, entry.1 ≠ schedulerId := by
  obtain ⟨state, reached, swept, table⟩ :=
    (passThread fun _ => some 0).reachableBy_of_any (fun _ _ => True)
      (fun state : PassState Int => state.thread.pc = .listing ∧
        state.thread.table = [(utf8 "t", { plainNode (utf8 "k") 81 with undataFlag := false })])
      [.getAllNode [utf8 "s", utf8 "t"],
        visitOf (utf8 "s") (utf8 "h") 80, .record [(utf8 "s", plainNode (utf8 "h") 80)],
        visitOf (utf8 "t") (utf8 "h") 80,
        .record [(utf8 "t", plainNode (utf8 "h") 80), (utf8 "s", plainNode (utf8 "h") 80)],
        .endPass, .sweep,
        .getAllNode [utf8 "t", utf8 "u"],
        visitOf (utf8 "t") (utf8 "h") 80,
        .record [(utf8 "s", { plainNode (utf8 "h") 80 with undataFlag := false }),
          (utf8 "t", plainNode (utf8 "h") 80)],
        visitOf (utf8 "t") (utf8 "k") 81,
        .record [(utf8 "t", plainNode (utf8 "k") 81),
          (utf8 "s", { plainNode (utf8 "h") 80 with undataFlag := false })],
        .endPass, .sweep] (by decide)
  exact ⟨state, reached, swept, table, table_is_last_pass _ reached swept⟩

end TaskHive.Client
