import TaskHive.Client.NodeTable

namespace TaskHive.Client

open TaskHive.Wire

/-! # What the client reads of a scheduler's measurements

The scheduler writes its measurements behind `DEC` and under `network_speed`;
the client reads the entries as they are and looks for `network_usage`.  An
unassigned metric is `none`. -/

/-- Decimal texts of numbers: reading the text of a number gives a value that
depends on the number only. -/
structure Decimals (D : Type u) where
  toText : D → Bytes
  stod : Bytes → Option D
  rounded : D → D
  stod_toText : ∀ number, stod (toText number) = some (rounded number)

/-- The measurement that a metric of the client stands for. -/
def measured {D : Type u} (info : Scheduler.SystemInfo D) : Metric → D
  | .cpuUsage => info.cpuUsage
  | .memoryUsage => info.memoryUsage
  | .diskUsage => info.diskUsage
  | .networkUsage => info.networkSpeed

section Agreement

variable {D : Type u} (decimals : Decimals D)

/-- The client reads the node with this data and records what it has read, in
any order that the map may take. -/
def Stores [DecidableEq D] (data : Bytes) (leftover : SchedulerHeartbeat) (order : List (Bytes × Bytes))
    (state stored : TableState (Option D)) : Prop :=
  ∃ visited rearranged,
    tableStep (fun text => (decimals.stod text).map some) state (.visit (some data) leftover (fun _ => none) order) =
        some visited ∧
      tableStep (fun text => (decimals.stod text).map some) visited (.record rearranged) = some stored

/-- The data is stored, and then the table has an entry under the scheduler's
id, in which every metric comes from its measurement. -/
def MetricsAgree [DecidableEq D] (identity : Scheduler.Identity) (info : Scheduler.SystemInfo D) (data : Bytes)
    (leftover : SchedulerHeartbeat) (order : List (Bytes × Bytes)) (state : TableState (Option D)) : Prop :=
  (∃ stored, Stores decimals data leftover order state stored) ∧
    ∀ stored, Stores decimals data leftover order state stored →
      ∃ node, (identity.zkNode, node) ∈ stored.table ∧
        ∀ metric, node.metric metric = some (decimals.rounded (measured info metric))

/-- What `DEC` says about the metrics agrees with the measurements, and it has
an entry for the one that the scheduler writes under another name. -/
def DecAgrees (dec : StringMap) (info : Scheduler.SystemInfo D) : Prop :=
  (∀ metric text, dec.lookup metric.key = some text →
    decimals.stod text = some (decimals.rounded (measured info metric))) ∧
    (dec.lookup Metric.networkUsage.key).isSome

/-- Of the four measurements, the one of the network is not written under the
key that the client reads. -/
theorem lookup_entries (info : Scheduler.SystemInfo D) (metric : Metric) :
    (info.entries decimals.toText).lookup metric.key =
      if metric = .networkUsage then none else some (decimals.toText (measured info metric)) := by
  cases metric <;> rfl

theorem heartbeat_becomes_iff {identity : Scheduler.Identity} {decOrder : List (Bytes × Bytes)}
    (iteratesDec : Iterates decOrder identity.dec) (now : Int64) (info : Scheduler.SystemInfo D) :
    (∀ metric : Metric, Becomes (fun text => (decimals.stod text).map some) none
        ((Scheduler.healthyHeartbeat decimals.toText identity decOrder now info).dec.lookup metric.key)
        (some (decimals.rounded (measured info metric)))) ↔
      DecAgrees decimals identity.dec info := by
  have text (metric : Metric) := Scheduler.lookup_healthyHeartbeat decimals.toText iteratesDec now info metric.key
  simp only [text, lookup_entries]
  constructor
  · intro fits
    refine ⟨fun metric text found => ?_, ?_⟩
    · have fit := fits metric
      rw [found, Option.some_or, Becomes] at fit
      simpa using fit
    · cases found : identity.dec.lookup Metric.networkUsage.key with
      | some text => rfl
      | none =>
          have fit := fits .networkUsage
          rw [found] at fit
          cases fit
  · rintro ⟨agrees, present⟩ metric
    cases found : identity.dec.lookup metric.key with
    | some text => simpa [Becomes] using agrees metric text found
    | none =>
        have written : metric ≠ .networkUsage := by
          rintro rfl
          simp [found] at present
        simp [Becomes, written, decimals.stod_toText]

/-- What the two steps leave is the table with the node that was read. -/
theorem stores_iff [DecidableEq D] {data : Bytes} {leftover heartbeat : SchedulerHeartbeat}
    {order : List (Bytes × Bytes)} (readBack : SchedulerHeartbeat.parseFromString (getNodeData (some data)) =
      some heartbeat) (iterates : Iterates order heartbeat.dec)
    {state : TableState (Option D)} {child : Bytes} {children : List Bytes}
    (visiting : state.pc = .visiting (child :: children)) {stored : TableState (Option D)} :
    Stores decimals data leftover order state stored ↔
      ∃ node rearranged,
        nodeInfo (fun text => (decimals.stod text).map some) (fun _ => none) order heartbeat = some node ∧
          rearranged.Perm (state.table.insert heartbeat.schedulerId node) ∧
          stored = { state with
            table := rearranged
            pc := .visiting children
            readings := state.readings ++ [readHeartbeat (getNodeData (some data)) leftover] } := by
  simp only [Stores, tableStep, visiting, readHeartbeat_of_parsed readBack, iterates, if_true]
  cases found : nodeInfo (fun text => (decimals.stod text).map some) (fun _ => none) order heartbeat with
  | none => simp
  | some node => simp [eq_comm]

/-- The client's entry holds the four measurements exactly when `DEC` already
has `network_usage` and nothing in `DEC` contradicts a measurement. -/
theorem metrics_agree_iff [DecidableEq D] {identity : Scheduler.Identity} {decOrder : List (Bytes × Bytes)}
    (iteratesDec : Iterates decOrder identity.dec) (now : Int64) (info : Scheduler.SystemInfo D)
    (data : Bytes) (leftover : SchedulerHeartbeat) {order : List (Bytes × Bytes)}
    (readBack : SchedulerHeartbeat.parseFromString (getNodeData (some data)) =
      some (Scheduler.healthyHeartbeat decimals.toText identity decOrder now info))
    (iterates : Iterates order (Scheduler.healthyHeartbeat decimals.toText identity decOrder now info).dec)
    {state : TableState (Option D)} {child : Bytes} {children : List Bytes}
    (visiting : state.pc = .visiting (child :: children)) :
    MetricsAgree decimals identity info data leftover order state ↔ DecAgrees decimals identity.dec info := by
  rw [← heartbeat_becomes_iff decimals iteratesDec now info,
    ← nodeInfo_metrics_iff (fun text => (decimals.stod text).map some) (fun _ => none) iterates]
  simp only [MetricsAgree, stores_iff decimals readBack iterates visiting]
  constructor
  · rintro ⟨⟨stored, node, rearranged, found, perm, rfl⟩, agree⟩
    obtain ⟨entry, member, metrics⟩ := agree _ ⟨node, rearranged, found, perm, rfl⟩
    -- The insertion leaves no other entry under this id.
    rcases NodeTable.mem_insert.mp (perm.mem_iff.mp member) with ⟨_, other⟩ | same
    · exact absurd rfl other
    · cases same
      exact ⟨node, found, metrics⟩
  · rintro ⟨node, found, metrics⟩
    refine ⟨⟨_, node, _, found, .refl _, rfl⟩, ?_⟩
    rintro stored ⟨other, rearranged, same, perm, rfl⟩
    rw [found, Option.some.injEq] at same
    subst other
    exact ⟨node, perm.mem_iff.mpr (NodeTable.mem_insert.mpr (.inr rfl)), metrics⟩

end Agreement

/-- Numbers of one digit. -/
def digits : Decimals UInt8 where
  toText digit := [digit]
  stod
    | [digit] => some digit
    | _ => none
  rounded digit := digit
  stod_toText _ := rfl

def busy : Scheduler.SystemInfo UInt8 := { cpuUsage := 49, memoryUsage := 50, diskUsage := 51, networkSpeed := 52 }

/-- The node `a` is the only one of this pass. -/
def onlyChild : TableState (Option UInt8) := { pc := .visiting [utf8 "a"] }

/-- The heartbeat of a busy scheduler, with its map in the order of insertion. -/
def busyData (identity : Scheduler.Identity) (dec : List (Bytes × Bytes)) : Bytes :=
  (Scheduler.healthyHeartbeat digits.toText identity dec 7 busy).serializeToString
    (dec ++ busy.entries digits.toText)

/-- A scheduler whose capabilities repeat the network speed under the name that
the client reads. -/
def networkScheduler : Scheduler.Identity :=
  { Scheduler.plainScheduler with dec := insertAll ∅ [(utf8 "network_usage", [52])] }

theorem networkScheduler_agrees : DecAgrees digits networkScheduler.dec busy := by
  refine ⟨fun metric text found => ?_, by decide⟩
  by_cases network : metric = .networkUsage
  · subst metric
    have stored : networkScheduler.dec.lookup Metric.networkUsage.key = some [52] := by decide
    rw [stored, Option.some.injEq] at found
    subst text
    rfl
  · have unstored : networkScheduler.dec.lookup metric.key = none := by
      cases metric with
      | networkUsage => exact absurd rfl network
      | cpuUsage | memoryUsage | diskUsage => decide
    rw [unstored] at found
    cases found

theorem metrics_agree_with_network_usage :
    MetricsAgree digits networkScheduler busy (busyData networkScheduler [(utf8 "network_usage", [52])]) {}
      ([(utf8 "network_usage", [52])] ++ busy.entries digits.toText) onlyChild :=
  (metrics_agree_iff digits ⟨by decide, rfl⟩ 7 busy _ {} (by decide) ⟨by decide, by decide⟩ rfl).mpr
    networkScheduler_agrees

/-- What the client makes of the data without capabilities. -/
def networkUnassigned : SchedulerNodeInfo (Option UInt8) :=
  { ip := utf8 "h", port := 80, undataFlag := true, cpuUsage := some 49, memoryUsage := some 50,
    diskUsage := some 51, networkUsage := none }

/-- Without capabilities, the client's entry has no network usage. -/
theorem network_usage_unassigned :
    let data := busyData Scheduler.plainScheduler []
    let order := busy.entries digits.toText
    (∃ stored, Stores digits data {} order onlyChild stored ∧
      stored.table = [(Scheduler.plainScheduler.zkNode, networkUnassigned)]) ∧
      ¬ MetricsAgree digits Scheduler.plainScheduler busy data {} order onlyChild := by
  intro data order
  have stores : Stores digits data {} order onlyChild
      { table := [(Scheduler.plainScheduler.zkNode, networkUnassigned)]
        pc := .visiting []
        readings := [readHeartbeat (getNodeData (some data)) {}] } :=
    ⟨_, [(Scheduler.plainScheduler.zkNode, networkUnassigned)], rfl, rfl⟩
  refine ⟨⟨_, stores, rfl⟩, ?_⟩
  rintro ⟨_, agree⟩
  obtain ⟨node, member, metrics⟩ := agree _ stores
  cases List.mem_singleton.mp member
  cases metrics .networkUsage

end TaskHive.Client
