import TaskHive.Client.NodeTable
import TaskHive.MapStore

namespace TaskHive.ZooKeeper

open TaskHive.Wire

/-! # `ZkClient` as a map from paths to data

The servers keep data exactly.  `createNode` is content with a node that is
already there, and `getNodeData` reads into 1024 bytes.  Paths reach the servers
as C strings, data with its length. -/

/-- What became of a writing call, if the node allows it: the server may refuse
it for other reasons, and a call may be carried out without the client being
told. -/
structure Outcome where
  executed : Bool := true
  reported : Bool := true
  done : reported = true → executed = true := by decide

/-- With `ZOO_SEQUENCE` the server appends a number to the path. -/
inductive Write where
  | createNode (path data : Bytes) (sequence : Option Bytes) (outcome : Outcome)
  | setNodeData (path data : Bytes) (outcome : Outcome)
  | deleteNode (path : Bytes) (outcome : Outcome)

/-- `exists` -/
def hasNode (nodes : StringMap) (path : Bytes) : Bool := (nodes.lookup (cString path)).isSome

def createNode (nodes : StringMap) (path data : Bytes) (sequence : Option Bytes) (outcome : Outcome) :
    StringMap × Bool :=
  if hasNode nodes path then (nodes, true)
  else
    (if outcome.executed then nodes.insert (cString path ++ sequence.getD []) data else nodes, outcome.reported)

def setNodeData (nodes : StringMap) (path data : Bytes) (outcome : Outcome) : StringMap × Bool :=
  if hasNode nodes path then
    (if outcome.executed then nodes.insert (cString path) data else nodes, outcome.reported)
  else (nodes, false)

def deleteNode (nodes : StringMap) (path : Bytes) (outcome : Outcome) : StringMap × Bool :=
  if hasNode nodes path then
    (if outcome.executed then nodes.erase (cString path) else nodes, outcome.reported)
  else (nodes, false)

def Write.call (nodes : StringMap) : Write → StringMap × Bool
  | .createNode path data sequence outcome => ZooKeeper.createNode nodes path data sequence outcome
  | .setNodeData path data outcome => ZooKeeper.setNodeData nodes path data outcome
  | .deleteNode path outcome => ZooKeeper.deleteNode nodes path outcome

/-- The path of a call and what it is to hold. -/
def Write.intent : Write → Bytes × Option Bytes
  | .createNode path data _ _ | .setNodeData path data _ => (path, some data)
  | .deleteNode path _ => (path, none)

/-- A call of `getNodeData`, together with whether the node exists. -/
def readNode (nodes : StringMap) (path : Bytes) : Bytes × Bool :=
  (Client.getNodeData (nodes.lookup (cString path)), hasNode nodes path)

def zkClient : MapStore StringMap Write Bytes Bytes Bytes (Bytes × Bool) where
  init := ∅
  write nodes command := (command.call nodes).1
  meaning nodes command := if (command.call nodes).2 then some command.intent else none
  read := readNode
  key := id

/-- Exactly the data that is expected, and the empty string for a missing node
and for empty data only. -/
def Returns (answer : Bytes × Bool) (expected : Option Bytes) : Prop :=
  (∀ data, expected = some data → answer.1 = data) ∧ (answer.1 = [] ↔ answer.2 = false ∨ expected = some [])

/-- Paths are C strings, data fits into the buffer, a node is created where
there is none or one with the same data, and what was carried out is reported. -/
def Faithful (nodes : StringMap) : Access Write Bytes → Prop
  | .write (.createNode path data sequence outcome) =>
      (0 : UInt8) ∉ path ∧ data.length ≤ 1024 ∧ sequence = none ∧
        (nodes.lookup path = none ∨ nodes.lookup path = some data) ∧ (outcome.executed = true → outcome.reported = true)
  | .write (.setNodeData path data outcome) =>
      (0 : UInt8) ∉ path ∧ data.length ≤ 1024 ∧ (outcome.executed = true → outcome.reported = true)
  | .write (.deleteNode path outcome) => (0 : UInt8) ∉ path ∧ (outcome.executed = true → outcome.reported = true)
  | .read path => (0 : UInt8) ∉ path

instance decidableFaithful (nodes : StringMap) : (access : Access Write Bytes) → Decidable (Faithful nodes access)
  | .write (.createNode _ _ _ _) => inferInstanceAs (Decidable (_ ∧ _ ∧ _ ∧ (_ ∨ _) ∧ (_ → _)))
  | .write (.setNodeData _ _ _) => inferInstanceAs (Decidable (_ ∧ _ ∧ (_ → _)))
  | .write (.deleteNode _ _) => inferInstanceAs (Decidable (_ ∧ (_ → _)))
  | .read _ => inferInstanceAs (Decidable (_ ∉ _))

/-- Every path has its own node, with data that can be read whole. -/
def Represents (nodes : StringMap) (map : Bytes → Option Bytes) : Prop :=
  ∀ path, (0 : UInt8) ∉ path → nodes.lookup path = map path ∧ ∀ data, map path = some data → data.length ≤ 1024

section Writing

variable {nodes : StringMap} {map : Bytes → Option Bytes}

theorem Represents.insert (represents : Represents nodes map) (path : Bytes) {data : Bytes}
    (short : data.length ≤ 1024) : Represents (nodes.insert path data) (Function.update map path (some data)) := by
  intro other cleanOther
  by_cases same : other = path
  · subst other
    simp only [Finmap.lookup_insert, Function.update_self, Option.some.injEq, true_and]
    rintro stored rfl
    exact short
  · rw [Finmap.lookup_insert_of_ne _ same, Function.update_of_ne same]
    exact represents other cleanOther

theorem Represents.erase (represents : Represents nodes map) (path : Bytes) :
    Represents (nodes.erase path) (Function.update map path none) := by
  intro other cleanOther
  by_cases same : other = path
  · subst other
    simp
  · rw [Finmap.lookup_erase_ne same, Function.update_of_ne same]
    exact represents other cleanOther

/-- Being told what the node holds already changes nothing. -/
theorem Represents.same (represents : Represents nodes map) {path : Bytes} (clean : (0 : UInt8) ∉ path) {data : Bytes}
    (stored : nodes.lookup path = some data) : Represents nodes (Function.update map path (some data)) := by
  have known : Function.update map path (some data) = map := by
    rw [← stored, (represents path clean).1, Function.update_eq_self]
  rwa [known]

/-- A call that is reported when it is carried out. -/
theorem Represents.settle (represents : Represents nodes map) {outcome : Outcome}
    (told : outcome.executed = true → outcome.reported = true) {path : Bytes} {value : Option Bytes} {next : StringMap}
    (carried : Represents next (Function.update map path value)) :
    Represents (if outcome.executed then next else nodes)
      (assign map (if outcome.reported then some (path, value) else none)) := by
  cases executed : outcome.executed with
  | true =>
      rw [told executed]
      exact carried
  | false =>
      have unreported : outcome.reported = false := by
        by_contra reported
        rw [outcome.done (by simpa using reported)] at executed
        cases executed
      rw [unreported]
      exact represents

theorem hasNode_eq {path : Bytes} (clean : (0 : UInt8) ∉ path) : hasNode nodes path = (nodes.lookup path).isSome := by
  rw [hasNode, cString_eq_self clean]

theorem Represents.write (represents : Represents nodes map) {command : Write}
    (faithful : Faithful nodes (.write command)) :
    Represents (zkClient.write nodes command) (assign map (zkClient.meaning nodes command)) := by
  cases command with
  | createNode path data sequence outcome =>
      obtain ⟨clean, short, rfl, absent, told⟩ := faithful
      simp only [zkClient, Write.call, createNode, hasNode_eq clean, Write.intent, cString_eq_self clean]
      rcases absent with missing | stored
      · simpa [missing] using represents.settle told (represents.insert path short)
      · simp only [stored, Option.isSome_some, if_true]
        exact represents.same clean stored
  | setNodeData path data outcome =>
      obtain ⟨clean, short, told⟩ := faithful
      simp only [zkClient, Write.call, setNodeData, hasNode_eq clean, Write.intent, cString_eq_self clean]
      cases nodes.lookup path with
      | none => exact represents
      | some old => exact represents.settle told (represents.insert path short)
  | deleteNode path outcome =>
      obtain ⟨clean, told⟩ := faithful
      simp only [zkClient, Write.call, deleteNode, hasNode_eq clean, Write.intent, cString_eq_self clean]
      cases nodes.lookup path with
      | none => exact represents
      | some old => exact represents.settle told (represents.erase path)

theorem Represents.read (represents : Represents nodes map) {path : Bytes} (clean : (0 : UInt8) ∉ path) :
    Returns (readNode nodes path) (map path) := by
  obtain ⟨stored, short⟩ := represents path clean
  rw [readNode, hasNode_eq clean, cString_eq_self clean, stored]
  cases expected : map path with
  | none => exact ⟨by simp, by simp [Client.getNodeData]⟩
  | some data =>
      have whole : Client.getNodeData (some data) = data := List.take_of_length_le (short data expected)
      simp [Returns, whole]

end Writing

theorem zkClient_implements : zkClient.Implements Faithful Represents Returns where
  init path _ := ⟨rfl, by simp⟩
  write _ _ _ represents faithful := represents.write faithful
  read _ _ _ represents faithful := represents.read faithful

/-- In every run whose calls are faithful, each `getNodeData` has returned what
the last call on its path that returned true has left there. -/
theorem zk_client_is_map (state : Tracked StringMap Bytes Bytes (Bytes × Bool))
    (reached : zkClient.machine.ReachableBy (fun state access => Faithful state.store access) state) :
    ∀ reading ∈ state.readings, Returns reading.returned reading.expected :=
  (zkClient_implements.reachable reached).2

theorem zk_client_is_map_in_run :
    ∃ state, zkClient.machine.ReachableBy (fun state access => Faithful state.store access) state ∧
      state.readings.length = 2 ∧ ∀ reading ∈ state.readings, Returns reading.returned reading.expected := by
  obtain ⟨state, reached, two⟩ := zkClient.machine.reachableBy_of_any
    (fun state access => Faithful state.store access) (fun state => state.readings.length = 2)
    [.write (.createNode (utf8 "/a") (utf8 "1") none {}), .read (utf8 "/a"),
      .write (.setNodeData (utf8 "/a") (utf8 "2") {}), .write (.deleteNode (utf8 "/a") {}), .read (utf8 "/a")]
    (by decide)
  exact ⟨state, reached, two, zk_client_is_map state reached⟩

/-- Data that was just written is read back up to 1024 bytes. -/
theorem reading_of_created (path data : Bytes) :
    ∃ state, zkClient.machine.Reachable state ∧ ∃ reading ∈ state.readings,
      reading.expected = some data ∧ reading.returned.1 = data.take 1024 := by
  let created := zkClient.step zkClient.machine.init (.write (.createNode path data none {}))
  have first : zkClient.machine.Reachable created := .step .init trivial rfl
  have second : zkClient.machine.Reachable (zkClient.step created (.read path)) := .step first trivial rfl
  have stored : created.store.lookup (cString path) = some data := by
    simp [created, MapStore.step, MapStore.machine, zkClient, Write.call, createNode, hasNode]
  refine ⟨_, second, _, List.mem_append_right _ (List.mem_singleton_self _), ?_, ?_⟩
  · exact Function.update_self _ _ _
  · simp only [zkClient, readNode, stored]
    rfl

/-- Creating a node that exists returns true and keeps the old data, and data
of 1025 bytes comes back without its last byte. -/
theorem zk_client_not_map :
    (∃ state, zkClient.machine.Reachable state ∧ ∃ reading ∈ state.readings,
        reading.expected = some (utf8 "2") ∧ reading.returned = (utf8 "1", true)) ∧
      ∃ state, zkClient.machine.Reachable state ∧ ∃ reading ∈ state.readings, ∃ data : Bytes,
        data.length = 1025 ∧ reading.expected = some data ∧ reading.returned.1.length = 1024 ∧
          ¬ Returns reading.returned reading.expected := by
  constructor
  · exact zkClient.machine.reachable_of_any
      [.write (.createNode (utf8 "/a") (utf8 "1") none {}), .write (.createNode (utf8 "/a") (utf8 "2") none {}),
        .read (utf8 "/a")] (by decide)
  · obtain ⟨state, reached, reading, member, expected, returned⟩ :=
      reading_of_created (utf8 "/a") (List.replicate 1025 120)
    have length : reading.returned.1.length = 1024 := by
      rw [returned, List.length_take, List.length_replicate]
      rfl
    refine ⟨state, reached, reading, member, _, List.length_replicate, expected, length, fun exactly => ?_⟩
    have whole := congrArg List.length (exactly.1 _ expected)
    rw [length, List.length_replicate] at whole
    cases whole

end TaskHive.ZooKeeper
