import TaskHive.Decimal
import TaskHive.LogSystem.Sinks
import TaskHive.LogSystem.Stream

namespace TaskHive.LogSystem

open Wire

/-! # `AsyncLogger` with its sinks

`RealFlush` gives the whole consumer buffer to one sink after the other, and
prints the number of sinks before each.  A sink that throws ends the process,
since the thread of `ThreadFunc` does not catch. -/

def flushListSize (count : Nat) : Bytes := decimal count ++ utf8 " flush_list size\n"

structure Logger (κ : Type) where
  worker : State κ
  sinks : List Sink
  shared : Shared
  terminated : Bool := false

inductive LoggerAction (κ : Type) where
  | push (caller : κ)
  | consumer (meeting : Meeting)
  | stop

section Steps

variable {κ : Type} [DecidableEq κ]

omit [DecidableEq κ] in
/-- The sink whose `Flush` is the next statement of the thread. -/
def State.sinkCall (setup : Setup κ) (state : State κ) : Option Nat :=
  match state.consumer with
  | .flushing index => if (setup.callback index state.buffConsumer).isSome then some index else none
  | _ => none

omit [DecidableEq κ] in
/-- The number of sinks has been printed. -/
def Logger.announced (logger : Logger κ) (meeting : Meeting) : Shared :=
  { logger.shared with cout := logger.shared.cout.write meeting.prints (flushListSize logger.sinks.length) }

def Logger.flushStep (setup : Setup κ) (logger : Logger κ) (meeting : Meeting) (index : Nat) : Option (Logger κ) :=
  match logger.sinks[index]? with
  | none => none
  | some sink =>
      match sink.flush meeting logger.worker.buffConsumer.unread (logger.announced meeting) with
      | .ok (flushed, shared) =>
          (consumerStep setup logger.worker).map fun worker =>
            { logger with worker, shared, sinks := logger.sinks.set index flushed }
      | .error _ => some { logger with terminated := true }

def loggerStep (setup : Setup κ) (logger : Logger κ) (action : LoggerAction κ) : Option (Logger κ) :=
  if logger.terminated then none
  else
    match action with
    | .push caller => (pushStep setup logger.worker caller).map fun worker => { logger with worker }
    | .consumer meeting =>
        match logger.worker.sinkCall setup with
        | some index => logger.flushStep setup meeting index
        | none => (consumerStep setup logger.worker).map fun worker => { logger with worker }
    | .stop => (stopStep logger.worker).map fun worker => { logger with worker }

/-- All input and output succeeds. -/
def Undisturbed (_ : Logger κ) : LoggerAction κ → Prop
  | .consumer meeting => meeting.Succeeds
  | _ => True

instance (logger : Logger κ) : (action : LoggerAction κ) → Decidable (Undisturbed logger action)
  | .consumer meeting => inferInstanceAs (Decidable meeting.Succeeds)
  | .push _ | .stop => inferInstanceAs (Decidable True)

end Steps

/-! ## What one step can do -/

section Inversion

variable {κ : Type} [DecidableEq κ] {setup : Setup κ}

inductive Logger.Step (setup : Setup κ) (before : Logger κ) : LoggerAction κ → Logger κ → Prop where
  | push (caller : κ) (worker : State κ) (stepped : Transition setup before.worker (.push caller) worker) :
      Step setup before (.push caller) { before with worker }
  | stop (worker : State κ) (stepped : Transition setup before.worker .stop worker) :
      Step setup before .stop { before with worker }
  | consumer (meeting : Meeting) (quiet : before.worker.sinkCall setup = none) (worker : State κ)
      (stepped : Transition setup before.worker .consumer worker) :
      Step setup before (.consumer meeting) { before with worker }
  | flush (meeting : Meeting) (index : Nat) (due : before.worker.sinkCall setup = some index) (sink flushed : Sink)
      (shared : Shared) (found : before.sinks[index]? = some sink)
      (done : sink.flush meeting before.worker.buffConsumer.unread (before.announced meeting) = .ok (flushed, shared))
      (worker : State κ) (stepped : consumerStep setup before.worker = some worker) :
      Step setup before (.consumer meeting) { before with worker, shared, sinks := before.sinks.set index flushed }
  | throw (meeting : Meeting) (index : Nat) (due : before.worker.sinkCall setup = some index) (sink : Sink)
      (found : before.sinks[index]? = some sink) (reason : String)
      (thrown : sink.flush meeting before.worker.buffConsumer.unread (before.announced meeting) = .error reason) :
      Step setup before (.consumer meeting) { before with terminated := true }

theorem loggerStep_step {before after : Logger κ} {action : LoggerAction κ}
    (stepped : loggerStep setup before action = some after) : Logger.Step setup before action after := by
  unfold loggerStep at stepped
  split at stepped
  · cases stepped
  · cases action with
    | push caller =>
        obtain ⟨worker, moved, rfl⟩ := Option.map_eq_some_iff.mp stepped
        exact .push caller worker (pushStep_transition moved)
    | stop =>
        obtain ⟨worker, moved, rfl⟩ := Option.map_eq_some_iff.mp stepped
        exact .stop worker (stopStep_transition moved)
    | consumer meeting =>
        simp only at stepped
        split at stepped
        · rename_i index due
          unfold Logger.flushStep at stepped
          split at stepped
          · cases stepped
          · rename_i sink found
            split at stepped
            · rename_i flushed shared done
              obtain ⟨worker, moved, rfl⟩ := Option.map_eq_some_iff.mp stepped
              exact .flush meeting index due sink flushed shared found done worker moved
            · rename_i reason thrown
              cases stepped
              exact .throw meeting index due sink found reason thrown
        · rename_i quiet
          obtain ⟨worker, moved, rfl⟩ := Option.map_eq_some_iff.mp stepped
          exact .consumer meeting quiet worker (consumerStep_transition moved)

end Inversion

/-! ## What is on the console

Between the lines of the sinks stand what `RealFlush` and the rolling files print
about themselves. -/

inductive Piece (κ : Type) where
  | size (count : Nat)
  | rolling
  | written (sink : Nat) (lines : List κ)

section Pieces

variable {κ : Type}

def Piece.bytes (data : κ → Bytes) : Piece κ → Bytes
  | .size count => flushListSize count
  | .rolling => rollingFlushLine
  | .written _ lines => lines.flatMap data

/-- The lines that a sink has written. -/
def Piece.linesOf (sink : Nat) : Piece κ → List κ
  | .written other lines => if other = sink then lines else []
  | _ => []

/-- What a call of the sink number `index` with these lines puts there. -/
def Sink.pieces (index : Nat) (lines : List κ) : Sink → List (Piece κ)
  | .stdout => [.written index lines]
  | .file _ _ _ => []
  | .rolling _ _ => [.rolling]

theorem Sink.bytes_pieces (data : κ → Bytes) (index : Nat) (lines : List κ) (sink : Sink) :
    (sink.pieces index lines).flatMap (Piece.bytes data) = sink.echo (lines.flatMap data) := by
  cases sink <;> simp [Sink.pieces, Piece.bytes, Sink.echo]

theorem Sink.linesOf_pieces_of_ne {index other : Nat} (different : other ≠ index) (lines : List κ) (sink : Sink) :
    (sink.pieces index lines).flatMap (Piece.linesOf other) = [] := by
  cases sink <;> simp [Sink.pieces, Piece.linesOf, Ne.symm different]

/-- Only a sink on the console writes its lines there. -/
theorem Sink.eq_of_mem_pieces {index other : Nat} {lines shown : List κ} {sink : Sink}
    (member : .written other shown ∈ sink.pieces index lines) : other = index ∧ sink = .stdout := by
  cases sink with
  | stdout =>
      rw [Sink.pieces, List.mem_singleton, Piece.written.injEq] at member
      exact ⟨member.1, rfl⟩
  | file | rolling => simp [Sink.pieces] at member

/-- The console shows these pieces, and lines only of sinks that write to it. -/
structure Printed (data : κ → Bytes) (first : List Sink) (start console : Console) (pieces : List (Piece κ)) :
    Prop where
  output : console = { output := start.output ++ pieces.flatMap (Piece.bytes data) }
  owned : ∀ sink lines, .written sink lines ∈ pieces → first[sink]? = some .stdout

theorem Printed.append {data : κ → Bytes} {first : List Sink} {start console : Console} {pieces more : List (Piece κ)}
    (printed : Printed data first start console pieces)
    (owned : ∀ sink lines, .written sink lines ∈ more → first[sink]? = some .stdout) :
    Printed data first start { output := console.output ++ more.flatMap (Piece.bytes data) } (pieces ++ more) where
  output := by
    rw [printed.output, List.flatMap_append, List.append_assoc]
  owned sink lines member := by
    rcases List.mem_append.mp member with before | added
    · exact printed.owned sink lines before
    · exact owned sink lines added

end Pieces

/-! ## Where the lines are -/

/-- The sink has been given what the consumer buffer holds. -/
def ConsumerPc.served : ConsumerPc → Nat → Bool
  | .flushing current, index => decide (index < current)
  | .called, _ => true
  | _, _ => false

section Lines

variable {κ : Type} {setup : Setup κ} {first : List Sink} {start : Shared} {logger before after : Logger κ}
  {pieces : List (Piece κ)} {given : List (List κ)} {held waiting : List κ}

/-- The chunks after the current one, if there is one and it has been served. -/
def withCurrent (given : List (List κ)) (held : List κ) (served : Bool) : List (List κ) :=
  if served = true ∧ held ≠ [] then given ++ [held] else given

def chunkBytes (setup : Setup κ) (chunks : List (List κ)) : List Bytes :=
  chunks.map fun lines => lines.flatMap setup.data

/-- These chunks of lines have gone to the sink number `index`. -/
structure Served (setup : Setup κ) (start : Shared) (pieces : List (Piece κ)) (file : Bytes → Option Bytes)
    (index : Nat) (chunks : List (List κ)) (sink now : Sink) : Prop where
  holds : Sink.Holds start.file (chunkBytes setup chunks) sink file now
  shown : sink = .stdout → pieces.flatMap (Piece.linesOf index) = chunks.flatten

/-- The accepted calls in order: those whose lines have been given to the sinks, by
chunks, those whose lines are in the consumer buffer and those whose lines are
in the producer buffer. -/
structure Lined (setup : Setup κ) (first : List Sink) (start : Shared) (logger : Logger κ) (pieces : List (Piece κ))
    (given : List (List κ)) (held waiting : List κ) : Prop where
  accepted : logger.worker.accepted = given.flatten ++ held ++ waiting
  producer : logger.worker.bufferProductor.unread = waiting.flatMap setup.data
  consumer : logger.worker.buffConsumer.unread = held.flatMap setup.data
  drained : logger.worker.consumer.drained = true → held = []
  count : logger.sinks.length = first.length
  printed : Printed setup.data first start.cout logger.shared.cout pieces
  served : ∀ (index : Nat) (sink now : Sink), first[index]? = some sink → logger.sinks[index]? = some now →
    Served setup start pieces logger.shared.file index
      (withCurrent given held (logger.worker.consumer.served index)) sink now
  running : logger.terminated = false

/-- A step that leaves the buffers alone. -/
theorem Lined.move (lined : Lined setup first start logger pieces given held waiting) {worker : State κ}
    (accepted : worker.accepted = logger.worker.accepted)
    (producer : worker.bufferProductor = logger.worker.bufferProductor)
    (consumer : worker.buffConsumer = logger.worker.buffConsumer)
    (drains : worker.consumer.drained = true → logger.worker.consumer.drained = true)
    (serves : ∀ index < first.length, withCurrent given held (worker.consumer.served index) =
      withCurrent given held (logger.worker.consumer.served index)) :
    Lined setup first start { logger with worker } pieces given held waiting where
  accepted := accepted.trans lined.accepted
  producer := by
    change worker.bufferProductor.unread = _
    rw [producer, lined.producer]
  consumer := by
    change worker.buffConsumer.unread = _
    rw [consumer, lined.consumer]
  drained reset := lined.drained (drains reset)
  count := lined.count
  printed := lined.printed
  served index sink now was is := by
    have before := lined.served index sink now was is
    rw [← serves index (List.getElem?_eq_some_iff.mp was).1] at before
    exact before
  running := lined.running

theorem Lined.setConsumer (lined : Lined setup first start logger pieces given held waiting) {old new : ConsumerPc}
    (pc : logger.worker.consumer = old) (drains : new.drained = true → old.drained = true)
    (serves : new.served = old.served) :
    Lined setup first start { logger with worker := logger.worker.setConsumer new } pieces given held waiting := by
  refine lined.move rfl rfl rfl ?_ ?_
  · rw [pc]
    exact drains
  · intro index _
    rw [pc]
    change withCurrent given held (new.served index) = _
    rw [serves]

variable [DecidableEq κ] {worker : State κ}

theorem Lined.push (lined : Lined setup first start logger pieces given held waiting) {caller : κ}
    (transition : Transition setup logger.worker (.push caller) worker) :
    ∃ more, Lined setup first start { logger with worker } pieces given held (waiting ++ more) := by
  cases transition with
  | pushWrite _ writing pushed written =>
      refine ⟨[caller], ?_, ?_, lined.consumer, lined.drained, lined.count, lined.printed, lined.served, lined.running⟩
      · change logger.worker.accepted ++ [caller] = _
        rw [lined.accepted, List.append_assoc]
      · change pushed.unread = _
        rw [ValidBuffer.unread_push written, lined.producer, List.flatMap_append]
        simp
  | _ =>
      refine ⟨[], ?_⟩
      rw [List.append_nil]
      exact lined.move rfl rfl rfl id fun _ _ => rfl

theorem Lined.stop (lined : Lined setup first start logger pieces given held waiting)
    (transition : Transition setup logger.worker .stop worker) :
    Lined setup first start { logger with worker } pieces given held waiting := by
  cases transition <;> exact lined.move rfl rfl rfl id fun _ _ => rfl

omit [DecidableEq κ] in
theorem Lined.swap (lined : Lined setup first start logger pieces given held waiting)
    (swapping : logger.worker.consumer = .swapping) :
    Lined setup first start { logger with
      worker := { logger.worker.setConsumer .swapped with
        bufferProductor := logger.worker.buffConsumer, buffConsumer := logger.worker.bufferProductor } }
      pieces given waiting [] := by
  have empty : held = [] := lined.drained (by rw [swapping]; rfl)
  subst empty
  refine ⟨?_, lined.consumer, lined.producer, (fun reset => by cases reset), lined.count, lined.printed, ?_,
    lined.running⟩
  · change logger.worker.accepted = _
    rw [lined.accepted]
    simp
  · intro index sink now was is
    have before := lined.served index sink now was is
    rw [swapping] at before
    exact before

omit [DecidableEq κ] in
/-- The thread resets the buffer, whose lines every sink has now. -/
theorem Lined.reset (lined : Lined setup first start logger pieces given held waiting)
    (called : logger.worker.consumer = .called) :
    Lined setup first start { logger with
      worker := { logger.worker.setConsumer .testingStop with buffConsumer := logger.worker.buffConsumer.reset } }
      pieces (withCurrent given held true) [] waiting := by
  refine ⟨?_, lined.producer, ValidBuffer.unread_reset _, fun _ => rfl, lined.count, lined.printed, ?_, lined.running⟩
  · change logger.worker.accepted = _
    rw [lined.accepted, withCurrent]
    split
    · simp
    · rename_i none
      have empty : held = [] := by simpa using none
      simp [empty]
  · intro index sink now was is
    have before := lined.served index sink now was is
    rw [called] at before
    have current : withCurrent (withCurrent given held true) [] (ConsumerPc.testingStop.served index) =
        withCurrent given held true := if_neg (by simp)
    change Served setup start pieces logger.shared.file index
      (withCurrent (withCurrent given held true) [] (ConsumerPc.testingStop.served index)) sink now
    rw [current]
    exact before

omit [DecidableEq κ] in
theorem flatMap_eq_nil (nonempty : ∀ caller, setup.data caller ≠ []) {lines : List κ}
    (empty : lines.flatMap setup.data = []) : lines = [] := by
  cases lines with
  | nil => rfl
  | cons caller rest =>
      rw [List.flatMap_cons] at empty
      exact absurd (List.append_eq_nil_iff.mp empty).1 (nonempty caller)

omit [DecidableEq κ] in
/-- `RealFlush` returns when all sinks have been served or there is nothing to
give them. -/
theorem Lined.finish (lined : Lined setup first start logger pieces given held waiting)
    (nonempty : ∀ caller, setup.data caller ≠ []) (callback : setup.callback = realFlush first.length) {index : Nat}
    (flushing : logger.worker.consumer = .flushing index)
    (ended : setup.callback index logger.worker.buffConsumer = none) :
    Lined setup first start { logger with worker := logger.worker.setConsumer .called } pieces given held waiting := by
  refine lined.move rfl rfl rfl (fun reset => by cases reset) ?_
  intro other bound
  rw [flushing]
  rw [callback] at ended
  rcases realFlush_eq_none ended with empty | last
  · rw [lined.consumer] at empty
    rw [flatMap_eq_nil nonempty empty]
    simp [withCurrent]
  · have served : other < index := Nat.lt_of_lt_of_le bound last
    simp [State.setConsumer, ConsumerPc.served, served]

theorem Lined.consume (lined : Lined setup first start logger pieces given held waiting)
    (nonempty : ∀ caller, setup.data caller ≠ []) (callback : setup.callback = realFlush first.length)
    (quiet : logger.worker.sinkCall setup = none) (transition : Transition setup logger.worker .consumer worker) :
    ∃ given held waiting, Lined setup first start { logger with worker } pieces given held waiting := by
  cases transition with
  | consumerEnter pc | consumerSleep pc | consumerWake pc =>
      refine ⟨_, _, _, lined.move rfl rfl rfl ?_ fun index _ => ?_⟩
      · rw [pc]
        exact fun _ => rfl
      · rw [pc]
        rfl
  | consumerRelease pc =>
      refine ⟨_, _, _, lined.move rfl rfl rfl (fun reset => by cases reset) fun index _ => ?_⟩
      rw [pc]
      rfl
  | consumerWait pc | consumerStopped pc | consumerExit pc =>
      exact ⟨_, _, _, lined.setConsumer pc (fun _ => rfl) rfl⟩
  | consumerReady inside | consumerRepeat inside =>
      rcases inside with pc | pc
      · exact ⟨_, _, _, lined.setConsumer pc (fun _ => rfl) rfl⟩
      · exact ⟨_, _, _, lined.setConsumer pc (fun _ => rfl) rfl⟩
  | consumerSwap swapping => exact ⟨_, _, _, lined.swap swapping⟩
  | consumerCall calling =>
      refine ⟨_, _, _, lined.move rfl rfl rfl (fun reset => by cases reset) fun index _ => ?_⟩
      rw [calling]
      rfl
  | consumerFlush index flushing left continues =>
      simp [State.sinkCall, flushing, continues] at quiet
  | consumerReturn index flushing ended => exact ⟨_, _, _, lined.finish nonempty callback flushing ended⟩
  | consumerReset called => exact ⟨_, _, _, lined.reset called⟩

omit [DecidableEq κ] in
theorem sinkCall_eq_some {index : Nat} (due : logger.worker.sinkCall setup = some index) :
    logger.worker.consumer = .flushing index ∧ (setup.callback index logger.worker.buffConsumer).isSome = true := by
  unfold State.sinkCall at due
  split at due
  · rename_i current flushing
    split at due
    · rename_i continues
      cases due
      exact ⟨flushing, continues⟩
    · cases due
  · cases due

omit [DecidableEq κ] in
/-- The sink that is being called has every chunk but the current one. -/
theorem Lined.called (lined : Lined setup first start logger pieces given held waiting) {index : Nat}
    (flushing : logger.worker.consumer = .flushing index) {sink now : Sink} (was : first[index]? = some sink)
    (is : logger.sinks[index]? = some now) :
    Served setup start pieces logger.shared.file index given sink now := by
  have before := lined.served index sink now was is
  rw [flushing, ConsumerPc.served, decide_eq_false (Nat.lt_irrefl index), withCurrent, if_neg (by simp)] at before
  exact before

omit [DecidableEq κ] in
theorem notMem_places (apart : first.Pairwise Sink.Apart) {index other : Nat}
    {sink another : Sink} (was : first[index]? = some sink) (is : first[other]? = some another)
    (different : other ≠ index) {path : Bytes} (inside : path ∈ another.places) : path ∉ sink.places := by
  obtain ⟨bound, rfl⟩ := List.getElem?_eq_some_iff.mp was
  obtain ⟨bound', rfl⟩ := List.getElem?_eq_some_iff.mp is
  have disjoint := List.pairwise_iff_getElem.mp apart
  rcases Nat.lt_or_gt_of_ne different with less | more
  · exact disjoint other index bound' bound less path inside
  · exact fun shared => disjoint index other bound bound' more path shared inside

omit [DecidableEq κ] in
theorem chunkBytes_concat (setup : Setup κ) (given : List (List κ)) (held : List κ) :
    chunkBytes setup (given ++ [held]) = chunkBytes setup given ++ [held.flatMap setup.data] := by
  simp [chunkBytes]

omit [DecidableEq κ] in
/-- The sink gets the lines of the consumer buffer as one more chunk. -/
theorem Served.flush {index : Nat} {sink now flushed : Sink} {shared left : Shared} {meeting : Meeting}
    (served : Served setup start pieces shared.file index given sink now) (succeeds : meeting.Succeeds)
    (done : now.flush meeting (held.flatMap setup.data) shared = .ok (flushed, left)) (count : Nat) :
    Served setup start (pieces ++ .size count :: sink.pieces index held) left.file index (given ++ [held]) sink
        flushed ∧
      ∀ path, path ∉ sink.places → left.file path = shared.file path := by
  obtain ⟨after, rest, flushes, holds, elsewhere⟩ := served.holds.flush succeeds (held.flatMap setup.data)
  rw [done, Except.ok.injEq, Prod.mk.injEq] at flushes
  obtain ⟨rfl, rfl⟩ := flushes
  refine ⟨⟨?_, ?_⟩, elsewhere⟩
  · rw [chunkBytes_concat]
    exact holds
  · intro console
    rw [List.flatMap_append, served.shown console, console]
    simp [Sink.pieces, Piece.linesOf]

omit [DecidableEq κ] in
/-- The other sinks stay as they are. -/
theorem Served.stays {index other : Nat} {sink another now : Sink} {shared left : Shared}
    {chunks : List (List κ)} (served : Served setup start pieces shared.file other chunks another now)
    (different : other ≠ index) (elsewhere : ∀ path, path ∉ sink.places → left.file path = shared.file path)
    (apart : ∀ path ∈ another.places, path ∉ sink.places) (count : Nat) :
    Served setup start (pieces ++ .size count :: sink.pieces index held) left.file other chunks another now where
  holds := served.holds.elsewhere fun path inside => elsewhere path (apart path inside)
  shown console := by
    rw [List.flatMap_append, List.flatMap_cons, sink.linesOf_pieces_of_ne different, served.shown console]
    simp [Piece.linesOf]

omit [DecidableEq κ] in
theorem Lined.flush (lined : Lined setup first start logger pieces given held waiting)
    (apart : first.Pairwise Sink.Apart)
    (callback : setup.callback = realFlush first.length) {index : Nat} (due : logger.worker.sinkCall setup = some index)
    {meeting : Meeting} (succeeds : meeting.Succeeds) {now flushed : Sink} {shared : Shared}
    (found : logger.sinks[index]? = some now)
    (done : now.flush meeting logger.worker.buffConsumer.unread (logger.announced meeting) = .ok (flushed, shared))
    (stepped : consumerStep setup logger.worker = some worker) :
    ∃ pieces, Lined setup first start { logger with worker, shared, sinks := logger.sinks.set index flushed } pieces
      given held waiting := by
  obtain ⟨flushing, continues⟩ := sinkCall_eq_some due
  obtain ⟨left, continued⟩ := Option.isSome_iff_exists.mp continues
  have realFlushes := continued
  rw [callback] at realFlushes
  obtain ⟨inside, rfl⟩ := realFlush_eq_some realFlushes
  have filled : held ≠ [] := by
    rintro rfl
    have empty := (ValidBuffer.isEmpty_iff _).mpr lined.consumer
    simp [realFlush, empty] at realFlushes
  simp only [consumerStep, flushing, continued, Option.some.injEq] at stepped
  subst stepped
  rw [lined.consumer] at done
  obtain ⟨sink, was⟩ : ∃ sink, first[index]? = some sink := ⟨_, List.getElem?_eq_getElem inside⟩
  have before : Served setup start pieces (logger.announced meeting).file index given sink now :=
    lined.called flushing was found
  obtain ⟨served, elsewhere⟩ := before.flush succeeds done logger.sinks.length
  refine ⟨pieces ++ .size logger.sinks.length :: sink.pieces index held, lined.accepted, lined.producer, lined.consumer,
    (fun reset => by cases reset), ?_, ?_, ?_, lined.running⟩
  · rw [List.length_set]
    exact lined.count
  · have announced : (logger.announced meeting).cout =
        { output := logger.shared.cout.output ++ flushListSize logger.sinks.length } := by
      rw [Logger.announced, succeeds.prints]
      exact Console.write_true (by rw [lined.printed.output]) _
    have console := Sink.flush_cout succeeds (by rw [announced]) done
    rw [announced, before.holds.echo_eq, ← Sink.bytes_pieces setup.data index held sink, List.append_assoc] at console
    have shown : shared.cout = { output := logger.shared.cout.output ++
        (Piece.size logger.sinks.length :: sink.pieces index held).flatMap (Piece.bytes setup.data) } := console
    change Printed setup.data first start.cout shared.cout _
    rw [shown]
    refine lined.printed.append fun other lines member => ?_
    rcases List.mem_cons.mp member with impossible | printed
    · cases impossible
    · obtain ⟨rfl, rfl⟩ := Sink.eq_of_mem_pieces printed
      exact was
  · intro other another next place is
    change Served setup start _ shared.file other (withCurrent given held (decide (other < index + 1))) another next
    by_cases current : other = index
    · subst other
      rw [List.getElem?_set_self (List.getElem?_eq_some_iff.mp found).1, Option.some.injEq] at is
      rw [was, Option.some.injEq] at place
      subst is place
      rw [decide_eq_true (Nat.lt_succ_self index), withCurrent, if_pos ⟨rfl, filled⟩]
      exact served
    · rw [List.getElem?_set_ne (Ne.symm current)] at is
      have same : decide (other < index + 1) = decide (other < index) := by
        rw [decide_eq_decide]
        omega
      rw [same]
      have held := lined.served other another next place is
      rw [flushing] at held
      exact held.stays current elsewhere (fun path => notMem_places apart was place current) _

/-- With input and output that succeeds, no sink throws. -/
theorem Lined.step (lined : Lined setup first start before pieces given held waiting)
    (apart : first.Pairwise Sink.Apart)
    (nonempty : ∀ caller, setup.data caller ≠ []) (callback : setup.callback = realFlush first.length)
    {action : LoggerAction κ} (undisturbed : Undisturbed before action)
    (stepped : loggerStep setup before action = some after) :
    ∃ pieces given held waiting, Lined setup first start after pieces given held waiting := by
  cases loggerStep_step stepped with
  | push caller worker transition =>
      obtain ⟨more, kept⟩ := lined.push transition
      exact ⟨pieces, given, held, waiting ++ more, kept⟩
  | stop worker transition => exact ⟨pieces, given, held, waiting, lined.stop transition⟩
  | consumer meeting quiet worker transition => exact ⟨pieces, lined.consume nonempty callback quiet transition⟩
  | flush meeting index due sink flushed shared found done worker moved =>
      obtain ⟨more, kept⟩ := lined.flush apart callback due undisturbed found done moved
      exact ⟨more, given, held, waiting, kept⟩
  | throw meeting index due now found reason thrown =>
      have inside : index < first.length := lined.count ▸ (List.getElem?_eq_some_iff.mp found).1
      have served := lined.called (sinkCall_eq_some due).1 (List.getElem?_eq_getElem inside) found
      have holds : Sink.Holds start.file (chunkBytes setup given) _ (before.announced meeting).file now := served.holds
      obtain ⟨flushed, left, done, _⟩ := holds.flush undisturbed before.worker.buffConsumer.unread
      rw [thrown] at done
      cases done

end Lines

/-! ## Sinks that have just been made -/

/-- The constructors have run, and nobody has removed a file since. -/
inductive Sink.New (file : Bytes → Option Bytes) : Sink → Prop where
  | stdout : New file .stdout
  | file (filename : Bytes) (flushLog : Nat) (found : Bytes → Option Bytes)
      (made : (file (cString filename)).isSome = true) : New file (FileFlush.new filename flushLog found true)
  | rolling (setup : RollingFileFlush.Setup) (positive : 0 < setup.maxSize) (found : Bytes → Option Bytes) :
      New file (.rolling setup (RollingFileFlush.init setup found))

theorem Sink.New.holds {file : Bytes → Option Bytes} {sink : Sink} (new : sink.New file) :
    Sink.Holds file [] sink file sink := by
  cases new with
  | stdout => exact ⟨.stdout, .stdout, rfl, by simp [Sink.places]⟩
  | file filename flushLog found made =>
      refine ⟨(FileFlush.new filename flushLog found true).seeing file, ?_, rfl, fun _ _ => rfl⟩
      refine .file _ _ _ _ (by simp [AppendStream.seeing, AppendStream.openAppend])
        (by simp [AppendStream.seeing, AppendStream.openAppend]) ?_ (by simp)
      intro path opened
      have here : cString filename = path := by simpa [AppendStream.seeing, AppendStream.openAppend] using opened
      rw [← here]
      exact made
  | rolling setup positive found =>
      refine ⟨.rolling setup (RollingFileFlush.init setup file), ?_, rfl, fun _ _ => rfl⟩
      refine .rolling setup positive _ _ ?_ (RollingFileFlush.progress_init setup file)
      intro path opened
      cases opened

/-- No file that the sink has generated was there before. -/
def Sink.Unused (file : Bytes → Option Bytes) : Sink → Prop
  | .rolling _ now => ∀ name ∈ now.generated, file (cString name) = none
  | _ => True

/-! ## Whole lines -/

section Whole

variable {κ : Type}

/-- The sink number `index` holds these lines in this order, and no file begins
or ends within one of them.  A sink for the console has put them there between
other pieces. -/
inductive Sink.HoldsLines (data : κ → Bytes) (lines : List κ) (start now : Shared) (pieces : List (Piece κ))
    (index : Nat) : Sink → Sink → Prop where
  | stdout (shown : pieces.flatMap (Piece.linesOf index) = lines) :
      HoldsLines data lines start now pieces index .stdout .stdout
  | file (path : Bytes) (flushLog : Nat) (first ofs : AppendStream Bytes UInt8)
      (content : (ofs.seeing now.file).content path = (first.seeing start.file).content path ++ lines.flatMap data) :
      HoldsLines data lines start now pieces index (.file path flushLog first) (.file path flushLog ofs)
  | rolling (setup : RollingFileFlush.Setup) (first state : RollingFileFlush.State) (files : List (List κ))
      (all : files.flatten = lines) (created : state.ofs.created.Nodup)
      (contents : state.ofs.created.map (state.ofs.seeing now.file).content =
        files.map fun lines => lines.flatMap data)
      (others : ∀ path ∈ RollingFileFlush.places setup, path ∉ state.ofs.created →
        now.file path = start.file path) :
      HoldsLines data lines start now pieces index (.rolling setup first) (.rolling setup state)

theorem exists_parts {α β : Type} (image : α → β) {groups : List (List β)} {items : List α}
    (same : groups.flatten = items.map image) :
    ∃ parts : List (List α), parts.flatten = items ∧ groups = parts.map (List.map image) := by
  induction groups generalizing items with
  | nil =>
      refine ⟨[], ?_, rfl⟩
      exact (List.map_eq_nil_iff.mp same.symm).symm
  | cons group rest ih =>
      obtain ⟨here, later, rfl, rfl, others⟩ := List.map_eq_append_iff.mp same.symm
      obtain ⟨parts, rfl, rfl⟩ := ih others.symm
      exact ⟨here :: parts, rfl, rfl⟩

theorem flatten_chunks (data : κ → Bytes) (chunks : List (List κ)) :
    (chunks.map fun lines => lines.flatMap data).flatten = chunks.flatten.flatMap data := by
  induction chunks with
  | nil => rfl
  | cons chunk rest ih => rw [List.map_cons, List.flatten_cons, List.flatten_cons, List.flatMap_append, ih]

theorem RollingFileFlush.Progress.partitioned {setup : RollingFileFlush.Setup} {file : Bytes → Option Bytes}
    {now : RollingFileFlush.State} {flushed : List Bytes} (progress : RollingFileFlush.Progress setup file now flushed)
    (fresh : ∀ name ∈ now.generated, file (cString name) = none) :
    RollingFileFlush.Partitioned setup file now flushed := by
  rcases progress.divided fresh with ⟨unbegun, rfl⟩ | divided
  · exact unbegun.partitioned
  · exact divided.partitioned progress.named

theorem RollingFileFlush.Named.mem_places {setup : RollingFileFlush.Setup} {names : List Bytes}
    (named : RollingFileFlush.Named setup.baseName names) {name : Bytes} (member : name ∈ names) :
    cString name ∈ RollingFileFlush.places setup := by
  obtain ⟨t, cnt, _, rfl⟩ := named.exists_cnt member
  exact ⟨t, cnt, rfl⟩

/-- Chunks of whole lines make files of whole lines. -/
theorem Served.lines {setup : Setup κ} {start shared : Shared} {pieces : List (Piece κ)} {index : Nat}
    {chunks : List (List κ)} {first now : Sink}
    (served : Served setup start pieces shared.file index chunks first now) (unused : now.Unused start.file) :
    Sink.HoldsLines setup.data chunks.flatten start shared pieces index first now := by
  obtain ⟨alone, held, same, found⟩ := served.holds
  cases held with
  | stdout =>
      cases now with
      | stdout => exact .stdout (served.shown rfl)
      | file | rolling => cases same
  | file path flushLog first alone _ _ _ content =>
      cases now with
      | stdout | rolling => cases same
      | file place mode ofs =>
          rw [Sink.seeing, Sink.seeing, Sink.file.injEq] at same
          obtain ⟨rfl, rfl, same⟩ := same
          refine .file place mode first ofs ?_
          rw [chunkBytes, flatten_chunks] at content
          rw [same, AppendStream.content_seeing (found place rfl), content]
  | rolling design positive first alone within progress =>
      cases now with
      | stdout | file => cases same
      | rolling own state =>
          rw [Sink.seeing, Sink.seeing, Sink.rolling.injEq] at same
          obtain ⟨rfl, same⟩ := same
          rw [RollingFileFlush.State.seeing, RollingFileFlush.State.seeing, RollingFileFlush.State.mk.injEq] at same
          obtain ⟨ofs, _, _, _, generated⟩ := same
          have created : (state.ofs.seeing shared.file).created = (alone.ofs.seeing shared.file).created := by rw [ofs]
          change state.ofs.created = alone.ofs.created at created
          have partitioned := progress.partitioned (generated ▸ unused)
          obtain ⟨groups, contents, all, _⟩ := partitioned.groups
          obtain ⟨parts, rfl, rfl⟩ := exists_parts _ all
          refine .rolling own _ state (parts.map List.flatten) ?_ ?_ ?_ ?_
          · exact List.flatten_flatten.symm
          · rw [created]
            exact partitioned.created
          · have inside : ∀ path ∈ alone.ofs.created, path ∈ RollingFileFlush.places own := by
              intro path member
              obtain ⟨name, recorded, rfl⟩ := (partitioned.files path).mp member
              exact progress.named.mem_places recorded
            have seen : alone.ofs.created.map (alone.ofs.seeing shared.file).content =
                alone.ofs.created.map alone.ofs.content := by
              refine List.map_congr_left fun path member => ?_
              exact AppendStream.content_seeing (found path (inside path member))
            rw [created, ofs, seen, contents, List.map_map, List.map_map]
            refine List.map_congr_left fun part _ => ?_
            exact flatten_chunks setup.data part
          · intro path inside outside
            rw [created] at outside
            rw [found path inside]
            exact partitioned.others path outside

variable [DecidableEq κ]

end Whole

/-- What the files that a rolling sink has created hold, oldest first. -/
def Logger.files {κ : Type} (logger : Logger κ) : Sink → List Bytes
  | .rolling _ state => state.ofs.created.map (state.ofs.seeing logger.shared.file).content
  | _ => []

end TaskHive.LogSystem
