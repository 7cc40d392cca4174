import TaskHive.Ending
import TaskHive.Scheduler.Receive

namespace TaskHive.Scheduler.Shutdown

open TaskHive.Wire

/-! # Stopping the thread that waits for connections

`accept` and `read` block.  `stop` clears `running_`, connects to the own port,
so that `accept` returns, closes the listening socket and joins the thread.  A
thread that is inside `accept` keeps the socket: closing the descriptor does not
wake it, and connections that the kernel has completed stay in their queue. -/

/-- What the first `read` of a connection returns: an error or some bytes, none
at the end of the stream. -/
inductive Arrival where
  | reset
  | data (bytes : Bytes)
deriving DecidableEq, Repr

def Arrival.accept : Arrival → Accept
  | .reset => .readFailed
  | .data bytes => .read bytes

/-- Nothing has arrived yet on a silent connection, and `read` waits. -/
abbrev Connection := Option Arrival

inductive ReceivePc where
  | top
  | calling
  | accepting
  | refused
  | reading (connection : Connection)
  | exited
deriving DecidableEq, Repr

inductive StopPc where
  | idle
  | flagged
  | connecting
  | closing
  | joining
  | returned
deriving DecidableEq, Repr

/-- `listening` tells whether `listen_socket_fd_` is not -1; `start` is reached
only if `init` has made the socket. -/
structure State where
  running : Bool := true
  listening : Bool := true
  queued : List Connection := []
  thread : ReceivePc := .top
  stop : StopPc := .idle
  pendingTasks : List Task := []

/-- The clients connect and send, the process has its two threads, and calls
may fail. -/
inductive Action where
  | connect
  | arriveQueued (index : Nat) (arrival : Arrival)
  | arriveReading (arrival : Arrival)
  | thread (now : Int64)
  | acceptFails
  | stop
  | connectFails

/-- The second argument of `listen`; the kernel refuses a connection when more
are queued. -/
def backlog : Nat := 10

def State.hasRoom (state : State) : Bool := decide (state.queued.length ≤ backlog)

def clientStep (state : State) : Action → Option State
  | .connect =>
      if (state.listening || state.thread = .accepting) && state.hasRoom then
        some { state with queued := state.queued ++ [none] }
      else none
  | .arriveQueued index arrival =>
      match state.queued[index]? with
      | some none => some { state with queued := state.queued.set index (some arrival) }
      | _ => none
  | .arriveReading arrival =>
      match state.thread with
      | .reading none => some { state with thread := .reading (some arrival) }
      | _ => none
  | _ => none

def threadStep (now : Int64) (state : State) : Option State :=
  match state.thread with
  | .top => some { state with thread := if state.running then .calling else .exited }
  | .calling => some { state with thread := if state.listening then .accepting else .refused }
  | .accepting =>
      match state.queued with
      | [] => none
      -- the last user of a closed socket is gone, and with it the queue
      | connection :: rest =>
          some { state with thread := .reading connection, queued := if state.listening then rest else [] }
  | .refused => some { state with thread := if state.running then .top else .exited }
  | .reading none => none
  | .reading (some arrival) =>
      some { state with thread := .top, pendingTasks := receiveTask now state.pendingTasks arrival.accept }
  | .exited => none

/-- The own connection is closed at once, so that its `read` finds the end of
the stream.  Where there is no room for it, `connect` gives up after a while. -/
def State.connectSelf (state : State) : State :=
  if state.hasRoom then { state with queued := state.queued ++ [some (.data [])] } else state

def stopStep (state : State) : Option State :=
  match state.stop with
  | .idle =>
      if state.running then some { state with running := false, stop := .flagged }
      else some { state with stop := .returned }
  | .flagged => some { state with stop := if state.listening then .connecting else .joining }
  | .connecting => some { state.connectSelf with stop := .closing }
  | .closing =>
      some { state with
        listening := false, queued := if state.thread = .accepting then state.queued else [], stop := .joining }
  | .joining => if state.thread = .exited then some { state with stop := .returned } else none
  | .returned => none

/-- `accept` fails for want of descriptors, `socket` or `connect` for any
reason. -/
def failureStep (state : State) : Action → Option State
  | .acceptFails => if state.thread = .accepting then some { state with thread := .refused } else none
  | .connectFails => if state.stop = .connecting then some { state with stop := .closing } else none
  | _ => none

def receiverStep (state : State) : Action → Option State
  | .thread now => threadStep now state
  | .stop => stopStep state
  | .connect => clientStep state .connect
  | .arriveQueued index arrival => clientStep state (.arriveQueued index arrival)
  | .arriveReading arrival => clientStep state (.arriveReading arrival)
  | .acceptFails => failureStep state .acceptFails
  | .connectFails => failureStep state .connectFails

def receiver : Machine State Action where
  init := {}
  step := receiverStep

/-- The process runs by itself: the clients are silent and no call fails. -/
def Own (_ : State) : Action → Prop
  | .thread _ | .stop => True
  | _ => False

instance (state : State) : (action : Action) → Decidable (Own state action)
  | .thread _ | .stop => inferInstanceAs (Decidable True)
  | .connect | .arriveQueued _ _ | .arriveReading _ | .acceptFails | .connectFails =>
      inferInstanceAs (Decidable False)

/-! ## Moves -/

inductive ThreadMove (now : Int64) (before : State) : State → Prop where
  | again (pc : before.thread = .top) (running : before.running = true) :
      ThreadMove now before { before with thread := .calling }
  | leave (pc : before.thread = .top) (cleared : before.running = false) :
      ThreadMove now before { before with thread := .exited }
  | enter (pc : before.thread = .calling) (listening : before.listening = true) :
      ThreadMove now before { before with thread := .accepting }
  | closed (pc : before.thread = .calling) (closed : before.listening = false) :
      ThreadMove now before { before with thread := .refused }
  | take (pc : before.thread = .accepting) (connection : Connection) (rest : List Connection)
      (queued : before.queued = connection :: rest) (left : List Connection)
      (kept : left = if before.listening then rest else []) :
      ThreadMove now before { before with thread := .reading connection, queued := left }
  | retry (pc : before.thread = .refused) (running : before.running = true) :
      ThreadMove now before { before with thread := .top }
  | stopped (pc : before.thread = .refused) (cleared : before.running = false) :
      ThreadMove now before { before with thread := .exited }
  | read (arrival : Arrival) (pc : before.thread = .reading (some arrival)) :
      ThreadMove now before
        { before with thread := .top, pendingTasks := receiveTask now before.pendingTasks arrival.accept }

theorem threadStep_move {now : Int64} {before after : State} (stepped : threadStep now before = some after) :
    ThreadMove now before after := by
  unfold threadStep at stepped
  split at stepped
  case h_1 pc =>
      cases stepped
      by_cases running : before.running = true
      · rw [if_pos running]
        exact .again pc running
      · rw [if_neg running]
        exact .leave pc (Bool.eq_false_iff.mpr running)
  case h_2 pc =>
      cases stepped
      by_cases listening : before.listening = true
      · rw [if_pos listening]
        exact .enter pc listening
      · rw [if_neg listening]
        exact .closed pc (Bool.eq_false_iff.mpr listening)
  case h_3 pc =>
      split at stepped
      · cases stepped
      · rename_i connection rest queued
        cases stepped
        exact .take pc connection rest queued _ rfl
  case h_4 pc =>
      cases stepped
      by_cases running : before.running = true
      · rw [if_pos running]
        exact .retry pc running
      · rw [if_neg running]
        exact .stopped pc (Bool.eq_false_iff.mpr running)
  case h_5 => cases stepped
  case h_6 arrival pc =>
      cases stepped
      exact .read arrival pc
  case h_7 => cases stepped

inductive StopMove (before : State) : State → Prop where
  | flag (pc : before.stop = .idle) (running : before.running = true) :
      StopMove before { before with running := false, stop := .flagged }
  | notRunning (pc : before.stop = .idle) (cleared : before.running = false) :
      StopMove before { before with stop := .returned }
  | begin (pc : before.stop = .flagged) (listening : before.listening = true) :
      StopMove before { before with stop := .connecting }
  | skip (pc : before.stop = .flagged) (closed : before.listening = false) :
      StopMove before { before with stop := .joining }
  | connect (pc : before.stop = .connecting) : StopMove before { before.connectSelf with stop := .closing }
  | close (pc : before.stop = .closing) (left : List Connection)
      (kept : left = if before.thread = .accepting then before.queued else []) :
      StopMove before { before with listening := false, queued := left, stop := .joining }
  | join (pc : before.stop = .joining) (exited : before.thread = .exited) :
      StopMove before { before with stop := .returned }

theorem stopStep_move {before after : State} (stepped : stopStep before = some after) : StopMove before after := by
  unfold stopStep at stepped
  split at stepped
  case h_1 pc =>
      split at stepped
      · rename_i running
        cases stepped
        exact .flag pc running
      · rename_i cleared
        cases stepped
        exact .notRunning pc (Bool.eq_false_iff.mpr cleared)
  case h_2 pc =>
      cases stepped
      by_cases listening : before.listening = true
      · rw [if_pos listening]
        exact .begin pc listening
      · rw [if_neg listening]
        exact .skip pc (Bool.eq_false_iff.mpr listening)
  case h_3 pc =>
      cases stepped
      exact .connect pc
  case h_4 pc =>
      cases stepped
      exact .close pc _ rfl
  case h_5 pc =>
      split at stepped
      · rename_i exited
        cases stepped
        exact .join pc exited
      · cases stepped
  case h_6 => cases stepped

inductive ClientMove (before : State) : Action → State → Prop where
  | connect (answered : (before.listening || before.thread = .accepting) = true) (room : before.hasRoom = true) :
      ClientMove before .connect { before with queued := before.queued ++ [none] }
  | arriveQueued (index : Nat) (arrival : Arrival) (silent : before.queued[index]? = some none) :
      ClientMove before (.arriveQueued index arrival) { before with queued := before.queued.set index (some arrival) }
  | arriveReading (arrival : Arrival) (pc : before.thread = .reading none) :
      ClientMove before (.arriveReading arrival) { before with thread := .reading (some arrival) }

theorem clientStep_move (action : Action) {before after : State} (stepped : clientStep before action = some after) :
    ClientMove before action after := by
  unfold clientStep at stepped
  split at stepped
  case h_1 =>
      split at stepped
      · rename_i possible
        cases stepped
        obtain ⟨answered, room⟩ := Bool.and_eq_true_iff.mp possible
        exact .connect answered room
      · cases stepped
  case h_2 index arrival =>
      split at stepped
      · rename_i silent
        cases stepped
        exact .arriveQueued index arrival silent
      · cases stepped
  case h_3 arrival =>
      split at stepped
      · rename_i pc
        cases stepped
        exact .arriveReading arrival pc
      · cases stepped
  case h_4 => cases stepped

/-- Everything that a step can do. -/
inductive Transition (before : State) : Action → State → Prop where
  | thread {after : State} (now : Int64) (move : ThreadMove now before after) : Transition before (.thread now) after
  | stop {after : State} (move : StopMove before after) : Transition before .stop after
  | client {after : State} (action : Action) (move : ClientMove before action after) : Transition before action after
  | acceptFails (pc : before.thread = .accepting) : Transition before .acceptFails { before with thread := .refused }
  | connectFails (pc : before.stop = .connecting) : Transition before .connectFails { before with stop := .closing }

theorem transition_of_step {before after : State} {action : Action}
    (stepped : receiver.step before action = some after) :
    Transition before action after := by
  cases action with
  | thread now => exact .thread now (threadStep_move stepped)
  | stop => exact .stop (stopStep_move stepped)
  | connect => exact .client _ (clientStep_move .connect stepped)
  | arriveQueued index arrival => exact .client _ (clientStep_move (.arriveQueued index arrival) stepped)
  | arriveReading arrival => exact .client _ (clientStep_move (.arriveReading arrival) stepped)
  | acceptFails =>
      simp only [receiver, receiverStep, failureStep] at stepped
      split at stepped
      · rename_i pc
        cases stepped
        exact .acceptFails pc
      · cases stepped
  | connectFails =>
      simp only [receiver, receiverStep, failureStep] at stepped
      split at stepped
      · rename_i pc
        cases stepped
        exact .connectFails pc
      · cases stepped

@[simp] theorem State.connectSelf_running (state : State) : state.connectSelf.running = state.running := by
  unfold connectSelf
  split <;> rfl

@[simp] theorem State.connectSelf_listening (state : State) : state.connectSelf.listening = state.listening := by
  unfold connectSelf
  split <;> rfl

@[simp] theorem State.connectSelf_thread (state : State) : state.connectSelf.thread = state.thread := by
  unfold connectSelf
  split <;> rfl

/-- Whether there was room or not, something is queued afterwards. -/
theorem State.connectSelf_queued_ne_nil (state : State) : state.connectSelf.queued ≠ [] := by
  unfold connectSelf hasRoom
  split
  · simp
  · rename_i full
    intro empty
    simp [empty, backlog] at full

/-- The own connection comes last, and it is not silent. -/
theorem State.head?_connectSelf (state : State) (spoken : state.queued.head? ≠ some none) :
    state.connectSelf.queued.head? ≠ some none := by
  unfold connectSelf
  split
  · cases queued : state.queued with
    | nil => simp
    | cons connection rest => simpa [queued] using spoken
  · exact spoken

/-! ## What `stop` has done so far -/

def StopPc.hasClosed : StopPc → Bool
  | .joining | .returned => true
  | _ => false

def StopPc.hasConnected : StopPc → Bool
  | .closing | .joining => true
  | _ => false

/-- The thread is inside `accept`, or on its way there. -/
def State.accepts (state : State) : Bool :=
  match state.thread with
  | .accepting => true
  | .calling => state.listening
  | _ => false

structure Sound (state : State) : Prop where
  flag : state.running = true ↔ state.stop = .idle
  socket : state.listening = !state.stop.hasClosed

theorem Sound.frame {before after : State} (sound : Sound before) (running : after.running = before.running)
    (listening : after.listening = before.listening) (stop : after.stop = before.stop) : Sound after where
  flag := by rw [running, stop, sound.flag]
  socket := by rw [listening, stop, sound.socket]

/-- `stop` goes on without closing the socket. -/
theorem Sound.advance {before after : State} (sound : Sound before) (begun : before.stop ≠ .idle)
    (still : after.stop ≠ .idle) (running : after.running = before.running)
    (listening : after.listening = before.listening) (closed : after.stop.hasClosed = before.stop.hasClosed) :
    Sound after where
  flag := by
    rw [running, sound.flag]
    exact iff_of_false begun still
  socket := by rw [listening, closed, sound.socket]

theorem Sound.cleared {state : State} (sound : Sound state) (begun : state.stop ≠ .idle) : state.running ≠ true :=
  fun running => begun (sound.flag.mp running)

theorem ThreadMove.stop {now : Int64} {before after : State} (move : ThreadMove now before after) :
    after.stop = before.stop := by
  cases move <;> rfl

theorem ThreadMove.sound {now : Int64} {before after : State} (move : ThreadMove now before after)
    (sound : Sound before) : Sound after := by
  cases move <;> exact sound.frame rfl rfl rfl

theorem StopMove.sound {before after : State} (move : StopMove before after) (sound : Sound before) :
    Sound after := by
  have flag := sound.flag
  have socket := sound.socket
  cases move with
  | flag pc running => exact ⟨by simp, by simpa [pc, StopPc.hasClosed] using socket⟩
  | notRunning pc cleared => exact absurd (flag.mpr pc) (by simp [cleared])
  | skip pc closed => simp [pc, StopPc.hasClosed, closed] at socket
  | close pc => exact ⟨by simpa [pc] using flag, by simp [StopPc.hasClosed]⟩
  | begin pc | join pc => exact sound.advance (by simp [pc]) (by simp) rfl rfl (by simp [pc, StopPc.hasClosed])
  | connect pc =>
      exact sound.advance (by simp [pc]) (by simp) before.connectSelf_running before.connectSelf_listening
        (by simp [pc, StopPc.hasClosed])

theorem ClientMove.sound {before after : State} {action : Action} (move : ClientMove before action after)
    (sound : Sound before) : Sound after := by
  cases move <;> exact sound.frame rfl rfl rfl

theorem sound_of_reachable {state : State} (reached : receiver.Reachable state) : Sound state := by
  apply reached.invariant
  · exact ⟨by simp [receiver], rfl⟩
  · intro before action after sound _ stepped
    cases transition_of_step stepped with
    | thread _ move => exact move.sound sound
    | stop move => exact move.sound sound
    | client _ move => exact move.sound sound
    | acceptFails => exact sound.frame rfl rfl rfl
    | connectFails pc => exact sound.advance (by simp [pc]) (by simp) rfl rfl (by simp [pc, StopPc.hasClosed])

/-! ## When `stop` returns -/

/-- Once `stop` has connected, `accept` is not left without a connection. -/
structure Invited (state : State) : Prop where
  sound : Sound state
  invited : state.stop.hasConnected = true → state.accepts = true → state.queued ≠ []

def ReceivePc.left : ReceivePc → Nat
  | .exited => 0
  | .top | .refused => 1
  | .reading (some _) => 2
  | .reading none => 3
  | .accepting => 4
  | .calling => 5

def StopPc.left : StopPc → Nat
  | .returned => 0
  | .joining => 1
  | .closing => 2
  | .connecting => 3
  | .flagged => 4
  | .idle => 5

/-- The steps that are left when `running_` is cleared. -/
def State.left (state : State) : Nat := state.thread.left + state.stop.left

theorem ReceivePc.left_reading (connection : Connection) : (ReceivePc.reading connection).left ≤ 3 := by
  cases connection <;> simp [left]

theorem ThreadMove.invited {now : Int64} {before after : State} (move : ThreadMove now before after)
    (invited : Invited before) : Invited after := by
  have sound := move.sound invited.sound
  have invitation := invited.invited
  cases move with
  | again pc running =>
      -- `stop` has not begun while the flag is set
      have idle : before.stop = .idle := invited.sound.flag.mp running
      exact ⟨sound, by simp [idle, StopPc.hasConnected]⟩
  | enter pc listening =>
      simp only [State.accepts, pc, listening] at invitation
      exact ⟨sound, by simpa [State.accepts] using invitation⟩
  | leave | closed | take | retry | stopped | read => exact ⟨sound, by simp [State.accepts]⟩

theorem ThreadMove.left {now : Int64} {before after : State} (move : ThreadMove now before after)
    (cleared : before.running ≠ true) : after.left < before.left := by
  cases move with
  | again _ running | retry _ running => exact absurd running cleared
  | leave pc | stopped pc | closed pc | read _ pc | enter pc => simp [State.left, pc, ReceivePc.left]
  | take pc connection =>
      have here : before.thread.left = 4 := by
        rw [pc]
        rfl
      have there := ReceivePc.left_reading connection
      change (ReceivePc.reading connection).left + before.stop.left < before.thread.left + before.stop.left
      omega

theorem StopMove.invited {before after : State} (move : StopMove before after) (invited : Invited before) :
    Invited after := by
  have sound := move.sound invited.sound
  cases move with
  | flag | notRunning | begin | join => exact ⟨sound, by simp [StopPc.hasConnected]⟩
  | skip pc closed =>
      have socket := invited.sound.socket
      simp [pc, StopPc.hasClosed, closed] at socket
  | connect pc => exact ⟨sound, fun _ _ => before.connectSelf_queued_ne_nil⟩
  | close pc left kept =>
      have invitation := invited.invited (by simp [pc, StopPc.hasConnected])
      apply Invited.mk sound
      intro _ accepts
      -- The queue outlives the descriptor only under a thread inside `accept`.
      have inside : before.thread = .accepting := by
        cases pc : before.thread <;> simp [State.accepts, pc] at accepts ⊢
      change left ≠ []
      rw [kept, if_pos inside]
      exact invitation (by simp [State.accepts, inside])

theorem StopMove.left {before after : State} (move : StopMove before after) (begun : before.stop ≠ .idle) :
    after.stop ≠ .idle ∧ after.left < before.left := by
  cases move with
  | flag pc | notRunning pc => exact absurd pc begun
  | begin pc | skip pc | connect pc | close pc | join pc => simp [State.left, pc, StopPc.left]

/-- As long as `stop` has not returned, something can be done without a client,
or the thread waits for one. -/
theorem Invited.own_step {state : State} (invited : Invited state) (begun : state.stop ≠ .idle)
    (unfinished : state.stop ≠ .returned) :
    (∃ action, Own state action ∧ (receiver.step state action).isSome) ∨ state.thread = .reading none := by
  have threadMoves (can : (threadStep 0 state).isSome) :
      ∃ action, Own state action ∧ (receiver.step state action).isSome := ⟨.thread 0, trivial, can⟩
  have stopMoves (can : (stopStep state).isSome) :
      ∃ action, Own state action ∧ (receiver.step state action).isSome := ⟨.stop, trivial, can⟩
  cases stop : state.stop with
  | idle => exact absurd stop begun
  | returned => exact absurd stop unfinished
  | flagged | connecting | closing => exact .inl (stopMoves (by simp [stopStep, stop]))
  | joining =>
      cases pc : state.thread with
      | exited => exact .inl (stopMoves (by simp [stopStep, stop, pc]))
      | top | calling | refused => exact .inl (threadMoves (by simp [threadStep, pc]))
      | accepting =>
          have nonempty := invited.invited (by simp [stop, StopPc.hasConnected]) (by simp [State.accepts, pc])
          obtain ⟨connection, rest, queued⟩ := List.exists_cons_of_ne_nil nonempty
          exact .inl (threadMoves (by simp [threadStep, pc, queued]))
      | reading connection =>
          cases connection with
          | none => exact .inr rfl
          | some arrival => exact .inl (threadMoves (by simp [threadStep, pc]))

/-- The connection that the thread reads next, if there is one. -/
def State.next (state : State) : Option Connection :=
  match state.thread with
  | .reading connection => some connection
  | .accepting => state.queued.head?
  | .calling => if state.listening then state.queued.head? else none
  | _ => none

theorem ThreadMove.next {now : Int64} {before after : State} (move : ThreadMove now before after)
    (cleared : before.running ≠ true) (spoken : before.next ≠ some none) : after.next ≠ some none := by
  cases move with
  | again _ running | retry _ running => exact absurd running cleared
  | leave | stopped | closed | read => simp [State.next]
  | enter pc listening =>
      simp only [State.next, pc, listening, if_true] at spoken
      exact spoken
  | take pc connection rest queued =>
      simp only [State.next, pc, queued, List.head?_cons] at spoken
      exact spoken

theorem State.next_connectSelf (state : State) (spoken : state.next ≠ some none) (stop : StopPc) :
    ({ state.connectSelf with stop } : State).next ≠ some none := by
  cases pc : state.thread with
  | reading connection => simpa [next, pc] using spoken
  | accepting =>
      simp only [next, pc] at spoken
      simpa [next, pc] using state.head?_connectSelf spoken
  | calling =>
      simp only [next, pc] at spoken
      cases listening : state.listening with
      | false => simp [next, pc, listening]
      | true =>
          simp only [listening, if_true] at spoken
          simpa [next, pc, listening] using state.head?_connectSelf spoken
  | top | refused | exited => simp [next, pc]

theorem StopMove.next {before after : State} (move : StopMove before after) (spoken : before.next ≠ some none) :
    after.next ≠ some none := by
  cases move with
  | flag | notRunning | begin | skip | join => exact spoken
  | connect pc => exact before.next_connectSelf spoken _
  | close pc left kept =>
      cases inside : before.thread with
      | accepting =>
          rw [if_pos inside] at kept
          simpa [State.next, inside, kept] using spoken
      | reading connection => simpa [State.next, inside] using spoken
      | top | calling | refused | exited => simp [State.next]

/-- `running_` is cleared, and the thread meets no silent connection. -/
structure Stopping (state : State) : Prop where
  invited : Invited state
  begun : state.stop ≠ .idle
  spoken : state.next ≠ some none

theorem Stopping.step {before after : State} {action : Action} (stopping : Stopping before)
    (own : Own before action) (stepped : receiver.step before action = some after) :
    Stopping after ∧ after.left < before.left := by
  have cleared := stopping.invited.sound.cleared stopping.begun
  cases transition_of_step stepped with
  | thread now move =>
      have begun : after.stop ≠ .idle := by
        rw [move.stop]
        exact stopping.begun
      exact ⟨⟨move.invited stopping.invited, begun, move.next cleared stopping.spoken⟩, move.left cleared⟩
  | stop move =>
      obtain ⟨begun, lower⟩ := move.left stopping.begun
      exact ⟨⟨move.invited stopping.invited, begun, move.next stopping.spoken⟩, lower⟩
  | client _ move => cases move <;> exact own.elim
  | acceptFails | connectFails => exact own.elim

theorem Stopping.returned {state : State} (stopping : Stopping state) (halted : receiver.Halted Own state) :
    state.stop = .returned := by
  by_contra unfinished
  rcases stopping.invited.own_step stopping.begun unfinished with ⟨action, own, can⟩ | reading
  · rw [halted action own] at can
    cases can
  · exact stopping.spoken (by rw [State.next, reading])

/-! ## When it does not -/

/-- A thread that reads from a silent connection stays there, and `stop` waits
for it. -/
structure Waiting (state : State) : Prop where
  sound : Sound state
  begun : state.stop ≠ .idle
  unfinished : state.stop ≠ .returned
  reading : state.thread = .reading none

theorem StopMove.waiting {before after : State} (move : StopMove before after) (waiting : Waiting before) :
    Waiting after := by
  have sound := move.sound waiting.sound
  have reading := waiting.reading
  have begun := (move.left waiting.begun).1
  cases move with
  | flag pc | notRunning pc => exact absurd pc waiting.begun
  | begin | skip | close => exact ⟨sound, begun, by simp, reading⟩
  | connect => exact ⟨sound, begun, by simp, by simpa using reading⟩
  | join pc exited =>
      rw [reading] at exited
      cases exited

theorem Waiting.step {before after : State} {action : Action} (waiting : Waiting before) (own : Own before action)
    (stepped : receiver.step before action = some after) : Waiting after ∧ after.left < before.left := by
  cases transition_of_step stepped with
  | thread now move =>
      have reading := waiting.reading
      cases move <;> simp_all
  | stop move => exact ⟨move.waiting waiting, (move.left waiting.begun).2⟩
  | client _ move => cases move <;> exact own.elim
  | acceptFails | connectFails => exact own.elim

theorem Waiting.not_endsIn {state : State} (waiting : Waiting state) :
    ¬ receiver.EndsIn Own (fun final => final.stop = .returned) state := by
  intro ends
  obtain ⟨bound, within⟩ := ends
  obtain ⟨schedule, final, executed, still, halted⟩ :=
    Machine.exists_halted State.left (fun _ _ _ waiting own stepped => waiting.step own stepped) waiting
  exact still.unfinished ((within schedule final executed).2 halted)

theorem not_endsIn_of_accepting {state : State} (sound : Sound state) (flagged : state.stop = .flagged)
    (pc : state.thread = .accepting) (first : state.queued.head? = some none) :
    ¬ receiver.EndsIn Own (fun final => final.stop = .returned) state := by
  intro ends
  obtain ⟨rest, queued⟩ := List.head?_eq_some_iff.mp first
  have own : Own state (.thread 0) := trivial
  have stepped : receiver.step state (.thread 0) =
      some { state with thread := .reading none, queued := if state.listening then rest else [] } := by
    simp [receiver, receiverStep, threadStep, pc, queued]
  apply Waiting.not_endsIn _ (ends.step own stepped)
  exact ⟨sound.frame rfl rfl rfl, by simp [flagged], by simp [flagged], rfl⟩

/-- The thread may come to the silent connection before the socket is closed. -/
theorem not_endsIn_of_silent {state : State} (sound : Sound state) (flagged : state.stop = .flagged)
    (silent : state.next = some none) : ¬ receiver.EndsIn Own (fun final => final.stop = .returned) state := by
  cases pc : state.thread with
  | reading connection =>
      simp only [State.next, pc, Option.some.injEq] at silent
      subst silent
      exact Waiting.not_endsIn ⟨sound, by simp [flagged], by simp [flagged], pc⟩
  | accepting =>
      simp only [State.next, pc] at silent
      exact not_endsIn_of_accepting sound flagged pc silent
  | calling =>
      have listening : state.listening = true := by
        rw [sound.socket, flagged]
        rfl
      simp only [State.next, pc, listening, if_true] at silent
      intro ends
      have own : Own state (.thread 0) := trivial
      have stepped : receiver.step state (.thread 0) = some { state with thread := .accepting } := by
        simp [receiver, receiverStep, threadStep, pc, listening]
      have entered : Sound { state with thread := .accepting } := sound.frame rfl rfl rfl
      exact not_endsIn_of_accepting entered flagged rfl silent (ends.step own stepped)
  | top | refused | exited => simp [State.next, pc] at silent

/-- When `stop` has cleared `running_`, it is sure to get past the receiving
thread without the help of a client if and only if the connection that the
thread reads next, in its hands or at the head of the queue, is not silent. -/
theorem stop_passes_receiver_iff (state : State) (reached : receiver.Reachable state)
    (flagged : state.stop = .flagged) :
    receiver.EndsIn Own (fun final => final.stop = .returned) state ↔ state.next ≠ some none := by
  have sound := sound_of_reachable reached
  constructor
  · intro ends silent
    exact not_endsIn_of_silent sound flagged silent ends
  · intro spoken
    have invited : Invited state := ⟨sound, by simp [flagged, StopPc.hasConnected]⟩
    have holds : Stopping state := ⟨invited, by simp [flagged], spoken⟩
    apply Machine.endsIn_of_measure State.left _ _ holds
    · intro before action after stopping own stepped
      exact stopping.step own stepped
    · intro final stopping halted
      exact stopping.returned halted

/-- A scheduler that nobody has connected to is stopped, and one with a client
that has connected and sends nothing hangs. -/
theorem silent_client_holds_up_stop :
    (∃ state, receiver.Reachable state ∧ state.thread = .accepting ∧ state.queued = [] ∧
      receiver.EndsIn Own (fun final => final.stop = .returned) state) ∧
    ∃ state, receiver.Reachable state ∧ state.thread = .accepting ∧ state.queued = [none] ∧
      ¬ receiver.EndsIn Own (fun final => final.stop = .returned) state := by
  constructor
  · obtain ⟨state, reached, flagged, pc, queued⟩ :=
      receiver.reachableBy_of_any (fun _ _ => True)
        (fun state => state.stop = .flagged ∧ state.thread = .accepting ∧ state.queued = [])
        [.thread 0, .thread 0, .stop] (by decide)
    have spoken : state.next ≠ some none := by simp [State.next, pc, queued]
    exact ⟨state, reached, pc, queued, (stop_passes_receiver_iff state reached flagged).mpr spoken⟩
  · obtain ⟨state, reached, flagged, pc, queued⟩ :=
      receiver.reachableBy_of_any (fun _ _ => True)
        (fun state => state.stop = .flagged ∧ state.thread = .accepting ∧ state.queued = [none])
        [.thread 0, .thread 0, .connect, .stop] (by decide)
    have silent : state.next = some none := by simp [State.next, pc, queued]
    exact ⟨state, reached, pc, queued,
      fun ends => (stop_passes_receiver_iff state reached flagged).mp ends silent⟩

end TaskHive.Scheduler.Shutdown
