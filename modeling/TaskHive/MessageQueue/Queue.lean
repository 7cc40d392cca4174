import TaskHive.Proto.Task

namespace TaskHive.MessageQueue

open TaskHive.Wire

/-! # The RabbitMQ wrappers of `message_queue.h`

An exception is its `what()` text.  The broker's answers are inputs: whether a
publish call succeeds, what each `amqp_consume_message` call returns, and
whether the acknowledgement of a delivery goes out. -/

structure Queue where
  isConnected : Bool
  conn : Bool
deriving DecidableEq, Repr

/-- A queue after a successful `connect`. -/
def Queue.connected : Queue := { isConnected := true, conn := true }

/-- `close` only clears the flag; the connection itself stays open. -/
def Queue.close (queue : Queue) : Queue :=
  if queue.isConnected && queue.conn then { queue with isConnected := false } else queue

/-- The common body of the two publishers.  The serialized message is handed
over as a C string. -/
def publishBytes (owner : String) (queue : Queue) (published : Bool) (serialized : Bytes) :
    Except String Bytes :=
  if !queue.isConnected || !queue.conn then .error (owner ++ ": 未连接到RabbitMQ")
  else if published then .ok (cString serialized)
  else .error (owner ++ ": 发布消息失败")

def publishTaskImpl (queue : Queue) (published : Bool) (order : List (Bytes × Bytes)) (task : Task) :
    Except String Bytes :=
  publishBytes "SchedulerTaskQueue" queue published (task.serializeToString order)

def publishResultImpl (queue : Queue) (published : Bool) (result : TaskResult) : Except String Bytes :=
  publishBytes "WorkerResultQueue" queue published result.serializeToString

/-! ## Consuming -/

inductive Reply where
  | normal (body : Bytes)
  | timeout
  | failed
deriving DecidableEq, Repr

/-- One round of the consume loop: the reply, the value of `is_connected_`
read right after it, whether the acknowledgement succeeds, and whatever else
the callback reads from its environment. -/
structure Event (E : Type u) where
  reply : Reply
  isConnected : Bool
  ackOk : Bool
  env : E

inductive Ending where
  | waiting
  | returned
  | threw (what : String)
deriving DecidableEq, Repr

/-- One callback invocation: its argument, the state it left and whether the
delivery was acknowledged afterwards. -/
structure Handled (S : Type u) (M : Type v) where
  message : M
  state : S
  acked : Bool
deriving DecidableEq

structure Consumption (S : Type u) (M : Type v) where
  handled : List (Handled S M)
  ending : Ending
deriving DecidableEq

section Loop

variable {E : Type u} {S : Type v} {M : Type w}

/-- The loop shared by the two consumers.  An exception of the callback is
caught and logged before the acknowledgement, so it has no effect of its own.
A body that does not parse makes the loop throw. -/
def consumeLoop (parse : Bytes → Option M) (parseFailure : String) (stopOnAckFailure : Bool)
    (callback : E → S → M → S) : S → List (Event E) → Consumption S M
  | _, [] => { handled := [], ending := .waiting }
  | state, event :: rest =>
      if !event.isConnected then { handled := [], ending := .returned }
      else match event.reply with
        | .timeout => consumeLoop parse parseFailure stopOnAckFailure callback state rest
        | .failed => { handled := [], ending := .returned }
        | .normal body =>
            match parse body with
            | none => { handled := [], ending := .threw parseFailure }
            | some message =>
                let next := callback event.env state message
                let handled : Handled S M := { message, state := next, acked := event.ackOk }
                if stopOnAckFailure && !event.ackOk then { handled := [handled], ending := .returned }
                else
                  let later := consumeLoop parse parseFailure stopOnAckFailure callback next rest
                  { later with handled := handled :: later.handled }

/-- `registered` is false when `amqp_basic_consume` is refused. -/
def consumeImpl (notConnected notRegistered : String) (queue : Queue) (registered : Bool)
    (loop : Consumption S M) : Consumption S M :=
  if !queue.isConnected || !queue.conn then { handled := [], ending := .threw notConnected }
  else if registered then loop
  else { handled := [], ending := .threw notRegistered }

end Loop

/-- The worker's consumer leaves its loop when an acknowledgement fails. -/
def consumeTaskImpl {E : Type u} {S : Type v} (queue : Queue) (registered : Bool)
    (callback : E → S → Task → S) (state : S) (events : List (Event E)) : Consumption S Task :=
  consumeImpl "工作器 consumeTaskImpl 未连接到RabbitMQ" "WorkerTaskQueue: 注册任务消费失败" queue registered
    (consumeLoop Task.parseFromString "WorkerTaskQueue: 解析消息失败" true callback state events)

/-- The scheduler's consumer only logs a failed acknowledgement. -/
def consumeResultImpl {E : Type u} {S : Type v} (queue : Queue) (registered : Bool)
    (callback : E → S → TaskResult → S) (state : S) (events : List (Event E)) :
    Consumption S TaskResult :=
  consumeImpl "consumeResultImpl 未连接到RabbitMQ" "SchedulerResultQueue: 注册任务结果消费者失败" queue registered
    (consumeLoop TaskResult.parseFromString "SchedulerResultQueue: 解析消息失败" false callback state events)

section Deliveries

variable {E : Type u} {S : Type v} {M : Type w} {parse : Bytes → Option M} {parseFailure : String}
  {stopOnAckFailure : Bool} {callback : E → S → M → S}

/-- A delivered body on an open connection with a successful acknowledgement. -/
def Event.delivery (env : E) (body : Bytes) : Event E :=
  { reply := .normal body, isConnected := true, ackOk := true, env }

def Event.idle (env : E) : Event E :=
  { reply := .timeout, isConnected := true, ackOk := true, env }

/-- What the broker does while the consumer is connected: it delivers a body
or lets the wait time out. -/
def Event.ofBody (input : E × Option Bytes) : Event E :=
  match input.2 with
  | some body => .delivery input.1 body
  | none => .idle input.1

theorem consumeLoop_parsed {body : Bytes} {message : M} (parsed : parse body = some message)
    (env : E) (state : S) (rest : List (Event E)) :
    consumeLoop parse parseFailure stopOnAckFailure callback state (.delivery env body :: rest) =
      { consumeLoop parse parseFailure stopOnAckFailure callback (callback env state message) rest with
        handled := { message, state := callback env state message, acked := true } ::
          (consumeLoop parse parseFailure stopOnAckFailure callback (callback env state message) rest).handled } := by
  simp [consumeLoop, Event.delivery, parsed]

theorem consumeLoop_refused {body : Bytes} (refused : parse body = none) (env : E) (state : S)
    (rest : List (Event E)) :
    consumeLoop parse parseFailure stopOnAckFailure callback state (.delivery env body :: rest) =
      { handled := [], ending := .threw parseFailure } := by
  simp [consumeLoop, Event.delivery, refused]

theorem consumeLoop_idle (env : E) (state : S) (rest : List (Event E)) :
    consumeLoop parse parseFailure stopOnAckFailure callback state (.idle env :: rest) =
      consumeLoop parse parseFailure stopOnAckFailure callback state rest := by
  simp [consumeLoop, Event.idle]

/-- The callback sees the parsed bodies up to the first one that does not
parse. -/
theorem handled_messages (state : S) (inputs : List (E × Option Bytes)) :
    (consumeLoop parse parseFailure stopOnAckFailure callback state
        (inputs.map Event.ofBody)).handled.map Handled.message =
      ((inputs.filterMap Prod.snd).takeWhile fun body => (parse body).isSome).filterMap parse := by
  induction inputs generalizing state with
  | nil => rfl
  | cons input rest ih =>
      obtain ⟨env, body⟩ := input
      cases body with
      | none =>
          rw [List.map_cons, Event.ofBody, consumeLoop_idle, ih]
          rfl
      | some body =>
          cases parsed : parse body with
          | none =>
              rw [List.map_cons, Event.ofBody, consumeLoop_refused parsed]
              simp [parsed]
          | some message =>
              rw [List.map_cons, Event.ofBody, consumeLoop_parsed parsed]
              simp [parsed, ih]

/-- Over deliveries that all parse, a property of every callback invocation is
a property of every input, when each invocation decides it by itself. -/
theorem forall_handled_iff {I : Type x} {event : I → Event E} {message : I → M}
    {property : Handled S M → Prop} {condition : I → Prop}
    (delivered : ∀ input, ∃ body, (event input).reply = .normal body ∧
      (event input).isConnected = true ∧ parse body = some (message input))
    (decided : ∀ input state, property
      { message := message input, state := callback (event input).env state (message input),
        acked := (event input).ackOk } ↔ condition input)
    (state : S) (inputs : List I) :
    (∀ handled ∈ (consumeLoop parse parseFailure false callback state (inputs.map event)).handled,
        property handled) ↔ ∀ input ∈ inputs, condition input := by
  induction inputs generalizing state with
  | nil => simp [consumeLoop]
  | cons input rest ih =>
      obtain ⟨body, reply, connected, parsed⟩ := delivered input
      rw [List.map_cons, consumeLoop]
      simp only [reply, connected, parsed, Bool.not_true, Bool.false_eq_true, if_false, Bool.false_and,
        List.forall_mem_cons, decided, ih]

/-- Cutting a sequence at its first rejected element keeps all accepted ones
exactly when none of them follows a rejected one. -/
theorem filterMap_takeWhile_iff (bodies : List Bytes) :
    (bodies.takeWhile fun body => (parse body).isSome).filterMap parse = bodies.filterMap parse ↔
      bodies.Pairwise fun earlier later => parse earlier = none → parse later = none := by
  induction bodies with
  | nil => simp
  | cons body rest ih =>
      cases parsed : parse body with
      | none =>
          simp only [List.takeWhile_cons, parsed, Option.isSome_none, Bool.false_eq_true, if_false,
            List.filterMap_nil, List.filterMap_cons, List.pairwise_cons, true_implies]
          constructor
          · intro none
            have allNone := List.filterMap_eq_nil_iff.mp none.symm
            refine ⟨allNone, ?_⟩
            exact List.Pairwise.imp_of_mem (fun _ member _ _ => allNone _ member)
              (List.pairwise_of_forall fun _ _ => trivial)
          · rintro ⟨allNone, _⟩
            exact (List.filterMap_eq_nil_iff.mpr allNone).symm
      | some message =>
          simp [parsed, ih]

end Deliveries

end TaskHive.MessageQueue
