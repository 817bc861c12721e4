import PlhrFirmware.Client.Library
import PlhrFirmware.Lib.Reachable

/-! # Subscribing against the message queue

The receive thread puts every PUBLISH on the message queue of ten elements from inside
`MQTTClientCallback`, with `MQTTClient_mutex` held; `MQTTAppThread` takes them off.  A topic is
subscribed with `moduleMutex` held until the SUBACK has been read: by `MQTTAppThread` itself for
each topic of the list when it handles a CONNACK, or by a caller of `MQTT_IF_Subscribe`.
-/

namespace PlhrFirmware.Session

open PlhrFirmware.Lib PlhrFirmware.Client

namespace Backlog

/-! ## State -/

def mqMaxmsg : Nat := 10

inductive Packet where
  | publish (topic payload : List UInt8) (qos : UInt8)
  | suback (buf : List UInt8)
  deriving DecidableEq, Repr

/-- `MQTTAppThread` with the topics of the list that come after this one, or a caller of
`MQTT_IF_Subscribe`.  The loop is at the head as long as every call has failed; behind a failed
call further on it has `skipped` a node, which the next failed call takes out of the list. -/
inductive Subscriber where
  | app (atHead skipped : Bool) (remaining : Nat)
  | caller
  deriving DecidableEq, Repr

/-- The point of `MqttClientSub` that the subscriber has reached. -/
inductive SubPhase where
  | start
  | stored
  | waiting
  | woken
  deriving DecidableEq, Repr

inductive AppPhase where
  | receiving
  | received (event : MqttEvent)
  | resubscribing
  deriving DecidableEq, Repr

/-- `moduleMutex` is held while a topic is subscribed.  `sending` is the element that the receive
thread hands to `mq_send`, holding `MQTTClient_mutex`; `incoming` is what it has not read yet. -/
structure State where
  ctx : ClientCtx
  moduleMutex : Option (Subscriber × SubPhase)
  app : AppPhase
  topics : Nat
  msgQueue : List MqttEvent
  sending : Option MqttEvent
  incoming : List Packet
  unanswered : Nat
  deriving DecidableEq, Repr

inductive Event where
  | receive
  | handle
  | call
  | subscriber (ret : Int)
  | publish (topic payload : List UInt8) (qos : UInt8)
  | suback (buf : List UInt8)
  | read
  | enqueue

/-! ## Steps -/

/-- The loop of `MQTTAppThread` goes on, with so many topics before it. -/
def resubscribeNext (state : State) (atHead skipped : Bool) : Nat → State
  | 0 => { state with moduleMutex := none, app := .receiving }
  | remaining + 1 => { state with moduleMutex := some (.app atHead skipped remaining, .start) }

/-- `MqttClientSub` returns; a topic that fails leaves the list. -/
def finish (state : State) (subscriber : Subscriber) (succeeded : Bool) : State :=
  match subscriber with
  | .caller => { state with moduleMutex := none }
  | .app atHead skipped remaining =>
    if succeeded then resubscribeNext state false false remaining
    else if atHead then resubscribeNext { state with topics := state.topics - 1 } true false remaining
    else
      resubscribeNext { state with topics := state.topics - 1 - skipped.toNat } false true (remaining - 1)

def handle (state : State) : MqttEvent → Option State
  | .recv _ _ _ | .serverDisconnect =>
    -- both take `moduleMutex` for a moment
    if state.moduleMutex = none then some { state with app := .receiving } else none
  | .connack =>
    if state.moduleMutex = none then
      match state.topics with
      | 0 => some { state with app := .receiving }
      | remaining + 1 => some { state with
          moduleMutex := some (.app true false remaining, .start)
          app := .resubscribing }
    else none
  | _ => some { state with app := .receiving }

/-- The next step of the subscriber; `MQTTClient_mutex` is free when nothing is being sent. -/
def subscriberStep (state : State) (subscriber : Subscriber) (phase : SubPhase) (ret : Int) :
    Option State :=
  match phase with
  | .start =>
    if state.sending = none then
      match state.ctx.awaitedAckSet (.ack .suback) with
      | (ctx, true) => some { state with ctx := ctx, moduleMutex := some (subscriber, .stored) }
      | (_, false) => some (finish state subscriber false)
    else none
  | .stored =>
    if ret < 0 then
      if state.sending = none then
        some (finish { state with
          ctx := state.ctx.setCondAwaitedAckLocked (.ack .suback) .none } subscriber false)
      else none
    else some { state with
      moduleMutex := some (subscriber, .waiting)
      unanswered := state.unanswered + 1 }
  | .waiting =>
    if 0 < state.ctx.ackSyncObj then
      some { state with
        ctx := { state.ctx with ackSyncObj := state.ctx.ackSyncObj - 1 }
        moduleMutex := some (subscriber, .woken) }
    else none
  | .woken =>
    if state.sending = none then
      some (finish state subscriber (state.ctx.awaitedAck ≠ .disconnect))
    else none

/-- The receive thread reads the next packet. -/
def readPacket (state : State) (rest : List Packet) : Packet → State
  | .publish topic payload qos => { state with
      incoming := rest
      sending := (state.ctx.processPublishRxCB topic payload qos).bind mqttClientCallback }
  | .suback buf =>
    let (ctx, event) := state.ctx.processNotifyAckCB .suback buf
    { state with ctx := ctx, incoming := rest, sending := event.bind mqttClientCallback }

def step (state : State) : Event → Option State
  | .receive =>
    match state.app, state.msgQueue with
    | .receiving, event :: rest => some { state with app := .received event, msgQueue := rest }
    | _, _ => none
  | .handle =>
    match state.app with
    | .received event => handle state event
    | _ => none
  | .call =>
    if state.moduleMutex = none then
      some { state with moduleMutex := some (.caller, .start), topics := state.topics + 1 }
    else none
  | .subscriber ret =>
    match state.moduleMutex with
    | some (subscriber, phase) => subscriberStep state subscriber phase ret
    | none => none
  | .publish topic payload qos =>
    some { state with incoming := state.incoming ++ [.publish topic payload qos] }
  | .suback buf =>
    -- the broker answers a SUBSCRIBE
    if 0 < state.unanswered then
      some { state with
        incoming := state.incoming ++ [.suback buf]
        unanswered := state.unanswered - 1 }
    else none
  | .read =>
    match state.sending, state.incoming with
    | none, packet :: rest => some (readPacket state rest packet)
    | _, _ => none
  | .enqueue =>
    match state.sending with
    | some event =>
      if state.msgQueue.length < mqMaxmsg then
        some { state with msgQueue := state.msgQueue ++ [event], sending := none }
      else none
    | none => none

/-- `MQTT_IF_Connect` has succeeded, and the CONNACK is on the queue. -/
def initial (topics : Nat) : State :=
  ⟨⟨.none, 0, 0, true, true⟩, none, .receiving, topics, [.connack], none, [], 0⟩

/-! ## Deadlock -/

/-- The subscriber waits with `moduleMutex` held, the queue is full, the receive thread is in
`mq_send`, and a SUBACK is unread behind it. -/
def Deadlocked (state : State) : Prop :=
  (∃ subscriber, state.moduleMutex = some (subscriber, .waiting)) ∧
    state.msgQueue.length = mqMaxmsg ∧ state.sending.isSome ∧
    ∃ buf, Packet.suback buf ∈ state.incoming

def Packet.enqueues : Packet → Bool
  | .publish _ _ _ => true
  | .suback _ => false

/-- The elements on the queue, in the hands of the receive thread, and among `packets`. -/
def backlog (state : State) (packets : List Packet) : Nat :=
  state.msgQueue.length + state.sending.toList.length + packets.countP Packet.enqueues

/-- What comes before a SUBACK has room on the queue when the broker sends it. -/
def HasRoom (state : State) : Event → Prop
  | .suback _ => backlog state state.incoming ≤ mqMaxmsg
  | _ => True

instance (state : State) (event : Event) : Decidable (HasRoom state event) :=
  match event with
  | .suback _ => inferInstanceAs (Decidable (_ ≤ _))
  | .receive | .handle | .call | .subscriber _ | .publish _ _ _ | .read | .enqueue => .isTrue trivial

structure Roomy (state : State) : Prop where
  blocking : state.ctx.blockingSend = true
  room : ∀ before buf after, state.incoming = before ++ .suback buf :: after →
    backlog state before ≤ mqMaxmsg

theorem Roomy.initial (topics : Nat) : Roomy (initial topics) := ⟨rfl, by simp [Backlog.initial]⟩

/-- A step that reads no packet and puts nothing on the queue. -/
theorem Roomy.frame {state result : State} (roomy : Roomy state)
    (blocking : result.ctx.blockingSend = state.ctx.blockingSend)
    (incoming : result.incoming = state.incoming) (sending : result.sending = state.sending)
    (msgQueue : result.msgQueue.length ≤ state.msgQueue.length) : Roomy result := by
  refine ⟨blocking.trans roomy.blocking, ?_⟩
  intro before buf after split
  rw [incoming] at split
  have room := roomy.room before buf after split
  simp only [backlog, sending] at room ⊢
  omega

theorem resubscribeNext_frame (state : State) (atHead skipped : Bool) (remaining : Nat) :
    (resubscribeNext state atHead skipped remaining).ctx = state.ctx ∧
      (resubscribeNext state atHead skipped remaining).incoming = state.incoming ∧
      (resubscribeNext state atHead skipped remaining).sending = state.sending ∧
      (resubscribeNext state atHead skipped remaining).msgQueue = state.msgQueue := by
  cases remaining with
  | zero => exact ⟨rfl, rfl, rfl, rfl⟩
  | succ remaining => exact ⟨rfl, rfl, rfl, rfl⟩

theorem finish_frame (state : State) (subscriber : Subscriber) (succeeded : Bool) :
    (finish state subscriber succeeded).ctx = state.ctx ∧
      (finish state subscriber succeeded).incoming = state.incoming ∧
      (finish state subscriber succeeded).sending = state.sending ∧
      (finish state subscriber succeeded).msgQueue = state.msgQueue := by
  cases subscriber with
  | caller => exact ⟨rfl, rfl, rfl, rfl⟩
  | app atHead skipped remaining =>
    cases succeeded with
    | true => exact resubscribeNext_frame state false false remaining
    | false =>
      cases atHead with
      | true => exact resubscribeNext_frame { state with topics := _ } true false remaining
      | false => exact resubscribeNext_frame { state with topics := _ } false true (remaining - 1)

theorem Roomy.finish {state : State} (roomy : Roomy state) (subscriber : Subscriber)
    (succeeded : Bool) : Roomy (Backlog.finish state subscriber succeeded) := by
  obtain ⟨ctx, incoming, sending, msgQueue⟩ := finish_frame state subscriber succeeded
  exact roomy.frame (by rw [ctx]) incoming sending (by rw [msgQueue])

theorem Roomy.handle {state result : State} (roomy : Roomy state) {event : MqttEvent}
    (handled : Backlog.handle state event = some result) : Roomy result := by
  cases event with
  | recv | serverDisconnect =>
    simp only [Backlog.handle, Option.ite_none_right_eq_some, Option.some.injEq] at handled
    rw [← handled.2]
    exact roomy.frame rfl rfl rfl le_rfl
  | connack =>
    simp only [Backlog.handle, Option.ite_none_right_eq_some] at handled
    cases topics : state.topics with
    | zero =>
      simp only [topics, Option.some.injEq] at handled
      rw [← handled.2]
      exact roomy.frame rfl rfl rfl le_rfl
    | succ remaining =>
      simp only [topics, Option.some.injEq] at handled
      rw [← handled.2]
      exact roomy.frame rfl rfl rfl le_rfl
  | suback | puback | unsuback | clientDisconnect | destroy =>
    cases handled
    exact roomy.frame rfl rfl rfl le_rfl

theorem Roomy.subscriberStep {state result : State} (roomy : Roomy state)
    {subscriber : Subscriber} {phase : SubPhase} {ret : Int}
    (stepped : Backlog.subscriberStep state subscriber phase ret = some result) :
    Roomy result := by
  cases phase with
  | start =>
    simp only [Backlog.subscriberStep, Option.ite_none_right_eq_some] at stepped
    obtain ⟨_, stepped⟩ := stepped
    by_cases closed : state.ctx.awaitedAck = .disconnect
    · simp only [ClientCtx.awaitedAckSet, closed, ne_eq, not_true_eq_false, if_false,
        Option.some.injEq] at stepped
      rw [← stepped]
      exact roomy.finish subscriber false
    · simp only [ClientCtx.awaitedAckSet, closed, ne_eq, not_false_eq_true, if_true,
        Option.some.injEq] at stepped
      rw [← stepped]
      exact roomy.frame rfl rfl rfl le_rfl
  | stored =>
    by_cases failed : ret < 0
    · simp only [Backlog.subscriberStep, failed, if_true, Option.ite_none_right_eq_some,
        Option.some.injEq] at stepped
      rw [← stepped.2]
      have cleared : Roomy { state with
          ctx := state.ctx.setCondAwaitedAckLocked (.ack .suback) .none } :=
        roomy.frame (by simp) rfl rfl le_rfl
      exact cleared.finish subscriber false
    · simp only [Backlog.subscriberStep, failed, if_false, Option.some.injEq] at stepped
      rw [← stepped]
      exact roomy.frame rfl rfl rfl le_rfl
  | waiting =>
    simp only [Backlog.subscriberStep, Option.ite_none_right_eq_some, Option.some.injEq] at stepped
    rw [← stepped.2]
    exact roomy.frame rfl rfl rfl le_rfl
  | woken =>
    simp only [Backlog.subscriberStep, Option.ite_none_right_eq_some, Option.some.injEq] at stepped
    rw [← stepped.2]
    exact roomy.finish subscriber _

/-- The packet that is read moves into the hands of the receive thread, or makes room. -/
theorem Roomy.read {state : State} (roomy : Roomy state) (idle : state.sending = none)
    {packet : Packet} {rest : List Packet} (next : state.incoming = packet :: rest) :
    Roomy (readPacket state rest packet) := by
  cases packet with
  | publish topic payload qos =>
    refine ⟨roomy.blocking, ?_⟩
    intro before buf after split
    have room := roomy.room (.publish topic payload qos :: before) buf after (by
      rw [next]
      exact congrArg _ split)
    simp only [backlog, idle, Option.toList_none, List.length_nil, List.countP_cons,
      Packet.enqueues, if_true] at room
    have sent : (readPacket state rest (.publish topic payload qos)).sending.toList.length ≤ 1 :=
      Option.length_toList_le
    simp only [backlog]
    show state.msgQueue.length + _ + _ ≤ _
    omega
  | suback buf' =>
    have silent : (state.ctx.processNotifyAckCB .suback buf').2 = none := by
      simp only [ClientCtx.processNotifyAckCB, roomy.blocking, if_true]
      split <;> rfl
    refine ⟨?_, ?_⟩
    · show (state.ctx.processNotifyAckCB .suback buf').1.blockingSend = true
      simp [roomy.blocking]
    · intro before buf after split
      have room := roomy.room (.suback buf' :: before) buf after (by
        rw [next]
        exact congrArg _ split)
      simp only [backlog, readPacket, silent] at room ⊢
      simp only [idle, List.countP_cons, Packet.enqueues] at room
      simpa using room

/-- An element of a list that grows at its end is an old one or the new one. -/
theorem split_append_singleton {packets before after : List Packet} {packet chosen : Packet}
    (split : packets ++ [packet] = before ++ chosen :: after) :
    (∃ rest, packets = before ++ chosen :: rest) ∨ (packets = before ∧ packet = chosen) := by
  cases List.eq_nil_or_concat after with
  | inl none =>
    subst after
    exact .inr ⟨List.append_inj_left' split rfl, by simpa using List.append_inj_right' split rfl⟩
  | inr more =>
    obtain ⟨rest, last, rfl⟩ := more
    rw [List.concat_eq_append, ← List.cons_append, ← List.append_assoc] at split
    exact .inl ⟨rest, List.append_inj_left' split rfl⟩

/-- The broker sends a packet: a SUBACK must have room behind what is under way. -/
theorem Roomy.arrive {state : State} (roomy : Roomy state) (packet : Packet)
    (hasRoom : packet.enqueues = false → backlog state state.incoming ≤ mqMaxmsg)
    (unanswered : Nat) :
    Roomy { state with incoming := state.incoming ++ [packet], unanswered := unanswered } := by
  refine ⟨roomy.blocking, ?_⟩
  intro before buf after split
  cases split_append_singleton split with
  | inl old =>
    obtain ⟨rest, split⟩ := old
    exact roomy.room before buf rest split
  | inr new =>
    obtain ⟨all, suback⟩ := new
    rw [← all]
    exact hasRoom (by simp [suback, Packet.enqueues])

theorem Roomy.preserved {state result : State} {event : Event} (roomy : Roomy state)
    (hasRoom : HasRoom state event) (stepped : step state event = some result) : Roomy result := by
  cases event with
  | receive =>
    simp only [step] at stepped
    split at stepped
    next event rest receiving queued =>
      cases stepped
      exact roomy.frame rfl rfl rfl (by simp [queued])
    next => cases stepped
  | handle =>
    simp only [step] at stepped
    split at stepped
    next event received => exact roomy.handle stepped
    next => cases stepped
  | call =>
    simp only [step, Option.ite_none_right_eq_some, Option.some.injEq] at stepped
    rw [← stepped.2]
    exact roomy.frame rfl rfl rfl le_rfl
  | subscriber ret =>
    simp only [step] at stepped
    split at stepped
    next subscriber phase held => exact roomy.subscriberStep stepped
    next => cases stepped
  | publish topic payload qos =>
    cases stepped
    exact roomy.arrive (.publish topic payload qos) (by simp [Packet.enqueues]) _
  | suback buf =>
    simp only [step, Option.ite_none_right_eq_some, Option.some.injEq] at stepped
    rw [← stepped.2]
    exact roomy.arrive (.suback buf) (fun _ => hasRoom) _
  | read =>
    simp only [step] at stepped
    split at stepped
    next packet rest idle next =>
      cases stepped
      exact roomy.read idle next
    next => cases stepped
  | enqueue =>
    simp only [step] at stepped
    split at stepped
    next event sending =>
      simp only [Option.ite_none_right_eq_some, Option.some.injEq] at stepped
      rw [← stepped.2]
      refine ⟨roomy.blocking, ?_⟩
      intro before buf after split
      have room := roomy.room before buf after split
      simp only [backlog, sending] at room ⊢
      simpa using room
    next => cases stepped

/-- No deadlock in a run in which every SUBACK has room behind what is under way. -/
theorem subscribe_not_deadlocked (topics : Nat) {state : State}
    (reached : Reachable step HasRoom (initial topics) state) : ¬ Deadlocked state := by
  have roomy := reached.invariant Roomy (.initial topics)
    fun _ _ _ roomy hasRoom stepped => roomy.preserved hasRoom stepped
  rintro ⟨_, full, sending, buf, unread⟩
  obtain ⟨before, after, split⟩ := List.append_of_mem unread
  have room := roomy.room before buf after split
  obtain ⟨event, inHand⟩ := Option.isSome_iff_exists.mp sending
  simp only [backlog, full, inHand, Option.toList_some, List.length_singleton] at room
  omega

/-- `MQTTAppThread` takes the CONNACK and waits for the SUBACK of the only topic. -/
def resubscribe : List Event := [.receive, .handle, .subscriber 0, .subscriber 0]

/-- Ten PUBLISH packets fill the queue before the SUBACK. -/
def fillsQueue : List Event :=
  resubscribe ++ List.replicate 10 (.publish [1] [2] 0) ++ [.suback [0]] ++
    (List.replicate 10 [.read, .enqueue]).flatten

theorem subscribe_not_deadlocked_full : ∃ state, exec step (initial 1) fillsQueue = some state ∧
    state.moduleMutex = some (.app true false 0, .waiting) ∧ state.msgQueue.length = mqMaxmsg ∧
      state.incoming = [.suback [0]] ∧ ¬ Deadlocked state := by
  refine ⟨_, rfl, rfl, rfl, rfl, ?_⟩
  exact subscribe_not_deadlocked 1 (.of_exec fillsQueue (by decide) rfl)

/-- Eleven PUBLISH packets come before the SUBACK: ten fill the queue, the last one is in the
hands of the receive thread, and neither it nor the subscriber nor anybody else can go on. -/
theorem resubscription_deadlocks : ∃ state,
    exec step (initial 1) (resubscribe ++ List.replicate 11 (.publish [1] [2] 0) ++ [.suback [0]] ++
      (List.replicate 10 [.read, .enqueue]).flatten ++ [.read]) = some state ∧
    Deadlocked state ∧
    ∀ event ∈ [Event.receive, .handle, .call, .subscriber 0, .read, .enqueue],
      step state event = none := by
  refine ⟨_, rfl, ⟨⟨.app true false 0, rfl⟩, rfl, rfl, [0], List.mem_singleton_self _⟩, ?_⟩
  intro event member
  simp only [List.mem_cons, List.not_mem_nil, or_false] at member
  obtain rfl | rfl | rfl | rfl | rfl | rfl := member <;> rfl

end Backlog

end PlhrFirmware.Session
