import PlhrFirmware.Lib.Bytes

/-! # The client library

The part of `mqttclient.c` that its callers and the receive thread share: one client context
with one expectation, `awaitedAck`, and one semaphore, `ackSyncObj`.  Every function here runs
under `MQTTClient_mutex`.  `MQTTClientCallback` turns what the library reports into the event
that it puts on the message queue.
-/

namespace PlhrFirmware.Client

open PlhrFirmware.Lib

/-! ## The client context -/

/-- The packets that the library reports with `processNotifyAckCB`. -/
inductive AckType where
  | connack
  | puback
  | pubrec
  | pubcomp
  | suback
  | unsuback
  deriving DecidableEq, Repr

/-- `awaitedAck`: 0, a packet type, `MQTTCLIENT_DISCONNECT_CB` or `MQTT_DISCONNECT`. -/
inductive AwaitedAck where
  | none
  | ack (msgType : AckType)
  | disconnectCb
  | disconnect
  deriving DecidableEq, Repr

structure ClientCtx where
  awaitedAck : AwaitedAck
  connAck : UInt16
  ackSyncObj : Nat
  blockingSend : Bool
  connectedState : Bool
  deriving DecidableEq, Repr

/-- The context that `MqttClientCtxCreate` sets up. -/
def ClientCtx.create (blockingSend : Bool) : ClientCtx := ⟨.disconnect, 0, 0, blockingSend, false⟩

/-- All zero. -/
def ClientCtx.cleared : ClientCtx := ⟨.none, 0, 0, false, false⟩

namespace ClientCtx

def ackRxSignalPost (ctx : ClientCtx) : ClientCtx := { ctx with ackSyncObj := ctx.ackSyncObj + 1 }

/-- `_sl_ExtLib_AwaitedAckSet` and `_sl_ExtLib_AwaitedAckLockedSet`. -/
def awaitedAckSet (ctx : ClientCtx) (newAwaited : AwaitedAck) : ClientCtx × Bool :=
  if ctx.awaitedAck ≠ .disconnect then ({ ctx with awaitedAck := newAwaited }, true)
  else (ctx, false)

def setCondAwaitedAckLocked (ctx : ClientCtx) (cond val : AwaitedAck) : ClientCtx :=
  if cond = ctx.awaitedAck then { ctx with awaitedAck := val } else ctx

end ClientCtx

/-! ## Callbacks of the receive thread -/

/-- The calls of `appCBs`. -/
inductive CallbackEvent where
  | operation (messageType : AckType) (data : List UInt8)
  | recv (topic payload : List UInt8) (qos : UInt8)
  | disconnect
  deriving DecidableEq, Repr

def connAckOf (buf : List UInt8) : UInt16 :=
  (buf.getD 0 0).toUInt16 <<< 8 ||| (buf.getD 1 0).toUInt16

namespace ClientCtx

def processNotifyAckCB (ctx : ClientCtx) (msgType : AckType) (buf : List UInt8) :
    ClientCtx × Option CallbackEvent :=
  match msgType with
  | .connack =>
    let ctx := { ctx with connAck := connAckOf buf, awaitedAck := .none }
    (ctx.ackRxSignalPost, some (.operation .connack (leBytes 2 ctx.connAck.toNat)))
  | .suback =>
    if ctx.blockingSend then
      if ctx.awaitedAck = .ack .suback then
        ({ ctx with awaitedAck := .none }.ackRxSignalPost, none)
      else (ctx, none)
    else (ctx, some (.operation .suback buf))
  | msgType =>
    if ctx.blockingSend then
      if ctx.awaitedAck = .ack msgType then
        ({ ctx with awaitedAck := .none }.ackRxSignalPost, none)
      else (ctx, none)
    else (ctx, some (.operation msgType (ascii "Ack Received from server")))

def processPublishRxCB (ctx : ClientCtx) (topic payload : List UInt8) (qos : UInt8) :
    Option CallbackEvent :=
  if ctx.awaitedAck ≠ .disconnect then some (.recv topic payload qos) else none

def processDisconnCB (ctx : ClientCtx) : ClientCtx × Option CallbackEvent :=
  (if ctx.awaitedAck ≠ .disconnect then { ctx with awaitedAck := .disconnect }.ackRxSignalPost
    else ctx, some .disconnect)

end ClientCtx

/-! ## `MQTTClientCallback` -/

/-- The elements of the message queue. -/
inductive MqttEvent where
  | connack
  | suback
  | puback
  | unsuback
  | serverDisconnect
  | clientDisconnect
  | destroy
  | recv (topic payload : List UInt8) (qos : UInt8)
  deriving DecidableEq, Repr

/-- The event that is sent; none is set for a `PUBREC` or a `PUBCOMP`.  Of an operation only
the type of the packet is kept. -/
def mqttClientCallback : CallbackEvent → Option MqttEvent
  | .operation .connack _ => some .connack
  | .operation .puback _ => some .puback
  | .operation .suback _ => some .suback
  | .operation .unsuback _ => some .unsuback
  | .operation .pubrec _ | .operation .pubcomp _ => none
  | .recv topic payload qos => some (.recv (topic ++ [0]) (payload ++ [0]) qos)
  | .disconnect => some .serverDisconnect

/-! ## What the callbacks change -/

section Callbacks

variable {ctx : ClientCtx} {msgType : AckType}

@[simp] theorem ackRxSignalPost_ackSyncObj :
    ctx.ackRxSignalPost.ackSyncObj = ctx.ackSyncObj + 1 := rfl

@[simp] theorem ackRxSignalPost_awaitedAck : ctx.ackRxSignalPost.awaitedAck = ctx.awaitedAck := rfl

@[simp] theorem ackRxSignalPost_connAck : ctx.ackRxSignalPost.connAck = ctx.connAck := rfl

@[simp] theorem ackRxSignalPost_blockingSend :
    ctx.ackRxSignalPost.blockingSend = ctx.blockingSend := rfl

@[simp] theorem processNotifyAckCB_blockingSend (buf : List UInt8) :
    (ctx.processNotifyAckCB msgType buf).1.blockingSend = ctx.blockingSend := by
  cases msgType with
  | connack => rfl
  | puback | pubrec | pubcomp | suback | unsuback =>
    simp only [ClientCtx.processNotifyAckCB]
    split
    · split <;> rfl
    · rfl

@[simp] theorem setCondAwaitedAckLocked_blockingSend (cond val : AwaitedAck) :
    (ctx.setCondAwaitedAckLocked cond val).blockingSend = ctx.blockingSend := by
  unfold ClientCtx.setCondAwaitedAckLocked
  split <;> rfl

/-- In blocking mode an awaited packet clears the expectation and posts. -/
theorem processNotifyAckCB_awaited (blocking : ctx.blockingSend = true) (buf : List UInt8)
    (notConnack : msgType ≠ .connack) (awaited : ctx.awaitedAck = .ack msgType) :
    ctx.processNotifyAckCB msgType buf = ({ ctx with awaitedAck := .none }.ackRxSignalPost, none) := by
  cases msgType with
  | connack => exact absurd rfl notConnack
  | puback | pubrec | pubcomp | suback | unsuback =>
    simp [ClientCtx.processNotifyAckCB, blocking, awaited]

/-- In blocking mode any other packet than a `CONNACK` is dropped. -/
theorem processNotifyAckCB_dropped (blocking : ctx.blockingSend = true) (buf : List UInt8)
    (notConnack : msgType ≠ .connack) (other : ctx.awaitedAck ≠ .ack msgType) :
    ctx.processNotifyAckCB msgType buf = (ctx, none) := by
  cases msgType with
  | connack => exact absurd rfl notConnack
  | puback | pubrec | pubcomp | suback | unsuback =>
    simp [ClientCtx.processNotifyAckCB, blocking, other]

theorem processNotifyAckCB_connack (buf : List UInt8) :
    (ctx.processNotifyAckCB .connack buf).1 =
      { ctx with connAck := connAckOf buf, awaitedAck := .none }.ackRxSignalPost := rfl

@[simp] theorem processDisconnCB_awaitedAck :
    ctx.processDisconnCB.1.awaitedAck = .disconnect := by
  by_cases closed : ctx.awaitedAck = .disconnect
  · simp [ClientCtx.processDisconnCB, closed]
  · simp [ClientCtx.processDisconnCB, closed]

@[simp] theorem processDisconnCB_connAck : ctx.processDisconnCB.1.connAck = ctx.connAck := by
  by_cases closed : ctx.awaitedAck = .disconnect
  · simp [ClientCtx.processDisconnCB, closed]
  · simp [ClientCtx.processDisconnCB, closed]

end Callbacks

end PlhrFirmware.Client
