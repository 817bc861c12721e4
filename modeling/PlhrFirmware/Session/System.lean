import Mathlib.Logic.Function.Basic
import PlhrFirmware.Client.Connect
import PlhrFirmware.Session.Backlog

/-! # Sessions with the broker

`MQTT_IF_Connect`, `MQTT_IF_Disconnect`, the context threads that run the client library, and
`MQTTAppThread` as one event-driven system.  Every section under `moduleMutex` is one step;
`MQTT_IF_Connect` and `MQTT_IF_Disconnect` are split where they wait on `ackSyncObj` with the
mutex held.  A callback of the receive thread is one step, but `processDisconnCB` posts before it
puts its event on the queue.  `MQTTClient_mutex` is left out, which allows more orders.  Subscribing
and publishing, which change neither `moduleState` nor a flag, are in `Backlog` and `Client.Acks`.

The library has a single context, and every handle is 1.  The clients are numbered as they are
created, so that the model can tell whose context, link, thread and queue element it is; the
code cannot.
-/

namespace PlhrFirmware.Session

open PlhrFirmware.Lib PlhrFirmware.Client

/-! ## State -/

/-- A context thread before `MQTTClient_connect` has unblocked it, in `MQTTClient_run`, behind it,
and after its cleanup. -/
inductive ThreadPhase where
  | absent
  | blocked
  | running
  | returned
  | exited
  deriving DecidableEq, Repr

/-- The call that waits on `ackSyncObj` with `moduleMutex` held.  The caller of
`MQTT_IF_Disconnect` may be `mqtt_disconnect`. -/
inductive Call where
  | connect (sendConnectMsg : Int)
  | disconnect (mqttDisconnect : Bool)
  deriving DecidableEq, Repr

/-- An element of the message queue.  Only `event` is there: the client that it came from and the
return code of its CONNACK are not handed on. -/
structure Queued where
  event : MqttEvent
  client : Nat
  returnCode : UInt8
  deriving DecidableEq, Repr

/-- `MQTTAppThread`; it calls `eventCB` with an event after it has released `moduleMutex`. -/
inductive AppPhase where
  | receiving
  | received (element : Queued)
  | reporting (element : Queued) (event : MqttEvent)
  deriving DecidableEq, Repr

/-- What happened, in order. -/
inductive Occurrence where
  | connected (client : Nat)
  | refused (client : Option Nat)
  | connack (client : Nat) (flags returnCode : UInt8)
  | disconnected (client : Option Nat)
  | notDisconnected (before after : Bool)
  | cleaned (thread : Nat) (deleted reset : Option Nat)
  | reported (client : Nat) (event : MqttEvent)
  | raised (client : Nat) (returnCode : UInt8)
  | left (client : Option Nat)
  deriving DecidableEq, Repr

/-- `inUse` is the client whose context the library holds, `link` the one whose connection is up,
`closing` those whose `processDisconnCB` has not queued its event yet; `looping` has, for each
caller in the waiting loop of `mqtt_connect`, the client that it has created or found connected,
and `resetting` counts those of `mqtt_disconnect` that have not cleared `mqtt_connected` yet. -/
structure State where
  module : Module
  clientDisconnectFlag : Bool
  inUse : Option Nat
  link : Option Nat
  closing : List Nat
  threads : Nat → ThreadPhase
  created : Nat
  call : Option Call
  msgQueue : List Queued
  app : AppPhase
  mqttConnected : Bool
  looping : List (Option Nat)
  resetting : Nat
  history : List Occurrence

inductive Event where
  | connect (attempt : Attempt)
  | connack (flags returnCode : UInt8)
  | close
  | queue (client : Nat)
  | wake
  | disconnect (sendDisconn : Int) (mqttDisconnect : Bool)
  | reset
  | runReturns (thread : Nat)
  | cleanup (thread : Nat) (sendDisconn : Int)
  | receive
  | handle
  | callback
  | poll (client : Option Nat)

def State.log (state : State) (occurrence : Occurrence) : State :=
  { state with history := state.history ++ [occurrence] }

/-- The client of the latest `MQTT_IF_Connect` that has succeeded. -/
def lastConnected (history : List Occurrence) : Option Nat :=
  history.reverse.findSome? fun occurrence =>
    match occurrence with
    | .connected client => some client
    | _ => none

/-! ## The receive thread -/

/-- `mq_send` blocks while the queue is full; elements of other kinds only make it wait longer. -/
def State.HasRoom (state : State) : Prop := state.msgQueue.length < Backlog.mqMaxmsg

instance (state : State) : Decidable state.HasRoom := inferInstanceAs (Decidable (_ < _))

/-- `MQTTClientCallback` queues what the library reports. -/
def State.enqueue (state : State) (event : Option CallbackEvent) (client : Nat)
    (returnCode : UInt8) : State :=
  match event.bind mqttClientCallback with
  | some event => { state with msgQueue := state.msgQueue ++ [⟨event, client, returnCode⟩] }
  | none => state

def receiveConnack (state : State) (client : Nat) (flags returnCode : UInt8) : State :=
  let (ctx, event) := state.module.ctx.processNotifyAckCB .connack [flags, returnCode]
  ({ state with module := { state.module with ctx := ctx } }.enqueue event client returnCode).log
    (.connack client flags returnCode)

/-- The connection ends, if there is one: `processDisconnCB` up to its call of `appCBs`. -/
def closeLink (state : State) : State :=
  match state.link with
  | some client =>
    { state with
      link := none
      closing := state.closing ++ [client]
      module := { state.module with ctx := state.module.ctx.processDisconnCB.1 } }
  | none => state

/-- The event of `processDisconnCB` gets its place on the queue. -/
def queueDisconnect (client : Nat) (state : State) : State :=
  { state with closing := state.closing.erase client }.enqueue
    state.module.ctx.processDisconnCB.2 client 0

/-! ## `MQTT_IF_Connect` and `mqtt_connect` -/

variable (errNotConn : Int)

/-- The CONNECT is tried, which unblocks the context thread. -/
def Attempt.unblocks (attempt : Attempt) : Bool :=
  0 ≤ attempt.registerCtxInfo ∧ 0 ≤ attempt.registerWillInfo.getD 0

/-- `mqtt_connect` up to the wait of `MQTT_IF_Connect`, or up to its own loop. -/
def connect (attempt : Attempt) (state : State) : State :=
  let (module, handle) := connectOpen errNotConn attempt state.module
  let found := if state.module.moduleState = .connected then state.inUse else none
  let looping := { state with module := module, looping := state.looping ++ [found] }
  if state.module.moduleState ≠ .initialized then looping.log (.refused none)
  else
    match attempt.creation with
    | .failed => looping.log (.refused none)
    | .failedCleared => { looping with inUse := none, link := none }.log (.refused none)
    | .created =>
      let client := state.created + 1
      let thread :=
        if attempt.threadStarted = false then .absent
        else if Attempt.unblocks attempt then .running else .blocked
      let state := { state with
        module := module
        inUse := some client
        created := client
        threads := Function.update state.threads client thread }
      match handle with
      | some handle =>
        { state with link := none, looping := state.looping ++ [some client] }.log
          (if handle < 0 then .refused (some client) else .connected client)
      | none =>
        { state with link := some client, call := some (.connect attempt.sendConnectMsg) }

def wakeConnect (sendConnectMsg : Int) (state : State) : State :=
  let (module, ret, _) := connectClose sendConnectMsg state.module
  { state with module := module, call := none, looping := state.looping ++ [some state.created] }.log
    (if ret < 0 then .refused (some state.created) else .connected state.created)

/-! ## `MQTT_IF_Disconnect` and `mqtt_disconnect` -/

/-- `MQTT_IF_Disconnect` returns; `mqtt_disconnect` goes on whatever the result is. -/
def returnDisconnect (mqttDisconnect : Bool) (occurrence : Occurrence) (state : State) : State :=
  { state with
    call := none
    resetting := if mqttDisconnect then state.resetting + 1 else state.resetting }.log occurrence

/-- `MQTTClient_disconnect` has returned `ret`. -/
def finishDisconnect (mqttDisconnect before : Bool) (ret : Int) (state : State) : State :=
  if int16 ret < 0 then
    returnDisconnect mqttDisconnect (.notDisconnected before state.clientDisconnectFlag) state
  else
    returnDisconnect mqttDisconnect (.disconnected state.inUse)
      { state with module := { state.module with moduleState := .initialized } }

def disconnect (sendDisconn : Int) (mqttDisconnect : Bool) (state : State) : State :=
  let before := state.clientDisconnectFlag
  if state.module.moduleState ≠ .connected then
    returnDisconnect mqttDisconnect (.notDisconnected before before) state
  else
    let state := { state with clientDisconnectFlag := true }
    let (ctx, open?) :=
      { state.module.ctx with connectedState := false }.awaitedAckSet .disconnectCb
    let state := { state with module := { state.module with ctx := ctx } }
    if open? = false then finishDisconnect mqttDisconnect before errNotConn state
    else if sendDisconn < 0 then finishDisconnect mqttDisconnect before sendDisconn state
    else { state with call := some (.disconnect mqttDisconnect) }

def wakeDisconnect (mqttDisconnect : Bool) (state : State) : State :=
  let ctx := { state.module.ctx with ackSyncObj := state.module.ctx.ackSyncObj - 1 }
  finishDisconnect mqttDisconnect state.clientDisconnectFlag 0
    { state with module := { state.module with ctx := ctx } }

/-! ## `MQTTContextThread` -/

/-- `MQTTClient_delete` ends a connection that is still up; it does nothing for `NULL`. -/
def clientDelete (sendDisconn : Int) (state : State) : State :=
  if state.module.mqttClient ≠ 1 then state
  else
    let state := { state with module := { state.module with closeContext := true } }
    let opened := state.module.ctx.connectedState ∧ state.module.ctx.awaitedAck ≠ .disconnect
    let state := if opened ∧ 0 ≤ sendDisconn then closeLink state else state
    { state with
      inUse := none
      link := none
      module := { state.module with ctx := .cleared } }

/-- The cleanup of a context thread: whose client it deletes, and whose `CONNECTED` it resets. -/
def cleanup (thread : Nat) (sendDisconn : Int) (state : State) : State :=
  let deleted := if state.module.mqttClient = 1 then state.inUse else none
  let reset := if state.module.moduleState = .connected then lastConnected state.history else none
  let state := clientDelete sendDisconn state
  { state with
    module := { state.module with moduleState := .initialized }
    threads := Function.update state.threads thread .exited }.log (.cleaned thread deleted reset)

/-! ## `MQTTAppThread` and `mqtt_event_callback` -/

/-- The event that `eventCB` is called with. -/
def handle (element : Queued) (state : State) : State :=
  match element.event with
  | .serverDisconnect =>
    if state.clientDisconnectFlag then
      { state with
        clientDisconnectFlag := false
        app := .reporting element .clientDisconnect }
    else { state with app := .reporting element .serverDisconnect }
  | event => { state with app := .reporting element event }

def mqttEventCallback (element : Queued) (event : MqttEvent) (state : State) : State :=
  match event with
  | .connack =>
    { state with mqttConnected := true }.log (.raised element.client element.returnCode)
  | .clientDisconnect | .serverDisconnect =>
    { state with mqttConnected := false }.log (.reported element.client event)
  | _ => state

/-! ## Interleaving -/

def step (state : State) : Event → Option State
  | .connect attempt => if state.call = none then some (connect errNotConn attempt state) else none
  | .connack flags returnCode =>
    if state.HasRoom then state.link.map fun client => receiveConnack state client flags returnCode
    else none
  | .close => if state.link.isSome then some (closeLink state) else none
  | .queue client =>
    if client ∈ state.closing ∧ state.HasRoom then some (queueDisconnect client state) else none
  | .wake =>
    if 0 < state.module.ctx.ackSyncObj then
      match state.call with
      | some (.connect sendConnectMsg) => some (wakeConnect sendConnectMsg state)
      | some (.disconnect mqttDisconnect) => some (wakeDisconnect mqttDisconnect state)
      | none => none
    else none
  | .disconnect sendDisconn mqttDisconnect =>
    if state.call = none then some (disconnect errNotConn sendDisconn mqttDisconnect state)
    else none
  | .reset =>
    if 0 < state.resetting then
      some { state with resetting := state.resetting - 1, mqttConnected := false }
    else none
  | .runReturns thread =>
    -- the broken connection, or `MQTTClient_delete`, ends `MQTTClient_run`
    if thread ∉ state.closing ∧ (state.threads thread = .running ∧ state.link = none ∨
        (state.threads thread = .running ∨ state.threads thread = .blocked) ∧
          state.module.closeContext) then
      some { state with threads := Function.update state.threads thread .returned }
    else none
  | .cleanup thread sendDisconn =>
    if state.call = none ∧ state.threads thread = .returned then
      some (cleanup thread sendDisconn state)
    else none
  | .receive =>
    match state.app, state.msgQueue with
    | .receiving, element :: rest =>
      some { state with app := .received element, msgQueue := rest }
    | _, _ => none
  | .handle =>
    match state.app with
    | .received element => if state.call = none then some (handle element state) else none
    | _ => none
  | .callback =>
    match state.app with
    | .reporting element event =>
      some { mqttEventCallback element event state with app := .receiving }
    | _ => none
  | .poll client =>
    -- one look at `mqtt_connected` in the waiting loop
    if client ∈ state.looping then
      if state.mqttConnected then
        some ({ state with looping := state.looping.erase client }.log (.left client))
      else some state
    else none

/-- `MQTT_IF_Init` has been called. -/
def initial : State :=
  { module := ⟨.initialized, 0, .cleared, false⟩
    clientDisconnectFlag := false
    inUse := none
    link := none
    closing := []
    threads := fun _ => .absent
    created := 0
    call := none
    msgQueue := []
    app := .receiving
    mqttConnected := false
    looping := []
    resetting := 0
    history := [] }

end PlhrFirmware.Session
