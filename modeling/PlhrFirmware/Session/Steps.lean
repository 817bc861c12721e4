import PlhrFirmware.Lib.Latest
import PlhrFirmware.Session.System

/-! # What a step of the session system does

`Step` has one constructor for each way in which a step can end, with the state it leads to.
Every invariant of the system is derived from `step_cases`, and none unfolds a step again.
-/

namespace PlhrFirmware.Session

open PlhrFirmware.Lib PlhrFirmware.Client

variable {errNotConn : Int}

/-- The client context while the CONNACK is awaited. -/
def awaitingCtx : ClientCtx :=
  { ClientCtx.create mqttClientBlockingSend with awaitedAck := .ack .connack }

def State.create (state : State) (module : Module) (thread : ThreadPhase) : State :=
  { state with
    module := module
    inUse := some (state.created + 1)
    created := state.created + 1
    threads := Function.update state.threads (state.created + 1) thread }

def State.setCtx (state : State) (ctx : ClientCtx) : State :=
  { state with module := { state.module with ctx := ctx } }

def State.queue (state : State) (element : Queued) : State :=
  { state with msgQueue := state.msgQueue ++ [element] }

section Fields

variable {state : State} {occurrence : Occurrence} {history : List Occurrence}

@[simp] theorem State.log_history :
    (state.log occurrence).history = state.history ++ [occurrence] := rfl

@[simp] theorem State.create_history (module : Module) (thread : ThreadPhase) :
    (state.create module thread).history = state.history := rfl

@[simp] theorem State.setCtx_history (ctx : ClientCtx) :
    (state.setCtx ctx).history = state.history := rfl

@[simp] theorem State.queue_history (element : Queued) :
    (state.queue element).history = state.history := rfl

@[simp] theorem lastConnected_append_connected (client : Nat) :
    lastConnected (history ++ [.connected client]) = some client := by
  simp [lastConnected]

theorem lastConnected_append {logged : List Occurrence}
    (other : ∀ occurrence ∈ logged, ∀ client, occurrence ≠ .connected client) :
    lastConnected (history ++ logged) = lastConnected history := by
  refine lastAnswer_append.trans ?_
  rw [lastAnswer_eq_none.mpr, Option.none_or]
  · rfl
  · intro occurrence member
    cases occurrence with
    | connected client => exact absurd rfl (other _ member client)
    | refused | connack | disconnected | notDisconnected | cleaned | reported | raised | left => rfl

end Fields

/-- The connection whose `CONNECTED` a cleanup takes back. -/
def State.reset (state : State) : Option Nat :=
  if state.module.moduleState = .connected then lastConnected state.history else none

/-- What `MQTTClient_disconnect` fails with, before the wait. -/
def State.failure (errNotConn : Int) (state : State) (sendDisconn : Int) : Option Int :=
  if state.module.ctx.awaitedAck = .disconnect then some errNotConn
  else if sendDisconn < 0 then some sendDisconn
  else none

inductive Step (errNotConn : Int) (state : State) : Event → State → Prop where
  | refused (attempt : Attempt) {module : Module} {found : Option Nat} (free : state.call = none)
      (moduleState : module.moduleState = state.module.moduleState)
      (ctx : module.ctx = state.module.ctx)
      (mqttClient : state.module.moduleState = .connected →
        module.mqttClient = state.module.mqttClient)
      (whose : state.module.moduleState = .connected ∧ found = state.inUse ∨
        state.module.moduleState = .initialized ∧ attempt.creation = .failed ∧ found = none ∨
        state.module.moduleState = .idle) :
      Step errNotConn state (.connect attempt)
        ({ state with module := module, looping := state.looping ++ [found] }.log (.refused none))
  | cleared (attempt : Attempt) {module : Module} (free : state.call = none)
      (initialized : state.module.moduleState = .initialized)
      (moduleState : module.moduleState = .initialized) :
      Step errNotConn state (.connect attempt)
        ({ state with
          module := module
          looping := state.looping ++ [none]
          inUse := none
          link := none }.log (.refused none))
  | notStarted (attempt : Attempt) {module : Module} (thread : ThreadPhase) (free : state.call = none)
      (initialized : state.module.moduleState = .initialized)
      (moduleState : module.moduleState = .initialized) (creation : attempt.creation = .created) :
      Step errNotConn state (.connect attempt)
        ({ state.create module thread with
          link := none
          looping := state.looping ++ [some (state.created + 1)] }.log
          (.refused (some (state.created + 1))))
  | unlinked (attempt : Attempt) {module : Module} (thread : ThreadPhase) (free : state.call = none)
      (initialized : state.module.moduleState = .initialized)
      (moduleState : module.moduleState = .connected) (mqttClient : module.mqttClient = 1)
      (closed : module.ctx.awaitedAck = .disconnect) (creation : attempt.creation = .created) :
      Step errNotConn state (.connect attempt)
        ({ state.create module thread with
          link := none
          looping := state.looping ++ [some (state.created + 1)] }.log
          (.connected (state.created + 1)))
  | connecting (attempt : Attempt) (thread : ThreadPhase) (free : state.call = none)
      (initialized : state.module.moduleState = .initialized)
      (sent : 0 ≤ attempt.sendConnectMsg) (creation : attempt.creation = .created) :
      Step errNotConn state (.connect attempt)
        { state.create ⟨.initialized, 1, awaitingCtx, false⟩ thread with
          link := some (state.created + 1)
          call := some (.connect attempt.sendConnectMsg) }
  | connack (flags returnCode : UInt8) {client : Nat} (link : state.link = some client) :
      Step errNotConn state (.connack flags returnCode)
        (((state.setCtx (state.module.ctx.processNotifyAckCB .connack [flags, returnCode]).1).queue
          ⟨.connack, client, returnCode⟩).log (.connack client flags returnCode))
  | close {client : Nat} (link : state.link = some client) :
      Step errNotConn state .close
        { state.setCtx state.module.ctx.processDisconnCB.1 with
          link := none
          closing := state.closing ++ [client] }
  | queue {client : Nat} (closing : client ∈ state.closing) :
      Step errNotConn state (.queue client)
        { state.queue ⟨.serverDisconnect, client, 0⟩ with closing := state.closing.erase client }
  | connectFails {sendConnectMsg : Int} {module : Module}
      (waiting : state.call = some (.connect sendConnectMsg))
      (posted : 0 < state.module.ctx.ackSyncObj)
      (failed : int16 (clientConnectClose sendConnectMsg state.module.ctx).2 < 0)
      (closed : module = { state.module with
        ctx := (clientConnectClose sendConnectMsg state.module.ctx).1 }) :
      Step errNotConn state .wake
        ({ state with
          module := module
          call := none
          looping := state.looping ++ [some state.created] }.log (.refused (some state.created)))
  | connects {sendConnectMsg : Int} {module : Module}
      (waiting : state.call = some (.connect sendConnectMsg))
      (posted : 0 < state.module.ctx.ackSyncObj)
      (closed : module = { state.module with
        moduleState := .connected
        ctx := (clientConnectClose sendConnectMsg state.module.ctx).1 }) :
      Step errNotConn state .wake
        ({ state with
          module := module
          call := none
          looping := state.looping ++ [some state.created] }.log (.connected state.created))
  | disconnects {mqttDisconnect : Bool} (resetting : Nat) {ctx : ClientCtx}
      (waiting : state.call = some (.disconnect mqttDisconnect))
      (posted : 0 < state.module.ctx.ackSyncObj) :
      Step errNotConn state .wake
        ({ state with
          module := { state.module with ctx := ctx, moduleState := .initialized }
          call := none
          resetting := resetting }.log (.disconnected state.inUse))
  | notConnected (sendDisconn : Int) (mqttDisconnect : Bool) (resetting : Nat)
      (free : state.call = none) (other : state.module.moduleState ≠ .connected) :
      Step errNotConn state (.disconnect sendDisconn mqttDisconnect)
        ({ state with resetting := resetting }.log
          (.notDisconnected state.clientDisconnectFlag state.clientDisconnectFlag))
  | disconnectFails (sendDisconn : Int) (mqttDisconnect : Bool) (resetting : Nat) {ret : Int}
      (free : state.call = none) (connected : state.module.moduleState = .connected)
      (failed : state.failure errNotConn sendDisconn = some ret) (negative : int16 ret < 0) :
      Step errNotConn state (.disconnect sendDisconn mqttDisconnect)
        ({ state.setCtx ({ state.module.ctx with
            connectedState := false }.awaitedAckSet .disconnectCb).1 with
          clientDisconnectFlag := true
          resetting := resetting }.log (.notDisconnected state.clientDisconnectFlag true))
  | disconnectUnsent (sendDisconn : Int) (mqttDisconnect : Bool) (resetting : Nat) {ret : Int}
      {ctx : ClientCtx} (free : state.call = none) (connected : state.module.moduleState = .connected)
      (failed : state.failure errNotConn sendDisconn = some ret) (narrowed : ¬ int16 ret < 0) :
      Step errNotConn state (.disconnect sendDisconn mqttDisconnect)
        ({ state with
          module := { state.module with ctx := ctx, moduleState := .initialized }
          clientDisconnectFlag := true
          resetting := resetting }.log (.disconnected state.inUse))
  | disconnecting (sendDisconn : Int) (mqttDisconnect : Bool) (free : state.call = none)
      (connected : state.module.moduleState = .connected)
      (succeeds : state.failure errNotConn sendDisconn = none)
      (opened : state.module.ctx.awaitedAck ≠ .disconnect) :
      Step errNotConn state (.disconnect sendDisconn mqttDisconnect)
        { state.setCtx { state.module.ctx with
            connectedState := false
            awaitedAck := .disconnectCb } with
          clientDisconnectFlag := true
          call := some (.disconnect mqttDisconnect) }
  | reset (resetting : Nat) :
      Step errNotConn state .reset { state with resetting := resetting, mqttConnected := false }
  | runReturns (thread : Nat) : Step errNotConn state (.runReturns thread)
      { state with threads := Function.update state.threads thread .returned }
  | cleanup (thread : Nat) (sendDisconn : Int) (free : state.call = none)
      (returned : state.threads thread = .returned) (null : state.module.mqttClient ≠ 1) :
      Step errNotConn state (.cleanup thread sendDisconn)
        ({ state with
          module := { state.module with moduleState := .initialized }
          threads := Function.update state.threads thread .exited }.log
          (.cleaned thread none state.reset))
  | delete (thread : Nat) (sendDisconn : Int) {ended : List Nat} (free : state.call = none)
      (returned : state.threads thread = .returned) (handle : state.module.mqttClient = 1)
      (linked : ended = [] ∨ ∃ client, state.link = some client ∧ ended = [client]) :
      Step errNotConn state (.cleanup thread sendDisconn)
        ({ state with
          module := ⟨.initialized, 1, .cleared, true⟩
          inUse := none
          link := none
          closing := state.closing ++ ended
          threads := Function.update state.threads thread .exited }.log
          (.cleaned thread state.inUse state.reset))
  | receive {element : Queued} {rest : List Queued} (receiving : state.app = .receiving)
      (queued : state.msgQueue = element :: rest) :
      Step errNotConn state .receive { state with app := .received element, msgQueue := rest }
  | relabel {element : Queued} (received : state.app = .received element)
      (free : state.call = none) (disconnect : element.event = .serverDisconnect)
      (flagged : state.clientDisconnectFlag = true) :
      Step errNotConn state .handle
        { state with clientDisconnectFlag := false, app := .reporting element .clientDisconnect }
  | handle {element : Queued} (received : state.app = .received element) (free : state.call = none)
      (plain : element.event = .serverDisconnect → state.clientDisconnectFlag = false) :
      Step errNotConn state .handle { state with app := .reporting element element.event }
  | raise {element : Queued} (reporting : state.app = .reporting element .connack) :
      Step errNotConn state .callback
        ({ state with mqttConnected := true, app := .receiving }.log
          (.raised element.client element.returnCode))
  | report {element : Queued} {event : MqttEvent} (reporting : state.app = .reporting element event)
      (disconnect : event = .clientDisconnect ∨ event = .serverDisconnect) :
      Step errNotConn state .callback
        ({ state with mqttConnected := false, app := .receiving }.log
          (.reported element.client event))
  | pass {element : Queued} {event : MqttEvent} (reporting : state.app = .reporting element event)
      (connack : event ≠ .connack) (client : event ≠ .clientDisconnect)
      (server : event ≠ .serverDisconnect) :
      Step errNotConn state .callback { state with app := .receiving }
  | leave {client : Option Nat} (looping : client ∈ state.looping)
      (connected : state.mqttConnected = true) :
      Step errNotConn state (.poll client)
        ({ state with looping := state.looping.erase client }.log (.left client))
  | stay (client : Option Nat) (waiting : state.mqttConnected = false) :
      Step errNotConn state (.poll client) state

/-! ## Inversion -/

theorem failure_eq_none {state : State} {sendDisconn : Int} :
    state.failure errNotConn sendDisconn = none ↔
      state.module.ctx.awaitedAck ≠ .disconnect ∧ 0 ≤ sendDisconn := by
  unfold State.failure
  split
  next closed => simp [closed]
  next opened => simp [opened]

theorem clientConnectOpen_some {attempt : Attempt} {ctx : ClientCtx} {ret : Int}
    (opened : clientConnectOpen errNotConn attempt (.create mqttClientBlockingSend) =
      (ctx, some ret)) : ctx.awaitedAck = .disconnect := by
  simp only [clientConnectOpen] at opened
  split at opened
  next open? => exact absurd rfl open?
  split at opened
  next =>
    rw [← (Prod.mk.inj opened).1]
    rfl
  split at opened
  next =>
    rw [← (Prod.mk.inj opened).1]
    rfl
  split at opened
  next =>
    rw [← (Prod.mk.inj opened).1]
    rfl
  next => cases opened

theorem clientConnectOpen_none {attempt : Attempt} {ctx : ClientCtx}
    (opened : clientConnectOpen errNotConn attempt (.create mqttClientBlockingSend) = (ctx, none)) :
    ctx = awaitingCtx ∧ 0 ≤ attempt.sendConnectMsg := by
  simp only [clientConnectOpen] at opened
  split at opened
  next => cases opened
  split at opened
  next => cases opened
  split at opened
  next will =>
    cases registered : attempt.registerWillInfo with
    | none => simp [registered] at will
    | some info => simp [registered] at opened
  split at opened
  next => cases opened
  next sent =>
    cases opened
    exact ⟨rfl, Int.not_lt.mp sent⟩

/-- A client is created: `MQTT_IF_Connect` returns without a wait, or the CONNECT is sent. -/
theorem connectOpen_created (errNotConn : Int) {attempt : Attempt} {module : Module}
    (initialized : module.moduleState = .initialized) (created : attempt.creation = .created) :
    (∃ opened handle, connectOpen errNotConn attempt module = (opened, some handle) ∧
      (handle < 0 ∧ opened.moduleState = .initialized ∨
        ¬ handle < 0 ∧ opened.moduleState = .connected ∧ opened.mqttClient = 1 ∧
          opened.ctx.awaitedAck = .disconnect)) ∨
    (connectOpen errNotConn attempt module = (⟨.initialized, 1, awaitingCtx, false⟩, none) ∧
      0 ≤ attempt.sendConnectMsg) := by
  by_cases started : attempt.threadStarted = false
  · left
    exact ⟨⟨.initialized, 1, .create mqttClientBlockingSend, false⟩, -1,
      by simp [connectOpen, initialized, created, started], .inl ⟨by decide, rfl⟩⟩
  · cases opened : clientConnectOpen errNotConn attempt (ClientCtx.create mqttClientBlockingSend) with
    | mk ctx returned =>
      cases returned with
      | some ret =>
        left
        by_cases failed : int16 ret < 0
        · exact ⟨⟨.initialized, 1, ctx, false⟩, int16 ret,
            by simp [connectOpen, initialized, created, started, opened, failed], .inl ⟨failed, rfl⟩⟩
        · exact ⟨⟨.connected, 1, ctx, false⟩, 1,
            by simp [connectOpen, initialized, created, started, opened, failed],
            .inr ⟨by decide, rfl, rfl, clientConnectOpen_some opened⟩⟩
      | none =>
        right
        obtain ⟨rfl, sent⟩ := clientConnectOpen_none opened
        exact ⟨by simp [connectOpen, initialized, created, started, opened], sent⟩

theorem connect_cases (attempt : Attempt) (state : State) (free : state.call = none) :
    Step errNotConn state (.connect attempt) (connect errNotConn attempt state) := by
  by_cases initialized : state.module.moduleState = .initialized
  · cases created : attempt.creation with
    | failed =>
      simp [connect, connectOpen, initialized, created]
      exact .refused attempt free (by simp [initialized]) rfl (by simp [initialized])
        (.inr (.inl ⟨initialized, created, rfl⟩))
    | failedCleared =>
      simp [connect, connectOpen, initialized, created]
      exact .cleared attempt free initialized rfl
    | created =>
      rcases connectOpen_created errNotConn initialized created with returned | waits
      · obtain ⟨module, handle, opened, ⟨failed, moduleState⟩ | ⟨ok, moduleState, mqttClient, closed⟩⟩ :=
          returned
        · simp [connect, initialized, created, opened, failed]
          exact .notStarted attempt _ free initialized moduleState created
        · simp [connect, initialized, created, opened, ok]
          exact .unlinked attempt _ free initialized moduleState mqttClient closed created
      · obtain ⟨opened, sent⟩ := waits
        simp [connect, initialized, created, opened]
        exact .connecting attempt _ free initialized sent created
  · simp [connect, connectOpen, initialized]
    refine .refused attempt free rfl rfl (fun _ => rfl) ?_
    cases moduleState : state.module.moduleState with
    | idle => exact .inr (.inr rfl)
    | initialized => exact absurd moduleState initialized
    | connected => exact .inl ⟨rfl, rfl⟩

theorem disconnect_cases (sendDisconn : Int) (mqttDisconnect : Bool) (state : State)
    (free : state.call = none) :
    Step errNotConn state (.disconnect sendDisconn mqttDisconnect)
      (disconnect errNotConn sendDisconn mqttDisconnect state) := by
  by_cases connected : state.module.moduleState = .connected
  · cases failed : state.failure errNotConn sendDisconn with
    | some ret =>
      have result : disconnect errNotConn sendDisconn mqttDisconnect state =
          finishDisconnect mqttDisconnect state.clientDisconnectFlag ret
            { state.setCtx ({ state.module.ctx with
                connectedState := false }.awaitedAckSet .disconnectCb).1 with
              clientDisconnectFlag := true } := by
        by_cases closed : state.module.ctx.awaitedAck = .disconnect
        · simp only [State.failure, closed, if_true, Option.some.injEq] at failed
          simp [disconnect, connected, ClientCtx.awaitedAckSet, closed, State.setCtx, failed]
        · simp only [State.failure, closed, if_false, Option.ite_none_right_eq_some,
            Option.some.injEq] at failed
          obtain ⟨unsent, rfl⟩ := failed
          simp [disconnect, connected, ClientCtx.awaitedAckSet, closed, State.setCtx, unsent]
      by_cases negative : int16 ret < 0
      · rw [result, finishDisconnect, if_pos negative, returnDisconnect, ← free]
        exact .disconnectFails sendDisconn mqttDisconnect _ free connected failed negative
      · rw [result, finishDisconnect, if_neg negative, returnDisconnect, ← free]
        exact .disconnectUnsent sendDisconn mqttDisconnect _ free connected failed negative
    | none =>
      obtain ⟨opened, sent⟩ := failure_eq_none.mp failed
      have result : disconnect errNotConn sendDisconn mqttDisconnect state =
          { state.setCtx { state.module.ctx with
              connectedState := false
              awaitedAck := .disconnectCb } with
            clientDisconnectFlag := true
            call := some (.disconnect mqttDisconnect) } := by
        simp [disconnect, connected, ClientCtx.awaitedAckSet, opened, Int.not_lt.mpr sent,
          State.setCtx]
      rw [result]
      exact .disconnecting sendDisconn mqttDisconnect free connected failed opened
  · have result : disconnect errNotConn sendDisconn mqttDisconnect state =
        returnDisconnect mqttDisconnect
          (.notDisconnected state.clientDisconnectFlag state.clientDisconnectFlag) state := by
      simp [disconnect, connected]
    rw [result, returnDisconnect, ← free]
    exact .notConnected sendDisconn mqttDisconnect _ free connected

theorem wake_cases {state result : State} (stepped : step errNotConn state .wake = some result) :
    Step errNotConn state .wake result := by
  simp only [step, Option.ite_none_right_eq_some] at stepped
  obtain ⟨posted, stepped⟩ := stepped
  cases waiting : state.call with
  | none => simp [waiting] at stepped
  | some call =>
    cases call with
    | connect sendConnectMsg =>
      simp only [waiting, Option.some.injEq] at stepped
      subst result
      by_cases failed : int16 (clientConnectClose sendConnectMsg state.module.ctx).2 < 0
      · simp [wakeConnect, connectClose, failed]
        exact .connectFails waiting posted failed rfl
      · simp [wakeConnect, connectClose, failed]
        exact .connects waiting posted rfl
    | disconnect mqttDisconnect =>
      simp only [waiting, Option.some.injEq] at stepped
      subst result
      exact .disconnects _ waiting posted

theorem cleanup_cases {state : State} (thread : Nat) (sendDisconn : Int) (free : state.call = none)
    (returned : state.threads thread = .returned) :
    Step errNotConn state (.cleanup thread sendDisconn) (cleanup thread sendDisconn state) := by
  by_cases handle : state.module.mqttClient = 1
  · by_cases sent : (state.module.ctx.connectedState = true ∧ state.module.ctx.awaitedAck ≠ .disconnect) ∧
        0 ≤ sendDisconn
    · cases link : state.link with
      | none =>
        have deleted : Step errNotConn state _ _ :=
          .delete thread sendDisconn free returned handle (.inl rfl)
        simpa [cleanup, clientDelete, handle, sent, closeLink, link, State.reset] using deleted
      | some client =>
        have deleted : Step errNotConn state _ _ :=
          .delete thread sendDisconn free returned handle (.inr ⟨client, link, rfl⟩)
        simpa [cleanup, clientDelete, handle, sent, closeLink, link, State.reset] using deleted
    · have deleted : Step errNotConn state _ _ := .delete thread sendDisconn free returned handle (.inl rfl)
      simpa [cleanup, clientDelete, handle, sent, State.reset] using deleted
  · simp only [cleanup, clientDelete, handle, if_false, ne_eq, not_false_eq_true, if_true]
    exact .cleanup thread sendDisconn free returned handle

theorem handle_cases {state : State} {element : Queued} (received : state.app = .received element)
    (free : state.call = none) : Step errNotConn state .handle (handle element state) := by
  by_cases disconnect : element.event = .serverDisconnect
  · by_cases flagged : state.clientDisconnectFlag = true
    · simp only [handle, disconnect, flagged, if_true]
      exact .relabel received free disconnect flagged
    · have plain : Step errNotConn state .handle { state with app := .reporting element element.event } :=
        .handle received free fun _ => Bool.not_eq_true _ ▸ flagged
      simpa [handle, disconnect, flagged] using plain
  · have plain : handle element state = { state with app := .reporting element element.event } := by
      unfold handle
      split
      next same => exact absurd same disconnect
      next => rfl
    rw [plain]
    exact .handle received free fun same => absurd same disconnect

theorem callback_cases {state : State} {element : Queued} {event : MqttEvent}
    (reporting : state.app = .reporting element event) :
    Step errNotConn state .callback { mqttEventCallback element event state with app := .receiving } := by
  cases event with
  | connack => exact .raise reporting
  | clientDisconnect => exact .report reporting (.inl rfl)
  | serverDisconnect => exact .report reporting (.inr rfl)
  | suback | puback | unsuback | destroy | recv =>
    exact .pass reporting (by simp) (by simp) (by simp)

/-- What a step of the system does. -/
theorem step_cases {state result : State} {event : Event}
    (stepped : step errNotConn state event = some result) : Step errNotConn state event result := by
  cases event with
  | connect attempt =>
    simp only [step, Option.ite_none_right_eq_some, Option.some.injEq] at stepped
    rw [← stepped.2]
    exact connect_cases attempt state stepped.1
  | connack flags returnCode =>
    simp only [step, Option.ite_none_right_eq_some] at stepped
    obtain ⟨client, link, received⟩ := Option.map_eq_some_iff.mp stepped.2
    rw [← received]
    exact .connack flags returnCode link
  | close =>
    simp only [step, Option.ite_none_right_eq_some, Option.some.injEq] at stepped
    obtain ⟨client, link⟩ := Option.isSome_iff_exists.mp stepped.1
    rw [← stepped.2, closeLink, link]
    exact .close link
  | queue client =>
    simp only [step, Option.ite_none_right_eq_some, Option.some.injEq] at stepped
    rw [← stepped.2]
    exact .queue stepped.1.1
  | wake => exact wake_cases stepped
  | disconnect sendDisconn mqttDisconnect =>
    simp only [step, Option.ite_none_right_eq_some, Option.some.injEq] at stepped
    rw [← stepped.2]
    exact disconnect_cases sendDisconn mqttDisconnect state stepped.1
  | reset =>
    simp only [step, Option.ite_none_right_eq_some, Option.some.injEq] at stepped
    rw [← stepped.2]
    exact .reset _
  | runReturns thread =>
    simp only [step, Option.ite_none_right_eq_some, Option.some.injEq] at stepped
    rw [← stepped.2]
    exact .runReturns thread
  | cleanup thread sendDisconn =>
    simp only [step, Option.ite_none_right_eq_some, Option.some.injEq] at stepped
    rw [← stepped.2]
    exact cleanup_cases thread sendDisconn stepped.1.1 stepped.1.2
  | receive =>
    simp only [step] at stepped
    split at stepped
    next element rest receiving queued =>
      cases stepped
      exact .receive receiving queued
    next => cases stepped
  | handle =>
    simp only [step] at stepped
    split at stepped
    next element received =>
      simp only [Option.ite_none_right_eq_some, Option.some.injEq] at stepped
      rw [← stepped.2]
      exact handle_cases received stepped.1
    next => cases stepped
  | callback =>
    simp only [step] at stepped
    split at stepped
    next element event reporting =>
      cases stepped
      exact callback_cases reporting
    next => cases stepped
  | poll client =>
    simp only [step, Option.ite_none_right_eq_some] at stepped
    obtain ⟨looping, stepped⟩ := stepped
    by_cases connected : state.mqttConnected = true
    · rw [if_pos connected, Option.some.injEq] at stepped
      rw [← stepped]
      exact .leave looping connected
    · rw [if_neg connected, Option.some.injEq] at stepped
      rw [← stepped]
      exact .stay client (Bool.not_eq_true _ ▸ connected)

theorem step_history {state result : State} {event : Event}
    (stepped : step errNotConn state event = some result) :
    ∃ logged, result.history = state.history ++ logged := by
  cases step_cases stepped with
  | refused | cleared | notStarted | unlinked | connack | connectFails | connects | disconnects
  | notConnected | disconnectFails | disconnectUnsent | cleanup | delete | raise | report | leave =>
    exact ⟨_, rfl⟩
  | connecting | close | queue | disconnecting | reset | runReturns | receive | relabel | handle
  | pass | stay =>
    exact ⟨[], (List.append_nil _).symm⟩

end PlhrFirmware.Session
