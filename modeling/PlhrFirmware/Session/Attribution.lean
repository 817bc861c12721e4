import Mathlib.Data.List.Nodup
import PlhrFirmware.Session.Cleanup

/-! # Who ended the connection

`MQTT_IF_Disconnect` sets `clientDisconnectFlag` before it tries to disconnect, and
`MQTTAppThread` clears it with the next disconnect event that it takes off the queue, whichever
connection that event is about.
-/

namespace PlhrFirmware.Session

open PlhrFirmware.Lib PlhrFirmware.Client

variable {errNotConn : Int}

/-! ## The queue -/

/-- The elements that `MQTTAppThread` has not handled, in order. -/
def State.outstanding (state : State) : List Queued :=
  match state.app with
  | .received element => element :: state.msgQueue
  | _ => state.msgQueue

/-- The connections that the disconnect events of a queue are about. -/
def disconnectsOf (elements : List Queued) : List Nat :=
  (elements.filter fun element => element.event = .serverDisconnect).map Queued.client

/-- The connections that have ended and whose disconnect event has not been handled, those first
that have it on the queue. -/
def State.pending (state : State) : List Nat := disconnectsOf state.outstanding ++ state.closing

/-- A `MQTT_IF_Disconnect` of the connection has returned success. -/
def State.Ended (state : State) (client : Nat) : Prop :=
  .disconnected (some client) ∈ state.history

/-- Every disconnect event is reported as `MQTT_EVENT_CLIENT_DISCONNECT` if and only if a
`MQTT_IF_Disconnect` that returned success has ended the connection, and else as
`MQTT_EVENT_SERVER_DISCONNECT`; a `MQTT_IF_Disconnect` that fails leaves the flag. -/
structure Attributed (state : State) : Prop where
  reported : ∀ client event, .reported client event ∈ state.history →
    (event = .clientDisconnect ∨ event = .serverDisconnect) ∧
      (event = .clientDisconnect ↔ state.Ended client)
  failed : ∀ before after, .notDisconnected before after ∈ state.history → after = before

@[simp] theorem disconnectsOf_append (elements more : List Queued) :
    disconnectsOf (elements ++ more) = disconnectsOf elements ++ disconnectsOf more := by
  simp [disconnectsOf]

theorem disconnectsOf_cons {element : Queued} (disconnect : element.event = .serverDisconnect)
    (elements : List Queued) :
    disconnectsOf (element :: elements) = element.client :: disconnectsOf elements := by
  simp [disconnectsOf, disconnect]

theorem disconnectsOf_cons_other {element : Queued} (other : element.event ≠ .serverDisconnect)
    (elements : List Queued) : disconnectsOf (element :: elements) = disconnectsOf elements := by
  simp [disconnectsOf, other]

theorem disconnectsOf_sublist {elements more : List Queued} (sublist : elements.Sublist more) :
    (disconnectsOf elements).Sublist (disconnectsOf more) := (sublist.filter _).map _

/-- A `MQTT_IF_Disconnect` in the state `CONNECTED` comes when no disconnect event is pending, or
fails when the flag is set already; the broker answers a CONNECT with one CONNACK; and while the
flag is set and no disconnect event is on the queue, the connection that ended first is the first
to put its event there. -/
def Attributable (errNotConn : Int) (state : State) : Event → Prop
  | .connack _ _ => state.module.ctx.awaitedAck = .ack .connack
  | .disconnect sendDisconn _ => state.module.moduleState = .connected →
    (∀ ret ∈ state.failure errNotConn sendDisconn,
      int16 ret < 0 ∧ state.clientDisconnectFlag = true) ∧
      (state.failure errNotConn sendDisconn = none → state.pending = [])
  | .queue client => state.clientDisconnectFlag = true → disconnectsOf state.outstanding = [] →
    state.closing.head? = some client
  | _ => True

instance (state : State) (event : Event) : Decidable (Attributable errNotConn state event) :=
  match event with
  | .connack _ _ => inferInstanceAs (Decidable (_ = _))
  | .disconnect _ _ => inferInstanceAs (Decidable (_ → _))
  | .queue _ => inferInstanceAs (Decidable (_ → _ → _))
  | .connect _ | .close | .wake | .reset | .runReturns _ | .cleanup _ _ | .receive | .handle
  | .callback | .poll _ => .isTrue trivial

/-! ## The expectation of the client -/

/-- What `awaitedAck` and `ackSyncObj` say about the link, when every CONNACK is awaited. -/
structure Live (state : State) : Prop where
  connecting : (∃ sendConnectMsg, state.call = some (.connect sendConnectMsg)) →
    state.module.ctx.awaitedAck ≠ .disconnect → state.link = some state.created ∧
      (state.module.ctx.awaitedAck = .ack .connack ∧ state.module.ctx.ackSyncObj = 0 ∨
        state.module.ctx.awaitedAck = .none ∧ state.module.ctx.ackSyncObj = 1)
  connected : state.module.moduleState = .connected →
    state.module.ctx.awaitedAck ≠ .disconnect → state.link = some state.created ∧
      state.module.ctx.awaitedAck ≠ .ack .connack ∧ state.module.ctx.ackSyncObj = 0

/-- A step that leaves the client context. -/
theorem Live.frame {state result : State} (live : Live state) (module : result.module = state.module)
    (link : result.link = state.link) (created : result.created = state.created)
    (call : result.call = state.call) : Live result := by
  refine ⟨?_, ?_⟩
  · rw [module, link, created, call]
    exact live.connecting
  · rw [module, link, created]
    exact live.connected

theorem Live.preserved {state result : State} {event : Event} (live : Live state)
    (attributable : Attributable errNotConn state event)
    (stepped : step errNotConn state event = some result) : Live result := by
  cases step_cases stepped with
  | refused attempt free moduleState ctx mqttClient =>
    exact ⟨by simp [State.log, free], by simpa [State.log, moduleState, ctx] using live.connected⟩
  | cleared attempt free initialized moduleState =>
    exact ⟨by simp [State.log, free], by simp [State.log, moduleState]⟩
  | notStarted attempt thread free initialized moduleState =>
    exact ⟨by simp [State.log, State.create, free], by simp [State.log, State.create, moduleState]⟩
  | unlinked attempt thread free initialized moduleState mqttClient closed =>
    exact ⟨by simp [State.log, State.create, free], fun _ up => absurd closed up⟩
  | connecting attempt thread free initialized sent =>
    exact ⟨fun _ _ => ⟨rfl, .inl ⟨rfl, rfl⟩⟩, fun connected => by cases connected⟩
  | connack flags returnCode link =>
    have awaited : state.module.ctx.awaitedAck = .ack .connack := attributable
    have open? : state.module.ctx.awaitedAck ≠ .disconnect := by simp [awaited]
    refine ⟨fun waiting _ => ?_, fun connected _ => ?_⟩
    · obtain ⟨up, ⟨_, empty⟩ | ⟨answered, _⟩⟩ := live.connecting waiting open?
      · exact ⟨up, .inr ⟨rfl, congrArg Nat.succ empty⟩⟩
      · cases awaited.symm.trans answered
    · exact absurd awaited (live.connected connected open?).2.1
  | close link =>
    exact ⟨fun _ up => absurd processDisconnCB_awaitedAck up,
      fun _ up => absurd processDisconnCB_awaitedAck up⟩
  | connectFails waiting posted failed closed =>
    subst closed
    refine ⟨by simp [State.log], fun connected up => ?_⟩
    have empty := (live.connected connected (by simpa [State.log] using up)).2.2
    omega
  | connects waiting posted closed =>
    subst closed
    refine ⟨by simp [State.log], fun _ up => ?_⟩
    have open? : state.module.ctx.awaitedAck ≠ .disconnect := by simpa [State.log] using up
    obtain ⟨link, ⟨_, empty⟩ | ⟨answered, one⟩⟩ := live.connecting ⟨_, waiting⟩ open?
    · omega
    · exact ⟨link, by simp [State.log, answered], by simp [State.log, one]⟩
  | disconnects resetting waiting posted =>
    exact ⟨by simp [State.log], fun connected => by cases connected⟩
  | disconnectFails sendDisconn mqttDisconnect resetting free connected failed negative =>
    refine ⟨by simp [State.log, State.setCtx, free], fun _ up => ?_⟩
    by_cases closed : state.module.ctx.awaitedAck = .disconnect
    · simp [State.log, State.setCtx, ClientCtx.awaitedAckSet, closed] at up
    · have before := live.connected connected closed
      exact ⟨before.1, by simp [State.log, State.setCtx, ClientCtx.awaitedAckSet, closed],
        by simpa [State.log, State.setCtx, ClientCtx.awaitedAckSet, closed] using before.2.2⟩
  | disconnectUnsent sendDisconn mqttDisconnect resetting free connected failed narrowed =>
    exact ⟨by simp [State.log, free], fun connected => by cases connected⟩
  | disconnecting sendDisconn mqttDisconnect free connected succeeds opened =>
    have before := live.connected connected opened
    have other : AwaitedAck.disconnectCb ≠ .ack .connack := by simp
    exact ⟨by simp, fun _ _ => ⟨before.1, other, before.2.2⟩⟩
  | cleanup thread sendDisconn free returned null =>
    exact ⟨by simp [State.log, free], fun connected => by cases connected⟩
  | delete thread sendDisconn free returned handle ended =>
    exact ⟨by simp [State.log, free], fun connected => by cases connected⟩
  | queue | notConnected | raise | report | leave | reset | runReturns | receive | relabel | handle
  | pass =>
    exact live.frame rfl rfl rfl rfl
  | stay => exact live

/-! ## The flag and the queue -/

/-- `MQTTAppThread` has decided what to report of the connection. -/
def State.Answered (state : State) (client : Nat) (event : MqttEvent) : Prop :=
  .reported client event ∈ state.history ∨
    (event = .clientDisconnect ∨ event = .serverDisconnect) ∧
      ∃ element, state.app = .reporting element event ∧ element.client = client

theorem answered_of_receiving {state : State} (receiving : state.app = .receiving) {client : Nat}
    {event : MqttEvent} : state.Answered client event ↔ .reported client event ∈ state.history := by
  simp [State.Answered, receiving]

theorem answered_of_reporting {state : State} {element : Queued} {event : MqttEvent}
    (reporting : state.app = .reporting element event) {client : Nat} {event' : MqttEvent} :
    state.Answered client event' ↔ .reported client event' ∈ state.history ∨
      (event = .clientDisconnect ∨ event = .serverDisconnect) ∧ client = element.client ∧
        event' = event := by
  refine or_congr_right ⟨?_, ?_⟩
  · rintro ⟨kind, other, same, rfl⟩
    cases reporting.symm.trans same
    exact ⟨kind, rfl, rfl⟩
  · rintro ⟨kind, rfl, rfl⟩
    exact ⟨kind, element, reporting, rfl⟩

/-- The flag is set for the first of the pending connections only, or is clear for all. -/
inductive Flagged (ended : Nat → Prop) : Bool → List Nat → Prop where
  | clear {pending : List Nat} (others : ∀ client ∈ pending, ¬ ended client) :
      Flagged ended false pending
  | set {first : Nat} {rest : List Nat} (own : ended first)
      (others : ∀ client ∈ rest, ¬ ended client) : Flagged ended true (first :: rest)

structure Fair (state : State) : Prop where
  linked : ∀ client, state.link = some client → client = state.created
  known : ∀ client, client ∈ state.pending ∨ (∃ event, state.Answered client event) ∨
    state.Ended client → client ≤ state.created ∧ state.link ≠ some client
  distinct : state.pending.Nodup
  unanswered : ∀ client ∈ state.pending, ∀ event, ¬ state.Answered client event
  genuine : ∀ element ∈ state.outstanding, element.event ≠ .clientDisconnect
  answers : ∀ client event, state.Answered client event →
    (event = .clientDisconnect ∨ event = .serverDisconnect) ∧
      (event = .clientDisconnect ↔ state.Ended client)
  flagged : (∀ mqttDisconnect, state.call ≠ some (.disconnect mqttDisconnect)) →
    Flagged state.Ended state.clientDisconnectFlag state.pending
  asked : ∀ mqttDisconnect, state.call = some (.disconnect mqttDisconnect) →
    state.clientDisconnectFlag = true ∧ state.module.moduleState = .connected ∧
      ¬ state.Ended state.created ∧
      (state.pending = [] ∧ state.module.ctx.awaitedAck ≠ .disconnect ∨
        state.pending = [state.created])
  failed : ∀ before after, .notDisconnected before after ∈ state.history → after = before

theorem Fair.initial : Fair initial := by
  refine ⟨by simp [Session.initial], ?_, List.nodup_nil, List.forall_mem_nil _, List.forall_mem_nil _, ?_,
    fun _ => .clear (List.forall_mem_nil _), by simp [Session.initial], by simp [Session.initial]⟩
  · rintro client (pending | ⟨event, reported | ⟨_, element, reporting, _⟩⟩ | ended)
    · cases pending
    · cases reported
    · cases reporting
    · cases ended
  · rintro client event (reported | ⟨_, element, reporting, _⟩)
    · cases reported
    · cases reporting

theorem Flagged.congr {ended ended' : Nat → Prop} {flag : Bool} {pending : List Nat}
    (flagged : Flagged ended flag pending) (same : ∀ client, ended' client ↔ ended client) :
    Flagged ended' flag pending := by
  cases flagged with
  | clear others => exact .clear fun client member => (others client member) ∘ (same client).mp
  | set own others =>
    exact .set ((same _).mpr own) fun client member => (others client member) ∘ (same client).mp

theorem Flagged.append {ended : Nat → Prop} {flag : Bool} {pending : List Nat}
    (flagged : Flagged ended flag pending) {client : Nat} (other : ¬ ended client) :
    Flagged ended flag (pending ++ [client]) := by
  cases flagged with
  | clear others =>
    exact .clear fun client member => (List.mem_append.mp member).elim (others client)
      fun last => List.mem_singleton.mp last ▸ other
  | set own others =>
    exact .set own fun client member => (List.mem_append.mp member).elim (others client)
      fun last => List.mem_singleton.mp last ▸ other

/-- The flag belongs to the first of the pending connections; the others may change places. -/
theorem Flagged.perm {ended : Nat → Prop} {flag : Bool} {pending pending' : List Nat}
    (flagged : Flagged ended flag pending) (perm : pending'.Perm pending)
    (first : flag = true → pending'.head? = pending.head?) : Flagged ended flag pending' := by
  cases flagged with
  | clear others => exact .clear fun client member => others client (perm.mem_iff.mp member)
  | set own others =>
    obtain ⟨rest, rfl⟩ := List.head?_eq_some_iff.mp (first rfl)
    exact .set own fun client member => others client (perm.cons_inv.mem_iff.mp member)

/-- A step that leaves the flag, which connections are pending and what has been answered. -/
theorem Fair.reorder {state result : State} (fair : Fair state)
    (link : ∀ client, result.link = some client →
      client = result.created ∧ (state.link = some client ∨ state.created < client))
    (created : state.created ≤ result.created)
    (pending : result.pending.Perm state.pending)
    (first : state.clientDisconnectFlag = true → result.pending.head? = state.pending.head?)
    (genuine : ∀ element ∈ result.outstanding,
      element ∈ state.outstanding ∨ element.event ≠ .clientDisconnect)
    (answered : ∀ client event, result.Answered client event ↔ state.Answered client event)
    (ended : ∀ client, result.Ended client ↔ state.Ended client)
    (flag : result.clientDisconnectFlag = state.clientDisconnectFlag)
    (call : ∀ mqttDisconnect, result.call = some (.disconnect mqttDisconnect) ↔
      state.call = some (.disconnect mqttDisconnect))
    (asking : ∀ mqttDisconnect, state.call = some (.disconnect mqttDisconnect) →
      result.module.moduleState = state.module.moduleState ∧
        result.module.ctx.awaitedAck = state.module.ctx.awaitedAck ∧
        result.created = state.created)
    (failed : ∀ before after, .notDisconnected before after ∈ result.history →
      .notDisconnected before after ∈ state.history ∨ after = before) : Fair result := by
  refine ⟨fun client linked => (link client linked).1, ?_, ?_, ?_, ?_, ?_, ?_, ?_, ?_⟩
  · intro client met
    simp only [pending.mem_iff, answered, ended] at met
    have before := fair.known client met
    refine ⟨before.1.trans created, fun linked => ?_⟩
    cases (link client linked).2 with
    | inl old => exact before.2 old
    | inr new => exact absurd before.1 (Nat.not_le.mpr new)
  · exact pending.nodup_iff.mpr fair.distinct
  · intro client member event
    rw [answered]
    exact fair.unanswered client (pending.mem_iff.mp member) event
  · exact fun element member => (genuine element member).elim (fair.genuine element) id
  · intro client event met
    rw [ended]
    exact fair.answers client event ((answered client event).mp met)
  · intro free
    have before := fair.flagged fun mqttDisconnect => mt (call mqttDisconnect).mpr (free mqttDisconnect)
    rw [flag]
    exact (before.perm pending first).congr ended
  · intro mqttDisconnect waiting
    have before := (call mqttDisconnect).mp waiting
    obtain ⟨moduleState, awaitedAck, same⟩ := asking mqttDisconnect before
    obtain ⟨set, connected, notEnded, progress⟩ := fair.asked mqttDisconnect before
    rw [flag, moduleState, awaitedAck, same, ended]
    refine ⟨set, connected, notEnded, progress.imp (And.imp_left fun none => ?_) fun one => ?_⟩
    · exact (none ▸ pending).eq_nil
    · exact List.perm_singleton.mp (one ▸ pending)
  · intro before after member
    exact (failed before after member).elim (fair.failed before after) id

/-- A step that puts no disconnect event on the queue. -/
theorem Fair.frame {state result : State} (fair : Fair state) (more : List Queued)
    (link : ∀ client, result.link = some client →
      client = result.created ∧ (state.link = some client ∨ state.created < client))
    (created : state.created ≤ result.created)
    (outstanding : result.outstanding = state.outstanding ++ more)
    (others : ∀ element ∈ more, element.event ≠ .clientDisconnect ∧ element.event ≠ .serverDisconnect)
    (closing : result.closing = state.closing)
    (answered : ∀ client event, result.Answered client event ↔ state.Answered client event)
    (ended : ∀ client, result.Ended client ↔ state.Ended client)
    (flag : result.clientDisconnectFlag = state.clientDisconnectFlag)
    (call : ∀ mqttDisconnect, result.call = some (.disconnect mqttDisconnect) ↔
      state.call = some (.disconnect mqttDisconnect))
    (asking : ∀ mqttDisconnect, state.call = some (.disconnect mqttDisconnect) →
      result.module.moduleState = state.module.moduleState ∧
        result.module.ctx.awaitedAck = state.module.ctx.awaitedAck ∧
        result.created = state.created)
    (failed : ∀ before after, .notDisconnected before after ∈ result.history →
      .notDisconnected before after ∈ state.history ∨ after = before) : Fair result := by
  have pending : result.pending = state.pending := by
    have none : disconnectsOf more = [] :=
      List.map_eq_nil_iff.mpr (List.filter_eq_nil_iff.mpr fun element member => by
        simp [(others element member).2])
    rw [State.pending, outstanding, disconnectsOf_append, none, List.append_nil, closing, State.pending]
  refine fair.reorder link created (.of_eq pending) (fun _ => congrArg _ pending) ?_ answered ended flag
    call asking failed
  intro element member
  rw [outstanding, List.mem_append] at member
  exact member.imp_right fun new => (others element new).1

theorem outstanding_append {state result : State} {more : List Queued} (app : result.app = state.app)
    (msgQueue : result.msgQueue = state.msgQueue ++ more) :
    result.outstanding = state.outstanding ++ more := by
  unfold State.outstanding
  rw [app, msgQueue]
  cases state.app with
  | receiving | received | reporting => rfl

theorem Fair.push {state result : State} (fair : Fair state) {client : Nat}
    (up : state.link = some client) (down : result.link = none)
    (created : result.created = state.created)
    (outstanding : result.outstanding = state.outstanding)
    (closing : result.closing = state.closing ++ [client])
    (answered : ∀ client event, result.Answered client event ↔ state.Answered client event)
    (ended : ∀ client, result.Ended client ↔ state.Ended client)
    (flag : result.clientDisconnectFlag = state.clientDisconnectFlag)
    (call : result.call = state.call)
    (asking : ∀ mqttDisconnect, state.call = some (.disconnect mqttDisconnect) →
      result.module.moduleState = state.module.moduleState)
    (failed : ∀ before after, .notDisconnected before after ∈ result.history →
      .notDisconnected before after ∈ state.history) : Fair result := by
  have latest := fair.linked client up
  have fresh : ¬ (client ∈ state.pending ∨ (∃ event, state.Answered client event) ∨
      state.Ended client) := fun met => (fair.known client met).2 up
  simp only [not_or] at fresh
  have pending : result.pending = state.pending ++ [client] := by
    rw [State.pending, outstanding, closing, ← List.append_assoc, State.pending]
  refine ⟨by simp [down], ?_, ?_, ?_, ?_, ?_, ?_, ?_, ?_⟩
  · intro other met
    simp only [pending, answered, ended, List.mem_append, List.mem_singleton] at met
    rw [created, down]
    refine ⟨?_, by simp⟩
    rcases met with (old | same) | decided
    · exact (fair.known other (.inl old)).1
    · rw [same, latest]
    · exact (fair.known other (.inr decided)).1
  · rw [pending, ← List.concat_eq_append]
    exact fair.distinct.concat fresh.1
  · intro other member event
    rw [answered]
    rw [pending, List.mem_append, List.mem_singleton] at member
    rcases member with old | rfl
    · exact fair.unanswered other old event
    · exact fun met => fresh.2.1 ⟨event, met⟩
  · exact fun element member => fair.genuine element (outstanding ▸ member)
  · intro other event met
    rw [ended]
    exact fair.answers other event ((answered other event).mp met)
  · intro free
    rw [flag, pending]
    exact ((fair.flagged (call ▸ free)).append fresh.2.2).congr ended
  · intro mqttDisconnect waiting
    rw [call] at waiting
    obtain ⟨set, connected, notEnded, progress⟩ := fair.asked mqttDisconnect waiting
    rw [flag, asking mqttDisconnect waiting, created, ended, pending]
    refine ⟨set, connected, notEnded, .inr ?_⟩
    cases progress with
    | inl none => rw [none.1, List.nil_append, latest]
    | inr one => exact absurd (one ▸ List.mem_singleton.mpr latest) fresh.1
  · exact fun before after member => fair.failed before after (failed before after member)

/-- A connection that has ended puts its disconnect event on the queue. -/
theorem Fair.queue {state : State} (fair : Fair state) {client : Nat} (closing : client ∈ state.closing)
    (first : state.clientDisconnectFlag = true → disconnectsOf state.outstanding = [] →
      state.closing.head? = some client) :
    Fair { state.queue ⟨.serverDisconnect, client, 0⟩ with closing := state.closing.erase client } := by
  have outstanding : State.outstanding { state.queue ⟨.serverDisconnect, client, 0⟩ with
      closing := state.closing.erase client } =
      state.outstanding ++ [⟨.serverDisconnect, client, 0⟩] :=
    outstanding_append rfl rfl
  have pending : State.pending { state.queue ⟨.serverDisconnect, client, 0⟩ with
      closing := state.closing.erase client } =
      disconnectsOf state.outstanding ++ client :: state.closing.erase client := by
    rw [State.pending, outstanding, disconnectsOf_append, List.append_assoc]
    rfl
  refine fair.reorder (fun client link => ⟨fair.linked client link, .inl link⟩) le_rfl ?_ ?_ ?_
    (fun _ _ => Iff.rfl) (fun _ => Iff.rfl) rfl (fun _ => Iff.rfl) (fun _ _ => ⟨rfl, rfl, rfl⟩)
    (fun _ _ => .inl)
  · rw [pending]
    exact (List.perm_cons_erase closing).symm.append_left _
  · intro set
    rw [pending, State.pending]
    cases queued : disconnectsOf state.outstanding with
    | nil => simpa using (first set queued).symm
    | cons oldest rest => rfl
  · intro element member
    rw [outstanding, List.mem_append, List.mem_singleton] at member
    exact member.imp_right fun new => by simp [new]

/-- `MQTTAppThread` takes an element off what is outstanding, and decides what to report of it. -/
theorem Fair.handle {state : State} (fair : Fair state) {element : Queued} {event : MqttEvent}
    (received : state.app = .received element) (free : state.call = none) (flag : Bool)
    (flagged : Flagged state.Ended flag (disconnectsOf state.msgQueue ++ state.closing))
    (told : event = .clientDisconnect ∨ event = .serverDisconnect →
      element.event = .serverDisconnect ∧ (event = .clientDisconnect ↔ state.Ended element.client)) :
    Fair { state with clientDisconnectFlag := flag, app := .reporting element event } := by
  have outstanding : state.outstanding = element :: state.msgQueue := by
    simp [State.outstanding, received]
  have taken (disconnect : element.event = .serverDisconnect) :
      state.pending = element.client :: (disconnectsOf state.msgQueue ++ state.closing) := by
    rw [State.pending, outstanding, disconnectsOf_cons disconnect, List.cons_append]
  have sublist : (disconnectsOf state.msgQueue ++ state.closing).Sublist state.pending := by
    rw [State.pending, outstanding]
    exact (disconnectsOf_sublist (List.sublist_cons_self element _)).append_right _
  have decided : ∀ client event', State.Answered { state with
      clientDisconnectFlag := flag, app := .reporting element event } client event' →
      state.Answered client event' ∨ (event' = .clientDisconnect ∨ event' = .serverDisconnect) ∧
        event' = event ∧ client = element.client := by
    rintro client event' (reported | ⟨kind, other, reporting, same⟩)
    · exact .inl (.inl reported)
    · cases reporting
      exact .inr ⟨kind, rfl, same.symm⟩
  refine ⟨fair.linked, ?_, fair.distinct.sublist sublist, ?_, ?_, ?_, fun _ => flagged, ?_,
    fair.failed⟩
  · rintro client (member | ⟨event', answered⟩ | ended)
    · exact fair.known client (.inl (sublist.subset member))
    · rcases decided client event' answered with old | ⟨kind, rfl, rfl⟩
      · exact fair.known client (.inr (.inl ⟨event', old⟩))
      · exact fair.known _ (.inl (taken (told kind).1 ▸ .head _))
    · exact fair.known client (.inr (.inr ended))
  · intro client member event' answered
    rcases decided client event' answered with old | ⟨kind, rfl, rfl⟩
    · exact fair.unanswered client (sublist.subset member) event' old
    · have distinct := fair.distinct
      rw [taken (told kind).1, List.nodup_cons] at distinct
      exact distinct.1 member
  · intro other member
    exact fair.genuine other (outstanding ▸ .tail _ member)
  · intro client event' answered
    rcases decided client event' answered with old | ⟨kind, rfl, rfl⟩
    · exact fair.answers client event' old
    · exact ⟨kind, (told kind).2⟩
  · intro mqttDisconnect waiting
    exact absurd (free.symm.trans waiting) (by simp)

/-- Nothing about who ended a connection. -/
def Occurrence.Plain : Occurrence → Prop
  | .reported _ _ | .disconnected _ => False
  | .notDisconnected before after => after = before
  | _ => True

/-- A step that leaves the flag, the queue and `MQTTAppThread`. -/
theorem Fair.plain {state result : State} {logged : List Occurrence} (fair : Fair state)
    (link : ∀ client, result.link = some client →
      client = result.created ∧ (state.link = some client ∨ state.created < client))
    (created : state.created ≤ result.created) (app : result.app = state.app)
    (msgQueue : result.msgQueue = state.msgQueue) (closing : result.closing = state.closing)
    (flag : result.clientDisconnectFlag = state.clientDisconnectFlag)
    (call : ∀ mqttDisconnect, result.call = some (.disconnect mqttDisconnect) ↔
      state.call = some (.disconnect mqttDisconnect))
    (asking : ∀ mqttDisconnect, state.call = some (.disconnect mqttDisconnect) →
      result.module = state.module ∧ result.created = state.created)
    (history : result.history = state.history ++ logged)
    (plain : ∀ occurrence ∈ logged, occurrence.Plain) : Fair result := by
  have outstanding : result.outstanding = state.outstanding := by
    rw [State.outstanding, State.outstanding, app, msgQueue]
  have old {occurrence : Occurrence} (other : ¬ occurrence.Plain) :
      occurrence ∈ result.history ↔ occurrence ∈ state.history := by
    rw [history, List.mem_append]
    exact ⟨fun member => member.elim id fun new => absurd (plain occurrence new) other, .inl⟩
  refine fair.frame [] link created (outstanding.trans (List.append_nil _).symm) (by simp) closing ?_
    (fun client => old id) flag call ?_ ?_
  · intro client event
    rw [State.Answered, State.Answered, app, old id]
  · intro mqttDisconnect waiting
    obtain ⟨module, same⟩ := asking mqttDisconnect waiting
    exact ⟨by rw [module], by rw [module], same⟩
  · intro before after member
    rw [history, List.mem_append] at member
    exact member.imp_right (plain _)

/-- The wait of `MQTT_IF_Disconnect` ends with the disconnect event of its own connection. -/
theorem Fair.disconnects {state : State} (fair : Fair state) (owned : Owned state) (live : Live state)
    {mqttDisconnect : Bool} (waiting : state.call = some (.disconnect mqttDisconnect))
    (posted : 0 < state.module.ctx.ackSyncObj) {ctx : ClientCtx} {resetting : Nat} :
    Fair ({ state with
      module := { state.module with ctx := ctx, moduleState := .initialized }
      call := none
      resetting := resetting }.log (.disconnected state.inUse)) := by
  obtain ⟨set, connected, notEnded, progress⟩ := fair.asked mqttDisconnect waiting
  have own : state.pending = [state.created] := by
    rcases progress with ⟨_, up⟩ | one
    · have empty := (live.connected connected up).2.2
      omega
    · exact one
  have ended : ∀ client, .disconnected (some client) ∈ state.history ++ [.disconnected state.inUse] ↔
      state.Ended client ∨ client = state.created := by
    intro client
    rw [(owned.held (.inl connected)).2]
    simp [State.Ended]
  have unanswered : ∀ client event, state.Answered client event → client ≠ state.created :=
    fun client event answered same => fair.unanswered client (by simp [own, same]) event answered
  have answers (client : Nat) (event : MqttEvent) :
      (.reported client event ∈ state.history ++ [.disconnected state.inUse] ∨
        (event = .clientDisconnect ∨ event = .serverDisconnect) ∧
          ∃ element, state.app = .reporting element event ∧ element.client = client) ↔
      state.Answered client event := by
    simp [State.Answered]
  refine ⟨fair.linked, ?_, fair.distinct, ?_, fair.genuine, ?_, ?_, (fun _ waiting => by cases waiting),
    ?_⟩
  · rintro client (pending | ⟨event, answered⟩ | now)
    · exact fair.known client (.inl pending)
    · exact fair.known client (.inr (.inl ⟨event, (answers client event).mp answered⟩))
    · rcases (ended client).mp now with before | rfl
      · exact fair.known client (.inr (.inr before))
      · exact fair.known _ (.inl (own ▸ .head _))
  · exact fun client pending event answered =>
      fair.unanswered client pending event ((answers client event).mp answered)
  · intro client event answered
    have before := (answers client event).mp answered
    have other := unanswered client event before
    refine ⟨(fair.answers client event before).1, (fair.answers client event before).2.trans ?_⟩
    exact (or_iff_left other).symm.trans (ended client).symm
  · intro _
    show Flagged _ state.clientDisconnectFlag state.pending
    rw [own, set]
    exact .set ((ended _).mpr (.inr rfl)) (by simp)
  · simpa using fair.failed

theorem Fair.preserved {state result : State} {event : Event} (fair : Fair state)
    (owned : Owned state) (live : Live state) (attributable : Attributable errNotConn state event)
    (stepped : step errNotConn state event = some result) : Fair result := by
  have up : ∀ client, state.link = some client →
      client = state.created ∧ (state.link = some client ∨ state.created < client) :=
    fun client link => ⟨fair.linked client link, .inl link⟩
  cases step_cases stepped with
  | refused attempt free moduleState ctx mqttClient =>
    exact fair.plain up le_rfl rfl rfl rfl rfl (fun _ => Iff.rfl) (by simp [free]) rfl
      (by simp [Occurrence.Plain])
  | cleared attempt free initialized moduleState =>
    exact fair.plain (fun _ linked => by cases linked) le_rfl rfl rfl rfl rfl (fun _ => Iff.rfl)
      (by simp [free]) rfl (by simp [Occurrence.Plain])
  | notStarted attempt thread free | unlinked attempt thread free =>
    exact fair.plain (fun _ linked => by cases linked) (Nat.le_succ _) rfl rfl rfl rfl (fun _ => Iff.rfl)
      (by simp [free]) rfl (by simp [Occurrence.Plain])
  | connecting attempt thread free initialized sent =>
    refine fair.plain ?_ (Nat.le_succ _) rfl rfl rfl rfl (by simp [free]) (by simp [free])
      (List.append_nil _).symm (by simp)
    intro client link
    cases link
    exact ⟨rfl, .inr (Nat.lt_succ_self _)⟩
  | connack flags returnCode link =>
    have awaited : state.module.ctx.awaitedAck = .ack .connack := attributable
    have open? : state.module.ctx.awaitedAck ≠ .disconnect := by simp [awaited]
    refine fair.frame _ up le_rfl (outstanding_append rfl rfl) (by simp) rfl (fun _ _ => by
      simp [State.Answered, State.log, State.queue, State.setCtx]) (fun _ => by simp [State.Ended])
      rfl (fun _ => Iff.rfl) ?_ (by simp)
    intro mqttDisconnect waiting
    have connected := (fair.asked mqttDisconnect waiting).2.1
    exact absurd awaited (live.connected connected open?).2.1
  | close link =>
    exact fair.push link rfl rfl rfl rfl (fun _ _ => Iff.rfl) (fun _ => Iff.rfl) rfl rfl
      (fun _ _ => rfl) (fun _ _ => id)
  | queue closing => exact fair.queue closing attributable
  | connectFails waiting | connects waiting =>
    exact fair.plain up le_rfl rfl rfl rfl rfl (by simp [waiting, State.log]) (by simp [waiting]) rfl
      (by simp [Occurrence.Plain])
  | disconnects resetting waiting posted => exact fair.disconnects owned live waiting posted
  | notConnected sendDisconn mqttDisconnect resetting free other =>
    exact fair.plain up le_rfl rfl rfl rfl rfl (fun _ => Iff.rfl) (by simp [free]) rfl
      (by simp [Occurrence.Plain])
  | disconnectFails sendDisconn mqttDisconnect resetting free connected failed negative =>
    have set := ((attributable connected).1 _ failed).2
    exact fair.plain up le_rfl rfl rfl rfl set.symm (fun _ => Iff.rfl) (by simp [free]) rfl
      (by simp [Occurrence.Plain, set])
  | disconnectUnsent sendDisconn mqttDisconnect resetting free connected failed narrowed =>
    exact absurd ((attributable connected).1 _ failed).1 narrowed
  | disconnecting sendDisconn mqttDisconnect free connected succeeds opened =>
    have none := (attributable connected).2 succeeds
    have link := (live.connected connected opened).1
    refine ⟨fair.linked, fair.known, fair.distinct, fair.unanswered, fair.genuine, fair.answers, ?_, ?_,
      fair.failed⟩
    · exact fun free => absurd rfl (free mqttDisconnect)
    · exact fun _ _ => ⟨rfl, connected, fun ended => (fair.known _ (.inr (.inr ended))).2 link,
        .inl ⟨none, fun same => by cases same⟩⟩
  | cleanup thread sendDisconn free returned null =>
    exact fair.plain up le_rfl rfl rfl rfl rfl (fun _ => Iff.rfl) (by simp [free]) rfl
      (by simp [Occurrence.Plain])
  | delete thread sendDisconn free returned handle linked =>
    rcases linked with rfl | ⟨client, link, rfl⟩
    · exact fair.plain (fun _ linked => by cases linked) le_rfl rfl rfl (List.append_nil _) rfl
        (fun _ => Iff.rfl) (by simp [free]) rfl (by simp [Occurrence.Plain])
    · exact fair.push link rfl rfl rfl rfl
        (fun _ _ => by simp [State.Answered, State.log]) (fun _ => by simp [State.Ended]) rfl rfl
        (by simp [free]) (by simp)
  | receive receiving queued =>
    exact fair.frame [] up le_rfl (by simp [State.outstanding, receiving, queued]) (by simp) rfl
      (fun _ _ => by simp [State.Answered, receiving]) (fun _ => Iff.rfl) rfl (fun _ => Iff.rfl)
      (fun _ _ => ⟨rfl, rfl, rfl⟩) (fun _ _ => .inl)
  | relabel received free disconnect flagged =>
    have before := fair.flagged (by simp [free])
    rw [flagged, State.pending, State.outstanding, received, disconnectsOf_cons disconnect,
      List.cons_append] at before
    cases before with
    | set own others =>
      exact fair.handle received free false (.clear others) fun _ => ⟨disconnect, by simp [own]⟩
  | @handle element received free plain =>
    have before := fair.flagged (by simp [free])
    rw [State.pending, State.outstanding, received] at before
    by_cases disconnect : element.event = .serverDisconnect
    · rw [plain disconnect, disconnectsOf_cons disconnect, List.cons_append] at before
      cases before with
      | clear others =>
        have server : ¬ state.Ended element.client := others _ (.head _)
        refine fair.handle received free _ ?_ fun _ => ⟨disconnect, by simp [disconnect, server]⟩
        rw [plain disconnect]
        exact .clear fun client member => others client (.tail _ member)
    · rw [disconnectsOf_cons_other disconnect] at before
      refine fair.handle received free _ before fun kind => ?_
      exact absurd kind (not_or.mpr
        ⟨fair.genuine element (by simp [State.outstanding, received]), disconnect⟩)
  | raise reporting =>
    refine fair.frame [] up le_rfl (by simp [State.outstanding, State.log, reporting]) (by simp) rfl ?_
      (fun _ => by simp [State.Ended]) rfl (fun _ => Iff.rfl) (fun _ _ => ⟨rfl, rfl, rfl⟩) (by simp)
    intro client event
    rw [answered_of_reporting reporting, answered_of_receiving rfl]
    simp
  | report reporting disconnect =>
    refine fair.frame [] up le_rfl (by simp [State.outstanding, State.log, reporting]) (by simp) rfl ?_
      (fun _ => by simp [State.Ended]) rfl (fun _ => Iff.rfl) (fun _ _ => ⟨rfl, rfl, rfl⟩) (by simp)
    intro client event
    rw [answered_of_reporting reporting, answered_of_receiving rfl]
    simp [disconnect]
  | pass reporting connack client server =>
    refine fair.frame [] up le_rfl (by simp [State.outstanding, reporting]) (by simp) rfl ?_
      (fun _ => Iff.rfl) rfl (fun _ => Iff.rfl) (fun _ _ => ⟨rfl, rfl, rfl⟩) (fun _ _ => .inl)
    intro client event
    rw [answered_of_reporting reporting, answered_of_receiving rfl]
    simp [*]
  | leave =>
    exact fair.plain up le_rfl rfl rfl rfl rfl (fun _ => Iff.rfl) (fun _ _ => ⟨rfl, rfl⟩) rfl
      (by simp [Occurrence.Plain])
  | reset | runReturns =>
    exact fair.plain up le_rfl rfl rfl rfl rfl (fun _ => Iff.rfl) (fun _ _ => ⟨rfl, rfl⟩)
      (List.append_nil _).symm (by simp)
  | stay => exact fair

/-- In a run whose disconnects are all attributable, all are attributed. -/
theorem disconnects_attributed (errNotConn : Int) {state : State}
    (reached : Reachable (step errNotConn) (Attributable errNotConn) initial state) : Attributed state := by
  have invariants := reached.invariant (fun state => Owned state ∧ Live state ∧ Fair state)
    ⟨.initial, ⟨by simp [initial], fun connected => by cases connected⟩, .initial⟩
    fun _ _ _ invariants attributable stepped =>
      ⟨invariants.1.preserved stepped, invariants.2.1.preserved attributable stepped,
        invariants.2.2.preserved invariants.1 invariants.2.1 attributable stepped⟩
  exact ⟨fun client event reported => invariants.2.2.answers client event (.inl reported),
    invariants.2.2.failed⟩

def openSession : List Event := [.connect plainAttempt, .connack 0 0, .wake]

def takeElement : List Event := [.receive, .handle, .callback]

/-- A session that the client ends, with its event queued only when `MQTT_IF_Disconnect` has
returned, and one that the broker ends. -/
def endedByBoth : List Event :=
  openSession ++ [.disconnect 0 false, .close, .wake, .queue 1, .runReturns 1, .cleanup 1 0] ++
    takeElement ++ takeElement ++ openSession ++ [.close, .queue 2] ++ takeElement ++ takeElement

theorem disconnects_attributed_both : ∃ state,
    exec (step (-1)) initial endedByBoth = some state ∧
      state.history.getLast? = some (.reported 2 .serverDisconnect) ∧ Attributed state := by
  have seen : (exec (step (-1)) initial endedByBoth).map (fun state => state.history.getLast?) =
      some (some (.reported 2 .serverDisconnect)) := by decide
  obtain ⟨state, ran, last⟩ := Option.map_eq_some_iff.mp seen
  exact ⟨state, ran, last, disconnects_attributed (-1) (.of_exec endedByBoth (by decide) ran)⟩

/-- The DISCONNECT of `MQTT_IF_Disconnect` cannot be sent, and the broker closes. -/
def disconnectUnsent : List Event :=
  openSession ++ [.disconnect (-1) false, .close, .queue 1] ++ takeElement ++ takeElement

/-- The broker closes, and `MQTT_IF_Disconnect` ends the next connection before the event of the
first has been handled. -/
def disconnectBehindClose : List Event :=
  openSession ++ [.close, .queue 1, .runReturns 1, .cleanup 1 0] ++ openSession ++
    [.disconnect 0 false, .close, .wake] ++ takeElement ++ takeElement

/-- `MQTT_IF_Disconnect` ends a connection, and the broker the next one, whose event is the first
on the queue. -/
def queuedInReverse : List Event :=
  openSession ++ [.disconnect 0 false, .close, .wake] ++ openSession ++ [.close, .queue 2, .queue 1] ++
    takeElement ++ takeElement ++ takeElement

/-- A `MQTT_IF_Disconnect` whose DISCONNECT cannot be sent leaves the flag set, and the close of
the broker behind it is reported as the client's.  So is a close that is still on the queue when a
`MQTT_IF_Disconnect` ends the next connection, or that gets there before the event of the
connection that a `MQTT_IF_Disconnect` has ended. -/
theorem failed_disconnect_attributed :
    (∃ state, exec (step (-1)) initial disconnectUnsent = some state ∧
      state.history = [.connack 1 0 0, .connected 1, .notDisconnected false true, .raised 1 0,
        .reported 1 .clientDisconnect] ∧ ¬ Attributed state) ∧
    (∃ state, exec (step (-1)) initial disconnectBehindClose = some state ∧
      state.history.getLast? = some (.reported 1 .clientDisconnect) ∧ ¬ Attributed state) ∧
    ∃ state, exec (step (-1)) initial queuedInReverse = some state ∧
      state.history.getLast? = some (.reported 2 .clientDisconnect) ∧ ¬ Attributed state := by
  refine ⟨?_, ?_, ?_⟩
  · have seen : (exec (step (-1)) initial disconnectUnsent).map State.history =
        some [.connack 1 0 0, .connected 1, .notDisconnected false true, .raised 1 0,
          .reported 1 .clientDisconnect] := by decide
    obtain ⟨state, ran, history⟩ := Option.map_eq_some_iff.mp seen
    refine ⟨state, ran, history, fun attributed => ?_⟩
    cases attributed.failed false true (by simp [history])
  · have seen : (exec (step (-1)) initial disconnectBehindClose).map State.history =
        some [.connack 1 0 0, .connected 1, .cleaned 1 (some 1) (some 1), .connack 2 0 0,
          .connected 2, .disconnected (some 2), .raised 1 0, .reported 1 .clientDisconnect] := by decide
    obtain ⟨state, ran, history⟩ := Option.map_eq_some_iff.mp seen
    refine ⟨state, ran, by rw [history]; rfl, fun attributed => ?_⟩
    have ended := ((attributed.reported 1 .clientDisconnect (by simp [history])).2).mp rfl
    simp [State.Ended, history] at ended
  · have seen : (exec (step (-1)) initial queuedInReverse).map State.history =
        some [.connack 1 0 0, .connected 1, .disconnected (some 1), .connack 2 0 0, .connected 2,
          .raised 1 0, .raised 2 0, .reported 2 .clientDisconnect] := by decide
    obtain ⟨state, ran, history⟩ := Option.map_eq_some_iff.mp seen
    refine ⟨state, ran, by rw [history]; rfl, fun attributed => ?_⟩
    have ended := ((attributed.reported 2 .clientDisconnect (by simp [history])).2).mp rfl
    simp [State.Ended, history] at ended

end PlhrFirmware.Session
