import PlhrFirmware.Session.Cleanup

/-! # The connection flag of the application

A CONNACK takes two ways: it ends the wait of `MQTT_IF_Connect`, which reads the verdict off the
client context, and it is queued as `MQTT_EVENT_CONNACK`, without its return code, for
`MQTTAppThread`, which has `mqtt_event_callback` set `mqtt_connected`.
-/

namespace PlhrFirmware.Session

open PlhrFirmware.Lib PlhrFirmware.Client

variable {errNotConn : Int}

def State.Accepted (state : State) (client : Nat) : Prop :=
  ∃ flags, .connack client flags 0 ∈ state.history

/-- The broker has accepted the connection that a call of `mqtt_connect` waits for. -/
def State.Served (state : State) : Option Nat → Prop
  | some client => state.Accepted client
  | none => False

def State.Refused (state : State) (client : Nat) : Prop := .refused (some client) ∈ state.history

/-- `mqtt_connected` is set only for a CONNACK with return code 0, a call of `mqtt_connect` leaves
its loop only with an accepted session, and neither is the flag set by a connection that
`MQTT_IF_Connect` has reported as failed, nor is it 1 while that connection is the latest or a
call without an accepted one waits for it. -/
structure Agrees (state : State) : Prop where
  raised : ∀ client returnCode, .raised client returnCode ∈ state.history →
    returnCode = 0 ∧ ¬ state.Refused client
  left : ∀ caller, .left caller ∈ state.history → state.Served caller
  flag : state.mqttConnected = true → ¬ state.Refused state.created ∧
    ∀ caller ∈ state.looping, state.Served caller

/-! ## Announced CONNACKs -/

def AppPhase.announced : AppPhase → List Queued
  | .receiving => []
  | .received element => if element.event = .connack then [element] else []
  | .reporting element event => if event = .connack then [element] else []

/-- The CONNACK events on their way to `mqtt_event_callback`. -/
def State.announced (state : State) : List Queued :=
  state.app.announced ++ state.msgQueue.filter fun element => element.event = .connack

/-- Every CONNACK accepts, with flags below 128, and a `mqtt_connect` that finds the module
`INITIALIZED` comes when `mqtt_connected` is 0 and no CONNACK event is under way.  When it creates
a client, all that are still in their loop have an accepted session, and `sendConnectMsg` does not
succeed with a value that is negative as an `int16_t`; when `MQTTClient_create` fails and leaves the
contexts, no connection is up. -/
def Unequivocal (state : State) : Event → Prop
  | .connack flags returnCode => returnCode = 0 ∧ flags < 128
  | .connect attempt => state.module.moduleState = .initialized →
    state.mqttConnected = false ∧ state.announced = [] ∧
      (attempt.creation = .created → (∀ caller ∈ state.looping, state.Served caller) ∧
        (0 ≤ attempt.sendConnectMsg → 0 ≤ int16 attempt.sendConnectMsg)) ∧
      (attempt.creation = .failed → state.link = none)
  | _ => True

def Occurrence.Accepts (client : Nat) : Occurrence → Prop
  | .connack other _ returnCode => other = client ∧ returnCode = 0
  | _ => False

instance (client : Nat) (occurrence : Occurrence) : Decidable (occurrence.Accepts client) :=
  match occurrence with
  | .connack _ _ _ => inferInstanceAs (Decidable (_ ∧ _))
  | .connected _ | .refused _ | .disconnected _ | .notDisconnected _ _ | .cleaned _ _ _
  | .reported _ _ | .raised _ _ | .left _ => .isFalse id

theorem exists_accepts_iff {state : State} {client : Nat} :
    (∃ occurrence ∈ state.history, occurrence.Accepts client) ↔ state.Accepted client := by
  constructor
  · rintro ⟨occurrence, member, accepts⟩
    cases occurrence with
    | connack other flags returnCode =>
      obtain ⟨rfl, rfl⟩ := accepts
      exact ⟨flags, member⟩
    | connected | refused | disconnected | notDisconnected | cleaned | reported | raised | left =>
      exact accepts.elim
  · rintro ⟨flags, member⟩
    exact ⟨_, member, rfl, rfl⟩

instance (state : State) (caller : Option Nat) : Decidable (state.Served caller) :=
  match caller with
  | some _ => decidable_of_iff _ exists_accepts_iff
  | none => .isFalse id

instance (state : State) (event : Event) : Decidable (Unequivocal state event) :=
  match event with
  | .connack _ _ => inferInstanceAs (Decidable (_ ∧ _))
  | .connect _ => inferInstanceAs (Decidable (_ → _))
  | .close | .queue _ | .wake | .disconnect _ _ | .reset | .runReturns _ | .cleanup _ _ | .receive
  | .handle | .callback | .poll _ => .isTrue trivial

/-! ## The two ways agree -/

/-- The latest client has been accepted, and not reported as failed. -/
structure State.Stands (state : State) (client : Nat) : Prop where
  latest : client = state.created
  accepted : state.Accepted client
  notRefused : ¬ state.Refused client

/-- The flag is clear, and no CONNACK can set it before another client is created. -/
structure State.Clear (state : State) : Prop where
  flag : state.mqttConnected = false
  announced : state.announced = []
  link : state.link = none

structure Agreeing (state : State) : Prop where
  linked : ∀ client, state.link = some client → client = state.created ∧ ¬ state.Refused client
  known : ∀ client, state.Refused client ∨ (∃ returnCode, .raised client returnCode ∈ state.history) →
    client ≤ state.created
  verdict : ∀ sendConnectMsg, state.call = some (.connect sendConnectMsg) →
    0 ≤ int16 sendConnectMsg ∧ state.module.ctx.connAck &&& 0xff = 0 ∧
      0 ≤ int16 state.module.ctx.connAck.toNat
  flag : state.mqttConnected = true → state.Stands state.created
  announced : ∀ element ∈ state.announced, element.returnCode = 0 ∧ state.Stands element.client
  raised : ∀ client returnCode, .raised client returnCode ∈ state.history →
    returnCode = 0 ∧ ¬ state.Refused client
  looping : ∀ caller ∈ state.looping,
    caller = some state.created ∨ state.Served caller ∨ caller = none ∧ state.Clear
  left : ∀ caller, .left caller ∈ state.history → state.Served caller

theorem Agreeing.initial : Agreeing initial := by
  refine ⟨by simp [Session.initial], ?_, by simp [Session.initial], by simp [Session.initial],
    List.forall_mem_nil _, by simp [Session.initial], List.forall_mem_nil _, fun _ same => by cases same⟩
  rintro client (refused | ⟨returnCode, raised⟩)
  · cases refused
  · cases raised

/-- While the flag is set, every caller in the loop has an accepted session. -/
theorem Agreeing.served {state : State} (agreeing : Agreeing state) (set : state.mqttConnected = true) :
    ∀ caller ∈ state.looping, state.Served caller := by
  intro caller member
  rcases agreeing.looping caller member with rfl | served | ⟨_, clear⟩
  · exact (agreeing.flag set).accepted
  · exact served
  · exact absurd (set.symm.trans clear.flag) (by simp)

/-- What a step may log when it creates no client. -/
def State.Due (state : State) : Occurrence → Prop
  | .refused (some _) => False
  | .raised client returnCode => returnCode = 0 ∧ state.Stands client
  | .left caller => state.Served caller
  | _ => True

section History

variable {state result : State} {logged : List Occurrence}

theorem accepted_append (history : result.history = state.history ++ logged) {client : Nat}
    (accepted : state.Accepted client) : result.Accepted client := by
  obtain ⟨flags, member⟩ := accepted
  exact ⟨flags, history ▸ List.mem_append_left _ member⟩

theorem served_append (history : result.history = state.history ++ logged) {caller : Option Nat}
    (served : state.Served caller) : result.Served caller := by
  cases caller with
  | none => exact served
  | some client => exact accepted_append history served

/-- A step that creates no client. -/
theorem Agreeing.frame (agreeing : Agreeing state)
    (link : ∀ client, result.link = some client → state.link = some client)
    (created : result.created = state.created)
    (verdict : ∀ sendConnectMsg, result.call = some (.connect sendConnectMsg) →
      state.call = some (.connect sendConnectMsg) ∧
        (result.module.ctx.connAck = state.module.ctx.connAck ∨
          result.module.ctx.connAck &&& 0xff = 0 ∧ 0 ≤ int16 result.module.ctx.connAck.toNat))
    (flag : result.mqttConnected = true → state.mqttConnected = true ∨ state.announced ≠ [])
    (announced : ∀ element ∈ result.announced, element ∈ state.announced ∨
      element.returnCode = 0 ∧ state.link = some element.client ∧ result.Accepted element.client)
    (looping : ∀ caller ∈ result.looping, caller ∈ state.looping ∨ caller = some state.created ∨
      caller = none ∧ result.Clear)
    (history : result.history = state.history ++ logged)
    (due : ∀ occurrence ∈ logged, state.Due occurrence) : Agreeing result := by
  have refused (client : Nat) : result.Refused client ↔ state.Refused client := by
    rw [State.Refused, history, List.mem_append]
    exact ⟨fun member => member.elim id fun new => absurd (due _ new) id, .inl⟩
  have raised {client : Nat} {returnCode : UInt8} (now : .raised client returnCode ∈ result.history) :
      .raised client returnCode ∈ state.history ∨ returnCode = 0 ∧ state.Stands client := by
    rw [history, List.mem_append] at now
    exact now.imp_right (due _)
  have stands {client : Nat} (before : state.Stands client) : result.Stands client :=
    ⟨before.latest.trans created.symm, accepted_append history before.accepted,
      mt (refused client).mp before.notRefused⟩
  have clear (before : state.Clear) : result.Clear := by
    refine ⟨Bool.eq_false_iff.mpr fun set => ?_, List.eq_nil_iff_forall_not_mem.mpr fun element member => ?_,
      Option.eq_none_iff_forall_ne_some.mpr fun client linked => ?_⟩
    · rcases flag set with set | some
      · exact absurd (set.symm.trans before.flag) (by simp)
      · exact some before.announced
    · rcases announced element member with old | ⟨_, up, _⟩
      · exact List.not_mem_nil (before.announced ▸ old)
      · cases before.link.symm.trans up
    · cases before.link.symm.trans (link client linked)
  refine ⟨?_, ?_, ?_, ?_, ?_, ?_, ?_, ?_⟩
  · intro client linked
    rw [created, refused]
    exact agreeing.linked client (link client linked)
  · intro client met
    rw [created]
    rcases met with now | ⟨returnCode, now⟩
    · exact agreeing.known client (.inl ((refused client).mp now))
    · rcases raised now with before | ⟨_, standing⟩
      · exact agreeing.known client (.inr ⟨returnCode, before⟩)
      · exact standing.latest.le
  · intro sendConnectMsg waiting
    obtain ⟨before, same | accepts⟩ := verdict sendConnectMsg waiting
    · rw [same]
      exact agreeing.verdict sendConnectMsg before
    · exact ⟨(agreeing.verdict sendConnectMsg before).1, accepts⟩
  · intro set
    rw [created]
    rcases flag set with before | some
    · exact stands (agreeing.flag before)
    · obtain ⟨element, member⟩ := List.exists_mem_of_ne_nil _ some
      have standing := (agreeing.announced element member).2
      exact stands (standing.latest ▸ standing)
  · intro element member
    rcases announced element member with old | ⟨zero, up, accepted⟩
    · have before := agreeing.announced element old
      exact ⟨before.1, stands before.2⟩
    · obtain ⟨latest, notRefused⟩ := agreeing.linked _ up
      exact ⟨zero, latest.trans created.symm, accepted, mt (refused _).mp notRefused⟩
  · intro client returnCode now
    rw [refused]
    exact (raised now).elim (agreeing.raised client returnCode) (And.imp_right State.Stands.notRefused)
  · intro caller member
    rw [created]
    rcases looping caller member with old | own | new
    · exact (agreeing.looping caller old).imp_right
        (Or.imp (served_append history) (And.imp_right clear))
    · exact .inl own
    · exact .inr (.inr new)
  · intro caller now
    rw [history, List.mem_append] at now
    exact served_append history (now.elim (agreeing.left caller) (due (.left caller)))

/-- A client is created while the flag is clear, no CONNACK event is under way and every caller in
the loop has an accepted session. -/
theorem Agreeing.create (agreeing : Agreeing state) (clear : state.mqttConnected = false)
    (silent : state.announced = []) (served : ∀ caller ∈ state.looping, state.Served caller)
    (created : result.created = state.created + 1)
    (link : ∀ client, result.link = some client → client = state.created + 1 ∧ logged = [])
    (verdict : ∀ sendConnectMsg, result.call = some (.connect sendConnectMsg) →
      0 ≤ int16 sendConnectMsg ∧ result.module.ctx.connAck = 0)
    (flag : result.mqttConnected = state.mqttConnected)
    (announced : result.announced = state.announced)
    (looping : ∀ caller ∈ result.looping, caller ∈ state.looping ∨ caller = some (state.created + 1))
    (history : result.history = state.history ++ logged)
    (fresh : ∀ occurrence ∈ logged, occurrence = .refused (some (state.created + 1)) ∨
      occurrence = .connected (state.created + 1)) : Agreeing result := by
  have refused {client : Nat} (now : result.Refused client) :
      state.Refused client ∨ client = state.created + 1 ∧ logged ≠ [] := by
    rw [State.Refused, history, List.mem_append] at now
    refine now.imp_right fun new => ⟨?_, List.ne_nil_of_mem new⟩
    cases fresh _ new with
    | inl same => cases same; rfl
    | inr other => cases other
  have old {occurrence : Occurrence} (now : occurrence ∈ result.history)
      (notRefused : occurrence ≠ .refused (some (state.created + 1)))
      (notConnected : occurrence ≠ .connected (state.created + 1)) : occurrence ∈ state.history := by
    rw [history, List.mem_append] at now
    exact now.elim id fun new => absurd (fresh _ new) (not_or.mpr ⟨notRefused, notConnected⟩)
  refine ⟨?_, ?_, ?_, ?_, ?_, ?_, ?_, ?_⟩
  · intro client linked
    obtain ⟨rfl, none⟩ := link client linked
    refine ⟨created.symm, fun now => ?_⟩
    rcases refused now with before | ⟨_, some⟩
    · exact absurd (agreeing.known _ (.inl before)) (Nat.not_succ_le_self _)
    · exact some none
  · rw [created]
    rintro client (now | ⟨returnCode, raised⟩)
    · rcases refused now with before | ⟨rfl, _⟩
      · exact (agreeing.known client (.inl before)).trans (Nat.le_succ _)
      · exact le_rfl
    · exact (agreeing.known client (.inr ⟨returnCode, old raised (by simp) (by simp)⟩)).trans (Nat.le_succ _)
  · intro sendConnectMsg waiting
    obtain ⟨sent, connAck⟩ := verdict sendConnectMsg waiting
    rw [connAck]
    exact ⟨sent, by decide, by decide⟩
  · intro set
    rw [flag, clear] at set
    cases set
  · intro element member
    rw [announced, silent] at member
    cases member
  · intro client returnCode raised
    have before := old raised (by simp) (by simp)
    refine ⟨(agreeing.raised client returnCode before).1, fun now => ?_⟩
    rcases refused now with earlier | ⟨rfl, _⟩
    · exact (agreeing.raised client returnCode before).2 earlier
    · exact absurd (agreeing.known _ (.inr ⟨returnCode, before⟩)) (Nat.not_succ_le_self _)
  · intro caller member
    rw [created]
    exact (looping caller member).elim (fun old => .inr (.inl (served_append history (served caller old))))
      .inl
  · exact fun caller left => served_append history (agreeing.left caller (old left (by simp) (by simp)))

end History

/-- The value of `MQTTClient_connect` behind a CONNACK that accepts, or a disconnect. -/
theorem clientConnectClose_accepts {sendConnectMsg : Int} {ctx : ClientCtx}
    (sent : 0 ≤ int16 sendConnectMsg) (low : ctx.connAck &&& 0xff = 0)
    (accepted : 0 ≤ int16 ctx.connAck.toNat) :
    0 ≤ int16 (clientConnectClose sendConnectMsg ctx).2 := by
  simp only [clientConnectClose, low, if_true]
  split
  · exact accepted
  · exact sent

theorem int16_connAckOf {flags : UInt8} (small : flags < 128) :
    0 ≤ int16 (connAckOf [flags, 0]).toNat := by
  have value := connAckOf_toNat flags 0
  have bound : flags.toNat < 128 := UInt8.lt_iff_toNat_lt.mp small
  rw [int16_nonneg, value]
  simp
  omega

theorem mem_announced_append (state : State) {result : State} {more : List Queued} {element : Queued}
    (member : element ∈ result.announced) (app : result.app = state.app)
    (msgQueue : result.msgQueue = state.msgQueue ++ more) :
    element ∈ state.announced ∨ element ∈ more ∧ element.event = .connack := by
  rw [State.announced, app, msgQueue, List.filter_append, ← List.append_assoc,
    List.mem_append] at member
  exact member.imp_right fun new => by simpa using new

/-- The module stays initialized. -/
theorem step_moduleState {state result : State} {event : Event}
    (stepped : step errNotConn state event = some result) (other : state.module.moduleState ≠ .idle) :
    result.module.moduleState ≠ .idle := by
  cases step_cases stepped with
  | refused attempt free moduleState => exact moduleState ▸ other
  | cleared attempt free initialized moduleState | notStarted attempt thread free initialized moduleState
  | unlinked attempt thread free initialized moduleState =>
    simp [State.log, State.create, moduleState]
  | connectFails waiting posted failed closed =>
    subst closed
    exact other
  | connects waiting posted closed =>
    subst closed
    simp [State.log]
  | connecting | disconnects | disconnectUnsent | cleanup | delete => simp [State.log, State.create]
  | connack | close | queue | notConnected | disconnectFails | disconnecting | reset | runReturns
  | receive | relabel | handle | raise | report | pass | leave | stay =>
    exact other

theorem Agreeing.preserved {state result : State} {event : Event} (agreeing : Agreeing state)
    (owned : Owned state) (other : state.module.moduleState ≠ .idle)
    (unequivocal : Unequivocal state event)
    (stepped : step errNotConn state event = some result) : Agreeing result := by
  cases step_cases stepped with
  | refused attempt free moduleState ctx mqttClient whose =>
    refine agreeing.frame (fun _ => id) rfl (by simp [State.log, free]) .inl (fun _ => .inl) ?_ rfl
      (by simp [State.Due])
    intro caller member
    refine (List.mem_append.mp member).imp_right fun last => ?_
    rw [List.mem_singleton.mp last]
    rcases whose with ⟨connected, rfl⟩ | ⟨initialized, failed, rfl⟩ | idle
    · exact .inl (owned.held (.inl connected)).2
    · obtain ⟨clear, silent, _, unlinked⟩ := unequivocal initialized
      exact .inr ⟨rfl, clear, silent, unlinked failed⟩
    · exact absurd idle other
  | cleared attempt free initialized moduleState =>
    obtain ⟨clear, silent, _⟩ := unequivocal initialized
    refine agreeing.frame (fun _ same => by cases same) rfl (by simp [State.log, free]) .inl
      (fun _ => .inl) ?_ rfl (by simp [State.Due])
    intro caller member
    exact (List.mem_append.mp member).imp_right fun last =>
      .inr ⟨List.mem_singleton.mp last, clear, silent, rfl⟩
  | notStarted attempt thread free initialized moduleState creation
  | unlinked attempt thread free initialized moduleState mqttClient closed creation =>
    obtain ⟨clear, silent, creates, _⟩ := unequivocal initialized
    exact agreeing.create clear silent (creates creation).1 rfl (fun _ same => by cases same)
      (by simp [State.log, State.create, free]) rfl rfl
      (by simp [State.log, State.create]) rfl (by simp)
  | connecting attempt thread free initialized sent creation =>
    obtain ⟨clear, silent, creates, _⟩ := unequivocal initialized
    obtain ⟨served, narrow⟩ := creates creation
    refine agreeing.create clear silent served rfl ?_ ?_ rfl rfl (fun _ => .inl)
      (List.append_nil _).symm (by simp)
    · exact fun client link => ⟨(Option.some.inj link).symm, rfl⟩
    · intro sendConnectMsg waiting
      cases waiting
      exact ⟨narrow sent, rfl⟩
  | connack flags returnCode link =>
    obtain ⟨rfl, small⟩ := unequivocal
    refine agreeing.frame (fun _ => id) rfl ?_ .inl ?_ (fun _ => .inl) rfl (by simp [State.Due])
    · intro sendConnectMsg waiting
      exact ⟨waiting, .inr ⟨(connAckOf_low flags 0).mpr rfl, int16_connAckOf small⟩⟩
    · intro element member
      refine (mem_announced_append state member rfl rfl).imp_right fun new => ?_
      rw [List.mem_singleton.mp new.1]
      exact ⟨rfl, link, flags, List.mem_append_right _ (List.mem_singleton_self _)⟩
  | close link =>
    exact agreeing.frame (by simp) rfl (fun _ waiting => ⟨waiting, .inl processDisconnCB_connAck⟩) .inl
      (fun _ => .inl) (fun _ => .inl) (List.append_nil _).symm (by simp)
  | queue closing =>
    refine agreeing.frame (fun _ => id) rfl (fun _ waiting => ⟨waiting, .inl rfl⟩) .inl ?_
      (fun _ => .inl) (List.append_nil _).symm (by simp)
    intro element member
    rcases mem_announced_append state member rfl rfl with old | ⟨new, connack⟩
    · exact .inl old
    · cases List.mem_singleton.mp new
      cases connack
  | connectFails waiting posted failed closed =>
    obtain ⟨sent, low, accepted⟩ := agreeing.verdict _ waiting
    have positive := clientConnectClose_accepts sent low accepted
    omega
  | connects =>
    refine agreeing.frame (fun _ => id) rfl (fun _ same => by cases same) .inl (fun _ => .inl) ?_ rfl
      (by simp [State.Due])
    exact fun caller member =>
      (List.mem_append.mp member).imp_right fun last => .inl (List.mem_singleton.mp last)
  | disconnects =>
    exact agreeing.frame (fun _ => id) rfl (fun _ same => by cases same) .inl (fun _ => .inl)
      (fun _ => .inl) rfl (by simp [State.Due])
  | notConnected | disconnectFails | disconnectUnsent | cleanup =>
    exact agreeing.frame (fun _ => id) rfl (by simp [State.log, State.setCtx, *]) .inl (fun _ => .inl)
      (fun _ => .inl) rfl (by simp [State.Due])
  | disconnecting sendDisconn mqttDisconnect free connected succeeds opened =>
    exact agreeing.frame (fun _ => id) rfl (by simp) .inl (fun _ => .inl) (fun _ => .inl)
      (List.append_nil _).symm (by simp)
  | delete thread sendDisconn free returned handle linked =>
    exact agreeing.frame (fun _ same => by cases same) rfl (by simp [State.log, free]) .inl
      (fun _ => .inl) (fun _ => .inl) rfl (by simp [State.Due])
  | @receive element rest receiving queued =>
    refine agreeing.frame (fun _ => id) rfl (fun _ waiting => ⟨waiting, .inl rfl⟩) .inl ?_
      (fun _ => .inl) (List.append_nil _).symm (by simp)
    intro other member
    by_cases connack : element.event = .connack
    · exact .inl (by simpa [State.announced, AppPhase.announced, receiving, queued, connack] using member)
    · exact .inl (by simpa [State.announced, AppPhase.announced, receiving, queued, connack] using member)
  | relabel received free disconnect flagged =>
    refine agreeing.frame (fun _ => id) rfl (fun _ waiting => ⟨waiting, .inl rfl⟩) .inl ?_
      (fun _ => .inl) (List.append_nil _).symm (by simp)
    intro other member
    exact .inl (by simpa [State.announced, AppPhase.announced, received, disconnect] using member)
  | handle received free plain =>
    refine agreeing.frame (fun _ => id) rfl (fun _ waiting => ⟨waiting, .inl rfl⟩) .inl ?_
      (fun _ => .inl) (List.append_nil _).symm (by simp)
    intro other member
    exact .inl (by simpa [State.announced, AppPhase.announced, received] using member)
  | @raise element reporting =>
    have member : element ∈ state.announced := by
      simp [State.announced, AppPhase.announced, reporting]
    refine agreeing.frame (fun _ => id) rfl (fun _ waiting => ⟨waiting, .inl rfl⟩)
      (fun _ => .inr (List.ne_nil_of_mem member)) ?_ (fun _ => .inl) rfl
      (by simpa [State.Due] using agreeing.announced element member)
    exact fun _ member => .inl (List.mem_append_right _ member)
  | report reporting disconnect =>
    refine agreeing.frame (fun _ => id) rfl (fun _ waiting => ⟨waiting, .inl rfl⟩)
      (fun same => by cases same) ?_ (fun _ => .inl) rfl (by simp [State.Due])
    exact fun _ member => .inl (List.mem_append_right _ member)
  | pass reporting connack client server =>
    refine agreeing.frame (fun _ => id) rfl (fun _ waiting => ⟨waiting, .inl rfl⟩) .inl ?_
      (fun _ => .inl) (List.append_nil _).symm (by simp)
    exact fun _ member => .inl (List.mem_append_right _ member)
  | leave looping connected =>
    refine agreeing.frame (fun _ => id) rfl (fun _ waiting => ⟨waiting, .inl rfl⟩) .inl
      (fun _ => .inl) ?_ rfl (by simpa [State.Due] using agreeing.served connected _ looping)
    exact fun _ member => .inl (List.mem_of_mem_erase member)
  | reset =>
    exact agreeing.frame (fun _ => id) rfl (fun _ waiting => ⟨waiting, .inl rfl⟩) (by simp)
      (fun _ => .inl) (fun _ => .inl) (List.append_nil _).symm (by simp)
  | runReturns =>
    exact agreeing.frame (fun _ => id) rfl (fun _ waiting => ⟨waiting, .inl rfl⟩) .inl
      (fun _ => .inl) (fun _ => .inl) (List.append_nil _).symm (by simp)
  | stay => exact agreeing

/-- In an unequivocal run the flag agrees with the broker and with `MQTT_IF_Connect`. -/
theorem connection_agrees (errNotConn : Int) {state : State}
    (reached : Reachable (step errNotConn) Unequivocal initial state) : Agrees state := by
  have ⟨_, _, agreeing⟩ := reached.invariant
    (fun state => Owned state ∧ state.module.moduleState ≠ .idle ∧ Agreeing state)
    ⟨.initial, by simp [initial], .initial⟩
    fun _ _ _ invariants unequivocal stepped =>
      ⟨invariants.1.preserved stepped, step_moduleState stepped invariants.2.1,
        invariants.2.2.preserved invariants.1 invariants.2.1 unequivocal stepped⟩
  exact ⟨agreeing.raised, agreeing.left, fun set => ⟨(agreeing.flag set).notRefused, agreeing.served set⟩⟩

/-- `mqtt_connect` with an accepted session, up to the end of its loop. -/
def connectAccepted (client : Nat) : List Event :=
  [.connect plainAttempt, .connack 1 0, .wake, .receive, .handle, .callback, .poll (some client)]

/-- The broker closes the connection, and its context thread cleans up. -/
def closedByBroker (client : Nat) : List Event :=
  [.close, .queue client, .runReturns client, .cleanup client 0]

theorem connection_agrees_accepted : ∃ state,
    exec (step (-1)) initial (connectAccepted 1 ++ closedByBroker 1 ++ [.receive, .handle, .callback] ++
        connectAccepted 2) = some state ∧
      state.history.getLast? = some (.left (some 2)) ∧ Agrees state := by
  have seen : (exec (step (-1)) initial (connectAccepted 1 ++ closedByBroker 1 ++
      [.receive, .handle, .callback] ++ connectAccepted 2)).map (fun state => state.history.getLast?) =
      some (some (.left (some 2))) := by decide
  obtain ⟨state, ran, last⟩ := Option.map_eq_some_iff.mp seen
  exact ⟨state, ran, last, connection_agrees (-1) (.of_exec _ (by decide) ran)⟩

/-- The broker refuses with return code 5: `MQTT_IF_Connect` reports failure, and `mqtt_connect`
leaves its loop with the flag set.  So it does when the CONNECT of the next connection cannot be
sent, or its client not be created, while the flag of the last one still stands. -/
theorem refused_connection_raises :
    (∃ state, exec (step (-1)) initial [.connect plainAttempt, .connack 0 5, .wake, .receive, .handle,
        .callback, .poll (some 1)] = some state ∧
      state.history = [.connack 1 0 5, .refused (some 1), .raised 1 5, .left (some 1)] ∧
      ¬ Agrees state) ∧
    (∃ state, exec (step (-1)) initial (connectAccepted 1 ++ closedByBroker 1 ++
        [.connect { plainAttempt with sendConnectMsg := -1 }, .poll (some 2)]) = some state ∧
      state.history.getLast? = some (.left (some 2)) ∧ ¬ Agrees state) ∧
    ∃ state, exec (step (-1)) initial (connectAccepted 1 ++ closedByBroker 1 ++
        [.connect { plainAttempt with creation := .failed }, .poll none]) = some state ∧
      state.history.getLast? = some (.left none) ∧ ¬ Agrees state := by
  refine ⟨?_, ?_, ?_⟩
  · have seen : (exec (step (-1)) initial [.connect plainAttempt, .connack 0 5, .wake, .receive,
        .handle, .callback, .poll (some 1)]).map State.history =
        some [.connack 1 0 5, .refused (some 1), .raised 1 5, .left (some 1)] := by decide
    obtain ⟨state, ran, history⟩ := Option.map_eq_some_iff.mp seen
    refine ⟨state, ran, history, fun agrees => ?_⟩
    cases (agrees.raised 1 5 (by simp [history])).1
  · have seen : (exec (step (-1)) initial (connectAccepted 1 ++ closedByBroker 1 ++
        [.connect { plainAttempt with sendConnectMsg := -1 }, .poll (some 2)])).map State.history =
        some [.connack 1 1 0, .connected 1, .raised 1 0, .left (some 1), .cleaned 1 (some 1) (some 1),
          .refused (some 2), .left (some 2)] := by decide
    obtain ⟨state, ran, history⟩ := Option.map_eq_some_iff.mp seen
    refine ⟨state, ran, by rw [history]; rfl, fun agrees => ?_⟩
    obtain ⟨flags, accepted⟩ := agrees.left (some 2) (by simp [history])
    simp [history] at accepted
  · have seen : (exec (step (-1)) initial (connectAccepted 1 ++ closedByBroker 1 ++
        [.connect { plainAttempt with creation := .failed }, .poll none])).map
        (fun state => state.history.getLast?) = some (some (.left none)) := by decide
    obtain ⟨state, ran, last⟩ := Option.map_eq_some_iff.mp seen
    exact ⟨state, ran, last, fun agrees => agrees.left none (List.mem_of_getLast? last)⟩

end PlhrFirmware.Session
