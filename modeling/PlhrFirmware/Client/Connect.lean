import PlhrFirmware.Client.Library

/-! # Connecting

`MQTT_IF_Connect` creates a client, starts its context thread and calls `MQTTClient_connect`,
which sends a CONNECT and waits on `ackSyncObj`.  While it waits the receive thread reports
what the broker does; the verdict is then read off the shared context.  `connectOpen` is the
part before the wait and `connectClose` the part behind it.
-/

namespace PlhrFirmware.Client

/-! ## `MQTTClient_connect` -/

/-- `MQTTClient_create` fails before or after it has cleared the client contexts, or not. -/
inductive Creation where
  | failed
  | failedCleared
  | created
  deriving DecidableEq, Repr

/-- What the calls of `MQTT_IF_Connect` come to; there may be no will. -/
structure Attempt where
  creation : Creation
  threadStarted : Bool
  registerCtxInfo : Int
  registerWillInfo : Option Int
  sendConnectMsg : Int
  deriving DecidableEq, Repr

/-- Up to the wait for the CONNACK; `some` is the value returned without one. -/
def clientConnectOpen (errNotConn : Int) (attempt : Attempt) (ctx : ClientCtx) :
    ClientCtx × Option Int :=
  let ctx := { ctx with connectedState := false }
  if ctx.awaitedAck ≠ .disconnect then
    ({ ctx with connAck := 0 }, some errNotConn)
  else if attempt.registerCtxInfo < 0 then
    ({ ctx with connAck := 0 }, some attempt.registerCtxInfo)
  else if attempt.registerWillInfo.getD 0 < 0 then
    ({ ctx with connAck := 0 }, attempt.registerWillInfo)
  else
    let ctx := { ctx with connAck := 0, awaitedAck := .ack .connack }
    if attempt.sendConnectMsg < 0 then
      (ctx.setCondAwaitedAckLocked (.ack .connack) .disconnect, some attempt.sendConnectMsg)
    else (ctx, none)

/-- Behind the wait; after a disconnect `ret` still holds what `sendConnectMsg` returned. -/
def clientConnectClose (ret : Int) (ctx : ClientCtx) : ClientCtx × Int :=
  let ctx := { ctx with ackSyncObj := ctx.ackSyncObj - 1 }
  if ctx.awaitedAck ≠ .disconnect then
    -- the return code is the low byte
    if ctx.connAck &&& 0xff = 0 then
      ({ ctx with connectedState := true }, ctx.connAck.toNat)
    else ({ ctx with connectedState := false }, 0 - (ctx.connAck.toNat : Int))
  else (ctx, ret)

/-- The `int16_t` that `MQTTClient_connect` returns. -/
def int16 (ret : Int) : Int := ret.bmod 65536

/-! ## `MQTT_IF_Connect` -/

inductive ModuleState where
  | idle
  | initialized
  | connected
  deriving DecidableEq, Repr

/-- The part of `mMQTTContext` that connecting works on, and the globals of the library.  A
client handle is 1, and `NULL` is 0. -/
structure Module where
  moduleState : ModuleState
  mqttClient : Int
  ctx : ClientCtx
  closeContext : Bool
  deriving DecidableEq, Repr

def mqttClientBlockingSend : Bool := true

/-- Up to the wait; `some` is the handle returned without one. -/
def connectOpen (errNotConn : Int) (attempt : Attempt) (module : Module) : Module × Option Int :=
  if module.moduleState ≠ .initialized then (module, some (-1))
  else
    let module := { module with closeContext := false }
    match attempt.creation with
    | .failed => ({ module with mqttClient := 0 }, some (-1))
    | .failedCleared => ({ module with mqttClient := 0, ctx := .cleared }, some (-1))
    | .created =>
      let module := { module with mqttClient := 1, ctx := .create mqttClientBlockingSend }
      if attempt.threadStarted = false then (module, some (-1))
      else
        match clientConnectOpen errNotConn attempt module.ctx with
        | (ctx, some ret) =>
          if int16 ret < 0 then ({ module with ctx := ctx }, some (int16 ret))
          else ({ module with ctx := ctx, moduleState := .connected }, some module.mqttClient)
        | (ctx, none) => ({ module with ctx := ctx }, none)

/-- Behind the wait: the value of `MQTTClient_connect` and the handle. -/
def connectClose (sendConnectMsg : Int) (module : Module) : Module × Int × Int :=
  let (ctx, ret) := clientConnectClose sendConnectMsg module.ctx
  let module := { module with ctx := ctx }
  if int16 ret < 0 then (module, int16 ret, int16 ret)
  else ({ module with moduleState := .connected }, int16 ret, module.mqttClient)

/-! ## Reactions of the broker -/

/-- What the receive thread processes while the caller waits. -/
inductive Reaction where
  | connack (flags returnCode : UInt8)
  | disconnect
  deriving DecidableEq, Repr

def ClientCtx.react (ctx : ClientCtx) : Reaction → ClientCtx
  | .connack flags returnCode => (ctx.processNotifyAckCB .connack [flags, returnCode]).1
  | .disconnect => ctx.processDisconnCB.1

structure Outcome where
  module : Module
  ret : Int
  handle : Int
  deriving DecidableEq, Repr

/-- `MQTT_IF_Connect` with the reactions that the receive thread has processed when the caller
goes on; none as long as nothing has posted `ackSyncObj`. -/
def mqttIfConnect (errNotConn : Int) (attempt : Attempt) (reactions : List Reaction)
    (module : Module) : Option Outcome :=
  match connectOpen errNotConn attempt module with
  | (module, some handle) => some ⟨module, handle, handle⟩
  | (module, none) =>
    let module := { module with ctx := reactions.foldl ClientCtx.react module.ctx }
    if module.ctx.ackSyncObj = 0 then none
    else
      let (module, ret, handle) := connectClose attempt.sendConnectMsg module
      some ⟨module, ret, handle⟩

/-! ## The verdict -/

/-- The CONNECT is sent: no call before it fails. -/
structure Attempt.Sends (attempt : Attempt) : Prop where
  creation : attempt.creation = .created
  threadStarted : attempt.threadStarted = true
  registerCtxInfo : 0 ≤ attempt.registerCtxInfo
  registerWillInfo : 0 ≤ attempt.registerWillInfo.getD 0
  sendConnectMsg : 0 ≤ attempt.sendConnectMsg

/-- A CONNACK with return code 0 comes before any disconnect. -/
def Accepted : List Reaction → Prop
  | [] => False
  | .disconnect :: _ => False
  | .connack _ returnCode :: reactions => returnCode = 0 ∨ Accepted reactions

def Accepted.decide : ∀ reactions, Decidable (Accepted reactions)
  | [] => .isFalse id
  | .disconnect :: _ => .isFalse id
  | .connack _ _ :: reactions =>
    have := Accepted.decide reactions
    inferInstanceAs (Decidable (_ ∨ _))

instance (reactions : List Reaction) : Decidable (Accepted reactions) := Accepted.decide reactions

/-- `MQTTClient_connect` returns a value that is not negative, and `MQTT_IF_Connect` the handle
of a connected module, exactly when the broker has accepted. -/
def Verdict (errNotConn : Int) (attempt : Attempt) (reactions : List Reaction) (module : Module) :
    Prop :=
  ∃ outcome, mqttIfConnect errNotConn attempt reactions module = some outcome ∧
    (0 ≤ outcome.ret ↔ Accepted reactions) ∧
    (outcome.module.moduleState = .connected ∧ outcome.handle = 1 ↔ Accepted reactions)

/-- What the result is read off.  The flags of a CONNACK are the high byte of the 16 bits that
are negated and narrowed; behind a disconnect the low 16 bits of what `sendConnectMsg` returned
are the result. -/
def ReadAsAccepted (sendConnectMsg : Int) : Reaction → Prop
  | .connack flags returnCode => returnCode = 0 ↔ flags < 128
  | .disconnect => sendConnectMsg % 65536 < 32768

/-- The last reaction before the caller goes on decides, and decides right. -/
def Discerned (sendConnectMsg : Int) (reactions : List Reaction) : Prop :=
  ∃ last, reactions.getLast? = some last ∧
    (ReadAsAccepted sendConnectMsg last ↔ Accepted reactions)

theorem int16_nonneg (ret : Int) : 0 ≤ int16 ret ↔ ret % 65536 < 32768 := by
  rw [int16, Int.bmod_def]
  split <;> omega

theorem connAckOf_toNat (flags returnCode : UInt8) :
    (connAckOf [flags, returnCode]).toNat = flags.toNat * 256 + returnCode.toNat := by
  have low := returnCode.toNat_lt
  have high := flags.toNat_lt
  have shifted : (flags.toUInt16 <<< 8).toNat = flags.toNat <<< 8 := by
    rw [UInt16.toNat_shiftLeft, UInt8.toNat_toUInt16]
    exact Nat.mod_eq_of_lt (by rw [Nat.shiftLeft_eq]; simp; omega)
  rw [connAckOf, List.getD_cons_zero, List.getD_cons_succ, List.getD_cons_zero, UInt16.toNat_or,
    shifted, UInt8.toNat_toUInt16, ← Nat.shiftLeft_add_eq_or_of_lt low, Nat.shiftLeft_eq]

theorem connAckOf_low (flags returnCode : UInt8) :
    connAckOf [flags, returnCode] &&& 0xff = 0 ↔ returnCode = 0 := by
  have low := returnCode.toNat_lt
  have masked : (connAckOf [flags, returnCode] &&& 0xff).toNat = returnCode.toNat := by
    rw [UInt16.toNat_and, connAckOf_toNat]
    exact (Nat.and_two_pow_sub_one_eq_mod _ 8).trans (by omega)
  rw [← UInt16.toNat_inj, masked, ← UInt8.toNat_inj]
  rfl

theorem react_posted {ctx : ClientCtx} (posted : ctx.awaitedAck ≠ .disconnect ∨ 0 < ctx.ackSyncObj)
    (reaction : Reaction) : 0 < (ctx.react reaction).ackSyncObj := by
  cases reaction with
  | connack flags returnCode => simp [ClientCtx.react, processNotifyAckCB_connack]
  | disconnect =>
    by_cases closed : ctx.awaitedAck = .disconnect
    -- a second disconnect does not post, but the first has
    · have post : 0 < ctx.ackSyncObj := posted.resolve_left (not_not.mpr closed)
      simpa [ClientCtx.react, ClientCtx.processDisconnCB, closed] using post
    · simp [ClientCtx.react, ClientCtx.processDisconnCB, closed]

theorem foldl_react_posted (reactions : List Reaction) {ctx : ClientCtx}
    (posted : ctx.awaitedAck ≠ .disconnect ∨ 0 < ctx.ackSyncObj) :
    (reactions.foldl ClientCtx.react ctx).awaitedAck ≠ .disconnect ∨
      0 < (reactions.foldl ClientCtx.react ctx).ackSyncObj := by
  induction reactions generalizing ctx with
  | nil => exact posted
  | cons reaction reactions inductionHypothesis =>
    exact inductionHypothesis (.inr (react_posted posted reaction))

theorem connectOpen_sends (errNotConn : Int) {attempt : Attempt} (sends : attempt.Sends)
    {module : Module} (initialized : module.moduleState = .initialized) :
    connectOpen errNotConn attempt module = ({ module with
      mqttClient := 1
      closeContext := false
      ctx := { ClientCtx.create mqttClientBlockingSend with awaitedAck := .ack .connack } },
      none) := by
  obtain ⟨creation, threadStarted, info, will, sent⟩ := sends
  simp [connectOpen, initialized, creation, threadStarted, clientConnectOpen, ClientCtx.create,
    Int.not_lt.mpr info, Int.not_lt.mpr will, Int.not_lt.mpr sent]

@[simp] theorem clientConnectClose_awaitedAck (sendConnectMsg : Int) (ctx : ClientCtx) :
    (clientConnectClose sendConnectMsg ctx).1.awaitedAck = ctx.awaitedAck := by
  simp only [clientConnectClose]
  split
  · split <;> rfl
  · rfl

@[simp] theorem clientConnectClose_ackSyncObj (sendConnectMsg : Int) (ctx : ClientCtx) :
    (clientConnectClose sendConnectMsg ctx).1.ackSyncObj = ctx.ackSyncObj - 1 := by
  simp only [clientConnectClose]
  split
  · split <;> rfl
  · rfl

theorem clientConnectClose_react (sendConnectMsg : Int) (ctx : ClientCtx) (last : Reaction) :
    0 ≤ int16 (clientConnectClose sendConnectMsg (ctx.react last)).2 ↔
      ReadAsAccepted sendConnectMsg last := by
  cases last with
  | disconnect =>
    have closed : (ctx.react .disconnect).awaitedAck = .disconnect := processDisconnCB_awaitedAck
    simp [clientConnectClose, closed, int16_nonneg, ReadAsAccepted]
  | connack flags returnCode =>
    have low := connAckOf_low flags returnCode
    have value := connAckOf_toNat flags returnCode
    have small := returnCode.toNat_lt
    have flagsLt : flags < 128 ↔ flags.toNat < 128 := UInt8.lt_iff_toNat_lt
    rw [ReadAsAccepted, flagsLt]
    by_cases zero : returnCode = 0
    · subst returnCode
      have accepted : (clientConnectClose sendConnectMsg (ctx.react (.connack flags 0))).2 =
          flags.toNat * 256 := by
        simp [clientConnectClose, ClientCtx.react, processNotifyAckCB_connack, low, value]
      rw [accepted, int16_nonneg]
      have high := flags.toNat_lt
      simp only [true_iff]
      omega
    -- the two bytes are negated
    · have refused : (clientConnectClose sendConnectMsg (ctx.react (.connack flags returnCode))).2 =
          -(flags.toNat * 256 + returnCode.toNat : Int) := by
        simp [clientConnectClose, ClientCtx.react, processNotifyAckCB_connack, low, value, zero]
      have positive : returnCode.toNat ≠ 0 := fun none => zero (UInt8.toNat_inj.mp none)
      have high := flags.toNat_lt
      rw [refused, int16_nonneg]
      simp only [zero, false_iff]
      omega

theorem connectClose_ret (sendConnectMsg : Int) (module : Module) :
    (connectClose sendConnectMsg module).2.1 =
      int16 (clientConnectClose sendConnectMsg module.ctx).2 := by
  by_cases failed : int16 (clientConnectClose sendConnectMsg module.ctx).2 < 0
  · simp [connectClose, failed]
  · simp [connectClose, failed]

theorem connectClose_connected (sendConnectMsg : Int) {module : Module}
    (initialized : module.moduleState = .initialized) (created : module.mqttClient = 1) :
    (connectClose sendConnectMsg module).1.moduleState = .connected ∧
      (connectClose sendConnectMsg module).2.2 = 1 ↔
        0 ≤ (connectClose sendConnectMsg module).2.1 := by
  by_cases failed : int16 (clientConnectClose sendConnectMsg module.ctx).2 < 0
  · simp [connectClose, failed, initialized]
  · simp [connectClose, failed, created, Int.not_lt.mp failed]

/-- The verdict is right for any sequence of reactions exactly when the last one decides right. -/
theorem connect_verdict_iff (errNotConn : Int) {attempt : Attempt} (sends : attempt.Sends)
    {reactions : List Reaction} (reacts : reactions ≠ []) {module : Module}
    (initialized : module.moduleState = .initialized) :
    Verdict errNotConn attempt reactions module ↔ Discerned attempt.sendConnectMsg reactions := by
  obtain ⟨earlier, last, rfl⟩ := List.eq_nil_or_concat reactions |>.resolve_left reacts
  let awaiting : Module := { module with
    mqttClient := 1
    closeContext := false
    ctx := { ClientCtx.create mqttClientBlockingSend with awaitedAck := .ack .connack } }
  have opened : connectOpen errNotConn attempt module = (awaiting, none) :=
    connectOpen_sends errNotConn sends initialized
  let ctx := earlier.foldl ClientCtx.react awaiting.ctx
  let woken : Module := { awaiting with ctx := ctx.react last }
  have posted : 0 < (ctx.react last).ackSyncObj :=
    react_posted (foldl_react_posted earlier (.inl (by simp [awaiting]))) last
  have result : mqttIfConnect errNotConn attempt (earlier ++ [last]) module =
      some ⟨(connectClose attempt.sendConnectMsg woken).1,
        (connectClose attempt.sendConnectMsg woken).2.1,
        (connectClose attempt.sendConnectMsg woken).2.2⟩ := by
    simp only [mqttIfConnect, opened, List.foldl_append, List.foldl_cons, List.foldl_nil]
    exact if_neg (Nat.pos_iff_ne_zero.mp posted)
  have read : 0 ≤ (connectClose attempt.sendConnectMsg woken).2.1 ↔
      ReadAsAccepted attempt.sendConnectMsg last := by
    rw [connectClose_ret]
    exact clientConnectClose_react attempt.sendConnectMsg ctx last
  have connected := @connectClose_connected attempt.sendConnectMsg woken initialized rfl
  simp [Verdict, Discerned, result, connected, read]

/-- `sendConnectMsg` returns 0. -/
def plainAttempt : Attempt := ⟨.created, true, 0, some 0, 0⟩

def initializedModule : Module := ⟨.initialized, 0, .cleared, false⟩

theorem plainAttempt_sends : plainAttempt.Sends := ⟨rfl, rfl, by decide, by decide, by decide⟩

theorem connect_verdict_iff_accepted :
    Verdict (-1) plainAttempt [.connack 1 0] initializedModule := by
  apply (connect_verdict_iff (-1) plainAttempt_sends (by simp) rfl).mpr
  exact ⟨_, rfl, by simp [ReadAsAccepted, Accepted]⟩

/-- The broker closes without a CONNACK, and the module is connected.  So it is when a refusal
has its high bit set. -/
theorem connects_without_connack :
    mqttIfConnect (-1) plainAttempt [.disconnect] initializedModule =
        some ⟨⟨.connected, 1, ⟨.disconnect, 0, 0, true, false⟩, false⟩, 0, 1⟩ ∧
      ¬ Verdict (-1) plainAttempt [.disconnect] initializedModule ∧
      ¬ Verdict (-1) plainAttempt [.connack 128 5] initializedModule := by
  have closed : mqttIfConnect (-1) plainAttempt [.disconnect] initializedModule =
      some ⟨⟨.connected, 1, ⟨.disconnect, 0, 0, true, false⟩, false⟩, 0, 1⟩ := by decide
  have refused : mqttIfConnect (-1) plainAttempt [.connack 128 5] initializedModule =
      some ⟨⟨.connected, 1, ⟨.none, 0x8005, 0, true, false⟩, false⟩, 32763, 1⟩ := by decide
  refine ⟨closed, ?_, ?_⟩
  · rintro ⟨outcome, ran, ret, _⟩
    cases closed.symm.trans ran
    simp [Accepted] at ret
  · rintro ⟨outcome, ran, ret, _⟩
    cases refused.symm.trans ran
    simp [Accepted] at ret

end PlhrFirmware.Client
