import Mathlib.Logic.Function.Basic
import PlhrFirmware.Client.Library
import PlhrFirmware.Lib.Reachable

/-! # Waiting for an acknowledgement

Callers of `MQTT_IF_Publish` and of `MQTTClient_subscribe` around one client context.  A
subscriber holds `moduleMutex` during the whole call; a publisher only while it checks the
module state.  Each of them stores what it expects, sends its packet and waits, and the receive
thread processes acks in between.  The module stays connected, so the check always passes.
-/

namespace PlhrFirmware.Client

open PlhrFirmware.Lib

/-! ## Callers -/

inductive Qos where
  | qos0
  | qos1
  | qos2
  deriving DecidableEq, Repr

inductive Operation where
  | publish (qos : Qos)
  | subscribe
  deriving DecidableEq, Repr

/-- The packet that acknowledges the operation; none for QoS 0. -/
def Operation.ackType : Operation → Option AckType
  | .publish .qos0 => none
  | .publish .qos1 => some .puback
  | .publish .qos2 => some .pubcomp
  | .subscribe => some .suback

def Operation.awaitedAck (operation : Operation) : AwaitedAck :=
  match operation.ackType with
  | none => .none
  | some msgType => .ack msgType

/-- The point that a caller has reached; a waiting caller has sent the packet of that number. -/
inductive CallerPhase where
  | idle
  | checked (qos : Qos)
  | locked
  | stored (operation : Operation)
  | waiting (operation : Operation) (packet : Nat)
  deriving DecidableEq, Repr

/-- The ack that a caller in flight needs. -/
def CallerPhase.awaits : CallerPhase → Option AckType
  | .stored operation | .waiting operation _ => operation.ackType
  | .idle | .checked _ | .locked => none

namespace Acks

/-- `packets` holds the ack type of each packet that needs one; `processed` the numbers of those
whose ack has been processed. -/
structure State where
  ctx : ClientCtx
  moduleMutex : Option Nat
  callers : Nat → CallerPhase
  packets : List AckType
  processed : List Nat

inductive Event where
  | publish (caller : Nat) (qos : Qos)
  | subscribe (caller : Nat)
  | store (caller : Nat)
  | send (caller : Nat) (ret : Int)
  | ack (packet : Nat) (buf : List UInt8)
  | stray (msgType : AckType) (buf : List UInt8)
  | disconnect
  | wake (caller : Nat)

/-! ## Steps -/

def State.set (state : State) (caller : Nat) (phase : CallerPhase) : State :=
  { state with callers := Function.update state.callers caller phase }

/-- The caller returns; a subscriber releases `moduleMutex`. -/
def State.finish (state : State) (caller : Nat) (operation : Operation) : State :=
  { state.set caller .idle with
    moduleMutex := if operation = .subscribe then none else state.moduleMutex }

def storeExpectation (state : State) (caller : Nat) (operation : Operation) : State :=
  match state.ctx.awaitedAckSet operation.awaitedAck with
  | (ctx, true) => { state.set caller (.stored operation) with ctx := ctx }
  | (_, false) => state.finish caller operation

def sendPacket (state : State) (caller : Nat) (operation : Operation) (ret : Int) : State :=
  if ret < 0 then
    { state.finish caller operation with
      ctx := state.ctx.setCondAwaitedAckLocked operation.awaitedAck .none }
  else
    match operation.ackType with
    | none => state.finish caller operation
    | some msgType =>
      let packet := state.packets.length
      let state := { state with packets := state.packets ++ [msgType] }
      if state.ctx.blockingSend then state.set caller (.waiting operation packet)
      else state.finish caller operation

def step (state : State) : Event → Option State
  | .publish caller qos =>
    if state.callers caller = .idle ∧ state.moduleMutex = none then
      some (state.set caller (.checked qos))
    else none
  | .subscribe caller =>
    if state.callers caller = .idle ∧ state.moduleMutex = none then
      some { state.set caller .locked with moduleMutex := some caller }
    else none
  | .store caller =>
    match state.callers caller with
    | .checked qos => some (storeExpectation state caller (.publish qos))
    | .locked => some (storeExpectation state caller .subscribe)
    | _ => none
  | .send caller ret =>
    match state.callers caller with
    | .stored operation => some (sendPacket state caller operation ret)
    | _ => none
  | .ack packet buf =>
    match state.packets[packet]? with
    | some msgType =>
      if packet ∈ state.processed then none
      else some { state with
        ctx := (state.ctx.processNotifyAckCB msgType buf).1
        processed := state.processed ++ [packet] }
    | none => none
  | .stray msgType buf => some { state with ctx := (state.ctx.processNotifyAckCB msgType buf).1 }
  | .disconnect => some { state with ctx := state.ctx.processDisconnCB.1 }
  | .wake caller =>
    match state.callers caller with
    | .waiting operation _ =>
      if 0 < state.ctx.ackSyncObj then
        some { state.finish caller operation with
          ctx := { state.ctx with ackSyncObj := state.ctx.ackSyncObj - 1 } }
      else none
    | _ => none

/-- Connected, with nobody under way. -/
def initial : State := ⟨⟨.none, 0, 0, true, true⟩, none, fun _ => .idle, [], []⟩

/-! ## Lost acknowledgements -/

/-- Every caller whose ack has been processed can leave its wait. -/
def Released (state : State) : Prop :=
  ∀ caller operation packet, state.callers caller = .waiting operation packet →
    packet ∈ state.processed → (step state (.wake caller)).isSome

/-- An expectation is stored while no caller is in flight; 0 also while the caller in flight
finds `ackSyncObj` posted. -/
def Exclusive (state : State) : Event → Prop
  | .store caller =>
    match state.callers caller with
    | .checked .qos0 =>
      ∀ other, (state.callers other).awaits.isSome → 0 < state.ctx.ackSyncObj
    | _ => ∀ other, (state.callers other).awaits = none
  | _ => True

/-! ## The invariant -/

/-- The ack is still expected, or its post is there. -/
def Expected (ctx : ClientCtx) (msgType : AckType) : Prop :=
  ctx.awaitedAck = .ack msgType ∨ 0 < ctx.ackSyncObj

structure Orderly (state : State) : Prop where
  blocking : state.ctx.blockingSend = true
  alone : ∀ caller other, (state.callers caller).awaits.isSome →
    (state.callers other).awaits.isSome → caller = other
  expected : ∀ caller msgType, (state.callers caller).awaits = some msgType →
    Expected state.ctx msgType
  sent : ∀ caller operation packet, state.callers caller = .waiting operation packet →
    ∃ msgType, operation.ackType = some msgType ∧ state.packets[packet]? = some msgType
  known : ∀ packet ∈ state.processed, packet < state.packets.length
  posted : ∀ caller operation packet, state.callers caller = .waiting operation packet →
    packet ∈ state.processed → 0 < state.ctx.ackSyncObj

theorem Orderly.initial : Orderly initial where
  blocking := rfl
  alone := by simp [Acks.initial, CallerPhase.awaits]
  expected := by simp [Acks.initial, CallerPhase.awaits]
  sent := by simp [Acks.initial]
  known := by simp [Acks.initial]
  posted := by simp [Acks.initial]

/-- In blocking mode a packet posts, or it was not the one awaited and changes nothing. -/
theorem processNotifyAckCB_cases {ctx : ClientCtx} (blocking : ctx.blockingSend = true)
    (msgType : AckType) (buf : List UInt8) :
    ((ctx.processNotifyAckCB msgType buf).1 = ctx ∧ ctx.awaitedAck ≠ .ack msgType) ∨
      (0 < (ctx.processNotifyAckCB msgType buf).1.ackSyncObj ∧
        (ctx.processNotifyAckCB msgType buf).1.blockingSend = true) := by
  by_cases connack : msgType = .connack
  · subst msgType
    exact .inr (by simp [processNotifyAckCB_connack, blocking])
  · by_cases awaited : ctx.awaitedAck = .ack msgType
    · rw [processNotifyAckCB_awaited blocking buf connack awaited]
      exact .inr (by simp [blocking])
    · rw [processNotifyAckCB_dropped blocking buf connack awaited]
      exact .inl ⟨rfl, awaited⟩

/-- Processing the packet that a caller expects leaves a post. -/
theorem Expected.processed {ctx : ClientCtx} {msgType : AckType} (expected : Expected ctx msgType)
    (blocking : ctx.blockingSend = true) (buf : List UInt8) :
    0 < (ctx.processNotifyAckCB msgType buf).1.ackSyncObj := by
  cases processNotifyAckCB_cases blocking msgType buf with
  | inl dropped =>
    rw [dropped.1]
    exact expected.resolve_left dropped.2
  | inr posted => exact posted.1

/-! ## Preservation -/

/-- A step of the receive thread: callers and packets stay, and no expectation is lost without
a post. -/
theorem Orderly.receive {state : State} (orderly : Orderly state) {ctx : ClientCtx}
    (kept : ctx = state.ctx ∨ (0 < ctx.ackSyncObj ∧ ctx.blockingSend = true)) :
    Orderly { state with ctx := ctx } := by
  cases kept with
  | inl same => subst ctx; exact orderly
  | inr posted =>
    exact ⟨posted.2, orderly.alone, fun _ _ _ => .inr posted.1, orderly.sent, orderly.known,
      fun _ _ _ _ _ => posted.1⟩

/-- What the other callers in flight rely on is kept. -/
def Keeps (ctx result : ClientCtx) : Prop :=
  (0 < ctx.ackSyncObj → 0 < result.ackSyncObj) ∧
    ∀ msgType, Expected ctx msgType → Expected result msgType

theorem Keeps.refl (ctx : ClientCtx) : Keeps ctx ctx := ⟨id, fun _ => id⟩

/-- A caller moves to a phase in which it awaits nothing. -/
theorem Orderly.leave {state : State} (orderly : Orderly state) {caller : Nat} (phase : CallerPhase)
    (awaitsNothing : phase.awaits = none)
    (notWaiting : ∀ operation packet, phase ≠ .waiting operation packet) {ctx : ClientCtx}
    (keeps : ∀ other, other ≠ caller → (state.callers other).awaits.isSome → Keeps state.ctx ctx)
    (blocking : ctx.blockingSend = true) (mutex : Option Nat) :
    Orderly { state.set caller phase with ctx := ctx, moduleMutex := mutex } := by
  have awaiting : ∀ other msgType,
      (Function.update state.callers caller phase other).awaits = some msgType →
        other ≠ caller ∧ (state.callers other).awaits = some msgType := by
    intro other msgType awaits
    by_cases same : other = caller
    · subst other
      simp [awaitsNothing] at awaits
    · rw [Function.update_of_ne same] at awaits
      exact ⟨same, awaits⟩
  have waiting : ∀ other operation packet,
      Function.update state.callers caller phase other = .waiting operation packet →
        other ≠ caller ∧ state.callers other = .waiting operation packet := by
    intro other operation packet waits
    by_cases same : other = caller
    · subst other
      exact absurd ((Function.update_self _ _ _).symm.trans waits) (notWaiting operation packet)
    · rw [Function.update_of_ne same] at waits
      exact ⟨same, waits⟩
  constructor
  case blocking => exact blocking
  case alone =>
    intro left right leftAwaits rightAwaits
    obtain ⟨_, leftSome⟩ := Option.isSome_iff_exists.mp leftAwaits
    obtain ⟨_, rightSome⟩ := Option.isSome_iff_exists.mp rightAwaits
    exact orderly.alone left right (by simp [(awaiting _ _ leftSome).2])
      (by simp [(awaiting _ _ rightSome).2])
  case expected =>
    intro other msgType awaits
    obtain ⟨apart, before⟩ := awaiting other msgType awaits
    exact (keeps other apart (by simp [before])).2 msgType (orderly.expected other msgType before)
  case sent =>
    intro other operation packet waits
    exact orderly.sent other operation packet (waiting other operation packet waits).2
  case known => exact orderly.known
  case posted =>
    intro other operation packet waits done
    obtain ⟨apart, before⟩ := waiting other operation packet waits
    obtain ⟨msgType, ack, _⟩ := orderly.sent other operation packet before
    exact (keeps other apart (by simp [before, CallerPhase.awaits, ack])).1
      (orderly.posted other operation packet before done)

/-- A caller expects an ack while nobody else does. -/
theorem Orderly.enter {state : State} (orderly : Orderly state) {caller : Nat}
    (free : ∀ other, (state.callers other).awaits = none) {operation : Operation} {msgType : AckType}
    (ack : operation.ackType = some msgType) :
    Orderly { state.set caller (.stored operation) with
      ctx := { state.ctx with awaitedAck := .ack msgType } } := by
  have idle : ∀ other, other ≠ caller →
      (Function.update state.callers caller (.stored operation) other).awaits = none := by
    intro other apart
    rw [Function.update_of_ne apart]
    exact free other
  have waiting : ∀ other operation' packet, Function.update state.callers caller
      (.stored operation) other ≠ .waiting operation' packet := by
    intro other operation' packet waits
    by_cases same : other = caller
    · subst other
      simp at waits
    · rw [Function.update_of_ne same] at waits
      obtain ⟨_, needed, _⟩ := orderly.sent _ _ _ waits
      have none := free other
      simp [waits, CallerPhase.awaits, needed] at none
  constructor
  case blocking => exact orderly.blocking
  case alone =>
    intro left right leftAwaits rightAwaits
    have leftSame : left = caller := by
      by_contra apart
      simp [State.set, idle left apart] at leftAwaits
    have rightSame : right = caller := by
      by_contra apart
      simp [State.set, idle right apart] at rightAwaits
    exact leftSame.trans rightSame.symm
  case expected =>
    intro other msgType' awaits
    by_cases same : other = caller
    · subst other
      simp only [State.set, Function.update_self, CallerPhase.awaits, ack, Option.some.injEq]
        at awaits
      subst msgType'
      exact .inl rfl
    · simp [State.set, idle other same] at awaits
  case sent => exact fun other operation' packet waits => absurd waits (waiting other operation' packet)
  case known => exact orderly.known
  case posted =>
    exact fun other operation' packet waits => absurd waits (waiting other operation' packet)

/-- The caller that has stored its expectation sends its packet. -/
theorem Orderly.sendPacket {state : State} (orderly : Orderly state) {caller : Nat}
    {operation : Operation} (stored : state.callers caller = .stored operation)
    {msgType : AckType} (ack : operation.ackType = some msgType) :
    Orderly { state with
      callers := Function.update state.callers caller (.waiting operation state.packets.length)
      packets := state.packets ++ [msgType] } := by
  have same : ∀ other, (Function.update state.callers caller
      (.waiting operation state.packets.length) other).awaits = (state.callers other).awaits := by
    intro other
    by_cases same : other = caller
    · subst other
      simp [stored, CallerPhase.awaits]
    · rw [Function.update_of_ne same]
  constructor
  case blocking => exact orderly.blocking
  case alone =>
    intro left right leftAwaits rightAwaits
    rw [same] at leftAwaits rightAwaits
    exact orderly.alone left right leftAwaits rightAwaits
  case expected =>
    intro other msgType' awaits
    rw [same] at awaits
    exact orderly.expected other msgType' awaits
  case sent =>
    intro other operation' packet waits
    by_cases mine : other = caller
    · subst other
      simp only [Function.update_self, CallerPhase.waiting.injEq] at waits
      obtain ⟨rfl, rfl⟩ := waits
      exact ⟨msgType, ack, by simp⟩
    · simp only [Function.update_of_ne mine] at waits
      obtain ⟨msgType', needed, packetType⟩ := orderly.sent other operation' packet waits
      refine ⟨msgType', needed, ?_⟩
      rw [List.getElem?_append_left (List.getElem?_eq_some_iff.mp packetType).1]
      exact packetType
  case known =>
    intro packet done
    have old := orderly.known packet done
    simp only [List.length_append, List.length_singleton]
    omega
  case posted =>
    intro other operation' packet waits done
    by_cases mine : other = caller
    -- the new packet has not been acked
    · subst other
      simp only [Function.update_self, CallerPhase.waiting.injEq] at waits
      exact absurd (orderly.known packet done) (by omega)
    · simp only [Function.update_of_ne mine] at waits
      exact orderly.posted other operation' packet waits done

theorem Orderly.ack {state : State} (orderly : Orderly state) {packet : Nat} {msgType : AckType}
    (buf : List UInt8) (packetType : state.packets[packet]? = some msgType) :
    Orderly { state with
      ctx := (state.ctx.processNotifyAckCB msgType buf).1
      processed := state.processed ++ [packet] } := by
  have received := orderly.receive
    ((processNotifyAckCB_cases orderly.blocking msgType buf).imp_left And.left)
  refine ⟨received.blocking, received.alone, received.expected, received.sent, ?_, ?_⟩
  · intro other done
    cases List.mem_append.mp done with
    | inl old => exact orderly.known other old
    | inr new =>
      rw [List.mem_singleton.mp new]
      exact (List.getElem?_eq_some_iff.mp packetType).1
  · intro caller operation other waits done
    cases List.mem_append.mp done with
    | inl old => exact received.posted caller operation other waits old
    | inr new =>
      have waiting : state.callers caller = .waiting operation packet := by
        rw [List.mem_singleton.mp new] at waits
        exact waits
      obtain ⟨expectedType, needed, sentType⟩ := orderly.sent caller operation packet waiting
      rw [packetType, Option.some.injEq] at sentType
      subst expectedType
      have expected := orderly.expected caller msgType
        (by simp [waiting, CallerPhase.awaits, needed])
      exact expected.processed orderly.blocking buf

theorem Orderly.store {state : State} (orderly : Orderly state) {caller : Nat}
    {operation : Operation}
    (exclusive : ∀ other, (state.callers other).awaits.isSome →
      operation.ackType = none ∧ 0 < state.ctx.ackSyncObj) :
    Orderly (storeExpectation state caller operation) := by
  unfold storeExpectation
  by_cases closed : state.ctx.awaitedAck = .disconnect
  · simp only [ClientCtx.awaitedAckSet, closed, ne_eq, not_true_eq_false, if_false]
    exact orderly.leave .idle rfl (by simp) (fun _ _ _ => .refl _) orderly.blocking _
  · simp only [ClientCtx.awaitedAckSet, closed, ne_eq, not_false_eq_true, if_true]
    cases ack : operation.ackType with
    | none =>
      have keeps : ∀ other, other ≠ caller → (state.callers other).awaits.isSome →
          Keeps state.ctx { state.ctx with awaitedAck := operation.awaitedAck } := by
        intro other _ awaits
        have posted := (exclusive other awaits).2
        exact ⟨fun _ => posted, fun _ _ => .inr posted⟩
      exact orderly.leave (.stored operation) (by simp [CallerPhase.awaits, ack]) (by simp)
        keeps orderly.blocking _
    | some msgType =>
      have free : ∀ other, (state.callers other).awaits = none := by
        intro other
        by_contra awaits
        have excluded := (exclusive other (Option.isSome_iff_ne_none.mpr awaits)).1
        simp [ack] at excluded
      simp only [Operation.awaitedAck, ack]
      exact orderly.enter free ack

theorem Orderly.send {state : State} (orderly : Orderly state) {caller : Nat}
    {operation : Operation} (stored : state.callers caller = .stored operation) (ret : Int) :
    Orderly (Acks.sendPacket state caller operation ret) := by
  cases ack : operation.ackType with
  -- QoS 0: nothing was stored that another caller could miss
  | none =>
    by_cases failed : ret < 0
    · have same : state.ctx.setCondAwaitedAckLocked operation.awaitedAck .none = state.ctx := by
        simp only [Operation.awaitedAck, ack, ClientCtx.setCondAwaitedAckLocked]
        split
        next cleared => rw [cleared]
        next => rfl
      simp only [Acks.sendPacket, failed, if_true, same]
      exact orderly.leave .idle rfl (by simp) (fun _ _ _ => .refl _) orderly.blocking _
    · simp only [Acks.sendPacket, failed, if_false, ack]
      exact orderly.leave .idle rfl (by simp) (fun _ _ _ => .refl _) orderly.blocking _
  | some msgType =>
    by_cases failed : ret < 0
    · have alone : ∀ other, other ≠ caller → (state.callers other).awaits.isSome →
          Keeps state.ctx (state.ctx.setCondAwaitedAckLocked operation.awaitedAck .none) := by
        intro other apart awaits
        exact absurd (orderly.alone other caller awaits (by simp [stored, CallerPhase.awaits, ack]))
          apart
      have blocking : (state.ctx.setCondAwaitedAckLocked operation.awaitedAck
          .none).blockingSend = true := by
        simp [orderly.blocking]
      simp only [Acks.sendPacket, failed, if_true]
      exact orderly.leave .idle rfl (by simp) alone blocking _
    · simp only [Acks.sendPacket, failed, if_false, ack, orderly.blocking, if_true]
      exact orderly.sendPacket stored ack

theorem Orderly.preserved {state result : State} {event : Event} (orderly : Orderly state)
    (exclusive : Exclusive state event) (stepped : step state event = some result) :
    Orderly result := by
  cases event with
  | publish caller qos =>
    simp only [step, Option.ite_none_right_eq_some, Option.some.injEq] at stepped
    rw [← stepped.2]
    exact orderly.leave (.checked qos) rfl (by simp) (fun _ _ _ => .refl _) orderly.blocking _
  | subscribe caller =>
    simp only [step, Option.ite_none_right_eq_some, Option.some.injEq] at stepped
    rw [← stepped.2]
    exact orderly.leave .locked rfl (by simp) (fun _ _ _ => .refl _) orderly.blocking _
  | store caller =>
    cases phase : state.callers caller with
    | idle | stored | waiting => simp [step, phase] at stepped
    | locked =>
      simp only [step, phase, Option.some.injEq] at stepped
      simp only [Exclusive, phase] at exclusive
      rw [← stepped]
      exact orderly.store fun other awaits => by simp [exclusive other] at awaits
    | checked qos =>
      simp only [step, phase, Option.some.injEq] at stepped
      simp only [Exclusive, phase] at exclusive
      rw [← stepped]
      cases qos with
      | qos0 => exact orderly.store fun other awaits => ⟨rfl, exclusive other awaits⟩
      | qos1 | qos2 => exact orderly.store fun other awaits => by simp [exclusive other] at awaits
  | send caller ret =>
    cases phase : state.callers caller with
    | idle | checked | locked | waiting => simp [step, phase] at stepped
    | stored operation =>
      simp only [step, phase, Option.some.injEq] at stepped
      rw [← stepped]
      exact orderly.send phase ret
  | ack packet buf =>
    cases packetType : state.packets[packet]? with
    | none => simp [step, packetType] at stepped
    | some msgType =>
      simp only [step, packetType, Option.ite_none_left_eq_some, Option.some.injEq] at stepped
      rw [← stepped.2]
      exact orderly.ack buf packetType
  | stray msgType buf =>
    cases stepped
    exact orderly.receive ((processNotifyAckCB_cases orderly.blocking msgType buf).imp_left And.left)
  | disconnect =>
    cases stepped
    apply orderly.receive
    by_cases closed : state.ctx.awaitedAck = .disconnect
    · simp [ClientCtx.processDisconnCB, closed]
    · simp [ClientCtx.processDisconnCB, closed, orderly.blocking]
  | wake caller =>
    cases phase : state.callers caller with
    | idle | checked | locked | stored => simp [step, phase] at stepped
    | waiting operation packet =>
      simp only [step, phase, Option.ite_none_right_eq_some, Option.some.injEq] at stepped
      rw [← stepped.2]
      obtain ⟨msgType, ack, _⟩ := orderly.sent caller operation packet phase
      -- the post that is taken was nobody else's
      have alone : ∀ other, other ≠ caller → (state.callers other).awaits.isSome →
          Keeps state.ctx { state.ctx with ackSyncObj := state.ctx.ackSyncObj - 1 } := by
        intro other apart awaits
        exact absurd (orderly.alone other caller awaits (by simp [phase, CallerPhase.awaits, ack]))
          apart
      exact orderly.leave .idle rfl (by simp) alone orderly.blocking _

/-- No acknowledgement is lost in a run in which expectations do not overlap. -/
theorem acks_released {state : State} (reached : Reachable step Exclusive initial state) :
    Released state := by
  have orderly := reached.invariant Orderly .initial
    fun _ _ _ orderly exclusive stepped => orderly.preserved exclusive stepped
  intro caller operation packet waits done
  have posted := orderly.posted caller operation packet waits done
  simp [step, waits, posted]

/-- A QoS 0 publish stores its expectation between the SUBACK of a subscriber and its return. -/
theorem acks_released_concurrent : ∃ state,
    exec step initial [.publish 1 .qos0, .subscribe 0, .store 0, .send 0 0, .ack 0 [0], .store 1,
      .send 1 0] = some state ∧
    state.callers 0 = .waiting .subscribe 0 ∧ 0 ∈ state.processed ∧ (step state (.wake 0)).isSome := by
  have checked : Reachable step Exclusive initial _ :=
    .next .start (by trivial) (rfl : step initial (.publish 1 .qos0) = some _)
  have locked := checked.next (by trivial) (rfl : step _ (.subscribe 0) = some _)
  have free : Exclusive ({ (initial.set 1 (.checked .qos0)).set 0 .locked with moduleMutex := some 0 })
      (.store 0) := by
    intro other
    by_cases mine : other = 0
    · subst other
      rfl
    · by_cases publisher : other = 1
      · subst other
        rfl
      · simp [State.set, mine, publisher, initial, CallerPhase.awaits]
  have stored := locked.next free (rfl : step _ (.store 0) = some _)
  have sent := stored.next (by trivial) (rfl : step _ (.send 0 0) = some _)
  have acked := sent.next (by trivial) (rfl : step _ (.ack 0 [0]) = some _)
  -- the SUBACK has posted by then
  have beside := acked.next (by exact fun _ _ => Nat.zero_lt_one) (rfl : step _ (.store 1) = some _)
  have published := beside.next (by trivial) (rfl : step _ (.send 1 0) = some _)
  exact ⟨_, rfl, rfl, List.mem_singleton_self 0,
    acks_released published 0 _ 0 rfl (List.mem_singleton_self 0)⟩

/-- A QoS 0 publish that has passed its check stores 0 over the expectation of a subscriber: its
SUBACK is dropped, and it waits on with `moduleMutex` held. -/
theorem publish_drops_suback : ∃ state,
    exec step initial [.publish 1 .qos0, .subscribe 0, .store 0, .store 1, .send 1 0, .send 0 0,
      .ack 0 [0]] = some state ∧
    state.moduleMutex = some 0 ∧ state.processed = [0] ∧ ¬ Released state := by
  refine ⟨_, rfl, rfl, rfl, ?_⟩
  intro released
  have wakes := released 0 .subscribe 0 rfl (List.mem_singleton_self 0)
  cases wakes

end Acks

end PlhrFirmware.Client
