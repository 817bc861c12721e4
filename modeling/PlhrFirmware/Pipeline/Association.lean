import PlhrFirmware.Lib.Latest
import PlhrFirmware.Lib.Reachable
import PlhrFirmware.Pipeline.Wlan

/-! # Requests for an association

`wifi_connect` step by step, which `mainThread` calls once and `test_wifi` whenever it has found no
connection, with the event handlers of `wifi_user.c` between the steps.  The log has what the
handlers and the thread have done: above all the calls of `sl_WlanConnect`, and the ends of the wait
of `Network_IF_ConnectAP`.
-/

namespace PlhrFirmware.Pipeline.Association

open PlhrFirmware.Lib Wlan

/-! ## State -/

inductive Caller where
  | mainThread
  | testWifi
  deriving DecidableEq, Repr

/-- Where the thread is, from the poll of `test_wifi` on; `associating` and `acquiring` are the two
readings of the status in the wait of `Network_IF_ConnectAP`. -/
inductive Phase where
  | sleeping
  | switching (wifiStatus : Int)
  | disconnecting (caller : Caller)
  | leaving (caller : Caller)
  | clearingConnection (caller : Caller)
  | clearingIp (caller : Caller)
  | connecting (caller : Caller)
  | associating (caller : Caller)
  | acquiring (caller : Caller)
  | finishing (caller : Caller)
  | testing
  deriving DecidableEq, Repr

inductive Action where
  | wlan (event : WlanEvent)
  | netApp (event : NetAppEvent)
  | sent (sendDataStatus : SendDataStatus)
  | cleared (bit : StatusBit)
  | requested (accepted : Bool)
  | associated
  deriving DecidableEq, Repr

structure State where
  gUlStatus : UInt32
  sendDataStatus : SendDataStatus
  phase : Phase
  log : List Action
  deriving DecidableEq, Repr

/-- `result` is what the call of the network processor returns that the step makes. -/
inductive Event where
  | thread (result : Int)
  | wlan (event : WlanEvent)
  | netApp (event : NetAppEvent)

/-! ## Steps -/

def State.send (state : State) (sendDataStatus : SendDataStatus) (phase : Phase) : State :=
  { state with
    sendDataStatus := sendDataStatus
    phase := phase
    log := state.log ++ [.sent sendDataStatus] }

def State.clear (state : State) (bit : StatusBit) (phase : Phase) : State :=
  { state with
    gUlStatus := clrStatusBit state.gUlStatus bit
    phase := phase
    log := state.log ++ [.cleared bit] }

/-- A step of the thread; each assignment to `g_ulStatus` is one step. -/
def thread (result : Int) (state : State) : State :=
  match state.phase with
  | .sleeping => { state with phase := .switching (Wlan.testWifiConnection state.gUlStatus) }
  | .switching wifiStatus =>
    if wifiStatus = connected then state.send .start .sleeping
    else if wifiStatus = disconnected then state.send .stop (.disconnecting .testWifi)
    else { state with phase := .sleeping }
  | .disconnecting caller =>
    -- `sl_WlanDisconnect`, only when there is a connection; the wait only when it returns 0
    if Wlan.IsConnected state.gUlStatus ∧ result = 0 then { state with phase := .leaving caller }
    else { state with phase := .clearingConnection caller }
  | .leaving caller =>
    if Wlan.IsConnected state.gUlStatus then state
    else { state with phase := .clearingConnection caller }
  | .clearingConnection caller => state.clear .connection (.clearingIp caller)
  | .clearingIp caller => state.clear .ipAcquired (.connecting caller)
  | .connecting caller =>
    -- `sl_WlanConnect`; `ASSERT_ON_ERROR` returns from `Network_IF_ConnectAP`
    { state with
      phase := if result < 0 then .finishing caller else .associating caller
      log := state.log ++ [.requested (0 ≤ result)] }
  | .associating caller =>
    if Wlan.IsConnected state.gUlStatus then { state with phase := .acquiring caller } else state
  | .acquiring caller =>
    if IsIpAcquired state.gUlStatus then
      { state with phase := .finishing caller, log := state.log ++ [.associated] }
    else { state with phase := .associating caller }
  | .finishing caller =>
    -- the results of the other calls of `wifi_connect` are only printed
    match caller with
    | .mainThread => { state with phase := .sleeping }
    | .testWifi => { state with phase := .testing }
  | .testing =>
    if Wlan.testWifiConnection state.gUlStatus = disconnected then
      { state with phase := .disconnecting .testWifi }
    else { state with phase := .sleeping }

def step (state : State) : Event → Option State
  | .thread result => some (thread result state)
  | .wlan event => some { state with
      gUlStatus := simpleLinkWlanEventHandler event state.gUlStatus
      log := state.log ++ [.wlan event] }
  | .netApp event => some { state with
      gUlStatus := simpleLinkNetAppEventHandler event state.gUlStatus
      log := state.log ++ [.netApp event] }

/-- `mainThread` calls `wifi_connect`, after `InitializeAppVariables`. -/
def initial : State := ⟨0, .stop, .disconnecting .mainThread, []⟩

/-! ## What the status says -/

def connectionAnswer : Action → Option Bool
  | .wlan .connect => some true
  | .wlan .staAdded => some true
  | .wlan .disconnect => some false
  | .wlan .staRemoved => some false
  | .cleared .connection => some false
  | _ => none

def addressAnswer : Action → Option Bool
  | .netApp .ipv4Acquired => some true
  | .netApp .ipv6Acquired => some true
  | .wlan .disconnect => some false
  | .cleared .ipAcquired => some false
  | _ => none

/-- The latest answer is that there is one. -/
def Found (answer : Action → Option Bool) (log : List Action) : Prop := lastAnswer answer log = some true

instance (answer : Action → Option Bool) (log : List Action) : Decidable (Found answer log) :=
  inferInstanceAs (Decidable (_ = _))

/-- The bits are the latest answers. -/
structure Current (gUlStatus : UInt32) (log : List Action) : Prop where
  connection : Wlan.IsConnected gUlStatus ↔ Found connectionAnswer log
  address : IsIpAcquired gUlStatus ↔ Found addressAnswer log

/-! ## Inversion of a step -/

/-- A step of the thread that leaves no action. -/
inductive Moves (gUlStatus : UInt32) : Phase → Phase → Prop where
  | poll : Moves gUlStatus .sleeping (.switching (Wlan.testWifiConnection gUlStatus))
  | neither (wifiStatus : Int) : Moves gUlStatus (.switching wifiStatus) .sleeping
  | leave (caller : Caller) : Moves gUlStatus (.disconnecting caller) (.leaving caller)
  | stay (caller : Caller) : Moves gUlStatus (.disconnecting caller) (.clearingConnection caller)
  | wait (caller : Caller) : Moves gUlStatus (.leaving caller) (.leaving caller)
  | left (caller : Caller) : Moves gUlStatus (.leaving caller) (.clearingConnection caller)
  | unconnected (caller : Caller) : Moves gUlStatus (.associating caller) (.associating caller)
  | connected (caller : Caller) (connection : Wlan.IsConnected gUlStatus) :
      Moves gUlStatus (.associating caller) (.acquiring caller)
  | unaddressed (caller : Caller) : Moves gUlStatus (.acquiring caller) (.associating caller)
  | returned : Moves gUlStatus (.finishing .mainThread) .sleeping
  | reconnected : Moves gUlStatus (.finishing .testWifi) .testing
  | again : Moves gUlStatus .testing (.disconnecting .testWifi)
  | done : Moves gUlStatus .testing .sleeping

/-- A step of the thread that leaves an action. -/
inductive Acts (gUlStatus : UInt32) : Phase → Action → UInt32 → Phase → Prop where
  | start (wifiStatus : Int) : Acts gUlStatus (.switching wifiStatus) (.sent .start) gUlStatus .sleeping
  | stop (wifiStatus : Int) :
      Acts gUlStatus (.switching wifiStatus) (.sent .stop) gUlStatus (.disconnecting .testWifi)
  | clearConnection (caller : Caller) : Acts gUlStatus (.clearingConnection caller) (.cleared .connection)
      (clrStatusBit gUlStatus .connection) (.clearingIp caller)
  | clearIp (caller : Caller) : Acts gUlStatus (.clearingIp caller) (.cleared .ipAcquired)
      (clrStatusBit gUlStatus .ipAcquired) (.connecting caller)
  | refuse (caller : Caller) :
      Acts gUlStatus (.connecting caller) (.requested false) gUlStatus (.finishing caller)
  | accept (caller : Caller) :
      Acts gUlStatus (.connecting caller) (.requested true) gUlStatus (.associating caller)
  | associate (caller : Caller) (address : IsIpAcquired gUlStatus) :
      Acts gUlStatus (.acquiring caller) .associated gUlStatus (.finishing caller)

/-- The handlers do it, not the thread. -/
def Unsolicited : Action → Prop
  | .wlan _ | .netApp _ => True
  | _ => False

section Inversion

variable {answer : Action → Option Bool} {log : List Action} {action : Action} {gUlStatus : UInt32}
  {state next : State} {event : Event}

theorem thread_cases (result : Int) (state : State) :
    (∃ phase, Moves state.gUlStatus state.phase phase ∧ thread result state = { state with phase := phase }) ∨
      ∃ action gUlStatus phase, Acts state.gUlStatus state.phase action gUlStatus phase ∧
        (thread result state).gUlStatus = gUlStatus ∧ (thread result state).phase = phase ∧
          (thread result state).log = state.log ++ [action] := by
  obtain ⟨gUlStatus, sendDataStatus, phase, log⟩ := state
  cases phase with
  | sleeping => exact .inl ⟨_, .poll, rfl⟩
  | switching wifiStatus =>
    by_cases isConnected : wifiStatus = connected
    · refine .inr ⟨_, _, _, .start wifiStatus, ?_⟩
      simp [thread, isConnected, State.send]
    · by_cases isDisconnected : wifiStatus = disconnected
      · refine .inr ⟨_, _, _, .stop wifiStatus, ?_⟩
        simp [thread, isDisconnected, State.send]
      · refine .inl ⟨_, .neither wifiStatus, ?_⟩
        simp [thread, isConnected, isDisconnected]
  | disconnecting caller =>
    unfold thread
    dsimp only
    split
    · exact .inl ⟨_, .leave caller, rfl⟩
    · exact .inl ⟨_, .stay caller, rfl⟩
  | leaving caller =>
    unfold thread
    dsimp only
    split
    · exact .inl ⟨_, .wait caller, rfl⟩
    · exact .inl ⟨_, .left caller, rfl⟩
  | clearingConnection caller => exact .inr ⟨_, _, _, .clearConnection caller, rfl, rfl, rfl⟩
  | clearingIp caller => exact .inr ⟨_, _, _, .clearIp caller, rfl, rfl, rfl⟩
  | connecting caller =>
    by_cases failed : result < 0
    · refine .inr ⟨_, _, _, .refuse caller, ?_⟩
      simp [thread, failed]
    · refine .inr ⟨_, _, _, .accept caller, ?_⟩
      simp [thread, failed, not_lt.mp failed]
  | associating caller =>
    unfold thread
    dsimp only
    split
    · next connection => exact .inl ⟨_, .connected caller connection, rfl⟩
    · exact .inl ⟨_, .unconnected caller, rfl⟩
  | acquiring caller =>
    unfold thread
    dsimp only
    split
    · next address => exact .inr ⟨_, _, _, .associate caller address, rfl, rfl, rfl⟩
    · exact .inl ⟨_, .unaddressed caller, rfl⟩
  | finishing caller =>
    cases caller with
    | mainThread => exact .inl ⟨_, .returned, rfl⟩
    | testWifi => exact .inl ⟨_, .reconnected, rfl⟩
  | testing =>
    unfold thread
    dsimp only
    split
    · exact .inl ⟨_, .again, rfl⟩
    · exact .inl ⟨_, .done, rfl⟩

/-- A step of the thread that leaves nothing, one that leaves an action, or an event. -/
theorem step_cases (stepped : step state event = some next) :
    (∃ phase, Moves state.gUlStatus state.phase phase ∧ next = { state with phase := phase }) ∨
      ∃ action, next.log = state.log ++ [action] ∧
        ((∃ gUlStatus, Acts state.gUlStatus state.phase action gUlStatus next.phase) ∨
          Unsolicited action ∧ next.phase = state.phase) := by
  cases event with
  | thread result =>
    cases stepped
    obtain moves | ⟨action, gUlStatus, phase, acts, _, moved, log⟩ := thread_cases result state
    · exact .inl moves
    · exact .inr ⟨action, log, .inl ⟨gUlStatus, moved ▸ acts⟩⟩
  | wlan event =>
    cases stepped
    exact .inr ⟨.wlan event, rfl, .inr ⟨trivial, rfl⟩⟩
  | netApp event =>
    cases stepped
    exact .inr ⟨.netApp event, rfl, .inr ⟨trivial, rfl⟩⟩

theorem found_append : Found answer (log ++ [action]) ↔
    answer action = some true ∨ answer action = none ∧ Found answer log := by
  rw [Found, lastAnswer_append, lastAnswer_singleton, Found]
  cases answer action with
  | none => simp
  | some found => simp

theorem Current.acts {before after : Phase} {result : UInt32} (current : Current gUlStatus log)
    (acts : Acts gUlStatus before action result after) : Current result (log ++ [action]) := by
  constructor
  · cases acts <;> simp [found_append, connectionAnswer, Wlan.IsConnected, ← current.connection]
  · cases acts <;> simp [found_append, addressAnswer, IsIpAcquired, ← current.address]

theorem Current.step (current : Current state.gUlStatus state.log)
    (stepped : step state event = some next) : Current next.gUlStatus next.log := by
  cases event with
  | thread result =>
    cases stepped
    obtain ⟨phase, _, moved⟩ | ⟨action, gUlStatus, phase, acts, status, _, log⟩ := thread_cases result state
    · rw [moved]
      exact current
    · rw [status, log]
      exact current.acts acts
  | wlan event =>
    cases stepped
    constructor
    · rw [simpleLinkWlanEventHandler_connected]
      cases event <;> simp [found_append, connectionAnswer, ← current.connection]
    · cases event <;>
        simp [found_append, addressAnswer, simpleLinkWlanEventHandler, ← current.address, IsIpAcquired]
  | netApp event =>
    cases stepped
    constructor
    · rw [simpleLinkNetAppEventHandler_connected]
      simp [found_append, connectionAnswer, ← current.connection]
    · cases event <;>
        simp [found_append, addressAnswer, simpleLinkNetAppEventHandler, ← current.address, IsIpAcquired]

end Inversion

/-! ## Accepted requests -/

/-- Between an accepted request and the end of the wait there are only events; the connection was
found first and then the address. -/
def Answered (before after : List Action) : Prop :=
  ∃ early late rest, after = early ++ late ++ .associated :: rest ∧
    (∀ action ∈ early ++ late, Unsolicited action) ∧
      Found connectionAnswer (before ++ .requested true :: early) ∧
        Found addressAnswer (before ++ .requested true :: (early ++ late))

/-- The thread has done nothing but to wait. -/
structure Waiting (before after : List Action) (phase : Phase) : Prop where
  unsolicited : ∀ action ∈ after, Unsolicited action
  waits : ∃ caller, phase = .associating caller ∨ phase = .acquiring caller ∧
    ∃ early late, after = early ++ late ∧ Found connectionAnswer (before ++ .requested true :: early)

def Outcome (state : State) : Prop :=
  ∀ before after, state.log = before ++ .requested true :: after →
    Answered before after ∨ Waiting before after state.phase

section Requests

variable {before after : List Action} {action : Action} {gUlStatus : UInt32} {phase : Phase}
  {state next : State} {event : Event}

theorem Answered.append (answered : Answered before after) : Answered before (after ++ [action]) := by
  obtain ⟨early, late, rest, rfl, unsolicited, connection, address⟩ := answered
  refine ⟨early, late, rest ++ [action], ?_, unsolicited, connection, address⟩
  rw [List.append_assoc, List.cons_append]

theorem Waiting.append (waiting : Waiting before after phase) (event : Unsolicited action) :
    Waiting before (after ++ [action]) phase := by
  constructor
  · intro other member
    obtain old | new := List.mem_append.mp member
    · exact waiting.unsolicited other old
    · cases List.mem_singleton.mp new
      exact event
  · obtain ⟨caller, associating | ⟨acquiring, early, late, rfl, connection⟩⟩ := waiting.waits
    · exact ⟨caller, .inl associating⟩
    · exact ⟨caller, .inr ⟨acquiring, early, late ++ [action], List.append_assoc .., connection⟩⟩

/-- The thread reads the status in the wait. -/
theorem Waiting.moves (waiting : Waiting before after state.phase)
    (current : Current state.gUlStatus (before ++ .requested true :: after))
    (moves : Moves state.gUlStatus state.phase phase) : Waiting before after phase := by
  refine ⟨waiting.unsolicited, ?_⟩
  obtain ⟨caller, associating | ⟨acquiring, _⟩⟩ := waiting.waits
  · rw [associating] at moves
    cases moves with
    | unconnected => exact ⟨caller, .inl rfl⟩
    | connected _ connection =>
      have found := current.connection.mp connection
      exact ⟨caller, .inr ⟨rfl, after, [], (List.append_nil after).symm, found⟩⟩
  · rw [acquiring] at moves
    cases moves
    exact ⟨caller, .inl rfl⟩

/-- The only thing that the thread does in the wait is to end it. -/
theorem Waiting.acts {result : UInt32} (waiting : Waiting before after state.phase)
    (current : Current state.gUlStatus (before ++ .requested true :: after))
    (acts : Acts state.gUlStatus state.phase action result phase) :
    Answered before (after ++ [action]) := by
  obtain ⟨caller, associating | ⟨acquiring, early, late, rfl, connection⟩⟩ := waiting.waits
  · rw [associating] at acts
    cases acts
  · rw [acquiring] at acts
    cases acts with
    | associate _ address =>
      exact ⟨early, late, [], rfl, waiting.unsolicited, connection, current.address.mp address⟩

theorem Acts.accepted {result : UInt32} {source : Phase}
    (acts : Acts gUlStatus source (.requested true) result phase) :
    ∃ caller, phase = .associating caller := by
  cases acts with
  | accept caller => exact ⟨caller, rfl⟩

theorem Outcome.step (outcome : Outcome state) (current : Current state.gUlStatus state.log)
    (stepped : step state event = some next) : Outcome next := by
  intro before after logged
  obtain ⟨phase, moves, rfl⟩ | ⟨action, log, acts⟩ := step_cases stepped
  · obtain answered | waiting := outcome before after logged
    · exact .inl answered
    · exact .inr (waiting.moves (logged ▸ current) moves)
  · rw [log] at logged
    obtain ⟨rfl, rfl, rfl⟩ | ⟨rest, rfl, old⟩ := append_singleton_split logged
    · -- the request is the new action
      obtain ⟨gUlStatus, acts⟩ | ⟨event, _⟩ := acts
      · obtain ⟨caller, associating⟩ := acts.accepted
        exact .inr ⟨by simp, caller, .inl associating⟩
      · exact event.elim
    · obtain answered | waiting := outcome before rest old
      · exact .inl answered.append
      · obtain ⟨gUlStatus, acts⟩ | ⟨event, same⟩ := acts
        · exact .inl (waiting.acts (old ▸ current) acts)
        · rw [same]
          exact .inr (waiting.append event)

/-- After an accepted request the thread finds the device connected and with an address, in this
order and with only events between, or it does nothing but to wait for this. -/
theorem request_outcome (reached : Reachable Association.step always initial state)
    (logged : state.log = before ++ .requested true :: after) :
    Answered before after ∨ Waiting before after state.phase := by
  have both : Current state.gUlStatus state.log ∧ Outcome state := by
    refine reached.invariant (fun state => Current state.gUlStatus state.log ∧ Outcome state) ⟨?_, ?_⟩ ?_
    · exact ⟨by decide, by decide⟩
    · intro before after logged
      exact absurd logged.symm (by simp [initial])
    · intro state event next both _ stepped
      exact ⟨both.1.step stepped, both.2.step both.1 stepped⟩
  exact both.2 before after logged

/-- The first association, by `mainThread`, with the address after the connection. -/
def firstAssociation : List Event :=
  [.thread 0, .thread 0, .thread 0, .thread 0, .wlan .connect, .thread 0, .netApp .ipv4Acquired, .thread 0]

theorem request_outcome_first : ∃ state, exec Association.step initial firstAssociation = some state ∧
    Answered [.cleared .connection, .cleared .ipAcquired]
      [.wlan .connect, .netApp .ipv4Acquired, .associated] := by
  have ran : exec Association.step initial firstAssociation =
      some ⟨10, .stop, .finishing .mainThread, [.cleared .connection, .cleared .ipAcquired] ++
        .requested true :: [.wlan .connect, .netApp .ipv4Acquired, .associated]⟩ := by decide +kernel
  have reached := Reachable.of_exec firstAssociation (Along.always _) ran
  obtain answered | waiting := request_outcome reached rfl
  · exact ⟨_, ran, answered⟩
  · exact (waiting.unsolicited .associated (by simp)).elim

end Requests

/-! ## Sending resumed -/

/-- The thread is on its way from a poll without a connection to the request. -/
def Approaching : Phase → Prop
  | .disconnecting _ | .leaving _ | .clearingConnection _ | .clearingIp _ | .connecting _ => True
  | _ => False

/-- Since the gate was closed there was a request, or it comes before the gate is opened. -/
def Closed (state : State) : Prop :=
  ∀ before after, state.log = before ++ .sent .stop :: after →
    (∃ first accepted rest, after = first ++ .requested accepted :: rest ∧ .sent .start ∉ first) ∨
      Approaching state.phase ∧ .sent .start ∉ after

section Gate

variable {before middle after : List Action} {action : Action} {gUlStatus : UInt32} {phase : Phase}
  {state next : State} {event : Event}

theorem Moves.approaching {source : Phase} (moves : Moves gUlStatus source phase)
    (approaching : Approaching source) : Approaching phase := by
  cases moves with
  | leave | stay | wait | left => trivial
  | poll | neither | unconnected | connected | unaddressed | returned | reconnected | again | done =>
    exact approaching.elim

/-- What the thread does on its way to the request. -/
theorem Acts.approaching {source : Phase} {result : UInt32} (acts : Acts gUlStatus source action result phase)
    (approaching : Approaching source) :
    (∃ accepted, action = .requested accepted) ∨ Approaching phase ∧ action ≠ .sent .start := by
  cases acts with
  | start | stop | associate => exact approaching.elim
  | clearConnection | clearIp => exact .inr ⟨trivial, by simp⟩
  | refuse => exact .inl ⟨false, rfl⟩
  | accept => exact .inl ⟨true, rfl⟩

theorem Acts.closed {source : Phase} {result : UInt32}
    (acts : Acts gUlStatus source (.sent .stop) result phase) : Approaching phase := by
  cases acts
  trivial

/-- Events do not open the gate. -/
theorem Unsolicited.ne_start (event : Unsolicited action) : action ≠ .sent .start := by
  intro same
  rw [same] at event
  exact event

theorem Closed.step (closed : Closed state) (stepped : step state event = some next) : Closed next := by
  intro before after logged
  obtain ⟨phase, moves, rfl⟩ | ⟨action, log, acts⟩ := step_cases stepped
  · obtain requested | ⟨approaching, shut⟩ := closed before after logged
    · exact .inl requested
    · exact .inr ⟨moves.approaching approaching, shut⟩
  · rw [log] at logged
    obtain ⟨rfl, rfl, rfl⟩ | ⟨rest, rfl, old⟩ := append_singleton_split logged
    · -- the gate is closed by the new action
      obtain ⟨gUlStatus, acts⟩ | ⟨event, _⟩ := acts
      · exact .inr ⟨acts.closed, by simp⟩
      · exact event.elim
    · obtain ⟨first, accepted, later, rfl, shut⟩ | ⟨approaching, shut⟩ := closed before rest old
      · refine .inl ⟨first, accepted, later ++ [action], ?_, shut⟩
        rw [List.append_assoc, List.cons_append]
      · have unopened : action ≠ .sent .start → Action.sent .start ∉ rest ++ [action] := by
          intro other member
          obtain old | new := List.mem_append.mp member
          · exact shut old
          · exact other (List.mem_singleton.mp new).symm
        obtain ⟨gUlStatus, acts⟩ | ⟨event, same⟩ := acts
        · obtain ⟨accepted, rfl⟩ | ⟨still, other⟩ := acts.approaching approaching
          · exact .inl ⟨rest, accepted, [], rfl, shut⟩
          · exact .inr ⟨still, unopened other⟩
        · rw [same]
          exact .inr ⟨approaching, unopened event.ne_start⟩

/-- Before the gate is opened again there was a request, and each that was accepted has found the
device connected and with an address before. -/
theorem sending_resumed (reached : Reachable Association.step always initial state)
    (logged : state.log = before ++ .sent .stop :: (middle ++ .sent .start :: after)) :
    (∃ accepted, .requested accepted ∈ middle) ∧
      ∀ earlier later, middle = earlier ++ .requested true :: later →
        Answered (before ++ .sent .stop :: earlier) later := by
  have closed : Closed state := by
    refine reached.invariant Closed ?_ fun _ _ _ closed _ stepped => closed.step stepped
    intro before after logged
    exact absurd logged.symm (by simp [initial])
  constructor
  · obtain ⟨first, accepted, rest, same, shut⟩ | ⟨_, shut⟩ := closed _ _ logged
    · obtain ⟨more, rfl⟩ := exists_split_of_notMem same.symm (by simp) shut
      exact ⟨accepted, List.mem_append_right first (.head more)⟩
    · exact absurd (List.mem_append_right middle (.head after)) shut
  · intro earlier later split
    have whole : state.log =
        (before ++ .sent .stop :: earlier) ++ .requested true :: (later ++ .sent .start :: after) := by
      rw [logged, split]
      simp
    obtain ⟨early, late, rest, same, unsolicited, found⟩ | waiting := request_outcome reached whole
    · have shut : Action.sent .start ∉ early ++ late := fun member => unsolicited _ member
      obtain ⟨more, rfl⟩ := exists_split_of_notMem same.symm (by simp) shut
      exact ⟨early, late, more, rfl, unsolicited, found⟩
    · exact (waiting.unsolicited _ (List.mem_append_right later (.head after))).elim

/-- The connection is lost and comes back after a second reading of the status. -/
def reconnection : List Event :=
  [.thread 0, .wlan .disconnect, .thread 0, .thread 0, .thread 0, .thread 0, .thread 0, .thread 0,
    .wlan .connect, .thread 0, .thread 0, .netApp .ipv4Acquired, .thread 0, .thread 0, .thread 0, .thread 0,
    .thread 0, .thread 0]

/-- What an association leaves in the log. -/
def associationLog : List Action :=
  [.cleared .connection, .cleared .ipAcquired, .requested true, .wlan .connect, .netApp .ipv4Acquired,
    .associated]

theorem sending_resumed_once : ∃ state,
    exec Association.step initial (firstAssociation ++ reconnection) = some state ∧
      state.log = (associationLog ++ [.wlan .disconnect]) ++ .sent .stop :: (associationLog ++ [.sent .start]) ∧
        (∃ accepted, .requested accepted ∈ associationLog) := by
  have ran : exec Association.step initial (firstAssociation ++ reconnection) =
      some ⟨10, .start, .sleeping,
        (associationLog ++ [.wlan .disconnect]) ++ .sent .stop :: (associationLog ++ [.sent .start])⟩ := by
    decide +kernel
  have reached := Reachable.of_exec (firstAssociation ++ reconnection) (Along.always _) ran
  exact ⟨_, ran, rfl, (sending_resumed reached rfl).1⟩

end Gate

end PlhrFirmware.Pipeline.Association
