import PlhrFirmware.Pipeline.System

/-! # The status of the WLAN and the two threads that read it

`softtimer` and `test_wifi` step by step: each polls `g_ulStatus` with `test_wifi_connection` and
acts on the value in a later step, and the event handlers of `wifi_user.c` may change the status in
between.  For every iteration of `softtimer` and every opening of the gate the state records the
status that had been polled.
-/

namespace PlhrFirmware.Pipeline.Wlan

open PlhrFirmware.Lib

/-! ## The status -/

/-- The bits of `e_StatusBits` that the handlers change. -/
inductive StatusBit where
  | connection
  | ipLeased
  | ipAcquired
  deriving DecidableEq, Repr

def StatusBit.mask : StatusBit → UInt32
  | .connection => (1 : UInt32) <<< 1
  | .ipLeased => (1 : UInt32) <<< 2
  | .ipAcquired => (1 : UInt32) <<< 3

def setStatusBit (status : UInt32) (bit : StatusBit) : UInt32 := status ||| bit.mask

def clrStatusBit (status : UInt32) (bit : StatusBit) : UInt32 := status &&& ~~~bit.mask

def GetStatusBit (status : UInt32) (bit : StatusBit) : Prop := 0 ≠ status &&& bit.mask

instance (status : UInt32) : DecidablePred (GetStatusBit status) :=
  fun _ => inferInstanceAs (Decidable (_ ≠ _))

abbrev IsConnected (status : UInt32) : Prop := GetStatusBit status .connection

abbrev IsIpAcquired (status : UInt32) : Prop := GetStatusBit status .ipAcquired

inductive WlanEvent where
  | connect
  | disconnect
  | staAdded
  | staRemoved
  | unexpected
  deriving DecidableEq, Repr

def simpleLinkWlanEventHandler : WlanEvent → UInt32 → UInt32
  | .connect, gUlStatus => setStatusBit gUlStatus .connection
  | .disconnect, gUlStatus => clrStatusBit (clrStatusBit gUlStatus .connection) .ipAcquired
  | .staAdded, gUlStatus => setStatusBit gUlStatus .connection
  | .staRemoved, gUlStatus => clrStatusBit (clrStatusBit gUlStatus .connection) .ipLeased
  | .unexpected, gUlStatus => gUlStatus

inductive NetAppEvent where
  | ipv4Acquired
  | ipv6Acquired
  | dhcpv4Leased
  | dhcpv4Released
  | unexpected
  deriving DecidableEq, Repr

def simpleLinkNetAppEventHandler : NetAppEvent → UInt32 → UInt32
  | .ipv4Acquired, gUlStatus => setStatusBit gUlStatus .ipAcquired
  | .ipv6Acquired, gUlStatus => setStatusBit gUlStatus .ipAcquired
  | .dhcpv4Leased, gUlStatus => setStatusBit gUlStatus .ipLeased
  | .dhcpv4Released, gUlStatus => clrStatusBit gUlStatus .ipLeased
  | .unexpected, gUlStatus => gUlStatus

def testWifiConnection (gUlStatus : UInt32) : Int := if IsConnected gUlStatus then 1 else 0

/-- The enumeration that `test_wifi` reads the value with. -/
abbrev disconnected : Int := 0

abbrev connected : Int := 1

section Handlers

variable (gUlStatus : UInt32)

@[simp] theorem getStatusBit_set (bit other : StatusBit) :
    GetStatusBit (setStatusBit gUlStatus bit) other ↔ other = bit ∨ GetStatusBit gUlStatus other := by
  have distributed : (gUlStatus ||| bit.mask) &&& other.mask =
      (gUlStatus &&& other.mask) ||| (bit.mask &&& other.mask) := by
    rw [← UInt32.toBitVec_inj]
    exact BitVec.and_or_distrib_right
  rw [GetStatusBit, GetStatusBit, setStatusBit, distributed]
  by_cases same : other = bit
  · subst same
    have nonzero : other.mask ≠ 0 := by cases other <;> decide
    rw [ne_comm]
    simp [nonzero]
  · have apart : bit.mask &&& other.mask = 0 := by
      cases bit <;> cases other <;> first | rfl | exact absurd rfl same
    simp [apart, same]

@[simp] theorem getStatusBit_clr (bit other : StatusBit) :
    GetStatusBit (clrStatusBit gUlStatus bit) other ↔ other ≠ bit ∧ GetStatusBit gUlStatus other := by
  rw [GetStatusBit, GetStatusBit, clrStatusBit, UInt32.and_assoc]
  by_cases same : other = bit
  · subst same
    simp
  · have apart : ~~~bit.mask &&& other.mask = other.mask := by
      cases bit <;> cases other <;> first | rfl | exact absurd rfl same
    simp [apart, same]

/-- What the handlers do to the connection. -/
theorem simpleLinkWlanEventHandler_connected (event : WlanEvent) :
    IsConnected (simpleLinkWlanEventHandler event gUlStatus) ↔
      event = .connect ∨ event = .staAdded ∨ event = .unexpected ∧ IsConnected gUlStatus := by
  cases event <;> simp [simpleLinkWlanEventHandler, IsConnected]

theorem simpleLinkNetAppEventHandler_connected (event : NetAppEvent) :
    IsConnected (simpleLinkNetAppEventHandler event gUlStatus) ↔ IsConnected gUlStatus := by
  cases event <;> simp [simpleLinkNetAppEventHandler, IsConnected]

end Handlers

/-! ## State -/

inductive SofttimerPhase where
  | pend
  | test
  | rssi
  | sync
  deriving DecidableEq, Repr

/-- `polled` is the status behind `wifi_connection_status`. -/
structure Softtimer where
  phase : SofttimerPhase
  cntSofttimerThread : Int64
  wifiConnectionStatus : Int
  polled : UInt32
  deriving DecidableEq, Repr

inductive TestWifiPhase where
  | poll
  | switch
  | disconnect
  | connect
  | again
  deriving DecidableEq, Repr

/-- `polled` is the status behind `wifi_status`. -/
structure TestWifi where
  phase : TestWifiPhase
  wifiStatus : Int
  polled : UInt32
  deriving DecidableEq, Repr

/-- An iteration of `softtimer`: the status that it polled, if it did, and whether it called
`send_rssi`. -/
structure Iteration where
  cntSofttimerThread : Int64
  polled : Option UInt32
  sentRssi : Bool
  deriving DecidableEq, Repr

/-- `opened` are the statuses that were polled before the gate was opened. -/
structure State where
  gUlStatus : UInt32
  softtimerThreadSemaphore : Nat
  sendDataStatus : SendDataStatus
  softtimer : Softtimer
  testWifi : TestWifi
  iterations : List Iteration
  opened : List UInt32
  deriving DecidableEq, Repr

/-- A post of the timer, a step of a thread, or an event of the network processor; `failed` is
whether the call of the network processor that the step waits for fails. -/
inductive Event where
  | post
  | softtimer
  | testWifi (failed : Bool)
  | wlan (event : WlanEvent)
  | netApp (event : NetAppEvent)

/-! ## Steps -/

def softtimer (state : State) : Option State :=
  match state.softtimer.phase with
  | .pend =>
    if 0 < state.softtimerThreadSemaphore then
      some { state with
        softtimerThreadSemaphore := state.softtimerThreadSemaphore - 1
        softtimer := { state.softtimer with phase := .test } }
    else none
  | .test =>
    if state.softtimer.cntSofttimerThread % secondsToSendRssi = 0 then
      some { state with softtimer := { state.softtimer with
        phase := .rssi
        wifiConnectionStatus := testWifiConnection state.gUlStatus
        polled := state.gUlStatus } }
    else
      some { state with
        softtimer := { state.softtimer with phase := .sync }
        iterations := state.iterations ++ [⟨state.softtimer.cntSofttimerThread, none, false⟩] }
  | .rssi =>
    -- the literal is `disconnected` in `test_wifi`
    let sentRssi : Bool := state.softtimer.wifiConnectionStatus = 0
    some { state with
      softtimer := { state.softtimer with phase := .sync }
      iterations := state.iterations ++
        [⟨state.softtimer.cntSofttimerThread, some state.softtimer.polled, sentRssi⟩] }
  | .sync =>
    some { state with softtimer := { state.softtimer with
      phase := .pend
      cntSofttimerThread := state.softtimer.cntSofttimerThread + 1 } }

/-- `wifi_connect`, which `test_wifi` repeats until there is a connection, waits in
`Network_IF_DisconnectFromAP` for the old connection to end and then for the new one and an IP. -/
def testWifi (failed : Bool) (state : State) : State :=
  match state.testWifi.phase with
  | .poll =>
    { state with testWifi :=
        ⟨.switch, testWifiConnection state.gUlStatus, state.gUlStatus⟩ }
  | .switch =>
    if state.testWifi.wifiStatus = connected then
      { state with
        sendDataStatus := .start
        testWifi := { state.testWifi with phase := .poll }
        opened := state.opened ++ [state.testWifi.polled] }
    else if state.testWifi.wifiStatus = disconnected then
      { state with
        sendDataStatus := .stop
        testWifi := { state.testWifi with phase := .disconnect } }
    else { state with testWifi := { state.testWifi with phase := .poll } }
  | .disconnect =>
    if IsConnected state.gUlStatus ∧ failed = false then state
    else
      { state with
        gUlStatus := clrStatusBit (clrStatusBit state.gUlStatus .connection) .ipAcquired
        testWifi := { state.testWifi with phase := .connect } }
  | .connect =>
    if failed ∨ IsConnected state.gUlStatus ∧ IsIpAcquired state.gUlStatus then
      { state with testWifi := { state.testWifi with phase := .again } }
    else state
  | .again =>
    let wifiStatus := testWifiConnection state.gUlStatus
    { state with testWifi :=
        ⟨if wifiStatus = disconnected then .disconnect else .poll, wifiStatus, state.gUlStatus⟩ }

def step (state : State) : Event → Option State
  | .post => some { state with softtimerThreadSemaphore := state.softtimerThreadSemaphore + 1 }
  | .softtimer => softtimer state
  | .testWifi failed => some (testWifi failed state)
  | .wlan event => some { state with gUlStatus := simpleLinkWlanEventHandler event state.gUlStatus }
  | .netApp event =>
    some { state with gUlStatus := simpleLinkNetAppEventHandler event state.gUlStatus }

/-- The state in which the threads are started, with the status that it has then. -/
def initial (gUlStatus : UInt32) : State :=
  ⟨gUlStatus, 0, .stop, ⟨.pend, 0, 0, 0⟩, ⟨.poll, connected, 0⟩, [], []⟩

/-! ## Reading the status -/

/-- The gate is opened only after a poll that found a connection, and an iteration calls `send_rssi`
exactly when its number is a multiple and its poll found a connection. -/
structure ReadAlike (state : State) : Prop where
  gate : ∀ polled ∈ state.opened, IsConnected polled
  rssi : ∀ iteration ∈ state.iterations, iteration.sentRssi ↔
    iteration.cntSofttimerThread % secondsToSendRssi = 0 ∧
      ∃ polled ∈ iteration.polled, IsConnected polled

/-- `softtimer` does not get behind a poll. -/
def Unpolled (state : State) : Event → Prop
  | .softtimer => state.softtimer.phase ≠ .rssi
  | _ => True

instance (state : State) (event : Event) : Decidable (Unpolled state event) :=
  match event with
  | .softtimer => inferInstanceAs (Decidable (_ ≠ _))
  | .post | .testWifi _ | .wlan _ | .netApp _ => .isTrue trivial

/-- What a thread has read is what it has polled. -/
structure Polled (state : State) : Prop where
  gate : ∀ polled ∈ state.opened, IsConnected polled
  switching : state.testWifi.phase = .switch →
    state.testWifi.wifiStatus = testWifiConnection state.testWifi.polled
  sending : state.softtimer.phase = .rssi →
    state.softtimer.cntSofttimerThread % secondsToSendRssi = 0 ∧
      state.softtimer.wifiConnectionStatus = testWifiConnection state.softtimer.polled

section Threads

variable {state result : State} {event : Event}

theorem testWifiConnection_connected {gUlStatus : UInt32} :
    testWifiConnection gUlStatus = connected ↔ IsConnected gUlStatus := by
  by_cases set : IsConnected gUlStatus <;> simp [testWifiConnection, set]

theorem testWifiConnection_disconnected {gUlStatus : UInt32} :
    testWifiConnection gUlStatus = disconnected ↔ ¬ IsConnected gUlStatus := by
  by_cases set : IsConnected gUlStatus <;> simp [testWifiConnection, set]

/-- `test_wifi` opens the gate only behind a poll that found a connection. -/
theorem testWifi_polled (polled : Polled state) (failed : Bool) : Polled (testWifi failed state) := by
  obtain ⟨gate, switching, sending⟩ := polled
  unfold testWifi
  cases phase : state.testWifi.phase with
  | poll => exact ⟨gate, fun _ => rfl, sending⟩
  | switch =>
    dsimp only
    split
    · rename_i opens
      refine ⟨fun word member => ?_, by simp, sending⟩
      cases List.mem_append.mp member with
      | inl before => exact gate word before
      | inr last =>
        cases List.mem_singleton.mp last
        exact testWifiConnection_connected.mp ((switching phase).symm.trans opens)
    · split
      · exact ⟨gate, by simp, sending⟩
      · exact ⟨gate, by simp, sending⟩
  | disconnect =>
    dsimp only
    split
    · exact ⟨gate, switching, sending⟩
    · exact ⟨gate, by simp, sending⟩
  | connect =>
    dsimp only
    split
    · exact ⟨gate, by simp, sending⟩
    · exact ⟨gate, switching, sending⟩
  | again =>
    refine ⟨gate, ?_, sending⟩
    dsimp only
    split <;> simp

/-- What a step of `softtimer` does at each point of its loop. -/
inductive SofttimerStep (state : State) : State → Prop where
  | pended (phase : state.softtimer.phase = .pend) :
      SofttimerStep state { state with
        softtimerThreadSemaphore := state.softtimerThreadSemaphore - 1
        softtimer := { state.softtimer with phase := .test } }
  | polls (phase : state.softtimer.phase = .test)
      (multiple : state.softtimer.cntSofttimerThread % secondsToSendRssi = 0) :
      SofttimerStep state { state with softtimer := { state.softtimer with
        phase := .rssi
        wifiConnectionStatus := testWifiConnection state.gUlStatus
        polled := state.gUlStatus } }
  | skips (phase : state.softtimer.phase = .test) :
      SofttimerStep state { state with
        softtimer := { state.softtimer with phase := .sync }
        iterations := state.iterations ++ [⟨state.softtimer.cntSofttimerThread, none, false⟩] }
  | ends (phase : state.softtimer.phase = .rssi) :
      SofttimerStep state { state with
        softtimer := { state.softtimer with phase := .sync }
        iterations := state.iterations ++ [⟨state.softtimer.cntSofttimerThread,
          some state.softtimer.polled, state.softtimer.wifiConnectionStatus = 0⟩] }
  | counts (phase : state.softtimer.phase = .sync) :
      SofttimerStep state { state with softtimer := { state.softtimer with
        phase := .pend
        cntSofttimerThread := state.softtimer.cntSofttimerThread + 1 } }

theorem softtimer_step (stepped : softtimer state = some result) : SofttimerStep state result := by
  unfold softtimer at stepped
  cases phase : state.softtimer.phase with
  | pend =>
    simp only [phase, Option.ite_none_right_eq_some, Option.some.injEq] at stepped
    obtain ⟨_, rfl⟩ := stepped
    exact .pended phase
  | test =>
    by_cases multiple : state.softtimer.cntSofttimerThread % secondsToSendRssi = 0
    · simp only [phase, multiple, if_true, Option.some.injEq] at stepped
      exact stepped ▸ .polls phase multiple
    · simp only [phase, multiple, if_false, Option.some.injEq] at stepped
      exact stepped ▸ .skips phase
  | rssi =>
    simp only [phase, Option.some.injEq] at stepped
    exact stepped ▸ .ends phase
  | sync =>
    simp only [phase, Option.some.injEq] at stepped
    exact stepped ▸ .counts phase

theorem step_polled (polled : Polled state) (stepped : step state event = some result) :
    Polled result := by
  cases event with
  | softtimer =>
    cases softtimer_step stepped with
    | polls _ multiple => exact ⟨polled.gate, polled.switching, fun _ => ⟨multiple, rfl⟩⟩
    | pended | skips | ends | counts => exact ⟨polled.gate, polled.switching, by simp⟩
  | testWifi failed =>
    cases stepped
    exact testWifi_polled polled failed
  | post | wlan _ | netApp _ =>
    cases stepped
    exact ⟨polled.gate, polled.switching, polled.sending⟩

theorem testWifi_iterations (failed : Bool) (state : State) :
    (testWifi failed state).iterations = state.iterations := by
  unfold testWifi
  cases state.testWifi.phase with
  | poll | again => rfl
  | switch =>
    dsimp only
    split
    · rfl
    · split <;> rfl
  | disconnect | connect =>
    dsimp only
    split <;> rfl

/-- A step ends at most one iteration of `softtimer`, and one that it ends without a poll has not
called `send_rssi`. -/
theorem step_iterations (stepped : step state event = some result) :
    ∃ ended, result.iterations = state.iterations ++ ended ∧ (Unpolled state event →
      ∀ iteration ∈ ended, iteration.polled = none ∧ iteration.sentRssi = false) := by
  have nothing : ∀ iteration ∈ ([] : List Iteration),
      iteration.polled = none ∧ iteration.sentRssi = false := List.forall_mem_nil _
  cases event with
  | softtimer =>
    cases softtimer_step stepped with
    | pended | polls | counts => exact ⟨[], (List.append_nil _).symm, fun _ => nothing⟩
    | skips => exact ⟨_, rfl, fun _ => by simp⟩
    | ends phase => exact ⟨_, rfl, fun unpolled => absurd phase unpolled⟩
  | testWifi failed =>
    cases stepped
    refine ⟨[], ?_, fun _ => nothing⟩
    rw [testWifi_iterations, List.append_nil]
  | post | wlan _ | netApp _ =>
    cases stepped
    exact ⟨[], (List.append_nil _).symm, fun _ => nothing⟩

/-- The iterations call `send_rssi` as `test_wifi` opens the gate. -/
def RssiAlike (state : State) : Prop := ∀ iteration ∈ state.iterations, iteration.sentRssi ↔
  iteration.cntSofttimerThread % secondsToSendRssi = 0 ∧
    ∃ polled ∈ iteration.polled, IsConnected polled

theorem rssiAlike_kept (alike : RssiAlike state) (unpolled : Unpolled state event)
    (stepped : step state event = some result) : RssiAlike result := by
  obtain ⟨ended, iterations, quiet⟩ := step_iterations stepped
  intro iteration member
  rw [iterations] at member
  cases List.mem_append.mp member with
  | inl before => exact alike iteration before
  | inr last =>
    obtain ⟨polled, sentRssi⟩ := quiet unpolled iteration last
    simp [polled, sentRssi]

/-- Behind a poll `softtimer` calls `send_rssi` when there is no connection. -/
theorem rssiAlike_broken (polled : Polled state) (behind : ¬ Unpolled state event)
    (stepped : step state event = some result) : ¬ RssiAlike result := by
  intro alike
  cases event with
  | softtimer =>
    have phase : state.softtimer.phase = .rssi := not_not.mp behind
    obtain ⟨multiple, status⟩ := polled.sending phase
    cases softtimer_step stepped with
    | ends =>
      have last := alike _ (List.mem_append_right _ (List.mem_singleton_self _))
      have sent := @testWifiConnection_disconnected state.softtimer.polled
      rw [← status] at sent
      simp only [decide_eq_true_eq, multiple, true_and, Option.mem_some_iff, exists_eq_left'] at last
      exact not_iff_self (sent.symm.trans last)
    | pended other | polls other | skips other | counts other =>
      rw [phase] at other
      cases other
  | post | testWifi _ | wlan _ | netApp _ => exact behind trivial

end Threads

/-- In every run, the two threads have read the status alike in the state reached if and only if
`softtimer` has not got behind a poll. -/
theorem readAlike_iff (gUlStatus : UInt32) (events : List Event) {state : State}
    (ran : exec step (initial gUlStatus) events = some state) :
    ReadAlike state ↔ Along step Unpolled (initial gUlStatus) events := by
  have initially : Polled (initial gUlStatus) := ⟨by simp [initial], by simp [initial], by simp [initial]⟩
  have gate : Polled state := (Reachable.of_exec events (.always events) ran).invariant Polled initially
    fun _ _ _ polled _ stepped => step_polled polled stepped
  have rssi : RssiAlike state ↔ Along step Unpolled (initial gUlStatus) events := by
    refine iff_along_of_exec Polled RssiAlike (fun _ _ _ => step_polled) ?_ ?_ ?_ events initially ?_ ran
    · exact fun _ _ _ _ => rssiAlike_kept
    · exact fun _ _ _ => rssiAlike_broken
    · intro state event result stepped alike iteration member
      obtain ⟨ended, iterations, _⟩ := step_iterations stepped
      exact alike iteration (iterations ▸ List.mem_append_left ended member)
    · exact List.forall_mem_nil _
  rw [← rssi]
  exact ⟨ReadAlike.rssi, ReadAlike.mk gate.gate⟩

/-- `test_wifi` alone, with a connection. -/
theorem readAlike_gate : ∃ state, exec step (initial 0)
    [.wlan .connect, .testWifi false, .testWifi false, .post] = some state ∧
      state.sendDataStatus = .start ∧ ReadAlike state :=
  ⟨_, rfl, rfl, (readAlike_iff 0 [.wlan .connect, .testWifi false, .testWifi false, .post] rfl).mpr
    (by decide)⟩

/-- With a connection `test_wifi` opens the gate, and the first iteration of `softtimer` does not
call `send_rssi`; without one it does. -/
theorem rssi_inverted :
    (∃ state, exec step (initial 0) [.wlan .connect, .testWifi false, .testWifi false, .post,
      .softtimer, .softtimer, .softtimer] = some state ∧ state.sendDataStatus = .start ∧
        state.iterations = [⟨0, some 2, false⟩] ∧ ¬ ReadAlike state) ∧
    ∃ state, exec step (initial 0) [.post, .softtimer, .softtimer, .softtimer] = some state ∧
      state.iterations = [⟨0, some 0, true⟩] ∧ ¬ ReadAlike state := by
  have connectedMissed : ¬ ∀ iteration ∈ [(⟨0, some 2, false⟩ : Iteration)], iteration.sentRssi ↔
      iteration.cntSofttimerThread % secondsToSendRssi = 0 ∧
        ∃ polled ∈ iteration.polled, IsConnected polled := by decide
  have disconnectedSent : ¬ ∀ iteration ∈ [(⟨0, some 0, true⟩ : Iteration)], iteration.sentRssi ↔
      iteration.cntSofttimerThread % secondsToSendRssi = 0 ∧
        ∃ polled ∈ iteration.polled, IsConnected polled := by decide
  exact ⟨⟨_, rfl, rfl, rfl, fun alike => connectedMissed alike.rssi⟩,
    ⟨_, rfl, rfl, fun alike => disconnectedSent alike.rssi⟩⟩

end PlhrFirmware.Pipeline.Wlan
