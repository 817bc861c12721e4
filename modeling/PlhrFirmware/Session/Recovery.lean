import PlhrFirmware.Pipeline.System
import PlhrFirmware.Session.Steps

/-! # Sending again after a loss of the WLAN

`test_wifi` beside the session: it takes `send_data_status` back when it sees no WLAN, and sets
it again when the WLAN is there; what it should do for the session is commented out.  A loss that
it sees breaks the connection.  `MQTT_IF_Init` and `MQTT_IF_Deinit` are here for what they do to
`moduleState`.
-/

namespace PlhrFirmware.Session

open PlhrFirmware.Lib PlhrFirmware.Client

namespace Recovery

/-! ## State -/

/-- `test_wifi` sets `send_data_status` to `start` after a loss; `since` is what has happened to
the session since it has last seen the WLAN down. -/
structure Resumption where
  moduleState : ModuleState
  since : List Occurrence
  deriving DecidableEq, Repr

/-- `seen` counts what had happened to the session when `test_wifi` last saw the WLAN down. -/
structure State where
  pipeline : Pipeline.State
  session : Session.State
  seen : Option Nat
  resumptions : List Resumption

inductive Event where
  | pipeline (event : Pipeline.Event)
  | session (event : Session.Event)
  | init
  | deinit

def initial : State := ⟨Pipeline.initial, Session.initial, none, []⟩

/-! ## Steps -/

/-- `test_wifi` is in front of its `switch` and the WLAN is there. -/
def Starts (pipeline : Pipeline.State) : Prop :=
  pipeline.reconnecting = false ∧ Pipeline.testWifiConnection pipeline = 1

instance (pipeline : Pipeline.State) : Decidable (Starts pipeline) :=
  inferInstanceAs (Decidable (_ ∧ _))

def State.since (state : State) (seen : Nat) : List Occurrence := state.session.history.drop seen

def testWifi (state : State) : State :=
  let pipeline := Pipeline.testWifi state.pipeline
  if Pipeline.testWifiConnection state.pipeline = 0 then
    { state with
      pipeline := pipeline
      session := closeLink state.session
      seen := some state.session.history.length }
  else
    match state.seen with
    | some seen =>
      if Starts state.pipeline then
        { state with
          pipeline := pipeline
          resumptions := state.resumptions ++
            [⟨state.session.module.moduleState, state.since seen⟩] }
      else { state with pipeline := pipeline }
    | none => { state with pipeline := pipeline }

def State.setModuleState (state : State) (moduleState : ModuleState) : State :=
  { state with session := { state.session with
      module := { state.session.module with moduleState := moduleState } } }

def step (errNotConn : Int) (state : State) : Event → Option State
  | .pipeline .testWifi => some (testWifi state)
  | .pipeline event =>
    (Pipeline.step state.pipeline event).map fun pipeline => { state with pipeline := pipeline }
  | .session event =>
    (Session.step errNotConn state.session event).map fun session => { state with session := session }
  | .init =>
    if state.session.module.moduleState = .idle then some (state.setModuleState .initialized)
    else none
  | .deinit =>
    if state.session.call = none ∧ state.session.module.moduleState = .initialized then
      some (state.setModuleState .idle)
    else none

/-! ## Re-established service -/

/-- Whether the session is up behind it, for what decides that. -/
def service : Occurrence → Option Bool
  | .connected _ => some true
  | .disconnected _ | .cleaned _ _ _ => some false
  | _ => none

/-- The module is `CONNECTED`, by a `MQTT_IF_Connect` that has succeeded since the loss. -/
def Resumption.Reestablished (resumption : Resumption) : Prop :=
  resumption.moduleState = .connected ∧ ∃ client, .connected client ∈ resumption.since

/-- When `test_wifi` sets `start` after a loss, a `MQTT_IF_Connect` has succeeded since, and
behind it neither has a `MQTT_IF_Disconnect` succeeded nor a context thread cleaned up. -/
def Reconnected (state : State) : Event → Prop
  | .pipeline .testWifi => Starts state.pipeline →
    ∀ seen ∈ state.seen, lastAnswer service (state.since seen) = some true
  | _ => True

instance (state : State) (event : Event) : Decidable (Reconnected state event) :=
  match event with
  | .pipeline .testWifi => inferInstanceAs (Decidable (_ → _))
  | .pipeline (.pass _) | .pipeline .sendData | .pipeline (.softtimer _) | .pipeline (.wlan _)
  | .pipeline (.elapse _) | .pipeline (.assign _) | .session _ | .init | .deinit => .isTrue trivial

/-! ## `moduleState` and what has happened -/

/-- The module is `CONNECTED` exactly when the last of the successful connects, the successful
disconnects and the cleanups is a connect. -/
def Serviced (session : Session.State) : Prop :=
  session.module.moduleState = .connected ↔ lastAnswer service session.history = some true

section Serviced

variable {session result : Session.State} {logged : List Occurrence}

theorem Serviced.frame (serviced : Serviced session)
    (moduleState : result.module.moduleState = .connected ↔ session.module.moduleState = .connected)
    (history : result.history = session.history ++ logged)
    (silent : ∀ occurrence ∈ logged, service occurrence = none) : Serviced result := by
  rw [Serviced, moduleState, history, lastAnswer_append, lastAnswer_eq_none.mpr silent, Option.none_or]
  exact serviced

theorem Serviced.decided {occurrence : Occurrence} {up : Bool}
    (history : result.history = session.history ++ [occurrence])
    (decides : service occurrence = some up)
    (moduleState : result.module.moduleState = .connected ↔ up = true) : Serviced result := by
  rw [Serviced, history, lastAnswer_append, lastAnswer_singleton, decides, Option.some_or, moduleState,
    Option.some.injEq]

theorem Serviced.preserved {errNotConn : Int} {event : Session.Event} (serviced : Serviced session)
    (stepped : Session.step errNotConn session event = some result) : Serviced result := by
  cases step_cases stepped with
  | refused attempt free moduleState ctx mqttClient =>
    exact serviced.frame (by rw [← moduleState]; rfl) rfl (by simp [service])
  | cleared attempt free initialized moduleState =>
    exact serviced.frame (by simp [Session.State.log, initialized, moduleState]) rfl
      (by simp [service])
  | notStarted attempt thread free initialized moduleState =>
    exact serviced.frame
      (by simp [Session.State.log, Session.State.create, initialized, moduleState]) rfl
      (by simp [service])
  | unlinked attempt thread free initialized moduleState =>
    exact .decided rfl rfl (by simp [Session.State.log, Session.State.create, moduleState])
  | connecting attempt thread free initialized =>
    exact serviced.frame (by simp [Session.State.create, initialized]) (List.append_nil _).symm (by simp)
  | connectFails waiting posted failed closed =>
    subst closed
    exact serviced.frame Iff.rfl rfl (by simp [service])
  | connects waiting posted closed =>
    subst closed
    exact .decided rfl rfl (by simp [Session.State.log])
  | disconnects | disconnectUnsent | cleanup | delete =>
    exact .decided rfl rfl (by simp [Session.State.log])
  | connack | notConnected | disconnectFails | raise | report | leave =>
    exact serviced.frame Iff.rfl rfl (by simp [service])
  | close | queue | disconnecting | reset | runReturns | receive | relabel | handle | pass =>
    exact serviced.frame Iff.rfl (List.append_nil _).symm (by simp)
  | stay => exact serviced

end Serviced

theorem Serviced.closeLink {session : Session.State} (serviced : Serviced session) :
    Serviced (Session.closeLink session) := by
  cases link : session.link with
  | none => simpa [Session.closeLink, link] using serviced
  | some client =>
    exact serviced.preserved (show Session.step 0 session .close = _ by simp [Session.step, link])

/-- At any time, what has happened since the loss decides whether the service is back. -/
theorem Serviced.reestablished_iff {session : Session.State} (serviced : Serviced session)
    (seen : Nat) :
    (⟨session.module.moduleState, session.history.drop seen⟩ : Resumption).Reestablished ↔
      lastAnswer service (session.history.drop seen) = some true := by
  have whole : lastAnswer service session.history =
      (lastAnswer service (session.history.drop seen)).or
        (lastAnswer service (session.history.take seen)) := by
    rw [← lastAnswer_append, List.take_append_drop]
  constructor
  · rintro ⟨connected, client, member⟩
    have last := serviced.mp connected
    rw [whole] at last
    cases since : lastAnswer service (session.history.drop seen) with
    | none => cases lastAnswer_eq_none.mp since _ member
    | some up => rwa [since, Option.some_or] at last
  · intro since
    refine ⟨serviced.mpr (by rw [whole, since, Option.some_or]), ?_⟩
    obtain ⟨occurrence, member, up⟩ := exists_of_lastAnswer since
    cases occurrence with
    | connected client => exact ⟨client, member⟩
    | refused | connack | notDisconnected | reported | raised | left => cases up
    | disconnected | cleaned => cases up

/-! ## Steps of the whole -/

/-- A step sets `start` after a loss, or logs nothing. -/
theorem testWifi_resumptions (state : State) :
    (∃ seen, Starts state.pipeline ∧ state.seen = some seen ∧
      (testWifi state).session = state.session ∧
      (testWifi state).resumptions = state.resumptions ++
        [⟨state.session.module.moduleState, state.since seen⟩]) ∨
    ((∀ seen ∈ state.seen, ¬ Starts state.pipeline) ∧
      ((testWifi state).session = state.session ∨
        (testWifi state).session = Session.closeLink state.session) ∧
      (testWifi state).resumptions = state.resumptions) := by
  by_cases down : Pipeline.testWifiConnection state.pipeline = 0
  · right
    simp [testWifi, down, Starts]
  · cases seen : state.seen with
    | none => exact .inr ⟨by simp, by simp [testWifi, down, seen]⟩
    | some seen' =>
      by_cases starts : Starts state.pipeline
      · exact .inl ⟨seen', by simp [testWifi, down, seen, starts]⟩
      · exact .inr ⟨fun _ _ => starts, by simp [testWifi, down, seen, starts]⟩

variable {errNotConn : Int} {state result : State} {event : Event}

/-- Only `test_wifi` sets `start`. -/
theorem step_recovers (stepped : step errNotConn state event = some result) :
    event = .pipeline .testWifi ∧ result = testWifi state ∨
      result.resumptions = state.resumptions ∧ Reconnected state event ∧
        (Serviced state.session → Serviced result.session) := by
  cases event with
  | pipeline event =>
    cases event with
    | testWifi => exact .inl ⟨rfl, (Option.some.inj stepped).symm⟩
    | pass | sendData | softtimer | wlan | elapse | assign =>
      simp only [step, Option.map_eq_some_iff] at stepped
      obtain ⟨pipeline, _, rfl⟩ := stepped
      exact .inr ⟨rfl, trivial, id⟩
  | session event =>
    obtain ⟨session, inner, rfl⟩ := Option.map_eq_some_iff.mp stepped
    exact .inr ⟨rfl, trivial, fun serviced => serviced.preserved inner⟩
  | init =>
    simp only [step, Option.ite_none_right_eq_some, Option.some.injEq] at stepped
    obtain ⟨idle, rfl⟩ := stepped
    exact .inr ⟨rfl, trivial, fun serviced =>
      serviced.frame (by simp [State.setModuleState, idle]) (List.append_nil _).symm (by simp)⟩
  | deinit =>
    simp only [step, Option.ite_none_right_eq_some, Option.some.injEq] at stepped
    obtain ⟨⟨_, initialized⟩, rfl⟩ := stepped
    exact .inr ⟨rfl, trivial, fun serviced =>
      serviced.frame (by simp [State.setModuleState, initialized]) (List.append_nil _).symm (by simp)⟩

theorem Serviced.step (serviced : Serviced state.session)
    (stepped : Recovery.step errNotConn state event = some result) : Serviced result.session := by
  rcases step_recovers stepped with ⟨_, rfl⟩ | ⟨_, _, kept⟩
  · rcases testWifi_resumptions state with ⟨_, _, _, same, _⟩ | ⟨_, same | closed, _⟩
    · rwa [same]
    · rwa [same]
    · rw [closed]
      exact serviced.closeLink
  · exact kept serviced

def AllReestablished (state : State) : Prop :=
  ∀ resumption ∈ state.resumptions, resumption.Reestablished

theorem AllReestablished.preserved (serviced : Serviced state.session)
    (all : AllReestablished state) (reconnected : Reconnected state event)
    (stepped : Recovery.step errNotConn state event = some result) : AllReestablished result := by
  rcases step_recovers stepped with ⟨rfl, rfl⟩ | ⟨resumptions, _⟩
  · rcases testWifi_resumptions state with ⟨seen, starts, lost, _, resumptions⟩ | ⟨_, _, resumptions⟩
    · intro resumption member
      rw [resumptions] at member
      cases List.mem_append.mp member with
      | inl old => exact all resumption old
      | inr new =>
        rw [List.mem_singleton.mp new]
        exact (serviced.reestablished_iff seen).mpr (reconnected starts seen lost)
    · rwa [AllReestablished, resumptions]
  · rwa [AllReestablished, resumptions]

theorem not_allReestablished (serviced : Serviced state.session)
    (missing : ¬ Reconnected state event)
    (stepped : Recovery.step errNotConn state event = some result) : ¬ AllReestablished result := by
  rcases step_recovers stepped with ⟨rfl, rfl⟩ | ⟨_, reconnected, _⟩
  · rcases testWifi_resumptions state with ⟨seen, starts, lost, _, resumptions⟩ | ⟨never, _⟩
    · intro all
      have now := all ⟨_, state.since seen⟩ (resumptions ▸ List.mem_append_right _ (.head _))
      have since := (serviced.reestablished_iff seen).mp now
      exact missing fun _ seen' lost' => Option.some.inj (lost.symm.trans lost') ▸ since
    · exact absurd (fun starts seen lost => absurd starts (never seen lost)) missing
  · exact absurd reconnected missing

/-- Exactly the runs in which every `start` after a loss comes behind a new session set it only
on one. -/
theorem resumes_iff (errNotConn : Int) (events : List Event) {state : State}
    (ran : exec (step errNotConn) initial events = some state) :
    (∀ resumption ∈ state.resumptions, resumption.Reestablished) ↔
      Along (step errNotConn) Reconnected initial events := by
  refine iff_along_of_exec (fun state => Serviced state.session) AllReestablished
    (fun _ _ _ serviced stepped => serviced.step stepped)
    (fun _ _ _ serviced all reconnected stepped => all.preserved serviced reconnected stepped)
    (fun _ _ _ serviced missing stepped => not_allReestablished serviced missing stepped)
    ?_ events (show Serviced _ from ⟨by simp [initial, Session.initial], fun same => by cases same⟩)
    (show AllReestablished _ from fun _ same => by cases same) ran
  intro state event result stepped all resumption member
  rcases step_recovers stepped with ⟨rfl, rfl⟩ | ⟨resumptions, _⟩
  · rcases testWifi_resumptions state with ⟨_, _, _, _, resumptions⟩ | ⟨_, _, resumptions⟩
    · exact all resumption (resumptions ▸ List.mem_append_left _ member)
    · exact all resumption (resumptions ▸ member)
  · exact all resumption (resumptions ▸ member)

/-- The session that `mainThread` opens, with the WLAN up. -/
def opened : List Event :=
  [.pipeline (.wlan true), .session (.connect plainAttempt), .session (.connack 0 0), .session .wake,
    .pipeline .testWifi]

/-- `test_wifi` sees the WLAN down, the context thread cleans up, and the WLAN comes back. -/
def lostAndBack : List Event :=
  [.pipeline (.wlan false), .pipeline .testWifi, .session (.queue 1), .session (.runReturns 1),
    .session (.cleanup 1 0), .pipeline (.wlan true), .pipeline .testWifi]

theorem resumes_iff_reconnect : ∃ state, exec (step (-1)) initial (opened ++ lostAndBack ++
    [.session (.connect plainAttempt), .session (.connack 0 0), .session .wake,
      .pipeline .testWifi]) = some state ∧
    state.resumptions = [⟨.connected, [.cleaned 1 (some 1) (some 1), .connack 2 0 0, .connected 2]⟩] ∧
    ∀ resumption ∈ state.resumptions, resumption.Reestablished := by
  have seen : (exec (step (-1)) initial (opened ++ lostAndBack ++ [.session (.connect plainAttempt),
      .session (.connack 0 0), .session .wake, .pipeline .testWifi])).map State.resumptions =
      some [⟨.connected, [.cleaned 1 (some 1) (some 1), .connack 2 0 0, .connected 2]⟩] := by decide +kernel
  obtain ⟨state, ran, resumptions⟩ := Option.map_eq_some_iff.mp seen
  exact ⟨state, ran, resumptions, (resumes_iff (-1) _ ran).mpr (by decide +kernel)⟩

/-- Nobody connects again, and `test_wifi` sets `start` while the module is `INITIALIZED`. -/
theorem resumes_without_session : ∃ state,
    exec (step (-1)) initial (opened ++ lostAndBack ++ [.pipeline .testWifi]) = some state ∧
    state.pipeline.sendDataStatus = .start ∧ state.session.module.moduleState = .initialized ∧
    ¬ ∀ resumption ∈ state.resumptions, resumption.Reestablished := by
  have seen : (exec (step (-1)) initial (opened ++ lostAndBack ++ [.pipeline .testWifi])).map
      (fun state => (state.pipeline.sendDataStatus, state.session.module.moduleState,
        state.resumptions)) =
      some (.start, .initialized, [⟨.initialized, [.cleaned 1 (some 1) (some 1)]⟩]) := by decide +kernel
  obtain ⟨state, ran, outcome⟩ := Option.map_eq_some_iff.mp seen
  simp only [Prod.mk.injEq] at outcome
  obtain ⟨start, moduleState, resumptions⟩ := outcome
  refine ⟨state, ran, start, moduleState, ?_⟩
  intro all
  rw [resumptions] at all
  cases (all _ (.head _)).1

end Recovery

end PlhrFirmware.Session
