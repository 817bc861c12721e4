import PlhrFirmware.Session.Steps

/-! # Late cleanups

`MQTT_IF_Disconnect` and a failed `MQTTClient_connect` leave the module `INITIALIZED` while the
context thread of the client is still on its way to its cleanup.  That cleanup works on the
handle and the state of `mMQTTContext`, whoever they belong to by then.
-/

namespace PlhrFirmware.Session

open PlhrFirmware.Lib PlhrFirmware.Client

variable {errNotConn : Int}

/-- The context thread of a client deletes no other client, and takes back no `CONNECTED` of
another. -/
def OwnCleanups (history : List Occurrence) : Prop :=
  ∀ thread deleted reset, .cleaned thread deleted reset ∈ history →
    (∀ client, deleted = some client → client = thread) ∧
      ∀ client, reset = some client → client = thread

/-- No cleanup has torn down a connection that is not its own, and as long as the module is
`CONNECTED` nobody has deleted the client of the latest `MQTT_IF_Connect` that has succeeded. -/
structure Spared (state : State) : Prop where
  own : OwnCleanups state.history
  kept : state.module.moduleState = .connected → ∃ client,
    lastConnected state.history = some client ∧ state.inUse = some client ∧
      ∀ thread reset, .cleaned thread (some client) reset ∉ state.history

/-- A context thread cleans up before `MQTT_IF_Connect` has created another client that is in
use by then. -/
def NotOvertaken (state : State) : Event → Prop
  | .cleanup thread _ =>
    state.module.mqttClient = 1 → state.inUse.isSome → state.created = thread
  | _ => True

instance (state : State) (event : Event) : Decidable (NotOvertaken state event) :=
  match event with
  | .cleanup _ _ => inferInstanceAs (Decidable (_ → _ → _))
  | .connect _ | .connack _ _ | .close | .queue _ | .wake | .disconnect _ _ | .reset
  | .runReturns _ | .receive | .handle | .callback | .poll _ => .isTrue trivial

/-! ## Which client is in use -/

/-- Neither a new connection nor a cleanup. -/
def Occurrence.Quiet : Occurrence → Prop
  | .connected _ | .cleaned _ _ _ => False
  | _ => True

/-- `MQTT_IF_Connect` holds the mutex while it waits for the CONNACK. -/
def State.Holds (state : State) : Prop :=
  state.module.moduleState = .connected ∨ ∃ sendConnectMsg, state.call = some (.connect sendConnectMsg)

/-- The client in use is the latest one; a module that is `CONNECTED` or waits for the CONNACK
has it, and no cleanup has deleted it. -/
structure Owned (state : State) : Prop where
  latest : ∀ client, state.inUse = some client → client = state.created
  held : state.Holds → state.module.mqttClient = 1 ∧ state.inUse = some state.created
  connected : state.module.moduleState = .connected →
    lastConnected state.history = some state.created
  deleted : ∀ thread client reset, .cleaned thread (some client) reset ∈ state.history →
    client ≤ state.created ∧ state.inUse ≠ some client

theorem Owned.initial : Owned initial := by
  refine ⟨by simp [Session.initial], ?_, by simp [Session.initial], fun _ _ _ same => by cases same⟩
  rintro (connected | ⟨_, waiting⟩)
  · cases connected
  · cases waiting

/-- A step that leaves the client and its handle, and logs nothing about either. -/
theorem Owned.frame {state result : State} {logged : List Occurrence} (owned : Owned state)
    (holds : result.Holds → state.Holds)
    (connected : result.module.moduleState = .connected → state.module.moduleState = .connected)
    (mqttClient : state.Holds → result.module.mqttClient = state.module.mqttClient)
    (inUse : result.inUse = state.inUse) (created : result.created = state.created)
    (history : result.history = state.history ++ logged)
    (quiet : ∀ occurrence ∈ logged, occurrence.Quiet) : Owned result := by
  refine ⟨?_, ?_, ?_, ?_⟩
  · rw [inUse, created]
    exact owned.latest
  · intro holding
    rw [inUse, created, mqttClient (holds holding)]
    exact owned.held (holds holding)
  · intro connectedNow
    rw [history, created, lastConnected_append fun occurrence member client same =>
      (same ▸ quiet occurrence member : Occurrence.Quiet (.connected client))]
    exact owned.connected (connected connectedNow)
  · intro thread client reset member
    rw [inUse, created]
    rw [history, List.mem_append] at member
    cases member with
    | inl old => exact owned.deleted thread client reset old
    | inr new => exact absurd (quiet _ new) id

/-- A client is created: it is newer than all that have been deleted. -/
theorem Owned.create {state result : State} (owned : Owned state)
    (inUse : result.inUse = some (state.created + 1)) (created : result.created = state.created + 1)
    (mqttClient : result.Holds → result.module.mqttClient = 1)
    (connected : result.module.moduleState = .connected →
      lastConnected result.history = some (state.created + 1))
    (cleaned : ∀ thread deleted reset, .cleaned thread deleted reset ∈ result.history →
      .cleaned thread deleted reset ∈ state.history) : Owned result := by
  refine ⟨?_, ?_, ?_, ?_⟩
  · intro client used
    rw [created]
    exact Option.some.inj (used.symm.trans inUse)
  · intro holding
    exact ⟨mqttClient holding, created ▸ inUse⟩
  · intro connectedNow
    rw [created]
    exact connected connectedNow
  · intro thread client reset member
    have older := (owned.deleted thread client reset (cleaned _ _ _ member)).1
    rw [inUse, created]
    exact ⟨by omega, fun same => by cases same; omega⟩

/-- Nobody holds the client any more. -/
theorem Owned.drop {state result : State} (owned : Owned state) (idle : ¬ result.Holds)
    (inUse : ∀ client, result.inUse = some client → state.inUse = some client)
    (created : result.created = state.created)
    (cleaned : ∀ thread client reset, .cleaned thread (some client) reset ∈ result.history →
      .cleaned thread (some client) reset ∈ state.history ∨
        state.inUse = some client ∧ result.inUse = none) : Owned result := by
  refine ⟨?_, fun holding => absurd holding idle, fun connected => absurd (.inl connected) idle, ?_⟩
  · intro client used
    rw [created]
    exact owned.latest client (inUse client used)
  · intro thread client reset member
    rw [created]
    cases cleaned thread client reset member with
    | inl old =>
      have before := owned.deleted thread client reset old
      exact ⟨before.1, fun used => before.2 (inUse client used)⟩
    | inr new =>
      exact ⟨(owned.latest client new.1).le, by rw [new.2]; simp⟩

theorem Owned.preserved {state result : State} {event : Event} (owned : Owned state)
    (stepped : step errNotConn state event = some result) : Owned result := by
  cases step_cases stepped with
  | refused attempt free moduleState ctx mqttClient =>
    exact owned.frame (Or.imp_left moduleState.symm.trans) moduleState.symm.trans
      (fun holding => holding.elim mqttClient (by simp [free])) rfl rfl rfl
      (by simp [Occurrence.Quiet])
  | cleared attempt free initialized moduleState =>
    exact owned.drop (by simp [State.Holds, State.log, moduleState, free]) (fun _ same => by cases same) rfl
      fun _ _ _ member => .inl (by simpa using member)
  | notStarted attempt thread free initialized moduleState =>
    exact owned.create rfl rfl (by simp [State.Holds, State.log, State.create, moduleState, free])
      (by simp [State.log, State.create, moduleState]) (by simp [State.create])
  | unlinked attempt thread free initialized moduleState mqttClient closed =>
    exact owned.create rfl rfl (fun _ => mqttClient)
      (fun _ => lastConnected_append_connected _) (by simp [State.create])
  | connecting attempt thread free initialized sent =>
    exact owned.create rfl rfl (fun _ => rfl) (by simp [State.create]) (fun _ _ _ => id)
  | connectFails waiting posted failed closed =>
    subst closed
    exact owned.frame (fun holding => .inl (by simpa [State.Holds, State.log] using holding)) id
      (fun _ => rfl) rfl rfl rfl (by simp [Occurrence.Quiet])
  | connects waiting posted closed =>
    subst closed
    have held := owned.held (.inr ⟨_, waiting⟩)
    exact ⟨owned.latest, fun _ => held, fun _ => lastConnected_append_connected _,
      fun thread client reset member => owned.deleted thread client reset (by simpa using member)⟩
  | disconnects resetting waiting posted =>
    exact owned.drop (by simp [State.Holds, State.log]) (fun _ => id) rfl
      fun _ _ _ member => .inl (by simpa using member)
  | disconnectUnsent sendDisconn mqttDisconnect resetting free connected failed narrowed =>
    exact owned.drop (by simp [State.Holds, State.log, free]) (fun _ => id) rfl
      fun _ _ _ member => .inl (by simpa using member)
  | disconnecting sendDisconn mqttDisconnect free connected succeeds opened =>
    exact owned.frame (fun holding => .inl connected) id (fun _ => rfl) rfl rfl
      (List.append_nil _).symm (by simp)
  | cleanup thread sendDisconn free returned null =>
    exact owned.drop (by simp [State.Holds, State.log, free]) (fun _ => id) rfl
      fun _ _ _ member => .inl (by simpa using member)
  | delete thread sendDisconn free returned handle ended =>
    refine owned.drop (by simp [State.Holds, State.log, free]) (fun _ same => by cases same) rfl ?_
    intro thread' client reset member
    cases List.mem_append.mp member with
    | inl old => exact .inl old
    | inr new =>
      have same := List.mem_singleton.mp new
      rw [Occurrence.cleaned.injEq] at same
      exact .inr ⟨same.2.1.symm, rfl⟩
  | connack | notConnected | disconnectFails | raise | report | leave =>
    exact owned.frame id id (fun _ => rfl) rfl rfl rfl (by simp [Occurrence.Quiet])
  | close | queue | reset | runReturns | receive | relabel | handle | pass =>
    exact owned.frame id id (fun _ => rfl) rfl rfl (List.append_nil _).symm (by simp)
  | stay => exact owned

theorem Owned.of_exec {events : List Event} {state : State}
    (ran : exec (step errNotConn) Session.initial events = some state) : Owned state :=
  (Reachable.of_exec events (.always events) ran).invariant Owned .initial
    fun _ _ _ owned _ stepped => owned.preserved stepped

/-! ## Whose cleanup it is -/

theorem Owned.kept {state : State} (owned : Owned state)
    (connected : state.module.moduleState = .connected) : ∃ client,
      lastConnected state.history = some client ∧ state.inUse = some client ∧
        ∀ thread reset, .cleaned thread (some client) reset ∉ state.history := by
  have held := owned.held (.inl connected)
  exact ⟨state.created, owned.connected connected, held.2,
    fun thread reset member => (owned.deleted thread _ reset member).2 held.2⟩

/-- A step logs a cleanup only when a context thread has run it. -/
theorem cleaned_of_step {state result : State} {event : Event}
    (stepped : step errNotConn state event = some result) {thread : Nat} {deleted reset : Option Nat}
    (member : .cleaned thread deleted reset ∈ result.history) :
    .cleaned thread deleted reset ∈ state.history ∨
      (∃ sendDisconn, event = .cleanup thread sendDisconn) ∧ reset = state.reset ∧
        (state.module.mqttClient ≠ 1 ∧ deleted = none ∨
          state.module.mqttClient = 1 ∧ deleted = state.inUse) := by
  cases step_cases stepped with
  | cleanup thread' sendDisconn free returned null =>
    cases List.mem_append.mp member with
    | inl old => exact .inl old
    | inr new =>
      obtain ⟨rfl, rfl, rfl⟩ := Occurrence.cleaned.inj (List.mem_singleton.mp new)
      exact .inr ⟨⟨sendDisconn, rfl⟩, rfl, .inl ⟨null, rfl⟩⟩
  | delete thread' sendDisconn free returned handle ended =>
    cases List.mem_append.mp member with
    | inl old => exact .inl old
    | inr new =>
      obtain ⟨rfl, rfl, rfl⟩ := Occurrence.cleaned.inj (List.mem_singleton.mp new)
      exact .inr ⟨⟨sendDisconn, rfl⟩, rfl, .inr ⟨handle, rfl⟩⟩
  | refused | cleared | notStarted | unlinked | connack | connectFails | connects | disconnects
  | notConnected | disconnectFails | disconnectUnsent | raise | report | leave =>
    exact .inl (by simpa using member)
  | connecting | close | queue | disconnecting | reset | runReturns | receive | relabel | handle
  | pass | stay =>
    exact .inl member

theorem OwnCleanups.preserved {state result : State} {event : Event} (owned : Owned state)
    (own : OwnCleanups state.history) (notOvertaken : NotOvertaken state event)
    (stepped : step errNotConn state event = some result) : OwnCleanups result.history := by
  intro thread deleted reset member
  rcases cleaned_of_step stepped member with old | ⟨⟨sendDisconn, rfl⟩, rfl, deleting⟩
  · exact own thread deleted reset old
  · constructor
    · rintro client rfl
      rcases deleting with ⟨_, nothing⟩ | ⟨handle, used⟩
      · cases nothing
      · exact (owned.latest client used.symm).trans (notOvertaken handle (used ▸ rfl))
    · intro client taken
      rw [State.reset, Option.ite_none_right_eq_some] at taken
      obtain ⟨connected, last⟩ := taken
      obtain ⟨handle, used⟩ := owned.held (.inl connected)
      rw [owned.connected connected, Option.some.injEq] at last
      exact last.symm.trans (notOvertaken handle (used ▸ rfl))

/-- An overtaken cleanup deletes the client of a later connection. -/
theorem not_ownCleanups_of_overtaken {state result : State} {event : Event} (owned : Owned state)
    (overtaken : ¬ NotOvertaken state event) (stepped : step errNotConn state event = some result) :
    ¬ OwnCleanups result.history := by
  cases event with
  | cleanup thread sendDisconn =>
    simp only [NotOvertaken, Classical.not_imp] at overtaken
    obtain ⟨handle, inUse, other⟩ := overtaken
    obtain ⟨client, used⟩ := Option.isSome_iff_exists.mp inUse
    intro own
    cases step_cases stepped with
    | cleanup _ _ free returned null => exact null handle
    | delete =>
      have deleted := (own thread state.inUse state.reset (by simp)).1 client used
      exact other ((owned.latest client used).symm.trans deleted)
  | connect | connack | close | queue | wake | disconnect | reset | runReturns | receive | handle
  | callback | poll => exact absurd trivial overtaken

/-- Exactly the runs in which no cleanup is overtaken spare every successor. -/
theorem spared_iff (errNotConn : Int) (events : List Event) {state : State}
    (ran : exec (step errNotConn) initial events = some state) :
    Spared state ↔ Along (step errNotConn) NotOvertaken initial events := by
  have exactly := iff_along_of_exec Owned (fun state => OwnCleanups state.history)
    (fun _ _ _ owned stepped => owned.preserved stepped)
    (fun _ _ _ owned own notOvertaken stepped => own.preserved owned notOvertaken stepped)
    (fun _ _ _ owned overtaken stepped => not_ownCleanups_of_overtaken owned overtaken stepped)
    (fun _ _ _ stepped own => by
      obtain ⟨logged, history⟩ := step_history stepped
      intro thread deleted reset member
      exact own thread deleted reset (history ▸ List.mem_append_left _ member))
    events Owned.initial (fun _ _ _ member => absurd member List.not_mem_nil) ran
  rw [← exactly]
  exact ⟨Spared.own, fun own => ⟨own, (Owned.of_exec ran).kept⟩⟩

/-- A session that is opened, closed by `MQTT_IF_Disconnect`, and left to its context thread. -/
def openAndClose (thread : Nat) : List Event :=
  [.connect plainAttempt, .connack 0 0, .wake, .disconnect 0 false, .close, .wake, .queue thread,
    .runReturns thread]

theorem spared_iff_in_time : ∃ state,
    exec (step (-1)) initial (openAndClose 1 ++ [.cleanup 1 0, .connect plainAttempt, .connack 0 0,
      .wake]) = some state ∧ state.module.moduleState = .connected ∧ Spared state := by
  refine ⟨_, rfl, rfl, ?_⟩
  exact (spared_iff (-1) (openAndClose 1 ++ [.cleanup 1 0, .connect plainAttempt, .connack 0 0, .wake])
    rfl).mpr (by decide)

/-- The cleanup of the first connection comes behind the second `MQTT_IF_Connect`: it deletes the
second client and takes back its `CONNECTED`. -/
theorem late_cleanup_deletes_successor : ∃ state,
    exec (step (-1)) initial (openAndClose 1 ++ [.connect plainAttempt, .connack 0 0, .wake,
      .cleanup 1 0]) = some state ∧
    state.history.getLast? = some (.cleaned 1 (some 2) (some 2)) ∧
    state.module.moduleState = .initialized ∧ ¬ Spared state := by
  have seen : (exec (step (-1)) initial (openAndClose 1 ++ [.connect plainAttempt, .connack 0 0, .wake,
      .cleanup 1 0])).map (fun state => (state.history.getLast?, state.module.moduleState)) =
      some (some (.cleaned 1 (some 2) (some 2)), .initialized) := by decide
  obtain ⟨state, ran, outcome⟩ := Option.map_eq_some_iff.mp seen
  obtain ⟨last, moduleState⟩ := Prod.mk.inj outcome
  refine ⟨state, ran, last, moduleState, ?_⟩
  intro spared
  have own := spared.own 1 (some 2) (some 2) (List.mem_of_getLast? last)
  cases own.1 2 rfl

end PlhrFirmware.Session
