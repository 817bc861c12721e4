import PlhrFirmware.Client.Connect
import PlhrFirmware.Lib.Latest
import PlhrFirmware.Lib.Reachable

/-! # What a CONNECT asks for

`MQTT_IF_Connect` hands the parameters of its caller on with `MQTTClient_set`.  The user name, the
password and the will go to the client context, which every creation clears; the clean flag and the
keepalive time go to `MQTTClient_connectCfg`, which nothing sets back.
-/

namespace PlhrFirmware.Client.Options

open PlhrFirmware.Lib

/-! ## Parameters -/

structure Will where
  willTopic : Option (List UInt8)
  willMsg : Option (List UInt8)
  retain : Bool
  willQos : UInt8
  deriving DecidableEq, Repr

/-- The fields of `MQTT_IF_ClientParams_t` that a CONNECT depends on; `NULL` is `none`. -/
structure ClientParams where
  clientID : Option (List UInt8)
  username : Option (List UInt8)
  password : Option (List UInt8)
  keepaliveTime : UInt16
  cleanConnect : Bool
  willParams : Option Will
  deriving DecidableEq, Repr

structure ConnectCfg where
  clean : Bool
  keepAliveTimeout : UInt16
  deriving DecidableEq, Repr

/-- The fields of the client context that the options are stored in. -/
structure ClientInfo where
  clientID : Option (List UInt8)
  usrName : Option (List UInt8)
  usrPwd : Option (List UInt8)
  mqttWill : Will
  deriving DecidableEq, Repr

def ClientInfo.cleared : ClientInfo := ⟨none, none, none, ⟨none, none, false, 0⟩⟩

structure Stored where
  connectCfg : ConnectCfg
  info : ClientInfo
  deriving DecidableEq, Repr

/-- What the core is given for a CONNECT. -/
structure Connect where
  clientID : Option (List UInt8)
  username : Option (List UInt8)
  password : Option (List UInt8)
  will : Option Will
  clean : Bool
  keepAlive : UInt16
  deriving DecidableEq, Repr

/-! ## `MQTTClient_set` and `MQTTClient_connect` -/

inductive SetOption where
  | userName (value : List UInt8)
  | password (value : List UInt8)
  | willParam (value : Will)
  | keepaliveTime (value : UInt16)
  | cleanConnect (value : Bool)
  deriving DecidableEq, Repr

def mqttClientSet (option : SetOption) (stored : Stored) : Stored :=
  match option with
  | .userName value => { stored with info := { stored.info with usrName := some value } }
  | .password value => { stored with info := { stored.info with usrPwd := some value } }
  | .willParam value => { stored with info := { stored.info with mqttWill := value } }
  | .keepaliveTime value =>
    { stored with connectCfg := { stored.connectCfg with keepAliveTimeout := value } }
  | .cleanConnect value => { stored with connectCfg := { stored.connectCfg with clean := value } }

/-- The options that `MQTT_IF_Connect` sets, in its order. -/
def setOptions (params : ClientParams) : List SetOption :=
  (params.willParams.map SetOption.willParam).toList ++
    (params.username.map SetOption.userName).toList ++
    (params.password.map SetOption.password).toList ++
    (if params.cleanConnect = false then [.cleanConnect params.cleanConnect] else []) ++
    (if 0 < params.keepaliveTime then [.keepaliveTime params.keepaliveTime] else [])

/-- `none` where one of the registrations fails. -/
def mqttClientConnect (attempt : Attempt) (stored : Stored) : Option Connect :=
  let will := if stored.info.mqttWill.willTopic.isSome then some stored.info.mqttWill else none
  if attempt.registerCtxInfo < 0 then none
  else if will.isSome ∧ attempt.registerWillInfo.getD 0 < 0 then none
  else some ⟨stored.info.clientID, stored.info.usrName, stored.info.usrPwd, will,
    stored.connectCfg.clean, stored.connectCfg.keepAliveTimeout⟩

/-! ## Runs -/

/-- `entered` holds the parameters of the calls that have set their options, and `handed` the
CONNECTs with the positions of their calls. -/
structure State where
  moduleState : ModuleState
  mqttClient : Bool
  stored : Stored
  entered : List ClientParams
  handed : List (Nat × Connect)
  deriving DecidableEq, Repr

/-- `accepted` is whether `MQTTClient_connect` returns at least 0. -/
inductive Event where
  | init
  | deinit
  | connect (params : ClientParams) (attempt : Attempt) (accepted : Bool)
  | disconnect
  | cleanup

def mqttIfConnect (params : ClientParams) (attempt : Attempt) (accepted : Bool) (state : State) :
    State :=
  if state.moduleState ≠ .initialized then state
  else
    match attempt.creation with
    | .failed => { state with mqttClient := false }
    | .failedCleared =>
      { state with mqttClient := false, stored := { state.stored with info := .cleared } }
    | .created =>
      let stored := { state.stored with
        info := { ClientInfo.cleared with clientID := params.clientID } }
      if attempt.threadStarted = false then { state with mqttClient := true, stored := stored }
      else
        let stored := (setOptions params).foldl (fun stored option => mqttClientSet option stored) stored
        let set := { state with
          mqttClient := true
          stored := stored
          entered := state.entered ++ [params] }
        match mqttClientConnect attempt stored with
        | none => set
        | some connect => { set with
            moduleState := if accepted then .connected else .initialized
            handed := state.handed ++ [(state.entered.length, connect)] }

/-- The cleanup of a context thread, which clears the context of a client. -/
def cleanup (state : State) : State :=
  { state with
    moduleState := .initialized
    stored := if state.mqttClient then { state.stored with info := .cleared } else state.stored }

def step (state : State) : Event → Option State
  | .init =>
    if state.moduleState = .idle then some { state with moduleState := .initialized } else none
  | .deinit =>
    if state.moduleState = .initialized then some { state with moduleState := .idle } else none
  | .connect params attempt accepted => some (mqttIfConnect params attempt accepted state)
  | .disconnect =>
    if state.moduleState = .connected then some { state with moduleState := .initialized } else none
  | .cleanup => some (cleanup state)

def initial : State := ⟨.idle, false, ⟨⟨true, 25⟩, .cleared⟩, [], []⟩

/-! ## The history of the options -/

/-- The keepalive time that the parameters set; 0 sets none. -/
def keepalive (params : ClientParams) : Option UInt16 :=
  if 0 < params.keepaliveTime then some params.keepaliveTime else none

/-- What the calls up to a position have made of `MQTTClient_connectCfg`. -/
def configured (entered : List ClientParams) : ConnectCfg :=
  ⟨entered.all ClientParams.cleanConnect, (lastAnswer keepalive entered).getD 25⟩

/-- The CONNECT of the call at the position. -/
def Asks (entered : List ClientParams) (position : Nat) (connect : Connect) : Prop :=
  ∃ params, entered[position]? = some params ∧
    connect = ⟨params.clientID, params.username, params.password,
      params.willParams.filter fun will => will.willTopic.isSome,
      (configured (entered.take (position + 1))).clean,
      (configured (entered.take (position + 1))).keepAliveTimeout⟩

structure Consistent (state : State) : Prop where
  connectCfg : state.stored.connectCfg = configured state.entered
  handed : ∀ position connect, (position, connect) ∈ state.handed → Asks state.entered position connect

section History

variable {entered : List ClientParams} {params : ClientParams} {position : Nat} {asked : Connect}
  {state result : State} {event : Event}

theorem Asks.append (asks : Asks entered position asked) : Asks (entered ++ [params]) position asked := by
  obtain ⟨own, read, same⟩ := asks
  have inside := (List.getElem?_eq_some_iff.mp read).1
  refine ⟨own, ?_, ?_⟩
  · rw [List.getElem?_append_left inside, read]
  · rw [List.take_append_of_le_length inside, same]

theorem configured_append : configured (entered ++ [params]) =
    ⟨(configured entered).clean && params.cleanConnect,
      (keepalive params).getD (configured entered).keepAliveTimeout⟩ := by
  rw [configured, lastAnswer_append, lastAnswer_singleton, List.all_append]
  cases keepalive params <;> simp [configured]

/-- What the options of a call make of what is stored in a cleared context. -/
theorem foldl_setOptions (connectCfg : ConnectCfg) :
    (setOptions params).foldl (fun stored option => mqttClientSet option stored)
        ⟨connectCfg, { ClientInfo.cleared with clientID := params.clientID }⟩ =
      ⟨⟨connectCfg.clean && params.cleanConnect, (keepalive params).getD connectCfg.keepAliveTimeout⟩,
        ⟨params.clientID, params.username, params.password,
          params.willParams.getD ClientInfo.cleared.mqttWill⟩⟩ := by
  obtain ⟨clientID, username, password, keepaliveTime, cleanConnect, willParams⟩ := params
  cases username <;> cases password <;> cases willParams <;> cases cleanConnect <;>
    by_cases positive : 0 < keepaliveTime <;>
    simp [setOptions, mqttClientSet, keepalive, positive, ClientInfo.cleared]

/-- The CONNECT of a call whose options have just been set. -/
theorem asks_connect {attempt : Attempt} {stored : Stored}
    (set : stored = ⟨configured (entered ++ [params]),
      ⟨params.clientID, params.username, params.password,
        params.willParams.getD ClientInfo.cleared.mqttWill⟩⟩)
    (connects : mqttClientConnect attempt stored = some asked) :
    Asks (entered ++ [params]) entered.length asked := by
  refine ⟨params, List.getElem?_concat_length, ?_⟩
  have all : (entered ++ [params]).take (entered.length + 1) = entered ++ [params] :=
    List.take_of_length_le (by simp)
  have will : (if (params.willParams.getD ClientInfo.cleared.mqttWill).willTopic.isSome then
      some (params.willParams.getD ClientInfo.cleared.mqttWill) else none) =
      params.willParams.filter fun will => will.willTopic.isSome := by
    cases params.willParams with
    | none => rfl
    | some will => rfl
  rw [all]
  unfold mqttClientConnect at connects
  dsimp only at connects
  rw [Option.ite_none_left_eq_some, Option.ite_none_left_eq_some] at connects
  obtain ⟨_, _, connects⟩ := connects
  cases connects
  rw [set, ← will]

theorem Consistent.connect (consistent : Consistent state) (params : ClientParams) (attempt : Attempt)
    (accepted : Bool) : Consistent (mqttIfConnect params attempt accepted state) := by
  have later : ∀ position connect, (position, connect) ∈ state.handed →
      Asks (state.entered ++ [params]) position connect := fun position connect member =>
    (consistent.handed position connect member).append
  have set : (setOptions params).foldl (fun stored option => mqttClientSet option stored)
      ⟨state.stored.connectCfg, { ClientInfo.cleared with clientID := params.clientID }⟩ =
      ⟨configured (state.entered ++ [params]), ⟨params.clientID, params.username, params.password,
        params.willParams.getD ClientInfo.cleared.mqttWill⟩⟩ := by
    rw [foldl_setOptions, configured_append, consistent.connectCfg]
  unfold mqttIfConnect
  split
  · exact consistent
  · split
    · exact ⟨consistent.connectCfg, consistent.handed⟩
    · exact ⟨consistent.connectCfg, consistent.handed⟩
    · dsimp only
      split
      · exact ⟨consistent.connectCfg, consistent.handed⟩
      · split
        · refine ⟨?_, later⟩
          rw [set]
        · next connect connects =>
          refine ⟨?_, ?_⟩
          · rw [set]
          · intro position other member
            obtain old | new := List.mem_append.mp member
            · exact later position other old
            · cases List.mem_singleton.mp new
              exact asks_connect set connects

theorem Consistent.step (consistent : Consistent state) (stepped : step state event = some result) :
    Consistent result := by
  cases event with
  | init | deinit | disconnect =>
    rw [Options.step, Option.ite_none_right_eq_some] at stepped
    obtain ⟨_, stepped⟩ := stepped
    cases stepped
    exact ⟨consistent.connectCfg, consistent.handed⟩
  | connect params attempt accepted =>
    cases stepped
    exact consistent.connect params attempt accepted
  | cleanup =>
    cases stepped
    refine ⟨?_, consistent.handed⟩
    unfold cleanup
    dsimp only
    split
    · exact consistent.connectCfg
    · exact consistent.connectCfg

/-- The identity, the user name, the password and the will of a CONNECT are those of its call; it
asks for a clean session exactly if no call up to it has asked for another one, and its keepalive
time is the latest that a call has set. -/
theorem connect_options (reached : Reachable step always initial state)
    (member : (position, asked) ∈ state.handed) :
    ∃ params, state.entered[position]? = some params ∧
      asked.clientID = params.clientID ∧ asked.username = params.username ∧
      asked.password = params.password ∧
      asked.will = params.willParams.filter (fun will => will.willTopic.isSome) ∧
      (asked.clean = true ↔
        ∀ call ∈ state.entered.take (position + 1), call.cleanConnect = true) ∧
      asked.keepAlive =
        (lastAnswer keepalive (state.entered.take (position + 1))).getD 25 := by
  have consistent : Consistent state := by
    refine reached.invariant Consistent ⟨rfl, fun _ _ member => nomatch member⟩ ?_
    intro _ _ _ consistent _ stepped
    exact consistent.step stepped
  obtain ⟨params, read, rfl⟩ := consistent.handed position asked member
  exact ⟨params, read, rfl, rfl, rfl, rfl, List.all_eq_true, rfl⟩

/-- The second call asks for a clean session and sets no keepalive time. -/
def persistentThenClean : List Event :=
  [.init, .connect ⟨some [97], some [98], none, 60, false, none⟩ ⟨.created, true, 0, none, 0⟩ true,
    .cleanup, .connect ⟨some [97], none, none, 0, true, none⟩ ⟨.created, true, 0, none, 0⟩ true]

theorem connect_options_second : ∃ state connect, exec step initial persistentThenClean = some state ∧
    (1, connect) ∈ state.handed ∧ connect.username = none ∧ connect.clean = false ∧
    connect.keepAlive = 60 := by
  obtain ⟨state, ran, entered, member⟩ : ∃ state, exec step initial persistentThenClean = some state ∧
      state.entered = [⟨some [97], some [98], none, 60, false, none⟩,
        ⟨some [97], none, none, 0, true, none⟩] ∧
      (1, ⟨some [97], none, none, none, false, 60⟩) ∈ state.handed := by
    refine ⟨_, rfl, rfl, ?_⟩
    decide
  have reached := Reachable.of_exec persistentThenClean (Along.always _) ran
  obtain ⟨params, read, _, username, _, _, clean, keepAlive⟩ := connect_options reached member
  rw [entered] at read keepAlive
  cases read
  exact ⟨state, _, ran, member, username, rfl, keepAlive⟩

end History

end PlhrFirmware.Client.Options
