import PlhrFirmware.Client.Connect
import PlhrFirmware.Session.Backlog

/-! # Initialising again

Every `MQTT_IF_Init` opens the message queue under the same name and starts an app thread, and
`MQTT_IF_Deinit` sends `MQTT_EVENT_DESTROY` for the thread to end.  All the threads read the
descriptor from `mMQTTContext.msgQueue` when they need it, and call `mMQTTContext.eventCB`, which
is `NULL` before the first `MQTT_IF_Connect`.  `MQTT_IF_Init` and `MQTT_IF_Deinit` are called one
after the other, and their steps are interleaved with those of the app threads.  A new
`moduleMutex` is made by every `MQTT_IF_Init` and none is held for `MQTT_EVENT_DESTROY`, so it is
not here.
-/

namespace PlhrFirmware.Session

open PlhrFirmware.Lib PlhrFirmware.Client

namespace EventLoop

open Backlog (mqMaxmsg)

/-! ## State -/

/-- Where the caller is: behind `mq_open` of `MQTT_IF_Init`, or behind `mq_send` of
`MQTT_IF_Deinit`. -/
inductive Caller where
  | outside
  | opened
  | sent
  deriving DecidableEq, Repr

/-- `MQTTAppThread` in front of `mq_receive`, in it, and behind it.  `queueElement` is what the
thread has on its stack, and `descriptor` the one that it called `mq_receive` with; one that has
ended has passed `closed` to `mq_close`, which returned `ret`, and one that has `faulted` has called
`NULL`. -/
inductive AppThread where
  | looping (queueElement : MqttEvent)
  | receiving (descriptor : Int) (queueElement : MqttEvent)
  | received (descriptor : Int) (queueElement : MqttEvent)
  | exited (descriptor closed ret : Int)
  | faulted (descriptor : Int)
  deriving DecidableEq, Repr

/-- `eventCB` says whether the field has been set; nothing takes it back.  `descriptors` are the open
ones, all of the one queue that holds `elements`. -/
structure State where
  moduleState : ModuleState
  eventCB : Bool
  msgQueue : Int
  descriptors : List Int
  elements : List MqttEvent
  caller : Caller
  threads : List AppThread
  deriving DecidableEq, Repr

/-- `uninitialised` is what is on the stack where the code sets nothing: in a new thread, and in
`MQTTClientCallback` for a `PUBREC` or a `PUBCOMP`. -/
inductive Event where
  | init (mqOpen : Int)
  | create (attributes created : Int) (uninitialised : MqttEvent)
  | deinit
  | deinitReturns
  | connect (connected : Bool)
  | disconnect (ret : Int)
  | cleanup
  | notify (event : CallbackEvent) (uninitialised : MqttEvent)
  | receive (thread : Nat)
  | take (thread : Nat)
  | handle (thread : Nat)

/-! ## Steps -/

def State.setThread (state : State) (thread : Nat) (point : AppThread) : State :=
  { state with threads := state.threads.set thread point }

/-- `mq_send` waits for room, and fails for a descriptor that is not open. -/
def State.mqSend (state : State) (event : MqttEvent) : Option (State × Int) :=
  if state.msgQueue ∈ state.descriptors then
    if state.elements.length < mqMaxmsg then
      some ({ state with elements := state.elements ++ [event] }, 0)
    else none
  else some (state, -1)

def State.mqClose (state : State) : State × Int :=
  if state.msgQueue ∈ state.descriptors then
    ({ state with descriptors := state.descriptors.filter (· ≠ state.msgQueue) }, 0)
  else (state, -1)

/-- `MQTT_IF_Init` up to `mq_open`, which gives a new descriptor or none. -/
def mqttIfInit (mqOpen : Int) (state : State) : Option State :=
  if state.caller ≠ .outside then none
  else if state.moduleState ≠ .idle then some state
  else if mqOpen ≤ 0 then some { state with msgQueue := mqOpen }
  else if mqOpen ∈ state.descriptors then none
  else some { state with
    msgQueue := mqOpen
    descriptors := mqOpen :: state.descriptors
    caller := .opened }

/-- The rest of `MQTT_IF_Init`: `attributes` is not 0 when setting an attribute has failed, and
the thread is there when `pthread_create` returns 0. -/
def mqttIfInitCreate (attributes created : Int) (uninitialised : MqttEvent) (state : State) :
    Option State :=
  if state.caller ≠ .opened then none
  else
    let state := { state with caller := .outside }
    if created ≠ 0 then some state
    else
      let state := { state with threads := state.threads ++ [.looping uninitialised] }
      some (if attributes = 0 then { state with moduleState := .initialized } else state)

/-- `MQTT_IF_Deinit` up to `mq_send`. -/
def mqttIfDeinit (state : State) : Option State :=
  if state.caller ≠ .outside then none
  else if state.moduleState ≠ .initialized then some state
  else
    match state.mqSend .destroy with
    | none => none
    | some (state, ret) => if ret < 0 then some state else some { state with caller := .sent }

def mqttIfDeinitReturns (state : State) : Option State :=
  if state.caller = .sent then some { state with moduleState := .idle, caller := .outside } else none

/-- `MQTT_IF_Connect` sets `eventCB` before `MQTTClient_create`. -/
def mqttIfConnect (connected : Bool) (state : State) : State :=
  if state.moduleState ≠ .initialized then state
  else { state with eventCB := true, moduleState := if connected then .connected else .initialized }

/-- `MQTTAppThread` reads the field and calls `mq_receive`; when that fails it goes on with the
element that it has. -/
def receive (state : State) (thread : Nat) : Option State :=
  match state.threads[thread]? with
  | some (.looping queueElement) =>
    if state.msgQueue ∈ state.descriptors then
      some (state.setThread thread (.receiving state.msgQueue queueElement))
    else some (state.setThread thread (.received state.msgQueue queueElement))
  | _ => none

def take (state : State) (thread : Nat) : Option State :=
  match state.threads[thread]?, state.elements with
  | some (.receiving descriptor _), queueElement :: elements =>
    some ({ state with elements := elements }.setThread thread (.received descriptor queueElement))
  | _, _ => none

/-- `MQTTAppThread` calls `eventCB` for every element but a `MQTT_EVENT_RECV`. -/
def handle (state : State) (thread : Nat) : Option State :=
  match state.threads[thread]? with
  | some (.received _ (.recv topic payload qos)) =>
    some (state.setThread thread (.looping (.recv topic payload qos)))
  | some (.received descriptor queueElement) =>
    if state.eventCB = false then some (state.setThread thread (.faulted descriptor))
    else if queueElement = .destroy then
      let (result, ret) := state.mqClose
      some (result.setThread thread (.exited descriptor state.msgQueue ret))
    else some (state.setThread thread (.looping queueElement))
  | _ => none

def step (state : State) : Event → Option State
  | .init mqOpen => mqttIfInit mqOpen state
  | .create attributes created uninitialised =>
    mqttIfInitCreate attributes created uninitialised state
  | .deinit => mqttIfDeinit state
  | .deinitReturns => mqttIfDeinitReturns state
  | .connect connected => some (mqttIfConnect connected state)
  | .disconnect ret =>
    some (if state.moduleState = .connected ∧ 0 ≤ ret then { state with moduleState := .initialized }
      else state)
  | .cleanup => some { state with moduleState := .initialized }
  | .notify event uninitialised =>
    -- only a client that `MQTT_IF_Connect` has created calls back
    if state.eventCB then
      (state.mqSend ((mqttClientCallback event).getD uninitialised)).map Prod.fst
    else none
  | .receive thread => receive state thread
  | .take thread => take state thread
  | .handle thread => handle state thread

def initial : State := ⟨.idle, false, 0, [], [], .outside, []⟩

/-! ## One working event loop -/

namespace AppThread

def Live : AppThread → Prop
  | .exited _ _ _ | .faulted _ => False
  | _ => True

instance : DecidablePred Live
  | .exited _ _ _ | .faulted _ => .isFalse id
  | .looping _ | .receiving _ _ | .received _ _ => .isTrue trivial

/-- The thread receives from this descriptor when it holds it in `mMQTTContext.msgQueue`. -/
def Serves (descriptor : Int) : AppThread → Prop
  | .looping _ => True
  | .receiving used _ | .received used _ => used = descriptor
  | .exited _ _ _ | .faulted _ => False

/-- How many `MQTT_EVENT_DESTROY` the thread has taken off the queue and not handled yet. -/
def destroys : AppThread → Nat
  | .received _ .destroy => 1
  | _ => 0

end AppThread

/-- A `MQTT_EVENT_DESTROY` is on the queue, or a thread has it. -/
def Destroying (state : State) : Prop :=
  .destroy ∈ state.elements ∨ ∃ thread ∈ state.threads, thread.destroys = 1

instance (state : State) : Decidable (Destroying state) := inferInstanceAs (Decidable (_ ∨ _))

/-- The stored descriptor is open and exactly one app thread receives from it. -/
def Working (state : State) : Prop := state.msgQueue ∈ state.descriptors ∧
  ∃ (number : Nat) (thread : AppThread), state.threads[number]? = some thread ∧
    thread.Serves state.msgQueue ∧ ∀ (other : Nat) (point : AppThread),
      state.threads[other]? = some point → point.Live → other = number

/-- The thread has closed the descriptor that it received from. -/
def AppThread.ClosedOwn (thread : AppThread) : Prop :=
  ∃ descriptor, thread = .exited descriptor descriptor 0

/-- Every thread that receives no more has closed the descriptor that it received from, and behind
`MQTT_IF_Init` the event loop works once `MQTT_EVENT_DESTROY` has been handled. -/
structure Kept (state : State) : Prop where
  closed : ∀ thread ∈ state.threads, thread.Live ∨ thread.ClosedOwn
  working : state.moduleState ≠ .idle → state.caller = .outside → ¬ Destroying state → Working state

/-- `MQTT_IF_Init` does not open the queue while an earlier app thread is there; `MQTT_IF_Deinit`
comes behind a `MQTT_IF_Connect`; no late `MQTTContextThread` takes the module out of the idle
state; no uninitialised element is a `MQTT_EVENT_DESTROY`. -/
def NotOvertaken (state : State) : Event → Prop
  | .init _ => state.moduleState = .idle → ∀ thread ∈ state.threads, ¬ thread.Live
  | .deinit => state.moduleState = .initialized → state.eventCB = true
  | .cleanup => state.moduleState ≠ .idle
  | .notify event uninitialised => mqttClientCallback event = none → uninitialised ≠ .destroy
  | _ => True

instance (state : State) (event : Event) : Decidable (NotOvertaken state event) :=
  match event with
  | .init _ | .deinit | .cleanup => inferInstanceAs (Decidable (_ → _))
  | .notify _ _ => inferInstanceAs (Decidable (_ → _))
  | .create _ _ _ | .deinitReturns | .connect _ | .disconnect _ | .receive _ | .take _
  | .handle _ => .isTrue trivial

/-! ## The invariant -/

/-- Every thread has closed its own descriptor. -/
def Ended (threads : List AppThread) : Prop := ∀ thread ∈ threads, thread.ClosedOwn

/-- As long as `eventCB` is `NULL`, no element is there for which a thread would call it. -/
def Callable (state : State) : Prop := state.eventCB = false → state.elements = [] ∧
  ∀ descriptor queueElement, .received descriptor queueElement ∉ state.threads

/-- One app thread is there, and the field holds its descriptor, which is open. -/
structure Running (state : State) (past : List AppThread) (thread : AppThread) : Prop where
  threads : state.threads = past ++ [thread]
  ended : Ended past
  serves : thread.Serves state.msgQueue
  opened : state.msgQueue ∈ state.descriptors

/-- The `MQTT_EVENT_DESTROY` on the queue, and the one that the thread has. -/
def pending (state : State) (thread : AppThread) : Nat :=
  state.elements.count .destroy + thread.destroys

inductive Orderly (state : State) : Prop where
  | stopped (ended : Ended state.threads) (quiet : state.elements.count .destroy = 0)
      (point : state.caller = .sent ∨ state.moduleState = .idle ∧
        (state.caller = .opened → state.msgQueue ∈ state.descriptors))
  | running (past : List AppThread) (thread : AppThread) (runs : Running state past thread)
      (quiet : pending state thread = 0) (outside : state.caller = .outside)
  | stopping (past : List AppThread) (thread : AppThread) (runs : Running state past thread)
      (once : pending state thread = 1)
      (point : state.caller = .sent ∨ state.moduleState = .idle ∧ state.caller = .outside)

section Threads

variable {state : State} {past : List AppThread} {thread : AppThread}

theorem Ended.not_live (ended : Ended past) (member : thread ∈ past) : ¬ thread.Live := by
  obtain ⟨_, rfl⟩ := ended thread member
  exact id

theorem Running.live (runs : Running state past thread) : thread.Live := by
  have serves := runs.serves
  cases thread with
  | exited | faulted => exact serves
  | looping | receiving | received => trivial

theorem Running.only (runs : Running state past thread) {number : Nat} {point : AppThread}
    (there : state.threads[number]? = some point) (live : point.Live) :
    number = past.length ∧ point = thread := by
  rw [runs.threads] at there
  by_cases before : number < past.length
  · rw [List.getElem?_append_left before] at there
    exact absurd live (runs.ended.not_live (List.mem_of_getElem? there))
  · rw [List.getElem?_append_right (Nat.le_of_not_lt before)] at there
    obtain ⟨last, _⟩ := List.getElem?_eq_some_iff.mp there
    have same : number = past.length := by
      simp only [List.length_singleton] at last
      omega
    subst same
    simp only [Nat.sub_self, List.getElem?_cons_zero, Option.some.injEq] at there
    exact ⟨rfl, there.symm⟩

theorem Running.frame (runs : Running state past thread) {result : State}
    (threads : result.threads = state.threads) (msgQueue : result.msgQueue = state.msgQueue)
    (descriptors : result.descriptors = state.descriptors) : Running result past thread := by
  refine ⟨threads.trans runs.threads, runs.ended, ?_, ?_⟩
  · rw [msgQueue]
    exact runs.serves
  · rw [msgQueue, descriptors]
    exact runs.opened

theorem Ended.append (ended : Ended past) (descriptor : Int) :
    Ended (past ++ [.exited descriptor descriptor 0]) := by
  intro thread member
  cases List.mem_append.mp member with
  | inl earlier => exact ended thread earlier
  | inr last => exact ⟨descriptor, List.mem_singleton.mp last⟩

end Threads

/-! ## What the steps keep -/

section Steps

variable {state result : State}

theorem mqttIfInit_orderly (orderly : Orderly state) {mqOpen : Int}
    (allowed : NotOvertaken state (.init mqOpen)) (stepped : mqttIfInit mqOpen state = some result) :
    Orderly result := by
  unfold mqttIfInit at stepped
  split at stepped
  · cases stepped
  rename_i outside
  split at stepped
  · cases stepped
    exact orderly
  rename_i idle
  rw [not_not] at outside idle
  have noLive := allowed idle
  cases orderly with
  | stopped ended quiet _ =>
    split at stepped
    · cases stepped
      exact .stopped ended quiet (.inr ⟨idle, fun opened => by simp [outside] at opened⟩)
    · split at stepped
      · cases stepped
      · cases stepped
        exact .stopped ended quiet (.inr ⟨idle, fun _ => List.mem_cons_self⟩)
  | running past thread runs _ _ =>
    exact absurd runs.live (noLive thread (by simp [runs.threads]))
  | stopping past thread runs _ _ =>
    exact absurd runs.live (noLive thread (by simp [runs.threads]))

theorem mqttIfInitCreate_orderly (orderly : Orderly state) {attributes created : Int}
    {uninitialised : MqttEvent}
    (stepped : mqttIfInitCreate attributes created uninitialised state = some result) :
    Orderly result := by
  unfold mqttIfInitCreate at stepped
  split at stepped
  · cases stepped
  rename_i opened
  rw [not_not] at opened
  cases orderly with
  | stopped ended quiet point =>
    obtain ⟨idle, there⟩ := point.resolve_left (by simp [opened])
    split at stepped
    · cases stepped
      exact .stopped ended quiet (.inr ⟨idle, fun again => by cases again⟩)
    · cases stepped
      have runs : ∀ moduleState, Running { state with
          caller := .outside
          threads := state.threads ++ [.looping uninitialised]
          moduleState := moduleState } state.threads (.looping uninitialised) :=
        fun _ => ⟨rfl, ended, trivial, there opened⟩
      split
      · exact .running _ _ (runs .initialized) quiet rfl
      · exact .running _ _ (runs state.moduleState) quiet rfl
  | running _ _ _ _ outside => simp [opened] at outside
  | stopping _ _ _ _ point => simp [opened] at point

theorem mqSend_eq {event : MqttEvent} {ret : Int} (sent : state.mqSend event = some (result, ret)) :
    state.msgQueue ∈ state.descriptors ∧ ret = 0 ∧
      result = { state with elements := state.elements ++ [event] } ∨
    state.msgQueue ∉ state.descriptors ∧ ret = -1 ∧ result = state := by
  unfold State.mqSend at sent
  split at sent
  · rename_i opened
    split at sent
    · cases sent
      exact .inl ⟨opened, rfl, rfl⟩
    · cases sent
  · rename_i opened
    cases sent
    exact .inr ⟨opened, rfl, rfl⟩

theorem mqttIfDeinit_orderly (orderly : Orderly state) (stepped : mqttIfDeinit state = some result) :
    Orderly result := by
  unfold mqttIfDeinit at stepped
  split at stepped
  · cases stepped
  rename_i outside
  split at stepped
  · cases stepped
    exact orderly
  rename_i initialized
  rw [not_not] at outside initialized
  cases sent : state.mqSend .destroy with
  | none =>
    rw [sent] at stepped
    cases stepped
  | some sending =>
    obtain ⟨state', ret⟩ := sending
    rw [sent] at stepped
    cases mqSend_eq sent with
    | inl delivered =>
      obtain ⟨_, rfl, rfl⟩ := delivered
      cases stepped
      cases orderly with
      | stopped _ _ point => simp [outside, initialized] at point
      | running past thread runs quiet _ =>
        refine .stopping past thread (runs.frame rfl rfl rfl) ?_ (.inl rfl)
        simp only [pending, List.count_append, List.count_singleton_self] at quiet ⊢
        omega
      | stopping _ _ _ _ point => simp [outside, initialized] at point
    | inr failed =>
      obtain ⟨_, rfl, rfl⟩ := failed
      cases stepped
      exact orderly

theorem mqttIfDeinitReturns_orderly (orderly : Orderly state)
    (stepped : mqttIfDeinitReturns state = some result) : Orderly result := by
  unfold mqttIfDeinitReturns at stepped
  split at stepped
  · rename_i sent
    cases stepped
    cases orderly with
    | stopped ended quiet _ =>
      exact .stopped ended quiet (.inr ⟨rfl, fun again => by cases again⟩)
    | running _ _ _ _ outside => simp [sent] at outside
    | stopping past thread runs once _ =>
      exact .stopping past thread (runs.frame rfl rfl rfl) once (.inr ⟨rfl, rfl⟩)
  · cases stepped

/-- The state of the module changes while it is not idle. -/
theorem setModuleState_orderly (orderly : Orderly state) (awake : state.moduleState ≠ .idle)
    (moduleState : ModuleState) (eventCB : Bool) :
    Orderly { state with moduleState := moduleState, eventCB := eventCB } := by
  cases orderly with
  | stopped ended quiet point =>
    exact .stopped ended quiet (.inl (point.resolve_right fun idle => awake idle.1))
  | running past thread runs quiet outside =>
    exact .running past thread (runs.frame rfl rfl rfl) quiet outside
  | stopping past thread runs once point =>
    exact .stopping past thread (runs.frame rfl rfl rfl) once
      (.inl (point.resolve_right fun idle => awake idle.1))

theorem enqueue_orderly (orderly : Orderly state) {event : MqttEvent} (other : event ≠ .destroy) :
    Orderly { state with elements := state.elements ++ [event] } := by
  have same : (state.elements ++ [event]).count .destroy = state.elements.count .destroy := by
    rw [List.count_append, List.count_singleton, beq_false_of_ne other]
    simp
  cases orderly with
  | stopped ended quiet point => exact .stopped ended (same.trans quiet) point
  | running past thread runs quiet outside =>
    refine .running past thread (runs.frame rfl rfl rfl) ?_ outside
    rw [pending, same]
    exact quiet
  | stopping past thread runs once point =>
    refine .stopping past thread (runs.frame rfl rfl rfl) ?_ point
    rw [pending, same]
    exact once

theorem mqttClientCallback_ne_destroy {event : CallbackEvent} {uninitialised : MqttEvent}
    (allowed : NotOvertaken state (.notify event uninitialised)) :
    (mqttClientCallback event).getD uninitialised ≠ .destroy := by
  cases event with
  | operation msgType _ =>
    cases msgType with
    | pubrec => exact allowed rfl
    | pubcomp => exact allowed rfl
    | connack | puback | suback | unsuback => simp [mqttClientCallback]
  | recv => simp [mqttClientCallback]
  | disconnect => simp [mqttClientCallback]

/-- A thread that has not ended is the only one. -/
theorem Orderly.running_of_live (orderly : Orderly state) {number : Nat} {point : AppThread}
    (there : state.threads[number]? = some point) (live : point.Live) :
    ∃ past, number = past.length ∧ Running state past point := by
  cases orderly with
  | stopped ended _ _ => exact absurd live (ended.not_live (List.mem_of_getElem? there))
  | running past thread runs _ _ | stopping past thread runs _ _ =>
    obtain ⟨last, rfl⟩ := runs.only there live
    exact ⟨past, last, runs⟩

/-- A thread goes on with the descriptor that it has, and no `MQTT_EVENT_DESTROY` is lost. -/
theorem advance_orderly (orderly : Orderly state) {number : Nat} {before after : AppThread}
    {elements : List MqttEvent} (there : state.threads[number]? = some before) (live : before.Live)
    (serves : before.Serves state.msgQueue → after.Serves state.msgQueue)
    (same : elements.count .destroy + after.destroys = pending state before) :
    Orderly ({ state with elements := elements }.setThread number after) := by
  have runs' : ∀ {past}, number = past.length → Running state past before →
      Running ({ state with elements := elements }.setThread number after) past after := by
    rintro past rfl runs
    exact ⟨by simp [State.setThread, runs.threads], runs.ended, serves runs.serves, runs.opened⟩
  cases orderly with
  | stopped ended _ _ => exact absurd live (ended.not_live (List.mem_of_getElem? there))
  | running past thread runs quiet outside =>
    obtain ⟨last, rfl⟩ := runs.only there live
    exact .running past after (runs' last runs) (same.trans quiet) outside
  | stopping past thread runs once point =>
    obtain ⟨last, rfl⟩ := runs.only there live
    exact .stopping past after (runs' last runs) (same.trans once) point

theorem receive_orderly (orderly : Orderly state) {number : Nat}
    (stepped : receive state number = some result) : Orderly result := by
  unfold receive at stepped
  split at stepped
  · rename_i there
    obtain ⟨_, _, runs⟩ := orderly.running_of_live there trivial
    rw [if_pos runs.opened] at stepped
    cases stepped
    exact advance_orderly orderly there trivial (fun _ => rfl) rfl
  · cases stepped

theorem take_orderly (orderly : Orderly state) {number : Nat}
    (stepped : take state number = some result) : Orderly result := by
  unfold take at stepped
  split at stepped
  · rename_i queueElement elements there queued
    cases stepped
    refine advance_orderly orderly there trivial id ?_
    rw [pending, queued, List.count_cons]
    cases queueElement <;> rfl
  · cases stepped

/-- The thread closes the descriptor that it received `MQTT_EVENT_DESTROY` from, since the field
still holds it. -/
theorem close_orderly (orderly : Orderly state) {number : Nat} {descriptor : Int}
    (there : state.threads[number]? = some (.received descriptor .destroy)) :
    Orderly (state.mqClose.1.setThread number (.exited descriptor state.msgQueue state.mqClose.2)) := by
  obtain ⟨past, rfl, runs⟩ := orderly.running_of_live there trivial
  have own : descriptor = state.msgQueue := runs.serves
  subst own
  rw [State.mqClose, if_pos runs.opened]
  cases orderly with
  | stopped ended _ _ => exact absurd trivial (ended.not_live (List.mem_of_getElem? there))
  | running _ _ others quiet _ =>
    obtain ⟨_, rfl⟩ := others.only there trivial
    simp [pending, AppThread.destroys] at quiet
  | stopping _ _ others once point =>
    obtain ⟨_, rfl⟩ := others.only there trivial
    refine .stopped ?_ (Nat.succ.inj once) ?_
    · rw [State.setThread, runs.threads, List.set_append_right _ _ (Nat.le_refl _), Nat.sub_self]
      exact runs.ended.append state.msgQueue
    · cases point with
      | inl sent => exact .inl sent
      | inr outside => exact .inr ⟨outside.1, fun opened => by cases outside.2.symm.trans opened⟩

theorem handle_orderly (orderly : Orderly state) (callable : Callable state) {number : Nat}
    (stepped : handle state number = some result) : Orderly result := by
  unfold handle at stepped
  split at stepped
  · rename_i there
    cases stepped
    exact advance_orderly orderly there trivial (fun _ => trivial) rfl
  · rename_i descriptor queueElement _ there
    have set : ¬ state.eventCB = false := fun unset =>
      (callable unset).2 descriptor queueElement (List.mem_of_getElem? there)
    rw [if_neg set] at stepped
    by_cases destroy : queueElement = .destroy
    · rw [if_pos destroy] at stepped
      cases stepped
      exact close_orderly orderly (destroy ▸ there)
    · rw [if_neg destroy] at stepped
      cases stepped
      refine advance_orderly orderly there trivial (fun _ => trivial) ?_
      rw [pending]
      cases queueElement with
      | destroy => exact absurd rfl destroy
      | connack | suback | puback | unsuback | serverDisconnect | clientDisconnect | recv => rfl
  · cases stepped

theorem step_orderly (orderly : Orderly state) (callable : Callable state) {event : Event}
    (allowed : NotOvertaken state event) (stepped : step state event = some result) : Orderly result := by
  cases event with
  | init mqOpen => exact mqttIfInit_orderly orderly allowed stepped
  | create attributes created uninitialised => exact mqttIfInitCreate_orderly orderly stepped
  | deinit => exact mqttIfDeinit_orderly orderly stepped
  | deinitReturns => exact mqttIfDeinitReturns_orderly orderly stepped
  | connect connected =>
    cases stepped
    unfold mqttIfConnect
    split
    · exact orderly
    · rename_i initialized
      rw [not_not] at initialized
      exact setModuleState_orderly orderly (by simp [initialized]) _ _
  | disconnect ret =>
    cases stepped
    split
    · rename_i connected
      exact setModuleState_orderly orderly (by simp [connected.1]) .initialized _
    · exact orderly
  | cleanup =>
    cases stepped
    exact setModuleState_orderly orderly allowed .initialized _
  | notify event uninitialised =>
    simp only [step, Option.ite_none_right_eq_some] at stepped
    obtain ⟨⟨sent, ret⟩, ran, rfl⟩ := Option.map_eq_some_iff.mp stepped.2
    cases mqSend_eq ran with
    | inl delivered =>
      obtain ⟨_, _, rfl⟩ := delivered
      exact enqueue_orderly orderly (mqttClientCallback_ne_destroy allowed)
    | inr failed =>
      obtain ⟨_, _, rfl⟩ := failed
      exact orderly
  | receive thread => exact receive_orderly orderly stepped
  | take thread => exact take_orderly orderly stepped
  | handle thread => exact handle_orderly orderly callable stepped

theorem step_eventCB (set : state.eventCB = true) {event : Event}
    (stepped : step state event = some result) : result.eventCB = true := by
  cases event with
  | init mqOpen => grind [step, mqttIfInit]
  | create attributes created uninitialised => grind [step, mqttIfInitCreate]
  | deinit => grind [step, mqttIfDeinit, State.mqSend]
  | deinitReturns => grind [step, mqttIfDeinitReturns]
  | connect connected => grind [step, mqttIfConnect]
  | disconnect ret => grind [step]
  | cleanup => grind [step]
  | notify event uninitialised => grind [step, State.mqSend]
  | receive thread => grind [step, receive, State.setThread]
  | take thread => grind [step, take, State.setThread]
  | handle thread => grind [step, handle, State.mqClose, State.setThread]

/-- Before `eventCB` is set nothing comes onto the queue, so that no thread takes anything off it. -/
theorem step_callable (orderly : Orderly state) (callable : Callable state) {event : Event}
    (allowed : NotOvertaken state event) (stepped : step state event = some result) :
    Callable result := by
  intro unset
  have before : state.eventCB = false :=
    Bool.eq_false_iff.mpr fun set => by simp [step_eventCB set stepped] at unset
  obtain ⟨silent, waiting⟩ := callable before
  cases event with
  | init mqOpen => grind [step, mqttIfInit]
  | create attributes created uninitialised => grind [step, mqttIfInitCreate]
  | deinit =>
    have other : state.moduleState ≠ .initialized := fun initialized => by
      cases before.symm.trans (allowed initialized)
    grind [step, mqttIfDeinit]
  | deinitReturns => grind [step, mqttIfDeinitReturns]
  | connect connected => grind [step, mqttIfConnect]
  | disconnect ret => grind [step]
  | cleanup => grind [step]
  | notify event uninitialised => grind [step]
  | receive thread =>
    simp only [step, receive] at stepped
    split at stepped
    · rename_i there
      obtain ⟨_, _, runs⟩ := orderly.running_of_live there trivial
      rw [if_pos runs.opened, Option.some.injEq] at stepped
      subst stepped
      refine ⟨silent, fun descriptor queueElement member => ?_⟩
      rcases List.mem_or_eq_of_mem_set member with old | new
      · exact waiting descriptor queueElement old
      · cases new
    · cases stepped
  | take thread => grind [step, take]
  | handle thread =>
    have stuck : handle state thread = none := by
      unfold handle
      split
      · rename_i there
        exact absurd (List.mem_of_getElem? there) (waiting _ _)
      · rename_i there
        exact absurd (List.mem_of_getElem? there) (waiting _ _)
      · rfl
    cases stuck.symm.trans stepped

end Steps

/-! ## Runs -/

theorem Running.closed {state : State} {past : List AppThread} {thread : AppThread}
    (runs : Running state past thread) {point : AppThread} (member : point ∈ state.threads) :
    point.Live ∨ point.ClosedOwn := by
  rw [runs.threads] at member
  cases List.mem_append.mp member with
  | inl earlier => exact .inr (runs.ended point earlier)
  | inr last => exact .inl (List.mem_singleton.mp last ▸ runs.live)

theorem Running.working {state : State} {past : List AppThread} {thread : AppThread}
    (runs : Running state past thread) : Working state := by
  refine ⟨runs.opened, past.length, thread, ?_, runs.serves, ?_⟩
  · simp [runs.threads]
  · intro other point there live
    exact (runs.only there live).1

theorem Orderly.kept {state : State} (orderly : Orderly state) : Kept state := by
  cases orderly with
  | stopped ended _ point =>
    refine ⟨fun thread member => .inr (ended thread member), fun awake outside => ?_⟩
    cases point with
    | inl sent => cases outside.symm.trans sent
    | inr idle => exact absurd idle.1 awake
  | running past thread runs _ _ | stopping past thread runs _ _ =>
    exact ⟨fun _ member => runs.closed member, fun _ _ _ => runs.working⟩

/-- Whatever the order of the steps, a thread that ends closes its own descriptor and exactly one
app thread receives from the stored one, as long as `MQTT_IF_Init` waits for the thread before and
`MQTT_IF_Deinit` for a `MQTT_IF_Connect`. -/
theorem one_event_loop {state : State} (reached : Reachable step NotOvertaken initial state) :
    Kept state := by
  have invariants := reached.invariant (fun state => Orderly state ∧ Callable state)
    ⟨.stopped (fun _ member => absurd member List.not_mem_nil) rfl
      (.inr ⟨rfl, fun opened => by cases opened⟩), fun _ => ⟨rfl, fun _ _ => List.not_mem_nil⟩⟩
    fun _ _ _ invariants allowed stepped =>
      ⟨step_orderly invariants.1 invariants.2 allowed stepped,
        step_callable invariants.1 invariants.2 allowed stepped⟩
  exact invariants.1.kept

/-- The app thread takes an element and goes back to `mq_receive`. -/
def takeElement (thread : Nat) : List Event := [.take thread, .handle thread, .receive thread]

/-- The first app thread and a session, up to the cleanup of the context thread. -/
def session : List Event :=
  [.init 1, .create 0 0 .connack, .receive 0, .connect true,
    .notify (.operation .connack []) .connack] ++ takeElement 0 ++
    [.disconnect 0, .notify .disconnect .connack] ++ takeElement 0 ++ [.cleanup]

/-- The module is initialised again after the first thread has ended. -/
theorem one_event_loop_again : ∃ state, exec step initial (session ++ [.deinit, .take 0,
    .deinitReturns, .handle 0, .init 2, .create 0 0 .connack, .receive 1]) = some state ∧
      state.threads = [.exited 1 1 0, .receiving 2 .connack] ∧ Kept state := by
  refine ⟨_, rfl, rfl, one_event_loop (.of_exec (session ++ [.deinit, .take 0,
    .deinitReturns, .handle 0, .init 2, .create 0 0 .connack, .receive 1]) ?_ rfl)⟩
  decide

/-- `MQTT_IF_Init` is called again before the first thread has taken `MQTT_EVENT_DESTROY`: that
thread closes the descriptor of the second.  Without a `MQTT_IF_Connect` it calls `NULL`, and closes
none. -/
theorem overtaken_closes_successor :
    (∃ state, exec step initial (session ++ [.deinit, .deinitReturns, .init 2, .create 0 0 .connack,
        .receive 1, .take 0, .handle 0]) = some state ∧
      state.threads = [.exited 1 2 0, .receiving 2 .connack] ∧
      state.moduleState = .initialized ∧ state.caller = .outside ∧ ¬ Destroying state ∧
      state.msgQueue ∉ state.descriptors ∧ ¬ Kept state) ∧
    ∃ state, exec step initial [.init 1, .create 0 0 .connack, .receive 0, .deinit, .deinitReturns,
        .take 0, .handle 0, .init 2, .create 0 0 .connack, .receive 1] = some state ∧
      state.threads = [.faulted 1, .receiving 2 .connack] ∧ 1 ∈ state.descriptors ∧ ¬ Kept state := by
  constructor
  · refine ⟨_, rfl, rfl, rfl, rfl, by decide, by decide, fun kept => ?_⟩
    obtain live | ⟨descriptor, same⟩ := kept.closed (.exited 1 2 0) (.head _)
    · exact live
    · cases same
  · refine ⟨_, rfl, rfl, by decide, fun kept => ?_⟩
    obtain live | ⟨descriptor, same⟩ := kept.closed (.faulted 1) (.head _)
    · exact live
    · cases same

end EventLoop

end PlhrFirmware.Session
