import PlhrFirmware.Client.Resources
import PlhrFirmware.Lib.Reachable

/-! # The life of a client

`MQTT_IF_Connect` creates a client, starts its context thread and unblocks it; the thread runs
`MQTTClient_run` and deletes the client.  A step goes up to the next point at which a thread may
wait or another one may run.  Both sides work on the pointers of one control block, and a thread
that waits on a semaphore goes on to wait on it when its pointer has changed.
-/

namespace PlhrFirmware.Client.Lifecycle

open PlhrFirmware.Lib

/-! ## State -/

/-- A context thread before each `sem_wait` of `MQTTClient_run`, in it, in the loop of the receive
task, behind it, and in the `sem_wait` of `MQTTClient_delete`. -/
inductive ThreadPhase where
  | absent
  | starting
  | clearing (cell : Nat)
  | cleared
  | blocked (cell : Nat)
  | running
  | returned
  | deleting (cell : Nat)
  | exited
  deriving DecidableEq, Repr

/-- `MQTT_IF_Connect` holds `moduleMutex` before and after the CONNECT has been sent. -/
inductive ModuleMutex where
  | free
  | connecting
  | sent
  | deleting
  deriving DecidableEq, Repr

/-- `mqttClient` is whether the handle is 1.  Of the module state it is only kept whether it is
`MQTT_STATE_CONNECTED`: `MQTT_IF_Init` and `MQTT_IF_Deinit` leave the library alone. -/
structure State where
  library : Library
  mqttClient : Bool
  connected : Bool
  moduleMutex : ModuleMutex
  threads : Nat → ThreadPhase
  created : Nat
  faulted : Bool

/-- `registered` is whether `MQTTClient_connect` gets to send the CONNECT. -/
inductive Event where
  | connect (params : ConnParams) (calls : Calls) (threadStarted registered : Bool)
  | unblock (sent : Bool)
  | connack (accepted : Bool)
  | disconnect
  | advance (thread : Nat)

def State.set (state : State) (thread : Nat) (phase : ThreadPhase) : State :=
  { state with threads := Function.update state.threads thread phase }

/-- A `NULL` or a freed semaphore has been used. -/
def State.fault (state : State) : State := { state with faulted := true }

/-! ## Waiting -/

inductive Taken where
  | waits
  | takes (library : Library)
  | faults

/-- `sem_wait` on a cell. -/
def Library.take (cell : Nat) (library : Library) : Taken :=
  match library.heap cell with
  | some (.semaphore (count + 1)) => .takes (library.write cell count)
  | some (.semaphore 0) => .waits
  | _ => .faults

/-- The thread reads a pointer and waits on what it points to. -/
def State.reach (state : State) (thread : Nat) (pointer : Pointer) (phase : Nat → ThreadPhase) :
    State :=
  match state.library.pointer pointer with
  | some cell => state.set thread (phase cell)
  | none => state.fault

def State.pass (state : State) (cell : Nat) (next : Library → State) : Option State :=
  match state.library.take cell with
  | .waits => none
  | .takes library => some (next library)
  | .faults => some state.fault

/-! ## Steps -/

def connect (params : ConnParams) (calls : Calls) (threadStarted registered : Bool)
    (state : State) : State :=
  let (library, handle) := mqttClientCreate params calls state.library
  let state := { state with library := library, mqttClient := handle }
  if handle = false ∨ threadStarted = false then state
  else { state.set state.created .starting with
    created := state.created + 1
    moduleMutex := if registered then .connecting else .free }

/-- The context thread is unblocked whether the CONNECT has been sent or not. -/
def unblock (sent : Bool) (state : State) : State :=
  match state.library.post .syncRxTx with
  | some library =>
    { state with library := library, moduleMutex := if sent then .sent else .free }
  | none => state.fault

/-- Behind the wait of `MQTTClient_delete`, and the cleanup of the context thread. -/
def finishDelete (thread : Nat) (library : Library) (state : State) : State :=
  { state.set thread .exited with
    library := mqttClientFree library
    connected := false
    moduleMutex := .free }

/-- `MQTTClient_delete` up to its wait; it does nothing for `NULL`.  Its `MQTTClient_disconnect` is not
here: the core reports a broken connection before `MQTTClient_run` returns, and then it fails at
once. -/
def delete (thread : Nat) (state : State) : State :=
  if state.mqttClient = false then { state.set thread .exited with connected := false }
  else
    match mqttClientCtxDelete { state.library with closeContext := true } with
    | none => state.fault
    | some library =>
      -- `MQTTClient_mutexLock`
      if (library.pointer .mutex).isNone then state.fault
      else
        match library.pointer .waitForMqttClose with
        | some cell =>
          match library.post .syncRxTx with
          | some library =>
            { state.set thread (.deleting cell) with library := library, moduleMutex := .deleting }
          | none => state.fault
        | none =>
          if (library.pointer .syncRxTx).isNone then state.fault
          else finishDelete thread library state

def advance (thread : Nat) (state : State) : Option State :=
  match state.threads thread with
  | .absent | .exited => none
  | .starting => some (state.reach thread .waitForMqttClose .clearing)
  | .clearing cell => state.pass cell fun library => { state.set thread .cleared with library := library }
  | .cleared => some (state.reach thread .syncRxTx .blocked)
  | .blocked cell => state.pass cell fun library => { state.set thread .running with library := library }
  | .running =>
    -- the connection is broken, or `MQTTClient_closeContext` is set
    match state.library.post .waitForMqttClose with
    | some library => some { state.set thread .returned with library := library }
    | none => some state.fault
  | .returned => if state.moduleMutex = .free then some (delete thread state) else none
  | .deleting cell => state.pass cell fun library => finishDelete thread library state

def step (state : State) : Event → Option State
  | .connect params calls threadStarted registered =>
    if state.faulted = false ∧ state.moduleMutex = .free ∧ state.connected = false then
      some (connect params calls threadStarted registered state)
    else none
  | .unblock sent =>
    if state.faulted = false ∧ state.moduleMutex = .connecting then some (unblock sent state) else none
  | .connack accepted =>
    if state.faulted = false ∧ state.moduleMutex = .sent then
      some { state with connected := accepted, moduleMutex := .free }
    else none
  | .disconnect =>
    if state.faulted = false ∧ state.moduleMutex = .free ∧ state.connected = true then
      some { state with connected := false }
    else none
  | .advance thread => if state.faulted = false then advance thread state else none

def initial : State := ⟨.initial, false, false, .free, fun _ => .absent, 0, false⟩

/-! ## What a step does -/

section Steps

variable {library result : Library} {lost : List Nat} {pointer : Pointer} {cell thread : Nat}
  {state next : State}

theorem post_cases (posted : library.post pointer = some result) :
    ∃ cell count, library.pointer pointer = some cell ∧
      library.heap cell = some (.semaphore count) ∧ result = library.write cell (count + 1) := by
  unfold Library.post at posted
  split at posted
  · next cell points =>
    split at posted
    · next count read =>
      cases posted
      exact ⟨cell, count, points, read, rfl⟩
    · cases posted
  · cases posted

theorem post_of_points {count : Nat} (points : Points library pointer (.semaphore count)) :
    ∃ cell, library.pointer pointer = some cell ∧ library.heap cell = some (.semaphore count) ∧
      library.post pointer = some (library.write cell (count + 1)) := by
  obtain ⟨cell, pointed, read⟩ := points
  exact ⟨cell, pointed, read, by rw [Library.post, pointed]; dsimp only; rw [read]⟩

theorem pass_cases {next : Library → State} {result : State} (passed : state.pass cell next = some result) :
    (∃ count, state.library.heap cell = some (.semaphore (count + 1)) ∧
      result = next (state.library.write cell count)) ∨ result = state.fault := by
  unfold State.pass Library.take at passed
  split at passed
  · cases passed
  · next library taken =>
    cases passed
    split at taken
    · next count read =>
      cases taken
      exact .inl ⟨count, read, rfl⟩
    · cases taken
    · cases taken
  · cases passed
    exact .inr rfl

theorem pass_of_read {count : Nat} (read : state.library.heap cell = some (.semaphore (count + 1)))
    (next : Library → State) : state.pass cell next = some (next (state.library.write cell count)) := by
  rw [State.pass, Library.take, read]

theorem mqttClientCtxDelete_effect (deleted : mqttClientCtxDelete library = some result) :
    Effect library [] result ∧ result = { library.release .ackSyncObj with inUse := false } := by
  unfold mqttClientCtxDelete at deleted
  split at deleted
  · cases deleted
    exact ⟨((Effect.refl library).release .ackSyncObj).flags false
      (library.release .ackSyncObj).closeContext, rfl⟩
  · cases deleted

/-- The ways in which `MQTTClient_delete` goes up to its wait. -/
inductive Deleting (thread : Nat) (state : State) : State → Prop where
  | null (null : state.mqttClient = false) :
      Deleting thread state { state.set thread .exited with connected := false }
  | faults : Deleting thread state state.fault
  | waits {base library : Library} {cell : Nat}
      (deleted : mqttClientCtxDelete { state.library with closeContext := true } = some base)
      (points : base.pointer .waitForMqttClose = some cell) (posted : base.post .syncRxTx = some library) :
      Deleting thread state
        { state.set thread (.deleting cell) with library := library, moduleMutex := .deleting }
  | frees {base : Library}
      (deleted : mqttClientCtxDelete { state.library with closeContext := true } = some base)
      (null : base.pointer .waitForMqttClose = none) :
      Deleting thread state (finishDelete thread base state)

theorem delete_deleting (thread : Nat) (state : State) :
    Deleting thread state (delete thread state) := by
  unfold delete
  split
  · next null => exact .null null
  · split
    · exact .faults
    · next base deleted =>
      split
      · exact .faults
      · split
        · next cell points =>
          split
          · next library posted => exact .waits deleted points posted
          · exact .faults
        · next null =>
          split
          · exact .faults
          · exact .frees deleted null

/-- The ways in which a context thread advances. -/
inductive Advance (thread : Nat) (state : State) : State → Prop where
  | faults : Advance thread state state.fault
  | clears {cell : Nat} (starting : state.threads thread = .starting)
      (points : state.library.pointer .waitForMqttClose = some cell) :
      Advance thread state (state.set thread (.clearing cell))
  | cleared {cell count : Nat} (clearing : state.threads thread = .clearing cell)
      (read : state.library.heap cell = some (.semaphore (count + 1))) :
      Advance thread state
        { state.set thread .cleared with library := state.library.write cell count }
  | blocks {cell : Nat} (cleared : state.threads thread = .cleared)
      (points : state.library.pointer .syncRxTx = some cell) :
      Advance thread state (state.set thread (.blocked cell))
  | runs {cell count : Nat} (blocked : state.threads thread = .blocked cell)
      (read : state.library.heap cell = some (.semaphore (count + 1))) :
      Advance thread state
        { state.set thread .running with library := state.library.write cell count }
  | returns {library : Library} (running : state.threads thread = .running)
      (posted : state.library.post .waitForMqttClose = some library) :
      Advance thread state { state.set thread .returned with library := library }
  | deletes {result : State} (returned : state.threads thread = .returned)
      (free : state.moduleMutex = .free) (deleting : Deleting thread state result) :
      Advance thread state result
  | finishes {cell count : Nat} (deleting : state.threads thread = .deleting cell)
      (read : state.library.heap cell = some (.semaphore (count + 1))) :
      Advance thread state (finishDelete thread (state.library.write cell count) state)

theorem advance_cases (advanced : advance thread state = some next) : Advance thread state next := by
  unfold advance at advanced
  cases phase : state.threads thread with
  | absent | exited => rw [phase] at advanced; cases advanced
  | starting =>
    rw [phase] at advanced
    cases advanced
    cases points : state.library.pointer .waitForMqttClose with
    | none => rw [State.reach, points]; exact .faults
    | some cell => rw [State.reach, points]; exact .clears phase points
  | clearing cell =>
    rw [phase] at advanced
    obtain ⟨count, read, rfl⟩ | rfl := pass_cases advanced
    · exact .cleared phase read
    · exact .faults
  | cleared =>
    rw [phase] at advanced
    cases advanced
    cases points : state.library.pointer .syncRxTx with
    | none => rw [State.reach, points]; exact .faults
    | some cell => rw [State.reach, points]; exact .blocks phase points
  | blocked cell =>
    rw [phase] at advanced
    obtain ⟨count, read, rfl⟩ | rfl := pass_cases advanced
    · exact .runs phase read
    · exact .faults
  | running =>
    rw [phase] at advanced
    dsimp only at advanced
    split at advanced
    · next library posted =>
      cases advanced
      exact .returns phase posted
    · cases advanced
      exact .faults
  | returned =>
    rw [phase] at advanced
    dsimp only at advanced
    split at advanced
    · next free =>
      cases advanced
      exact .deletes phase free (delete_deleting thread state)
    · cases advanced
  | deleting cell =>
    rw [phase] at advanced
    obtain ⟨count, read, rfl⟩ | rfl := pass_cases advanced
    · exact .finishes phase read
    · exact .faults

end Steps

/-! ## What is lost -/

section Accounting

variable {library result : Library} {lost : List Nat} {pointer : Pointer} {thread : Nat}
  {state next : State} {event : Event}

/-- The cells whose last pointer a step overwrites. -/
def overwritten (state : State) : Event → List Nat
  | .connect _ calls _ _ => held (overwrites calls) state.library.pointer
  | _ => []

def overwrittenAlong : State → List Event → List Nat
  | _, [] => []
  | state, event :: events =>
    match step state event with
    | some next => overwrittenAlong next events ++ overwritten state event
    | none => []

/-- The step overwrites no pointer but with `NULL` in it. -/
def LosesNothing (state : State) (event : Event) : Prop := overwritten state event = []

theorem Sound.post (sound : Sound library lost) (posted : library.post pointer = some result) :
    Sound result lost := by
  obtain ⟨_, count, _, read, rfl⟩ := post_cases posted
  exact sound.write read (count + 1)

theorem Sound.free (sound : Sound library lost) : Sound (mqttClientFree library) lost :=
  sound.effect (mqttClientFree_effect (.refl library))

theorem Sound.ctxDelete (sound : Sound state.library lost)
    (deleted : mqttClientCtxDelete { state.library with closeContext := true } = some result) :
    Sound result lost := by
  have flagged := sound.effect ((Effect.refl state.library).flags state.library.inUse true)
  exact flagged.effect (mqttClientCtxDelete_effect deleted).1

theorem Sound.deleting (sound : Sound state.library lost) (deleting : Deleting thread state next) :
    Sound next.library lost := by
  cases deleting with
  | null => exact sound
  | faults => exact sound
  | waits deleted _ posted => exact (sound.ctxDelete deleted).post posted
  | frees deleted _ => exact (sound.ctxDelete deleted).free

theorem Sound.advance (sound : Sound state.library lost) (advance : Advance thread state next) :
    Sound next.library lost := by
  cases advance with
  | faults | clears | blocks => exact sound
  | cleared _ read => exact sound.write read _
  | runs _ read => exact sound.write read _
  | returns _ posted => exact sound.post posted
  | deletes _ _ deleting => exact sound.deleting deleting
  | finishes _ read => exact (sound.write read _).free

theorem connect_library (params : ConnParams) (calls : Calls) (threadStarted registered : Bool)
    (state : State) : (connect params calls threadStarted registered state).library =
      (mqttClientCreate params calls state.library).1 := by
  unfold connect
  dsimp only
  split
  · rfl
  · rfl

theorem step_sound (sound : Sound state.library lost) (stepped : step state event = some next) :
    Sound next.library (overwritten state event ++ lost) := by
  cases event with
  | connect params calls threadStarted registered =>
    rw [step, Option.ite_none_right_eq_some] at stepped
    obtain ⟨_, stepped⟩ := stepped
    cases stepped
    rw [connect_library]
    exact sound.effect (mqttClientCreate_effect params calls state.library)
  | unblock sent =>
    rw [step, Option.ite_none_right_eq_some] at stepped
    obtain ⟨_, stepped⟩ := stepped
    cases stepped
    unfold unblock
    split
    · next library posted => exact sound.post posted
    · exact sound
  | connack accepted | disconnect =>
    rw [step, Option.ite_none_right_eq_some] at stepped
    obtain ⟨_, stepped⟩ := stepped
    cases stepped
    exact sound
  | advance thread =>
    rw [step, Option.ite_none_right_eq_some] at stepped
    exact sound.advance (advance_cases stepped.2)

theorem exec_sound (events : List Event) (sound : Sound state.library lost)
    (ran : exec step state events = some next) :
    Sound next.library (overwrittenAlong state events ++ lost) := by
  induction events generalizing state lost with
  | nil =>
    cases ran
    exact sound
  | cons event events inductionHypothesis =>
    obtain ⟨middle, stepped, rest⟩ := Option.bind_eq_some_iff.mp ran
    have later := inductionHypothesis (step_sound sound stepped) rest
    rwa [overwrittenAlong, stepped, List.append_assoc]

theorem overwrittenAlong_eq_nil (events : List Event) (ran : exec step state events = some next) :
    overwrittenAlong state events = [] ↔ Along step LosesNothing state events := by
  induction events generalizing state with
  | nil => exact ⟨fun _ => trivial, fun _ => rfl⟩
  | cons event events inductionHypothesis =>
    obtain ⟨middle, stepped, rest⟩ := Option.bind_eq_some_iff.mp ran
    rw [overwrittenAlong, stepped, List.append_eq_nil_iff, inductionHypothesis rest]
    constructor
    · intro both
      refine ⟨both.2, ?_⟩
      intro other same
      rw [stepped] at same
      cases same
      exact both.1
    · intro both
      exact ⟨both.2 middle stepped, both.1⟩

/-- What is allocated at the end of a run is what the pointers point to and what the creations
of the run have overwritten the pointers of; so everything is still pointed to exactly if each
creation found `NULL` in them. -/
theorem cells_accounted (events : List Event) (ran : exec step initial events = some state) :
    Owns state.library.heap
      (held pointers state.library.pointer ++ overwrittenAlong initial events) ∧
    ((∀ cell object, state.library.heap cell = some object →
        ∃ pointer, state.library.pointer pointer = some cell) ↔
      Along step LosesNothing initial events) := by
  have sound : Sound state.library (overwrittenAlong initial events ++ []) :=
    exec_sound events Sound.initial ran
  rw [List.append_nil] at sound
  refine ⟨sound.accounts, ?_⟩
  rw [← overwrittenAlong_eq_nil events ran]
  constructor
  · intro pointed
    rw [List.eq_nil_iff_forall_not_mem]
    intro cell member
    obtain ⟨object, read⟩ := Owns.read sound.accounts (List.mem_append_right _ member)
    obtain ⟨pointer, points⟩ := pointed cell object read
    exact sound.accounts.ne points (mem_pointers pointer) member rfl
  · intro nothing cell object read
    have listed := (sound.accounts.allocated cell).mp (by simp [read])
    rw [nothing, List.append_nil] at listed
    obtain ⟨pointer, _, points⟩ := mem_held.mp listed
    exact ⟨pointer, points⟩

end Accounting

def allDone : Calls := ⟨.done, .done, .done, 0, 0, 0, .done, .done, 0⟩

/-- A connection that is not secure. -/
def plainParams : ConnParams := ⟨false, false, false, 0⟩

/-- The context thread of the first connect cannot be started. -/
def connectTwice : List Event :=
  [.connect plainParams allDone false true, .connect plainParams allDone true true]

theorem cells_accounted_twice :
    ∃ state, exec step initial connectTwice = some state ∧
      Owns state.library.heap (held pointers state.library.pointer ++ [0, 1, 2, 4]) ∧
      ¬ Along step LosesNothing initial connectTwice := by
  obtain ⟨state, ran⟩ : ∃ state, exec step initial connectTwice = some state := ⟨_, rfl⟩
  have accounted := cells_accounted connectTwice ran
  have along : overwrittenAlong initial connectTwice = [0, 1, 2, 4] := by decide
  refine ⟨state, ran, along ▸ accounted.1, ?_⟩
  rw [← overwrittenAlong_eq_nil connectTwice ran, along]
  simp

end PlhrFirmware.Client.Lifecycle
