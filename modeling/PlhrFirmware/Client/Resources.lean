import PlhrFirmware.Lib.Slots

/-! # What the client library allocates

`MQTTClient_create` allocates the semaphores and mutexes of `MQTTClient_Lib_CB` and the
`ackSyncObj` of the one client context, and gives up where an allocation or a call fails.  It looks
at none of the pointers that it stores into but `MQTTClient_waitForMqttClose`.
-/

namespace PlhrFirmware.Client.Lifecycle

open PlhrFirmware.Lib

/-! ## The control block -/

inductive Pointer where
  | syncRxTx
  | libLock
  | mutex
  | waitForMqttClose
  | ackSyncObj
  deriving DecidableEq, Repr

def pointers : List Pointer := [.syncRxTx, .libLock, .mutex, .waitForMqttClose, .ackSyncObj]

inductive Object where
  | semaphore (count : Nat)
  | mutex
  deriving DecidableEq, Repr

/-- The allocations are numbered in their order.  `MQTTClient_clientCfg` has no loopback port, so
that there is one client context, which `inUse` is a field of. -/
structure Library where
  heap : Nat → Option Object
  allocated : Nat
  pointer : Pointer → Option Nat
  inUse : Bool
  closeContext : Bool

def Library.initial : Library := ⟨fun _ => none, 0, fun _ => none, false, false⟩

/-- What `malloc` and the initialisation behind it come to. -/
inductive Making where
  | noMemory
  | notInitialized
  | done
  deriving DecidableEq, Repr

namespace Library

def allocate (pointer : Pointer) (object : Object) (library : Library) : Library :=
  { library with
    heap := Function.update library.heap library.allocated (some object)
    allocated := library.allocated + 1
    pointer := Function.update library.pointer pointer (some library.allocated) }

/-- The pointer is overwritten with `NULL`, and nothing is freed. -/
def forget (pointer : Pointer) (library : Library) : Library :=
  { library with pointer := Function.update library.pointer pointer none }

/-- What the pointer points to is destroyed and freed. -/
def release (pointer : Pointer) (library : Library) : Library :=
  match library.pointer pointer with
  | some cell => { library with
      heap := Function.update library.heap cell none
      pointer := Function.update library.pointer pointer none }
  | none => library

def make (pointer : Pointer) (object : Object) (library : Library) : Making → Library × Bool
  | .noMemory => (library.forget pointer, false)
  | .notInitialized => (library.allocate pointer object, false)
  | .done => (library.allocate pointer object, true)

def write (cell count : Nat) (library : Library) : Library :=
  { library with heap := Function.update library.heap cell (some (.semaphore count)) }

/-- `sem_post`; `none` where there is no semaphore. -/
def post (pointer : Pointer) (library : Library) : Option Library :=
  match library.pointer pointer with
  | some cell =>
    match library.heap cell with
    | some (.semaphore count) => some (library.write cell (count + 1))
    | _ => none
  | none => none

end Library

/-! ## `MQTTClient_create` -/

/-- The fields of `MQTTClient_ConnParams` that `MqttClientCtxCreate` checks. -/
structure ConnParams where
  sec : Bool
  udp : Bool
  cipher : Bool
  nFiles : Nat
  deriving DecidableEq, Repr

/-- What the calls of `MQTTClient_create` come to. -/
structure Calls where
  syncRxTx : Making
  libLock : Making
  mutex : Making
  initLib : Int
  registerBuffers : Int
  registerNetSvc : Int
  waitForMqttClose : Making
  ackSyncObj : Making
  createCtx : Int
  deriving DecidableEq, Repr

def mqttClientConfig (calls : Calls) (library : Library) : Library × Int :=
  let (library, made) := library.make .syncRxTx (.semaphore 0) calls.syncRxTx
  if made = false then (library, -1)
  else
    let (library, made) := library.make .libLock .mutex calls.libLock
    if made = false then (library, -1)
    else
      let (library, made) := library.make .mutex .mutex calls.mutex
      if made = false then (library, -1)
      else if calls.initLib < 0 then (library, -1)
      else (library, 0)

def getAvailableClictxMem (library : Library) : Library × Bool :=
  if library.inUse = false then ({ library with inUse := true }, true) else (library, false)

/-- A secure connection needs its parameters, and is not one over UDP. -/
def ConnParams.refused (params : ConnParams) : Bool :=
  params.sec && (params.udp || !(params.cipher && params.nFiles != 0))

def mqttClientCtxCreate (params : ConnParams) (calls : Calls) (library : Library) :
    Library × Int :=
  let (library, available) := getAvailableClictxMem library
  if available = false then (library, -1)
  else
    let (library, made) := library.make .ackSyncObj (.semaphore 0) calls.ackSyncObj
    if made = false then
      ({ library with inUse := decide (calls.ackSyncObj = .noMemory) }, -1)
    else if params.refused then (library.release .ackSyncObj, -1)
    else if calls.createCtx < 0 then
      ({ library.release .ackSyncObj with inUse := false }, -1)
    else (library, 0)

/-- Whether the handle is 1. -/
def mqttClientCreate (params : ConnParams) (calls : Calls) (library : Library) : Library × Bool :=
  let (library, ret) := mqttClientConfig calls { library with closeContext := false }
  if ret ≠ 0 then (library, false)
  else
    -- `memset` of the contexts
    let library := { library.forget .ackSyncObj with inUse := false }
    if calls.registerBuffers ≠ 0 then (library, false)
    else if calls.registerNetSvc ≠ 0 then (library, false)
    else
      let library := library.release .waitForMqttClose
      let (library, made) :=
        library.make .waitForMqttClose (.semaphore 1) calls.waitForMqttClose
      if made = false then (library, false)
      else
        let (library, ret) := mqttClientCtxCreate params calls library
        if ret ≠ 0 then (library, false) else (library, true)

/-! ## `MQTTClient_delete` -/

/-- The objects that are freed behind the wait for `MQTTClient_run`. -/
def mqttClientFree (library : Library) : Library :=
  (((library.release .waitForMqttClose).release .libLock).release .mutex).release .syncRxTx

/-- `MqttClientCtxDelete`, of which the `memset` clears `inUse`; `none` without an `ackSyncObj`. -/
def mqttClientCtxDelete (library : Library) : Option Library :=
  if (library.pointer .ackSyncObj).isSome then
    some { library.release .ackSyncObj with inUse := false }
  else none

/-! ## Accounting -/

def Configured (calls : Calls) : Prop :=
  calls.syncRxTx = .done ∧ calls.libLock = .done ∧ calls.mutex = .done ∧ 0 ≤ calls.initLib

instance (calls : Calls) : Decidable (Configured calls) :=
  inferInstanceAs (Decidable (_ ∧ _ ∧ _ ∧ _))

def configures (calls : Calls) : List Pointer :=
  if calls.syncRxTx ≠ .done then [.syncRxTx]
  else if calls.libLock ≠ .done then [.syncRxTx, .libLock]
  else [.syncRxTx, .libLock, .mutex]

/-- The pointers that a creation stores into without looking at them. -/
def overwrites (calls : Calls) : List Pointer :=
  if Configured calls then configures calls ++ [.ackSyncObj] else configures calls

/-- The pointers and what has been lost account for what is allocated. -/
structure Sound (library : Library) (lost : List Nat) : Prop where
  accounts : Accounts library.heap pointers library.pointer lost
  fresh : ∀ cell, library.allocated ≤ cell → library.heap cell = none

theorem mem_pointers (pointer : Pointer) : pointer ∈ pointers := by
  cases pointer <;> decide

theorem pointers_nodup : pointers.Nodup := by decide

theorem Sound.initial : Sound .initial [] := ⟨Accounts.none pointers, fun _ _ => rfl⟩

section Operations

variable {library : Library} {lost : List Nat} {pointer other : Pointer} {cell : Nat}

theorem Sound.shift {first second : List Nat} (sound : Sound library (first ++ (second ++ lost))) :
    Sound library ((second ++ first) ++ lost) := by
  refine ⟨Owns.perm sound.accounts (List.Perm.append_left _ ?_), sound.fresh⟩
  rw [← List.append_assoc]
  exact List.perm_append_comm.append_right lost

theorem Sound.forget (sound : Sound library lost) (pointer : Pointer) :
    Sound (library.forget pointer) ((library.pointer pointer).toList ++ lost) :=
  ⟨sound.accounts.forget pointers_nodup (mem_pointers pointer), sound.fresh⟩

theorem Sound.allocate (sound : Sound library lost) (pointer : Pointer) (object : Object) :
    Sound (library.allocate pointer object) ((library.pointer pointer).toList ++ lost) := by
  have fresh := sound.fresh library.allocated (Nat.le_refl _)
  refine ⟨sound.accounts.store pointers_nodup (mem_pointers pointer) fresh object, ?_⟩
  intro cell bound
  have later : library.allocated < cell := bound
  have different : cell ≠ library.allocated := by omega
  change Function.update library.heap library.allocated (some object) cell = none
  rw [Function.update_of_ne different]
  exact sound.fresh cell (by omega)

theorem forget_pointer : (library.forget pointer).pointer pointer = none := Function.update_self ..

theorem allocate_pointer (object : Object) :
    (library.allocate pointer object).pointer pointer = some library.allocated :=
  Function.update_self ..

theorem release_some (points : library.pointer pointer = some cell) :
    library.release pointer = { library with
      heap := Function.update library.heap cell none
      pointer := Function.update library.pointer pointer none } := by
  rw [Library.release, points]

theorem release_none (null : library.pointer pointer = none) :
    library.release pointer = library := by
  rw [Library.release, null]

theorem Sound.release (sound : Sound library lost) (pointer : Pointer) :
    Sound (library.release pointer) lost := by
  cases points : library.pointer pointer with
  | none => rwa [release_none points]
  | some cell =>
    rw [release_some points]
    refine ⟨sound.accounts.release pointers_nodup (mem_pointers pointer) points, ?_⟩
    intro other bound
    by_cases same : other = cell
    · rw [same]; exact Function.update_self ..
    · exact (Function.update_of_ne same ..).trans (sound.fresh other bound)

theorem Sound.allocated_of_read (sound : Sound library lost) {object : Object}
    (read : library.heap cell = some object) : cell < library.allocated := by
  by_contra outside
  rw [sound.fresh cell (by omega)] at read
  cases read

theorem Sound.write (sound : Sound library lost) {object : Object}
    (read : library.heap cell = some object) (count : Nat) : Sound (library.write cell count) lost := by
  refine ⟨sound.accounts.write read _, ?_⟩
  intro other bound
  have inside := sound.allocated_of_read read
  have later : library.allocated ≤ other := bound
  have different : other ≠ cell := by omega
  exact (Function.update_of_ne different ..).trans (sound.fresh other bound)

@[simp] theorem release_pointer_self : (library.release pointer).pointer pointer = none := by
  cases points : library.pointer pointer with
  | none => rw [release_none points, points]
  | some cell => rw [release_some points]; exact Function.update_self ..

theorem release_pointer (different : other ≠ pointer) :
    (library.release pointer).pointer other = library.pointer other := by
  cases points : library.pointer pointer with
  | none => rw [release_none points]
  | some cell => rw [release_some points]; exact Function.update_of_ne different ..

theorem make_pointer (different : other ≠ pointer) (object : Object) (making : Making) :
    (library.make pointer object making).1.pointer other = library.pointer other := by
  cases making with
  | noMemory | notInitialized | done => exact Function.update_of_ne different ..

theorem make_failed {object : Object} {making : Making} :
    (library.make pointer object making).2 = false ↔ making ≠ .done := by
  cases making with
  | noMemory | notInitialized | done => simp [Library.make]

end Operations

/-! ## Effects -/

/-- What a sequence of operations does to the library, with what it loses. -/
inductive Effect : Library → List Nat → Library → Prop where
  | refl (library : Library) : Effect library [] library
  | flags {library : Library} {lost : List Nat} {result : Library} (inUse closeContext : Bool)
      (effect : Effect library lost result) :
      Effect library lost { result with inUse := inUse, closeContext := closeContext }
  | forget {library : Library} {lost : List Nat} {result : Library} (pointer : Pointer)
      (effect : Effect library lost result) :
      Effect library (lost ++ (result.pointer pointer).toList) (result.forget pointer)
  | allocate {library : Library} {lost : List Nat} {result : Library} (pointer : Pointer)
      (object : Object) (effect : Effect library lost result) :
      Effect library (lost ++ (result.pointer pointer).toList) (result.allocate pointer object)
  | release {library : Library} {lost : List Nat} {result : Library} (pointer : Pointer)
      (effect : Effect library lost result) : Effect library lost (result.release pointer)

section Effects

variable {library result : Library} {lost more : List Nat}

theorem Sound.effect (sound : Sound library lost) (effect : Effect library more result) :
    Sound result (more ++ lost) := by
  induction effect with
  | refl => exact sound
  | flags _ _ _ inductionHypothesis => exact ⟨inductionHypothesis.accounts, inductionHypothesis.fresh⟩
  | forget pointer _ inductionHypothesis => exact (inductionHypothesis.forget pointer).shift
  | allocate pointer object _ inductionHypothesis =>
    exact (inductionHypothesis.allocate pointer object).shift
  | release pointer _ inductionHypothesis => exact inductionHypothesis.release pointer

theorem Effect.trans {middle : Library} (first : Effect library lost middle)
    (second : Effect middle more result) : Effect library (lost ++ more) result := by
  induction second with
  | refl => rw [List.append_nil]; exact first
  | flags inUse closeContext _ inductionHypothesis => exact inductionHypothesis.flags inUse closeContext
  | forget pointer _ inductionHypothesis =>
    rw [← List.append_assoc]
    exact inductionHypothesis.forget pointer
  | allocate pointer object _ inductionHypothesis =>
    rw [← List.append_assoc]
    exact inductionHypothesis.allocate pointer object
  | release pointer _ inductionHypothesis => exact inductionHypothesis.release pointer

theorem Effect.make (effect : Effect library more result) (pointer : Pointer) (object : Object)
    (making : Making) :
    Effect library (more ++ (result.pointer pointer).toList) (result.make pointer object making).1 := by
  cases making with
  | noMemory => exact effect.forget pointer
  | notInitialized | done => exact effect.allocate pointer object

end Effects

/-! ## Creating -/

section Creating

variable {library result : Library} {more : List Nat}

/-- The library behind each of the three allocations of the configuration. -/
def withSyncRxTx (calls : Calls) (library : Library) : Library :=
  (library.make .syncRxTx (.semaphore 0) calls.syncRxTx).1

def withLibLock (calls : Calls) (library : Library) : Library :=
  ((withSyncRxTx calls library).make .libLock .mutex calls.libLock).1

def withMutex (calls : Calls) (library : Library) : Library :=
  ((withLibLock calls library).make .mutex .mutex calls.mutex).1

/-- Where the configuration ends, and with what. -/
theorem mqttClientConfig_cases (calls : Calls) (library : Library) :
    (mqttClientConfig calls library = (withSyncRxTx calls library, -1) ∧ ¬ Configured calls ∧
      configures calls = [.syncRxTx]) ∨
    (mqttClientConfig calls library = (withLibLock calls library, -1) ∧ ¬ Configured calls ∧
      configures calls = [.syncRxTx, .libLock]) ∨
    configures calls = [.syncRxTx, .libLock, .mutex] ∧
      (mqttClientConfig calls library = (withMutex calls library, -1) ∧ ¬ Configured calls ∨
        mqttClientConfig calls library = (withMutex calls library, 0) ∧ Configured calls) := by
  unfold mqttClientConfig Configured configures withMutex withLibLock withSyncRxTx
  by_cases doneFirst : calls.syncRxTx = .done
  · by_cases doneSecond : calls.libLock = .done
    · refine .inr (.inr ⟨by simp [doneFirst, doneSecond], ?_⟩)
      by_cases doneThird : calls.mutex = .done
      · by_cases initialized : calls.initLib < 0
        · refine .inl ⟨?_, fun configured => absurd configured.2.2.2 (Int.not_le.mpr initialized)⟩
          simp [doneFirst, doneSecond, doneThird, initialized, make_failed]
        · refine .inr ⟨?_, doneFirst, doneSecond, doneThird, Int.not_lt.mp initialized⟩
          simp [doneFirst, doneSecond, doneThird, initialized, make_failed]
      · refine .inl ⟨?_, fun configured => doneThird configured.2.2.1⟩
        simp [doneFirst, doneSecond, doneThird, make_failed]
    · refine .inr (.inl ⟨?_, fun configured => doneSecond configured.2.1, ?_⟩)
      · simp [doneFirst, doneSecond, make_failed]
      · simp [doneFirst, doneSecond]
  · refine .inl ⟨?_, fun configured => doneFirst configured.1, ?_⟩
    · simp [doneFirst, make_failed]
    · simp [doneFirst]

theorem mqttClientConfig_done {calls : Calls} (configured : Configured calls) (library : Library) :
    mqttClientConfig calls library = (withMutex calls library, 0) := by
  obtain ⟨_, failed, _⟩ | ⟨_, failed, _⟩ | ⟨_, ⟨_, failed⟩ | ⟨ends, _⟩⟩ :=
    mqttClientConfig_cases calls library
  · exact absurd configured failed
  · exact absurd configured failed
  · exact absurd configured failed
  · exact ends

theorem mqttClientConfig_failed {calls : Calls} (failed : ¬ Configured calls) (library : Library) :
    (mqttClientConfig calls library).2 = -1 := by
  obtain ⟨ends, _⟩ | ⟨ends, _⟩ | ⟨_, ⟨ends, _⟩ | ⟨_, configured⟩⟩ :=
    mqttClientConfig_cases calls library
  · rw [ends]
  · rw [ends]
  · rw [ends]
  · exact absurd configured failed

theorem withMutex_pointer (calls : Calls) {pointer : Pointer} (first : pointer ≠ .syncRxTx)
    (second : pointer ≠ .libLock) (third : pointer ≠ .mutex) :
    (withMutex calls library).pointer pointer = library.pointer pointer := by
  rw [withMutex, make_pointer third, withLibLock, make_pointer second, withSyncRxTx, make_pointer first]

theorem mqttClientConfig_effect (calls : Calls) (library : Library) :
    Effect library (held (configures calls) library.pointer) (mqttClientConfig calls library).1 := by
  have first := (Effect.refl library).make .syncRxTx (.semaphore 0) calls.syncRxTx
  have second := first.make .libLock .mutex calls.libLock
  have third := second.make .mutex .mutex calls.mutex
  rw [make_pointer (by decide)] at second third
  rw [make_pointer (by decide), make_pointer (by decide)] at third
  simp only [List.nil_append, List.append_assoc] at first second third
  obtain ⟨ends, _, stores⟩ | ⟨ends, _, stores⟩ | ⟨stores, ⟨ends, _⟩ | ⟨ends, _⟩⟩ :=
    mqttClientConfig_cases calls library
  · rw [ends, stores, held_cons, held_nil, List.append_nil]
    exact first
  · rw [ends, stores, held_cons, held_cons, held_nil, List.append_nil]
    exact second
  · rw [ends, stores, held_cons, held_cons, held_cons, held_nil, List.append_nil]
    exact third
  · rw [ends, stores, held_cons, held_cons, held_cons, held_nil, List.append_nil]
    exact third

/-- A context is set up where `ackSyncObj` is `NULL`. -/
theorem mqttClientCtxCreate_effect (params : ConnParams) (calls : Calls)
    (effect : Effect library more result) (null : result.pointer .ackSyncObj = none) :
    Effect library more (mqttClientCtxCreate params calls result).1 := by
  unfold mqttClientCtxCreate getAvailableClictxMem
  by_cases used : result.inUse = false
  · have stored := (effect.flags true result.closeContext).make .ackSyncObj (.semaphore 0)
      calls.ackSyncObj
    change Effect library (more ++ (result.pointer .ackSyncObj).toList) _ at stored
    rw [null, Option.toList_none, List.append_nil] at stored
    rw [if_pos used]
    dsimp only
    rw [if_neg (by simp)]
    split
    · exact stored.flags _ _
    · split
      · exact stored.release _
      · split
        · exact (stored.release _).flags _ _
        · exact stored
  · rw [if_neg used]
    dsimp only
    rw [if_pos rfl]
    exact effect

/-- Behind the configuration a creation loses the `ackSyncObj` that the `memset` clears. -/
theorem mqttClientCreate_configured (params : ConnParams) (calls : Calls) (library : Library) :
    Effect (mqttClientConfig calls { library with closeContext := false }).1
      (if Configured calls then (library.pointer .ackSyncObj).toList else [])
      (mqttClientCreate params calls library).1 := by
  unfold mqttClientCreate
  by_cases configured : Configured calls
  · rw [mqttClientConfig_done configured, if_pos configured]
    have cleared := ((Effect.refl (withMutex calls { library with closeContext := false })).forget
      .ackSyncObj).flags false (withMutex calls { library with closeContext := false }).closeContext
    rw [withMutex_pointer calls (by decide) (by decide) (by decide), List.nil_append] at cleared
    dsimp only
    rw [if_neg (by simp)]
    split
    · exact cleared
    · split
      · exact cleared
      · have closed := cleared.release .waitForMqttClose
        have stored := closed.make .waitForMqttClose (.semaphore 1) calls.waitForMqttClose
        rw [release_pointer_self, Option.toList_none, List.append_nil] at stored
        split
        · exact stored
        · have created := mqttClientCtxCreate_effect params calls stored (by
            rw [make_pointer (by decide), release_pointer (by decide)]
            exact @forget_pointer (withMutex calls { library with closeContext := false }) .ackSyncObj)
          split
          · exact created
          · exact created
  · rw [if_neg configured]
    dsimp only
    rw [if_pos (by rw [mqttClientConfig_failed configured]; decide)]
    exact .refl _

/-- A creation loses what the pointers held that it overwrites, and nothing else. -/
theorem mqttClientCreate_effect (params : ConnParams) (calls : Calls) (library : Library) :
    Effect library (held (overwrites calls) library.pointer) (mqttClientCreate params calls library).1 := by
  have opened := (Effect.refl library).flags library.inUse false
  have configured := opened.trans (mqttClientConfig_effect calls { library with closeContext := false })
  have created := configured.trans (mqttClientCreate_configured params calls library)
  unfold overwrites
  split at created
  · next done =>
    rw [if_pos done, held_append, held_cons, held_nil, List.append_nil]
    exact created
  · next failed =>
    rw [List.append_nil] at created
    rw [if_neg failed]
    exact created

/-- What follows the first allocation of the configuration. -/
theorem withSyncRxTx_effect (params : ConnParams) (calls : Calls) (library : Library) :
    ∃ more, Effect (withSyncRxTx calls { library with closeContext := false }) more
      (mqttClientCreate params calls library).1 := by
  have created := mqttClientCreate_configured params calls library
  have second := (Effect.refl (withSyncRxTx calls { library with closeContext := false })).make
    .libLock .mutex calls.libLock
  have third := second.make .mutex .mutex calls.mutex
  obtain ⟨ends, _⟩ | ⟨ends, _⟩ | ⟨_, ⟨ends, _⟩ | ⟨ends, _⟩⟩ :=
    mqttClientConfig_cases calls { library with closeContext := false }
  · rw [ends] at created; exact ⟨_, created⟩
  · rw [ends] at created; exact ⟨_, second.trans created⟩
  · rw [ends] at created; exact ⟨_, third.trans created⟩
  · rw [ends] at created; exact ⟨_, third.trans created⟩

end Creating

/-! ## What the pointers point to -/

def Points (library : Library) (pointer : Pointer) (object : Object) : Prop :=
  ∃ cell, library.pointer pointer = some cell ∧ library.heap cell = some object

/-- The control block of a client that has been created, with the count of
`MQTTClient_waitForMqttClose`. -/
structure Opened (library : Library) (closed : Nat) : Prop where
  waitForMqttClose : Points library .waitForMqttClose (.semaphore closed)
  syncRxTx : ∃ count, Points library .syncRxTx (.semaphore count)
  libLock : Points library .libLock .mutex
  mutex : Points library .mutex .mutex

section Points

variable {library : Library} {lost : List Nat} {pointer other : Pointer} {object another : Object}

theorem Points.allocated : Points (library.allocate pointer object) pointer object :=
  ⟨library.allocated, Function.update_self .., Function.update_self ..⟩

theorem Points.made : Points (library.make pointer object .done).1 pointer object := Points.allocated

theorem Points.forget (points : Points library pointer object) (different : pointer ≠ other) :
    Points (library.forget other) pointer object := by
  obtain ⟨cell, pointed, read⟩ := points
  exact ⟨cell, (Function.update_of_ne different ..).trans pointed, read⟩

theorem Points.allocate (points : Points library pointer object) (sound : Sound library lost)
    (different : pointer ≠ other) : Points (library.allocate other another) pointer object := by
  obtain ⟨cell, pointed, read⟩ := points
  have older := sound.allocated_of_read read
  refine ⟨cell, (Function.update_of_ne different ..).trans pointed, ?_⟩
  exact (Function.update_of_ne (Nat.ne_of_lt older) ..).trans read

theorem Points.make (points : Points library pointer object) (sound : Sound library lost)
    (different : pointer ≠ other) (making : Making) :
    Points (library.make other another making).1 pointer object := by
  cases making with
  | noMemory => exact points.forget different
  | notInitialized | done => exact points.allocate sound different

theorem Points.release (points : Points library pointer object) (sound : Sound library lost)
    (different : pointer ≠ other) : Points (library.release other) pointer object := by
  cases pointed : library.pointer other with
  | none => rwa [release_none pointed]
  | some freed =>
    obtain ⟨cell, held, read⟩ := points
    rw [release_some pointed]
    refine ⟨cell, (Function.update_of_ne different ..).trans held, ?_⟩
    have apart : cell ≠ freed := by
      intro same
      subst same
      exact sound.accounts.injective pointers_nodup (mem_pointers pointer) (mem_pointers other)
        different.symm held pointed
    exact (Function.update_of_ne apart ..).trans read

/-- A semaphore that another pointer points to may count. -/
theorem Points.write (points : Points library pointer object) (sound : Sound library lost)
    (different : pointer ≠ other) {cell : Nat} (pointed : library.pointer other = some cell)
    (count : Nat) : Points (library.write cell count) pointer object := by
  obtain ⟨own, held, read⟩ := points
  refine ⟨own, held, ?_⟩
  have apart : own ≠ cell := by
    intro same
    subst same
    exact sound.accounts.injective pointers_nodup (mem_pointers pointer) (mem_pointers other)
      different.symm held pointed
  exact (Function.update_of_ne apart ..).trans read

end Points

/-! ## A creation that succeeds -/

section Created

variable {params : ConnParams} {calls : Calls} {library : Library} {lost : List Nat}

theorem mqttClientCtxCreate_created (succeeded : (mqttClientCtxCreate params calls library).2 = 0) :
    (mqttClientCtxCreate params calls library).1 =
      { library with inUse := true }.allocate .ackSyncObj (.semaphore 0) := by
  unfold mqttClientCtxCreate getAvailableClictxMem at succeeded ⊢
  by_cases used : library.inUse = false
  · simp only [used, if_true, Bool.true_eq_false, if_false] at succeeded ⊢
    by_cases done : calls.ackSyncObj = .done
    · simp only [done, Library.make, Bool.true_eq_false, if_false] at succeeded ⊢
      by_cases refused : params.refused = true
      · simp [refused] at succeeded
      · by_cases failed : calls.createCtx < 0
        · simp [refused, failed] at succeeded
        · simp [refused, failed]
    · simp [make_failed, done] at succeeded
  · simp [used] at succeeded

/-- The library before `MQTTClient_waitForMqttClose` is made. -/
def closed (calls : Calls) (library : Library) : Library :=
  { (withMutex calls { library with closeContext := false }).forget .ackSyncObj with
    inUse := false }.release .waitForMqttClose

theorem mqttClientCreate_created (succeeded : (mqttClientCreate params calls library).2 = true) :
    Configured calls ∧
      (mqttClientCreate params calls library).1 =
        { (closed calls library).allocate .waitForMqttClose (.semaphore 1) with
          inUse := true }.allocate .ackSyncObj (.semaphore 0) := by
  unfold mqttClientCreate at succeeded ⊢
  by_cases configured : Configured calls
  · rw [mqttClientConfig_done configured] at succeeded ⊢
    refine ⟨configured, ?_⟩
    dsimp only at succeeded ⊢
    rw [if_neg (by simp)] at succeeded ⊢
    by_cases registered : calls.registerBuffers ≠ 0
    · rw [if_pos registered] at succeeded
      cases succeeded
    · rw [if_neg registered] at succeeded ⊢
      by_cases services : calls.registerNetSvc ≠ 0
      · rw [if_pos services] at succeeded
        cases succeeded
      · rw [if_neg services] at succeeded ⊢
        by_cases done : calls.waitForMqttClose = .done
        · rw [done, if_neg (by simp [Library.make])] at succeeded ⊢
          split at succeeded
          · cases succeeded
          · next returned =>
            rw [if_neg returned]
            exact mqttClientCtxCreate_created (not_ne_iff.mp returned)
        · rw [if_pos (make_failed.mpr done)] at succeeded
          cases succeeded
  · dsimp only at succeeded
    rw [if_pos (by rw [mqttClientConfig_failed configured]; decide)] at succeeded
    cases succeeded

theorem closed_sound (sound : Sound (withMutex calls { library with closeContext := false }) lost) :
    ∃ more, Sound (closed calls library) more := by
  have cleared := sound.forget .ackSyncObj
  have flagged := cleared.effect ((Effect.refl _).flags false
    (withMutex calls { library with closeContext := false }).closeContext)
  exact ⟨_, flagged.release .waitForMqttClose⟩

theorem closed_points {pointer : Pointer} {object : Object}
    (points : Points (withMutex calls { library with closeContext := false }) pointer object)
    (sound : Sound (withMutex calls { library with closeContext := false }) lost)
    (notAck : pointer ≠ .ackSyncObj) (notClose : pointer ≠ .waitForMqttClose) :
    Points (closed calls library) pointer object := by
  have cleared := sound.forget .ackSyncObj
  have flagged := cleared.effect ((Effect.refl _).flags false
    (withMutex calls { library with closeContext := false }).closeContext)
  have kept : Points { (withMutex calls { library with closeContext := false }).forget .ackSyncObj with
      inUse := false } pointer object := points.forget notAck
  exact kept.release flagged notClose

/-- The last two allocations leave what the other pointers point to. -/
theorem Points.created {pointer : Pointer} {object : Object} (points : Points library pointer object)
    (sound : Sound library lost) (notAck : pointer ≠ .ackSyncObj)
    (notClose : pointer ≠ .waitForMqttClose) :
    Points ({ library.allocate .waitForMqttClose (.semaphore 1) with
      inUse := true }.allocate .ackSyncObj (.semaphore 0)) pointer object := by
  have stored := sound.allocate .waitForMqttClose (.semaphore 1)
  have flagged := stored.effect ((Effect.refl _).flags true library.closeContext)
  have kept : Points { library.allocate .waitForMqttClose (.semaphore 1) with inUse := true } pointer
      object := points.allocate sound notClose
  exact kept.allocate flagged notAck

/-- Behind a creation that succeeds `MQTTClient_waitForMqttClose` is 1. -/
theorem mqttClientCreate_opened (sound : Sound library lost)
    (succeeded : (mqttClientCreate params calls library).2 = true) :
    Opened (mqttClientCreate params calls library).1 1 ∧
      ((mqttClientCreate params calls library).1.pointer .ackSyncObj).isSome := by
  obtain ⟨⟨first, second, third, _⟩, created⟩ := mqttClientCreate_created succeeded
  rw [created]
  have start := sound.effect ((Effect.refl library).flags library.inUse false)
  have soundFirst := start.effect ((Effect.refl _).make .syncRxTx (.semaphore 0) calls.syncRxTx)
  have soundSecond := soundFirst.effect ((Effect.refl _).make .libLock .mutex calls.libLock)
  have soundThird := soundSecond.effect ((Effect.refl _).make .mutex .mutex calls.mutex)
  have syncRxTx : Points (withSyncRxTx calls { library with closeContext := false }) .syncRxTx
      (.semaphore 0) := by
    rw [withSyncRxTx, first]
    exact .made
  have libLock : Points (withLibLock calls { library with closeContext := false }) .libLock .mutex := by
    rw [withLibLock, second]
    exact .made
  have mutex : Points (withMutex calls { library with closeContext := false }) .mutex .mutex := by
    rw [withMutex, third]
    exact .made
  have syncRxTx : Points (withLibLock calls { library with closeContext := false }) .syncRxTx
      (.semaphore 0) := syncRxTx.make soundFirst (by decide) calls.libLock
  have syncRxTx : Points (withMutex calls { library with closeContext := false }) .syncRxTx
      (.semaphore 0) := syncRxTx.make soundSecond (by decide) calls.mutex
  have libLock : Points (withMutex calls { library with closeContext := false }) .libLock .mutex :=
    libLock.make soundSecond (by decide) calls.mutex
  obtain ⟨_, soundClosed⟩ := closed_sound soundThird
  have soundMade := soundClosed.allocate .waitForMqttClose (.semaphore 1)
  have flagged := soundMade.effect ((Effect.refl _).flags true (closed calls library).closeContext)
  have waitForMqttClose : Points { (closed calls library).allocate .waitForMqttClose (.semaphore 1) with
      inUse := true } .waitForMqttClose (.semaphore 1) :=
    @Points.allocated (closed calls library) .waitForMqttClose (.semaphore 1)
  refine ⟨⟨?_, ⟨0, ?_⟩, ?_, ?_⟩, ?_⟩
  · exact waitForMqttClose.allocate flagged (by decide)
  · exact (closed_points syncRxTx soundThird (by decide) (by decide)).created soundClosed (by decide)
      (by decide)
  · exact (closed_points libLock soundThird (by decide) (by decide)).created soundClosed (by decide)
      (by decide)
  · exact (closed_points mutex soundThird (by decide) (by decide)).created soundClosed (by decide)
      (by decide)
  · rw [Library.allocate]
    simp

end Created

/-! ## Freeing -/

section Freeing

variable {library result : Library} {lost more : List Nat} {cell : Nat}

theorem mqttClientFree_effect (effect : Effect library more result) :
    Effect library more (mqttClientFree result) :=
  (((effect.release .waitForMqttClose).release .libLock).release .mutex).release .syncRxTx

theorem mqttClientFree_pointer (null : library.pointer .ackSyncObj = none) (pointer : Pointer) :
    (mqttClientFree library).pointer pointer = none := by
  cases pointer with
  | syncRxTx => exact release_pointer_self
  | mutex => rw [mqttClientFree, release_pointer (by decide), release_pointer_self]
  | libLock =>
    rw [mqttClientFree, release_pointer (by decide), release_pointer (by decide), release_pointer_self]
  | waitForMqttClose =>
    rw [mqttClientFree, release_pointer (by decide), release_pointer (by decide),
      release_pointer (by decide), release_pointer_self]
  | ackSyncObj =>
    rw [mqttClientFree, release_pointer (by decide), release_pointer (by decide),
      release_pointer (by decide), release_pointer (by decide), null]

/-! ## What no pointer points to -/

structure Unheld (library : Library) (cell : Nat) : Prop where
  notHeld : ∀ pointer, library.pointer pointer ≠ some cell
  allocated : cell < library.allocated

/-- Nothing reaches a cell again that no pointer points to. -/
theorem Unheld.effect (unheld : Unheld library cell) (effect : Effect library more result) :
    Unheld result cell ∧ result.heap cell = library.heap cell := by
  induction effect with
  | refl => exact ⟨unheld, rfl⟩
  | flags _ _ _ inductionHypothesis =>
    obtain ⟨⟨notHeld, allocated⟩, kept⟩ := inductionHypothesis
    exact ⟨⟨notHeld, allocated⟩, kept⟩
  | @forget _ result pointer _ inductionHypothesis =>
    obtain ⟨⟨notHeld, allocated⟩, kept⟩ := inductionHypothesis
    refine ⟨⟨?_, allocated⟩, kept⟩
    intro other
    by_cases same : other = pointer
    · rw [same, forget_pointer]
      simp
    · exact (Function.update_of_ne same ..).trans_ne (notHeld other)
  | @allocate _ result pointer object _ inductionHypothesis =>
    obtain ⟨⟨notHeld, allocated⟩, kept⟩ := inductionHypothesis
    refine ⟨⟨?_, Nat.lt_succ_of_lt allocated⟩, ?_⟩
    · intro other
      by_cases same : other = pointer
      · subst same
        rw [allocate_pointer]
        intro points
        cases points
        exact Nat.lt_irrefl _ allocated
      · exact (Function.update_of_ne same ..).trans_ne (notHeld other)
    · exact (Function.update_of_ne (Nat.ne_of_lt allocated) ..).trans kept
  | @release _ result pointer _ inductionHypothesis =>
    obtain ⟨⟨notHeld, allocated⟩, kept⟩ := inductionHypothesis
    cases points : result.pointer pointer with
    | none => rw [release_none points]; exact ⟨⟨notHeld, allocated⟩, kept⟩
    | some freed =>
      have apart : cell ≠ freed := fun same => notHeld pointer (same ▸ points)
      refine ⟨⟨?_, ?_⟩, ?_⟩
      · intro other
        by_cases same : other = pointer
        · rw [same, release_pointer_self]
          simp
        · rw [release_pointer same]
          exact notHeld other
      · rw [release_some points]; exact allocated
      · rw [release_some points]
        exact (Function.update_of_ne apart ..).trans kept

end Freeing

end PlhrFirmware.Client.Lifecycle
