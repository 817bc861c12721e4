import PlhrFirmware.Client.Lifecycle

/-! # Context threads

What a context thread finds in the control block where one client follows another, and what becomes
of a thread that waits when the next client is created.
-/

namespace PlhrFirmware.Client.Lifecycle

open PlhrFirmware.Lib

/-! ## One context thread at a time -/

def Ended (phase : ThreadPhase) : Prop := phase = .absent ∨ phase = .exited

/-- A connect comes only when the context threads of the earlier ones have exited. -/
def Alone (state : State) : Event → Prop
  | .connect _ _ _ _ => ∀ thread, Ended (state.threads thread)
  | _ => True

/-- The client of a context thread that has not begun to delete it. -/
structure Attached (state : State) (closed : Nat) : Prop where
  opened : Opened state.library closed
  ackSyncObj : (state.library.pointer .ackSyncObj).isSome
  handle : state.mqttClient = true
  notDeleting : state.moduleMutex ≠ .deleting

/-- What a context thread that has not exited finds in each phase. -/
def Serves (state : State) : ThreadPhase → Prop
  | .absent | .exited => False
  | .starting => Attached state 1
  | .clearing cell => Attached state 1 ∧ state.library.pointer .waitForMqttClose = some cell
  | .cleared => Attached state 0
  | .blocked cell => Attached state 0 ∧ state.library.pointer .syncRxTx = some cell
  | .running => Attached state 0
  | .returned => Attached state 1
  | .deleting cell => Opened state.library 1 ∧ state.library.pointer .waitForMqttClose = some cell ∧
      state.library.pointer .ackSyncObj = none ∧ state.moduleMutex = .deleting

/-- Every context thread has exited, or all but one that has its client. -/
inductive Lone (state : State) : Prop where
  | nobody (ended : ∀ thread, Ended (state.threads thread)) (free : state.moduleMutex = .free)
  | single (thread : Nat) (others : ∀ other, other ≠ thread → Ended (state.threads other))
      (serves : Serves state (state.threads thread))

section Alone

variable {library result : Library} {lost : List Nat} {cell count closed thread : Nat}
  {state next : State} {event : Event}

theorem Opened.write (opened : Opened library closed) (sound : Sound library lost)
    (points : library.pointer .syncRxTx = some cell) (count : Nat) :
    Opened (library.write cell count) closed where
  waitForMqttClose := opened.waitForMqttClose.write sound (by decide) points count
  syncRxTx := ⟨count, cell, points, Function.update_self ..⟩
  libLock := opened.libLock.write sound (by decide) points count
  mutex := opened.mutex.write sound (by decide) points count

theorem Opened.rewrite (opened : Opened library closed) (sound : Sound library lost)
    (points : library.pointer .waitForMqttClose = some cell) (count : Nat) :
    Opened (library.write cell count) count where
  waitForMqttClose := ⟨cell, points, Function.update_self ..⟩
  syncRxTx := by
    obtain ⟨own, held⟩ := opened.syncRxTx
    exact ⟨own, held.write sound (by decide) points count⟩
  libLock := opened.libLock.write sound (by decide) points count
  mutex := opened.mutex.write sound (by decide) points count

theorem Opened.read (opened : Opened library closed)
    (points : library.pointer .waitForMqttClose = some cell) :
    library.heap cell = some (.semaphore closed) := by
  obtain ⟨own, pointed, read⟩ := opened.waitForMqttClose
  rw [points] at pointed
  cases pointed
  exact read

theorem Opened.flags (opened : Opened library closed) (inUse closeContext : Bool) :
    Opened { library with inUse := inUse, closeContext := closeContext } closed :=
  ⟨opened.waitForMqttClose, opened.syncRxTx, opened.libLock, opened.mutex⟩

theorem Opened.release (opened : Opened library closed) (sound : Sound library lost) :
    Opened (library.release .ackSyncObj) closed where
  waitForMqttClose := opened.waitForMqttClose.release sound (by decide)
  syncRxTx := by
    obtain ⟨own, held⟩ := opened.syncRxTx
    exact ⟨own, held.release sound (by decide)⟩
  libLock := opened.libLock.release sound (by decide)
  mutex := opened.mutex.release sound (by decide)

/-- The client without its `ackSyncObj`. -/
theorem Opened.ctxDelete (opened : Opened library closed) (sound : Sound library lost)
    (acks : (library.pointer .ackSyncObj).isSome) :
    ∃ base, mqttClientCtxDelete { library with closeContext := true } = some base ∧
      Opened base closed ∧ base.pointer .ackSyncObj = none := by
  have flagged := sound.effect ((Effect.refl library).flags library.inUse true)
  refine ⟨{ { library with closeContext := true }.release .ackSyncObj with inUse := false }, ?_, ?_,
    release_pointer_self⟩
  · unfold mqttClientCtxDelete
    exact if_pos acks
  · exact ((opened.flags library.inUse true).release flagged).flags _ _

/-- `MQTTClient_delete` of an attached client waits for `MQTTClient_run`. -/
theorem Attached.delete (attached : Attached state closed) (sound : Sound state.library lost)
    (thread : Nat) :
    ∃ library cell, delete thread state =
        { state.set thread (.deleting cell) with library := library, moduleMutex := .deleting } ∧
      Opened library closed ∧ library.pointer .waitForMqttClose = some cell ∧
      library.pointer .ackSyncObj = none := by
  obtain ⟨base, deleted, opened, acks⟩ := attached.opened.ctxDelete sound attached.ackSyncObj
  obtain ⟨cell, points, _⟩ := opened.waitForMqttClose
  obtain ⟨count, sync⟩ := opened.syncRxTx
  obtain ⟨own, pointed, _, posted⟩ := post_of_points sync
  obtain ⟨lock, held, _⟩ := opened.mutex
  refine ⟨base.write own (count + 1), cell, ?_, opened.write (sound.ctxDelete deleted) pointed _, points, acks⟩
  unfold Lifecycle.delete
  rw [if_neg (by rw [attached.handle]; decide), deleted]
  dsimp only
  rw [held, if_neg (by simp), points]
  dsimp only
  rw [posted]

theorem set_threads (state : State) (thread : Nat) (phase : ThreadPhase) :
    (state.set thread phase).threads thread = phase := Function.update_self ..

theorem set_others (state : State) (phase : ThreadPhase) {other : Nat} (different : other ≠ thread) :
    (state.set thread phase).threads other = state.threads other :=
  Function.update_of_ne different ..

theorem Attached.keep (attached : Attached state closed) {closed' : Nat}
    (opened : Opened next.library closed') (same : next.library.pointer = state.library.pointer)
    (handle : next.mqttClient = state.mqttClient) (notDeleting : next.moduleMutex ≠ .deleting) :
    Attached next closed' :=
  ⟨opened, by rw [same]; exact attached.ackSyncObj, handle.trans attached.handle, notDeleting⟩

/-- The thread goes on to a phase in which it still has its client. -/
theorem Lone.update (others : ∀ other, other ≠ thread → Ended (state.threads other))
    {phase : ThreadPhase} (threads : next.threads = Function.update state.threads thread phase)
    (serves : Serves next phase) : Lone next := by
  refine .single thread ?_ ?_
  · intro other different
    rw [threads, Function.update_of_ne different]
    exact others other different
  · rwa [threads, Function.update_self]

/-- The thread is waiting to be unblocked, or for `MQTT_IF_Connect` to return. -/
def Waits (state : State) (thread : Nat) : Prop :=
  (∃ cell, state.threads thread = .blocked cell ∧
    state.library.heap cell = some (.semaphore 0)) ∨
  state.threads thread = .returned ∧ state.moduleMutex ≠ .free

/-- The thread has deleted the client, and no pointer is left. -/
def Deleted (state : State) (thread : Nat) : Prop :=
  state.threads thread = .exited ∧ ∀ pointer, state.library.pointer pointer = none

/-- A thread that has its client advances without a fault unless it waits, and gets through the
wait of `MQTTClient_delete`. -/
theorem Serves.advance (sound : Sound state.library lost) (working : state.faulted = false)
    (others : ∀ other, other ≠ thread → Ended (state.threads other))
    (serves : Serves state (state.threads thread)) :
    Waits state thread ∧ advance thread state = none ∨
      ∃ next, advance thread state = some next ∧ next.faulted = false ∧ Lone next ∧
        ∀ cell, state.threads thread = .deleting cell → Deleted next thread := by
  unfold Lifecycle.advance
  cases phase : state.threads thread with
  | absent | exited => rw [phase] at serves; exact serves.elim
  | starting =>
    rw [phase] at serves
    obtain ⟨cell, points, _⟩ := serves.opened.waitForMqttClose
    refine .inr ⟨_, rfl, ?_⟩
    rw [State.reach, points]
    exact ⟨working, Lone.update others rfl ⟨serves.keep serves.opened rfl rfl serves.notDeleting, points⟩,
      fun _ other => by cases other⟩
  | clearing cell =>
    rw [phase] at serves
    obtain ⟨attached, points⟩ := serves
    refine .inr ⟨_, pass_of_read (attached.opened.read points) _, working, ?_, fun _ other => by cases other⟩
    have opened := attached.opened.rewrite sound points 0
    exact Lone.update others rfl (attached.keep opened rfl rfl attached.notDeleting)
  | cleared =>
    rw [phase] at serves
    obtain ⟨count, cell, points, _⟩ := serves.opened.syncRxTx
    refine .inr ⟨_, rfl, ?_⟩
    rw [State.reach, points]
    exact ⟨working, Lone.update others rfl ⟨serves.keep serves.opened rfl rfl serves.notDeleting, points⟩,
      fun _ other => by cases other⟩
  | blocked cell =>
    rw [phase] at serves
    obtain ⟨attached, points⟩ := serves
    obtain ⟨count, own, pointed, read⟩ := attached.opened.syncRxTx
    rw [points] at pointed
    cases pointed
    cases count with
    | zero =>
      refine .inl ⟨.inl ⟨cell, phase, read⟩, ?_⟩
      dsimp only
      rw [State.pass, Library.take, read]
    | succ count =>
      refine .inr ⟨_, pass_of_read read _, working, ?_, fun _ other => by cases other⟩
      have opened := attached.opened.write sound points count
      exact Lone.update others rfl (attached.keep opened rfl rfl attached.notDeleting)
  | running =>
    rw [phase] at serves
    obtain ⟨cell, points, _, posted⟩ := post_of_points serves.opened.waitForMqttClose
    dsimp only
    rw [posted]
    refine .inr ⟨_, rfl, working, ?_, fun _ other => by cases other⟩
    have opened := serves.opened.rewrite sound points 1
    exact Lone.update others rfl (serves.keep opened rfl rfl serves.notDeleting)
  | returned =>
    rw [phase] at serves
    dsimp only
    by_cases free : state.moduleMutex = .free
    · rw [if_pos free]
      obtain ⟨library, cell, deletes, opened, points, acks⟩ := serves.delete sound thread
      rw [deletes]
      refine .inr ⟨_, rfl, working, ?_, fun _ other => by cases other⟩
      exact Lone.update others rfl ⟨opened, points, acks, rfl⟩
    · rw [if_neg free]
      exact .inl ⟨.inr ⟨phase, free⟩, rfl⟩
  | deleting cell =>
    rw [phase] at serves
    obtain ⟨opened, points, acks, _⟩ := serves
    refine .inr ⟨_, pass_of_read (opened.read points) _, working, ?_, fun _ _ => ⟨set_threads state thread _, ?_⟩⟩
    · refine .nobody ?_ rfl
      intro other
      by_cases same : other = thread
      · rw [same]
        exact .inr (set_threads state thread _)
      · have ended := others other same
        rw [← set_others state .exited same] at ended
        exact ended
    · exact mqttClientFree_pointer acks

theorem Serves.keep {phase : ThreadPhase} (serves : Serves state phase)
    (opened : ∀ closed, Opened state.library closed → Opened next.library closed)
    (same : next.library.pointer = state.library.pointer) (handle : next.mqttClient = state.mqttClient)
    (before : state.moduleMutex ≠ .deleting) (after : next.moduleMutex ≠ .deleting) :
    Serves next phase := by
  cases phase with
  | absent | exited => exact serves.elim
  | starting | cleared | running | returned =>
    exact Attached.keep serves (opened _ serves.opened) same handle after
  | clearing cell | blocked cell =>
    obtain ⟨attached, points⟩ := serves
    exact ⟨attached.keep (opened _ attached.opened) same handle after, by rw [same, points]⟩
  | deleting cell => exact absurd serves.2.2.2 before

theorem Serves.attached {phase : ThreadPhase} (serves : Serves state phase)
    (notDeleting : state.moduleMutex ≠ .deleting) : ∃ closed, Attached state closed := by
  cases phase with
  | absent | exited => exact serves.elim
  | starting | cleared | running | returned => exact ⟨_, serves⟩
  | clearing cell | blocked cell => exact ⟨_, serves.1⟩
  | deleting cell => exact absurd serves.2.2.2 notDeleting

theorem Serves.alive {phase : ThreadPhase} (serves : Serves state phase) : ¬ Ended phase := by
  rintro (rfl | rfl)
  · exact serves
  · exact serves

structure Disciplined (state : State) : Prop where
  working : state.faulted = false
  sound : ∃ lost, Sound state.library lost
  lone : Lone state

theorem Disciplined.connect (disciplined : Disciplined state) (params : ConnParams) (calls : Calls)
    (threadStarted registered : Bool) (ended : ∀ thread, Ended (state.threads thread))
    (free : state.moduleMutex = .free) :
    (connect params calls threadStarted registered state).faulted = false ∧
      Lone (connect params calls threadStarted registered state) := by
  obtain ⟨working, ⟨lost, sound⟩, _⟩ := disciplined
  unfold Lifecycle.connect
  dsimp only
  split
  · exact ⟨working, .nobody ended free⟩
  · next started =>
    rw [not_or, Bool.not_eq_false] at started
    obtain ⟨opened, acks⟩ := mqttClientCreate_opened sound started.1
    refine ⟨working, Lone.update (fun other _ => ended other) rfl ⟨opened, acks, started.1, ?_⟩⟩
    cases registered <;> simp

theorem Disciplined.unblock (disciplined : Disciplined state) (sent : Bool)
    (connecting : state.moduleMutex = .connecting) :
    (unblock sent state).faulted = false ∧ Lone (unblock sent state) := by
  obtain ⟨working, ⟨lost, sound⟩, lone⟩ := disciplined
  have notDeleting : state.moduleMutex ≠ .deleting := by rw [connecting]; decide
  cases lone with
  | nobody _ free => rw [connecting] at free; cases free
  | single thread others serves =>
    obtain ⟨closed, attached⟩ := serves.attached notDeleting
    obtain ⟨count, sync⟩ := attached.opened.syncRxTx
    obtain ⟨cell, points, _, posted⟩ := post_of_points sync
    unfold Lifecycle.unblock
    rw [posted]
    refine ⟨working, .single thread others (serves.keep ?_ rfl rfl notDeleting ?_)⟩
    · exact fun _ opened => opened.write sound points _
    · cases sent <;> simp

theorem Disciplined.step (disciplined : Disciplined state) (alone : Alone state event)
    (stepped : step state event = some next) : Disciplined next := by
  obtain ⟨lost, sound⟩ := disciplined.sound
  have later : ∃ lost, Sound next.library lost := ⟨_, step_sound sound stepped⟩
  cases event with
  | connect params calls threadStarted registered =>
    rw [Lifecycle.step, Option.ite_none_right_eq_some] at stepped
    obtain ⟨⟨_, free, _⟩, stepped⟩ := stepped
    cases stepped
    obtain ⟨working, lone⟩ := disciplined.connect params calls threadStarted registered alone free
    exact ⟨working, later, lone⟩
  | unblock sent =>
    rw [Lifecycle.step, Option.ite_none_right_eq_some] at stepped
    obtain ⟨⟨_, connecting⟩, stepped⟩ := stepped
    cases stepped
    obtain ⟨working, lone⟩ := disciplined.unblock sent connecting
    exact ⟨working, later, lone⟩
  | connack accepted =>
    rw [Lifecycle.step, Option.ite_none_right_eq_some] at stepped
    obtain ⟨⟨working, sent⟩, stepped⟩ := stepped
    cases stepped
    refine ⟨working, later, ?_⟩
    cases disciplined.lone with
    | nobody ended _ => exact .nobody ended rfl
    | single thread others serves =>
      refine .single thread others (serves.keep (fun _ => id) rfl rfl ?_ ?_)
      · rw [sent]; decide
      · simp
  | disconnect =>
    rw [Lifecycle.step, Option.ite_none_right_eq_some] at stepped
    obtain ⟨⟨working, free, _⟩, stepped⟩ := stepped
    cases stepped
    refine ⟨working, later, ?_⟩
    cases disciplined.lone with
    | nobody ended free => exact .nobody ended free
    | single thread others serves =>
      refine .single thread others (serves.keep (fun _ => id) rfl rfl ?_ ?_)
      · rw [free]; decide
      · change state.moduleMutex ≠ _
        rw [free]; decide
  | advance thread =>
    rw [Lifecycle.step, Option.ite_none_right_eq_some] at stepped
    obtain ⟨working, stepped⟩ := stepped
    cases disciplined.lone with
    | nobody ended _ =>
      unfold Lifecycle.advance at stepped
      obtain phase | phase := ended thread
      · rw [phase] at stepped; cases stepped
      · rw [phase] at stepped; cases stepped
    | single own others serves =>
      by_cases same : thread = own
      · subst same
        obtain ⟨_, waits⟩ | ⟨result, advanced, working, lone, _⟩ := serves.advance sound working others
        · rw [waits] at stepped; cases stepped
        · rw [advanced] at stepped
          cases stepped
          exact ⟨working, later, lone⟩
      · unfold Lifecycle.advance at stepped
        obtain phase | phase := others thread same
        · rw [phase] at stepped; cases stepped
        · rw [phase] at stepped; cases stepped

/-- Where a connect comes only after the context threads of the earlier ones have exited, nothing
that is `NULL` or freed is used, a context thread waits only to be unblocked or for `MQTT_IF_Connect`
to return, and `MQTTClient_delete` returns and leaves no pointer. -/
theorem delete_passes (reached : Reachable step Alone initial state) :
    state.faulted = false ∧
    ∀ thread, ¬ Ended (state.threads thread) →
      Waits state thread ∨
      ∃ next, step state (.advance thread) = some next ∧
        ∀ cell, state.threads thread = .deleting cell → Deleted next thread := by
  have disciplined : Disciplined state := by
    refine reached.invariant Disciplined ⟨rfl, ⟨[], Sound.initial⟩, .nobody (fun _ => .inl rfl) rfl⟩ ?_
    intro state event result disciplined alone stepped
    exact disciplined.step alone stepped
  refine ⟨disciplined.working, ?_⟩
  intro thread alive
  obtain ⟨lost, sound⟩ := disciplined.sound
  cases disciplined.lone with
  | nobody ended _ => exact absurd (ended thread) alive
  | single own others serves =>
    have same : thread = own := by
      by_contra different
      exact alive (others thread different)
    subst same
    obtain ⟨waits, _⟩ | ⟨next, advanced, _, _, deleted⟩ := serves.advance sound disciplined.working others
    · exact .inl waits
    · refine .inr ⟨next, ?_, deleted⟩
      rw [Lifecycle.step, if_pos disciplined.working, advanced]

/-- A client that is created, connected and left by the broker. -/
def oneClient : List Event :=
  [.connect plainParams allDone true true, .advance 0, .advance 0, .advance 0, .unblock true,
    .advance 0, .connack true, .advance 0, .advance 0]

theorem delete_passes_one : ∃ state cell next, state.threads 0 = .deleting cell ∧
    step state (.advance 0) = some next ∧ Deleted next 0 := by
  obtain ⟨state, cell, ran, deleting⟩ : ∃ state cell,
      exec step initial oneClient = some state ∧ state.threads 0 = .deleting cell := ⟨_, 3, rfl, rfl⟩
  have along : Along step Alone initial oneClient := by
    refine ⟨fun _ => .inl rfl, ?_⟩
    intro next _
    exact .of_forall (by simp [Alone])
  have passes := (delete_passes (.of_exec oneClient along ran)).2 0 (by rw [deleting]; simp [Ended])
  obtain waits | ⟨next, stepped, deleted⟩ := passes
  · obtain ⟨_, blocked, _⟩ | ⟨returned, _⟩ := waits
    · rw [deleting] at blocked; cases blocked
    · rw [deleting] at returned; cases returned
  · exact ⟨state, cell, next, deleting, stepped, deleted cell deleting⟩

end Alone

/-! ## A context thread that is left behind -/

/-- A semaphore that is down and that no pointer points to. -/
structure Forgotten (library : Library) (cell : Nat) : Prop where
  unheld : Unheld library cell
  down : library.heap cell = some (.semaphore 0)

/-- The thread waits on a forgotten semaphore. -/
structure Stranded (thread cell : Nat) (state : State) : Prop where
  waits : state.threads thread = .blocked cell
  forgotten : Forgotten state.library cell
  created : thread < state.created

section Stranded

variable {library result : Library} {lost : List Nat} {cell other count thread : Nat} {pointer : Pointer}
  {state next : State} {event : Event}

theorem Forgotten.effect (forgotten : Forgotten library cell) (effect : Effect library lost result) :
    Forgotten result cell := by
  obtain ⟨unheld, kept⟩ := forgotten.unheld.effect effect
  exact ⟨unheld, kept.trans forgotten.down⟩

theorem Forgotten.write (forgotten : Forgotten library cell) (apart : cell ≠ other) (count : Nat) :
    Forgotten (library.write other count) cell :=
  ⟨⟨forgotten.unheld.notHeld, forgotten.unheld.allocated⟩,
    (Function.update_of_ne apart ..).trans forgotten.down⟩

theorem Forgotten.take (forgotten : Forgotten library cell)
    (read : library.heap other = some (.semaphore (count + 1))) :
    Forgotten (library.write other count) cell := by
  apply forgotten.write
  intro same
  rw [← same, forgotten.down] at read
  cases read

theorem Forgotten.post (forgotten : Forgotten library cell) (posted : library.post pointer = some result) :
    Forgotten result cell := by
  obtain ⟨own, count, points, _, rfl⟩ := post_cases posted
  exact forgotten.write (fun same => forgotten.unheld.notHeld pointer (same ▸ points)) _

theorem Forgotten.ctxDelete (forgotten : Forgotten state.library cell)
    (deleted : mqttClientCtxDelete { state.library with closeContext := true } = some result) :
    Forgotten result cell := by
  have flagged := forgotten.effect ((Effect.refl state.library).flags state.library.inUse true)
  exact flagged.effect (mqttClientCtxDelete_effect deleted).1

theorem Forgotten.free (forgotten : Forgotten library cell) : Forgotten (mqttClientFree library) cell :=
  forgotten.effect (mqttClientFree_effect (.refl library))

/-- Another thread changes its own phase. -/
theorem Stranded.another (stranded : Stranded thread cell state) {moved : Nat} {phase : ThreadPhase}
    (moves : state.threads moved ≠ .blocked cell)
    (threads : next.threads = Function.update state.threads moved phase)
    (created : next.created = state.created) (forgotten : Forgotten next.library cell) :
    Stranded thread cell next := by
  refine ⟨?_, forgotten, by rw [created]; exact stranded.created⟩
  have different : thread ≠ moved := by
    intro same
    rw [same] at stranded
    exact moves stranded.waits
  rw [threads, Function.update_of_ne different, stranded.waits]

theorem Stranded.deleting (stranded : Stranded thread cell state) {moved : Nat}
    (returned : state.threads moved = .returned) (deleting : Deleting moved state next) :
    Stranded thread cell next := by
  have moves : state.threads moved ≠ .blocked cell := by rw [returned]; simp
  cases deleting with
  | null => exact stranded.another moves rfl rfl stranded.forgotten
  | faults => exact ⟨stranded.waits, stranded.forgotten, stranded.created⟩
  | waits deleted _ posted =>
    exact stranded.another moves rfl rfl ((stranded.forgotten.ctxDelete deleted).post posted)
  | frees deleted _ => exact stranded.another moves rfl rfl (stranded.forgotten.ctxDelete deleted).free

theorem Stranded.advance (stranded : Stranded thread cell state) {moved : Nat}
    (advance : Advance moved state next) : Stranded thread cell next := by
  cases advance with
  | faults => exact ⟨stranded.waits, stranded.forgotten, stranded.created⟩
  | clears starting _ =>
    exact stranded.another (by rw [starting]; simp) rfl rfl stranded.forgotten
  | cleared clearing read =>
    exact stranded.another (by rw [clearing]; simp) rfl rfl (stranded.forgotten.take read)
  | blocks cleared _ =>
    exact stranded.another (by rw [cleared]; simp) rfl rfl stranded.forgotten
  | runs blocked read =>
    refine stranded.another ?_ rfl rfl (stranded.forgotten.take read)
    intro same
    rw [blocked] at same
    cases same
    rw [stranded.forgotten.down] at read
    cases read
  | returns running posted =>
    exact stranded.another (by rw [running]; simp) rfl rfl (stranded.forgotten.post posted)
  | deletes returned _ deleting => exact stranded.deleting returned deleting
  | finishes deleting read =>
    exact stranded.another (by rw [deleting]; simp) rfl rfl (stranded.forgotten.take read).free

/-- A connect leaves the threads that have been started. -/
theorem connect_older (params : ConnParams) (calls : Calls) (threadStarted registered : Bool)
    (older : thread < state.created) :
    (connect params calls threadStarted registered state).threads thread = state.threads thread ∧
      thread < (connect params calls threadStarted registered state).created := by
  unfold Lifecycle.connect
  dsimp only
  split
  · exact ⟨rfl, older⟩
  · exact ⟨Function.update_of_ne (Nat.ne_of_lt older) .., Nat.lt_succ_of_lt older⟩

theorem Stranded.step (stranded : Stranded thread cell state) (stepped : step state event = some next) :
    Stranded thread cell next := by
  cases event with
  | connect params calls threadStarted registered =>
    rw [Lifecycle.step, Option.ite_none_right_eq_some] at stepped
    obtain ⟨_, stepped⟩ := stepped
    cases stepped
    obtain ⟨kept, created⟩ := connect_older params calls threadStarted registered stranded.created
    refine ⟨kept.trans stranded.waits, ?_, created⟩
    rw [connect_library]
    exact stranded.forgotten.effect (mqttClientCreate_effect params calls state.library)
  | unblock sent =>
    rw [Lifecycle.step, Option.ite_none_right_eq_some] at stepped
    obtain ⟨_, stepped⟩ := stepped
    cases stepped
    unfold unblock
    split
    · next library posted => exact ⟨stranded.waits, stranded.forgotten.post posted, stranded.created⟩
    · exact ⟨stranded.waits, stranded.forgotten, stranded.created⟩
  | connack accepted | disconnect =>
    rw [Lifecycle.step, Option.ite_none_right_eq_some] at stepped
    obtain ⟨_, stepped⟩ := stepped
    cases stepped
    exact ⟨stranded.waits, stranded.forgotten, stranded.created⟩
  | advance moved =>
    rw [Lifecycle.step, Option.ite_none_right_eq_some] at stepped
    exact stranded.advance (advance_cases stepped.2)

/-- The threads are numbered as they are started. -/
def Numbered (state : State) : Prop := ∀ thread, state.created ≤ thread → state.threads thread = .absent

theorem Numbered.update (numbered : Numbered state) (present : state.threads thread ≠ .absent)
    {phase : ThreadPhase} (threads : next.threads = Function.update state.threads thread phase)
    (created : next.created = state.created) : Numbered next := by
  intro later bound
  rw [created] at bound
  have different : later ≠ thread := by
    intro same
    subst same
    exact present (numbered later bound)
  rw [threads, Function.update_of_ne different]
  exact numbered later bound

theorem Numbered.advance (numbered : Numbered state) (advance : Advance thread state next) :
    Numbered next := by
  cases advance with
  | faults => exact numbered
  | clears phase _ | cleared phase _ | blocks phase _ | runs phase _ | returns phase _ | finishes phase _ =>
    exact numbered.update (by rw [phase]; simp) rfl rfl
  | deletes phase _ deleting =>
    cases deleting with
    | faults => exact numbered
    | null | waits | frees => exact numbered.update (by rw [phase]; simp) rfl rfl

theorem Numbered.step (numbered : Numbered state) (stepped : step state event = some next) :
    Numbered next := by
  cases event with
  | connect params calls threadStarted registered =>
    rw [Lifecycle.step, Option.ite_none_right_eq_some] at stepped
    obtain ⟨_, stepped⟩ := stepped
    cases stepped
    unfold Lifecycle.connect
    dsimp only
    split
    · exact numbered
    · intro later bound
      have older : state.created < later := bound
      exact (Function.update_of_ne (Nat.ne_of_gt older) ..).trans (numbered later (Nat.le_of_lt older))
  | unblock sent =>
    rw [Lifecycle.step, Option.ite_none_right_eq_some] at stepped
    obtain ⟨_, stepped⟩ := stepped
    cases stepped
    unfold unblock
    split
    · exact numbered
    · exact numbered
  | connack accepted | disconnect =>
    rw [Lifecycle.step, Option.ite_none_right_eq_some] at stepped
    obtain ⟨_, stepped⟩ := stepped
    cases stepped
    exact numbered
  | advance moved =>
    rw [Lifecycle.step, Option.ite_none_right_eq_some] at stepped
    exact numbered.advance (advance_cases stepped.2)

/-- The configuration forgets the semaphore that `MQTTClient_syncRxTx` points to. -/
theorem forgotten_withSyncRxTx (sound : Sound library lost) (calls : Calls)
    (points : library.pointer .syncRxTx = some cell) (down : library.heap cell = some (.semaphore 0)) :
    Forgotten (withSyncRxTx calls library) cell := by
  have inside := sound.allocated_of_read down
  have alone : ∀ pointer, pointer ≠ .syncRxTx → library.pointer pointer ≠ some cell := fun pointer different =>
    sound.accounts.injective pointers_nodup (mem_pointers _) (mem_pointers pointer) different points
  unfold withSyncRxTx
  cases calls.syncRxTx with
  | noMemory =>
    refine ⟨⟨?_, inside⟩, down⟩
    intro pointer
    by_cases same : pointer = .syncRxTx
    · rw [same]
      exact (@forget_pointer library .syncRxTx).trans_ne (by simp)
    · exact (Function.update_of_ne same ..).trans_ne (alone pointer same)
  | notInitialized | done =>
    refine ⟨⟨?_, Nat.lt_succ_of_lt inside⟩, (Function.update_of_ne (Nat.ne_of_lt inside) ..).trans down⟩
    intro pointer
    by_cases same : pointer = .syncRxTx
    · rw [same]
      refine (@allocate_pointer library .syncRxTx (.semaphore 0)).trans_ne ?_
      exact fun equal => Nat.ne_of_gt inside (Option.some.inj equal)
    · exact (Function.update_of_ne same ..).trans_ne (alone pointer same)

/-- A context thread that waits to be unblocked when another connect comes waits for ever. -/
theorem context_thread_stranded (reached : Reachable step always initial state)
    (blocked : state.threads thread = .blocked cell)
    (points : state.library.pointer .syncRxTx = some cell)
    (down : state.library.heap cell = some (.semaphore 0))
    {params : ConnParams} {calls : Calls} {threadStarted registered : Bool}
    (stepped : step state (.connect params calls threadStarted registered) = some next)
    {result : State} (later : Reachable step always next result) :
    result.threads thread = .blocked cell := by
  have numbered : Numbered state :=
    reached.invariant Numbered (fun _ _ => rfl) fun _ _ _ numbered _ stepped => numbered.step stepped
  have consistent : ∃ lost, Sound state.library lost := by
    refine reached.invariant (fun state => ∃ lost, Sound state.library lost) ⟨[], Sound.initial⟩ ?_
    intro _ _ _ consistent _ stepped
    obtain ⟨_, sound⟩ := consistent
    exact ⟨_, step_sound sound stepped⟩
  obtain ⟨lost, sound⟩ := consistent
  have opened := sound.effect ((Effect.refl state.library).flags state.library.inUse false)
  obtain ⟨more, effect⟩ := withSyncRxTx_effect params calls state.library
  have forgotten := (forgotten_withSyncRxTx opened calls points down).effect effect
  have created : thread < state.created := by
    by_contra outside
    rw [numbered thread (Nat.le_of_not_lt outside)] at blocked
    cases blocked
  have stranded : Stranded thread cell next := by
    rw [step, Option.ite_none_right_eq_some] at stepped
    obtain ⟨_, stepped⟩ := stepped
    cases stepped
    obtain ⟨kept, created⟩ := connect_older params calls threadStarted registered created
    exact ⟨kept.trans blocked, by rw [connect_library]; exact forgotten, created⟩
  exact (later.invariant (Stranded thread cell) stranded fun _ _ _ stranded _ stepped =>
    stranded.step stepped).waits

/-- The registration of the client fails, and the context thread waits. -/
def notRegistered : List Event :=
  [.connect plainParams allDone true false, .advance 0, .advance 0, .advance 0]

theorem context_thread_stranded_second : ∃ state next, Reachable step always initial state ∧
    step state (.connect plainParams allDone true true) = some next ∧
    ∀ result, Reachable step always next result → result.threads 0 = .blocked 0 := by
  obtain ⟨state, next, ran, blocked, points, down, stepped⟩ : ∃ state next,
      exec step initial notRegistered = some state ∧ state.threads 0 = .blocked 0 ∧
      state.library.pointer .syncRxTx = some 0 ∧ state.library.heap 0 = some (.semaphore 0) ∧
      step state (.connect plainParams allDone true true) = some next :=
    ⟨_, _, rfl, rfl, rfl, rfl, rfl⟩
  have reached := Reachable.of_exec notRegistered (Along.always _) ran
  exact ⟨state, next, reached, stepped, fun _ later =>
    context_thread_stranded reached blocked points down stepped later⟩

end Stranded

end PlhrFirmware.Client.Lifecycle
