import PlhrFirmware.Client.ContextThread

/-! # Publishing and the end of a client

`MQTT_IF_Publish` looks at the module state under `moduleMutex`, which it gives back before it calls
`MQTTClient_publish`.  What that call locks then is `MQTTClient_mutex`, which `MQTTClient_delete`
frees.  Any number of threads publish, with QoS 0 as `mqtt_publish` does.
-/

namespace PlhrFirmware.Client.Publishing

open PlhrFirmware.Lib Lifecycle

/-! ## State -/

/-- A thread before it reads `MQTTClient_mutex`, in `pthread_mutex_lock`, and before
`MQTTClientCore_sendPubMsg`; `again` is behind a failure of the core, in
`SetCondAwaitedAckLocked`. -/
inductive Phase where
  | idle
  | entering (again : Bool)
  | locking (again : Bool) (cell : Nat)
  | sending
  deriving DecidableEq, Repr

structure State where
  client : Lifecycle.State
  publishers : Nat → Phase

/-- `accepted` is whether the client does not await `MQTT_DISCONNECT`. -/
inductive Event where
  | client (event : Lifecycle.Event)
  | check (publisher : Nat)
  | lock (publisher : Nat) (accepted : Bool)
  | send (publisher : Nat) (done : Bool)

def State.set (state : State) (publisher : Nat) (phase : Phase) : State :=
  { state with publishers := Function.update state.publishers publisher phase }

/-- A `NULL` or a freed mutex is locked. -/
def State.fault (state : State) : State := { state with client := state.client.fault }

/-! ## Steps -/

def check (publisher : Nat) (state : State) : Option State :=
  match state.publishers publisher with
  | .idle =>
    if state.client.moduleMutex ≠ .free then none
    else if state.client.connected = true then some (state.set publisher (.entering false))
    else some state
  | _ => none

/-- `MQTTClient_mutexLock`, what is done under the mutex, and `MQTTClient_mutexUnlock`. -/
def lock (publisher : Nat) (accepted : Bool) (state : State) : Option State :=
  match state.publishers publisher with
  | .entering again =>
    match state.client.library.pointer .mutex with
    | some cell => some (state.set publisher (.locking again cell))
    | none => some state.fault
  | .locking again cell =>
    match state.client.library.heap cell with
    | some .mutex =>
      -- `MQTTClient_delete` holds it while it waits
      if state.client.moduleMutex = .deleting then none
      else some (state.set publisher (if again = false ∧ accepted = true then .sending else .idle))
    | _ => some state.fault
  | _ => none

def send (publisher : Nat) (done : Bool) (state : State) : Option State :=
  match state.publishers publisher with
  | .sending => some (state.set publisher (if done = true then .idle else .entering true))
  | _ => none

def step (state : State) : Event → Option State
  | .client event => (Lifecycle.step state.client event).map fun client => { state with client := client }
  | .check publisher => if state.client.faulted = false then check publisher state else none
  | .lock publisher accepted => if state.client.faulted = false then lock publisher accepted state else none
  | .send publisher done => if state.client.faulted = false then send publisher done state else none

def initial : State := ⟨Lifecycle.initial, fun _ => .idle⟩

/-! ## Publishing before the end -/

/-- A connect comes after the context threads of the earlier ones, and a context thread comes to
`MQTTClient_delete` when no thread is publishing. -/
def Unhurried (state : State) : Event → Prop
  | .client (.advance thread) =>
    state.client.threads thread = .returned → ∀ publisher, state.publishers publisher = .idle
  | .client event => Alone state.client event
  | _ => True

/-- Some context thread has not exited. -/
def Served (client : Lifecycle.State) : Prop := ∃ thread, ¬ Ended (client.threads thread)

/-- A thread that is publishing finds the client. -/
structure Found (state : State) : Prop where
  disciplined : Disciplined state.client
  connected : state.client.connected = true → Served state.client
  served : ∀ publisher, state.publishers publisher ≠ .idle →
    Served state.client ∧ state.client.moduleMutex ≠ .deleting
  locking : ∀ publisher again cell, state.publishers publisher = .locking again cell →
    state.client.library.pointer .mutex = some cell

section Client

variable {client next : Lifecycle.State} {thread : Nat} {event : Lifecycle.Event} {cell : Nat}

/-- Where the client is found: what is locked is the mutex that it has allocated. -/
theorem mutex_of_served (disciplined : Disciplined client) (served : Served client)
    (notDeleting : client.moduleMutex ≠ .deleting) : Points client.library .mutex .mutex := by
  obtain ⟨thread, alive⟩ := served
  cases disciplined.lone with
  | nobody ended _ => exact absurd (ended thread) alive
  | single own _ serves =>
    obtain ⟨closed, attached⟩ := serves.attached notDeleting
    exact attached.opened.mutex

/-- A context thread that does not come to `MQTTClient_delete` keeps its client. -/
theorem advance_keeps (advanced : Advance thread client next)
    (notReturned : client.threads thread ≠ .returned)
    (notDeleting : ∀ cell, client.threads thread ≠ .deleting cell) :
    next.library.pointer = client.library.pointer ∧ next.moduleMutex = client.moduleMutex ∧
      next.connected = client.connected ∧ (next = client.fault ∨ ¬ Ended (next.threads thread)) := by
  have alive : ∀ phase, ¬ Ended phase → ¬ Ended ((client.set thread phase).threads thread) := by
    intro phase kept
    rwa [set_threads]
  cases advanced with
  | faults => exact ⟨rfl, rfl, rfl, .inl rfl⟩
  | clears => exact ⟨rfl, rfl, rfl, .inr (alive _ (by simp [Ended]))⟩
  | cleared => exact ⟨rfl, rfl, rfl, .inr (alive _ (by simp [Ended]))⟩
  | blocks => exact ⟨rfl, rfl, rfl, .inr (alive _ (by simp [Ended]))⟩
  | runs => exact ⟨rfl, rfl, rfl, .inr (alive _ (by simp [Ended]))⟩
  | returns running posted =>
    obtain ⟨_, _, _, _, rfl⟩ := post_cases posted
    exact ⟨rfl, rfl, rfl, .inr (alive _ (by simp [Ended]))⟩
  | deletes returned => exact absurd returned notReturned
  | finishes deleting => exact absurd deleting (notDeleting _)

/-- A client that is deleted is not connected any more. -/
theorem advance_connected (advanced : Advance thread client next)
    (served : client.connected = true → Served client) :
    next.connected = true → Served next := by
  have alive : ∀ phase, ¬ Ended phase → ¬ Ended ((client.set thread phase).threads thread) := by
    intro phase kept
    rwa [set_threads]
  cases advanced with
  | faults => exact served
  | clears => exact fun _ => ⟨thread, alive _ (by simp [Ended])⟩
  | cleared => exact fun _ => ⟨thread, alive _ (by simp [Ended])⟩
  | blocks => exact fun _ => ⟨thread, alive _ (by simp [Ended])⟩
  | runs => exact fun _ => ⟨thread, alive _ (by simp [Ended])⟩
  | returns => exact fun _ => ⟨thread, alive _ (by simp [Ended])⟩
  | deletes returned free deleting =>
    cases deleting with
    | null => intro still; cases still
    | faults => exact served
    | waits => exact fun _ => ⟨thread, alive _ (by simp [Ended])⟩
    | frees => intro still; cases still
  | finishes => intro still; cases still

theorem connect_connected (params : ConnParams) (calls : Calls) (threadStarted registered : Bool)
    (client : Lifecycle.State) :
    (connect params calls threadStarted registered client).connected = client.connected := by
  unfold connect
  dsimp only
  split
  · rfl
  · rfl

theorem unblock_keeps (sent : Bool) (client : Lifecycle.State) :
    (unblock sent client).threads = client.threads ∧
      (unblock sent client).connected = client.connected ∧
      (unblock sent client).library.pointer = client.library.pointer := by
  unfold unblock
  split
  · next posted =>
    obtain ⟨_, _, _, _, rfl⟩ := post_cases posted
    exact ⟨rfl, rfl, rfl⟩
  · exact ⟨rfl, rfl, rfl⟩

theorem unblock_moduleMutex (sent : Bool) (client : Lifecycle.State)
    (connecting : client.moduleMutex = .connecting) :
    (unblock sent client).moduleMutex ≠ .deleting := by
  unfold unblock
  split
  · cases sent <;> simp
  · change client.moduleMutex ≠ _
    rw [connecting]
    simp

/-- A client that is connected has its context thread. -/
theorem connected_step (disciplined : Disciplined client)
    (stepped : Lifecycle.step client event = some next)
    (served : client.connected = true → Served client) : next.connected = true → Served next := by
  cases event with
  | connect params calls threadStarted registered =>
    rw [Lifecycle.step, Option.ite_none_right_eq_some] at stepped
    obtain ⟨⟨_, _, notConnected⟩, stepped⟩ := stepped
    cases stepped
    rw [connect_connected, notConnected]
    intro other
    cases other
  | unblock sent =>
    rw [Lifecycle.step, Option.ite_none_right_eq_some] at stepped
    obtain ⟨_, stepped⟩ := stepped
    cases stepped
    obtain ⟨threads, connected, _⟩ := unblock_keeps sent client
    rw [connected, Served, threads]
    exact served
  | connack accepted =>
    rw [Lifecycle.step, Option.ite_none_right_eq_some] at stepped
    obtain ⟨⟨_, sent⟩, stepped⟩ := stepped
    cases stepped
    intro _
    cases disciplined.lone with
    | nobody _ free => rw [sent] at free; cases free
    | single own _ serves => exact ⟨own, serves.alive⟩
  | disconnect =>
    rw [Lifecycle.step, Option.ite_none_right_eq_some] at stepped
    obtain ⟨_, stepped⟩ := stepped
    cases stepped
    intro other
    cases other
  | advance thread =>
    rw [Lifecycle.step, Option.ite_none_right_eq_some] at stepped
    exact advance_connected (advance_cases stepped.2) served

end Client

section Found

variable {state next : State} {event : Event} {publisher : Nat} {phase : Phase}

theorem set_publishers (state : State) (publisher : Nat) (phase : Phase) :
    (state.set publisher phase).publishers publisher = phase := Function.update_self ..

theorem set_other (state : State) (phase : Phase) {other : Nat} (different : other ≠ publisher) :
    (state.set publisher phase).publishers other = state.publishers other :=
  Function.update_of_ne different ..

/-- One thread goes on publishing, or is done. -/
theorem Found.set (found : Found state)
    (served : phase ≠ .idle → Served state.client ∧ state.client.moduleMutex ≠ .deleting)
    (locking : ∀ again cell, phase = .locking again cell →
      state.client.library.pointer .mutex = some cell) : Found (state.set publisher phase) where
  disciplined := found.disciplined
  connected := found.connected
  served := by
    intro other
    by_cases same : other = publisher
    · subst same
      rw [set_publishers]
      exact served
    · rw [set_other state phase same]
      exact found.served other
  locking := by
    intro other
    by_cases same : other = publisher
    · subst same
      rw [set_publishers]
      exact locking
    · rw [set_other state phase same]
      exact found.locking other

/-- The client takes a step while nobody publishes. -/
theorem Found.unused (disciplined : Disciplined next.client)
    (connected : next.client.connected = true → Served next.client)
    (idle : ∀ publisher, next.publishers publisher = .idle) : Found next where
  disciplined := disciplined
  connected := connected
  served := fun publisher publishing => absurd (idle publisher) publishing
  locking := by
    intro publisher again cell locking
    rw [idle publisher] at locking
    cases locking

/-- The client takes a step that leaves the pointers. -/
theorem Found.kept (found : Found state) (disciplined : Disciplined next.client)
    (connected : next.client.connected = true → Served next.client)
    (publishers : next.publishers = state.publishers)
    (served : Served state.client → Served next.client)
    (notDeleting : state.client.moduleMutex ≠ .deleting → next.client.moduleMutex ≠ .deleting)
    (pointers : next.client.library.pointer = state.client.library.pointer) : Found next where
  disciplined := disciplined
  connected := connected
  served := by
    intro publisher publishing
    rw [publishers] at publishing
    obtain ⟨alive, before⟩ := found.served publisher publishing
    exact ⟨served alive, notDeleting before⟩
  locking := by
    intro publisher again cell locking
    rw [publishers] at locking
    rw [pointers]
    exact found.locking publisher again cell locking

/-- Nobody publishes while there is no context thread, or one deletes the client. -/
theorem Found.idle (found : Found state)
    (unserved : ¬ (Served state.client ∧ state.client.moduleMutex ≠ .deleting))
    (publisher : Nat) : state.publishers publisher = .idle := by
  by_contra publishing
  exact unserved (found.served publisher publishing)

theorem Found.advance (found : Found state) {thread : Nat}
    (allowed : Unhurried state (.client (.advance thread))) (disciplined : Disciplined next.client)
    (connected : next.client.connected = true → Served next.client)
    (publishers : next.publishers = state.publishers) (advanced : Advance thread state.client next.client) :
    Found next := by
  by_cases returned : state.client.threads thread = .returned
  · refine .unused disciplined connected fun publisher => ?_
    rw [publishers]
    exact allowed returned publisher
  · by_cases deleting : state.client.moduleMutex = .deleting
    · refine .unused disciplined connected fun publisher => ?_
      rw [publishers]
      exact found.idle (fun both => both.2 deleting) publisher
    · have notDeleting : ∀ cell, state.client.threads thread ≠ .deleting cell := by
        intro cell phase
        cases found.disciplined.lone with
        | nobody ended _ =>
          have absurdity := ended thread
          rw [phase] at absurdity
          simp [Ended] at absurdity
        | single own others serves =>
          by_cases same : thread = own
          · subst same
            rw [phase] at serves
            exact deleting serves.2.2.2
          · have absurdity := others thread same
            rw [phase] at absurdity
            simp [Ended] at absurdity
      obtain ⟨pointers, moduleMutex, _, stays⟩ := advance_keeps advanced returned notDeleting
      refine found.kept disciplined connected publishers ?_ (by rw [moduleMutex]; exact id) pointers
      intro served
      obtain faulted | alive := stays
      · rw [faulted]
        exact served
      · exact ⟨thread, alive⟩

theorem Found.client (found : Found state) {event : Lifecycle.Event}
    (allowed : Unhurried state (.client event)) (publishers : next.publishers = state.publishers)
    (stepped : Lifecycle.step state.client event = some next.client) : Found next := by
  have alone : Alone state.client event := by
    cases event with
    | advance => trivial
    | connect | unblock | connack | disconnect => exact allowed
  have disciplined := found.disciplined.step alone stepped
  have connected := connected_step found.disciplined stepped found.connected
  cases event with
  | connect params calls threadStarted registered =>
    refine .unused disciplined connected fun publisher => ?_
    rw [publishers]
    exact found.idle (fun both => both.1.elim fun thread alive => alive (allowed thread)) publisher
  | unblock sent =>
    rw [Lifecycle.step, Option.ite_none_right_eq_some] at stepped
    obtain ⟨⟨_, connecting⟩, stepped⟩ := stepped
    have same := Option.some.inj stepped
    obtain ⟨threads, _, pointers⟩ := unblock_keeps sent state.client
    rw [same] at threads pointers
    refine found.kept disciplined connected publishers ?_ ?_ pointers
    · rw [Served, Served, threads]
      exact id
    · intro _ deleting
      rw [← same] at deleting
      exact unblock_moduleMutex sent state.client connecting deleting
  | connack accepted =>
    rw [Lifecycle.step, Option.ite_none_right_eq_some] at stepped
    obtain ⟨_, stepped⟩ := stepped
    have same := Option.some.inj stepped
    exact found.kept disciplined connected publishers (by rw [← same]; exact id) (by rw [← same]; simp)
      (by rw [← same])
  | disconnect =>
    rw [Lifecycle.step, Option.ite_none_right_eq_some] at stepped
    obtain ⟨_, stepped⟩ := stepped
    have same := Option.some.inj stepped
    exact found.kept disciplined connected publishers (by rw [← same]; exact id) (by rw [← same]; exact id)
      (by rw [← same])
  | advance thread =>
    rw [Lifecycle.step, Option.ite_none_right_eq_some] at stepped
    exact found.advance allowed disciplined connected publishers (advance_cases stepped.2)

/-- A thread that locks the mutex finds it, and goes on. -/
theorem Found.lock (found : Found state) (accepted : Bool) (publishing : state.publishers publisher ≠ .idle)
    (notSending : state.publishers publisher ≠ .sending) :
    ∃ phase, lock publisher accepted state = some (state.set publisher phase) ∧
      Found (state.set publisher phase) := by
  obtain ⟨served, notDeleting⟩ := found.served publisher publishing
  obtain ⟨own, points, read⟩ := mutex_of_served found.disciplined served notDeleting
  unfold Publishing.lock
  cases phase : state.publishers publisher with
  | idle => exact absurd phase publishing
  | sending => exact absurd phase notSending
  | entering again =>
    dsimp only
    rw [points]
    refine ⟨.locking again own, rfl, found.set (fun _ => ⟨served, notDeleting⟩) ?_⟩
    intro _ cell same
    cases same
    exact points
  | locking again cell =>
    have same := found.locking publisher again cell phase
    rw [points] at same
    cases same
    dsimp only
    rw [read]
    dsimp only
    rw [if_neg notDeleting]
    refine ⟨_, rfl, found.set (fun _ => ⟨served, notDeleting⟩) ?_⟩
    intro _ _ same
    split at same
    · cases same
    · cases same

theorem Found.step (found : Found state) (allowed : Unhurried state event)
    (stepped : step state event = some next) : Found next := by
  cases event with
  | client event =>
    obtain ⟨client, ran, same⟩ := Option.map_eq_some_iff.mp stepped
    subst same
    exact found.client allowed rfl ran
  | check publisher =>
    rw [Publishing.step, Option.ite_none_right_eq_some] at stepped
    obtain ⟨_, stepped⟩ := stepped
    unfold check at stepped
    split at stepped
    · split at stepped
      · cases stepped
      · next free =>
        have notDeleting : state.client.moduleMutex ≠ .deleting := by
          rw [not_not] at free
          rw [free]
          decide
        split at stepped
        · next connected =>
          cases stepped
          -- the client has its context thread, and nobody holds `moduleMutex`
          refine found.set (fun _ => ⟨found.connected connected, notDeleting⟩) fun _ _ other => ?_
          cases other
        · cases stepped
          exact found
    · cases stepped
  | lock publisher accepted =>
    rw [Publishing.step, Option.ite_none_right_eq_some] at stepped
    obtain ⟨_, stepped⟩ := stepped
    have publishing : state.publishers publisher ≠ .idle := by
      intro idle
      rw [Publishing.lock, idle] at stepped
      cases stepped
    have notSending : state.publishers publisher ≠ .sending := by
      intro sending
      rw [Publishing.lock, sending] at stepped
      cases stepped
    obtain ⟨phase, locked, later⟩ := found.lock accepted publishing notSending
    rw [locked] at stepped
    cases stepped
    exact later
  | send publisher done =>
    rw [Publishing.step, Option.ite_none_right_eq_some] at stepped
    obtain ⟨_, stepped⟩ := stepped
    unfold send at stepped
    split at stepped
    · next sending =>
      cases stepped
      refine found.set (fun _ => found.served publisher (by rw [sending]; simp)) fun _ _ other => ?_
      split at other
      · cases other
      · cases other
    · cases stepped

end Found

/-! ## The end of the client -/

section End

variable {client : Lifecycle.State} {state : State} {thread publisher : Nat}

theorem exec_client (events : List Lifecycle.Event) (state : State) {client : Lifecycle.State}
    (ran : exec Lifecycle.step state.client events = some client) :
    exec step state (events.map .client) = some { state with client := client } := by
  induction events generalizing state with
  | nil =>
    cases ran
    rfl
  | cons event events inductionHypothesis =>
    obtain ⟨middle, stepped, rest⟩ := Option.bind_eq_some_iff.mp ran
    have first : step state (.client event) = some { state with client := middle } := by
      rw [step, stepped, Option.map_some]
    rw [List.map_cons, exec_cons first]
    exact inductionHypothesis { state with client := middle } rest

/-- A context thread that has left `MQTTClient_run` frees the mutex in two steps. -/
theorem frees_mutex (disciplined : Disciplined client) (returned : client.threads thread = .returned)
    (free : client.moduleMutex = .free) :
    ∃ last, exec Lifecycle.step client [.advance thread, .advance thread] = some last ∧
      last.faulted = false ∧ last.library.pointer .mutex = none ∧
      ∀ cell, client.library.pointer .mutex = some cell → last.library.heap cell = none := by
  obtain ⟨lost, sound⟩ := disciplined.sound
  have working := disciplined.working
  cases disciplined.lone with
  | nobody ended _ =>
    have absurdity := ended thread
    rw [returned] at absurdity
    simp [Ended] at absurdity
  | single own others serves =>
    have same : thread = own := by
      by_contra different
      have absurdity := others thread different
      rw [returned] at absurdity
      simp [Ended] at absurdity
    subst same
    rw [returned] at serves
    obtain ⟨library, cell, deletes, opened, points, acks⟩ := Attached.delete serves sound thread
    have first : Lifecycle.step client (.advance thread) = some { client.set thread (.deleting cell) with
        library := library, moduleMutex := .deleting } := by
      rw [Lifecycle.step, if_pos working, Lifecycle.advance, returned]
      dsimp only
      rw [if_pos free, deletes]
    generalize middleIs : ({ client.set thread (.deleting cell) with
      library := library, moduleMutex := .deleting } : Lifecycle.State) = middle at first
    have phase : middle.threads thread = .deleting cell := by
      rw [← middleIs]
      exact set_threads client thread _
    have stillWorking : middle.faulted = false := by
      rw [← middleIs]
      exact working
    have second : Lifecycle.step middle (.advance thread) =
        some (finishDelete thread (middle.library.write cell 0) middle) := by
      rw [Lifecycle.step, if_pos stillWorking, Lifecycle.advance, phase]
      refine pass_of_read ?_ _
      rw [← middleIs]
      exact opened.read points
    have pointers : ∀ pointer,
        (finishDelete thread (middle.library.write cell 0) middle).library.pointer pointer = none := by
      rw [← middleIs]
      exact mqttClientFree_pointer acks
    refine ⟨_, (exec_cons first _).trans (exec_cons second _), stillWorking, pointers _, ?_⟩
    -- the mutex had its pointer, so it is not one of the cells that a creation has lost
    intro mutex pointed
    have later := step_sound (step_sound sound first) second
    have kept : mutex ∉ lost := fun isLost => sound.accounts.ne pointed (mem_pointers _) isLost rfl
    have freed := (later.accounts.allocated mutex).not
    rw [held_eq_nil fun pointer _ => pointers pointer, List.nil_append] at freed
    simpa using freed.mpr (by simpa [overwritten] using kept)

/-- A step of the context thread, or of a publisher whose message is not sent. -/
def Between (thread publisher : Nat) (event : Event) : Prop :=
  event = .client (.advance thread) ∨ event = .lock publisher true ∨ event = .send publisher false

theorem locks_null {again : Bool} (working : state.client.faulted = false)
    (entering : state.publishers publisher = .entering again)
    (null : state.client.library.pointer .mutex = none) :
    step state (.lock publisher true) = some state.fault := by
  rw [step, if_pos working, lock, entering]
  dsimp only
  rw [null]

theorem locks_freed {again : Bool} {cell : Nat} (working : state.client.faulted = false)
    (locking : state.publishers publisher = .locking again cell)
    (freed : state.client.library.heap cell = none) :
    step state (.lock publisher true) = some state.fault := by
  rw [step, if_pos working, lock, locking]
  dsimp only
  rw [freed]

/-- A thread that is still publishing when the mutex is gone locks it. -/
theorem locks_gone (state : State) (working : state.client.faulted = false)
    (publishing : state.publishers publisher ≠ .idle)
    (null : state.client.library.pointer .mutex = none)
    (freed : ∀ again cell, state.publishers publisher = .locking again cell →
      state.client.library.heap cell = none) (thread : Nat) :
    ∃ events result, (∀ event ∈ events, Between thread publisher event) ∧
      exec step state events = some result ∧ result.client.faulted = true := by
  cases phase : state.publishers publisher with
  | idle => exact absurd phase publishing
  | entering again =>
    refine ⟨[.lock publisher true], state.fault, ?_, exec_cons (locks_null working phase null) [], rfl⟩
    simp [Between]
  | locking again cell =>
    refine ⟨[.lock publisher true], state.fault, ?_, ?_, rfl⟩
    · simp [Between]
    · exact exec_cons (locks_freed working phase (freed again cell phase)) []
  | sending =>
    have failed : step state (.send publisher false) = some (state.set publisher (.entering true)) := by
      rw [step, if_pos working, send, phase]
      rfl
    have entering := set_publishers state publisher (.entering true)
    have locked := @locks_null (state.set publisher (.entering true)) _ _ working entering null
    refine ⟨[.send publisher false, .lock publisher true],
      (state.set publisher (.entering true)).fault, ?_, ?_, rfl⟩
    · simp [Between]
    · exact (exec_cons failed _).trans (exec_cons locked [])

/-- Where each connect comes after the earlier context threads, and a context thread comes to
`MQTTClient_delete` only while nobody publishes, a thread that publishes locks the mutex of the
client and never waits for `MQTTClient_delete`.  In each state of these runs in which a context
thread has left `MQTTClient_run` and could take `moduleMutex` while some thread publishes, the two
have a run in which a mutex is locked that has been freed. -/
theorem publish_locks (reached : Reachable step Unhurried initial state) :
    state.client.faulted = false ∧
    (∀ publisher accepted, state.publishers publisher ≠ .idle → state.publishers publisher ≠ .sending →
      ∃ next, step state (.lock publisher accepted) = some next ∧ next.client.faulted = false) ∧
    ∀ thread publisher, state.client.threads thread = .returned → state.client.moduleMutex = .free →
      state.publishers publisher ≠ .idle →
      ∃ events result, (∀ event ∈ events, Between thread publisher event) ∧
        exec step state events = some result ∧ result.client.faulted = true := by
  have found : Found state := by
    refine reached.invariant Found ?_ fun _ _ _ found allowed stepped => found.step allowed stepped
    have disciplined : Disciplined Lifecycle.initial :=
      ⟨rfl, ⟨[], Sound.initial⟩, .nobody (fun _ => .inl rfl) rfl⟩
    exact .unused disciplined (fun other => by cases other) fun _ => rfl
  have working := found.disciplined.working
  refine ⟨working, ?_, ?_⟩
  · intro publisher accepted publishing notSending
    obtain ⟨phase, locked, _⟩ := found.lock accepted publishing notSending
    exact ⟨state.set publisher phase, by rw [step, if_pos working, locked], working⟩
  · intro thread publisher returned free publishing
    obtain ⟨last, ran, stillWorking, null, freed⟩ := frees_mutex found.disciplined returned free
    obtain ⟨events, result, between, later, faulted⟩ :=
      locks_gone { state with client := last } stillWorking publishing null
        (fun again cell locking => freed cell (found.locking publisher again cell locking)) thread
    refine ⟨[.advance thread, .advance thread].map .client ++ events, result, ?_, ?_, faulted⟩
    · intro event member
      obtain deletes | publishes := List.mem_append.mp member
      · exact .inl (by simpa using deletes)
      · exact between event publishes
    · rw [exec_append, exec_client [.advance thread, .advance thread] state ran]
      exact later

/-- A thread publishes, and the broker leaves. -/
def lateCheck : List Event :=
  [.client (.connect plainParams allDone true true), .client (.advance 0), .client (.advance 0),
    .client (.advance 0), .client (.unblock true), .client (.advance 0), .client (.connack true),
    .check 0, .client (.advance 0)]

theorem publish_locks_late : ∃ state events result, Reachable step Unhurried initial state ∧
    (∀ event ∈ events, Between 0 0 event) ∧ exec step state events = some result ∧
    result.client.faulted = true := by
  obtain ⟨state, ran, returned, free, entering⟩ : ∃ state, exec step initial lateCheck = some state ∧
      state.client.threads 0 = .returned ∧ state.client.moduleMutex = .free ∧
      state.publishers 0 = .entering false := ⟨_, rfl, rfl, rfl, rfl⟩
  have along : Along step Unhurried initial lateCheck := by
    refine ⟨fun _ => .inl rfl, ?_⟩
    rintro _ ⟨⟩
    refine ⟨fun returned => absurd returned (by decide), ?_⟩
    rintro _ ⟨⟩
    refine ⟨fun returned => absurd returned (by decide), ?_⟩
    rintro _ ⟨⟩
    refine ⟨fun returned => absurd returned (by decide), ?_⟩
    rintro _ ⟨⟩
    refine ⟨trivial, ?_⟩
    rintro _ ⟨⟩
    refine ⟨fun returned => absurd returned (by decide), ?_⟩
    rintro _ ⟨⟩
    refine ⟨trivial, ?_⟩
    rintro _ ⟨⟩
    refine ⟨trivial, ?_⟩
    rintro _ ⟨⟩
    exact ⟨fun returned => absurd returned (by decide), fun _ _ => trivial⟩
  have reached := Reachable.of_exec lateCheck along ran
  obtain ⟨events, result, between, later, faulted⟩ :=
    (publish_locks reached).2.2 0 0 returned free (by rw [entering]; simp)
  exact ⟨state, events, result, reached, between, later, faulted⟩

end End

end PlhrFirmware.Client.Publishing
