import PlhrFirmware.Client.Connect
import PlhrFirmware.Lib.Chain
import PlhrFirmware.Lib.Reachable

/-! # The list of topics

The subscribed topics are a singly linked list of nodes from `malloc`, which `MQTT_IF_Subscribe`,
`MQTT_IF_Unsubscribe`, `MQTT_IF_Deinit` and `MQTTAppThread`, when it handles a CONNACK, change with
`moduleMutex` held: every operation is one step.  A loop over the list gets as many rounds as
nodes have been allocated; one that needs more has come back to a node.  An operation that reads
a freed node, or does not end, has no result.
-/

namespace PlhrFirmware.Session

open PlhrFirmware.Lib PlhrFirmware.Client

namespace Topics

/-! ## State -/

/-- A `struct Node`, with the string that `topicParams.topic` points to. -/
structure Node where
  topic : List UInt8
  qos : UInt32
  topicCB : Nat
  next : Option Nat
  deriving DecidableEq, Repr

/-- `ret` is the value of the last operation, and `mallocs` counts the nodes from `malloc`. -/
structure State where
  moduleState : ModuleState
  heap : Nat → Option Node
  head : Option Nat
  mallocs : Nat
  ret : Int

/-- `entry` is what `malloc` gives for the node and `buffer` whether it gives the string; the
`n`th call of `MQTTClient_subscribe` for a CONNACK returns `rets n`. -/
inductive Event where
  | init
  | connect
  | subscribe (topic : List UInt8) (qos : UInt32) (topicCB : Nat) (entry : Option Nat)
      (buffer : Bool) (ret : Int)
  | unsubscribe (topic : List UInt8) (ret : Int)
  | connack (rets : Nat → Int)
  | disconnect (ret : Int)
  | cleanup
  | deinit (sent : Bool)

def State.malloc (state : State) (entry : Nat) (node : Node) : State :=
  { state with heap := Function.update state.heap entry (some node), mallocs := state.mallocs + 1 }

def State.free (state : State) (entry : Nat) : State :=
  { state with heap := Function.update state.heap entry none }

/-- `prev->next = next` -/
def State.setNext (state : State) (prev next : Option Nat) : Option State := do
  let prev ← prev
  let node ← state.heap prev
  return { state with heap := Function.update state.heap prev (some { node with next := next }) }

/-! ## Operations -/

def mqttIfSubscribe (topic : List UInt8) (qos : UInt32) (topicCB : Nat) (entry : Option Nat)
    (buffer : Bool) (ret : Int) (state : State) : State :=
  if state.moduleState = .idle then { state with ret := -1 }
  else
    match entry with
    | none => { state with ret := -1 }
    | some entry =>
      let state := state.malloc entry ⟨topic, qos, topicCB, state.head⟩
      -- without memory for the string the node stays allocated; what it holds is never read
      if buffer = false then { state with ret := -1 }
      else
        let state := { state with head := some entry }
        if state.moduleState = .connected then
          if ret < 0 then { state.free entry with ret := ret }
          else { state with ret := ret }
        else { state with ret := 0 }

section Unsubscribe

-- what `MQTTHelperTopicMatching` returns
variable (topicMatching : List UInt8 → List UInt8 → Int)

def unsubscribeLoop (topic : List UInt8) : Nat → Option Nat → Option Nat → State → Option State
  | _, _, none, state => some { state with ret := -1 }
  | 0, _, some _, _ => none
  | rounds + 1, prev, some curr, state => do
    let node ← state.heap curr
    let ret := topicMatching node.topic topic
    if ret = 1 then
      let state ←
        if state.head = some curr then some { state with head := node.next }
        else state.setNext prev node.next
      return { state.free curr with ret := ret }
    else unsubscribeLoop topic rounds (some curr) node.next state

def mqttIfUnsubscribe (topic : List UInt8) (ret : Int) (state : State) : Option State :=
  if state.moduleState ≠ .connected then some { state with ret := -1 }
  else if ret < 0 then some { state with ret := ret }
  else unsubscribeLoop topicMatching topic state.mallocs none state.head state

end Unsubscribe

/-- The loop of `MQTTAppThread`; `attempted` are the nodes that it has subscribed so far. -/
def resubscribeLoop (rets : Nat → Int) :
    Nat → List Nat → Option Nat → Option Nat → State → Option (State × List Nat)
  | _, attempted, _, none, state => some (state, attempted)
  | 0, _, _, some _, _ => none
  | rounds + 1, attempted, prev, some curr, state => do
    let node ← state.heap curr
    let ret := rets attempted.length
    let attempted := attempted ++ [curr]
    if ret < 0 then
      if state.head = some curr then
        resubscribeLoop rets rounds attempted prev node.next
          ({ state with head := node.next }.free curr)
      else
        let state ← state.setNext prev node.next
        match node.next with
        | some next =>
          -- goes on behind the next node
          let skipped ← state.heap next
          resubscribeLoop rets rounds attempted prev skipped.next (state.free curr)
        | none => resubscribeLoop rets rounds attempted prev none (state.free curr)
    else resubscribeLoop rets rounds attempted (some curr) node.next state

def connack (rets : Nat → Int) (state : State) : Option State :=
  (resubscribeLoop rets state.mallocs [] none state.head state).map Prod.fst

def mqttIfDisconnect (ret : Int) (state : State) : State :=
  if state.moduleState ≠ .connected then { state with ret := -1 }
  else if ret < 0 then { state with ret := ret }
  else { state with moduleState := .initialized, ret := ret }

def deinitLoop : Nat → Option Nat → State → Option State
  | _, none, state => some state
  | 0, some _, _ => none
  | rounds + 1, some tmp, state => do
    let node ← state.heap tmp
    deinitLoop rounds node.next ({ state with head := node.next }.free tmp)

def mqttIfDeinit (sent : Bool) (state : State) : Option State :=
  if state.moduleState ≠ .initialized then some { state with ret := -1 }
  else if sent = false then some { state with ret := -1 }
  else
    (deinitLoop state.mallocs state.head state).map fun state =>
      { state with moduleState := .idle, ret := 0 }

/-- `malloc` gives an address that is not allocated. -/
def Fresh (state : State) (entry : Option Nat) : Prop := ∀ address ∈ entry, state.heap address = none

instance (state : State) (entry : Option Nat) : Decidable (Fresh state entry) :=
  inferInstanceAs (Decidable (∀ address ∈ entry, _))

variable (topicMatching : List UInt8 → List UInt8 → Int)

def step (state : State) : Event → Option State
  | .init =>
    some (if state.moduleState = .idle then { state with moduleState := .initialized } else state)
  | .connect =>
    some (if state.moduleState = .initialized then { state with moduleState := .connected } else state)
  | .subscribe topic qos topicCB entry buffer ret =>
    if Fresh state entry then some (mqttIfSubscribe topic qos topicCB entry buffer ret state) else none
  | .unsubscribe topic ret => mqttIfUnsubscribe topicMatching topic ret state
  | .connack rets => connack rets state
  | .disconnect ret => some (mqttIfDisconnect ret state)
  | .cleanup => some { state with moduleState := .initialized }
  | .deinit sent => mqttIfDeinit sent state

def initial : State := ⟨.idle, fun _ => none, none, 0, 0⟩

/-! ## Well-formed lists -/

/-- The list that starts at `head` is finite, ends in `NULL` and has no freed node. -/
def WellFormed (state : State) : Prop := ∃ nodes, Chain Node.next state.heap state.head nodes

/-- The chain has the same nodes, and they hold the same. -/
def SameChain (state result : State) : Prop := ∀ nodes, Chain Node.next state.heap state.head nodes →
  Chain Node.next result.heap result.head nodes ∧ ∀ address ∈ nodes, result.heap address = state.heap address

/-- The operation ends without reading a freed node and leaves the list well formed; a
`MQTT_IF_Subscribe` that returns a negative value leaves the chain. -/
def Kept (state : State) : Event → Prop
  | .subscribe topic qos topicCB entry buffer ret => Fresh state entry →
    ∃ result, step topicMatching state (.subscribe topic qos topicCB entry buffer ret) = some result ∧
      WellFormed result ∧ (result.ret < 0 → SameChain state result)
  | event => ∃ result, step topicMatching state event = some result ∧ WellFormed result

/-- The client's subscribe does not fail for a node that `MQTT_IF_Subscribe` has linked. -/
def NoUnlinkedFree (state : State) : Event → Prop
  | .subscribe _ _ _ entry buffer ret => state.moduleState = .connected → entry.isSome →
    Fresh state entry → buffer = true → 0 ≤ ret
  | _ => True

instance (state : State) (event : Event) : Decidable (NoUnlinkedFree state event) :=
  match event with
  | .subscribe _ _ _ _ _ _ => inferInstanceAs (Decidable (_ → _ → _ → _ → _))
  | .init | .connect | .unsubscribe _ _ | .connack _ | .disconnect _ | .cleanup | .deinit _ =>
    .isTrue trivial

/-! ## The loops -/

/-- What a loop has left of the list of `nodes`. -/
def Left (state : State) (nodes : List Nat) (result : State) : Prop :=
  result.mallocs = state.mallocs ∧
    ∃ kept, kept.Sublist nodes ∧ Chain Node.next result.heap result.head kept

theorem Left.trans {state middle result : State} {nodes kept : List Nat}
    (first : middle.mallocs = state.mallocs) (sublist : kept.Sublist nodes)
    (second : Left middle kept result) : Left state nodes result := by
  obtain ⟨mallocs, rest, more, chain⟩ := second
  exact ⟨mallocs.trans first, rest, more.trans sublist, chain⟩

/-- `prev->next = next` for a node that is allocated. -/
def State.link (state : State) (prev : Nat) (node : Node) (next : Option Nat) : State :=
  { state with heap := Function.update state.heap prev (some { node with next := next }) }

theorem setNext_eq {state : State} {prev : Nat} {node : Node} (read : state.heap prev = some node)
    (next : Option Nat) : state.setNext (some prev) next = some (state.link prev node next) := by
  simp [State.setNext, State.link, read]

/-- What a node holds besides its link. -/
def State.entry (state : State) (address : Nat) : Option (List UInt8 × UInt32 × Nat) :=
  (state.heap address).map fun node => (node.topic, node.qos, node.topicCB)

@[simp] theorem entry_link {state : State} {prev : Nat} {node : Node}
    (read : state.heap prev = some node) (next : Option Nat) (address : Nat) :
    (state.link prev node next).entry address = state.entry address := by
  by_cases same : address = prev
  · subst same
    simp [State.entry, State.link, read]
  · simp [State.entry, State.link, same]

@[simp] theorem entry_free (state : State) (entry address : Nat) :
    (state.free entry).entry address = if address = entry then none else state.entry address := by
  by_cases same : address = entry <;> simp [State.entry, State.free, same]

/-- What a CONNACK does with the list: the nodes that it subscribes in turn, those that stay and
those that it frees. -/
structure Outcome where
  attempted : List Nat
  kept : List Nat
  freed : List Nat

/-- The loop over the list from the node of a call on.  `between` is what it has skipped behind
`prev`, which is lost when the call fails; it skips the node behind one that fails, unless that
one was the head. -/
def resubscribed (rets : Nat → Int) : Nat → Bool → List Nat → List Nat → Outcome
  | _, _, between, [] => ⟨[], between, []⟩
  | call, atHead, between, curr :: back =>
    if rets call < 0 then
      if atHead then
        let rest := resubscribed rets (call + 1) true [] back
        ⟨curr :: rest.attempted, rest.kept, curr :: rest.freed⟩
      else
        match back with
        | [] => ⟨[curr], [], [curr]⟩
        | next :: back =>
          let rest := resubscribed rets (call + 1) false [next] back
          ⟨curr :: rest.attempted, rest.kept, curr :: rest.freed⟩
    else
      let rest := resubscribed rets (call + 1) false [] back
      ⟨curr :: rest.attempted, between ++ curr :: rest.kept, rest.freed⟩

section Resubscribed

variable {rets : Nat → Int} {call curr : Nat} {atHead : Bool} {between back : List Nat}

theorem resubscribed_stays (succeeded : ¬ rets call < 0) :
    resubscribed rets call atHead between (curr :: back) =
      ⟨curr :: (resubscribed rets (call + 1) false [] back).attempted,
        between ++ curr :: (resubscribed rets (call + 1) false [] back).kept,
        (resubscribed rets (call + 1) false [] back).freed⟩ := by
  cases back <;> simp [resubscribed, succeeded]

theorem resubscribed_head (failed : rets call < 0) :
    resubscribed rets call true between (curr :: back) =
      ⟨curr :: (resubscribed rets (call + 1) true [] back).attempted,
        (resubscribed rets (call + 1) true [] back).kept,
        curr :: (resubscribed rets (call + 1) true [] back).freed⟩ := by
  cases back <;> simp [resubscribed, failed]

theorem resubscribed_last (failed : rets call < 0) :
    resubscribed rets call false between [curr] = ⟨[curr], [], [curr]⟩ := by
  simp [resubscribed, failed]

theorem resubscribed_skips (failed : rets call < 0) (next : Nat) :
    resubscribed rets call false between (curr :: next :: back) =
      ⟨curr :: (resubscribed rets (call + 1) false [next] back).attempted,
        (resubscribed rets (call + 1) false [next] back).kept,
        curr :: (resubscribed rets (call + 1) false [next] back).freed⟩ := by
  simp [resubscribed, failed]

/-- The nodes that stay keep their order. -/
theorem resubscribed_kept (rets : Nat → Int) (call : Nat) (atHead : Bool) (between back : List Nat) :
    (resubscribed rets call atHead between back).kept.Sublist (between ++ back) := by
  fun_induction resubscribed rets call atHead between back with
  | case1 => simp
  | case2 call between curr back failed rest inductionHypothesis =>
    exact inductionHypothesis.trans
      ((List.sublist_cons_self curr back).trans (List.sublist_append_right _ _))
  | case3 => exact List.nil_sublist _
  | case4 call atHead between curr failed notHead next back rest inductionHypothesis =>
    exact inductionHypothesis.trans
      ((List.sublist_cons_self curr _).trans (List.sublist_append_right _ _))
  | case5 call atHead between curr back succeeded rest inductionHypothesis =>
    exact (List.Sublist.refl between).append (inductionHypothesis.cons_cons curr)

end Resubscribed

/-- The loop has done with the list what the outcome says; `done` are the nodes before. -/
structure Resubscribes (state : State) (attempted done : List Nat) (outcome : Outcome)
    (result : State × List Nat) : Prop where
  mallocs : result.1.mallocs = state.mallocs
  attempted : result.2 = attempted ++ outcome.attempted
  chain : Chain Node.next result.1.heap result.1.head (done ++ outcome.kept)
  entry : ∀ address, result.1.entry address =
    if address ∈ outcome.freed then none else state.entry address

theorem head_ne_of_behind {state : State} {front between back : List Nat} {before curr : Nat}
    (chain : Chain Node.next state.heap state.head (front ++ before :: (between ++ curr :: back))) :
    state.head ≠ some curr := by
  intro first
  have distinct := chain.nodup
  rw [first] at chain
  obtain ⟨_, _, _, same, _⟩ := chain.uncons
  cases front with
  | nil =>
    cases same
    exact (List.nodup_cons.mp distinct).1 (by simp)
  | cons =>
    cases same
    exact (List.nodup_cons.mp distinct).1 (by simp)

theorem resubscribeLoop_none (rets : Nat → Int) (rounds : Nat) (attempted : List Nat)
    (prev : Option Nat) (state : State) :
    resubscribeLoop rets rounds attempted prev none state = some (state, attempted) := by
  cases rounds <;> rfl

theorem Resubscribes.ended {state : State} {attempted done between : List Nat}
    (chain : Chain Node.next state.heap state.head (done ++ between)) (rets : Nat → Int) (call : Nat)
    (atHead : Bool) : Resubscribes state attempted done (resubscribed rets call atHead between [])
      (state, attempted) :=
  ⟨rfl, (List.append_nil _).symm, chain, by simp [resubscribed]⟩

theorem Resubscribes.stays {state : State} {attempted done between : List Nat} {curr : Nat}
    {more : Outcome} {result : State × List Nat}
    (resubscribes : Resubscribes state (attempted ++ [curr]) (done ++ (between ++ [curr])) more result) :
    Resubscribes state attempted done
      ⟨curr :: more.attempted, between ++ curr :: more.kept, more.freed⟩ result := by
  refine ⟨resubscribes.mallocs, ?_, ?_, resubscribes.entry⟩
  · rw [resubscribes.attempted, List.append_assoc]
    rfl
  · have chain := resubscribes.chain
    rw [List.append_assoc, List.append_assoc] at chain
    exact chain

theorem Resubscribes.freed {state taken : State} {attempted done : List Nat} {curr : Nat}
    {more : Outcome} {result : State × List Nat}
    (entries : ∀ address, taken.entry address = if address = curr then none else state.entry address)
    (mallocs : taken.mallocs = state.mallocs)
    (resubscribes : Resubscribes taken (attempted ++ [curr]) done more result) :
    Resubscribes state attempted done ⟨curr :: more.attempted, more.kept, curr :: more.freed⟩ result := by
  refine ⟨resubscribes.mallocs.trans mallocs, ?_, resubscribes.chain, fun address => ?_⟩
  · rw [resubscribes.attempted, List.append_assoc]
    rfl
  · rw [resubscribes.entry, entries]
    by_cases same : address = curr <;> simp [same]

/-- The loop behind the first node that stays: the induction goes over the rounds, and `between`
are the nodes that have been skipped since `before`. -/
theorem resubscribeLoop_behind (rets : Nat → Int) (rounds : Nat) {attempted front between back : List Nat}
    {before : Nat} {curr : Option Nat} {state : State}
    (chain : Chain Node.next state.heap state.head (front ++ before :: (between ++ back)))
    (rest : Chain Node.next state.heap curr back) (bounded : back.length ≤ rounds) :
    ∃ result, resubscribeLoop rets rounds attempted (some before) curr state = some result ∧
      Resubscribes state attempted (front ++ [before])
        (resubscribed rets attempted.length false between back) result := by
  induction rounds generalizing attempted front between back before curr state with
  | zero =>
    cases List.length_eq_zero_iff.mp (Nat.le_zero.mp bounded)
    cases Chain.start_eq rest
    exact ⟨_, rfl, .ended (by simpa using chain) rets _ _⟩
  | succ rounds inductionHypothesis =>
    cases curr with
    | none =>
      cases rest.eq_nil
      exact ⟨_, rfl, .ended (by simpa using chain) rets _ _⟩
    | some curr =>
      obtain ⟨node, back, read, rfl, later⟩ := rest.uncons
      have short : back.length ≤ rounds := Nat.le_of_succ_le_succ bounded
      have first := head_ne_of_behind chain
      by_cases failed : rets attempted.length < 0
      · obtain ⟨cell, beforeRead⟩ := Segment.allocated chain
          (show before ∈ front ++ before :: (between ++ curr :: back) by simp)
        let relinked := (state.link before cell node.next).free curr
        have unlinked := chain.unlink read { cell with next := node.next } rfl
        have relinkedChain : Chain Node.next relinked.heap relinked.head (front ++ before :: back) :=
          unlinked.1
        have relinkedBack : Chain Node.next relinked.heap node.next back := unlinked.2
        have entries : ∀ address, relinked.entry address =
            if address = curr then none else state.entry address := by
          simp [relinked, beforeRead]
        cases link : node.next with
        | none =>
          rw [link] at relinkedBack
          cases relinkedBack.eq_nil
          refine ⟨(relinked, attempted ++ [curr]), ?_, rfl, ?_, ?_, ?_⟩
          · simp [resubscribeLoop, read, failed, first, setNext_eq beforeRead, link, relinked,
              resubscribeLoop_none]
          · rw [resubscribed_last failed]
          · rw [resubscribed_last failed, List.append_nil]
            exact relinkedChain
          · simpa [resubscribed_last failed] using entries
        | some next =>
          rw [link] at relinkedBack
          obtain ⟨skipped, back, skippedRead, rfl, behindSkipped⟩ := relinkedBack.uncons
          have loop : resubscribeLoop rets (rounds + 1) attempted (some before) (some curr) state =
              resubscribeLoop rets rounds (attempted ++ [curr]) (some before) skipped.next
                relinked := by
            have other : next ≠ curr := by
              rintro rfl
              simp [relinked, State.free] at skippedRead
            simp only [relinked, State.free, Function.update_of_ne other, link] at skippedRead
            simp [resubscribeLoop, read, failed, first, setNext_eq beforeRead, link, skippedRead,
              relinked]
          obtain ⟨result, ran, resubscribes⟩ := @inductionHypothesis (attempted ++ [curr]) front
            [next] back before skipped.next relinked relinkedChain behindSkipped
            ((Nat.le_succ _).trans short)
          rw [List.length_append] at resubscribes
          rw [resubscribed_skips failed]
          exact ⟨result, loop.trans ran, resubscribes.freed entries rfl⟩
      · have loop : resubscribeLoop rets (rounds + 1) attempted (some before) (some curr) state =
            resubscribeLoop rets rounds (attempted ++ [curr]) (some curr) node.next state := by
          simp [resubscribeLoop, read, failed]
        have chain' : Chain Node.next state.heap state.head
            ((front ++ before :: between) ++ curr :: ([] ++ back)) := by simpa using chain
        obtain ⟨result, ran, resubscribes⟩ := @inductionHypothesis (attempted ++ [curr])
          (front ++ before :: between) [] back curr node.next state chain' later short
        have done : front ++ before :: between ++ [curr] = front ++ [before] ++ (between ++ [curr]) := by simp
        rw [List.length_append, done] at resubscribes
        rw [resubscribed_stays failed]
        exact ⟨result, loop.trans ran, resubscribes.stays⟩

theorem resubscribeLoop_head (rets : Nat → Int) (rounds : Nat) {attempted nodes : List Nat}
    {prev : Option Nat} {state : State} (chain : Chain Node.next state.heap state.head nodes)
    (bounded : nodes.length ≤ rounds) :
    ∃ result, resubscribeLoop rets rounds attempted prev state.head state = some result ∧
      Resubscribes state attempted [] (resubscribed rets attempted.length true [] nodes) result := by
  induction rounds generalizing attempted nodes state with
  | zero =>
    cases List.length_eq_zero_iff.mp (Nat.le_zero.mp bounded)
    rw [Chain.start_eq chain]
    exact ⟨_, rfl, .ended chain rets _ _⟩
  | succ rounds inductionHypothesis =>
    cases first : state.head with
    | none =>
      rw [first] at chain
      cases chain.eq_nil
      exact ⟨_, rfl, .ended (first ▸ .nil) rets _ _⟩
    | some curr =>
      have whole := chain
      rw [first] at chain
      obtain ⟨node, back, read, rfl, later⟩ := Chain.uncons chain
      have short : back.length ≤ rounds := Nat.le_of_succ_le_succ bounded
      by_cases failed : rets attempted.length < 0
      · let taken := { state with head := node.next }.free curr
        have beheaded : Chain Node.next taken.heap taken.head back := chain.behead read
        have loop : resubscribeLoop rets (rounds + 1) attempted prev (some curr) state =
            resubscribeLoop rets rounds (attempted ++ [curr]) prev taken.head taken := by
          simp [resubscribeLoop, read, failed, first, taken, State.free]
        have entries : ∀ address, taken.entry address =
            if address = curr then none else state.entry address := entry_free _ curr
        obtain ⟨result, ran, resubscribes⟩ := @inductionHypothesis (attempted ++ [curr]) back taken
          beheaded short
        rw [List.length_append] at resubscribes
        rw [resubscribed_head failed]
        exact ⟨result, loop.trans ran, resubscribes.freed entries rfl⟩
      · have loop : resubscribeLoop rets (rounds + 1) attempted prev (some curr) state =
            resubscribeLoop rets rounds (attempted ++ [curr]) (some curr) node.next state := by
          simp [resubscribeLoop, read, failed]
        obtain ⟨result, ran, resubscribes⟩ := @resubscribeLoop_behind rets rounds
          (attempted ++ [curr]) [] [] back curr node.next state whole later short
        rw [List.length_append] at resubscribes
        rw [resubscribed_stays failed]
        exact ⟨result, loop.trans ran, resubscribes.stays⟩

/-- The filter of the node matches the topic. -/
def Filters (topic : List UInt8) (state : State) (address : Nat) : Prop :=
  ∃ node, state.heap address = some node ∧ topicMatching node.topic topic = 1

/-- What the loop of `MQTT_IF_Unsubscribe` does behind the nodes `front`: it takes the first node
off that matches. -/
inductive Unsubscribes (topic : List UInt8) (state : State) (front back : List Nat) :
    State → Prop where
  | unmatched (different : ∀ address ∈ back, ¬ Filters topicMatching topic state address) :
      Unsubscribes topic state front back { state with ret := -1 }
  | removed {result : State} (before after : List Nat) (curr : Nat)
      (parts : back = before ++ curr :: after)
      (passed : ∀ address ∈ before, ¬ Filters topicMatching topic state address)
      (matched : Filters topicMatching topic state curr) (mallocs : result.mallocs = state.mallocs)
      (chain : Chain Node.next result.heap result.head (front ++ (before ++ after)))
      (entry : ∀ address, result.entry address = if address = curr then none else state.entry address)
      (ret : result.ret = 1) : Unsubscribes topic state front back result

theorem unsubscribeLoop_spec (topic : List UInt8) (rounds : Nat) {prev curr : Option Nat}
    {state : State} {front back : List Nat}
    (chain : Chain Node.next state.heap state.head (front ++ back))
    (rest : Chain Node.next state.heap curr back) (previous : front ≠ [] → prev = front.getLast?)
    (bounded : back.length ≤ rounds) :
    ∃ result, unsubscribeLoop topicMatching topic rounds prev curr state = some result ∧
      Unsubscribes topicMatching topic state front back result := by
  induction rounds generalizing prev curr front back with
  | zero =>
    cases List.length_eq_zero_iff.mp (Nat.le_zero.mp bounded)
    cases Chain.start_eq rest
    exact ⟨_, rfl, .unmatched fun _ member => absurd member List.not_mem_nil⟩
  | succ rounds inductionHypothesis =>
    cases curr with
    | none =>
      cases rest.eq_nil
      exact ⟨_, rfl, .unmatched fun _ member => absurd member List.not_mem_nil⟩
    | some curr =>
      obtain ⟨node, back, read, rfl, later⟩ := rest.uncons
      by_cases matched : topicMatching node.topic topic = 1
      · cases front.eq_nil_or_concat with
        | inl nothing =>
          subst nothing
          have first : state.head = some curr := Chain.start_cons chain
          rw [first] at chain
          refine ⟨{ { state with head := node.next }.free curr with ret := 1 }, ?_,
            .removed [] back curr rfl (List.forall_mem_nil _) ⟨node, read, matched⟩ rfl
              (Chain.behead chain read) (entry_free _ curr) rfl⟩
          simp [unsubscribeLoop, read, matched, first]
        | inr some =>
          obtain ⟨front, before, rfl⟩ := some
          rw [List.concat_eq_append, List.append_assoc] at chain
          have first : state.head ≠ some curr := @head_ne_of_behind state front [] back before curr chain
          obtain ⟨cell, beforeRead⟩ := Segment.allocated chain
            (show before ∈ front ++ ([before] ++ curr :: back) by simp)
          have unlinked := @Chain.unlink _ _ _ _ _ curr _ front [] back before node chain read
            { cell with next := node.next } rfl
          refine ⟨{ (state.link before cell node.next).free curr with ret := 1 }, ?_,
            .removed [] back curr rfl (List.forall_mem_nil _) ⟨node, read, matched⟩ rfl ?_
              (fun address => ?_) rfl⟩
          · simp [unsubscribeLoop, read, matched, first, previous, setNext_eq beforeRead]
          · rw [List.concat_eq_append, List.append_assoc]
            exact unlinked.1
          · rw [← entry_link beforeRead node.next address]
            exact entry_free (state.link before cell node.next) curr address
      · have loop : unsubscribeLoop topicMatching topic (rounds + 1) prev (some curr) state =
            unsubscribeLoop topicMatching topic rounds (some curr) node.next state := by
          simp [unsubscribeLoop, read, matched]
        have different : ¬ Filters topicMatching topic state curr := by
          rintro ⟨node', read', matched'⟩
          cases read.symm.trans read'
          exact matched matched'
        obtain ⟨result, ran, unsubscribes⟩ := @inductionHypothesis (some curr) node.next
          (front ++ [curr]) back (by simpa using chain) later (fun _ => by simp)
          (Nat.le_of_succ_le_succ bounded)
        refine ⟨result, loop.trans ran, ?_⟩
        cases unsubscribes with
        | unmatched others => exact .unmatched (List.forall_mem_cons.mpr ⟨different, others⟩)
        | removed before after curr' parts passed matched' mallocs chain' entry ret =>
          exact .removed (curr :: before) after curr' (by rw [parts]; rfl)
            (List.forall_mem_cons.mpr ⟨different, passed⟩) matched' mallocs (by simpa using chain')
            entry ret

theorem deinitLoop_left (rounds : Nat) {state : State} {nodes : List Nat}
    (chain : Chain Node.next state.heap state.head nodes) (bounded : nodes.length ≤ rounds) :
    ∃ result, deinitLoop rounds state.head state = some result ∧ Left state nodes result := by
  induction rounds generalizing state nodes with
  | zero =>
    cases nodes with
    | nil =>
      refine ⟨state, ?_, rfl, [], List.Sublist.refl _, chain⟩
      rw [Chain.start_eq chain]
      rfl
    | cons _ _ => cases bounded
  | succ rounds inductionHypothesis =>
    cases ended : state.head with
    | none => exact ⟨state, rfl, rfl, nodes, List.Sublist.refl _, chain⟩
    | some tmp =>
      rw [ended] at chain
      obtain ⟨node, back, read, rfl, _⟩ := Chain.uncons chain
      let freed := { state with head := node.next }.free tmp
      have beheaded : Chain Node.next freed.heap freed.head back := chain.behead read
      obtain ⟨result, ran, left⟩ := inductionHypothesis beheaded (Nat.le_of_succ_le_succ bounded)
      refine ⟨result, ?_, left.trans rfl (List.sublist_cons_self _ _)⟩
      simp only [deinitLoop, read]
      exact ran

/-- A loop over the list has enough rounds. -/
structure Linked (state : State) (nodes : List Nat) : Prop where
  chain : Chain Node.next state.heap state.head nodes
  bounded : nodes.length ≤ state.mallocs

theorem Linked.wellFormed {state : State} {nodes : List Nat} (linked : Linked state nodes) :
    WellFormed state := ⟨nodes, linked.chain⟩

theorem Left.linked {state result : State} {nodes : List Nat} (left : Left state nodes result)
    (linked : Linked state nodes) : ∃ kept, Linked result kept := by
  obtain ⟨mallocs, kept, sublist, chain⟩ := left
  exact ⟨kept, chain, mallocs ▸ sublist.length_le.trans linked.bounded⟩

/-! ## The operations -/

section Operations

variable {state : State} {nodes : List Nat}

theorem Left.unchanged (linked : Linked state nodes) {result : State}
    (same : result.heap = state.heap ∧ result.head = state.head ∧ result.mallocs = state.mallocs) :
    Left state nodes result := by
  obtain ⟨heap, head, mallocs⟩ := same
  refine ⟨mallocs, nodes, List.Sublist.refl _, ?_⟩
  rw [heap, head]
  exact linked.chain

theorem mqttIfUnsubscribe_left (linked : Linked state nodes) (topic : List UInt8) (ret : Int) :
    ∃ result, mqttIfUnsubscribe topicMatching topic ret state = some result ∧
      Left state nodes result := by
  unfold mqttIfUnsubscribe
  split
  · exact ⟨_, rfl, .unchanged linked ⟨rfl, rfl, rfl⟩⟩
  · split
    · exact ⟨_, rfl, .unchanged linked ⟨rfl, rfl, rfl⟩⟩
    · obtain ⟨result, ran, unsubscribes⟩ := @unsubscribeLoop_spec topicMatching topic state.mallocs
        none state.head state [] nodes linked.chain linked.chain (absurd rfl) linked.bounded
      refine ⟨result, ran, ?_⟩
      cases unsubscribes with
      | unmatched => exact .unchanged linked ⟨rfl, rfl, rfl⟩
      | removed before after curr parts _ _ mallocs chain _ _ =>
        refine ⟨mallocs, before ++ after, ?_, chain⟩
        rw [parts]
        exact (List.Sublist.refl before).append (List.sublist_cons_self curr after)

theorem connack_left (linked : Linked state nodes) (rets : Nat → Int) :
    ∃ result, connack rets state = some result ∧ Left state nodes result := by
  obtain ⟨result, ran, resubscribes⟩ := @resubscribeLoop_head rets state.mallocs [] nodes none state
    linked.chain linked.bounded
  refine ⟨result.1, by rw [connack, ran]; rfl, resubscribes.mallocs, _, ?_, resubscribes.chain⟩
  exact resubscribed_kept rets 0 true [] nodes

theorem mqttIfDeinit_left (linked : Linked state nodes) (sent : Bool) :
    ∃ result, mqttIfDeinit sent state = some result ∧ Left state nodes result := by
  unfold mqttIfDeinit
  split
  · exact ⟨_, rfl, .unchanged linked ⟨rfl, rfl, rfl⟩⟩
  · split
    · exact ⟨_, rfl, .unchanged linked ⟨rfl, rfl, rfl⟩⟩
    · obtain ⟨result, ran, left⟩ := deinitLoop_left state.mallocs linked.chain linked.bounded
      exact ⟨{ result with moduleState := .idle, ret := 0 }, by rw [ran]; rfl, left⟩

theorem SameChain.refl (state : State) (ret : Int) : SameChain state { state with ret := ret } :=
  fun _ chain => ⟨chain, fun _ _ => rfl⟩

theorem malloc_sameChain {entry : Nat} (node : Node) (fresh : state.heap entry = none) (ret : Int) :
    SameChain state { state.malloc entry node with ret := ret } := by
  intro nodes chain
  have outside := Segment.outside chain fresh
  refine ⟨Segment.update chain outside _, fun address member => ?_⟩
  have other : address ≠ entry := by
    rintro rfl
    exact outside member
  exact Function.update_of_ne other ..

/-- The new node comes before the others. -/
theorem malloc_linked (linked : Linked state nodes) {entry : Nat} {node : Node}
    (fresh : state.heap entry = none) (link : node.next = state.head) (ret : Int) :
    Linked { state.malloc entry node with head := some entry, ret := ret } (entry :: nodes) := by
  refine ⟨.cons (Function.update_self ..) ?_, Nat.succ_le_succ linked.bounded⟩
  rw [link]
  exact Segment.update linked.chain (Segment.outside linked.chain fresh) _

theorem mqttIfSubscribe_linked (linked : Linked state nodes) (topic : List UInt8) (qos : UInt32)
    (topicCB : Nat) {entry : Option Nat} {buffer : Bool} {ret : Int} (fresh : Fresh state entry)
    (allowed : NoUnlinkedFree state (.subscribe topic qos topicCB entry buffer ret)) :
    let result := mqttIfSubscribe topic qos topicCB entry buffer ret state
    (∃ nodes, Linked result nodes) ∧ (result.ret < 0 → SameChain state result) := by
  by_cases idle : state.moduleState = .idle
  · simp only [mqttIfSubscribe, idle, if_true]
    exact ⟨⟨nodes, linked.chain, linked.bounded⟩, fun _ => .refl state (-1)⟩
  cases entry with
  | none =>
    simp only [mqttIfSubscribe, idle, if_false]
    exact ⟨⟨nodes, linked.chain, linked.bounded⟩, fun _ => .refl state (-1)⟩
  | some entry =>
    have free : state.heap entry = none := fresh entry rfl
    cases buffer with
    | false =>
      simp only [mqttIfSubscribe, idle, if_false, if_true]
      have same := malloc_sameChain ⟨topic, qos, topicCB, state.head⟩ free (-1)
      exact ⟨⟨nodes, (same nodes linked.chain).1, linked.bounded.trans (Nat.le_succ _)⟩, fun _ => same⟩
    | true =>
      have first := @malloc_linked state nodes linked entry ⟨topic, qos, topicCB, state.head⟩ free rfl
      by_cases connected : state.moduleState = .connected
      · have positive : ¬ ret < 0 := Int.not_lt.mpr (allowed connected rfl fresh rfl)
        simp only [mqttIfSubscribe, State.malloc, connected, positive, if_false, if_true,
          reduceCtorEq]
        exact ⟨⟨_, (first ret).chain, (first ret).bounded⟩, False.elim⟩
      · simp only [mqttIfSubscribe, idle, State.malloc, connected, if_false, reduceCtorEq]
        exact ⟨⟨_, first 0⟩, fun negative => absurd negative (Int.lt_irrefl 0)⟩

/-- The freed node is the head. -/
theorem mqttIfSubscribe_broken {topic : List UInt8} {qos : UInt32} {topicCB : Nat}
    {entry : Option Nat} {buffer : Bool} {ret : Int}
    (guard : ¬ NoUnlinkedFree state (.subscribe topic qos topicCB entry buffer ret)) :
    Fresh state entry ∧ ¬ WellFormed (mqttIfSubscribe topic qos topicCB entry buffer ret state) := by
  simp only [NoUnlinkedFree, Classical.not_imp, Int.not_le] at guard
  obtain ⟨connected, given, fresh, rfl, negative⟩ := guard
  obtain ⟨entry, rfl⟩ := Option.isSome_iff_exists.mp given
  refine ⟨fresh, ?_⟩
  rintro ⟨nodes, chain⟩
  simp only [mqttIfSubscribe, State.malloc, State.free, connected, negative, if_true, if_false,
    reduceCtorEq] at chain
  obtain ⟨_, _, read, _, _⟩ := Chain.uncons chain
  rw [Function.update_self] at read
  cases read

end Operations

/-! ## Runs -/

section Runs

variable {state result : State} {nodes : List Nat} {event : Event}

/-- An operation other than `MQTT_IF_Subscribe` ends, and leaves a part of the list. -/
theorem step_left (linked : Linked state nodes)
    (other : ∀ topic qos topicCB entry buffer ret, event ≠ .subscribe topic qos topicCB entry buffer ret) :
    ∃ result, step topicMatching state event = some result ∧ Left state nodes result := by
  cases event with
  | init =>
    refine ⟨_, rfl, .unchanged linked ?_⟩
    split <;> exact ⟨rfl, rfl, rfl⟩
  | connect =>
    refine ⟨_, rfl, .unchanged linked ?_⟩
    split <;> exact ⟨rfl, rfl, rfl⟩
  | subscribe => exact (other _ _ _ _ _ _ rfl).elim
  | unsubscribe topic ret => exact mqttIfUnsubscribe_left topicMatching linked topic ret
  | connack rets => exact connack_left linked rets
  | disconnect ret =>
    refine ⟨_, rfl, .unchanged linked ?_⟩
    unfold mqttIfDisconnect
    split
    · exact ⟨rfl, rfl, rfl⟩
    · split <;> exact ⟨rfl, rfl, rfl⟩
  | cleanup => exact ⟨_, rfl, .unchanged linked ⟨rfl, rfl, rfl⟩⟩
  | deinit sent => exact mqttIfDeinit_left linked sent

theorem step_linked (linked : Linked state nodes) (allowed : NoUnlinkedFree state event)
    (stepped : step topicMatching state event = some result) : ∃ nodes, Linked result nodes := by
  by_cases subscribes : ∀ topic qos topicCB entry buffer ret,
      event ≠ .subscribe topic qos topicCB entry buffer ret
  · obtain ⟨_, ran, left⟩ := step_left topicMatching linked subscribes
    cases ran.symm.trans stepped
    exact left.linked linked
  · simp only [ne_eq, not_forall, not_not] at subscribes
    obtain ⟨topic, qos, topicCB, entry, buffer, ret, rfl⟩ := subscribes
    simp only [step, Option.ite_none_right_eq_some] at stepped
    obtain ⟨fresh, ran⟩ := stepped
    cases ran
    exact (mqttIfSubscribe_linked linked topic qos topicCB fresh allowed).1

theorem kept_iff (linked : Linked state nodes) :
    Kept topicMatching state event ↔ NoUnlinkedFree state event := by
  by_cases subscribes : ∀ topic qos topicCB entry buffer ret,
      event ≠ .subscribe topic qos topicCB entry buffer ret
  · obtain ⟨result, ran, left⟩ := step_left topicMatching linked subscribes
    obtain ⟨_, rest⟩ := left.linked linked
    have ends : ∃ result, step topicMatching state event = some result ∧ WellFormed result :=
      ⟨result, ran, rest.wellFormed⟩
    cases event with
    | subscribe => exact (subscribes _ _ _ _ _ _ rfl).elim
    | _ => exact iff_of_true ends trivial
  · simp only [ne_eq, not_forall, not_not] at subscribes
    obtain ⟨topic, qos, topicCB, entry, buffer, ret, rfl⟩ := subscribes
    refine ⟨fun kept => ?_, fun allowed fresh => ?_⟩
    · by_contra guard
      obtain ⟨fresh, broken⟩ := mqttIfSubscribe_broken guard
      obtain ⟨result, stepped, wellFormed, _⟩ := kept fresh
      rw [step, if_pos fresh] at stepped
      cases stepped
      exact broken wellFormed
    · obtain ⟨⟨_, rest⟩, same⟩ := mqttIfSubscribe_linked linked topic qos topicCB fresh allowed
      exact ⟨_, if_pos fresh, rest.wellFormed, same⟩

end Runs

/-- In every run, the list is well formed after every operation, and a `MQTT_IF_Subscribe` that
fails leaves it, as long as no `MQTT_IF_Subscribe` frees a node that it has linked. -/
theorem topics_kept_iff (events : List Event) :
    Along (step topicMatching) (Kept topicMatching) initial events ↔
      Along (step topicMatching) NoUnlinkedFree initial events := by
  refine along_congr (fun state => ∃ nodes, Linked state nodes) ?_ ?_ ?_ events
  · rintro state event ⟨nodes, linked⟩
    exact kept_iff topicMatching linked
  · rintro state event result ⟨nodes, linked⟩ allowed stepped
    exact step_linked topicMatching linked allowed stepped
  · exact ⟨[], .nil, Nat.le_refl 0⟩

/-- The client refuses the topic; the list starts at the freed node. -/
theorem failed_subscribe_dangles : ∃ state, exec (step fun _ _ => 0) initial
    [.init, .connect, .subscribe [116] 0 0 (some 7) true (-1)] = some state ∧
      state.ret < 0 ∧ state.head = some 7 ∧ state.heap 7 = none ∧ ¬ WellFormed state := by
  refine ⟨_, rfl, by decide, rfl, rfl, ?_⟩
  rintro ⟨nodes, chain⟩
  obtain ⟨_, _, read, _, _⟩ := Chain.uncons chain
  cases read

end Topics

end PlhrFirmware.Session
