import PlhrFirmware.Mqtt.Command
import PlhrFirmware.Session.Unsubscription

/-! # Received messages

`MQTTClientCallback` copies a received message into two strings from `malloc` and posts their
addresses; `MQTTAppThread` looks the topic up in the list of topics, calls the callback of one
node, and frees the strings.  One life of the module is modelled, up to DESTROY.  `malloc` gives
memory for the strings: the source does not check it.
-/

namespace PlhrFirmware.Session

open PlhrFirmware.Lib PlhrFirmware.Mqtt

namespace Dispatch

open Topics (Linked)

/-! ## State -/

/-- What the broker sends. -/
structure Message where
  topic : List UInt8
  data : List UInt8
  qos : UInt8
  deriving DecidableEq, Repr

/-- A `struct msgQueue`. -/
inductive Element where
  | recv (topic payload : Nat) (qos : UInt8)
  | connack
  | destroy
  | other (event : Nat)
  deriving DecidableEq, Repr

def Element.blocks : Element → List Nat
  | .recv topic payload _ => [topic, payload]
  | .connack | .destroy | .other _ => []

def Element.isRecv : Element → Bool
  | .recv .. => true
  | .connack | .destroy | .other _ => false

/-- One round of `MQTTAppThread` for a message: the callback, if one is called, and what it gets. -/
structure Call where
  topicCB : Option Nat
  topic : List UInt8
  payload : List UInt8
  qos : UInt8
  deriving DecidableEq, Repr

/-- `pending` is what `MQTTClientCallback` has in hand at its `mq_send`, `lost` the strings of
failed sends, and `accepted` the messages without those. -/
structure State where
  topics : Topics.State
  strings : Nat → Option (List UInt8)
  pending : Option Element
  queue : List Element
  stopped : Bool
  lost : List Nat
  accepted : List Message
  calls : List Call

inductive Event where
  | receive (message : Message) (topic payload : Nat)
  | post (element : Element)
  | send (sent : Bool)
  | take (rets : Nat → Int)
  | list (event : Topics.Event)

abbrev queueLength : Nat := 10

/-! ## Steps -/

section Steps

variable (topicMatching : List UInt8 → List UInt8 → Int)

/-- `while(ret == 0)`, over the list from `tmp` on. -/
def dispatchLoop (topic : List UInt8) (heap : Nat → Option Topics.Node) : Nat → Nat → Option (Option Nat)
  | 0, _ => none
  | rounds + 1, tmp => do
    let node ← heap tmp
    let ret := topicMatching node.topic topic
    if ret = 1 then some (some node.topicCB)
    else
      match node.next with
      | none => some none
      | some tmp => if ret = 0 then dispatchLoop topic heap rounds tmp else some none

/-- The matcher reads the string up to its NUL. -/
def dispatch (topic : List UInt8) (topics : Topics.State) : Option (Option Nat) :=
  match topics.head with
  | none => some none
  | some tmp => dispatchLoop topicMatching (topic.takeWhile (· ≠ 0)) topics.heap topics.mallocs tmp

/-- `free` of a string that is allocated. -/
def State.free (state : State) (address : Nat) : Option State :=
  match state.strings address with
  | none => none
  | some _ => some { state with strings := Function.update state.strings address none }

def handle (rets : Nat → Int) (state : State) : Element → Option State
  | .recv topic payload qos => do
    let topicString ← state.strings topic
    let payloadString ← state.strings payload
    let topicCB ← dispatch topicMatching topicString state.topics
    let state ← { state with
      calls := state.calls ++ [Call.mk topicCB topicString payloadString qos] }.free topic
    state.free payload
  | .connack => do
    let topics ← Topics.step topicMatching state.topics (.connack rets)
    return { state with topics := topics }
  | .destroy => some { state with stopped := true }
  | .other _ => some state

/-- What an operation of another thread posts itself. -/
def posted (topics : Topics.State) : Topics.Event → List Element
  | .deinit true => if topics.moduleState = .initialized then [.destroy] else []
  | _ => []

def step (state : State) : Event → Option State
  | .receive message topic payload =>
    if state.pending = none ∧ topic ≠ payload ∧ state.strings topic = none ∧
        state.strings payload = none then
      some { state with
        strings := Function.update (Function.update state.strings topic (some (received message.topic)))
          payload (some (received message.data))
        pending := some (.recv topic payload message.qos)
        accepted := state.accepted ++ [message] }
    else none
  | .post element =>
    if state.pending = none ∧ element.isRecv = false then some { state with pending := some element }
    else none
  | .send sent =>
    match state.pending with
    | none => none
    | some element =>
      if sent = false then
        some { state with
          pending := none
          lost := state.lost ++ element.blocks
          accepted := if element.isRecv then state.accepted.dropLast else state.accepted }
      -- a full queue blocks the sender
      else if state.queue.length < queueLength then
        some { state with pending := none, queue := state.queue ++ [element] }
      else none
  | .take rets =>
    match state.stopped, state.queue with
    | false, element :: queue => handle topicMatching rets { state with queue := queue } element
    | _, _ => none
  | .list event =>
    match event with
    | .connack _ => none
    | event =>
      if (state.queue ++ posted state.topics event).length ≤ queueLength then do
        let topics ← Topics.step topicMatching state.topics event
        return { state with topics := topics, queue := state.queue ++ posted state.topics event }
      else none

end Steps

def initial : State := ⟨Topics.initial, fun _ => none, none, [], false, [], [], []⟩

/-- The client's subscribe does not fail for a node that `MQTT_IF_Subscribe` has linked. -/
def Allowed (state : State) : Event → Prop
  | .list event => Topics.NoUnlinkedFree state.topics event
  | .receive .. | .post _ | .send _ | .take _ => True

/-! ## Looking up a callback -/

section Lookup

variable {topicMatching : List UInt8 → List UInt8 → Int} {topic : List UInt8}

/-- The callback of the first node whose match is not 0, if that is 1. -/
def handler (topicMatching : List UInt8 → List UInt8 → Int) (topic : List UInt8)
    (nodes : List Topics.Node) : Option Nat :=
  ((nodes.find? fun node => topicMatching node.topic topic ≠ 0).filter fun node =>
    topicMatching node.topic topic = 1).map Topics.Node.topicCB

theorem handler_stops {node : Topics.Node} (nodes : List Topics.Node)
    (stops : topicMatching node.topic topic ≠ 0) : handler topicMatching topic (node :: nodes) =
      if topicMatching node.topic topic = 1 then some node.topicCB else none := by
  rw [handler, List.find?_cons_of_pos (by simpa using stops)]
  by_cases matched : topicMatching node.topic topic = 1 <;> simp [Option.filter, matched]

theorem handler_passes {node : Topics.Node} (nodes : List Topics.Node)
    (passes : topicMatching node.topic topic = 0) :
    handler topicMatching topic (node :: nodes) = handler topicMatching topic nodes := by
  rw [handler, List.find?_cons_of_neg (by simpa using passes), handler]

/-- The loop ends without reading a freed node, with the callback of the first match. -/
theorem dispatchLoop_handler {heap : Nat → Option Topics.Node} (rounds : Nat) {tmp : Nat}
    {nodes : List Nat} (chain : Chain Topics.Node.next heap (some tmp) nodes)
    (bounded : nodes.length ≤ rounds) :
    dispatchLoop topicMatching topic heap rounds tmp =
      some (handler topicMatching topic (nodes.filterMap heap)) := by
  induction rounds generalizing tmp nodes with
  | zero =>
    obtain ⟨_, _, _, rfl, _⟩ := chain.uncons
    cases bounded
  | succ rounds inductionHypothesis =>
    obtain ⟨node, back, read, rfl, later⟩ := chain.uncons
    simp only [dispatchLoop, read, Option.bind_eq_bind, Option.bind_some, List.filterMap_cons_some read]
    by_cases passes : topicMatching node.topic topic = 0
    · have other : topicMatching node.topic topic ≠ 1 := by
        rw [passes]
        decide
      rw [if_neg other, handler_passes _ passes]
      cases link : node.next with
      | none =>
        rw [link] at later
        rw [later.eq_nil]
        rfl
      | some next =>
        rw [link] at later
        simp only [passes, if_true]
        exact inductionHypothesis later (Nat.le_of_succ_le_succ bounded)
    · rw [handler_stops _ passes]
      by_cases matched : topicMatching node.topic topic = 1
      · rw [if_pos matched, if_pos matched]
      · rw [if_neg matched, if_neg matched]
        cases node.next with
        | none => rfl
        | some next => exact if_neg passes

theorem dispatch_handler {topics : Topics.State} {nodes : List Nat} (linked : Linked topics nodes) :
    dispatch topicMatching topic topics =
      some (handler topicMatching (topic.takeWhile (· ≠ 0)) (nodes.filterMap topics.heap)) := by
  have chain := linked.chain
  rw [dispatch]
  cases head : topics.head with
  | none =>
    rw [head] at chain
    rw [chain.eq_nil]
    rfl
  | some tmp =>
    rw [head] at chain
    exact dispatchLoop_handler topics.mallocs chain linked.bounded

end Lookup

/-! ## Ownership and order -/

/-- What has been posted or is about to be. -/
def State.line (state : State) : List Element := state.queue ++ state.pending.toList

def State.blocks (state : State) : List Nat := state.lost ++ state.line.flatMap Element.blocks

/-- The round got exactly the bytes of the message, with their NUL. -/
def Passed (message : Message) (call : Call) : Prop :=
  call.topic = received message.topic ∧ call.payload = received message.data ∧ call.qos = message.qos

/-- The element carries the message. -/
def Carries (strings : Nat → Option (List UInt8)) (message : Message) (element : Element) : Prop :=
  ∃ topic payload, element = .recv topic payload message.qos ∧
    strings topic = some (received message.topic) ∧ strings payload = some (received message.data)

/-- The messages up to some one have been handled, each once and in order, and the others are in
line. -/
def InOrder (state : State) : Prop :=
  ∃ handled waiting, state.accepted = handled ++ waiting ∧ List.Forall₂ Passed handled state.calls ∧
    List.Forall₂ (Carries state.strings) waiting (state.line.filter Element.isRecv)

structure Sound (state : State) : Prop where
  owns : Owns state.strings state.blocks
  inOrder : InOrder state
  linked : ∃ nodes, Linked state.topics nodes

theorem sound_initial : Sound initial where
  owns := .none
  inOrder := ⟨[], [], rfl, .nil, .nil⟩
  linked := ⟨[], .nil, Nat.le_refl 0⟩

theorem blocks_of_not_recv {element : Element} (other : element.isRecv = false) :
    element.blocks = [] := by
  cases element with
  | recv => cases other
  | connack | destroy | other => rfl

/-- Strings outside those of the elements do not matter. -/
theorem carries_frame {strings strings' : Nat → Option (List UInt8)} {waiting : List Message}
    {elements : List Element} (carries : List.Forall₂ (Carries strings) waiting elements)
    (same : ∀ element ∈ elements, ∀ address ∈ element.blocks, strings' address = strings address) :
    List.Forall₂ (Carries strings') waiting elements := by
  induction carries with
  | nil => exact .nil
  | cons first rest inductionHypothesis =>
    obtain ⟨topic, payload, rfl, topicRead, payloadRead⟩ := first
    refine .cons ⟨topic, payload, rfl, ?_, ?_⟩
      (inductionHypothesis fun element member => same element (.tail _ member))
    · rw [same _ (.head _) topic (by simp [Element.blocks]), topicRead]
    · rw [same _ (.head _) payload (by simp [Element.blocks]), payloadRead]

theorem mem_blocks_of_line {state : State} {element : Element} {address : Nat}
    (member : element ∈ state.line.filter Element.isRecv) (block : address ∈ element.blocks) :
    address ∈ state.blocks :=
  List.mem_append_right _ (List.mem_flatMap.mpr ⟨element, (List.mem_filter.mp member).1, block⟩)

theorem Sound.receive {state : State} (sound : Sound state) (message : Message) {topic payload : Nat}
    (idle : state.pending = none) (apart : topic ≠ payload) (topicFresh : state.strings topic = none)
    (payloadFresh : state.strings payload = none) :
    Sound { state with
      strings := Function.update (Function.update state.strings topic (some (received message.topic)))
        payload (some (received message.data))
      pending := some (.recv topic payload message.qos)
      accepted := state.accepted ++ [message] } := by
  obtain ⟨owns, ⟨handled, waiting, accepted, passed, carries⟩, linked⟩ := sound
  have topicOutside : topic ∉ state.blocks := by
    rw [← owns.allocated, topicFresh]
    simp
  have payloadOutside : payload ∉ state.blocks := by
    rw [← owns.allocated, payloadFresh]
    simp
  refine ⟨?_, ⟨handled, waiting ++ [message], ?_, passed, ?_⟩, linked⟩
  · have both := (owns.malloc topicFresh (received message.topic)).malloc
      ((Function.update_of_ne apart.symm ..).trans payloadFresh) (received message.data)
    refine both.perm ?_
    simp only [State.blocks, State.line, idle, Option.toList_none, List.append_nil,
      Option.toList_some, List.flatMap_append, List.flatMap_singleton, Element.blocks]
    rw [← List.append_assoc]
    exact (List.Perm.swap ..).trans (@List.perm_append_comm _ [topic, payload] _)
  · simp [accepted]
  · simp only [State.line, idle, Option.toList_none, List.append_nil] at carries ⊢
    rw [Option.toList_some, List.filter_append]
    refine List.rel_append (carries_frame carries ?_) ?_
    · intro element member address block
      have inside : address ∈ state.blocks := by
        refine mem_blocks_of_line ?_ block
        simpa [State.line, idle] using member
      have notPayload : address ≠ payload := by
        rintro rfl
        exact payloadOutside inside
      have notTopic : address ≠ topic := by
        rintro rfl
        exact topicOutside inside
      rw [Function.update_of_ne notPayload, Function.update_of_ne notTopic]
    · refine .cons ⟨topic, payload, rfl, ?_, Function.update_self ..⟩ .nil
      rw [Function.update_of_ne apart, Function.update_self]

theorem Sound.post {state : State} (sound : Sound state) {element : Element}
    (idle : state.pending = none) (other : element.isRecv = false) :
    Sound { state with pending := some element } := by
  obtain ⟨owns, ⟨handled, waiting, accepted, passed, carries⟩, linked⟩ := sound
  refine ⟨owns.perm ?_, ⟨handled, waiting, accepted, passed, ?_⟩, linked⟩
  · simp [State.blocks, State.line, idle, blocks_of_not_recv other]
  · simpa [State.line, idle, other] using carries

theorem Sound.sent {state : State} (sound : Sound state) {element : Element}
    (pending : state.pending = some element) :
    Sound { state with pending := none, queue := state.queue ++ [element] } := by
  have line : State.line { state with pending := none, queue := state.queue ++ [element] } =
      state.line := by
    simp [State.line, pending]
  obtain ⟨owns, ⟨handled, waiting, accepted, passed, carries⟩, linked⟩ := sound
  refine ⟨?_, ⟨handled, waiting, accepted, passed, ?_⟩, linked⟩
  · rw [State.blocks, line]
    exact owns
  · rw [line]
    exact carries

/-- A send that fails loses the strings, and the message is not in line. -/
theorem Sound.failed {state : State} (sound : Sound state) {element : Element}
    (pending : state.pending = some element) :
    Sound { state with
      pending := none
      lost := state.lost ++ element.blocks
      accepted := if element.isRecv then state.accepted.dropLast else state.accepted } := by
  obtain ⟨owns, ⟨handled, waiting, accepted, passed, carries⟩, linked⟩ := sound
  refine ⟨owns.perm ?_, ?_, linked⟩
  · simp only [State.blocks, State.line, pending, Option.toList_some, Option.toList_none,
      List.append_nil, List.flatMap_append, List.flatMap_singleton, List.append_assoc]
    exact List.Perm.append_left _ List.perm_append_comm
  · cases recv : element.isRecv with
    | false =>
      refine ⟨handled, waiting, accepted, passed, ?_⟩
      simpa [State.line, pending, recv] using carries
    | true =>
      have last : state.line.filter Element.isRecv =
          state.queue.filter Element.isRecv ++ [element] := by
        simp [State.line, pending, recv]
      rw [last] at carries
      have queued := List.forall₂_take_append _ _ _ carries
      have final := List.forall₂_drop_append _ _ _ carries
      generalize (state.queue.filter Element.isRecv).length = count at queued final
      cases back : waiting.drop count with
      | nil => rw [back] at final; cases final
      | cons message rest =>
        rw [back] at final
        cases final with
        | cons _ none =>
          cases none
          refine ⟨handled, waiting.take count, ?_, passed, ?_⟩
          · simp only [if_true, accepted]
            rw [← List.take_append_drop count waiting, back, ← List.append_assoc,
              List.dropLast_concat, List.take_left']
            rw [List.length_take]
            have bound := congrArg List.length back
            rw [List.length_drop, List.length_singleton] at bound
            omega
          · simpa [State.line] using queued

/-- Another element than a message is taken. -/
theorem Sound.taken {state : State} (sound : Sound state) {element : Element} {queue : List Element}
    (first : state.queue = element :: queue) (other : element.isRecv = false) :
    Sound { state with queue := queue } := by
  obtain ⟨owns, ⟨handled, waiting, accepted, passed, carries⟩, linked⟩ := sound
  refine ⟨owns.perm ?_, ⟨handled, waiting, accepted, passed, ?_⟩, linked⟩
  · simp [State.blocks, State.line, first, blocks_of_not_recv other]
  · simpa [State.line, first, other] using carries

theorem Sound.topics {state : State} (sound : Sound state) {topics : Topics.State}
    (linked : ∃ nodes, Linked topics nodes) : Sound { state with topics := topics } :=
  ⟨sound.owns, sound.inOrder, linked⟩

section Take

variable {topicMatching : List UInt8 → List UInt8 → Int}

/-- The round for a message: neither a freed node nor a freed string is read, the callback of the
first match is called, and both strings are freed. -/
theorem handle_recv {state : State} (sound : Sound state) {topic payload : Nat} {qos : UInt8}
    {queue : List Element} (rets : Nat → Int) (first : state.queue = .recv topic payload qos :: queue) :
    ∃ nodes result, Linked state.topics nodes ∧
      handle topicMatching rets { state with queue := queue } (.recv topic payload qos) = some result ∧
      Sound result ∧ result.topics = state.topics ∧
      ∃ call : Call, result.calls = state.calls ++ [call] ∧
        call.topicCB = handler topicMatching (call.topic.takeWhile (· ≠ 0))
          (nodes.filterMap state.topics.heap) := by
  obtain ⟨owns, ⟨handled, waiting, accepted, passed, carries⟩, nodes, linked⟩ := sound
  have recvs : state.line.filter Element.isRecv = .recv topic payload qos ::
      (queue ++ state.pending.toList).filter Element.isRecv := by
    rw [State.line, first]
    rfl
  rw [recvs] at carries
  cases waiting with
  | nil => cases carries
  | cons message waiting =>
  cases carries with
  | cons carried rest =>
  obtain ⟨topic', payload', same, topicRead, payloadRead⟩ := carried
  cases same
  -- the two strings come first among the owned ones
  have listed : state.blocks.Perm
      (topic :: payload :: (state.lost ++ (queue ++ state.pending.toList).flatMap Element.blocks)) := by
    simp only [State.blocks, State.line, first, List.cons_append, List.flatMap_cons, Element.blocks]
    exact List.perm_middle.trans (List.perm_middle.cons topic)
  have owned := owns.perm listed
  have apart : payload ≠ topic := by
    have distinct := (List.nodup_cons.mp owned.distinct).1
    rintro rfl
    exact distinct (.head _)
  have freed := owned.free.free
  have payloadKept : (Function.update state.strings topic none) payload =
      some (received message.data) := by
    rw [Function.update_of_ne apart, payloadRead]
  let call : Call := ⟨handler topicMatching ((received message.topic).takeWhile (· ≠ 0))
    (nodes.filterMap state.topics.heap), received message.topic, received message.data, message.qos⟩
  refine ⟨nodes, { state with
      queue := queue
      strings := Function.update (Function.update state.strings topic none) payload none
      calls := state.calls ++ [call] }, linked, ?_,
    ⟨freed, ⟨handled ++ [message], waiting, ?_, ?_, ?_⟩, nodes, linked⟩, rfl, call, rfl, rfl⟩
  · simp only [handle, State.free, topicRead, payloadRead, dispatch_handler linked, payloadKept,
      Option.bind_eq_bind, Option.bind_some, call]
  · simp [accepted]
  · exact List.rel_append passed (.cons ⟨rfl, rfl, rfl⟩ .nil)
  · refine carries_frame rest ?_
    intro element member address block
    have inside : address ∈ state.lost ++
        (queue ++ state.pending.toList).flatMap Element.blocks :=
      List.mem_append_right _
        (List.mem_flatMap.mpr ⟨element, (List.mem_filter.mp member).1, block⟩)
    obtain ⟨topicOutside, distinct⟩ := List.nodup_cons.mp owned.distinct
    have notPayload : address ≠ payload := by
      rintro rfl
      exact (List.nodup_cons.mp distinct).1 inside
    have notTopic : address ≠ topic := by
      rintro rfl
      exact topicOutside (.tail _ inside)
    exact (Function.update_of_ne notPayload ..).trans (Function.update_of_ne notTopic ..)

theorem handle_other {state : State} (sound : Sound state) {element : Element}
    {queue : List Element} (rets : Nat → Int) (first : state.queue = element :: queue)
    (other : element.isRecv = false) :
    ∃ result, handle topicMatching rets { state with queue := queue } element = some result ∧
      Sound result := by
  have taken := sound.taken first other
  cases element with
  | recv => cases other
  | connack =>
    obtain ⟨nodes, linked⟩ := sound.linked
    obtain ⟨topics, ran, left⟩ := @Topics.step_left topicMatching _ nodes (.connack rets) linked
      (by intros; simp)
    refine ⟨{ state with queue := queue, topics := topics }, ?_, taken.topics (left.linked linked)⟩
    simp [handle, ran]
  | destroy => exact ⟨_, rfl, taken.owns, taken.inOrder, taken.linked⟩
  | other event => exact ⟨_, rfl, taken⟩

theorem take_eq {state : State} {element : Element} {queue : List Element} (rets : Nat → Int)
    (running : state.stopped = false) (first : state.queue = element :: queue) :
    step topicMatching state (.take rets) =
      handle topicMatching rets { state with queue := queue } element := by
  simp only [step, running, first]

/-- The thread takes whatever is in the queue. -/
theorem take_sound {state : State} (sound : Sound state) (rets : Nat → Int)
    (running : state.stopped = false) (posted : state.queue ≠ []) :
    ∃ result, step topicMatching state (.take rets) = some result ∧ Sound result := by
  cases first : state.queue with
  | nil => exact absurd first posted
  | cons element queue =>
    rw [take_eq rets running first]
    cases recv : element.isRecv with
    | false => exact handle_other sound rets first recv
    | true =>
      cases element with
      | connack | destroy | other => cases recv
      | recv topic payload qos =>
        obtain ⟨_, result, _, ran, after, _⟩ :=
          @handle_recv topicMatching state sound topic payload qos queue rets first
        exact ⟨result, ran, after⟩

theorem Sound.listed {state : State} (sound : Sound state) (event : Topics.Event)
    {topics : Topics.State} (linked : ∃ nodes, Linked topics nodes) :
    Sound { state with topics := topics, queue := state.queue ++ posted state.topics event } := by
  have none : (posted state.topics event).flatMap Element.blocks = [] ∧
      (posted state.topics event).filter Element.isRecv = [] := by
    unfold posted
    split
    · split <;> exact ⟨rfl, rfl⟩
    · exact ⟨rfl, rfl⟩
  obtain ⟨owns, ⟨handled, waiting, accepted, passed, carries⟩, _⟩ := sound
  refine ⟨owns.perm ?_, ⟨handled, waiting, accepted, passed, ?_⟩, linked⟩
  · simp [State.blocks, State.line, none.1]
  · simpa [State.line, none.2] using carries

theorem Sound.preserved {state result : State} {event : Event} (sound : Sound state)
    (allowed : Allowed state event) (stepped : step topicMatching state event = some result) :
    Sound result := by
  cases event with
  | receive message topic payload =>
    simp only [step, Option.ite_none_right_eq_some, Option.some.injEq] at stepped
    obtain ⟨⟨idle, apart, topicFresh, payloadFresh⟩, rfl⟩ := stepped
    exact sound.receive message idle apart topicFresh payloadFresh
  | post element =>
    simp only [step, Option.ite_none_right_eq_some, Option.some.injEq] at stepped
    obtain ⟨⟨idle, other⟩, rfl⟩ := stepped
    exact sound.post idle other
  | send sent =>
    cases pending : state.pending with
    | none => simp [step, pending] at stepped
    | some element =>
      cases sent with
      | false =>
        simp only [step, pending, if_true, Option.some.injEq] at stepped
        subst result
        exact sound.failed pending
      | true =>
        simp only [step, pending, Bool.true_eq_false, if_false, Option.ite_none_right_eq_some,
          Option.some.injEq] at stepped
        obtain ⟨_, rfl⟩ := stepped
        exact sound.sent pending
  | take rets =>
    cases running : state.stopped with
    | true => simp [step, running] at stepped
    | false =>
      by_cases posted : state.queue = []
      · simp [step, running, posted] at stepped
      · obtain ⟨after, ran, later⟩ := take_sound sound rets running posted
        cases ran.symm.trans stepped
        exact later
  | list event =>
    have unlinked : Topics.NoUnlinkedFree state.topics event := allowed
    cases event with
    | connack rets => cases stepped
    | _ =>
      simp only [step, Option.ite_none_right_eq_some, Option.bind_eq_bind, Option.bind_eq_some_iff]
        at stepped
      obtain ⟨_, topics, ran, same⟩ := stepped
      cases same
      obtain ⟨nodes, linked⟩ := sound.linked
      exact sound.listed _ (Topics.step_linked topicMatching linked unlinked ran)

/-- In every run the strings of the messages are owned: those in line and those of failed sends
are allocated, each once, and no other.  The messages are handled in order, each once and with
exactly its bytes; and a running thread takes what is in the queue without a read of freed
memory, and calls the callback of the first node that matches. -/
theorem messages_dispatched {state : State}
    (reached : Reachable (step topicMatching) Allowed initial state) :
    Owns state.strings state.blocks ∧ InOrder state ∧
    (∀ rets, state.stopped = false → state.queue ≠ [] →
      ∃ result, step topicMatching state (.take rets) = some result) ∧
    ∀ rets result topic payload qos queue, state.queue = .recv topic payload qos :: queue →
      step topicMatching state (.take rets) = some result →
        ∃ nodes call, Chain Topics.Node.next state.topics.heap state.topics.head nodes ∧
          result.calls = state.calls ++ [call] ∧
          call.topicCB = handler topicMatching (call.topic.takeWhile (· ≠ 0))
            (nodes.filterMap state.topics.heap) := by
  have sound := reached.invariant Sound sound_initial
    fun _ _ _ sound allowed stepped => sound.preserved allowed stepped
  refine ⟨sound.owns, sound.inOrder, ?_, ?_⟩
  · intro rets running posted
    obtain ⟨result, ran, _⟩ := @take_sound topicMatching state sound rets running posted
    exact ⟨result, ran⟩
  · intro rets result topic payload qos queue first stepped
    obtain ⟨nodes, after, linked, ran, _, _, call, calls, called⟩ :=
      @handle_recv topicMatching state sound topic payload qos queue rets first
    have same : result = after := by
      cases running : state.stopped with
      | true => simp [step, running] at stepped
      | false =>
        rw [take_eq rets running first] at stepped
        exact Option.some.inj (stepped.symm.trans ran)
    subst same
    exact ⟨nodes, call, linked.chain, calls, called⟩

end Take

/-- Three messages for the one topic of the list, the second of which cannot be sent. -/
def threeMessages : List Event :=
  [.list .init, .list (.subscribe [116] 0 5 (some 7) true 0), .receive ⟨[116], [1, 2], 0⟩ 1 2,
    .send true, .receive ⟨[116], [3], 0⟩ 3 4, .send false, .receive ⟨[116], [4], 1⟩ 5 6, .send true]

theorem messages_dispatched_three :
    ∃ state result, Reachable (step (Topics.topicMatching fun _ _ => 0)) Allowed initial state ∧
      state.queue = [.recv 1 2 0, .recv 5 6 1] ∧ Owns state.strings [3, 4, 1, 2, 5, 6] ∧
      InOrder state ∧ step (Topics.topicMatching fun _ _ => 0) state (.take fun _ => 0) = some result ∧
      ∃ call : Call, result.calls = [call] := by
  obtain ⟨state, ran, queue, blocks, running, calls⟩ : ∃ state,
      exec (step (Topics.topicMatching fun _ _ => 0)) initial threeMessages = some state ∧
        state.queue = [.recv 1 2 0, .recv 5 6 1] ∧ state.blocks = [3, 4, 1, 2, 5, 6] ∧
          state.stopped = false ∧ state.calls = [] :=
    ⟨_, rfl, rfl, rfl, rfl, rfl⟩
  have along : Along (step (Topics.topicMatching fun _ _ => 0)) Allowed initial threeMessages := by
    refine .of_forall ?_
    intro event member other
    simp only [threeMessages, List.mem_cons, List.not_mem_nil, or_false] at member
    obtain rfl | rfl | rfl | rfl | rfl | rfl | rfl | rfl := member
    · trivial
    · exact fun _ _ _ _ => Int.le_refl 0
    all_goals trivial
  have reached := Reachable.of_exec threeMessages along ran
  obtain ⟨owns, inOrder, takes, dispatches⟩ := messages_dispatched reached
  obtain ⟨result, taken⟩ := takes (fun _ => 0) running (by simp [queue])
  obtain ⟨_, call, _, called, _⟩ := dispatches _ _ _ _ _ _ queue taken
  exact ⟨state, result, reached, queue, blocks ▸ owns, inOrder, taken, call, by rw [called, calls]; rfl⟩

end Dispatch

end PlhrFirmware.Session
