import PlhrFirmware.Session.Topics

/-! # Nodes that are lost

Which nodes stay allocated and are in the list no longer: those of a `MQTT_IF_Subscribe` without
memory for the string, and those that the loop for a CONNACK has skipped behind a failed call when
the next call fails as well.  No operation frees a node that is not in the list, so the account
(`nodes_accounted`) holds over whole runs.
-/

namespace PlhrFirmware.Session

open PlhrFirmware.Lib

namespace Topics

/-! ## The nodes of the list -/

def walk (heap : Nat → Option Node) : Nat → Option Nat → List Nat
  | 0, _ => []
  | _ + 1, none => []
  | rounds + 1, some curr =>
    match heap curr with
    | none => []
    | some node => curr :: walk heap rounds node.next

def State.nodes (state : State) : List Nat := walk state.heap state.mallocs state.head

theorem walk_eq {heap : Nat → Option Node} (rounds : Nat) {start : Option Nat} {nodes : List Nat}
    (chain : Chain Node.next heap start nodes) (bounded : nodes.length ≤ rounds) :
    walk heap rounds start = nodes := by
  induction rounds generalizing start nodes with
  | zero => exact (List.length_eq_zero_iff.mp (Nat.le_zero.mp bounded)).symm
  | succ rounds inductionHypothesis =>
    cases start with
    | none => exact chain.eq_nil.symm
    | some _ =>
      obtain ⟨node, back, read, rfl, later⟩ := chain.uncons
      simp only [walk, read]
      rw [inductionHypothesis later (Nat.le_of_succ_le_succ bounded)]

theorem Linked.nodes {state : State} {nodes : List Nat} (linked : Linked state nodes) :
    state.nodes = nodes :=
  walk_eq state.mallocs linked.chain linked.bounded

/-! ## What a CONNACK loses -/

/-- The nodes that are neither kept nor freed, with the arguments of `resubscribed`. -/
def resubscribedLost (rets : Nat → Int) : Nat → Bool → List Nat → List Nat → List Nat
  | _, _, _, [] => []
  | call, atHead, between, _ :: back =>
    if rets call < 0 then
      if atHead then resubscribedLost rets (call + 1) true [] back
      else
        match back with
        | [] => between
        | next :: back => between ++ resubscribedLost rets (call + 1) false [next] back
    else resubscribedLost rets (call + 1) false [] back

section Lost

variable {rets : Nat → Int} {call curr : Nat} {atHead : Bool} {between back : List Nat}

theorem lost_stays (succeeded : ¬ rets call < 0) :
    resubscribedLost rets call atHead between (curr :: back) =
      resubscribedLost rets (call + 1) false [] back := by
  cases back <;> simp [resubscribedLost, succeeded]

theorem lost_head (failed : rets call < 0) :
    resubscribedLost rets call true between (curr :: back) =
      resubscribedLost rets (call + 1) true [] back := by
  cases back <;> simp [resubscribedLost, failed]

theorem lost_last (failed : rets call < 0) :
    resubscribedLost rets call false between [curr] = between := by
  simp [resubscribedLost, failed]

theorem lost_skips (failed : rets call < 0) (next : Nat) :
    resubscribedLost rets call false between (curr :: next :: back) =
      between ++ resubscribedLost rets (call + 1) false [next] back := by
  simp [resubscribedLost, failed]

/-- Every node of the list is kept, freed or lost. -/
def Splits (nodes : List Nat) (outcome : Outcome) (lost : List Nat) : Prop :=
  nodes.Perm (outcome.freed ++ (outcome.kept ++ lost))

theorem Splits.stays {more : Outcome} {lost : List Nat} (splits : Splits back more lost) :
    Splits (between ++ curr :: back)
      ⟨curr :: more.attempted, between ++ curr :: more.kept, more.freed⟩ lost := by
  refine List.perm_iff_count.mpr fun address => ?_
  have counts := splits.count_eq address
  simp only [List.count_append, List.count_cons] at counts ⊢
  omega

theorem Splits.freed {more : Outcome} {lost : List Nat} (splits : Splits back more lost) :
    Splits (between ++ curr :: back) ⟨curr :: more.attempted, more.kept, curr :: more.freed⟩
      (between ++ lost) := by
  refine List.perm_iff_count.mpr fun address => ?_
  have counts := splits.count_eq address
  simp only [List.count_append, List.count_cons] at counts ⊢
  omega

/-- The induction is over the length of the list, which a failed call shortens by two. -/
theorem resubscribed_splits (rets : Nat → Int) (count call : Nat) (between back : List Nat)
    (bounded : back.length ≤ count) : Splits (between ++ back)
      (resubscribed rets call false between back) (resubscribedLost rets call false between back) := by
  induction count generalizing call between back with
  | zero =>
    cases List.length_eq_zero_iff.mp (Nat.le_zero.mp bounded)
    simp [Splits, resubscribed, resubscribedLost]
  | succ count inductionHypothesis =>
    cases back with
    | nil => simp [Splits, resubscribed, resubscribedLost]
    | cons curr back =>
      have short : back.length ≤ count := Nat.le_of_succ_le_succ bounded
      by_cases failed : rets call < 0
      · cases back with
        | nil =>
          rw [resubscribed_last failed, lost_last failed]
          exact List.perm_append_comm
        | cons next back =>
          rw [resubscribed_skips failed, lost_skips failed]
          exact (inductionHypothesis (call + 1) [next] back (Nat.le_of_succ_le short)).freed
      · rw [resubscribed_stays failed, lost_stays failed]
        exact (inductionHypothesis (call + 1) [] back short).stays

theorem resubscribed_head_splits (rets : Nat → Int) (call : Nat) (nodes : List Nat) :
    Splits nodes (resubscribed rets call true [] nodes) (resubscribedLost rets call true [] nodes) := by
  induction nodes generalizing call with
  | nil => simp [Splits, resubscribed, resubscribedLost]
  | cons curr back inductionHypothesis =>
    by_cases failed : rets call < 0
    · rw [resubscribed_head failed, lost_head failed]
      exact @Splits.freed curr [] back _ _ (inductionHypothesis (call + 1))
    · rw [resubscribed_stays failed, lost_stays failed]
      exact @Splits.stays curr [] back _ _
        (resubscribed_splits rets back.length (call + 1) [] back (Nat.le_refl _))

theorem attempted_pos_iff (call : Nat) (between back : List Nat) :
    0 < (resubscribed rets call false between back).attempted.length ↔ back ≠ [] := by
  cases back with
  | nil => simp [resubscribed]
  | cons curr back =>
    by_cases failed : rets call < 0
    · cases back with
      | nil => simp [resubscribed_last failed]
      | cons next back => simp [resubscribed_skips failed]
    · simp [resubscribed_stays failed]

/-- No two calls that follow each other fail, among `count` calls from `call` on. -/
def Recovers (rets : Nat → Int) (call count : Nat) : Prop :=
  ∀ c, call ≤ c → c + 1 < call + count → rets c < 0 → 0 ≤ rets (c + 1)

theorem recovers_succ (count : Nat) : Recovers rets call (count + 1) ↔
    (0 < count → rets call < 0 → 0 ≤ rets (call + 1)) ∧ Recovers rets (call + 1) count := by
  constructor
  · exact fun recovers => ⟨fun more => recovers call le_rfl (by omega),
      fun c behind before => recovers c (by omega) (by omega)⟩
  · rintro ⟨first, rest⟩ c behind before
    obtain same | later := Nat.eq_or_lt_of_le behind
    · subst same
      exact first (by omega)
    · exact rest c later (by omega)

/-- A node is lost exactly when the call behind it fails, and the one before has failed too. -/
theorem lost_behind_iff (rets : Nat → Int) (count call : Nat) (between back : List Nat)
    (bounded : back.length ≤ count) : resubscribedLost rets call false between back = [] ↔
      (back ≠ [] → rets call < 0 → between = []) ∧
        Recovers rets call (resubscribed rets call false between back).attempted.length := by
  induction count generalizing call between back with
  | zero =>
    cases List.length_eq_zero_iff.mp (Nat.le_zero.mp bounded)
    simp only [resubscribedLost, resubscribed, List.length_nil, true_iff]
    exact ⟨by simp, fun c _ _ => by omega⟩
  | succ count inductionHypothesis =>
    cases back with
    | nil =>
      simp only [resubscribedLost, resubscribed, List.length_nil, true_iff]
      exact ⟨by simp, fun c _ _ => by omega⟩
    | cons curr back =>
      have short : back.length ≤ count := Nat.le_of_succ_le_succ bounded
      by_cases failed : rets call < 0
      · cases back with
        | nil =>
          rw [resubscribed_last failed, lost_last failed]
          constructor
          · exact fun none => ⟨fun _ _ => none, fun c _ before => by simp at before; omega⟩
          · exact fun laws => laws.1 (by simp) failed
        | cons next back =>
          have rest := inductionHypothesis (call + 1) [next] back (Nat.le_of_succ_le short)
          have more := @attempted_pos_iff rets (call + 1) [next] back
          rw [resubscribed_skips failed, lost_skips failed, List.append_eq_nil_iff, rest,
            List.length_cons, recovers_succ, more]
          simp [failed]
      · have rest := inductionHypothesis (call + 1) [] back short
        rw [resubscribed_stays failed, lost_stays failed, rest, List.length_cons, recovers_succ]
        simp [failed]

/-- From the head on: no two calls that follow each other fail behind one that succeeds. -/
theorem lost_head_iff (rets : Nat → Int) (call : Nat) (nodes : List Nat) :
    resubscribedLost rets call true [] nodes = [] ↔
      ∀ c, call ≤ c → c < call + (resubscribed rets call true [] nodes).attempted.length →
        0 ≤ rets c → Recovers rets c
          (call + (resubscribed rets call true [] nodes).attempted.length - c) := by
  induction nodes generalizing call with
  | nil =>
    simp only [resubscribedLost, resubscribed, List.length_nil, true_iff]
    intro c behind before
    omega
  | cons curr back inductionHypothesis =>
    by_cases failed : rets call < 0
    · rw [resubscribed_head failed, lost_head failed, inductionHypothesis, List.length_cons]
      constructor
      · intro laws c behind before succeeded
        have other : c ≠ call := by
          rintro rfl
          exact absurd failed (Int.not_lt.mpr succeeded)
        have law := laws c (by omega) (by omega) succeeded
        rwa [Nat.add_assoc, Nat.add_comm 1] at law
      · intro laws c behind before succeeded
        have law := laws c (by omega) (by omega) succeeded
        rwa [Nat.add_assoc, Nat.add_comm 1]
    · have rest := lost_behind_iff rets back.length (call + 1) [] back le_rfl
      rw [resubscribed_stays failed, lost_stays failed, rest, List.length_cons]
      generalize (resubscribed rets (call + 1) false [] back).attempted.length = count
      constructor
      · rintro ⟨_, recovers⟩ c behind before _ c' behind' before' fails
        have other : c' ≠ call := by
          rintro rfl
          exact failed fails
        exact recovers c' (by omega) (by omega) fails
      · intro laws
        have first := laws call le_rfl (by omega) (Int.not_lt.mp failed)
        rw [Nat.add_sub_cancel_left] at first
        exact ⟨fun _ _ => rfl, ((recovers_succ count).mp first).2⟩

end Lost

/-! ## The account of a run -/

def leak (state : State) : Event → List Nat
  | .subscribe _ _ _ entry false _ => if state.moduleState = .idle then [] else entry.toList
  | .connack rets => resubscribedLost rets 0 true [] state.nodes
  | _ => []

variable (topicMatching : List UInt8 → List UInt8 → Int)

def leakedAlong : State → List Event → List Nat
  | _, [] => []
  | state, event :: events => leak state event ++
    match step topicMatching state event with
    | none => []
    | some next => leakedAlong next events

/-- The allocated nodes are those of the list and the lost ones. -/
structure Accounted (state : State) (nodes leaked : List Nat) : Prop where
  linked : Linked state nodes
  owns : Owns state.heap (nodes ++ leaked)

section Account

variable {state result : State} {nodes leaked : List Nat}

/-- An operation that frees nodes and relinks others. -/
theorem Accounted.relinked {freed kept lost : List Nat} (accounted : Accounted state nodes leaked)
    (linked : Linked result kept) (splits : nodes.Perm (freed ++ (kept ++ lost)))
    (entry : ∀ address, result.entry address =
      if address ∈ freed then none else state.entry address) :
    Accounted result kept (leaked ++ lost) := by
  have listed : (nodes ++ leaked).Perm (freed ++ (kept ++ (leaked ++ lost))) := by
    refine List.perm_iff_count.mpr fun address => ?_
    have counts := splits.count_eq address
    simp only [List.count_append] at counts ⊢
    omega
  have owns := accounted.owns.perm listed
  obtain ⟨_, distinct, apart⟩ := List.nodup_append.mp owns.distinct
  refine ⟨linked, distinct, fun address => ?_⟩
  have allocated : (result.heap address).isSome = (result.entry address).isSome := by simp [State.entry]
  have before : (state.entry address).isSome ↔ address ∈ freed ++ (kept ++ (leaked ++ lost)) := by
    rw [← owns.allocated]
    simp [State.entry]
  rw [allocated, entry]
  by_cases free : address ∈ freed
  · simp only [if_pos free, Option.isSome_none, Bool.false_eq_true, false_iff]
    exact fun member => apart address free address member rfl
  · rw [if_neg free, before, List.mem_append]
    simp [free]

theorem Accounted.frame (accounted : Accounted state nodes leaked)
    (same : result.heap = state.heap ∧ result.head = state.head ∧ result.mallocs = state.mallocs) :
    Accounted result nodes leaked := by
  obtain ⟨⟨chain, bounded⟩, owns⟩ := accounted
  obtain ⟨heap, head, mallocs⟩ := same
  exact ⟨⟨by rw [heap, head]; exact chain, mallocs ▸ bounded⟩, heap ▸ owns⟩

theorem Accounted.subscribe (accounted : Accounted state nodes leaked) (topic : List UInt8)
    (qos : UInt32) (topicCB : Nat) {entry : Option Nat} {buffer : Bool} {ret : Int}
    (fresh : Fresh state entry)
    (allowed : NoUnlinkedFree state (.subscribe topic qos topicCB entry buffer ret)) :
    ∃ nodes', Accounted (mqttIfSubscribe topic qos topicCB entry buffer ret state) nodes'
      (leaked ++ leak state (.subscribe topic qos topicCB entry buffer ret)) := by
  by_cases idle : state.moduleState = .idle
  · refine ⟨nodes, ?_⟩
    have none : leak state (.subscribe topic qos topicCB entry buffer ret) = [] := by
      cases buffer <;> simp [leak, idle]
    rw [none, List.append_nil]
    exact accounted.frame (by simp [mqttIfSubscribe, idle])
  cases entry with
  | none =>
    refine ⟨nodes, ?_⟩
    have none : leak state (.subscribe topic qos topicCB none buffer ret) = [] := by
      cases buffer <;> simp [leak, idle]
    rw [none, List.append_nil]
    exact accounted.frame (by simp [mqttIfSubscribe, idle])
  | some entry =>
    have free : state.heap entry = none := fresh entry rfl
    have owns := accounted.owns.malloc free ⟨topic, qos, topicCB, state.head⟩
    cases buffer with
    | false =>
      have same := malloc_sameChain ⟨topic, qos, topicCB, state.head⟩ free (-1)
      refine ⟨nodes, ?_⟩
      simp only [mqttIfSubscribe, idle, if_false, if_true, leak, Option.toList_some]
      refine ⟨⟨(same nodes accounted.linked.chain).1,
        accounted.linked.bounded.trans (Nat.le_succ _)⟩, owns.perm ?_⟩
      rw [← List.append_assoc]
      exact (List.perm_append_singleton entry (nodes ++ leaked)).symm
    | true =>
      have first := @malloc_linked state nodes accounted.linked entry
        ⟨topic, qos, topicCB, state.head⟩ free rfl
      refine ⟨entry :: nodes, ?_⟩
      simp only [leak, List.append_nil]
      by_cases connected : state.moduleState = .connected
      · have positive : ¬ ret < 0 := Int.not_lt.mpr (allowed connected rfl fresh rfl)
        simp only [mqttIfSubscribe, State.malloc, connected, positive, if_false, if_true,
          reduceCtorEq]
        exact ⟨⟨(first ret).chain, (first ret).bounded⟩, owns⟩
      · simp only [mqttIfSubscribe, idle, State.malloc, connected, if_false, reduceCtorEq]
        exact ⟨first 0, owns⟩

theorem Accounted.unsubscribe (accounted : Accounted state nodes leaked) (topic : List UInt8)
    (ret : Int) (ran : mqttIfUnsubscribe topicMatching topic ret state = some result) :
    ∃ nodes', Accounted result nodes' leaked := by
  unfold mqttIfUnsubscribe at ran
  split at ran
  · cases ran
    exact ⟨nodes, accounted.frame ⟨rfl, rfl, rfl⟩⟩
  split at ran
  · cases ran
    exact ⟨nodes, accounted.frame ⟨rfl, rfl, rfl⟩⟩
  obtain ⟨after, same, unsubscribes⟩ := @unsubscribeLoop_spec topicMatching topic state.mallocs none
    state.head state [] nodes accounted.linked.chain accounted.linked.chain (absurd rfl)
    accounted.linked.bounded
  cases same.symm.trans ran
  cases unsubscribes with
  | unmatched => exact ⟨nodes, accounted.frame ⟨rfl, rfl, rfl⟩⟩
  | removed before behind curr parts _ _ mallocs chain entry _ =>
    have linked : Linked result (before ++ behind) := by
      refine ⟨chain, mallocs ▸ le_trans ?_ accounted.linked.bounded⟩
      rw [parts]
      simp
    have splits : nodes.Perm ([curr] ++ ((before ++ behind) ++ [])) := by
      rw [parts, List.append_nil]
      exact List.perm_middle
    have relinked := accounted.relinked linked splits (by simpa using entry)
    rw [List.append_nil] at relinked
    exact ⟨_, relinked⟩

theorem Accounted.connack (accounted : Accounted state nodes leaked) (rets : Nat → Int)
    (ran : connack rets state = some result) :
    ∃ nodes', Accounted result nodes' (leaked ++ resubscribedLost rets 0 true [] state.nodes) := by
  obtain ⟨after, same, resubscribes⟩ := @resubscribeLoop_head rets state.mallocs [] nodes none state
    accounted.linked.chain accounted.linked.bounded
  rw [Topics.connack, same] at ran
  cases ran
  have kept := resubscribed_kept rets 0 true [] nodes
  have linked : Linked after.1 (resubscribed rets 0 true [] nodes).kept :=
    ⟨resubscribes.chain, resubscribes.mallocs ▸ kept.length_le.trans accounted.linked.bounded⟩
  rw [accounted.linked.nodes]
  exact ⟨_, accounted.relinked linked (resubscribed_head_splits rets 0 nodes) resubscribes.entry⟩

theorem deinitLoop_frees (rounds : Nat) {state : State} {nodes : List Nat}
    (chain : Chain Node.next state.heap state.head nodes) (bounded : nodes.length ≤ rounds) :
    ∃ result, deinitLoop rounds state.head state = some result ∧ result.head = none ∧
      result.mallocs = state.mallocs ∧
      ∀ address, result.entry address = if address ∈ nodes then none else state.entry address := by
  induction rounds generalizing state nodes with
  | zero =>
    cases List.length_eq_zero_iff.mp (Nat.le_zero.mp bounded)
    have head := Chain.start_eq chain
    exact ⟨state, by rw [head]; rfl, head, rfl, by simp⟩
  | succ rounds inductionHypothesis =>
    cases head : state.head with
    | none =>
      rw [head] at chain
      cases chain.eq_nil
      exact ⟨state, rfl, head, rfl, by simp⟩
    | some tmp =>
      rw [head] at chain
      obtain ⟨node, back, read, rfl, _⟩ := Chain.uncons chain
      let freed := { state with head := node.next }.free tmp
      have beheaded : Chain Node.next freed.heap freed.head back := chain.behead read
      obtain ⟨result, ran, ended, mallocs, entry⟩ :=
        inductionHypothesis beheaded (Nat.le_of_succ_le_succ bounded)
      refine ⟨result, ?_, ended, mallocs, fun address => ?_⟩
      · simp only [deinitLoop, read]
        exact ran
      · have first : freed.entry address = if address = tmp then none else state.entry address :=
          entry_free _ tmp address
        rw [entry, first]
        by_cases same : address = tmp <;> simp [same]

theorem Accounted.deinit (accounted : Accounted state nodes leaked) (sent : Bool)
    (ran : mqttIfDeinit sent state = some result) :
    (∃ nodes', Accounted result nodes' leaked) ∧
      (state.moduleState = .initialized → sent = true →
        result.head = none ∧ Accounted result [] leaked) := by
  unfold mqttIfDeinit at ran
  split at ran
  · rename_i other
    cases ran
    exact ⟨⟨nodes, accounted.frame ⟨rfl, rfl, rfl⟩⟩, fun initialized => absurd initialized other⟩
  split at ran
  · rename_i failed
    cases ran
    exact ⟨⟨nodes, accounted.frame ⟨rfl, rfl, rfl⟩⟩, fun _ success => by rw [failed] at success; cases success⟩
  obtain ⟨after, same, head, mallocs, entry⟩ :=
    deinitLoop_frees state.mallocs accounted.linked.chain accounted.linked.bounded
  rw [same] at ran
  cases ran
  have linked : Linked { after with moduleState := .idle, ret := 0 } [] := by
    refine ⟨?_, Nat.zero_le _⟩
    show Chain Node.next after.heap after.head []
    rw [head]
    exact .nil
  have splits : nodes.Perm (nodes ++ ([] ++ [])) := by simp
  have relinked := accounted.relinked linked splits entry
  rw [List.append_nil] at relinked
  exact ⟨⟨[], relinked⟩, fun _ _ => ⟨head, relinked⟩⟩

theorem Accounted.preserved {event : Event} (accounted : Accounted state nodes leaked)
    (allowed : NoUnlinkedFree state event) (stepped : step topicMatching state event = some result) :
    ∃ nodes', Accounted result nodes' (leaked ++ leak state event) := by
  cases event with
  | subscribe topic qos topicCB entry buffer ret =>
    simp only [step, Option.ite_none_right_eq_some] at stepped
    obtain ⟨fresh, ran⟩ := stepped
    cases ran
    exact accounted.subscribe topic qos topicCB fresh allowed
  | connack rets => exact accounted.connack rets stepped
  | unsubscribe topic ret =>
    simp only [leak, List.append_nil]
    exact accounted.unsubscribe topicMatching topic ret stepped
  | deinit sent =>
    simp only [leak, List.append_nil]
    exact (accounted.deinit sent stepped).1
  | init | connect =>
    cases stepped
    simp only [leak, List.append_nil]
    refine ⟨nodes, accounted.frame ?_⟩
    split <;> exact ⟨rfl, rfl, rfl⟩
  | cleanup =>
    cases stepped
    simp only [leak, List.append_nil]
    exact ⟨nodes, accounted.frame ⟨rfl, rfl, rfl⟩⟩
  | disconnect ret =>
    cases stepped
    simp only [leak, List.append_nil]
    refine ⟨nodes, accounted.frame ?_⟩
    unfold mqttIfDisconnect
    split
    · exact ⟨rfl, rfl, rfl⟩
    · split <;> exact ⟨rfl, rfl, rfl⟩

end Account

theorem accounted_along {state result : State} {nodes leaked : List Nat} (events : List Event)
    (accounted : Accounted state nodes leaked)
    (allowed : Along (step topicMatching) NoUnlinkedFree state events)
    (ran : exec (step topicMatching) state events = some result) :
    ∃ nodes', Accounted result nodes' (leaked ++ leakedAlong topicMatching state events) := by
  induction events generalizing state nodes leaked with
  | nil =>
    cases ran
    exact ⟨nodes, by rwa [leakedAlong, List.append_nil]⟩
  | cons event events inductionHypothesis =>
    obtain ⟨next, stepped, rest⟩ := Option.bind_eq_some_iff.mp ran
    obtain ⟨middle, later⟩ := accounted.preserved topicMatching allowed.1 stepped
    obtain ⟨nodes', final⟩ := inductionHypothesis later (allowed.2 next stepped) rest
    refine ⟨nodes', ?_⟩
    rw [leakedAlong, stepped, ← List.append_assoc]
    exact final

/-- After any run that frees no linked node, the allocated nodes are those of the list and those
that the operations of the run have lost, each once, and a `MQTT_IF_Deinit` that succeeds leaves
the lost ones and no other. -/
theorem nodes_accounted {events : List Event} {state : State}
    (allowed : Along (step topicMatching) NoUnlinkedFree initial events)
    (ran : exec (step topicMatching) initial events = some state) :
    (∃ nodes, Chain Node.next state.heap state.head nodes ∧
      Owns state.heap (nodes ++ leakedAlong topicMatching initial events)) ∧
    ∀ result, state.moduleState = .initialized →
      step topicMatching state (.deinit true) = some result →
        result.head = none ∧ Owns result.heap (leakedAlong topicMatching initial events) := by
  have start : Accounted initial [] [] := ⟨⟨.nil, Nat.le_refl 0⟩, .none⟩
  obtain ⟨nodes, accounted⟩ := accounted_along topicMatching events start allowed ran
  rw [List.nil_append] at accounted
  refine ⟨⟨nodes, accounted.linked.chain, accounted.owns⟩, fun result initialized ends => ?_⟩
  obtain ⟨head, empty⟩ := (accounted.deinit true ends).2 initialized rfl
  exact ⟨head, empty.owns⟩

/-- What a CONNACK loses is allocated and not in the list. -/
theorem Accounted.lost {state : State} {nodes leaked lost : List Nat}
    (accounted : Accounted state nodes (leaked ++ lost)) {address : Nat} (member : address ∈ lost) :
    (state.heap address).isSome ∧
      ∀ listed, Chain Node.next state.heap state.head listed → address ∉ listed ++ leaked := by
  refine ⟨(accounted.owns.allocated address).mpr (by simp [member]), fun listed chain again => ?_⟩
  cases Chain.unique accounted.linked.chain chain
  have distinct := accounted.owns.distinct
  rw [← List.append_assoc] at distinct
  exact (List.nodup_append.mp distinct).2.2 address again address member rfl

/-- The handler of a CONNACK ends, and every node is in the list or freed afterwards, exactly if
no two of its calls that follow each other fail behind one that succeeds; else a node of the list
stays allocated and is in it no longer. -/
theorem connack_loses_none_iff {state : State} {nodes leaked : List Nat} (rets : Nat → Int)
    (accounted : Accounted state nodes leaked) :
    ∃ result, connack rets state = some result ∧
      ((∃ nodes', Chain Node.next result.heap result.head nodes' ∧
          Owns result.heap (nodes' ++ leaked)) ↔
        ∀ c < (resubscribed rets 0 true [] nodes).attempted.length, 0 ≤ rets c →
          Recovers rets c ((resubscribed rets 0 true [] nodes).attempted.length - c)) ∧
      ((¬ ∀ c < (resubscribed rets 0 true [] nodes).attempted.length, 0 ≤ rets c →
          Recovers rets c ((resubscribed rets 0 true [] nodes).attempted.length - c)) →
        ∃ address ∈ nodes, (result.heap address).isSome ∧
          ∀ nodes', Chain Node.next result.heap result.head nodes' → address ∉ nodes') := by
  obtain ⟨result, ran, _⟩ := connack_left accounted.linked rets
  obtain ⟨nodes', after⟩ := accounted.connack rets ran
  rw [accounted.linked.nodes] at after
  have consecutive := lost_head_iff rets 0 nodes
  simp only [Nat.zero_le, Nat.zero_add, forall_const] at consecutive
  rw [← consecutive]
  refine ⟨result, ran, ⟨?_, fun none => ?_⟩, fun some => ?_⟩
  · rintro ⟨nodes'', chain, owns⟩
    by_contra some
    obtain ⟨address, member⟩ := List.exists_mem_of_ne_nil _ some
    obtain ⟨allocated, unlisted⟩ := after.lost member
    exact unlisted nodes'' chain ((owns.allocated address).mp allocated)
  · rw [none, List.append_nil] at after
    exact ⟨nodes', after.linked.chain, after.owns⟩
  · obtain ⟨address, member⟩ := List.exists_mem_of_ne_nil _ some
    obtain ⟨allocated, unlisted⟩ := after.lost member
    refine ⟨address, ?_, allocated, fun nodes'' chain listed => ?_⟩
    · refine (resubscribed_head_splits rets 0 nodes).mem_iff.mpr ?_
      simp [member]
    · exact unlisted nodes'' chain (List.mem_append_left _ listed)

/-- Two topics from the set-up, and one without memory for its string. -/
def twoTopics : List Event :=
  [.init, .subscribe [97] 0 0 (some 1) true 0, .subscribe [98] 0 0 (some 2) true 0,
    .subscribe [99] 0 0 (some 3) false 0]

theorem nodes_accounted_two : ∃ state, exec (step fun _ _ => 0) initial twoTopics = some state ∧
    leakedAlong (fun _ _ => 0) initial twoTopics = [3] ∧
    ∃ result, step (fun _ _ => 0) state (.deinit true) = some result ∧
      Owns result.heap (leakedAlong (fun _ _ => 0) initial twoTopics) := by
  have allowed : Along (step fun _ _ => 0) NoUnlinkedFree initial twoTopics := by decide
  obtain ⟨state, ran, initialized, result, ends⟩ : ∃ state,
      exec (step fun _ _ => 0) initial twoTopics = some state ∧ state.moduleState = .initialized ∧
        ∃ result, step (fun _ _ => 0) state (.deinit true) = some result :=
    ⟨_, rfl, rfl, _, rfl⟩
  exact ⟨state, ran, by decide, result, ends,
    ((nodes_accounted (fun _ _ => 0) allowed ran).2 result initialized ends).2⟩

def fourTopics : List Event :=
  [.init, .subscribe [97] 0 0 (some 1) true 0, .subscribe [98] 0 0 (some 2) true 0,
    .subscribe [99] 0 0 (some 3) true 0, .subscribe [100] 0 0 (some 4) true 0]

/-- The second call fails and skips the node behind it, and the third fails as well. -/
def failsTwice (call : Nat) : Int := if call = 0 then 0 else -1

theorem connack_loses_none_iff_skipped :
    ∃ state, exec (step fun _ _ => 0) initial fourTopics = some state ∧ state.nodes = [4, 3, 2, 1] ∧
      ∃ result, connack failsTwice state = some result ∧
        ∃ address ∈ [4, 3, 2, 1], (result.heap address).isSome ∧
          ∀ nodes', Chain Node.next result.heap result.head nodes' → address ∉ nodes' := by
  have allowed : Along (step fun _ _ => 0) NoUnlinkedFree initial fourTopics := by decide
  have seen : (exec (step fun _ _ => 0) initial fourTopics).map State.nodes = some [4, 3, 2, 1] := by
    decide
  obtain ⟨state, ran, listed⟩ := Option.map_eq_some_iff.mp seen
  have start : Accounted initial [] [] := ⟨⟨.nil, Nat.le_refl 0⟩, .none⟩
  obtain ⟨nodes, accounted⟩ := accounted_along (fun _ _ => 0) fourTopics start allowed ran
  cases accounted.linked.nodes.symm.trans listed
  obtain ⟨result, ends, _, loses⟩ := connack_loses_none_iff failsTwice accounted
  refine ⟨state, ran, listed, result, ends, loses fun law => ?_⟩
  have recovers := law 0 (by decide) (by decide) 1 (by decide) (by decide) (by decide)
  exact absurd recovers (by decide)

end Topics

end PlhrFirmware.Session
