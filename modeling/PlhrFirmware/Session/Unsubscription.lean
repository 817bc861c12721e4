import PlhrFirmware.Mqtt.Matching
import PlhrFirmware.Session.Topics

/-! # Unsubscribing from a topic

Which node `MQTT_IF_Unsubscribe` takes off the list, and what it returns, when it looks the topic
up with `MQTTHelperTopicMatching`.
-/

namespace PlhrFirmware.Session

open PlhrFirmware.Lib PlhrFirmware.Mqtt

namespace Topics

/-! ## The named node -/

def Named (topic : List UInt8) (state : State) (address : Nat) : Prop :=
  (state.heap address).map Node.topic = some topic

instance (topic : List UInt8) (state : State) : DecidablePred (Named topic state) :=
  fun _ => inferInstanceAs (Decidable (_ = _))

/-- Exactly the node with the topic has been taken off the list and freed. -/
def RemovesNamed (topic : List UInt8) (state : State) (nodes : List Nat) (result : State) : Prop :=
  Chain Node.next result.heap result.head (nodes.filter fun address => ¬ Named topic state address) ∧
    ∀ address ∈ nodes, result.entry address =
      if Named topic state address then none else state.entry address

/-- The node with the topic is removed with the value 0, or there is none and the value is
negative. -/
def UnsubscribesNamed (topicMatching : List UInt8 → List UInt8 → Int) (topic : List UInt8) (ret : Int)
    (state : State) (nodes : List Nat) : Prop :=
  ∃ result, mqttIfUnsubscribe topicMatching topic ret state = some result ∧
    RemovesNamed topic state nodes result ∧
    if ∃ address ∈ nodes, Named topic state address then result.ret = 0 else result.ret < 0

/-- The value of `MQTTHelperTopicMatching`, which is `garbage` behind a read outside the strings. -/
def topicMatching (garbage : List UInt8 → List UInt8 → Int) (s p : List UInt8) : Int :=
  match mqttHelperTopicMatching s (some p) with
  | .ok ret => ret
  | .error _ => garbage s p

section Unsubscription

variable {garbage : List UInt8 → List UInt8 → Int} {topic : List UInt8} {ret : Int} {state : State}
  {nodes : List Nat} {address : Nat}

theorem Named.filters (named : Named topic state address) :
    Filters (topicMatching garbage) topic state address := by
  obtain ⟨node, read, rfl⟩ := Option.map_eq_some_iff.mp named
  refine ⟨node, read, ?_⟩
  rw [topicMatching, matching_self]

/-- The function with the client's success, in the connected state. -/
theorem mqttIfUnsubscribe_spec (connected : state.moduleState = .connected) (succeeded : 0 ≤ ret)
    (linked : Linked state nodes) :
    ∃ result, mqttIfUnsubscribe (topicMatching garbage) topic ret state = some result ∧
      Unsubscribes (topicMatching garbage) topic state [] nodes result := by
  have loop := @unsubscribeLoop_spec (topicMatching garbage) topic state.mallocs none state.head state
    [] nodes linked.chain linked.chain (absurd rfl) linked.bounded
  simpa [mqttIfUnsubscribe, connected, Int.not_lt.mpr succeeded] using loop

theorem RemovesNamed.unnamed (linked : Linked state nodes)
    (others : ∀ address ∈ nodes, ¬ Named topic state address) (ret : Int) :
    RemovesNamed topic state nodes { state with ret := ret } := by
  constructor
  · rw [List.filter_eq_self.mpr fun address member => by simp [others address member]]
    exact linked.chain
  · intro address member
    rw [if_neg (others address member)]
    rfl

end Unsubscription

/-- In the connected state and when the client's unsubscribe succeeds, exactly the named node is
removed with the value 0, or without one the value is negative, if and only if no filter of the
list matches the topic. -/
theorem unsubscribesNamed_iff {garbage : List UInt8 → List UInt8 → Int} {topic : List UInt8}
    {ret : Int} {state : State} {nodes : List Nat} (connected : state.moduleState = .connected)
    (succeeded : 0 ≤ ret) (linked : Linked state nodes) :
    UnsubscribesNamed (topicMatching garbage) topic ret state nodes ↔
      ∀ address ∈ nodes, ¬ Filters (topicMatching garbage) topic state address := by
  obtain ⟨result, ran, unsubscribes⟩ :=
    @mqttIfUnsubscribe_spec garbage topic ret state nodes connected succeeded linked
  cases unsubscribes with
  | unmatched different =>
    have others : ∀ address ∈ nodes, ¬ Named topic state address :=
      fun address member named => different address member named.filters
    refine iff_of_true ⟨_, ran, .unnamed linked others _, ?_⟩ different
    rw [if_neg (by simpa using others)]
    exact Int.negSucc_lt_zero 0
  | removed before after curr parts passed matched mallocs chain entry returned =>
    refine iff_of_false ?_ fun different => ?_
    · rintro ⟨_, ran', _, value⟩
      cases ran.symm.trans ran'
      rw [returned] at value
      split at value <;> cases value
    · exact different curr (by simp [parts]) matched

instance (topicMatching : List UInt8 → List UInt8 → Int) (topic : List UInt8) (state : State) :
    DecidablePred (Filters topicMatching topic state) := fun address =>
  match read : state.heap address with
  | none => .isFalse (by simp [Filters, read])
  | some node => decidable_of_iff (topicMatching node.topic topic = 1) (by simp [Filters, read])

/-- A named node is the only one, where no two nodes have one name. -/
theorem only_named {topic : List UInt8} {state : State} {before after : List Nat} {curr : Nat}
    (distinct : (before ++ curr :: after).Pairwise fun first second =>
      ¬ (Named topic state first ∧ Named topic state second)) (named : Named topic state curr) :
    ∀ address ∈ before ++ curr :: after, Named topic state address ↔ address = curr := by
  intro address member
  rw [List.perm_middle.pairwise_iff (fun both => mt And.symm both)] at distinct
  rw [List.perm_middle.mem_iff] at member
  constructor
  · intro other
    cases member with
    | head => rfl
    | tail _ member => exact absurd ⟨named, other⟩ ((List.pairwise_cons.mp distinct).1 address member)
  · rintro rfl
    exact named

theorem filter_unnamed {topic : List UInt8} {state : State} {before after : List Nat} {curr : Nat}
    (outside : curr ∉ before ++ after)
    (only : ∀ address ∈ before ++ curr :: after, Named topic state address ↔ address = curr) :
    ((before ++ curr :: after).filter fun address => ¬ Named topic state address) = before ++ after := by
  have different : ((before ++ curr :: after).filter fun address => ¬ Named topic state address) =
      (before ++ curr :: after).filter fun address => address ≠ curr :=
    List.filter_congr fun address member => by simp only [only address member]
  rw [different, List.filter_append, List.filter_cons_of_neg (by simp), ← List.filter_append]
  apply List.filter_eq_self.mpr
  intro address member
  apply decide_eq_true
  rintro rfl
  exact outside member

/-- What happens to the list: exactly the named node is removed if and only if no other one is the
first that matches. -/
theorem removesNamed_iff {garbage : List UInt8 → List UInt8 → Int} {topic : List UInt8}
    {ret : Int} {state : State} {nodes : List Nat} (connected : state.moduleState = .connected)
    (succeeded : 0 ≤ ret) (linked : Linked state nodes)
    (distinct : nodes.Pairwise fun first second =>
      ¬ (Named topic state first ∧ Named topic state second)) :
    (∃ result, mqttIfUnsubscribe (topicMatching garbage) topic ret state = some result ∧
      RemovesNamed topic state nodes result) ↔
      ∀ curr ∈ nodes.find? fun address => Filters (topicMatching garbage) topic state address,
        Named topic state curr := by
  obtain ⟨result, ran, unsubscribes⟩ :=
    @mqttIfUnsubscribe_spec garbage topic ret state nodes connected succeeded linked
  cases unsubscribes with
  | unmatched different =>
    have others : ∀ address ∈ nodes, ¬ Named topic state address :=
      fun address member named => different address member named.filters
    have unfound : nodes.find? (fun address => Filters (topicMatching garbage) topic state address) =
        none := by
      simpa using different
    rw [unfound]
    exact iff_of_true ⟨_, ran, .unnamed linked others _⟩ fun _ found => absurd found (Option.not_mem_none _)
  | removed before after curr parts passed matched mallocs chain entry returned =>
    have found : nodes.find? (fun address => Filters (topicMatching garbage) topic state address) =
        some curr := by
      rw [List.find?_eq_some_iff_append]
      exact ⟨decide_eq_true matched, before, after, parts, fun address member => by
        simp [passed address member]⟩
    have once := linked.chain.nodup
    rw [parts, List.nodup_middle, List.nodup_cons] at once
    rw [found]
    constructor
    · rintro ⟨_, ran', removes⟩ curr' same
      cases ran.symm.trans ran'
      cases same
      by_contra unnamed
      have member : curr ∈ nodes.filter fun address => ¬ Named topic state address := by
        simp [unnamed, parts]
      rw [← Chain.unique chain removes.1] at member
      exact once.1 member
    · intro first
      have named : Named topic state curr := first curr rfl
      subst parts
      have only := only_named distinct named
      have left := filter_unnamed once.1 only
      refine ⟨result, ran, left ▸ chain, fun address member => ?_⟩
      rw [entry, if_congr (only address member) rfl rfl]

/-- Two plain subscriptions, and a topic that neither gets. -/
theorem unsubscribesNamed_absent : ∃ state, exec (step fun _ _ => 0) initial
    [.init, .connect, .subscribe [97] 0 0 (some 1) true 0, .subscribe [98] 0 0 (some 2) true 0] =
      some state ∧ UnsubscribesNamed (topicMatching fun _ _ => 0) [99] 0 state [2, 1] := by
  have first : mqttHelperTopicMatching [98] (some [99]) = .ok 0 := matching_differs (by decide) (by rfl)
  have second : mqttHelperTopicMatching [97] (some [99]) = .ok 0 := matching_differs (by decide) (by rfl)
  refine ⟨_, rfl, (unsubscribesNamed_iff rfl (by decide) ⟨?_, by decide⟩).mpr ?_⟩
  · exact .cons rfl (.cons rfl .nil)
  · rintro address member ⟨node, read, matched⟩
    cases member with
    | head =>
      cases read
      rw [topicMatching, first] at matched
      cases matched
    | tail _ member =>
      cases List.mem_singleton.mp member
      cases read
      rw [topicMatching, second] at matched
      cases matched

/-- The filter `+` is in front of `a`: unsubscribing from `a` removes it and returns 1. -/
theorem wildcard_removed : ∃ state result, exec (step fun _ _ => 0) initial
    [.init, .connect, .subscribe [97] 0 0 (some 1) true 0, .subscribe [43] 0 0 (some 2) true 0] =
      some state ∧ mqttIfUnsubscribe (topicMatching fun _ _ => 0) [97] 0 state = some result ∧
    Chain Node.next result.heap result.head [1] ∧ result.ret = 1 ∧
    ¬ UnsubscribesNamed (topicMatching fun _ _ => 0) [97] 0 state [2, 1] := by
  have matched : topicMatching (fun _ _ => 0) [43] [97] = 1 := by
    rw [topicMatching, matching_last (by decide) (by rfl) (by rfl)]
    rfl
  let subscribed := (State.malloc ⟨.connected, fun _ => none, none, 0, 0⟩ 1 ⟨[97], 0, 0, none⟩)
  let state := { (subscribed.malloc 2 ⟨[43], 0, 0, some 1⟩) with head := some 2 }
  have removed : mqttIfUnsubscribe (topicMatching fun _ _ => 0) [97] 0 state =
      some { { state with head := some 1 }.free 2 with ret := 1 } := by
    have loop : ∀ rounds, unsubscribeLoop (topicMatching fun _ _ => 0) [97] (rounds + 1) none (some 2)
        state = some { { state with head := some 1 }.free 2 with ret := 1 } := by
      intro rounds
      rw [unsubscribeLoop]
      simp [state, State.malloc, matched]
    exact loop 1
  refine ⟨state, _, rfl, removed, .cons rfl .nil, rfl, ?_⟩
  rintro ⟨result, ran, _, value⟩
  cases removed.symm.trans ran
  split at value <;> cases value

end Topics

end PlhrFirmware.Session
