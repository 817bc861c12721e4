import Mathlib.Data.List.Perm.Basic
import PlhrFirmware.Session.Topics

/-! # Subscribing again after a CONNACK

What `MQTTAppThread` does with a list of topics when it handles a CONNACK, whatever
`MQTTClient_subscribe` returns for each of them.
-/

namespace PlhrFirmware.Session

open PlhrFirmware.Lib

namespace Topics

/-! ## Every node in turn -/

/-- Every node of the list is subscribed exactly once; the nodes whose call succeeded stay in
their order with what they hold, and the others have been freed. -/
def ResubscribesAll (rets : Nat → Int) (state : State) (nodes : List Nat) : Prop :=
  ∃ result attempted,
    resubscribeLoop rets state.mallocs [] none state.head state = some (result, attempted) ∧
      attempted.Perm nodes ∧
      Chain Node.next result.heap result.head
        (nodes.filter fun address => 0 ≤ rets (attempted.idxOf address)) ∧
      ∀ address ∈ nodes, result.entry address =
        if rets (attempted.idxOf address) < 0 then none else state.entry address

/-- A call fails only for the last node, or as long as all calls have failed. -/
def Steady (rets : Nat → Int) (call : Nat) (atHead : Bool) (count : Nat) : Prop :=
  ∀ index, index + 1 < count → rets (call + index) < 0 →
    atHead = true ∧ ∀ earlier < index, rets (call + earlier) < 0

/-- The nodes whose call has the property. -/
def chosen (property : Nat → Bool) (call : Nat) (nodes : List Nat) : List Nat :=
  ((nodes.zipIdx call).filter fun node => property node.2).map Prod.fst

section Chosen

variable {property : Nat → Bool} {call : Nat} {nodes : List Nat}

theorem chosen_cons (curr : Nat) : chosen property call (curr :: nodes) =
    if property call then curr :: chosen property (call + 1) nodes
    else chosen property (call + 1) nodes := by
  cases holds : property call <;> simp [chosen, List.zipIdx_cons, holds]

theorem chosen_eq_filter (distinct : nodes.Nodup) :
    chosen property call nodes = nodes.filter fun address => property (call + nodes.idxOf address) := by
  induction nodes generalizing call with
  | nil => rfl
  | cons curr nodes inductionHypothesis =>
    obtain ⟨outside, others⟩ := List.nodup_cons.mp distinct
    have later : (nodes.filter fun address => property (call + (curr :: nodes).idxOf address)) =
        chosen property (call + 1) nodes := by
      rw [inductionHypothesis others]
      refine List.filter_congr fun address member => ?_
      have different : curr ≠ address := by
        rintro rfl
        exact outside member
      rw [List.idxOf_cons_ne nodes different, Nat.add_assoc, Nat.add_comm 1]
    rw [chosen_cons, List.filter_cons, later, List.idxOf_cons_self]
    rfl

end Chosen

/-! ## Steady calls -/

section Steady

variable {rets : Nat → Int} {call count : Nat} {atHead : Bool}

theorem steady_head (failed : rets call < 0) :
    Steady rets call true (count + 1) ↔ Steady rets (call + 1) true count := by
  constructor
  · intro steady index bound again
    rw [Nat.add_assoc, Nat.add_comm 1] at again
    obtain ⟨_, before⟩ := steady (index + 1) (Nat.succ_lt_succ bound) again
    refine ⟨rfl, fun earlier less => ?_⟩
    rw [Nat.add_assoc, Nat.add_comm 1]
    exact before (earlier + 1) (Nat.succ_lt_succ less)
  · intro steady index bound again
    refine ⟨rfl, fun earlier less => ?_⟩
    cases earlier with
    | zero => exact failed
    | succ earlier =>
      cases index with
      | zero => cases less
      | succ index =>
        have shift : ∀ offset, call + 1 + offset = call + (offset + 1) := by omega
        rw [← shift]
        exact (steady index (Nat.lt_of_succ_lt_succ bound) (by rwa [shift])).2 earlier
          (Nat.lt_of_succ_lt_succ less)

/-- Behind a node that stays, only the last call may fail. -/
theorem steady_behind (failed : rets call < 0) : Steady rets call false (count + 1) ↔ count = 0 := by
  constructor
  · intro steady
    by_contra more
    cases (steady 0 (by omega) failed).1
  · rintro rfl index bound
    omega

theorem steady_stays (succeeded : ¬ rets call < 0) :
    Steady rets call atHead (count + 1) ↔ Steady rets (call + 1) false count := by
  have shift : ∀ offset, call + 1 + offset = call + (offset + 1) := by omega
  constructor
  · intro steady index bound again
    rw [shift] at again
    obtain ⟨_, before⟩ := steady (index + 1) (Nat.succ_lt_succ bound) again
    exact absurd (before 0 (Nat.succ_pos index)) succeeded
  · intro steady index bound again
    cases index with
    | zero => exact absurd again succeeded
    | succ index =>
      rw [← shift] at again
      cases (steady index (Nat.lt_of_succ_lt_succ bound) again).1

end Steady

/-! ## The outcome -/

section Outcome

variable {rets : Nat → Int} {call : Nat} {atHead : Bool} {between back : List Nat}

theorem resubscribed_attempted (rets : Nat → Int) (call : Nat) (atHead : Bool)
    (between back : List Nat) : (resubscribed rets call atHead between back).attempted.Sublist back := by
  fun_induction resubscribed rets call atHead between back with
  | case1 => exact List.Sublist.refl _
  | case2 _ _ curr _ _ _ inductionHypothesis => exact inductionHypothesis.cons_cons curr
  | case3 => exact List.Sublist.refl _
  | case4 _ _ _ curr _ _ next _ _ inductionHypothesis =>
    exact (inductionHypothesis.cons next).cons_cons curr
  | case5 _ _ _ curr _ _ _ inductionHypothesis => exact inductionHypothesis.cons_cons curr

theorem resubscribed_steady (steady : Steady rets call atHead back.length) :
    resubscribed rets call atHead [] back =
      ⟨back, chosen (fun index => 0 ≤ rets index) call back,
        chosen (fun index => rets index < 0) call back⟩ := by
  induction back generalizing call atHead with
  | nil => rfl
  | cons curr back inductionHypothesis =>
    by_cases failed : rets call < 0
    · have stays : ¬ 0 ≤ rets call := Int.not_le.mpr failed
      cases atHead with
      | true =>
        rw [resubscribed_head failed, inductionHypothesis ((steady_head failed).mp steady)]
        simp [chosen_cons, failed, stays]
      | false =>
        cases List.length_eq_zero_iff.mp ((steady_behind failed).mp steady)
        rw [resubscribed_last failed]
        simp [failed, stays, chosen]
    · have stays : 0 ≤ rets call := Int.not_lt.mp failed
      rw [resubscribed_stays failed, inductionHypothesis ((steady_stays failed).mp steady)]
      simp [chosen_cons, failed, stays]

/-- The node behind the one that is removed is not attempted. -/
theorem resubscribed_misses (unsteady : ¬ Steady rets call atHead back.length) :
    (resubscribed rets call atHead between back).attempted.length < back.length := by
  induction back generalizing call atHead between with
  | nil => exact absurd (fun _ bound => absurd bound (Nat.not_lt_zero _)) unsteady
  | cons curr back inductionHypothesis =>
    by_cases failed : rets call < 0
    · cases atHead with
      | true =>
        rw [resubscribed_head failed]
        exact Nat.succ_lt_succ (inductionHypothesis fun steady => unsteady ((steady_head failed).mpr steady))
      | false =>
        cases back with
        | nil => exact absurd ((steady_behind failed).mpr rfl) unsteady
        | cons next back =>
          rw [resubscribed_skips failed]
          have attempted := (resubscribed_attempted rets (call + 1) false [next] back).length_le
          exact Nat.succ_lt_succ (Nat.lt_succ_of_le attempted)
    · rw [resubscribed_stays failed]
      exact Nat.succ_lt_succ (inductionHypothesis fun steady => unsteady ((steady_stays failed).mpr steady))

end Outcome

/-! ## Every list -/

/-- The handler keeps exactly the nodes whose call succeeds, and calls for every node, if and only
if a call fails only for the last node or as long as all calls have failed. -/
theorem resubscribesAll_iff {rets : Nat → Int} {state : State} {nodes : List Nat}
    (linked : Linked state nodes) : ResubscribesAll rets state nodes ↔
      ∀ index, index + 1 < nodes.length → rets index < 0 → ∀ earlier < index, rets earlier < 0 := by
  have distinct : nodes.Nodup := Chain.nodup linked.chain
  have calls : Steady rets 0 true nodes.length ↔
      ∀ index, index + 1 < nodes.length → rets index < 0 → ∀ earlier < index, rets earlier < 0 := by
    simp [Steady]
  obtain ⟨⟨result, attempted⟩, ran, resubscribes⟩ := @resubscribeLoop_head rets state.mallocs [] nodes
    none state linked.chain linked.bounded
  rw [← calls]
  constructor
  · rintro ⟨_, _, ran', every, _⟩
    cases ran.symm.trans ran'
    by_contra unsteady
    have missed := @resubscribed_misses rets _ _ [] _ unsteady
    have called := resubscribes.attempted
    simp only [List.nil_append, List.length_nil] at called
    rw [← called, every.length_eq] at missed
    exact Nat.lt_irrefl _ missed
  · intro steady
    have outcome := resubscribed_steady steady
    have called : attempted = nodes := by simpa [outcome] using resubscribes.attempted
    subst called
    refine ⟨result, attempted, ran, .refl _, ?_, fun address member => ?_⟩
    · have chain := resubscribes.chain
      simpa [outcome, chosen_eq_filter distinct] using chain
    · have entry := resubscribes.entry address
      simpa [outcome, chosen_eq_filter distinct, member] using entry

/-- The calls for the two nodes at the head fail. -/
theorem resubscribesAll_failing_heads : ∃ state, exec (step fun _ _ => 0) initial
    [.init, .connect, .subscribe [97] 0 0 (some 1) true 0, .subscribe [98] 0 0 (some 2) true 0,
      .subscribe [99] 0 0 (some 3) true 0] = some state ∧
      ResubscribesAll (fun call => if call < 2 then -1 else 0) state [3, 2, 1] := by
  refine ⟨_, rfl, (resubscribesAll_iff ⟨?_, by decide⟩).mpr ?_⟩
  · exact .cons rfl (.cons rfl (.cons rfl .nil))
  · intro index bound _ earlier less
    have both : index < 2 := Nat.lt_of_succ_lt_succ bound
    simp [less.trans both]

/-- The call for the second of three nodes fails; the third is not subscribed again, and it stays
in the list. -/
theorem failed_call_skips : ∃ state, exec (step fun _ _ => 0) initial
    [.init, .connect, .subscribe [97] 0 0 (some 1) true 0, .subscribe [98] 0 0 (some 2) true 0,
      .subscribe [99] 0 0 (some 3) true 0] = some state ∧
    Linked state [3, 2, 1] ∧
    (∃ result, resubscribeLoop (fun call => if call = 1 then -1 else 0) state.mallocs [] none
      state.head state = some (result, [3, 2]) ∧ Chain Node.next result.heap result.head [3, 1]) ∧
    ¬ ResubscribesAll (fun call => if call = 1 then -1 else 0) state [3, 2, 1] := by
  refine ⟨_, rfl, ⟨?_, by decide⟩, ⟨_, rfl, ?_⟩, ?_⟩
  · exact .cons rfl (.cons rfl (.cons rfl .nil))
  · exact .cons rfl (.cons rfl .nil)
  · rintro ⟨result, attempted, ran, every, _⟩
    cases ran
    cases every.length_eq

end Topics

end PlhrFirmware.Session
