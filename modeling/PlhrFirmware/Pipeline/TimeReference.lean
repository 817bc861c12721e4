import PlhrFirmware.Lib.Latest
import PlhrFirmware.Pipeline.Runs

/-! # The time reference of a message

A synchronising pass captures its own number and the time together; every pass copies the last
such pair into the current message.  `Timed` says that the pair of a message, when it is
posted, is that of the latest synchronising pass up to the message's last one.
-/

namespace PlhrFirmware.Pipeline

open PlhrFirmware.Lib PlhrFirmware.Message

def Capture.value (capture : Capture) : UInt64 := timeSynchroUs capture.timeSynchro capture.rtcTimer

/-- The pass that fills the last block of the `k`-th message. -/
def lastPass (k : Nat) : Nat := dataBufferMax * k + (dataBufferMax - 1)

/-- The pair of the latest synchronising pass up to `last`, or both 0 if there is none. -/
def Referenced (captures : List Capture) (last : Nat) (corrBufferId rtcValue : UInt64) : Prop :=
  (∃ capture, LatestBy Capture.pass captures last capture ∧
      corrBufferId = UInt64.ofNat capture.pass ∧ rtcValue = capture.value) ∨
    (Nothing Capture.pass captures last ∧ corrBufferId = 0 ∧ rtcValue = 0)

theorem Referenced.append {captures : List Capture} {last : Nat} {corrBufferId rtcValue : UInt64}
    {new : Capture} (referenced : Referenced captures last corrBufferId rtcValue)
    (after : last < new.pass) : Referenced (captures ++ [new]) last corrBufferId rtcValue := by
  obtain ⟨capture, latest, corr, rtc⟩ | ⟨nothing, corr, rtc⟩ := referenced
  · exact .inl ⟨capture, latest.append after, corr, rtc⟩
  · exact .inr ⟨nothing.append after, corr, rtc⟩

/-- The posted message has its time reference, and the id of its last pass. -/
structure Timed (captures : List Capture) (k : Nat) (message : MsgData) : Prop where
  reference : Referenced captures (lastPass k) message.p.h.corrBufferId message.p.h.rtcValue
  lastId : (message.p.p (Fin.last _)).bufferId = UInt64.ofNat (lastPass k)

structure TimeKept (state : State) : Prop where
  counted : Counted state
  earlier : ∀ capture ∈ state.captures, capture.pass < state.passes
  current : ∀ last, state.passes ≤ last + 1 →
    Referenced state.captures last state.dws.dataBufferSync state.dws.timeSynchroUs
  posted : ∀ (k : Nat) (message : MsgData), state.posted[k]? = some message →
    Timed state.captures k message

theorem TimeKept.initial : TimeKept initial where
  counted := .initial
  earlier := by intro capture member; cases member
  current := fun _ _ => .inr ⟨(by intro capture member; cases member), rfl, rfl⟩
  posted := by intro k message posted; simp [Pipeline.initial] at posted

theorem Counted.lastPass_lt {state : State} (counted : Counted state) {k : Nat} {message : MsgData}
    (posted : state.posted[k]? = some message) : lastPass k < state.passes := by
  have bound := (List.getElem?_eq_some_iff.mp posted).1
  rw [counted.posted] at bound
  have complete := Nat.mul_div_le state.passes dataBufferMax
  simp only [lastPass, dataBufferMax] at *
  omega

theorem Counted.lastPass_eq {state : State} (counted : Counted state)
    (full : ¬ state.dws.cntBufferOut + 1 < dataBufferMax) :
    lastPass state.posted.length = state.passes ∧ state.dws.cntBufferOut = Fin.last _ := by
  have block := counted.block
  have last : state.dws.cntBufferOut = Fin.last _ := by
    apply Fin.ext
    have := state.dws.cntBufferOut.isLt
    simp only [Fin.val_last, dataBufferMax] at *
    omega
  refine ⟨?_, last⟩
  rw [last, Fin.val_last] at block
  rw [lastPass, counted.posted]
  have := Nat.div_add_mod state.passes dataBufferMax
  simp only [dataBufferMax] at *
  omega

theorem TimeKept.synchronized {state result : State} (kept : TimeKept state)
    (synchronized : Synchronized state result) :
    (∀ capture ∈ result.captures, capture.pass ≤ state.passes) ∧
      (∀ last, state.passes ≤ last →
        Referenced result.captures last result.dws.dataBufferSync result.dws.timeSynchroUs) ∧
      ∀ (last : Nat) (corr rtc : UInt64), last < state.passes →
        Referenced state.captures last corr rtc → Referenced result.captures last corr rtc := by
  by_cases quiet : state.statusTimeSync = 0
  -- without a request everything stays
  · obtain ⟨sync, us, captures, _⟩ := synchronized.quiet quiet
    rw [sync, us, captures]
    exact ⟨fun capture member => (kept.earlier capture member).le,
      fun last reached => kept.current last (by omega), fun _ _ _ _ referenced => referenced⟩
  · obtain ⟨sync, us, captures, _⟩ := synchronized.pending quiet
    rw [sync, us, captures]
    refine ⟨?_, ?_, ?_⟩
    · intro capture member
      rcases List.mem_append.mp member with old | isNew
      · exact (kept.earlier capture old).le
      · rw [List.mem_singleton.mp isNew]
    -- the new capture is the latest for every message that is still open
    · intro last reached
      refine .inl ⟨_, latestBy_append_self ?_ reached, kept.counted.count, rfl⟩
      exact fun other member => (kept.earlier other member).le
    · intro last corr rtc before referenced
      exact referenced.append before

theorem TimeKept.pass {state result : State} {bufferDownsampling : DmaBuffer}
    (kept : TimeKept state) (passed : Passed bufferDownsampling state result) :
    TimeKept result := by
  have passes := passed.passes
  obtain ⟨earlier, current, older⟩ := kept.synchronized passed.synchronized
  have oldPosted : ∀ (k : Nat) (message : MsgData), state.posted[k]? = some message →
      Timed result.captures k message := by
    intro k message posted
    have timed := kept.posted k message posted
    exact ⟨older _ _ _ (kept.counted.lastPass_lt posted) timed.reference, timed.lastId⟩
  refine ⟨passed.counted kept.counted, ?_, ?_, ?_⟩
  · intro capture member
    have := earlier capture member
    omega
  · intro last reached
    exact current last (by omega)
  · intro k message posted
    by_cases more : state.dws.cntBufferOut + 1 < dataBufferMax
    · rw [(passed.within more).2.2.2] at posted
      exact oldPosted k message posted
    · obtain ⟨_, _, _, log⟩ := passed.switch more
      rw [log] at posted
      obtain old | ⟨rfl, rfl⟩ := getElem?_append_singleton posted
      · exact oldPosted k message old
      -- the message just completed: this pass is its last one
      · obtain ⟨lastPass, lastBlock⟩ := kept.counted.lastPass_eq more
        have block := passed.block
        rw [lastBlock] at block
        constructor
        · rw [passed.time.1, passed.time.2, lastPass]
          exact current _ (Nat.le_refl _)
        · rw [block, kept.counted.count, lastPass]

theorem TimeKept.preserved {state result : State} {event : Event} (kept : TimeKept state)
    (stepped : step state event = some result) : TimeKept result := by
  have frame : result.dws = state.dws → result.inputs = state.inputs →
      result.captures = state.captures → result.posted = state.posted → TimeKept result := by
    intro dws inputs captures posted
    refine ⟨kept.counted.frame dws inputs posted, ?_, ?_, ?_⟩
    · rw [captures, State.passes, inputs]; exact kept.earlier
    · rw [captures, State.passes, inputs, dws]; exact kept.current
    · rw [captures, posted]; exact kept.posted
  obtain ⟨_, _, passed⟩ | ⟨_, sent⟩ | elsewhere := step_cases stepped
  · exact kept.pass passed
  · have sent := sent.sent
    exact frame sent.dws sent.inputs sent.captures sent.posted
  · exact frame elsewhere.dws elsewhere.inputs elsewhere.captures elsewhere.posted

theorem reachable_timeKept {guard : State → Event → Prop} {state : State}
    (reached : Reachable step guard initial state) : TimeKept state :=
  reached.invariant TimeKept .initial fun _ _ _ kept _ stepped => kept.preserved stepped

/-! ## Order -/

/-- Before the ids wrap, the reference of a message is not after its last pass. -/
theorem Timed.corrBufferId_le {captures : List Capture} {k : Nat} {message : MsgData}
    (timed : Timed captures k message) (narrow : lastPass k < 2 ^ 64) :
    message.p.h.corrBufferId ≤ (message.p.p (Fin.last _)).bufferId := by
  rw [timed.lastId, UInt64.le_iff_toNat_le, UInt64.toNat_ofNat', Nat.mod_eq_of_lt narrow]
  obtain ⟨capture, latest, corr, _⟩ | ⟨_, corr, _⟩ := timed.reference
  · rw [corr, UInt64.toNat_ofNat', Nat.mod_eq_of_lt (latest.notAfter.trans_lt narrow)]
    exact latest.notAfter
  · rw [corr]
    exact Nat.zero_le _

/-- Before the ids wrap, the reference does not decrease from one message to a later one. -/
theorem Timed.corrBufferId_mono {captures : List Capture} {k k' : Nat} {message message' : MsgData}
    (timed : Timed captures k message) (timed' : Timed captures k' message') (le : k ≤ k')
    (narrow : lastPass k' < 2 ^ 64) :
    message.p.h.corrBufferId ≤ message'.p.h.corrBufferId := by
  have lastLe : lastPass k ≤ lastPass k' := Nat.add_le_add_right (Nat.mul_le_mul_left _ le) _
  rw [UInt64.le_iff_toNat_le]
  obtain ⟨capture, latest, corr, _⟩ | ⟨_, corr, _⟩ := timed.reference
  · obtain ⟨capture', latest', corr', _⟩ | ⟨nothing, _⟩ := timed'.reference
    · have order := latest.mono latest' lastLe
      have narrow' := latest'.notAfter.trans_lt narrow
      rw [corr, corr', UInt64.toNat_ofNat', UInt64.toNat_ofNat', Nat.mod_eq_of_lt narrow',
        Nat.mod_eq_of_lt (order.trans_lt narrow')]
      exact order
    · exact absurd nothing (latest.not_nothing lastLe)
  · rw [corr]
    exact Nat.zero_le _

/-- The pair of each posted message was captured in the latest synchronising pass up to its
last one, with the number of that pass modulo 2^64; before the ids wrap it neither exceeds the
message's last id nor decreases. -/
theorem posted_time_reference {state : State} (reached : Reachable step always initial state)
    (k : Nat) (message : MsgData) (posted : state.posted[k]? = some message) :
    Referenced state.captures (lastPass k) message.p.h.corrBufferId message.p.h.rtcValue ∧
      (lastPass k < 2 ^ 64 →
        message.p.h.corrBufferId ≤ (message.p.p (Fin.last _)).bufferId ∧
        ∀ (j : Nat) (earlier : MsgData), j ≤ k → state.posted[j]? = some earlier →
          earlier.p.h.corrBufferId ≤ message.p.h.corrBufferId) := by
  have kept := reachable_timeKept reached
  have timed := kept.posted k message posted
  refine ⟨timed.reference, fun narrow => ⟨timed.corrBufferId_le narrow, ?_⟩⟩
  intro j earlier before postedEarlier
  exact (kept.posted j earlier postedEarlier).corrBufferId_mono timed before narrow

theorem exists_synchronised (before after : Nat) : ∃ state capture,
    Reachable step always initial state ∧ state.passes = before + 1 + after ∧
      state.captures = [capture] ∧ capture.pass = before := by
  obtain ⟨first, _, reached, untouched, passes, quiet⟩ :=
    reachable_passes (.start : Reachable step always initial initial) before
      fun _ _ _ _ => trivial
  obtain ⟨flag, captures⟩ := quiet rfl
  have requested := Reachable.next reached trivial
    (show step _ (.softtimer (some 0)) = some _ from rfl)
  have elsewhere := softtimer_elsewhere (some 0) first
  have raised : (softtimer (some 0) first).statusTimeSync = 1 := by
    have requesting : first.requesting := by
      rw [State.requesting, untouched.cntSofttimerThread]
      decide
    have rssi : (softtimerRssi first).requesting ∧ (softtimerRssi first).statusTimeSync = 0 := by
      unfold softtimerRssi
      split <;> exact ⟨requesting, flag⟩
    simp only [softtimer, softtimerCount, softtimerSntp, if_pos rssi.1, sntpGetTime, rssi.2]
    decide
  have passed := threadDownsampling_passed silence (softtimer (some 0) first)
  obtain ⟨_, _, log, cleared⟩ := passed.synchronized.pending (by rw [raised]; decide)
  -- the flag is down, so the later passes capture nothing
  obtain ⟨last, _, done, _, passes', quiet'⟩ := reachable_passes
    (.next requested trivial (show step _ (.pass silence) = some _ from rfl)) after
    fun _ _ _ _ => trivial
  obtain ⟨_, captures'⟩ := quiet' (by rw [cleared, raised]; decide)
  have elapsed : (softtimer (some 0) first).passes = before := by
    rw [State.passes, elsewhere.inputs]
    exact passes.trans (Nat.zero_add before)
  rw [elsewhere.captures, captures] at log
  refine ⟨last, _, done, ?_, captures'.trans log, elapsed⟩
  rw [passes', State.passes, passed.inputs, List.length_append, List.length_singleton,
    ← State.passes, elapsed]

theorem posted_time_reference_first : ∃ state message, Reachable step always initial state ∧
    state.posted[0]? = some message ∧
      Referenced state.captures (lastPass 0) message.p.h.corrBufferId message.p.h.rtcValue ∧
      message.p.h.corrBufferId ≤ (message.p.p (Fin.last _)).bufferId := by
  obtain ⟨state, _, reached, passes, _⟩ := exists_synchronised 3 74
  have bound : 0 < state.posted.length := by
    rw [(reachable_timeKept reached).counted.posted, passes]
    decide
  have posted : state.posted[0]? = some state.posted[0] := List.getElem?_eq_getElem bound
  obtain ⟨reference, order⟩ := posted_time_reference reached 0 _ posted
  exact ⟨state, _, reached, posted, reference, (order (by decide)).1⟩

/-- Pass 2^64 is the only one that synchronises, and its number does not fit: the message that
ends 61 passes later carries 0. -/
theorem corr_buffer_id_wraps : ∃ state k message capture,
    Reachable step always initial state ∧ state.posted[k]? = some message ∧
      LatestBy Capture.pass state.captures (lastPass k) capture ∧
        message.p.h.corrBufferId.toNat ≠ capture.pass := by
  obtain ⟨state, capture, reached, passes, captures, pass⟩ := exists_synchronised (2 ^ 64) 61
  obtain ⟨k, posts⟩ : ∃ k, state.passes / dataBufferMax = k + 1 := by
    refine ⟨state.passes / dataBufferMax - 1, ?_⟩
    rw [passes]
    decide
  have bound : k < state.posted.length := by
    rw [(reachable_timeKept reached).counted.posted, posts]
    omega
  refine ⟨state, k, state.posted[k], capture, reached, List.getElem?_eq_getElem bound, ?_, ?_⟩
  · rw [captures, ← List.nil_append [capture]]
    apply latestBy_append_self
    · intro other member
      cases member
    · rw [passes] at posts
      rw [pass, lastPass]
      simp only [dataBufferMax] at posts ⊢
      omega
  · have narrow := state.posted[k].p.h.corrBufferId.toNat_lt
    omega

end PlhrFirmware.Pipeline
