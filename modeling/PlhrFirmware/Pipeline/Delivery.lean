import PlhrFirmware.Pipeline.Runs

/-! # Delivery with a small backlog, and after an outage

With at most nine messages posted and not yet published, every message is published as it was
filled.  After an outage of `send_data` of any length the messages are still consecutive and
distinct as long as every `mqtt_publish` returns before the slot of its message is refilled; one
that returns later mixes two turns of the ring.
-/

namespace PlhrFirmware.Pipeline

open PlhrFirmware.Lib PlhrFirmware.Message

/-! ## A backlog of at most nine messages -/

/-- Posts of `send_data_semaphore` minus completed publishes never exceed nine. -/
def SmallBacklog (state : State) (_ : Event) : Prop :=
  state.posted.length ≤ state.published.length + (nMsgDataMax - 1)

theorem SmallBacklog.keepsTime : KeepsTime SmallBacklog := by
  intro state handover backlog _
  rw [SmallBacklog, handover.counted.posted] at backlog
  have complete := Nat.lt_mul_div_succ state.passes (show 0 < dataBufferMax by decide)
  calc state.passes
      ≤ dataBufferMax * (state.passes / dataBufferMax + 1) := complete.le
    _ ≤ dataBufferMax * (state.published.length + nMsgDataMax) := Nat.mul_le_mul_left _ (by
        simp only [nMsgDataMax] at backlog ⊢
        omega)

/-- Each published message carries its number and the blocks of its own 78 passes; the ids
are those of the passes modulo 2^64. -/
theorem published_faithful {state : State} (reached : Reachable step SmallBacklog initial state)
    (k : Nat) (message : MsgData) (published : state.published[k]? = some message) :
    Faithful state.inputs k message :=
  reachable_allFaithful reached SmallBacklog.keepsTime k message published

theorem exists_clean_smallBacklog (count : Nat) : ∃ state, Clean SmallBacklog state count := by
  apply exists_clean
  intro middle event _ tight
  have := tight.1
  simp only [SmallBacklog, nMsgDataMax]
  omega

theorem published_faithful_first : ∃ state message, Reachable step SmallBacklog initial state ∧
    state.published[0]? = some message ∧ Faithful state.inputs 0 message := by
  obtain ⟨state, clean⟩ := exists_clean_smallBacklog 1
  have bound : 0 < state.published.length := by rw [clean.published]; exact Nat.one_pos
  have published : state.published[0]? = some state.published[0] := List.getElem?_eq_getElem _
  exact ⟨state, _, clean.reached, published, published_faithful clean.reached 0 _ published⟩

/-- After 2^64 passes `buffer_id` starts again at 0, so it is not the index of the pass. -/
theorem buffer_id_wraps :
    ¬ ∀ state, Reachable step SmallBacklog initial state →
      ∀ (k : Nat) (message : MsgData), state.published[k]? = some message →
        ∀ i : Fin dataBufferMax, (message.p.p i).bufferId.toNat = dataBufferMax * k + i := by
  intro literal
  obtain ⟨state, clean⟩ := exists_clean_smallBacklog (2 ^ 58 + 1)
  have bound : 2 ^ 58 < state.published.length := by rw [clean.published]; omega
  -- message 2^58 begins with block 78 * 2^58, which is not below 2^64
  have same := literal state clean.reached _ _ (List.getElem?_eq_getElem bound) 0
  have narrow := (state.published[2 ^ 58].p.p 0).bufferId.toNat_lt
  simp only [dataBufferMax, Fin.val_zero] at same
  omega

/-! ## After an outage -/

/-- No `mqtt_publish` returns once the slot of its message is being refilled, nor after the ids have
wrapped. -/
def NotOverrun (state : State) (event : Event) : Prop :=
  event = .sendData → state.sendData.phase = .publishing → InTime state ∧ state.passes ≤ 2 ^ 64

def Consecutive (message : MsgData) : Prop :=
  ∀ i : Fin dataBufferMax,
    (message.p.p i).bufferId.toNat = (message.p.p 0).bufferId.toNat + i

/-- Every published message is of one generation, and no id is published twice. -/
structure NoDuplication (state : State) : Prop where
  consecutive : ∀ (k : Nat) (message : MsgData), state.published[k]? = some message →
    Consecutive message
  distinct : ∀ (k k' : Nat) (message message' : MsgData), state.published[k]? = some message →
    state.published[k']? = some message' → k ≠ k' →
      ∀ i i', (message.p.p i).bufferId ≠ (message'.p.p i').bufferId

theorem Faithful.bufferId {inputs : List DmaBuffer} {k : Nat} {message : MsgData}
    (faithful : Faithful inputs k message) (bound : dataBufferMax * (k + 1) ≤ 2 ^ 64)
    (i : Fin dataBufferMax) : (message.p.p i).bufferId.toNat = dataBufferMax * k + i := by
  obtain ⟨_, _, block⟩ := faithful.2 i
  have small := i.isLt
  rw [Nat.mul_add_one] at bound
  rw [block, UInt64.toNat_ofNat']
  exact Nat.mod_eq_of_lt (by omega)

theorem reachable_published_le {state : State} (reached : Reachable step NotOverrun initial state) :
    dataBufferMax * state.published.length ≤ 2 ^ 64 := by
  have both := reached.invariant
    (fun state => Handover state ∧ dataBufferMax * state.published.length ≤ 2 ^ 64)
    ⟨.initial, by decide⟩ (by
      intro state event result ⟨handover, small⟩ notOverrun stepped
      refine ⟨handover.preserved stepped, ?_⟩
      obtain same | ⟨sending, publishing, _, log⟩ := published_cases stepped
      · rw [same]; exact small
      · rw [log, List.length_append, List.length_singleton]
        exact (handover.filled publishing).trans (notOverrun sending publishing).2)
  exact both.2

theorem outage_noDuplication {state : State} (reached : Reachable step NotOverrun initial state) :
    NoDuplication state := by
  have faithful := reachable_allFaithful reached fun _ _ notOverrun publishing =>
    (notOverrun rfl publishing).1
  have small := reachable_published_le reached
  have bufferId : ∀ (k : Nat) (message : MsgData), state.published[k]? = some message →
      ∀ i : Fin dataBufferMax, (message.p.p i).bufferId.toNat = dataBufferMax * k + i := by
    intro k message published
    have bound := (List.getElem?_eq_some_iff.mp published).1
    exact (faithful k message published).bufferId
      ((Nat.mul_le_mul_left _ (Nat.succ_le_of_lt bound)).trans small)
  constructor
  · intro k message published i
    rw [bufferId k message published, bufferId k message published, Fin.val_zero, Nat.add_zero]
  · intro k k' message message' published published' apart i i' same
    have values := congrArg UInt64.toNat same
    rw [bufferId k message published, bufferId k' message' published'] at values
    -- the slot number is the quotient by 78
    have quotient := congrArg (· / dataBufferMax) values
    simp only [Nat.mul_add_div (show 0 < dataBufferMax by decide), Nat.div_eq_of_lt i.isLt,
      Nat.div_eq_of_lt i'.isLt, Nat.add_zero] at quotient
    exact apart quotient

/-- A posted message of a run with few passes is published. -/
theorem reachable_publish_few {state : State} (reached : Reachable step NotOverrun initial state)
    (idle : state.sendData.phase = .pend) (started : state.sendDataStatus = .start)
    (unpublished : state.published.length < state.passes / dataBufferMax)
    (few : state.passes ≤ dataBufferMax * nMsgDataMax) :
    ∃ result, Reachable step NotOverrun initial result ∧ result.sendData.phase = .pend ∧
      result.sendDataStatus = .start ∧ result.inputs = state.inputs ∧
      result.published.length = state.published.length + 1 := by
  refine reachable_publish reached idle ?_ started ?_
  · have semaphore := (reachable_handover reached).sending.semaphore
    rw [(reachable_handover reached).counted.posted, idle] at semaphore
    simp only [Phase.taken] at semaphore
    omega
  · intro middle _ inputs _ _ _
    rw [InTime, State.passes, inputs]
    rw [State.passes] at few
    simp only [dataBufferMax, nMsgDataMax] at few ⊢
    omega

/-- Sending is started and stopped again, 156 passes are made, and two messages are published when
it is started the next time. -/
theorem outage_noDuplication_two : ∃ stopped state, Reachable step NotOverrun initial stopped ∧
    stopped.sendDataStatus = .stop ∧ stopped.published = [] ∧ stopped.passes = 156 ∧
    Reachable step NotOverrun initial state ∧ state.inputs = stopped.inputs ∧
    state.published.length = 2 ∧ NoDuplication state := by
  have quiet : ∀ state event, event ≠ .sendData → NotOverrun state event :=
    fun _ _ other sending => absurd sending other
  obtain ⟨lost, reached, idle, stop, reconnecting, unpublished, none⟩ : ∃ lost,
      Reachable step NotOverrun initial lost ∧ lost.sendData.phase = .pend ∧
      lost.sendDataStatus = .stop ∧ lost.reconnecting = true ∧ lost.published = [] ∧ lost.passes = 0 := by
    refine ⟨_, .of_exec [.wlan true, .testWifi, .wlan false, .testWifi] (.of_forall ?_) rfl,
      rfl, rfl, rfl, rfl, rfl⟩
    intro event member state
    exact quiet state event (by rintro rfl; simp at member)
  obtain ⟨stopped, _, filled, untouched, passes, _⟩ := reachable_passes reached 156
    fun middle _ _ _ => quiet middle _ (by simp)
  rw [none] at passes
  have empty : stopped.published = [] := untouched.published.trans unpublished
  -- `test_wifi` leaves its waiting loop, and starts the sending in its next iteration
  obtain ⟨enabled, resumed, sendData, started, inputs, nothing⟩ : ∃ enabled,
      Reachable step NotOverrun initial enabled ∧ enabled.sendData = stopped.sendData ∧
      enabled.sendDataStatus = .start ∧ enabled.inputs = stopped.inputs ∧ enabled.published = [] := by
    have connected := Reachable.next filled (quiet _ _ (by simp))
      (show step _ (.wlan true) = some _ from rfl)
    have left : step { stopped with wlanConnected := true } .testWifi =
        some { stopped with wlanConnected := true, reconnecting := false } := by
      simp [step, testWifi, untouched.reconnecting, reconnecting, testWifiConnection]
    have next : step { stopped with wlanConnected := true, reconnecting := false } .testWifi =
        some { stopped with wlanConnected := true, reconnecting := false, sendDataStatus := .start } := by
      simp [step, testWifi, testWifiConnection]
    have both := Reachable.next (Reachable.next connected (quiet _ _ (by simp)) left)
      (quiet _ _ (by simp)) next
    exact ⟨_, both, rfl, rfl, rfl, empty⟩
  have all : enabled.passes = 156 := (congrArg List.length inputs).trans passes
  have pend : enabled.sendData.phase = .pend := by rw [sendData, untouched.sendData, idle]
  obtain ⟨first, sent, again, status, inputs', one⟩ := reachable_publish_few resumed pend started
    (by rw [nothing, all]; decide) (by rw [all]; decide)
  rw [nothing] at one
  have same : first.passes = 156 := (congrArg List.length inputs').trans all
  obtain ⟨state, twice, _, _, inputs'', two⟩ := reachable_publish_few sent again status
    (by rw [one, same]; decide) (by rw [same]; decide)
  exact ⟨stopped, state, filled, untouched.sendDataStatus.trans stop, empty, passes, twice,
    inputs''.trans (inputs'.trans inputs), two.trans (congrArg (· + 1) one), outage_noDuplication twice⟩

/-- Sending is stopped until 780 passes have been made: `mqtt_publish` is called for the message
whose header was filled after the first 78. -/
theorem exists_called : ∃ state, Reachable step always initial state ∧
    state.sendData.phase = .publishing ∧ state.published = [] ∧ state.passes = 780 := by
  obtain ⟨posted, _, filled, untouched, passes, _⟩ :=
    reachable_passes (.start : Reachable step always initial initial) 78 fun _ _ _ _ => trivial
  have semaphore : 0 < posted.sendDataSemaphore := by
    have handover := reachable_handover filled
    have semaphore := handover.sending.semaphore
    rw [handover.counted.posted, passes, untouched.published, untouched.sendData] at semaphore
    exact Nat.lt_of_lt_of_eq Nat.one_pos semaphore.symm
  -- the message is taken and its header filled while sending is stopped
  have taken := Reachable.next filled trivial
    (SendStep.step (.pend (by rw [untouched.sendData]; rfl) semaphore))
  have waiting := Reachable.next taken trivial (show step _ .sendData = some _ from rfl)
  obtain ⟨full, _, stalled, stopped, passes', _⟩ :=
    reachable_passes waiting 702 fun _ _ _ _ => trivial
  have phase : full.sendData.phase = .wait := by rw [stopped.sendData]
  have reconnecting : full.reconnecting = false := by
    rw [stopped.reconnecting]
    exact untouched.reconnecting
  have unpublished : full.published = [] := by
    rw [stopped.published]
    exact untouched.published
  -- the connection comes back, the poll reads `start`, and `mqtt_publish` is called
  have connected := Reachable.next stalled trivial (show step _ (.wlan true) = some _ from rfl)
  have enabled : step { full with wlanConnected := true } .testWifi =
      some { full with wlanConnected := true, sendDataStatus := .start } := by
    simp [step, testWifi, reconnecting, testWifiConnection]
  have polled := Reachable.next (Reachable.next connected trivial enabled) trivial
    (SendStep.step (.poll phase rfl))
  have called := Reachable.next polled trivial (SendStep.step (.call rfl))
  exact ⟨_, called, rfl, unpublished, passes'.trans (congrArg (· + 702) passes)⟩

/-- One more pass while `mqtt_publish` waits, and the message that is published has the id of pass
780 in its first block and that of pass 1 in its second. -/
theorem outage_mixes_generations : ∃ called state message, Reachable step always initial called ∧
    called.sendData.phase = .publishing ∧ InTime called ∧
    exec step called [.pass silence, .sendData] = some state ∧
    state.published[0]? = some message ∧ (message.p.p 0).bufferId = 780 ∧
      (message.p.p 1).bufferId = 1 ∧ ¬ NoDuplication state := by
  obtain ⟨called, reached, publishing, unpublished, passes⟩ := exists_called
  have inTime : InTime called := by
    rw [InTime, passes, unpublished]
    decide
  obtain ⟨full, ran, filled, untouched, more, _⟩ := reachable_passes reached 1 fun _ _ _ _ => trivial
  have publishing' : full.sendData.phase = .publishing := by rw [untouched.sendData, publishing]
  have unpublished' : full.published = [] := untouched.published.trans unpublished
  rw [passes] at more
  obtain ⟨_, ring, ⟨slot, _⟩⟩ := reachable_handover filled
  have first := congrArg DataBuffer.bufferId (ring 780 (by omega) (by rw [more]; decide))
  have second := congrArg DataBuffer.bufferId (ring 1 (by omega) (by rw [more]; decide))
  rw [unpublished'] at slot
  obtain ⟨state, sent, published⟩ : ∃ state, step full .sendData = some state ∧
      state.published = full.published ++ [full.msgData full.sendData.nMsgData] :=
    ⟨_, SendStep.step (.publish publishing'), rfl⟩
  have one : state.published[0]? = some (full.msgData 0) := by
    rw [published, unpublished', slot]
    rfl
  refine ⟨called, state, full.msgData 0, reached, publishing, inTime, ?_, one, first, second, ?_⟩
  · rw [show [Event.pass silence, .sendData] = List.replicate 1 (.pass silence) ++ [.sendData] from rfl,
      exec_append, ran, Option.bind_some, exec_cons sent]
    rfl
  intro noDuplication
  have next := noDuplication.consecutive 0 (full.msgData 0) one 1
  rw [show ((full.msgData 0).p.p 0).bufferId = 780 from first,
    show ((full.msgData 0).p.p 1).bufferId = 1 from second] at next
  exact absurd next (by decide)

end PlhrFirmware.Pipeline
