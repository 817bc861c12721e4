import PlhrFirmware.Lib.Latest
import PlhrFirmware.Pipeline.Handover

/-! # What is published

A message is published as it was filled (`Faithful`) if `thread_downsampling` has not come
round to its slot again when `mqtt_publish` returns (`InTime`).  A backlog of at most
nine messages gives that at every publish; a longer stop of `send_data` does not, since the
producer has no back-pressure and the semaphore counts past the ring.
-/

namespace PlhrFirmware.Pipeline

open PlhrFirmware.Lib PlhrFirmware.Message

/-! ## Faithful messages -/

/-- The `k`-th message: its number, and for each block the id and the packing of its pass. -/
def Faithful (inputs : List DmaBuffer) (k : Nat) (message : MsgData) : Prop :=
  message.p.h.dataId = UInt32.ofNat k ∧
    ∀ i : Fin dataBufferMax, ∃ bufferDownsampling,
      inputs[dataBufferMax * k + i]? = some bufferDownsampling ∧
        message.p.p i = ⟨UInt64.ofNat (dataBufferMax * k + i), packing bufferDownsampling⟩

/-- `thread_downsampling` has not begun to refill the slot of the next message to publish. -/
def InTime (state : State) : Prop :=
  state.passes ≤ dataBufferMax * (state.published.length + nMsgDataMax)

instance (state : State) : Decidable (InTime state) := inferInstanceAs (Decidable (_ ≤ _))

theorem Faithful.append {inputs : List DmaBuffer} {k : Nat} {message : MsgData}
    (faithful : Faithful inputs k message) (bufferDownsampling : DmaBuffer) :
    Faithful (inputs ++ [bufferDownsampling]) k message := by
  refine ⟨faithful.1, fun i => ?_⟩
  obtain ⟨buffer, read, block⟩ := faithful.2 i
  have bound := (List.getElem?_eq_some_iff.mp read).1
  exact ⟨buffer, by rw [List.getElem?_append_left bound, read], block⟩

theorem Handover.filled {state : State} (handover : Handover state)
    (publishing : state.sendData.phase = .publishing) :
    dataBufferMax * (state.published.length + 1) ≤ state.passes := by
  have semaphore := handover.sending.semaphore
  rw [publishing, handover.counted.posted] at semaphore
  simp only [Phase.taken] at semaphore
  calc dataBufferMax * (state.published.length + 1)
      ≤ dataBufferMax * (state.passes / dataBufferMax) := Nat.mul_le_mul_left _ (by omega)
    _ ≤ state.passes := Nat.mul_div_le _ _

theorem Handover.faithful {state : State} (handover : Handover state)
    (publishing : state.sendData.phase = .publishing) (inTime : InTime state) :
    Faithful state.inputs state.published.length (state.msgData state.sendData.nMsgData) := by
  have filled := handover.filled publishing
  constructor
  · rw [(handover.sending.header (by rw [publishing]; trivial)).dataId, handover.sending.id]
  · intro i
    have bound := i.isLt
    have written : dataBufferMax * state.published.length + i < state.passes := by
      rw [Nat.mul_add] at filled
      omega
    -- the window of the ring reaches back to the first block of this message
    have recent : state.passes ≤
        dataBufferMax * state.published.length + i + nMsgDataMax * dataBufferMax := by
      rw [InTime, Nat.mul_add, Nat.mul_comm dataBufferMax nMsgDataMax] at inTime
      omega
    have block := handover.ring _ written recent
    rw [blockOf_mul_add _ _ bound, State.cell, ← handover.sending.slot] at block
    refine ⟨state.inputs[dataBufferMax * state.published.length + i], ?_, ?_⟩
    · exact List.getElem?_eq_getElem written
    · rw [block, blockOfPass, List.getElem?_eq_getElem written, Option.getD_some]

/-! ## Runs -/

def KeepsTime (guard : State → Event → Prop) : Prop :=
  ∀ state, Handover state → guard state .sendData → state.sendData.phase = .publishing → InTime state

/-- A step adds at most one message, when `send_data` publishes. -/
theorem published_cases {state result : State} {event : Event}
    (stepped : step state event = some result) :
    result.published = state.published ∨
      (event = .sendData ∧ state.sendData.phase = .publishing ∧ result.inputs = state.inputs ∧
        result.published = state.published ++ [state.msgData state.sendData.nMsgData]) := by
  obtain ⟨_, _, passed⟩ | ⟨sending, sent⟩ | elsewhere := step_cases stepped
  · exact .inl passed.untouched.published
  · cases sent with
    | pend | header | wait | poll | call => exact .inl rfl
    | publish publishing => exact .inr ⟨sending, publishing, rfl, rfl⟩
  · exact .inl elsewhere.published

theorem inputs_cases {state result : State} {event : Event}
    (stepped : step state event = some result) :
    result.inputs = state.inputs ∨
      ∃ bufferDownsampling, result.inputs = state.inputs ++ [bufferDownsampling] := by
  obtain ⟨bufferDownsampling, _, passed⟩ | ⟨_, sent⟩ | elsewhere := step_cases stepped
  · exact .inr ⟨bufferDownsampling, passed.inputs⟩
  · exact .inl sent.sent.inputs
  · exact .inl elsewhere.inputs

def AllFaithful (state : State) : Prop :=
  ∀ k message, state.published[k]? = some message → Faithful state.inputs k message

theorem AllFaithful.preserved {state result : State} {event : Event} (all : AllFaithful state)
    (handover : Handover state) (stepped : step state event = some result)
    (inTime : event = .sendData → state.sendData.phase = .publishing → InTime state) :
    AllFaithful result := by
  intro k message published
  obtain same | ⟨sending, publishing, inputs, log⟩ := published_cases stepped
  · rw [same] at published
    have faithful := all k message published
    obtain inputs | ⟨bufferDownsampling, inputs⟩ := inputs_cases stepped
    · rw [inputs]; exact faithful
    · rw [inputs]; exact faithful.append bufferDownsampling
  · rw [log] at published
    rw [inputs]
    obtain old | ⟨rfl, rfl⟩ := getElem?_append_singleton published
    · exact all k message old
    · exact handover.faithful publishing (inTime sending publishing)

theorem reachable_allFaithful {guard : State → Event → Prop} {state : State}
    (reached : Reachable step guard initial state) (keeps : KeepsTime guard) :
    AllFaithful state := by
  have both := reached.invariant (fun state => Handover state ∧ AllFaithful state)
    ⟨.initial, by intro k message published; simp [initial] at published⟩
    fun state event result ⟨handover, all⟩ allowed stepped =>
      ⟨handover.preserved stepped, all.preserved handover stepped fun sending publishing =>
        keeps state handover (sending ▸ allowed) publishing⟩
  exact both.2

end PlhrFirmware.Pipeline
