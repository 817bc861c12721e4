import PlhrFirmware.Pipeline.Pass

/-! # The hand-over of messages through the ring

`thread_downsampling` fills the slots of `msg_data` in turn and never waits for `send_data`,
which takes them in the same order, one for each post of the semaphore.  `Handover` holds in
every reachable state: the ring holds the last 780 blocks, and `send_data` works on the slot
and with the id of the next message to publish.  What is published is then right exactly as
long as the producer has not come round to that slot again (`InTime`).
-/

namespace PlhrFirmware.Pipeline

open PlhrFirmware.Lib PlhrFirmware.Message

/-! ## The invariant -/

def blockOfPass (inputs : List DmaBuffer) (p : Nat) : DataBuffer :=
  ⟨UInt64.ofNat p, packing (inputs[p]?.getD fun _ => 0)⟩

def State.cell (state : State) (index : Fin nMsgDataMax × Fin dataBufferMax) : DataBuffer :=
  (state.msgData index.1).p.p index.2

/-- Messages taken from the semaphore and not yet published. -/
def Phase.taken : Phase → Nat
  | .pend => 0
  | .header | .wait | .publish | .publishing => 1

/-- The header of the message has been filled. -/
def Phase.Filled : Phase → Prop
  | .pend | .header => False
  | .wait | .publish | .publishing => True

/-- `send_data` has filled the header of the message: filling it again would change nothing. -/
def Headed (msgDataId : UInt32) (message : MsgData) : Prop :=
  ∃ idDevice, headerFill idDevice msgDataId message = message

theorem Headed.onlyTime {msgDataId : UInt32} {message result : MsgData}
    (headed : Headed msgDataId message) (onlyTime : OnlyTime message result) :
    Headed msgDataId result := by
  obtain ⟨idDevice, filled⟩ := headed
  obtain ⟨header, rtcValue, corrBufferId, time⟩ := onlyTime
  have h : (headerFill idDevice msgDataId result).h = result.h := by
    have fixed : (headerFill idDevice msgDataId message).h = message.h := by rw [filled]
    rw [header, ← fixed, headerFill, headerFill]
  -- `headerFill` writes neither time field, so it keeps the new ones
  have dataHeader : (headerFill idDevice msgDataId result).p.h = result.p.h := by
    have fixed : (headerFill idDevice msgDataId message).p.h = message.p.h := by rw [filled]
    simp only [headerFill, time] at fixed ⊢
    rw [← fixed]
  refine ⟨idDevice, ?_⟩
  calc headerFill idDevice msgDataId result
      = ⟨(headerFill idDevice msgDataId result).h,
          ⟨(headerFill idDevice msgDataId result).p.h, result.p.p⟩⟩ := rfl
    _ = result := by rw [h, dataHeader]

theorem headerFill_headed (idDevice : UInt16) (msgDataId : UInt32) (message : MsgData) :
    Headed msgDataId (headerFill idDevice msgDataId message) := ⟨idDevice, rfl⟩

theorem Headed.dataId {msgDataId : UInt32} {message : MsgData}
    (headed : Headed msgDataId message) : message.p.h.dataId = msgDataId := by
  obtain ⟨_, filled⟩ := headed
  rw [← filled, headerFill]

theorem Headed.msgSize {msgDataId : UInt32} {message : MsgData}
    (headed : Headed msgDataId message) : message.h.msgSize = UInt16.ofNat sizeofMsgData := by
  obtain ⟨_, filled⟩ := headed
  rw [← filled, headerFill]

theorem Headed.msgOp {msgDataId : UInt32} {message : MsgData}
    (headed : Headed msgDataId message) : message.h.msgOp = MsgOp.data.code := by
  obtain ⟨_, filled⟩ := headed
  rw [← filled, headerFill]

structure Sending (state : State) : Prop where
  slot : state.sendData.nMsgData = Fin.ofNat _ state.published.length
  id : state.sendData.msgDataId = UInt32.ofNat state.published.length
  semaphore : state.sendDataSemaphore + state.published.length + state.sendData.phase.taken =
    state.posted.length
  header : state.sendData.phase.Filled →
    Headed state.sendData.msgDataId (state.msgData state.sendData.nMsgData)

structure Handover (state : State) : Prop where
  counted : Counted state
  ring : Holds (blockOf nMsgDataMax dataBufferMax) (nMsgDataMax * dataBufferMax) state.cell
    (blockOfPass state.inputs) state.passes
  sending : Sending state

theorem Handover.initial : Handover initial where
  counted := .initial
  ring := .zero
  sending := ⟨rfl, rfl, rfl, False.elim⟩

theorem blockOfPass_append (inputs : List DmaBuffer) (bufferDownsampling : DmaBuffer) :
    (∀ p < inputs.length, blockOfPass (inputs ++ [bufferDownsampling]) p = blockOfPass inputs p) ∧
      blockOfPass (inputs ++ [bufferDownsampling]) inputs.length =
        ⟨UInt64.ofNat inputs.length, packing bufferDownsampling⟩ := by
  constructor
  · intro p old
    simp [blockOfPass, List.getElem?_append_left old]
  · simp [blockOfPass]

theorem Handover.pass {state result : State} {bufferDownsampling : DmaBuffer}
    (handover : Handover state) (passed : Passed bufferDownsampling state result) :
    Handover result := by
  obtain ⟨counted, ring, sending⟩ := handover
  have address := counted.address
  have appended := blockOfPass_append state.inputs bufferDownsampling
  rw [← passed.inputs] at appended
  refine ⟨passed.counted counted, ?_, ?_⟩
  · rw [passed.passes]
    apply (ring.congr (fun _ => rfl) appended.1).write window_blockOf
    · rw [← address, State.cell]
      simp only [Dws.address]
      rw [passed.block, counted.count]
      exact appended.2.symm
    · intro index apart
      exact passed.otherBlocks _ _ (address ▸ apart)
  · obtain ⟨slot, id, semaphore, header⟩ := sending
    have sendData := passed.untouched.sendData
    have published := passed.untouched.published
    refine ⟨by rw [sendData, published, slot], by rw [sendData, published, id], ?_, ?_⟩
    · rw [sendData, published]
      by_cases more : state.dws.cntBufferOut + 1 < dataBufferMax
      · obtain ⟨_, _, same, samePosted⟩ := passed.within more
        rw [same, samePosted, semaphore]
      -- a completed message is one post more
      · obtain ⟨_, _, post, log⟩ := passed.switch more
        rw [post, log, List.length_append, List.length_singleton]
        omega
    · rw [sendData]
      intro filled
      exact (header filled).onlyTime (passed.header _)

theorem Sending.sendStep {state result : State} (sending : Sending state)
    (sent : SendStep state result) : Sending result := by
  obtain ⟨slot, id, semaphore, header⟩ := sending
  cases sent with
  | pend idle posted =>
    refine ⟨slot, id, ?_, False.elim⟩
    simp only [idle, Phase.taken] at semaphore ⊢
    omega
  | header taken =>
    refine ⟨slot, id, by rw [taken] at semaphore; exact semaphore, fun _ => ?_⟩
    simp only [State.modifySlot, Function.update_self]
    exact headerFill_headed ..
  | wait phase | poll phase | call phase =>
    -- neither a poll nor the call moves a message
    rw [phase] at semaphore header
    exact ⟨slot, id, semaphore, header⟩
  | publish publishing =>
    refine ⟨?_, ?_, ?_, False.elim⟩
    · simp [slot, Fin.ofNat]
    · simp [id]
    · simp only [publishing, Phase.taken, List.length_append, List.length_singleton] at semaphore ⊢
      omega

theorem Handover.preserved {state result : State} {event : Event} (handover : Handover state)
    (stepped : step state event = some result) : Handover result := by
  obtain ⟨_, _, passed⟩ | ⟨_, sent⟩ | elsewhere := step_cases stepped
  · exact handover.pass passed
  · obtain ⟨counted, ring, sending⟩ := handover
    have kept := sent.sent
    refine ⟨counted.preserved stepped, ?_, sending.sendStep sent⟩
    rw [State.passes, kept.inputs]
    exact ring.congr (fun index => by rw [State.cell, State.cell, kept.blocks]) fun _ _ => rfl
  · obtain ⟨counted, ring, ⟨slot, id, semaphore, header⟩⟩ := handover
    refine ⟨counted.preserved stepped, ?_, ?_⟩
    · rw [State.passes, elsewhere.inputs]
      exact ring.congr (fun index => by rw [State.cell, State.cell, elsewhere.msgData])
        fun _ _ => rfl
    · refine ⟨?_, ?_, ?_, ?_⟩
      · rw [elsewhere.sendData, elsewhere.published, slot]
      · rw [elsewhere.sendData, elsewhere.published, id]
      · rw [elsewhere.sendDataSemaphore, elsewhere.published, elsewhere.sendData,
          elsewhere.posted, semaphore]
      · rw [elsewhere.sendData, elsewhere.msgData]
        exact header

theorem reachable_handover {guard : State → Event → Prop} {state : State}
    (reached : Reachable step guard initial state) : Handover state :=
  reached.invariant Handover .initial fun _ _ _ handover _ stepped => handover.preserved stepped

end PlhrFirmware.Pipeline
