import PlhrFirmware.Lib.Ring
import PlhrFirmware.Pipeline.System

/-! # What a pass does

`threadDownsampling_passed` says what one pass of `thread_downsampling` changes, in terms of
the state before it: one block of one slot, the two time fields of that slot's header, its own
counters, the semaphore at the end of a message.  `Counted` ties the counters to the number of
passes in every reachable state.
-/

namespace PlhrFirmware.Pipeline

open PlhrFirmware.Lib PlhrFirmware.Message

/-- The slot and the block that the next pass fills. -/
def Dws.address (dws : Dws) : Fin nMsgDataMax × Fin dataBufferMax := (dws.nMsgData, dws.cntBufferOut)

structure Untouched (state result : State) : Prop where
  sendData : result.sendData = state.sendData
  sendDataStatus : result.sendDataStatus = state.sendDataStatus
  published : result.published = state.published
  wlanConnected : result.wlanConnected = state.wlanConnected
  reconnecting : result.reconnecting = state.reconnecting
  cntSofttimerThread : result.cntSofttimerThread = state.cntSofttimerThread

theorem Untouched.refl (state : State) : Untouched state state := ⟨rfl, rfl, rfl, rfl, rfl, rfl⟩

theorem Untouched.trans {first second third : State} (left : Untouched first second)
    (right : Untouched second third) : Untouched first third where
  sendData := right.sendData.trans left.sendData
  sendDataStatus := right.sendDataStatus.trans left.sendDataStatus
  published := right.published.trans left.published
  wlanConnected := right.wlanConnected.trans left.wlanConnected
  reconnecting := right.reconnecting.trans left.reconnecting
  cntSofttimerThread := right.cntSofttimerThread.trans left.cntSofttimerThread

/-- The synchronisation part of a pass: the time variables, the flag and the captures. -/
structure Synchronized (state result : State) : Prop where
  quiet : state.statusTimeSync = 0 → result.dws.dataBufferSync = state.dws.dataBufferSync ∧
    result.dws.timeSynchroUs = state.dws.timeSynchroUs ∧ result.captures = state.captures ∧
    result.statusTimeSync = 0
  pending : state.statusTimeSync ≠ 0 →
    result.dws.dataBufferSync = state.dws.dataBufferCount ∧
    result.dws.timeSynchroUs = timeSynchroUs state.sntpTime (clockGettime state.rtc) ∧
    result.captures = state.captures ++
      [⟨state.passes, state.sntpTime, clockGettime state.rtc, state.answered⟩] ∧
    result.statusTimeSync = timeSyncOff state.statusTimeSync

/-- The headers of the two messages differ in their time fields only. -/
def OnlyTime (message result : MsgData) : Prop :=
  result.h = message.h ∧ ∃ rtcValue corrBufferId, result.p.h =
    { message.p.h with rtcValue := rtcValue, corrBufferId := corrBufferId }

structure Passed (bufferDownsampling : DmaBuffer) (state result : State) : Prop where
  untouched : Untouched state result
  synchronized : Synchronized state result
  inputs : result.inputs = state.inputs ++ [bufferDownsampling]
  block : (result.msgData state.dws.nMsgData).p.p state.dws.cntBufferOut =
    ⟨state.dws.dataBufferCount, packing bufferDownsampling⟩
  otherBlocks : ∀ slot i, (slot, i) ≠ state.dws.address →
    (result.msgData slot).p.p i = (state.msgData slot).p.p i
  header : ∀ slot, OnlyTime (state.msgData slot) (result.msgData slot)
  time : (result.msgData state.dws.nMsgData).p.h.corrBufferId = result.dws.dataBufferSync ∧
    (result.msgData state.dws.nMsgData).p.h.rtcValue = result.dws.timeSynchroUs
  count : result.dws.dataBufferCount = state.dws.dataBufferCount + 1
  within : state.dws.cntBufferOut + 1 < dataBufferMax →
    result.dws.nMsgData = state.dws.nMsgData ∧
    result.dws.cntBufferOut.val = state.dws.cntBufferOut + 1 ∧
    result.sendDataSemaphore = state.sendDataSemaphore ∧ result.posted = state.posted
  switch : ¬ state.dws.cntBufferOut + 1 < dataBufferMax →
    result.dws.nMsgData = Fin.ofNat _ (state.dws.nMsgData + 1) ∧
    result.dws.cntBufferOut.val = 0 ∧
    result.sendDataSemaphore = state.sendDataSemaphore + 1 ∧
    result.posted = state.posted ++ [result.msgData state.dws.nMsgData]

theorem timeSynchronization_synchronized (state : State) :
    Synchronized state (timeSynchronization state) := by
  constructor <;> intro flag <;> simp [timeSynchronization, flag, State.modifySlot, State.passes]

theorem OnlyTime.refl (message : MsgData) : OnlyTime message message := ⟨rfl, _, _, rfl⟩

theorem OnlyTime.trans {first second third : MsgData} (left : OnlyTime first second)
    (right : OnlyTime second third) : OnlyTime first third := by
  obtain ⟨header, _, _, time⟩ := left
  obtain ⟨header', _, _, time'⟩ := right
  exact ⟨header'.trans header, _, _, by rw [time', time]⟩

theorem timeSynchronization_slot (state : State) (slot : Fin nMsgDataMax) :
    OnlyTime (state.msgData slot) ((timeSynchronization state).msgData slot) ∧
      ((timeSynchronization state).msgData slot).p.p = (state.msgData slot).p.p := by
  unfold timeSynchronization
  split
  · by_cases current : slot = state.dws.nMsgData
    · subst slot
      simp only [State.modifySlot, Function.update_self]
      exact ⟨⟨rfl, _, _, rfl⟩, rfl⟩
    · simp only [State.modifySlot, Function.update_of_ne current]
      exact ⟨.refl _, trivial⟩
  · exact ⟨.refl _, rfl⟩

theorem timeSynchronization_rest (state : State) :
    Untouched state (timeSynchronization state) ∧
      (timeSynchronization state).dws.nMsgData = state.dws.nMsgData ∧
      (timeSynchronization state).dws.cntBufferOut = state.dws.cntBufferOut ∧
      (timeSynchronization state).dws.dataBufferCount = state.dws.dataBufferCount ∧
      (timeSynchronization state).inputs = state.inputs ∧
      (timeSynchronization state).posted = state.posted ∧
      (timeSynchronization state).sendDataSemaphore = state.sendDataSemaphore := by
  unfold timeSynchronization
  split
  · exact ⟨⟨rfl, rfl, rfl, rfl, rfl, rfl⟩, rfl, rfl, rfl, rfl, rfl, rfl⟩
  · exact ⟨.refl state, rfl, rfl, rfl, rfl, rfl, rfl⟩

def filledMessage (bufferDownsampling : DmaBuffer) (state : State) : MsgData :=
  let message := state.msgData state.dws.nMsgData
  { message with p :=
    { h := { message.p.h with
        corrBufferId := state.dws.dataBufferSync
        rtcValue := state.dws.timeSynchroUs }
      p := Function.update message.p.p state.dws.cntBufferOut
        ⟨state.dws.dataBufferCount, packing bufferDownsampling⟩ } }

theorem fillBlock_copyTime (bufferDownsampling : DmaBuffer) (state : State) :
    fillBlock bufferDownsampling (copyTime state) = { state with
      msgData := Function.update state.msgData state.dws.nMsgData
        (filledMessage bufferDownsampling state) } := by
  simp [fillBlock, copyTime, State.modifySlot, filledMessage, packingLoop_eq,
    MsgData.setCorrBufferId, MsgData.setRtcValue, MsgData.setBlock]

/-- The counters, the semaphore and the posts after `messageSwitch`. -/
structure Switched (state result : State) : Prop where
  untouched : Untouched state result
  msgData : result.msgData = state.msgData
  inputs : result.inputs = state.inputs
  captures : result.captures = state.captures
  statusTimeSync : result.statusTimeSync = state.statusTimeSync
  dataBufferSync : result.dws.dataBufferSync = state.dws.dataBufferSync
  timeSynchroUs : result.dws.timeSynchroUs = state.dws.timeSynchroUs
  count : result.dws.dataBufferCount = state.dws.dataBufferCount + 1
  within : state.dws.cntBufferOut + 1 < dataBufferMax →
    result.dws.nMsgData = state.dws.nMsgData ∧
    result.dws.cntBufferOut.val = state.dws.cntBufferOut + 1 ∧
    result.sendDataSemaphore = state.sendDataSemaphore ∧ result.posted = state.posted
  switch : ¬ state.dws.cntBufferOut + 1 < dataBufferMax →
    result.dws.nMsgData = Fin.ofNat _ (state.dws.nMsgData + 1) ∧
    result.dws.cntBufferOut.val = 0 ∧
    result.sendDataSemaphore = state.sendDataSemaphore + 1 ∧
    result.posted = state.posted ++ [state.msgData state.dws.nMsgData]

theorem messageSwitch_switched (state : State) : Switched state (messageSwitch state) := by
  unfold messageSwitch
  by_cases more : state.dws.cntBufferOut + 1 < dataBufferMax
  · simp only [dif_pos more]
    exact ⟨⟨rfl, rfl, rfl, rfl, rfl, rfl⟩, rfl, rfl, rfl, rfl, rfl, rfl, rfl,
      fun _ => ⟨rfl, rfl, rfl, rfl⟩, fun full => absurd more full⟩
  · simp only [dif_neg more]
    exact ⟨⟨rfl, rfl, rfl, rfl, rfl, rfl⟩, rfl, rfl, rfl, rfl, rfl, rfl, rfl,
      fun room => absurd room more, fun _ => ⟨rfl, rfl, rfl, rfl⟩⟩

theorem threadDownsampling_passed (bufferDownsampling : DmaBuffer) (state : State) :
    Passed bufferDownsampling state (threadDownsampling bufferDownsampling state) := by
  have synchronized := timeSynchronization_synchronized state
  have slots := timeSynchronization_slot state
  obtain ⟨untouched, slot, block, count, inputs, posted, semaphore⟩ :=
    timeSynchronization_rest state
  have switched := messageSwitch_switched
    (fillBlock bufferDownsampling (copyTime (timeSynchronization state)))
  rw [fillBlock_copyTime] at switched
  unfold threadDownsampling
  rw [fillBlock_copyTime]
  generalize timeSynchronization state = timed at *
  generalize messageSwitch _ = result at *
  obtain ⟨after, msgData, inputs', captures, flag, sync, us, count', within, switch⟩ := switched
  simp only [slot, block, count] at msgData count' within switch
  -- the slot in use holds the filled message, the others what they held
  have current : result.msgData state.dws.nMsgData = filledMessage bufferDownsampling timed := by
    rw [msgData, Function.update_self]
  have other : ∀ slot', slot' ≠ state.dws.nMsgData →
      result.msgData slot' = timed.msgData slot' := by
    intro slot' apart
    rw [msgData, Function.update_of_ne apart]
  constructor
  case untouched => exact untouched.trans ⟨after.1, after.2, after.3, after.4, after.5, after.6⟩
  case synchronized =>
    refine ⟨fun quiet => ?_, fun pending => ?_⟩
    · have before := synchronized.quiet quiet
      exact ⟨sync.trans before.1, us.trans before.2.1, captures.trans before.2.2.1,
        flag.trans before.2.2.2⟩
    · have before := synchronized.pending pending
      exact ⟨sync.trans before.1, us.trans before.2.1, captures.trans before.2.2.1,
        flag.trans before.2.2.2⟩
  case inputs => simp only [inputs', inputs]
  case block => simp [current, filledMessage, slot, block, count]
  case otherBlocks =>
    intro slot' i apart
    rw [← (slots slot').2]
    by_cases same : slot' = state.dws.nMsgData
    · subst slot'
      have elsewhere : i ≠ state.dws.cntBufferOut := by
        rintro rfl
        exact apart rfl
      simp [current, filledMessage, slot, block, elsewhere]
    · rw [other _ same]
  case header =>
    intro slot'
    apply (slots slot').1.trans
    by_cases same : slot' = state.dws.nMsgData
    · subst slot'
      rw [current, ← slot]
      exact ⟨rfl, _, _, rfl⟩
    · show OnlyTime _ (result.msgData slot')
      rw [other _ same]
      exact .refl _
  case time => simp [current, filledMessage, sync, us]
  case count => exact count'
  case within =>
    intro more
    obtain ⟨sameSlot, next, sameSemaphore, samePosted⟩ := within more
    exact ⟨sameSlot, next, sameSemaphore.trans semaphore, samePosted.trans posted⟩
  case switch =>
    intro full
    obtain ⟨nextSlot, first, post, log⟩ := switch full
    refine ⟨nextSlot, first, by rw [post, semaphore], ?_⟩
    -- the message is posted with the block that this pass has just written
    rw [log, posted, current, Function.update_self]

/-! ## The other events -/

/-- The fields that only `thread_downsampling` and `send_data` change. -/
structure Elsewhere (state result : State) : Prop where
  msgData : result.msgData = state.msgData
  sendDataSemaphore : result.sendDataSemaphore = state.sendDataSemaphore
  dws : result.dws = state.dws
  sendData : result.sendData = state.sendData
  inputs : result.inputs = state.inputs
  captures : result.captures = state.captures
  posted : result.posted = state.posted
  published : result.published = state.published

theorem softtimer_elsewhere (answer : Option UInt64) (state : State) :
    Elsewhere state (softtimer answer state) := by
  unfold softtimer softtimerCount softtimerSntp softtimerRssi sntpGetTime
  split <;> split <;> exact ⟨rfl, rfl, rfl, rfl, rfl, rfl, rfl, rfl⟩

theorem testWifi_elsewhere (state : State) : Elsewhere state (testWifi state) := by
  unfold testWifi
  split
  · exact ⟨rfl, rfl, rfl, rfl, rfl, rfl, rfl, rfl⟩
  · split <;> exact ⟨rfl, rfl, rfl, rfl, rfl, rfl, rfl, rfl⟩

/-! ## Steps of `send_data` -/

/-- The step of each phase; the poll stays or leaves with what it reads. -/
inductive SendStep (state : State) : State → Prop where
  | pend (idle : state.sendData.phase = .pend) (posted : 0 < state.sendDataSemaphore) :
    SendStep state { state with
      sendDataSemaphore := state.sendDataSemaphore - 1
      sendData := { state.sendData with phase := .header } }
  | header (taken : state.sendData.phase = .header) :
    SendStep state { state.modifySlot state.sendData.nMsgData
        (headerFill state.idDevice state.sendData.msgDataId) with
      sendData := { state.sendData with phase := .wait, sendDataStatus := .stop } }
  | wait (waiting : state.sendData.phase = .wait) (stopped : state.sendDataStatus = .stop) :
    SendStep state { state with
      sendData := { state.sendData with phase := .wait, sendDataStatus := .stop } }
  | poll (waiting : state.sendData.phase = .wait) (started : state.sendDataStatus = .start) :
    SendStep state { state with
      sendData := { state.sendData with phase := .publish, sendDataStatus := .start } }
  | call (calling : state.sendData.phase = .publish) :
    SendStep state { state with sendData := { state.sendData with phase := .publishing } }
  | publish (publishing : state.sendData.phase = .publishing) :
    SendStep state { state with
      published := state.published ++ [state.msgData state.sendData.nMsgData]
      sendData := { state.sendData with
        phase := .pend
        msgDataId := state.sendData.msgDataId + 1
        nMsgData := Fin.ofNat _ (state.sendData.nMsgData + 1) } }

theorem SendStep.sendData {state result : State} (sendStep : SendStep state result) :
    sendData state = some result := by
  cases sendStep with
  | pend idle posted => simp [Pipeline.sendData, idle, posted]
  | header taken => simp [Pipeline.sendData, taken, State.modifySlot]
  | wait waiting stopped => simp [Pipeline.sendData, waiting, stopped]
  | poll waiting started => simp [Pipeline.sendData, waiting, started]
  | call calling => simp [Pipeline.sendData, calling]
  | publish publishing => simp [Pipeline.sendData, publishing]

theorem sendData_sendStep {state result : State} (stepped : sendData state = some result) :
    SendStep state result := by
  cases phase : state.sendData.phase with
  | pend =>
    by_cases posted : 0 < state.sendDataSemaphore
    · rw [(SendStep.pend phase posted).sendData] at stepped
      cases stepped
      exact .pend phase posted
    · simp [sendData, phase, posted] at stepped
  | header =>
    rw [(SendStep.header phase).sendData] at stepped
    cases stepped
    exact .header phase
  | wait =>
    cases status : state.sendDataStatus with
    | stop =>
      rw [(SendStep.wait phase status).sendData] at stepped
      cases stepped
      exact .wait phase status
    | start =>
      rw [(SendStep.poll phase status).sendData] at stepped
      cases stepped
      exact .poll phase status
  | publish =>
    rw [(SendStep.call phase).sendData] at stepped
    cases stepped
    exact .call phase
  | publishing =>
    rw [(SendStep.publish phase).sendData] at stepped
    cases stepped
    exact .publish phase

theorem SendStep.step {state result : State} (sendStep : SendStep state result) :
    step state .sendData = some result :=
  sendStep.sendData

structure Sent (state result : State) : Prop where
  dws : result.dws = state.dws
  inputs : result.inputs = state.inputs
  captures : result.captures = state.captures
  posted : result.posted = state.posted
  blocks : ∀ slot, (result.msgData slot).p.p = (state.msgData slot).p.p

theorem SendStep.sent {state result : State} (sendStep : SendStep state result) :
    Sent state result := by
  cases sendStep with
  | header taken =>
    refine ⟨rfl, rfl, rfl, rfl, fun slot => ?_⟩
    -- the header is filled in place, so the blocks of its slot stay
    by_cases current : slot = state.sendData.nMsgData
    · subst slot
      simp [State.modifySlot, headerFill]
    · simp [State.modifySlot, current]
  | pend | wait | poll | call | publish => exact ⟨rfl, rfl, rfl, rfl, fun _ => rfl⟩

/-- A step is a pass, a step of `send_data`, or touches nothing that these two work on. -/
theorem step_cases {state result : State} {event : Event} (stepped : step state event = some result) :
    (∃ bufferDownsampling, event = .pass bufferDownsampling ∧
        Passed bufferDownsampling state result) ∨
      (event = .sendData ∧ SendStep state result) ∨ Elsewhere state result := by
  cases event with
  | pass bufferDownsampling =>
    cases stepped
    exact .inl ⟨bufferDownsampling, rfl, threadDownsampling_passed bufferDownsampling state⟩
  | sendData => exact .inr (.inl ⟨rfl, sendData_sendStep stepped⟩)
  | softtimer answer => cases stepped; exact .inr (.inr (softtimer_elsewhere answer state))
  | testWifi => cases stepped; exact .inr (.inr (testWifi_elsewhere state))
  | wlan | elapse | assign =>
    cases stepped
    exact .inr (.inr ⟨rfl, rfl, rfl, rfl, rfl, rfl, rfl, rfl⟩)

/-! ## Counters -/

/-- The counters of `thread_downsampling` are those of the number of passes. -/
structure Counted (state : State) : Prop where
  address : state.dws.address = blockOf nMsgDataMax dataBufferMax state.passes
  count : state.dws.dataBufferCount = UInt64.ofNat state.passes
  posted : state.posted.length = state.passes / dataBufferMax

theorem Passed.passes {bufferDownsampling : DmaBuffer} {state result : State}
    (passed : Passed bufferDownsampling state result) : result.passes = state.passes + 1 := by
  simp [State.passes, passed.inputs]

theorem Counted.slot {state : State} (counted : Counted state) :
    state.dws.nMsgData.val = state.passes / dataBufferMax % nMsgDataMax :=
  congrArg (·.1.val) counted.address

theorem Counted.block {state : State} (counted : Counted state) :
    state.dws.cntBufferOut.val = state.passes % dataBufferMax :=
  congrArg (·.2.val) counted.address

theorem Passed.counted {bufferDownsampling : DmaBuffer} {state result : State}
    (passed : Passed bufferDownsampling state result) (counted : Counted state) :
    Counted result := by
  have passes := passed.passes
  have posted := counted.posted
  have next : result.dws.dataBufferCount = UInt64.ofNat result.passes := by
    rw [passed.count, counted.count, passes, UInt64.ofNat_add]
    rfl
  by_cases more : state.dws.cntBufferOut + 1 < dataBufferMax
  · obtain ⟨sameSlot, nextBlock, _, samePosted⟩ := passed.within more
    rw [counted.block] at more nextBlock
    obtain ⟨quotient, remainder⟩ := succ_div_within more
    refine ⟨Prod.ext (Fin.ext ?_) (Fin.ext ?_), next, ?_⟩
    · simp only [Dws.address, blockOf, sameSlot, counted.slot, passes, quotient, Fin.ofNat]
    · simp only [Dws.address, blockOf, nextBlock, passes, remainder, Fin.ofNat]
    · rw [samePosted, posted, passes, quotient]
  · obtain ⟨nextSlot, first, _, log⟩ := passed.switch more
    rw [counted.block] at more
    obtain ⟨quotient, remainder⟩ := succ_div_switch (by decide) more
    refine ⟨Prod.ext (Fin.ext ?_) (Fin.ext ?_), next, ?_⟩
    · simp only [Dws.address, blockOf, nextSlot, counted.slot, passes, quotient, Fin.ofNat,
        Nat.mod_add_mod]
    · simp only [Dws.address, blockOf, first, passes, remainder, Fin.ofNat]
    · rw [log, List.length_append, posted, passes, quotient, List.length_singleton]

theorem Counted.frame {state result : State} (counted : Counted state)
    (dws : result.dws = state.dws) (inputs : result.inputs = state.inputs)
    (posted : result.posted = state.posted) : Counted result := by
  obtain ⟨address, count, posts⟩ := counted
  exact ⟨by rw [dws, address, State.passes, State.passes, inputs],
    by rw [dws, count, State.passes, State.passes, inputs],
    by rw [posted, posts, State.passes, State.passes, inputs]⟩

theorem Counted.initial : Counted initial := ⟨rfl, rfl, rfl⟩

theorem Counted.preserved {state result : State} {event : Event} (counted : Counted state)
    (stepped : step state event = some result) : Counted result := by
  obtain ⟨_, _, passed⟩ | ⟨_, sending⟩ | elsewhere := step_cases stepped
  · exact passed.counted counted
  · have sent := sending.sent
    exact counted.frame sent.dws sent.inputs sent.posted
  · exact counted.frame elsewhere.dws elsewhere.inputs elsewhere.posted

end PlhrFirmware.Pipeline
