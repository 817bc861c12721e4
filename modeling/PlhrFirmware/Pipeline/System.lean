import PlhrFirmware.Lib.Reachable
import PlhrFirmware.Pipeline.Downsampling

/-! # The threads around the message ring

`thread_downsampling`, `send_data`, `softtimer` and `test_wifi` as one event-driven system.
A pass of `thread_downsampling` and an iteration of `softtimer` or `test_wifi` is one event;
`send_data` takes one event for each of its phases: the pend, the header, every poll of
`send_data_status`, the call of `mqtt_publish` and the end of that call.  The events carry what
the environment decides: the samples of a buffer, the answer of the NTP server, the time that
elapses, the state of the WLAN, the id that the server assigns.
-/

namespace PlhrFirmware.Pipeline

open PlhrFirmware.Lib PlhrFirmware.Message

/-! ## State -/

inductive SendDataStatus where
  | stop
  | start
  deriving DecidableEq, Repr

/-- The variables of `thread_downsampling`; `ptr_msg_data` is the slot `nMsgData`. -/
structure Dws where
  cntBufferOut : Fin dataBufferMax
  nMsgData : Fin nMsgDataMax
  dataBufferCount : UInt64
  dataBufferSync : UInt64
  timeSynchroUs : UInt64
  deriving DecidableEq, Repr

/-- `send_data` before each of its steps.  In `publishing` it is in `mqtt_publish`, which has the
address of the slot and waits for `moduleMutex` and for `MQTTClient_mutex` before it reads. -/
inductive Phase where
  | pend
  | header
  | wait
  | publish
  | publishing
  deriving DecidableEq, Repr

/-- The variables of `send_data` and the point of its loop that it has reached. -/
structure SendData where
  phase : Phase
  msgDataId : UInt32
  nMsgData : Fin nMsgDataMax
  sendDataStatus : SendDataStatus
  deriving DecidableEq, Repr

/-- What a synchronising pass read: the index of the pass, the timestamp and the RTC, and
whether the request that left the timestamp had succeeded. -/
structure Capture where
  pass : Nat
  timeSynchro : UInt64
  rtcTimer : Timespec
  answered : Bool
  deriving DecidableEq, Repr

/-- The globals, the threads' variables, and what happened so far. -/
structure State where
  msgData : Fin nMsgDataMax → MsgData
  sendDataSemaphore : Nat
  sendDataStatus : SendDataStatus
  statusTimeSync : UInt64
  sntpTime : UInt64
  rtc : Nat
  idDevice : UInt16
  wlanConnected : Bool
  dws : Dws
  sendData : SendData
  cntSofttimerThread : Int64
  reconnecting : Bool
  answered : Bool
  rssiSent : List Int64
  inputs : List DmaBuffer
  captures : List Capture
  posted : List MsgData
  published : List MsgData

def State.passes (state : State) : Nat := state.inputs.length

inductive Event where
  | pass (bufferDownsampling : DmaBuffer)
  | sendData
  | softtimer (answer : Option UInt64)
  | testWifi
  | wlan (connected : Bool)
  | elapse (nanoseconds : Nat)
  | assign (id : UInt16)

/-! ## `thread_downsampling` -/

def State.modifySlot (state : State) (slot : Fin nMsgDataMax) (change : MsgData → MsgData) :
    State :=
  { state with msgData := Function.update state.msgData slot (change (state.msgData slot)) }

/-- `clock_gettime` on the RTC, which counts nanoseconds. -/
def clockGettime (rtc : Nat) : Timespec :=
  ⟨UInt64.ofNat (rtc / secondsToNseconds), UInt64.ofNat (rtc % secondsToNseconds)⟩

/-- Clearing the flag copies the two bytes of `time_sync_off`. -/
def timeSyncOff (statusTimeSync : UInt64) : UInt64 := statusTimeSync &&& ~~~0xFFFF

def timeSynchronization (state : State) : State :=
  if state.statusTimeSync ≠ 0 then
    let rtcTimer := clockGettime state.rtc
    let value := timeSynchroUs state.sntpTime rtcTimer
    -- the id of the current message; `copyTime` writes it again, and the time
    let state := state.modifySlot state.dws.nMsgData (.setCorrBufferId state.dws.dataBufferCount)
    { state with
      dws := { state.dws with
        timeSynchroUs := value
        dataBufferSync := state.dws.dataBufferCount }
      statusTimeSync := timeSyncOff state.statusTimeSync
      captures := state.captures ++ [⟨state.passes, state.sntpTime, rtcTimer, state.answered⟩] }
  else state

def copyTime (state : State) : State :=
  (state.modifySlot state.dws.nMsgData (.setCorrBufferId state.dws.dataBufferSync)).modifySlot
    state.dws.nMsgData (.setRtcValue state.dws.timeSynchroUs)

def fillBlock (bufferDownsampling : DmaBuffer) (state : State) : State :=
  state.modifySlot state.dws.nMsgData fun message =>
    message.setBlock state.dws.cntBufferOut
      { bufferId := state.dws.dataBufferCount
        p := packingLoop bufferDownsampling (message.p.p state.dws.cntBufferOut).p }

/-- The counters at the end of a pass, and the switch to the next message. -/
def messageSwitch (state : State) : State :=
  let dws := { state.dws with dataBufferCount := state.dws.dataBufferCount + 1 }
  if more : state.dws.cntBufferOut + 1 < dataBufferMax then
    { state with dws := { dws with cntBufferOut := ⟨state.dws.cntBufferOut + 1, more⟩ } }
  else
    { state with
      dws := { dws with cntBufferOut := 0, nMsgData := Fin.ofNat _ (state.dws.nMsgData + 1) }
      sendDataSemaphore := state.sendDataSemaphore + 1
      posted := state.posted ++ [state.msgData state.dws.nMsgData] }

def threadDownsampling (bufferDownsampling : DmaBuffer) (state : State) : State :=
  let state := messageSwitch (fillBlock bufferDownsampling (copyTime (timeSynchronization state)))
  { state with inputs := state.inputs ++ [bufferDownsampling] }

/-! ## `send_data` -/

/-- The header fields of a data message; `id_device` is copied as two bytes, over `id_device`
and `msg_op`, before `msg_op` is set. -/
def headerFill (idDevice : UInt16) (msgDataId : UInt32) (message : MsgData) : MsgData :=
  { h :=
      { idDevice := idDevice.toUInt8
        msgOp := MsgOp.data.code
        msgSize := UInt16.ofNat sizeofMsgData }
    p := { message.p with
      h := { message.p.h with
        dataBufferNum := UInt16.ofNat dataBufferMax
        bufferSize := UInt16.ofNat sizeofDataBuffer
        dataId := msgDataId } } }

/-- The next step of `send_data`; it waits while the semaphore is 0. -/
def sendData (state : State) : Option State :=
  match state.sendData.phase with
  | .pend =>
    if 0 < state.sendDataSemaphore then
      some { state with
        sendDataSemaphore := state.sendDataSemaphore - 1
        sendData := { state.sendData with phase := .header } }
    else none
  | .header =>
    let state := state.modifySlot state.sendData.nMsgData
      (headerFill state.idDevice state.sendData.msgDataId)
    some { state with sendData := { state.sendData with phase := .wait, sendDataStatus := .stop } }
  | .wait =>
    -- one poll of the status that `test_wifi` sets
    some { state with sendData := { state.sendData with
      sendDataStatus := state.sendDataStatus
      phase := if state.sendDataStatus = .stop then .wait else .publish } }
  | .publish => some { state with sendData := { state.sendData with phase := .publishing } }
  | .publishing =>
    -- what the slot holds by now is sent
    some { state with
      published := state.published ++ [state.msgData state.sendData.nMsgData]
      sendData := { state.sendData with
        phase := .pend
        msgDataId := state.sendData.msgDataId + 1
        nMsgData := Fin.ofNat _ (state.sendData.nMsgData + 1) } }

/-! ## `softtimer` and `test_wifi` -/

abbrev secondsToSendRssi : Int64 := 4

abbrev secondsToNtpSync : Int64 := 1800

def testWifiConnection (state : State) : Int := if state.wlanConnected then 1 else 0

/-- Raising the flag copies the four bytes of a pointer's size of `time_sync_on`. -/
def timeSyncOn (statusTimeSync : UInt64) : UInt64 := (statusTimeSync &&& ~~~0xFFFFFFFF) ||| 1

/-- A request that fails leaves the timestamp at 0; the RTC is reset either way. -/
def sntpGetTime (answer : Option UInt64) (state : State) : UInt64 × State :=
  (answer.getD 0, { state with rtc := 0, answered := answer.isSome })

def State.requesting (state : State) : Prop := state.cntSofttimerThread % secondsToNtpSync = 0

instance (state : State) : Decidable state.requesting := inferInstanceAs (Decidable (_ = _))

def softtimerRssi (state : State) : State :=
  -- the connection test gives 0 when there is no connection
  if state.cntSofttimerThread % secondsToSendRssi = 0 ∧ testWifiConnection state = 0 then
    { state with rssiSent := state.rssiSent ++ [state.cntSofttimerThread] }
  else state

def softtimerSntp (answer : Option UInt64) (state : State) : State :=
  if state.requesting then
    let (synchroTime, state) := sntpGetTime answer state
    { state with sntpTime := synchroTime, statusTimeSync := timeSyncOn state.statusTimeSync }
  else state

def softtimerCount (state : State) : State :=
  { state with cntSofttimerThread := state.cntSofttimerThread + 1 }

def softtimer (answer : Option UInt64) (state : State) : State :=
  softtimerCount (softtimerSntp answer (softtimerRssi state))

def testWifi (state : State) : State :=
  if state.reconnecting then
    { state with reconnecting := testWifiConnection state = 0 }
  else if testWifiConnection state = 1 then
    { state with sendDataStatus := .start }
  else
    { state with sendDataStatus := .stop, reconnecting := true }

/-! ## Interleaving -/

def step (state : State) : Event → Option State
  | .pass bufferDownsampling => some (threadDownsampling bufferDownsampling state)
  | .sendData => sendData state
  | .softtimer answer => some (softtimer answer state)
  | .testWifi => some (testWifi state)
  | .wlan connected => some { state with wlanConnected := connected }
  | .elapse nanoseconds => some { state with rtc := state.rtc + nanoseconds }
  | .assign id => some { state with idDevice := id }

/-- The state in which `mainThread` starts the threads. -/
def initial : State :=
  { msgData := fun _ => .zero
    sendDataSemaphore := 0
    sendDataStatus := .stop
    statusTimeSync := 0
    sntpTime := 0
    rtc := 0
    idDevice := 0
    wlanConnected := false
    dws := ⟨0, 0, 0, 0, 0⟩
    sendData := ⟨.pend, 0, 0, .stop⟩
    cntSofttimerThread := 0
    reconnecting := false
    answered := true
    rssiSent := []
    inputs := []
    captures := []
    posted := []
    published := [] }

end PlhrFirmware.Pipeline
