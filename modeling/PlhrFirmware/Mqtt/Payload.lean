import PlhrFirmware.Lib.Layout
import PlhrFirmware.Mqtt.Framing

/-! # What a payload says

The structures of `msg_structs.h` as layouts.  A payload is read as they lie: the operation of the
header tells a data message from a command, and the command its variant of the union.
-/

namespace PlhrFirmware.Mqtt

open PlhrFirmware.Lib PlhrFirmware.Message PlhrFirmware.Pipeline

/-! ## Layouts -/

def msgHeaderLayout : Layout MsgHeader :=
  (Layout.byte.pair (Layout.byte.pair Layout.uint16)).map
    { toFun := fun header => (header.idDevice, header.msgOp, header.msgSize)
      invFun := fun fields => ⟨fields.1, fields.2.1, fields.2.2⟩
      left_inv := fun _ => rfl
      right_inv := fun _ => rfl }

def dataHeaderLayout : Layout DataHeader :=
  (Layout.uint32.pair (Layout.uint16.pair (Layout.uint16.pair (Layout.uint64.pair Layout.uint64)))).map
    { toFun := fun header => (header.dataId, header.bufferSize, header.dataBufferNum, header.rtcValue,
        header.corrBufferId)
      invFun := fun fields => ⟨fields.1, fields.2.1, fields.2.2.1, fields.2.2.2.1, fields.2.2.2.2⟩
      left_inv := fun _ => rfl
      right_inv := fun _ => rfl }

def dataBufferLayout : Layout DataBuffer :=
  (Layout.uint64.pair (Layout.memory dataBufferL)).map
    { toFun := fun buffer => (buffer.bufferId, buffer.p)
      invFun := fun fields => ⟨fields.1, fields.2⟩
      left_inv := fun _ => rfl
      right_inv := fun _ => rfl }

def msgDataLayout : Layout MsgData :=
  (msgHeaderLayout.pair (dataHeaderLayout.pair (dataBufferLayout.array dataBufferMax))).map
    { toFun := fun message => (message.h, message.p.h, message.p.p)
      invFun := fun fields => ⟨fields.1, fields.2.1, fields.2.2⟩
      left_inv := fun _ => rfl
      right_inv := fun _ => rfl }

def cmdLayout {Variant : Type} (variant : Layout Variant) : Layout (MsgHeader × UInt16 × Variant) :=
  msgHeaderLayout.pair (Layout.uint16.pair variant)

structure CmdReady where
  macAddr : Memory sizeMacAddr
  timePerSample : UInt64
  deriving DecidableEq, Repr

def cmdReadyLayout : Layout CmdReady :=
  ((Layout.memory sizeMacAddr).pair Layout.uint64).map
    { toFun := fun ready => (ready.macAddr, ready.timePerSample)
      invFun := fun fields => ⟨fields.1, fields.2⟩
      left_inv := fun _ => rfl
      right_inv := fun _ => rfl }

def int16Layout : Layout Int16 :=
  Layout.uint16.map
    { toFun := Int16.toUInt16
      invFun := UInt16.toInt16
      left_inv := fun _ => rfl
      right_inv := fun _ => rfl }

structure CmdRssi where
  avgDataCtrlRssi : Int16
  avgMsgMntRssi : Int16
  rcvFcsErrPktNum : UInt32
  deriving DecidableEq

def cmdRssiLayout : Layout CmdRssi :=
  (int16Layout.pair (int16Layout.pair Layout.uint32)).map
    { toFun := fun rssi => (rssi.avgDataCtrlRssi, rssi.avgMsgMntRssi, rssi.rcvFcsErrPktNum)
      invFun := fun fields => ⟨fields.1, fields.2.1, fields.2.2⟩
      left_inv := fun _ => rfl
      right_inv := fun _ => rfl }

/-! ## Contents -/

inductive Content where
  | data (message : MsgData)
  | ready (cmdReady : CmdReady)
  | rssi (idDevice : UInt8) (cmdRssi : CmdRssi)

/-- A payload, read with the structures; an operation or a command that the device does not send is
nothing. -/
def readPayload (payload : List UInt8) : Option Content :=
  let h := msgHeaderLayout.read payload
  let cmdId := Layout.uint16.read (payload.drop sizeofMsgHeader)
  if h.msgOp = MsgOp.data.code then some (.data (msgDataLayout.read payload))
  else if h.msgOp ≠ MsgOp.cmd.code then none
  else if cmdId = CmdEnum.cmdReady.code then some (.ready ((cmdLayout cmdReadyLayout).read payload).2.2)
  else if cmdId = CmdEnum.cmdRssiStatus.code then
    some (.rssi h.idDevice ((cmdLayout cmdRssiLayout).read payload).2.2)
  else none

def SlDeviceGetStat.cmdRssi (rssiStatus : SlDeviceGetStat) : CmdRssi :=
  ⟨rssiStatus.avarageDataCtrlRssi, rssiStatus.avarageMgMntRssi, rssiStatus.receivedValidPacketsNumber⟩

def content (builder : Builder) (device : Device) (stack : Stack) : Content :=
  match builder with
  | .sendData => .data (device.system.msgData device.system.sendData.nMsgData)
  | .sendRssi => .rssi device.system.idDevice.toUInt8 (device.driver.stored.getD stack.rssiStatus).cmdRssi
  | .askForId => .ready ⟨device.macAddress, timePerSample⟩

section Reading

variable {Variant : Type} {variant : Layout Variant} {message : MsgData} {value : Variant}
  {idDevice cmdLen : UInt16} {cmdId : CmdEnum}

theorem bytes_eq (message : MsgData) : message.bytes = msgDataLayout.bytes message := by
  simp only [MsgData.bytes, MsgHeader.bytes, DataPayload.bytes, DataHeader.bytes, List.append_assoc]
  rfl

theorem headerBytes_eq (idDevice cmdLen : UInt16) (cmdId : CmdEnum) (value : Variant) :
    headerBytes idDevice cmdLen cmdId ++ variant.bytes value = (cmdLayout variant).bytes
      (⟨idDevice.toUInt8, MsgOp.cmd.code, cmdLen⟩, cmdId.code, value) := rfl

theorem readPayload_data (op : message.h.msgOp = MsgOp.data.code) :
    readPayload message.bytes = some (.data message) := by
  have header : msgHeaderLayout.read message.bytes = message.h := by
    rw [MsgData.bytes]
    exact msgHeaderLayout.read_bytes message.h message.p.bytes
  have whole : msgDataLayout.read message.bytes = message := by
    rw [bytes_eq, ← List.append_nil (msgDataLayout.bytes message), Layout.read_bytes]
  rw [readPayload, header, if_pos op, whole]

/-- The headers of a command, whatever follows them. -/
theorem read_header (idDevice cmdLen : UInt16) (cmdId : CmdEnum) (rest : List UInt8) :
    msgHeaderLayout.read (headerBytes idDevice cmdLen cmdId ++ rest) =
      ⟨idDevice.toUInt8, MsgOp.cmd.code, cmdLen⟩ :=
  msgHeaderLayout.read_bytes ⟨idDevice.toUInt8, MsgOp.cmd.code, cmdLen⟩
    (leBytes 2 cmdId.code.toNat ++ rest)

theorem read_cmdId (idDevice cmdLen : UInt16) (cmdId : CmdEnum) (rest : List UInt8) :
    Layout.uint16.read ((headerBytes idDevice cmdLen cmdId ++ rest).drop sizeofMsgHeader) = cmdId.code :=
  Layout.uint16.read_bytes cmdId.code rest

theorem read_variant (idDevice cmdLen : UInt16) (cmdId : CmdEnum) (value : Variant) (rest : List UInt8) :
    (cmdLayout variant).read (headerBytes idDevice cmdLen cmdId ++ (variant.bytes value ++ rest)) =
      (⟨idDevice.toUInt8, MsgOp.cmd.code, cmdLen⟩, cmdId.code, value) := by
  rw [← List.append_assoc, headerBytes_eq, Layout.read_bytes]

theorem readPayload_ready (cmdReady : CmdReady) (rest : List UInt8) :
    readPayload (headerBytes idDevice cmdLen .cmdReady ++ (cmdReadyLayout.bytes cmdReady ++ rest)) =
      some (.ready cmdReady) := by
  simp only [readPayload, read_header, read_cmdId, read_variant]
  rfl

theorem readPayload_rssi (cmdRssi : CmdRssi) (rest : List UInt8) :
    readPayload (headerBytes idDevice cmdLen .cmdRssiStatus ++ (cmdRssiLayout.bytes cmdRssi ++ rest)) =
      some (.rssi idDevice.toUInt8 cmdRssi) := by
  simp only [readPayload, read_header, read_cmdId, read_variant]
  rfl

theorem readyBytes_eq (macAddress : Memory sizeMacAddr) :
    readyBytes macAddress = headerBytes 255 readyCmdLen .cmdReady ++
      (cmdReadyLayout.bytes ⟨macAddress, timePerSample⟩ ++ []) := by
  rw [readyBytes, List.append_nil, List.append_assoc]
  rfl

theorem rssiBytes_eq (idDevice : UInt16) (rssiStatus : SlDeviceGetStat) :
    rssiBytes idDevice rssiStatus =
      headerBytes idDevice rssiCmdLen .cmdRssiStatus ++ cmdRssiLayout.bytes rssiStatus.cmdRssi := by
  rw [rssiBytes, List.append_assoc]
  rfl

end Reading

/-! ## Round trip -/

/-- Every payload that the device hands to `mqtt_publish`, read with the structures, is what its
builder has put into it, whatever was on the stack. -/
theorem payload_read {device : Device} {stack : Stack} {builder : Builder} {publication : Publication}
    (reached : Reachable step always initial device.system)
    (handed : publication ∈ (output builder device stack).publications) :
    readPayload publication.payload = some (content builder device stack) := by
  cases builder with
  | sendData =>
    cases phase : device.system.sendData.phase with
    | pend | header | wait | publish => simp [output, sendDataOutput, phase] at handed
    | publishing =>
      simp only [output, sendDataOutput, phase, List.mem_singleton] at handed
      have headed := (reachable_handover reached).sending.header (by rw [phase]; trivial)
      have whole : (device.system.msgData device.system.sendData.nMsgData).bytes.take
          (UInt16.ofNat sizeofMsgData).toNat =
            (device.system.msgData device.system.sendData.nMsgData).bytes :=
        List.take_of_length_le (by rw [MsgData.bytes_length]; decide)
      rw [handed, handOver, whole, readPayload_data headed.msgOp]
      rfl
  | sendRssi =>
    rw [output, sendRssi_publications] at handed
    rw [List.mem_singleton.mp handed, rssiBytes_eq, List.append_assoc, readPayload_rssi]
    rfl
  | askForId =>
    rw [output, askForId_publications] at handed
    obtain ⟨_, _, rfl⟩ := List.mem_map.mp handed
    rw [readyBytes_eq, readPayload_ready]
    rfl

/-- The report of a device whose stack is not zero. -/
theorem payload_read_rssi : ∃ publication ∈ (output .sendRssi reportingDevice (uniformStack 7)).publications,
    readPayload publication.payload = some (.rssi 0 ⟨-52, -61, 1200⟩) := by
  obtain ⟨publication, handed⟩ : ∃ publication,
      publication ∈ (output .sendRssi reportingDevice (uniformStack 7)).publications := ⟨_, .head _⟩
  exact ⟨publication, handed, payload_read .start handed⟩

end PlhrFirmware.Mqtt
