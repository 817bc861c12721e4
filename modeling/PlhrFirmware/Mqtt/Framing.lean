import PlhrFirmware.Mqtt.Topic
import PlhrFirmware.Pipeline.Delivery

/-! # What the device hands to `mqtt_publish`

The three message builders: `send_data`, `send_rssi` and `ask_for_id`.  The last two fill a
`msg_cmd_t` on their stack field by field, so a builder also gets the initial contents of its
stack.  `Framed` is the framing law: `msg_size` is the length passed, and no byte of the stack
that the builder did not write is sent.
-/

namespace PlhrFirmware.Mqtt

open PlhrFirmware.Lib PlhrFirmware.Message PlhrFirmware.Pipeline

/-! ## Builders -/

structure Publication where
  typePublish : UInt16
  payload : List UInt8
  len : UInt16
  deriving DecidableEq, Repr

def handOver (type : PublishType) (object : List UInt8) (len : UInt16) : Publication :=
  ⟨type.code, object.take len.toNat, len⟩

/-- The fields of `SlDeviceGetStat_t` that are sent. -/
structure SlDeviceGetStat where
  receivedValidPacketsNumber : UInt32
  avarageDataCtrlRssi : Int16
  avarageMgMntRssi : Int16
  deriving DecidableEq

/-- The result of `sl_DeviceStatGet`, and what it stored, if it stored anything. -/
structure DeviceStatGet where
  ret : Int
  stored : Option SlDeviceGetStat
  deriving DecidableEq

/-- The objects that `send_rssi` and `ask_for_id` find on their stacks. -/
structure Stack where
  rssiStatus : SlDeviceGetStat
  msgCmdRssiStatus : Memory sizeofMsgCmd
  msgCmd : Memory sizeofMsgCmd
  deriving DecidableEq

structure Output where
  errors : List String
  publications : List Publication
  deriving DecidableEq

/-- `send_data` in a state of the threads: the message that it has handed over, as the slot is when
`mqtt_publish` reads it. -/
def sendDataOutput (state : State) : Output :=
  match state.sendData.phase with
  | .publishing =>
    ⟨[], [handOver .data (state.msgData state.sendData.nMsgData).bytes (UInt16.ofNat sizeofMsgData)]⟩
  | .pend | .header | .wait | .publish => ⟨[], []⟩

def setHeaders (idDevice cmdLen : UInt16) (cmdId : CmdEnum) (msgCmd : Memory sizeofMsgCmd) :
    Memory sizeofMsgCmd :=
  let msgCmd := msgCmd.put 0 [idDevice.toUInt8]
  let msgCmd := msgCmd.put 1 [MsgOp.cmd.code]
  let msgCmd := msgCmd.put 2 (leBytes 2 cmdLen.toNat)
  msgCmd.put sizeofMsgHeader (leBytes 2 cmdId.code.toNat)

def rssiCmdLen : UInt16 := UInt16.ofNat (sizeofCmdRssi + sizeofCmdHeader + sizeofMsgHeader)

def readyCmdLen : UInt16 := UInt16.ofNat (sizeofCmdReady + sizeofCmdHeader + sizeofMsgHeader)

def offsetCmdType : Nat := sizeofMsgHeader + sizeofCmdHeader

/-- A failed `sl_DeviceStatGet` is reported, and the message is built and sent all the same. -/
def sendRssi (idDevice : UInt16) (driver : DeviceStatGet) (stack : Stack) : Output :=
  let rssiStatus := driver.stored.getD stack.rssiStatus
  let msg := setHeaders idDevice rssiCmdLen .cmdRssiStatus stack.msgCmdRssiStatus
  let msg := msg.put offsetCmdType (leBytes 2 rssiStatus.avarageDataCtrlRssi.toUInt16.toNat)
  let msg := msg.put (offsetCmdType + 2) (leBytes 2 rssiStatus.avarageMgMntRssi.toUInt16.toNat)
  let msg := msg.put (offsetCmdType + 4) (leBytes 4 rssiStatus.receivedValidPacketsNumber.toNat)
  { errors := if driver.ret < 0 then [s!"ERROR:{driver.ret}\tfail to get rssi status!!"] else []
    publications := [handOver .cmd msg.toList (UInt16.ofNat sizeofMsgCmd)] }

def fSample : Nat := 62500

def dwsRate : Nat := 8

/-- The `^` of the source is the exclusive or. -/
def timePerSample : UInt64 := UInt64.ofNat (1 / (fSample / dwsRate) * 10 ^^^ 9)

/-- `ask_for_id`; `idReads` is what its loop reads from `id_device`, once for each round and
once to leave the loop. -/
def askForId (macAddress : Memory sizeMacAddr) (idReads : List UInt16) (stack : Stack) : Output :=
  let msg := setHeaders 255 readyCmdLen .cmdReady stack.msgCmd
  let msg := msg.put offsetCmdType macAddress.toList
  let msg := msg.put (offsetCmdType + sizeMacAddr) (leBytes 8 timePerSample.toNat)
  { errors := []
    publications := (idReads.takeWhile (· = 255)).map fun _ =>
      handOver .cmdDefaultId msg.toList readyCmdLen }

/-! ## The framing law -/

inductive Builder where
  | sendData
  | sendRssi
  | askForId
  deriving DecidableEq, Repr

/-- The state of the threads and the globals, and what the builders read from outside. -/
structure Device where
  system : State
  macAddress : Memory sizeMacAddr
  driver : DeviceStatGet
  idReads : List UInt16

def output (builder : Builder) (device : Device) (stack : Stack) : Output :=
  match builder with
  | .sendData => sendDataOutput device.system
  | .sendRssi => sendRssi device.system.idDevice device.driver stack
  | .askForId => askForId device.macAddress device.idReads stack

/-- The header field `msg_size` is the length that is passed. -/
def Sized (builder : Builder) (device : Device) : Prop :=
  ∀ stack, ∀ publication ∈ (output builder device stack).publications,
    msgSizeField publication.payload = publication.len.toNat

/-- Two executions that differ in the contents of the stack publish the same. -/
def Initialized (builder : Builder) (device : Device) : Prop :=
  ∀ stack stack', (output builder device stack).publications =
    (output builder device stack').publications

def Framed (builder : Builder) (device : Device) : Prop :=
  Sized builder device ∧ Initialized builder device

/-! ## `send_data` -/

/-- `send_data` publishes what it hands over. -/
theorem sendData_output {state result : State} (stepped : Pipeline.sendData state = some result) :
    result.published.map (fun message => handOver .data message.bytes (UInt16.ofNat sizeofMsgData)) =
      state.published.map
          (fun message => handOver .data message.bytes (UInt16.ofNat sizeofMsgData)) ++
        (sendDataOutput state).publications := by
  cases sendData_sendStep stepped with
  | pend phase | wait phase | poll phase | call phase | publish phase => simp [sendDataOutput, phase]
  | header phase => simp [sendDataOutput, phase, State.modifySlot]

theorem sendData_framed {device : Device} (handover : Handover device.system) :
    Framed .sendData device := by
  refine ⟨?_, fun _ _ => rfl⟩
  intro stack publication handed
  cases phase : device.system.sendData.phase with
  | pend | header | wait | publish => simp [output, sendDataOutput, phase] at handed
  | publishing =>
    simp only [output, sendDataOutput, phase, List.mem_singleton] at handed
    subst publication
    have headed := handover.sending.header (by rw [phase]; trivial)
    -- the whole message is passed, with the size that its header was filled with
    have whole : (device.system.msgData device.system.sendData.nMsgData).bytes.take
        (UInt16.ofNat sizeofMsgData).toNat =
          (device.system.msgData device.system.sendData.nMsgData).bytes :=
      List.take_of_length_le (by rw [MsgData.bytes_length]; decide)
    simp only [handOver]
    rw [whole, MsgData.msgSizeField_bytes, headed.msgSize]

/-! ## The command messages -/

def headerBytes (idDevice cmdLen : UInt16) (cmdId : CmdEnum) : List UInt8 :=
  [idDevice.toUInt8] ++ [MsgOp.cmd.code] ++ leBytes 2 cmdLen.toNat ++ leBytes 2 cmdId.code.toNat

theorem setHeaders_filled (idDevice cmdLen : UInt16) (cmdId : CmdEnum)
    (msgCmd : Memory sizeofMsgCmd) :
    Filled msgCmd (setHeaders idDevice cmdLen cmdId msgCmd) (headerBytes idDevice cmdLen cmdId) := by
  have id := (Filled.nil msgCmd).put 0 [idDevice.toUInt8] rfl (show 1 ≤ sizeofMsgCmd by decide)
  have op := id.put 1 [MsgOp.cmd.code] rfl (show 2 ≤ sizeofMsgCmd by decide)
  have size := op.put 2 (leBytes 2 cmdLen.toNat) rfl (by rw [leBytes_length]; decide)
  exact size.put sizeofMsgHeader (leBytes 2 cmdId.code.toNat) rfl (by rw [leBytes_length]; decide)

theorem headerBytes_length (idDevice cmdLen : UInt16) (cmdId : CmdEnum) :
    (headerBytes idDevice cmdLen cmdId).length = offsetCmdType := rfl

/-- Whatever follows the headers. -/
theorem headerBytes_msgSize (idDevice cmdLen : UInt16) (cmdId : CmdEnum) (rest : List UInt8) :
    msgSizeField (headerBytes idDevice cmdLen cmdId ++ rest) = cmdLen.toNat := by
  have field : slice (headerBytes idDevice cmdLen cmdId ++ rest) 2 2 = leBytes 2 cmdLen.toNat := rfl
  rw [msgSizeField, field, leValue_leBytes]
  exact Nat.mod_eq_of_lt cmdLen.toNat_lt

def readyBytes (macAddress : Memory sizeMacAddr) : List UInt8 :=
  headerBytes 255 readyCmdLen .cmdReady ++ macAddress.toList ++ leBytes 8 timePerSample.toNat

theorem askForId_publications (macAddress : Memory sizeMacAddr) (idReads : List UInt16)
    (stack : Stack) :
    (askForId macAddress idReads stack).publications = (idReads.takeWhile (· = 255)).map fun _ =>
      ⟨PublishType.cmdDefaultId.code, readyBytes macAddress, readyCmdLen⟩ := by
  have headers := setHeaders_filled 255 readyCmdLen .cmdReady stack.msgCmd
  have mac := headers.put offsetCmdType macAddress.toList (headerBytes_length ..)
    (by rw [Vector.length_toList]; decide)
  have time := mac.put (offsetCmdType + sizeMacAddr) (leBytes 8 timePerSample.toNat)
    (by rw [List.length_append, headerBytes_length, Vector.length_toList])
    (by rw [leBytes_length]; decide)
  have length : (readyBytes macAddress).length = readyCmdLen.toNat := by
    simp only [readyBytes, List.length_append, headerBytes_length, Vector.length_toList,
      leBytes_length]
    decide
  have sent := time.take length
  simp only [askForId, handOver, sent, readyBytes]

theorem askForId_framed (device : Device) : Framed .askForId device := by
  constructor
  · intro stack publication handed
    rw [output, askForId_publications] at handed
    obtain ⟨_, _, rfl⟩ := List.mem_map.mp handed
    rw [readyBytes, List.append_assoc, headerBytes_msgSize]
  · intro stack stack'
    rw [output, output, askForId_publications, askForId_publications]

def rssiBytes (idDevice : UInt16) (rssiStatus : SlDeviceGetStat) : List UInt8 :=
  headerBytes idDevice rssiCmdLen .cmdRssiStatus ++
    (leBytes 2 rssiStatus.avarageDataCtrlRssi.toUInt16.toNat ++
      leBytes 2 rssiStatus.avarageMgMntRssi.toUInt16.toNat ++
      leBytes 4 rssiStatus.receivedValidPacketsNumber.toNat)

/-- `send_rssi` passes the size of the whole union: the bytes behind the status are those of
the stack, and after a failure of the driver the status is too. -/
theorem sendRssi_publications (idDevice : UInt16) (driver : DeviceStatGet) (stack : Stack) :
    (sendRssi idDevice driver stack).publications = [⟨PublishType.cmd.code,
      rssiBytes idDevice (driver.stored.getD stack.rssiStatus) ++
        stack.msgCmdRssiStatus.toList.drop rssiCmdLen.toNat, UInt16.ofNat sizeofMsgCmd⟩] := by
  generalize status : driver.stored.getD stack.rssiStatus = rssiStatus
  have headers := setHeaders_filled idDevice rssiCmdLen .cmdRssiStatus stack.msgCmdRssiStatus
  have control := headers.put offsetCmdType
    (leBytes 2 rssiStatus.avarageDataCtrlRssi.toUInt16.toNat) (headerBytes_length ..)
    (by rw [leBytes_length]; decide)
  have management := control.put (offsetCmdType + 2)
    (leBytes 2 rssiStatus.avarageMgMntRssi.toUInt16.toNat)
    (by rw [List.length_append, headerBytes_length, leBytes_length]) (by rw [leBytes_length]; decide)
  have packets := management.put (offsetCmdType + 4)
    (leBytes 4 rssiStatus.receivedValidPacketsNumber.toNat)
    (by simp only [List.length_append, headerBytes_length, leBytes_length])
    (by rw [leBytes_length]; decide)
  -- the union is not written to its end: the rest of the image is that of the stack
  have image := packets
  rw [Filled] at image
  simp only [sendRssi, handOver, status]
  rw [List.take_of_length_le (by rw [Vector.length_toList]; decide), image]
  simp only [List.append_assoc, rssiBytes]
  rfl

def uniformStack (byte : UInt8) : Stack :=
  ⟨⟨0, 0, 0⟩, Vector.replicate _ byte, Vector.replicate _ byte⟩

theorem sendRssi_not_sized (device : Device) : ¬ Sized .sendRssi device := by
  intro sized
  have field := sized (uniformStack 0)
  simp only [output, sendRssi_publications, List.forall_mem_singleton, rssiBytes,
    List.append_assoc, headerBytes_msgSize] at field
  exact absurd field (by decide)

/-- Also when the driver succeeds: the eight bytes behind the status are never written. -/
theorem sendRssi_not_initialized (device : Device) : ¬ Initialized .sendRssi device := by
  intro initialized
  have same := initialized (uniformStack 0) (uniformStack 1)
  simp only [output, sendRssi_publications, List.cons.injEq, Publication.mk.injEq, and_true,
    true_and] at same
  obtain ⟨_, rest⟩ := List.append_inj same rfl
  exact absurd rest (by decide)

/-- The framing law holds of `send_data` and `ask_for_id` in every reachable state, and of
`send_rssi` in none. -/
theorem framed_iff {device : Device} (builder : Builder)
    (reached : Reachable step always initial device.system) :
    Framed builder device ↔ builder ≠ .sendRssi := by
  cases builder with
  | sendData => simp [sendData_framed (reachable_handover reached)]
  | sendRssi => simp [Framed, sendRssi_not_sized device]
  | askForId => simp [askForId_framed device]

theorem framed_iff_publishing : ∃ device, device.system.sendData.phase = .publishing ∧
    Framed .sendData device := by
  obtain ⟨state, reached, publishing, _⟩ := exists_called
  let device : Device := ⟨state, Vector.replicate _ 0, ⟨0, none⟩, []⟩
  exact ⟨device, publishing, (@framed_iff device .sendData reached).mpr (by decide)⟩

def reportingDevice : Device := ⟨initial, Vector.replicate _ 0, ⟨0, some ⟨1200, -52, -61⟩⟩, []⟩

/-- The status message says 14 bytes and is passed with 22, and the last eight are the stack. -/
theorem rssi_sends_stack :
    (output .sendRssi reportingDevice (uniformStack 7)).publications.map
        (fun publication => (msgSizeField publication.payload, publication.len,
          publication.payload.drop 14)) =
      [(14, 22, List.replicate 8 7)] ∧
      ¬ Framed .sendRssi reportingDevice := by
  constructor
  · rw [output, sendRssi_publications]
    decide
  · intro framed
    exact sendRssi_not_sized _ framed.1

end PlhrFirmware.Mqtt
