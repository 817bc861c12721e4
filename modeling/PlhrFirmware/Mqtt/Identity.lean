import PlhrFirmware.Mqtt.Command
import PlhrFirmware.Mqtt.Framing

/-! # The identity that the server assigns

`cmd_zero` takes a 16-bit id.  Every later message carries it twice: in the header, where
`id_device` has one byte, and in decimal at the end of its topic.
-/

namespace PlhrFirmware.Mqtt

open PlhrFirmware.Lib PlhrFirmware.Message PlhrFirmware.Pipeline

/-! ## The id that is accepted last -/

/-- Payloads that reach `cmd_zero` one after another. -/
def deliver (macAddress : Memory sizeMacAddr) : List (List UInt8) → UInt16 → Except Fault UInt16
  | [], idDevice => .ok idDevice
  | payload :: payloads, idDevice => do
    let idDevice ← cmdZero macAddress (received payload) idDevice
    deliver macAddress payloads idDevice

/-- The id of a stored id response of the server to this device. -/
def acceptedId (macAddress : Memory sizeMacAddr) (p : List UInt8) : Option UInt16 :=
  if ServerCommand p ∧ IsRespId p ∧ (respId p).macAddr = macAddress.toList then
    some (respId p).cmdRespId
  else none

def lastAccepted (macAddress : Memory sizeMacAddr) : List (List UInt8) → Option UInt16
  | [] => none
  | payload :: payloads =>
    (lastAccepted macAddress payloads).or (acceptedId macAddress (received payload))

theorem cmdZero_acceptedId {macAddress : Memory sizeMacAddr} {p : List UInt8}
    {idDevice result : UInt16} (parsed : cmdZero macAddress p idDevice = .ok result) :
    result = (acceptedId macAddress p).getD idDevice := by
  by_cases header : sizeofMsgHeader ≤ p.length
  · by_cases command : ServerCommand p
    · rw [cmdZero_command header command] at parsed
      by_cases cmdHeader : offsetCmdHeader + sizeofCmdHeader ≤ p.length
      · by_cases isRespId : IsRespId p
        · by_cases whole : offsetCmdRespId + sizeofCmdRespId ≤ p.length
          · rw [cmdZeroCmd_respId cmdHeader isRespId whole] at parsed
            cases parsed
            by_cases mine : (respId p).macAddr = macAddress.toList
            · simp [acceptedId, command, isRespId, mine]
            · simp [acceptedId, mine]
          · rw [cmdZeroCmd_truncated cmdHeader isRespId whole] at parsed
            cases parsed
        · rw [cmdZeroCmd_other cmdHeader isRespId] at parsed
          cases parsed
          simp [acceptedId, isRespId]
      · rw [cmdZeroCmd_short cmdHeader] at parsed
        cases parsed
    · rw [cmdZero_ignored header command] at parsed
      cases parsed
      simp [acceptedId, command]
  · rw [cmdZero_short header] at parsed
    cases parsed

theorem deliver_lastAccepted {macAddress : Memory sizeMacAddr} {payloads : List (List UInt8)}
    {idDevice result : UInt16} (delivered : deliver macAddress payloads idDevice = .ok result) :
    result = (lastAccepted macAddress payloads).getD idDevice := by
  induction payloads generalizing idDevice with
  | nil => cases delivered; rfl
  | cons payload payloads inductionHypothesis =>
    rw [deliver] at delivered
    cases parsed : cmdZero macAddress (received payload) idDevice with
    | error fault => rw [parsed, error_bind] at delivered; cases delivered
    | ok next =>
      rw [parsed, ok_bind] at delivered
      rw [inductionHypothesis delivered, cmdZero_acceptedId parsed, lastAccepted]
      cases lastAccepted macAddress payloads <;> simp

/-! ## Messages built afterwards -/

def unassigned (_ : State) : Event → Prop
  | .assign _ => False
  | _ => True

/-- `send_data` works with the id `v`: the header that it has filled holds the low byte. -/
structure Assigned (v : UInt16) (state : State) : Prop where
  idDevice : state.idDevice = v
  header : state.sendData.phase.Filled →
    (state.msgData state.sendData.nMsgData).h.idDevice = v.toUInt8 ∧
      (state.msgData state.sendData.nMsgData).h.msgOp = MsgOp.data.code

theorem step_idDevice {state result : State} {event : Event} (kept : unassigned state event)
    (stepped : step state event = some result) : result.idDevice = state.idDevice := by
  cases event with
  | assign id => exact kept.elim
  | pass bufferDownsampling =>
    cases stepped
    unfold threadDownsampling messageSwitch
    rw [fillBlock_copyTime]
    unfold timeSynchronization
    split <;> split <;> rfl
  | sendData =>
    have sent := sendData_sendStep stepped
    cases sent <;> rfl
  | softtimer answer =>
    cases stepped
    unfold softtimer softtimerCount softtimerSntp softtimerRssi sntpGetTime
    split <;> split <;> rfl
  | testWifi =>
    cases stepped
    unfold testWifi
    split
    · rfl
    · split <;> rfl
  | wlan connected | elapse nanoseconds => cases stepped; rfl

theorem Assigned.preserved {v : UInt16} {state result : State} {event : Event}
    (assigned : Assigned v state) (kept : unassigned state event)
    (stepped : step state event = some result) : Assigned v result := by
  have idDevice := (step_idDevice kept stepped).trans assigned.idDevice
  obtain ⟨_, _, passed⟩ | ⟨_, sent⟩ | elsewhere := step_cases stepped
  · refine ⟨idDevice, ?_⟩
    rw [passed.untouched.sendData, (passed.header _).1]
    exact assigned.header
  · cases sent with
    | pend => exact ⟨idDevice, False.elim⟩
    | header taken =>
      refine ⟨idDevice, fun _ => ?_⟩
      simp [State.modifySlot, headerFill, assigned.idDevice]
    | wait phase | poll phase | call phase =>
      have header := assigned.header
      rw [phase] at header
      exact ⟨idDevice, header⟩
    | publish => exact ⟨idDevice, False.elim⟩
  · refine ⟨idDevice, ?_⟩
    rw [elsewhere.sendData, elsewhere.msgData]
    exact assigned.header

theorem Assigned.later {v : UInt16} {start later : State}
    (idDevice : start.idDevice = v)
    (unfilled : start.sendData.phase = .pend ∨ start.sendData.phase = .header)
    (run : Reachable step unassigned start later) : Assigned v later := by
  apply run.invariant (Assigned v) ⟨idDevice, ?_⟩
  · exact fun _ _ _ assigned kept stepped => assigned.preserved kept stepped
  · cases unfilled with
    | inl pend => simp [pend, Phase.Filled]
    | inr header => simp [header, Phase.Filled]

/-! ## Header and topic -/

/-- The operation and the topic of what a builder sends. -/
def Builder.msgOp : Builder → MsgOp
  | .sendData => .data
  | .sendRssi | .askForId => .cmd

def Builder.topicPrefix : Builder → List UInt8
  | .sendData => topicPubDataPrefix
  | .sendRssi | .askForId => topicPubCmdPrefix

/-- The header names the device `v`, under the builder's operation, and not the server. -/
def HeaderNames (v : UInt16) (builder : Builder) (payload : List UInt8) : Prop :=
  (MsgReception.ofBytes payload).idDeviceReception.toNat = v.toNat ∧
    (MsgReception.ofBytes payload).msgOpReception = builder.msgOp.code ∧
    (MsgReception.ofBytes payload).idDeviceReception ≠ 0

/-- `mqtt_publish` publishes on the topic that ends with `v` in decimal. -/
def TopicNames (arrays : TopicArrays) (idDevice v : UInt16) (builder : Builder)
    (publication : Publication) : Prop :=
  ∃ call, mqttPublish arrays idDevice publication.typePublish publication.payload publication.len =
      .ok (some call) ∧ call.topic = builder.topicPrefix ++ decimal v.toNat

def Identified (arrays : TopicArrays) (idDevice v : UInt16) (builder : Builder)
    (publication : Publication) : Prop :=
  HeaderNames v builder publication.payload ∧ TopicNames arrays idDevice v builder publication

theorem toUInt8_names (v : UInt16) :
    v.toUInt8.toNat = v.toNat ∧ v.toUInt8 ≠ 0 ↔ 0 < v ∧ v < 256 := by
  have narrowed : v.toUInt8.toNat = v.toNat % 256 := UInt16.toNat_toUInt8 v
  rw [Ne, ← UInt8.toNat_inj, narrowed, UInt16.lt_iff_toNat_lt, UInt16.lt_iff_toNat_lt]
  simp only [UInt8.toNat_zero, UInt16.toNat_zero, UInt16.reduceToNat]
  omega

theorem Builder.topicPrefix_text (builder : Builder) : ∀ byte ∈ builder.topicPrefix, byte ≠ 0 := by
  cases builder with
  | sendData => exact Mqtt.topicPrefix_text.2
  | sendRssi | askForId => exact Mqtt.topicPrefix_text.1

/-- The two header bytes that `send_data` and `send_rssi` send, and the type they publish as. -/
theorem Assigned.output {v : UInt16} {device : Device} {builder : Builder} {stack : Stack}
    {publication : Publication} (assigned : Assigned v device.system) (sends : builder ≠ .askForId)
    (built : publication ∈ (output builder device stack).publications) :
    (MsgReception.ofBytes publication.payload).idDeviceReception = v.toUInt8 ∧
      (MsgReception.ofBytes publication.payload).msgOpReception = builder.msgOp.code ∧
      ∃ type : PublishType, publication.typePublish = type.code := by
  cases builder with
  | askForId => exact absurd rfl sends
  | sendData =>
    cases phase : device.system.sendData.phase with
    | pend | header | wait | publish => simp [Mqtt.output, sendDataOutput, phase] at built
    | publishing =>
      simp only [Mqtt.output, sendDataOutput, phase, List.mem_singleton] at built
      subst publication
      obtain ⟨id, op⟩ := assigned.header (by rw [phase]; trivial)
      have whole : (device.system.msgData device.system.sendData.nMsgData).bytes.take
          (UInt16.ofNat sizeofMsgData).toNat =
            (device.system.msgData device.system.sendData.nMsgData).bytes :=
        List.take_of_length_le (by rw [MsgData.bytes_length]; decide)
      simp only [handOver, whole]
      exact ⟨id, op, .data, rfl⟩
  | sendRssi =>
    rw [Mqtt.output, sendRssi_publications, List.mem_singleton] at built
    subst publication
    rw [assigned.idDevice]
    exact ⟨rfl, rfl, .cmd, rfl⟩

theorem not_topicNames (arrays : TopicArrays) (idDevice v : UInt16) (builder : Builder)
    {publication : Publication} {type : PublishType} (known : publication.typePublish = type.code) :
    ¬ TopicNames arrays idDevice v builder publication := by
  rintro ⟨call, published, _⟩
  rw [known] at published
  by_cases small : idDevice < 10
  · obtain ⟨fault, overflow⟩ :=
      mqttPublish_known_type arrays type publication.payload publication.len small
    rw [overflow] at published
    cases published
  · rw [mqttPublish_large_id arrays type.code publication.payload publication.len small]
      at published
    cases published

/-- No message of a device with an assigned id is published under it: every topic overflows
its array.  The header names the device exactly for ids of one byte that are not the server's,
and the topic would in an array with room for it. -/
theorem identity_lost {macAddress : Memory sizeMacAddr} {payloads : List (List UInt8)}
    {before v : UInt16} {start later : State} {builder : Builder} {driver : DeviceStatGet}
    {idReads : List UInt16} {stack : Stack} {publication : Publication} (arrays : TopicArrays)
    (delivered : deliver macAddress payloads before = .ok start.idDevice)
    (accepted : lastAccepted macAddress payloads = some v)
    (unfilled : start.sendData.phase = .pend ∨ start.sendData.phase = .header)
    (run : Reachable step unassigned start later) (sends : builder ≠ .askForId)
    (built : publication ∈
      (output builder ⟨later, macAddress, driver, idReads⟩ stack).publications) :
    ¬ Identified arrays later.idDevice v builder publication ∧
      (HeaderNames v builder publication.payload ↔ 0 < v ∧ v < 256) ∧
      ∀ {size : Nat} (topic : Memory size), 21 ≤ size →
        buildTopic topic builder.topicPrefix (decimal v.toNat) =
          .ok (builder.topicPrefix ++ decimal v.toNat) := by
  have idDevice : start.idDevice = v := by
    have last := deliver_lastAccepted delivered
    rwa [accepted, Option.getD_some] at last
  have assigned : Assigned v later := .later idDevice unfilled run
  obtain ⟨id, op, type, known⟩ :=
    @Assigned.output v ⟨later, macAddress, driver, idReads⟩ _ _ _ assigned sends built
  refine ⟨fun identified => not_topicNames arrays _ _ _ known identified.2, ?_, ?_⟩
  · rw [HeaderNames, id, op, ← toUInt8_names]
    simp
  · intro size topic room
    -- five digits are enough for 16 bits
    have digits : (decimal v.toNat).length ≤ 5 := by
      rw [decimal_length_le_iff _ 5 (by decide)]
      exact v.toNat_lt.trans (by decide)
    have fixed : builder.topicPrefix.length ≤ 15 := by cases builder <;> decide
    exact buildTopic_fits topic builder.topicPrefix_text (decimal_text _) (by omega)

/-- An id response of the server for the device of `sampleMac`. -/
def assignment (low high : UInt8) : List UInt8 := [0, 1, 14, 0, 2, 0, 1, 2, 3, 4, 5, 6, low, high]

def assignedDevice (id : UInt16) : Device :=
  ⟨{ initial with idDevice := id }, sampleMac, ⟨0, some ⟨1200, -52, -61⟩⟩, []⟩

theorem identity_lost_seven : deliver sampleMac [assignment 7 0] 255 = .ok 7 ∧
    ∃ publication ∈ (output .sendRssi (assignedDevice 7) (uniformStack 0)).publications,
      HeaderNames 7 .sendRssi publication.payload ∧
        ¬ Identified zeroArrays 7 7 .sendRssi publication := by
  have delivered : deliver sampleMac [assignment 7 0] 255 = .ok 7 := by decide
  have accepted : lastAccepted sampleMac [assignment 7 0] = some 7 := by decide
  cases sent : (output .sendRssi (assignedDevice 7) (uniformStack 0)).publications with
  | nil => rw [output, sendRssi_publications] at sent; cases sent
  | cons publication rest =>
    have built : publication ∈
        (output .sendRssi (assignedDevice 7) (uniformStack 0)).publications := by simp [sent]
    have lost := @identity_lost sampleMac [assignment 7 0] 255 7 (assignedDevice 7).system
      (assignedDevice 7).system .sendRssi (assignedDevice 7).driver [] (uniformStack 0) publication
      zeroArrays delivered accepted (.inl rfl) .start (by simp) built
    exact ⟨delivered, publication, by simp, lost.2.1.mpr (by decide), lost.1⟩

/-- The server assigns 256, and the status message carries the server's own id. -/
theorem assigned_appears_as_server : deliver sampleMac [assignment 0 1] 255 = .ok 256 ∧
    lastAccepted sampleMac [assignment 0 1] = some 256 ∧
    ∃ publication ∈ (output .sendRssi (assignedDevice 256) (uniformStack 0)).publications,
      (MsgReception.ofBytes publication.payload).idDeviceReception = 0 ∧
        ¬ Identified zeroArrays 256 256 .sendRssi publication := by
  refine ⟨by decide, by decide, ?_⟩
  rw [output, sendRssi_publications]
  refine ⟨_, List.mem_singleton_self _, rfl, ?_⟩
  intro identified
  exact identified.1.2.2 rfl

end PlhrFirmware.Mqtt
