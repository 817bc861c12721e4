import PlhrFirmware.Message.Structs

/-! # The command parser `cmd_zero`

`MQTTClientCallback` stores the received bytes and one NUL; `cmd_zero` gets the pointer and no
length, and copies the message header, the command header and the id response out of it before
anything bounds them.  Every copy is checked against the stored bytes, so a read that leaves
them is a `Fault`.
-/

namespace PlhrFirmware.Mqtt

open PlhrFirmware.Lib PlhrFirmware.Message

/-! ## Structures -/

structure MsgReception where
  idDeviceReception : UInt8
  msgOpReception : UInt8
  lenReception : UInt16
  deriving DecidableEq, Repr

def MsgReception.ofBytes (bytes : List UInt8) : MsgReception :=
  ⟨bytes.getD 0 0, bytes.getD 1 0, UInt16.ofNat (leValue (slice bytes 2 2))⟩

structure CmdRespId where
  macAddr : List UInt8
  cmdRespId : UInt16
  deriving DecidableEq, Repr

def CmdRespId.ofBytes (bytes : List UInt8) : CmdRespId :=
  ⟨slice bytes 0 sizeMacAddr, UInt16.ofNat (leValue (slice bytes sizeMacAddr 2))⟩

/-! ## Receiving -/

/-- What `MQTTClientCallback` stores for a received payload. -/
def received (data : List UInt8) : List UInt8 := data ++ [0]

def offsetCmdHeader : Nat := sizeofMsgHeader
def offsetCmdRespId : Nat := sizeofMsgHeader + sizeofCmdHeader

def cmdZeroCmd (macAddress : Memory sizeMacAddr) (p : List UInt8) (idDevice : UInt16) :
    Except Fault UInt16 := do
  let bytes ← load p offsetCmdHeader sizeofCmdHeader
  let cmdIdReception := UInt16.ofNat (leValue bytes)
  if cmdIdReception = CmdEnum.cmdReady.code then
    pure idDevice
  else if cmdIdReception = CmdEnum.cmdRespId.code then
    let bytes ← load p offsetCmdRespId sizeofCmdRespId
    let cmdRespId := CmdRespId.ofBytes bytes
    if cmdRespId.macAddr ≠ macAddress.toList then
      pure idDevice
    else
      pure cmdRespId.cmdRespId
  else
    pure idDevice

/-- `cmd_zero` on the stored bytes: the new value of `id_device`. -/
def cmdZero (macAddress : Memory sizeMacAddr) (p : List UInt8) (idDevice : UInt16) :
    Except Fault UInt16 := do
  let bytes ← load p 0 sizeofMsgHeader
  let msgReception := MsgReception.ofBytes bytes
  if msgReception.idDeviceReception ≠ 0 then
    pure idDevice
  else if msgReception.msgOpReception = MsgOp.cmd.code then
    cmdZeroCmd macAddress p idDevice
  else
    -- `DATA`, `CONFIG` and unknown operations
    pure idDevice

/-! ## What the bytes say -/

/-- The header is that of a command of the server. -/
def ServerCommand (bytes : List UInt8) : Prop :=
  (MsgReception.ofBytes (slice bytes 0 sizeofMsgHeader)).idDeviceReception = 0 ∧
    (MsgReception.ofBytes (slice bytes 0 sizeofMsgHeader)).msgOpReception = MsgOp.cmd.code

def IsRespId (bytes : List UInt8) : Prop :=
  UInt16.ofNat (leValue (slice bytes offsetCmdHeader sizeofCmdHeader)) = CmdEnum.cmdRespId.code

def respId (bytes : List UInt8) : CmdRespId :=
  CmdRespId.ofBytes (slice bytes offsetCmdRespId sizeofCmdRespId)

instance (bytes : List UInt8) : Decidable (ServerCommand bytes) :=
  inferInstanceAs (Decidable (_ ∧ _))

instance (bytes : List UInt8) : Decidable (IsRespId bytes) :=
  inferInstanceAs (Decidable (_ = _))

/-! ## The paths of the parser -/

section Paths

variable {macAddress : Memory sizeMacAddr} {p : List UInt8} {idDevice : UInt16}

theorem cmdZero_short (short : ¬ sizeofMsgHeader ≤ p.length) :
    cmdZero macAddress p idDevice = .error ⟨0, sizeofMsgHeader, p.length⟩ := by
  rw [cmdZero, load_beyond (by rwa [Nat.zero_add]), error_bind]

theorem cmdZero_ignored (header : sizeofMsgHeader ≤ p.length) (other : ¬ ServerCommand p) :
    cmdZero macAddress p idDevice = .ok idDevice := by
  rw [cmdZero, load_fits (by rwa [Nat.zero_add]), ok_bind]
  by_cases sender :
      (MsgReception.ofBytes (slice p 0 sizeofMsgHeader)).idDeviceReception = 0
  · rw [if_neg (not_not.mpr sender), if_neg fun command => other ⟨sender, command⟩]
    rfl
  · rw [if_pos sender]
    rfl

theorem cmdZero_command (header : sizeofMsgHeader ≤ p.length) (command : ServerCommand p) :
    cmdZero macAddress p idDevice = cmdZeroCmd macAddress p idDevice := by
  rw [cmdZero, load_fits (by rwa [Nat.zero_add]), ok_bind, if_neg (not_not.mpr command.1),
    if_pos command.2]

theorem cmdZeroCmd_short (short : ¬ offsetCmdHeader + sizeofCmdHeader ≤ p.length) :
    cmdZeroCmd macAddress p idDevice = .error ⟨offsetCmdHeader, sizeofCmdHeader, p.length⟩ := by
  rw [cmdZeroCmd, load_beyond short, error_bind]

theorem cmdZeroCmd_other (header : offsetCmdHeader + sizeofCmdHeader ≤ p.length) (other : ¬ IsRespId p) :
    cmdZeroCmd macAddress p idDevice = .ok idDevice := by
  rw [cmdZeroCmd, load_fits header, ok_bind]
  by_cases ready :
      UInt16.ofNat (leValue (slice p offsetCmdHeader sizeofCmdHeader)) = CmdEnum.cmdReady.code
  · rw [if_pos ready]
    rfl
  · rw [if_neg ready]
    exact if_neg other

theorem IsRespId.not_ready (isRespId : IsRespId p) :
    UInt16.ofNat (leValue (slice p offsetCmdHeader sizeofCmdHeader)) ≠ CmdEnum.cmdReady.code := by
  unfold IsRespId at isRespId
  rw [isRespId]
  decide

theorem cmdZeroCmd_truncated (header : offsetCmdHeader + sizeofCmdHeader ≤ p.length) (isRespId : IsRespId p)
    (short : ¬ offsetCmdRespId + sizeofCmdRespId ≤ p.length) :
    cmdZeroCmd macAddress p idDevice = .error ⟨offsetCmdRespId, sizeofCmdRespId, p.length⟩ := by
  rw [cmdZeroCmd, load_fits header, ok_bind, if_neg isRespId.not_ready]
  exact (if_pos isRespId).trans (by rw [load_beyond short, error_bind])

theorem cmdZeroCmd_respId (header : offsetCmdHeader + sizeofCmdHeader ≤ p.length) (isRespId : IsRespId p)
    (whole : offsetCmdRespId + sizeofCmdRespId ≤ p.length) :
    cmdZeroCmd macAddress p idDevice =
      .ok (if (respId p).macAddr = macAddress.toList then (respId p).cmdRespId else idDevice) := by
  rw [cmdZeroCmd, load_fits header, ok_bind, if_neg isRespId.not_ready]
  refine (if_pos isRespId).trans ?_
  rw [load_fits whole, ok_bind]
  by_cases mine : (respId p).macAddr = macAddress.toList
  · rw [if_pos mine]
    exact if_neg (not_not.mpr mine)
  · rw [if_neg mine]
    exact if_pos mine

end Paths

/-! ## When the parser is exact -/

/-- The payload is an id response of the server for this device. -/
def Accepts (macAddress : Memory sizeMacAddr) (payload : List UInt8) : Prop :=
  14 ≤ payload.length ∧ ServerCommand payload ∧ IsRespId payload ∧
    slice payload 6 6 = macAddress.toList

instance (macAddress : Memory sizeMacAddr) (payload : List UInt8) :
    Decidable (Accepts macAddress payload) :=
  inferInstanceAs (Decidable (_ ∧ _))

/-- Accepted payloads set `id_device` to the value at offset 12, all others leave it, and none
is read beyond the stored bytes. -/
def Exact (macAddress : Memory sizeMacAddr) (payload : List UInt8) : Prop :=
  ∀ idDevice, cmdZero macAddress (received payload) idDevice = .ok
    (if Accepts macAddress payload then UInt16.ofNat (leValue (slice payload 12 2)) else idDevice)

/-- The payload and its NUL hold every structure that the parser copies, and an id response
with the NUL as its last byte is not for this device. -/
def Holding (macAddress : Memory sizeMacAddr) (payload : List UInt8) : Prop :=
  3 ≤ payload.length ∧
    (ServerCommand (received payload) → 5 ≤ payload.length ∧
      (IsRespId (received payload) → 13 ≤ payload.length ∧
        (payload.length = 13 → slice payload 6 6 ≠ macAddress.toList)))

theorem respId_received {payload : List UInt8} (whole : 13 ≤ payload.length) :
    (respId (received payload)).macAddr = slice payload 6 6 ∧
      (14 ≤ payload.length →
        (respId (received payload)).cmdRespId = UInt16.ofNat (leValue (slice payload 12 2))) := by
  simp only [respId, CmdRespId.ofBytes, offsetCmdRespId, sizeofMsgHeader, sizeofCmdHeader,
    sizeofCmdRespId, sizeMacAddr]
  rw [slice_slice _ _ _ (by decide), slice_slice _ _ _ (by decide), received]
  constructor
  · rw [slice_append (by omega)]
  · intro long
    rw [slice_append (by omega)]

theorem serverCommand_received {payload : List UInt8} (header : 4 ≤ payload.length) :
    ServerCommand (received payload) ↔ ServerCommand payload := by
  rw [ServerCommand, ServerCommand, received, slice_append (by exact header)]

theorem isRespId_received {payload : List UInt8} (header : 6 ≤ payload.length) :
    IsRespId (received payload) ↔ IsRespId payload := by
  rw [IsRespId, IsRespId, received, slice_append (by exact header)]

@[simp] theorem received_length (payload : List UInt8) :
    (received payload).length = payload.length + 1 := by
  simp [received]

theorem not_exact_of_fault {macAddress : Memory sizeMacAddr} {payload : List UInt8} {fault : Fault}
    (faults : cmdZero macAddress (received payload) 0 = .error fault) :
    ¬ Exact macAddress payload := by
  intro exact
  rw [exact 0] at faults
  cases faults

theorem exact_of_ignored {macAddress : Memory sizeMacAddr} {payload : List UInt8}
    (ignored : ∀ idDevice, cmdZero macAddress (received payload) idDevice = .ok idDevice)
    (rejected : ¬ Accepts macAddress payload) : Exact macAddress payload := by
  intro idDevice
  rw [ignored, if_neg rejected]

/-- An id response that is cut off is over-read; one that ends with the NUL is taken as whole. -/
theorem exact_respId_iff (macAddress : Memory sizeMacAddr) {payload : List UInt8}
    (header : 5 ≤ payload.length) (command : ServerCommand (received payload))
    (isRespId : IsRespId (received payload)) :
    Exact macAddress payload ↔ 13 ≤ payload.length ∧
      (payload.length = 13 → slice payload 6 6 ≠ macAddress.toList) := by
  have parses := fun idDevice => @cmdZero_command macAddress _ idDevice
    (by simp [sizeofMsgHeader]; omega) command
  have header' : offsetCmdHeader + sizeofCmdHeader ≤ (received payload).length := by
    simp [offsetCmdHeader, sizeofMsgHeader, sizeofCmdHeader]
    omega
  by_cases whole : 13 ≤ payload.length
  · have parsed := fun idDevice => (parses idDevice).trans
      (@cmdZeroCmd_respId macAddress _ idDevice header' isRespId (by
        simp [offsetCmdRespId, sizeofMsgHeader, sizeofCmdHeader, sizeofCmdRespId, sizeMacAddr]
        omega))
    obtain ⟨mac, id⟩ := respId_received whole
    rw [mac] at parsed
    by_cases long : 14 ≤ payload.length
    -- a whole response: the NUL is not read
    · have accepts : Accepts macAddress payload ↔ slice payload 6 6 = macAddress.toList := by
        rw [Accepts, ← serverCommand_received (by omega), ← isRespId_received (by omega)]
        simp only [long, command, isRespId, true_and]
      refine iff_of_true ?_ ⟨whole, by omega⟩
      intro idDevice
      rw [parsed, id long]
      simp only [accepts]
    -- the NUL is the high byte of the id
    · have rejected : ¬ Accepts macAddress payload := fun accepts => long accepts.1
      by_cases mine : slice payload 6 6 = macAddress.toList
      · refine iff_of_false ?_ fun holding => holding.2 (by omega) mine
        intro exact
        -- the id is set, whatever it was before
        have zero := (exact 0).symm.trans (parsed 0)
        have one := (exact 1).symm.trans (parsed 1)
        simp only [if_neg rejected, if_pos mine, Except.ok.injEq] at zero one
        exact absurd (zero.trans one.symm) (by decide)
      · refine iff_of_true (exact_of_ignored ?_ rejected) ⟨whole, fun _ => mine⟩
        intro idDevice
        rw [parsed, if_neg mine]
  · refine iff_of_false (not_exact_of_fault ((parses 0).trans
      (cmdZeroCmd_truncated header' isRespId ?_))) fun holding => whole holding.1
    simp [offsetCmdRespId, sizeofMsgHeader, sizeofCmdHeader, sizeofCmdRespId, sizeMacAddr]
    omega

theorem exact_iff (macAddress : Memory sizeMacAddr) (payload : List UInt8) :
    Exact macAddress payload ↔ Holding macAddress payload := by
  by_cases header : 3 ≤ payload.length
  · have whole : sizeofMsgHeader ≤ (received payload).length := by
      simp [sizeofMsgHeader]
      omega
    by_cases command : ServerCommand (received payload)
    · have parses := fun idDevice => @cmdZero_command macAddress _ idDevice whole command
      by_cases cmdHeader : 5 ≤ payload.length
      · by_cases isRespId : IsRespId (received payload)
        · rw [exact_respId_iff macAddress cmdHeader command isRespId, Holding]
          simp only [header, command, cmdHeader, isRespId, true_and, forall_const]
        · refine iff_of_true (exact_of_ignored ?_ ?_)
            ⟨header, fun _ => ⟨cmdHeader, fun respId => absurd respId isRespId⟩⟩
          · intro idDevice
            rw [parses]
            apply cmdZeroCmd_other _ isRespId
            simp [offsetCmdHeader, sizeofMsgHeader, sizeofCmdHeader]
            omega
          · intro accepts
            apply isRespId
            rw [isRespId_received (by have := accepts.1; omega)]
            exact accepts.2.2.1
      · refine iff_of_false (not_exact_of_fault ((parses 0).trans (cmdZeroCmd_short ?_)))
          fun holding => cmdHeader (holding.2 command).1
        simp [offsetCmdHeader, sizeofMsgHeader, sizeofCmdHeader]
        omega
    · refine iff_of_true (exact_of_ignored ?_ ?_)
        ⟨header, fun serverCommand => absurd serverCommand command⟩
      · intro idDevice
        exact cmdZero_ignored whole command
      · intro accepts
        apply command
        rw [serverCommand_received (by have := accepts.1; omega)]
        exact accepts.2.1
  · refine iff_of_false (not_exact_of_fault (cmdZero_short ?_)) fun holding => header holding.1
    simp [sizeofMsgHeader]
    omega

def sampleMac : Memory sizeMacAddr := Vector.ofFn fun i => UInt8.ofNat (i + 1)

/-- The empty payload is read three bytes too far, and an id response without its last byte
assigns the id 7. -/
theorem parser_reads_beyond :
    cmdZero sampleMac (received []) 255 = .error ⟨0, 4, 1⟩ ∧ ¬ Exact sampleMac [] ∧
      cmdZero sampleMac (received [0, 1, 13, 0, 2, 0, 1, 2, 3, 4, 5, 6, 7]) 255 = .ok 7 ∧
      ¬ Exact sampleMac [0, 1, 13, 0, 2, 0, 1, 2, 3, 4, 5, 6, 7] := by
  have overread : cmdZero sampleMac (received []) 0 = .error ⟨0, 4, 1⟩ := by decide
  have accepted : cmdZero sampleMac (received [0, 1, 13, 0, 2, 0, 1, 2, 3, 4, 5, 6, 7]) 255 =
      .ok 7 := by decide
  refine ⟨by decide, not_exact_of_fault overread, accepted, ?_⟩
  intro exact
  rw [exact 255, if_neg fun accepts => absurd accepts.1 (by decide)] at accepted
  cases accepted

end PlhrFirmware.Mqtt
