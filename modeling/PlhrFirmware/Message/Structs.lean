import Mathlib.Logic.Function.Basic
import PlhrFirmware.Lib.Bytes

/-! # The messages of `msg_structs.h`

The packed structures of the data message, field by field, and the sizes that the code
takes with `sizeof`.  `bytes` is the memory image that is handed to `mqtt_publish`.
-/

namespace PlhrFirmware.Message

open PlhrFirmware.Lib

abbrev dataBufferL : Nat := 150

abbrev dataBufferMax : Nat := 78

abbrev nMsgDataMax : Nat := 10

instance : NeZero dataBufferMax := ⟨by decide⟩

instance : NeZero nMsgDataMax := ⟨by decide⟩

abbrev sizeMacAddr : Nat := 6

/-! ## Enumerations -/

inductive CmdEnum where
  | cmdReady
  | cmdRespId
  | cmdSync
  | cmdRssiStatus
  deriving DecidableEq, Repr

def CmdEnum.code : CmdEnum → UInt16
  | .cmdReady => 1
  | .cmdRespId => 2
  | .cmdSync => 3
  | .cmdRssiStatus => 4

inductive MsgOp where
  | cmd
  | data
  | config
  deriving DecidableEq, Repr

def MsgOp.code : MsgOp → UInt8
  | .cmd => 1
  | .data => 2
  | .config => 3

/-! ## Sizes -/

def sizeofMsgHeader : Nat := 1 + 1 + 2
def sizeofCmdHeader : Nat := 2
def sizeofCmdRssi : Nat := 2 + 2 + 4
def sizeofCmdReady : Nat := sizeMacAddr + 8
def sizeofCmdRespId : Nat := sizeMacAddr + 2
def sizeofCmdSync : Nat := 8 + 8

/-- The union of the command variants is as large as the largest of them. -/
def sizeofCmdType : Nat :=
  max sizeofCmdReady (max sizeofCmdSync (max sizeofCmdRespId sizeofCmdRssi))

def sizeofMsgCmd : Nat := sizeofMsgHeader + (sizeofCmdHeader + sizeofCmdType)
def sizeofDataBuffer : Nat := 8 + dataBufferL
def sizeofDataHeader : Nat := 4 + 2 + 2 + 8 + 8
def sizeofMsgData : Nat := sizeofMsgHeader + (sizeofDataHeader + dataBufferMax * sizeofDataBuffer)

/-! ## The data message -/

structure MsgHeader where
  idDevice : UInt8
  msgOp : UInt8
  msgSize : UInt16
  deriving DecidableEq, Repr

structure DataBuffer where
  bufferId : UInt64
  p : Memory dataBufferL
  deriving DecidableEq, Repr

structure DataHeader where
  dataId : UInt32
  bufferSize : UInt16
  dataBufferNum : UInt16
  rtcValue : UInt64
  corrBufferId : UInt64
  deriving DecidableEq, Repr

structure DataPayload where
  h : DataHeader
  p : Fin dataBufferMax → DataBuffer

structure MsgData where
  h : MsgHeader
  p : DataPayload

/-- Static memory is zero at reset. -/
def MsgData.zero : MsgData :=
  { h := ⟨0, 0, 0⟩, p := { h := ⟨0, 0, 0, 0, 0⟩, p := fun _ => ⟨0, Vector.replicate _ 0⟩ } }

/-! ## Copies into a message -/

def MsgData.setCorrBufferId (value : UInt64) (message : MsgData) : MsgData :=
  { message with p := { message.p with h := { message.p.h with corrBufferId := value } } }

def MsgData.setRtcValue (value : UInt64) (message : MsgData) : MsgData :=
  { message with p := { message.p with h := { message.p.h with rtcValue := value } } }

def MsgData.setBlock (i : Fin dataBufferMax) (block : DataBuffer) (message : MsgData) : MsgData :=
  { message with p := { message.p with p := Function.update message.p.p i block } }

/-! ## Memory images -/

def MsgHeader.bytes (header : MsgHeader) : List UInt8 :=
  [header.idDevice, header.msgOp] ++ leBytes 2 header.msgSize.toNat

def DataBuffer.bytes (buffer : DataBuffer) : List UInt8 :=
  leBytes 8 buffer.bufferId.toNat ++ buffer.p.toList

def DataHeader.bytes (header : DataHeader) : List UInt8 :=
  leBytes 4 header.dataId.toNat ++ leBytes 2 header.bufferSize.toNat ++
    leBytes 2 header.dataBufferNum.toNat ++ leBytes 8 header.rtcValue.toNat ++
    leBytes 8 header.corrBufferId.toNat

def DataPayload.bytes (payload : DataPayload) : List UInt8 :=
  payload.h.bytes ++ (List.finRange dataBufferMax).flatMap fun i => (payload.p i).bytes

def MsgData.bytes (message : MsgData) : List UInt8 := message.h.bytes ++ message.p.bytes

@[simp] theorem MsgHeader.bytes_length (header : MsgHeader) :
    header.bytes.length = sizeofMsgHeader := by
  simp [bytes, sizeofMsgHeader]

@[simp] theorem DataBuffer.bytes_length (buffer : DataBuffer) :
    buffer.bytes.length = sizeofDataBuffer := by
  simp [bytes, sizeofDataBuffer]

@[simp] theorem DataHeader.bytes_length (header : DataHeader) :
    header.bytes.length = sizeofDataHeader := by
  simp [bytes, sizeofDataHeader]

@[simp] theorem MsgData.bytes_length (message : MsgData) :
    message.bytes.length = sizeofMsgData := by
  have blocks : ((List.finRange dataBufferMax).flatMap fun i => (message.p.p i).bytes).length =
      dataBufferMax * sizeofDataBuffer := by
    simp only [List.length_flatMap, DataBuffer.bytes_length, List.map_const', List.length_finRange,
      List.sum_replicate_nat]
  simp [bytes, DataPayload.bytes, sizeofMsgData, blocks]

def msgSizeField (bytes : List UInt8) : Nat := leValue (slice bytes 2 2)

theorem MsgData.msgSizeField_bytes (message : MsgData) :
    msgSizeField message.bytes = message.h.msgSize.toNat := by
  have image : slice message.bytes 2 2 = leBytes 2 message.h.msgSize.toNat := by
    simp [slice, bytes, MsgHeader.bytes]
  rw [msgSizeField, image, leValue_leBytes]
  exact Nat.mod_eq_of_lt message.h.msgSize.toNat_lt

/-! ## Blocks in the memory image -/

/-- Where a block begins, in bytes from the start of the message. -/
def blockOffset (i : Nat) : Nat := sizeofMsgHeader + sizeofDataHeader + sizeofDataBuffer * i

theorem MsgData.slice_block (message : MsgData) (i : Fin dataBufferMax) :
    slice message.bytes (blockOffset i) sizeofDataBuffer = (message.p.p i).bytes := by
  have headers : (message.h.bytes ++ message.p.h.bytes).length = sizeofMsgHeader + sizeofDataHeader := by
    rw [List.length_append, MsgHeader.bytes_length, DataHeader.bytes_length]
  have blocks := slice_flatMap (fun i => DataBuffer.bytes_length (message.p.p i))
    (List.finRange dataBufferMax) i (by rw [List.length_finRange]; exact i.isLt)
  rw [bytes, DataPayload.bytes, ← List.append_assoc, blockOffset, ← headers, slice_append_right,
    blocks, List.getElem_finRange]
  rfl

theorem MsgData.slice_bufferId (message : MsgData) (i : Fin dataBufferMax) :
    leValue (slice message.bytes (blockOffset i) 8) = (message.p.p i).bufferId.toNat := by
  have image : slice message.bytes (blockOffset i) 8 = leBytes 8 (message.p.p i).bufferId.toNat := by
    have inner := slice_slice message.bytes (blockOffset i) 0
      (show 0 + 8 ≤ sizeofDataBuffer by decide)
    rw [Nat.add_zero] at inner
    rw [← inner, message.slice_block, DataBuffer.bytes, slice_append (by simp), slice, List.drop_zero,
      List.take_of_length_le (by simp)]
  rw [image, leValue_leBytes]
  exact Nat.mod_eq_of_lt (message.p.p i).bufferId.toNat_lt

theorem MsgData.slice_samples (message : MsgData) (i : Fin dataBufferMax) :
    slice message.bytes (blockOffset i + 8) dataBufferL = (message.p.p i).p.toList := by
  have inner := slice_slice message.bytes (blockOffset i) 8
    (show 8 + dataBufferL ≤ sizeofDataBuffer by decide)
  have behind := slice_append_right (leBytes 8 (message.p.p i).bufferId.toNat)
    (message.p.p i).p.toList 0 dataBufferL
  rw [leBytes_length, Nat.add_zero] at behind
  rw [← inner, message.slice_block, DataBuffer.bytes, behind, slice, List.drop_zero,
    List.take_of_length_le (by simp)]

end PlhrFirmware.Message
