import Mathlib.Data.UInt
import PlhrFirmware.Message.Structs

/-! # The arithmetic of a downsampling pass

The computations that `thread_downsampling` makes within one pass of its loop, in
`dws_user.c`: the packing of a DMA buffer into the 150 bytes of a block, and the
conversion of an NTP timestamp and the RTC to nanoseconds of Unix time.
-/

namespace PlhrFirmware.Pipeline

open PlhrFirmware.Lib PlhrFirmware.Message

abbrev dmaBuffSize : Nat := 800

abbrev dwsRateFix : Nat := 8

abbrev DmaBuffer := Fin dmaBuffSize → UInt16

/-! ## Packing -/

/-- The eight words from `offset` on, each with its unused bits removed, summed. -/
def sumOfEight (bufferDownsampling : DmaBuffer) (offset : Nat) : UInt32 :=
  ((List.range dwsRateFix).map fun i =>
    ((bufferDownsampling (Fin.ofNat _ (offset + i)) >>> 2) &&& 0x0FFF).toUInt32).sum

def word (bufferDownsampling : DmaBuffer) (index : Nat) : UInt16 := bufferDownsampling (Fin.ofNat _ index)

def downsampledDataRight (bufferDownsampling : DmaBuffer) (indexBuffer : Nat) : UInt32 :=
  sumOfEight bufferDownsampling (indexBuffer * (dwsRateFix * 2)) >>> 3

def downsampledDataLeft (bufferDownsampling : DmaBuffer) (indexBuffer : Nat) : UInt32 :=
  sumOfEight bufferDownsampling (dwsRateFix + indexBuffer * (dwsRateFix * 2)) / 8

def downsampledData (bufferDownsampling : DmaBuffer) (indexBuffer : Nat) : UInt32 :=
  (downsampledDataRight bufferDownsampling indexBuffer &&& (0xFFF : UInt32)) |||
    (downsampledDataLeft bufferDownsampling indexBuffer <<< 12)

def packingRounds (bufferDownsampling : DmaBuffer) (p : Memory dataBufferL) (count : Nat) :
    Memory dataBufferL :=
  -- three bytes of the packed pair go to each place
  (List.range count).foldl (fun p indexBuffer =>
    p.put (indexBuffer * 3) (leBytes 3 (downsampledData bufferDownsampling indexBuffer).toNat)) p

def packingLoop (bufferDownsampling : DmaBuffer) (p : Memory dataBufferL) : Memory dataBufferL :=
  packingRounds bufferDownsampling p (dmaBuffSize / (dwsRateFix * 2))

def packing (bufferDownsampling : DmaBuffer) : Memory dataBufferL :=
  packingLoop bufferDownsampling (Vector.replicate _ 0)

def packedBytes (bufferDownsampling : DmaBuffer) (count : Nat) : List UInt8 :=
  (List.range count).flatMap fun indexBuffer =>
    leBytes 3 (downsampledData bufferDownsampling indexBuffer).toNat

@[simp] theorem packedBytes_length (bufferDownsampling : DmaBuffer) (count : Nat) :
    (packedBytes bufferDownsampling count).length = count * 3 := by
  simp only [packedBytes, List.length_flatMap, leBytes_length, List.map_const', List.length_range,
    List.sum_replicate_nat]

theorem packingRounds_filled (bufferDownsampling : DmaBuffer) (p : Memory dataBufferL) (count : Nat)
    (fits : count * 3 ≤ dataBufferL) :
    Filled p (packingRounds bufferDownsampling p count) (packedBytes bufferDownsampling count) := by
  induction count with
  | zero => exact .nil p
  | succ count inductionHypothesis =>
    have extended := (inductionHypothesis (by omega)).put (count * 3)
      (leBytes 3 (downsampledData bufferDownsampling count).toNat)
      (packedBytes_length bufferDownsampling count) (by rw [leBytes_length]; omega)
    simpa [packingRounds, packedBytes, List.range_succ] using extended

/-- The loop writes all 150 bytes: nothing that the block held before is left. -/
theorem packingLoop_eq (bufferDownsampling : DmaBuffer) (p : Memory dataBufferL) :
    packingLoop bufferDownsampling p = packing bufferDownsampling := by
  have filled := packingRounds_filled bufferDownsampling p (dmaBuffSize / (dwsRateFix * 2))
    (by decide)
  have filled' := packingRounds_filled bufferDownsampling (Vector.replicate _ 0)
    (dmaBuffSize / (dwsRateFix * 2)) (by decide)
  exact filled.full filled' (packedBytes_length _ _)

/-! ## Time -/

/-- `EPOCH_OFFSET`, in seconds -/
abbrev epochOffset : UInt64 := 2208988800

abbrev secondsToNseconds : Nat := 1000000000

abbrev maxUint32 : Nat := 0xFFFFFFFF

structure Timespec where
  tvSec : UInt64
  tvNsec : UInt64
  deriving DecidableEq, Repr

/-- The seconds of an NTP timestamp, in its upper 32 bits. -/
def ntpSeconds (timeSynchro : UInt64) : UInt64 := (0xFFFFFFFF00000000 &&& timeSynchro) >>> 32

/-- The fraction of a second of an NTP timestamp in nanoseconds; the division in `double`
is read as exact and truncated. -/
def ntpNanoseconds (timeSynchro : UInt64) : UInt32 :=
  let fraction : UInt32 := (0x00000000FFFFFFFF &&& timeSynchro).toUInt32
  UInt32.ofNat (fraction.toNat * secondsToNseconds / maxUint32)

/-- `time_synchro_us`, in unsigned 64-bit arithmetic. -/
def timeSynchroUs (timeSynchro : UInt64) (rtcTimer : Timespec) : UInt64 :=
  let seconds := ntpSeconds timeSynchro
  let seconds := (seconds + rtcTimer.tvSec - epochOffset) * UInt64.ofNat secondsToNseconds +
    rtcTimer.tvNsec
  seconds + (ntpNanoseconds timeSynchro).toUInt64

/-- The subtraction of `EPOCH_OFFSET` does not go below zero. -/
def AfterEpoch (timeSynchro : UInt64) (rtcTimer : Timespec) : Prop :=
  epochOffset ≤ ntpSeconds timeSynchro + rtcTimer.tvSec

instance (timeSynchro : UInt64) (rtcTimer : Timespec) :
    Decidable (AfterEpoch timeSynchro rtcTimer) :=
  inferInstanceAs (Decidable (_ ≤ _))

end PlhrFirmware.Pipeline
