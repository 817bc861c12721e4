import Mathlib.Data.Rat.Floor
import Mathlib.Tactic.NormNum
import Mathlib.Tactic.Ring
import PlhrFirmware.Pipeline.Downsampling

/-! # The time reference as Unix time

How far `time_synchro_us` is from the Unix time that an NTP timestamp and the RTC stand for.
-/

namespace PlhrFirmware.Pipeline

/-- The Unix time of the timestamp and the time that has passed on the RTC, in nanoseconds. -/
def unixNanoseconds (timeSynchro : UInt64) (rtcTimer : Timespec) : ℚ :=
  ((timeSynchro.toNat : ℚ) / 2 ^ 32 - 2208988800) * 10 ^ 9 + rtcTimer.tvSec.toNat * 10 ^ 9 +
    rtcTimer.tvNsec.toNat

/-- No operation of the conversion leaves the range of its type. -/
structure InRange (timeSynchro : UInt64) (rtcTimer : Timespec) : Prop where
  sum : (ntpSeconds timeSynchro).toNat + rtcTimer.tvSec.toNat < 2 ^ 64
  difference : epochOffset.toNat ≤ (ntpSeconds timeSynchro).toNat + rtcTimer.tvSec.toNat
  product : ((ntpSeconds timeSynchro).toNat + rtcTimer.tvSec.toNat - epochOffset.toNat) *
    secondsToNseconds + rtcTimer.tvNsec.toNat < 2 ^ 64
  nanoseconds : (timeSynchro.toNat % 2 ^ 32) * secondsToNseconds / maxUint32 < 2 ^ 32
  result : ((ntpSeconds timeSynchro).toNat + rtcTimer.tvSec.toNat - epochOffset.toNat) *
    secondsToNseconds + rtcTimer.tvNsec.toNat + (ntpNanoseconds timeSynchro).toNat < 2 ^ 64

section Conversion

variable (timeSynchro : UInt64) {rtcTimer : Timespec}

theorem ntpSeconds_toNat : (ntpSeconds timeSynchro).toNat = timeSynchro.toNat / 2 ^ 32 := by
  have bounded := timeSynchro.toNat_lt
  rw [ntpSeconds, UInt64.toNat_shiftRight, UInt64.toNat_and, Nat.and_comm]
  change (timeSynchro.toNat &&& 0xFFFFFFFF00000000) >>> 32 = _
  rw [Nat.shiftRight_and_distrib]
  change timeSynchro.toNat >>> 32 &&& 0xFFFFFFFF = _
  rw [Nat.and_two_pow_sub_one_eq_mod _ 32, Nat.shiftRight_eq_div_pow]
  omega

theorem ntpNanoseconds_toNat : (ntpNanoseconds timeSynchro).toNat =
    (timeSynchro.toNat % 2 ^ 32) * 1000000000 / 4294967295 := by
  have fraction : (0x00000000FFFFFFFF &&& timeSynchro).toUInt32.toNat = timeSynchro.toNat % 2 ^ 32 := by
    rw [UInt64.toNat_toUInt32, UInt64.toNat_and, Nat.and_comm]
    change (timeSynchro.toNat &&& 0xFFFFFFFF) % 2 ^ 32 = _
    rw [Nat.and_two_pow_sub_one_eq_mod _ 32, Nat.mod_mod]
  rw [ntpNanoseconds, UInt32.toNat_ofNat', fraction]
  change (timeSynchro.toNat % 2 ^ 32) * 1000000000 / 4294967295 % 2 ^ 32 = _
  omega

variable (after : 2208988800 ≤ (ntpSeconds timeSynchro).toNat)
  (seconds : rtcTimer.tvSec.toNat < 2 ^ 32) (nanoseconds : rtcTimer.tvNsec.toNat < 10 ^ 9)

theorem ntpNanoseconds_le : (ntpNanoseconds timeSynchro).toNat ≤ 10 ^ 9 := by
  rw [ntpNanoseconds_toNat]
  omega

include after seconds nanoseconds

theorem inRange : InRange timeSynchro rtcTimer := by
  have bounded := timeSynchro.toNat_lt
  have fraction := ntpNanoseconds_le timeSynchro
  have whole : (ntpSeconds timeSynchro).toNat < 2 ^ 32 := by
    rw [ntpSeconds_toNat]
    omega
  have epoch : epochOffset.toNat = 2208988800 := rfl
  refine ⟨?_, ?_, ?_, ?_, ?_⟩
  · omega
  · omega
  · rw [epoch, secondsToNseconds]
    omega
  · rw [secondsToNseconds, maxUint32]
    omega
  · rw [epoch, secondsToNseconds]
    omega

theorem timeSynchroUs_toNat : (timeSynchroUs timeSynchro rtcTimer).toNat =
    ((ntpSeconds timeSynchro).toNat + rtcTimer.tvSec.toNat - epochOffset.toNat) * secondsToNseconds +
      rtcTimer.tvNsec.toNat + (ntpNanoseconds timeSynchro).toNat := by
  obtain ⟨sum, difference, product, _, result⟩ :=
    @inRange timeSynchro rtcTimer after seconds nanoseconds
  have total : (ntpSeconds timeSynchro + rtcTimer.tvSec).toNat =
      (ntpSeconds timeSynchro).toNat + rtcTimer.tvSec.toNat := by
    rw [UInt64.toNat_add, Nat.mod_eq_of_lt sum]
  have elapsed : (ntpSeconds timeSynchro + rtcTimer.tvSec - epochOffset).toNat =
      (ntpSeconds timeSynchro).toNat + rtcTimer.tvSec.toNat - epochOffset.toNat := by
    rw [UInt64.toNat_sub_of_le _ _ (UInt64.le_iff_toNat_le.mpr (total ▸ difference)), total]
  have scale : (UInt64.ofNat secondsToNseconds).toNat = secondsToNseconds := rfl
  have scaled : ((ntpSeconds timeSynchro + rtcTimer.tvSec - epochOffset) *
      UInt64.ofNat secondsToNseconds).toNat =
        ((ntpSeconds timeSynchro).toNat + rtcTimer.tvSec.toNat - epochOffset.toNat) *
          secondsToNseconds := by
    rw [UInt64.toNat_mul, elapsed, scale, Nat.mod_eq_of_lt ((Nat.le_add_right _ _).trans_lt product)]
  rw [timeSynchroUs, UInt64.toNat_add, UInt64.toNat_add, scaled, Nat.mod_eq_of_lt product,
    UInt32.toNat_toUInt64, Nat.mod_eq_of_lt result]

omit seconds nanoseconds in
theorem floor_unixNanoseconds : ⌊unixNanoseconds timeSynchro rtcTimer⌋ =
    (((ntpSeconds timeSynchro).toNat + rtcTimer.tvSec.toNat - epochOffset.toNat) * secondsToNseconds +
      rtcTimer.tvNsec.toNat + (timeSynchro.toNat % 2 ^ 32) * 10 ^ 9 / 2 ^ 32 : Nat) := by
  have epoch : epochOffset.toNat = 2208988800 := rfl
  have split : unixNanoseconds timeSynchro rtcTimer =
      ((timeSynchro.toNat * 10 ^ 9 : Nat) : ℚ) / ((2 ^ 32 : Nat) : ℚ) +
        (((rtcTimer.tvSec.toNat - 2208988800) * 10 ^ 9 + rtcTimer.tvNsec.toNat : Int) : ℚ) := by
    rw [unixNanoseconds]
    push_cast
    ring
  rw [split, Int.floor_add_intCast, Rat.floor_natCast_div_natCast, epoch, ntpSeconds_toNat,
    secondsToNseconds]
  rw [ntpSeconds_toNat] at after
  omega

end Conversion

/-- The divisor one below `2 ^ 32` adds less than a nanosecond. -/
theorem ntpNanoseconds_cases (timeSynchro : UInt64) :
    (ntpNanoseconds timeSynchro).toNat = (timeSynchro.toNat % 2 ^ 32) * 10 ^ 9 / 2 ^ 32 ∨
      (ntpNanoseconds timeSynchro).toNat = (timeSynchro.toNat % 2 ^ 32) * 10 ^ 9 / 2 ^ 32 + 1 := by
  rw [ntpNanoseconds_toNat]
  omega

/-- Within a second by the fraction; a whole fraction is not above the next second. -/
theorem ntpSeconds_monotone {timeSynchro later : UInt64} (before : timeSynchro ≤ later) :
    (ntpSeconds timeSynchro).toNat = (ntpSeconds later).toNat ∧
        (ntpNanoseconds timeSynchro).toNat ≤ (ntpNanoseconds later).toNat ∨
      (ntpSeconds timeSynchro).toNat + 1 ≤ (ntpSeconds later).toNat := by
  have ordered := UInt64.le_iff_toNat_le.mp before
  rw [ntpSeconds_toNat, ntpSeconds_toNat, ntpNanoseconds_toNat, ntpNanoseconds_toNat]
  by_cases same : timeSynchro.toNat / 2 ^ 32 = later.toNat / 2 ^ 32
  · refine .inl ⟨same, ?_⟩
    have fraction : timeSynchro.toNat % 2 ^ 32 ≤ later.toNat % 2 ^ 32 := by omega
    exact Nat.div_le_div_right (Nat.mul_le_mul_right _ fraction)
  · exact .inr (by omega)

/-- From the Unix epoch on, the conversion stays in range, is the Unix time in nanoseconds rounded
down or one more, and does not go back when the timestamp goes on. -/
theorem timeSynchroUs_unix {timeSynchro : UInt64} {rtcTimer : Timespec}
    (after : 2208988800 ≤ (ntpSeconds timeSynchro).toNat) (seconds : rtcTimer.tvSec.toNat < 2 ^ 32)
    (nanoseconds : rtcTimer.tvNsec.toNat < 10 ^ 9) :
    InRange timeSynchro rtcTimer ∧
      (((timeSynchroUs timeSynchro rtcTimer).toNat : Int) = ⌊unixNanoseconds timeSynchro rtcTimer⌋ ∨
        ((timeSynchroUs timeSynchro rtcTimer).toNat : Int) =
          ⌊unixNanoseconds timeSynchro rtcTimer⌋ + 1) ∧
      ∀ later, timeSynchro ≤ later →
        timeSynchroUs timeSynchro rtcTimer ≤ timeSynchroUs later rtcTimer := by
  have value := timeSynchroUs_toNat timeSynchro after seconds nanoseconds
  refine ⟨inRange timeSynchro after seconds nanoseconds, ?_, fun later before => ?_⟩
  · rw [floor_unixNanoseconds timeSynchro after, value]
    cases ntpNanoseconds_cases timeSynchro with
    | inl exact => exact .inl (by rw [exact])
    | inr above => exact .inr (by rw [above, ← Nat.add_assoc, Nat.cast_succ])
  · have order := ntpSeconds_monotone before
    have after' : 2208988800 ≤ (ntpSeconds later).toNat := by omega
    have value' := timeSynchroUs_toNat later after' seconds nanoseconds
    have fraction := ntpNanoseconds_le timeSynchro
    have epoch : epochOffset.toNat = 2208988800 := rfl
    rw [UInt64.le_iff_toNat_le, value, value', epoch, secondsToNseconds]
    omega

/-- Half a second into 2024, with the RTC at 5.25 seconds. -/
theorem timeSynchroUs_unix_2024 :
    ((timeSynchroUs 0xE93C7F0080000000 ⟨5, 250000000⟩).toNat : Int) =
        ⌊unixNanoseconds 0xE93C7F0080000000 ⟨5, 250000000⟩⌋ ∨
      ((timeSynchroUs 0xE93C7F0080000000 ⟨5, 250000000⟩).toNat : Int) =
        ⌊unixNanoseconds 0xE93C7F0080000000 ⟨5, 250000000⟩⌋ + 1 :=
  (timeSynchroUs_unix (by rw [ntpSeconds_toNat]; decide) (by decide) (by decide)).2.1

end PlhrFirmware.Pipeline
