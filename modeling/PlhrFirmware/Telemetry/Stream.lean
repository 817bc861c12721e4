import PlhrFirmware.Pipeline.Packing
import PlhrFirmware.Telemetry.Runs

/-! # The published samples

What the messages carry of the sample stream (`published_samples`), and what a receiver decodes
from their bytes before the write counter wraps (`decoded_samples`): the transfers in their order,
with one empty buffer behind the second.  `reads_while_filling_iff` says when a pass reads the
buffer that the channel is writing.
-/

namespace PlhrFirmware.Telemetry

open PlhrFirmware.Lib PlhrFirmware.Message PlhrFirmware.Acquisition PlhrFirmware.Pipeline

/-! ## Sources -/

theorem apart_iff (n : Nat) : Apart n ↔ (n + 2) / 65536 % 15 ≠ 2 := by
  unfold Apart written dmaNumBuffers
  split <;> omega

/-- Before the write counter wraps a pass reads the transfer before its own, except for the
first three. -/
theorem sourceOf_early {n : Nat} (samples : List UInt16) (early : n < 65535) :
    sourceOf samples n = if n < 2 then transferOf samples n
      else if n = 2 then fun _ => 0 else transferOf samples (n - 1) := by
  by_cases first : n < 2
  · have own : written n = n % dmaNumBuffers := (written_eq_mod_iff n).mpr first
    rw [if_pos first, sourceOf, filledBy, ← own, lastTo_succ_self]
  rw [if_neg first]
  by_cases third : n = 2
  · subst third
    rfl
  · have goes : written (n - 1) = n % dmaNumBuffers := by
      rw [written_of_ge (by omega)]
      simp only [dmaNumBuffers]
      omega
    have elsewhere : ∀ m, n - 1 < m → m < n + 1 → written m ≠ n % dmaNumBuffers := by
      intro m behind before
      have own : m = n := by omega
      rw [own]
      exact fun same => first ((written_eq_mod_iff n).mp same)
    rw [if_neg third, sourceOf, filledBy, lastTo_eq_some (by omega) goes elsewhere]

/-! ## Messages -/

theorem published_samples {state : State} (reached : Reachable step Keeping initial state)
    (k : Nat) (message : MsgData) (published : state.pipeline.published[k]? = some message)
    (i : Fin dataBufferMax) (turn : (dataBufferMax * k + i + 2) / 65536 % 15 ≠ 2) :
    message.p.p i = ⟨UInt64.ofNat (dataBufferMax * k + i),
      packing (sourceOf state.samples (dataBufferMax * k + i))⟩ := by
  have faithful := reachable_allFaithful (reachable_pipeline reached) SmallBacklog.keepsTime k message
    published
  obtain ⟨bufferDownsampling, read, block⟩ := faithful.2 i
  have source := (reachable_passing reached).2.ended _ _ read ((apart_iff _).mpr turn)
  rw [block, source]

theorem published_samples_first : ∃ state message, Reachable step Keeping initial state ∧
    state.pipeline.published[0]? = some message ∧
      message.p.p 3 = ⟨3, packing (sourceOf state.samples 3)⟩ := by
  obtain ⟨state, reached, count⟩ := exists_published
  have published : state.pipeline.published[0]? = some state.pipeline.published[0] :=
    List.getElem?_eq_getElem _
  exact ⟨state, _, reached, published, published_samples reached 0 _ published 3 (by decide)⟩

/-- The samples whose averages block `n` carries, before the write counter wraps. -/
def carried (samples : List UInt16) (n : Nat) : DmaBuffer :=
  if n < 2 then transferOf samples n else if n = 2 then fun _ => 0 else transferOf samples (n - 1)

/-- The decoder reads back the averages that were packed. -/
theorem decode_packing (buffer : DmaBuffer) : ∃ printed,
    printValuesDownsampled (packing buffer).toList 150 = .ok printed ∧
      printed.map UInt16.toNat = averages buffer := by
  have image : (packing buffer).toList = packedBytes buffer 50 :=
    packingLoop_toList buffer (Vector.replicate _ 0)
  obtain ⟨printed, ran, values⟩ := @printValues_rounds buffer 50 le_rfl
  refine ⟨printed, ?_, values.trans (pairs_eq 50)⟩
  rw [image]
  exact ran

/-- The bytes of a message, decoded block by block. -/
theorem decoded_samples {state : State} (reached : Reachable step Keeping initial state)
    (k : Nat) (message : MsgData) (published : state.pipeline.published[k]? = some message)
    (i : Fin dataBufferMax) (early : dataBufferMax * k + i < 65535) :
    leValue (slice message.bytes (blockOffset i) 8) = dataBufferMax * k + i ∧
      ∃ printed,
        printValuesDownsampled (slice message.bytes (blockOffset i + 8) dataBufferL) 150 = .ok printed ∧
          printed.map UInt16.toNat = averages (carried state.samples (dataBufferMax * k + i)) := by
  have faithful := reachable_allFaithful (reachable_pipeline reached) SmallBacklog.keepsTime k message
    published
  obtain ⟨bufferDownsampling, read, block⟩ := faithful.2 i
  have apart : Apart (dataBufferMax * k + i) := by
    rw [apart_iff]
    omega
  have source := (reachable_passing reached).2.ended _ _ read apart
  rw [sourceOf_early _ early] at source
  rw [message.slice_bufferId, message.slice_samples, block, source]
  refine ⟨?_, decode_packing _⟩
  rw [UInt64.toNat_ofNat']
  exact Nat.mod_eq_of_lt (by omega)

theorem decoded_samples_first : ∃ state message, Reachable step Keeping initial state ∧
    state.pipeline.published[0]? = some message ∧
      ∃ printed, printValuesDownsampled (slice message.bytes (blockOffset 3 + 8) dataBufferL) 150 =
          .ok printed ∧
        printed.map UInt16.toNat = averages (transferOf state.samples 2) := by
  obtain ⟨state, reached, count⟩ := exists_published
  have published : state.pipeline.published[0]? = some state.pipeline.published[0] :=
    List.getElem?_eq_getElem _
  exact ⟨state, _, reached, published, (decoded_samples reached 0 _ published 3 (by decide)).2⟩

/-! ## A pass against the transfer under way -/

/-- A pass under way reads the buffer that the channel is writing exactly when the backlog has
one value, which each wrap of the write counter moves by 16. -/
theorem reads_while_filling_iff {state : Acquisition.State}
    (reached : Reachable Acquisition.step Prompt Acquisition.initial state)
    (busy : state.busy = true) :
    state.activeControl.buffer = state.cntBufferIn ↔
      state.outstanding % dmaNumBuffers =
        (16 * ((state.completed.length + 1) / 65536) + 29) % dmaNumBuffers := by
  obtain ⟨served, inStep⟩ := prompt_inStep reached
  have reading := reachable_reading reached
  have begun := reading.busy busy
  have enough := inStep.processed_le_completed
  have filling : state.activeControl.buffer = written state.completed.length := by
    rw [inStep.filling, inStep.completed_length]
  rw [filling, reading.next, State.outstanding, busy]
  simp only [Bool.toNat_true, dmaNumBuffers]
  unfold written dmaNumBuffers
  split <;> omega

theorem reads_while_filling_iff_first : ∃ state,
    exec Acquisition.step Acquisition.initial [.complete, .isr, .pend] = some state ∧
      (state.activeControl.buffer = state.cntBufferIn ↔
        state.outstanding % dmaNumBuffers =
          (16 * ((state.completed.length + 1) / 65536) + 29) % dmaNumBuffers) ∧
      state.activeControl.buffer ≠ state.cntBufferIn :=
  ⟨_, rfl, reads_while_filling_iff (.of_exec [.complete, .isr, .pend] (by decide) rfl) rfl,
    by decide⟩

end PlhrFirmware.Telemetry
