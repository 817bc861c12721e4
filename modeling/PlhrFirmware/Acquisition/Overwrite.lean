import PlhrFirmware.Acquisition.Order
import Mathlib.Logic.Function.Iterate

/-! # Which buffer the interrupt arms

The interrupt arms `cnt_dma_write % DMA_NUM_BUFFERS` after its increment.  The counter is 16
bits wide and 65536 is not a multiple of 30, so every wrap moves the armed index 16 places
relative to the read index.  `lag` is the distance in posted buffers from the armed index
back to the buffer that shares it, and `spares_iff` says that this distance is exactly the
backlog that the reader may have.
-/

namespace PlhrFirmware.Acquisition

open PlhrFirmware.Lib

/-- Buffers completed and not yet processed to the end, the one just completed and the one
being processed included. -/
def State.outstanding (state : State) : Nat :=
  state.completed.length - (state.processed.length - state.busy.toNat)

def State.willRead (state : State) (d : Nat) : Nat := ringAdvance^[d] state.cntBufferIn

def State.armedIndex (state : State) : Nat :=
  (isrDmaDone state.globals).cntDmaWrite.toNat % dmaNumBuffers

/-- The interrupt arms neither a buffer that is still to be read nor the one being filled. -/
def Spares (state : State) : Prop :=
  (∀ d < state.outstanding, state.willRead d ≠ state.armedIndex) ∧
    state.activeControl.buffer ≠ state.armedIndex

/-- How often `cnt_dma_write` has wrapped once the interrupt for the last completed transfer
has run: it starts at 2 and is incremented once for each transfer. -/
def State.wraps (state : State) : Nat := (state.completed.length + 2) / 65536

/-- The backlog at which the armed index meets a buffer still to be read. -/
def lag (wraps : Nat) : Nat := (16 * wraps + 27) % dmaNumBuffers + 1

example : (List.range 16).map lag = [28, 14, 30, 16, 2, 18, 4, 20, 6, 22, 8, 24, 10, 26, 12, 28] := by
  decide

theorem ringAdvance_iterate (index d : Nat) :
    ringAdvance^[d] (index % dmaNumBuffers) = (index + d) % dmaNumBuffers := by
  induction d with
  | zero => rfl
  | succ d inductionHypothesis =>
    rw [Function.iterate_succ_apply', inductionHypothesis, ringAdvance]
    simp only [dmaNumBuffers]
    omega

theorem InStep.armedIndex {state : State} {served : Nat} (inStep : InStep state served)
    (pending : state.doneFlag = true) :
    state.armedIndex = (state.completed.length + 2) % 65536 % dmaNumBuffers := by
  obtain ⟨result, stepped⟩ : ∃ result, step state .isr = some result := by
    simp [step, pending]
  -- the armed index is the counter that the interrupt leaves
  have after := inStep.isr stepped
  simp only [step, pending, if_true, Option.some.injEq] at stepped
  have counter := after.counter
  rw [← stepped] at counter
  rw [State.armedIndex, inStep.completed_length, pending]
  simp only at counter
  rw [counter, UInt16.toNat_ofNat']
  rfl

theorem InStep.spares_iff {state : State} {served : Nat} (inStep : InStep state served)
    (reading : Reading state) (pending : state.doneFlag = true) :
    Spares state ↔ state.outstanding < lag state.wraps := by
  have armed := inStep.armedIndex pending
  have count := inStep.completed_length
  have enough := inStep.processed_le_completed
  have filling : state.activeControl.buffer = written state.completed.length := by
    rw [inStep.filling, count]
  rw [pending, Bool.toNat_true] at count
  have read (d : Nat) : state.willRead d =
      (state.processed.length - state.busy.toNat + d) % dmaNumBuffers := by
    rw [State.willRead, reading.next, ringAdvance_iterate]
  unfold Spares State.outstanding lag State.wraps
  simp only [read, armed, filling, dmaNumBuffers]
  generalize state.completed.length = posted at *
  have finished : state.processed.length - state.busy.toNat ≤ posted := by omega
  generalize state.processed.length - state.busy.toNat = done at finished
  constructor
  · rintro ⟨spares, _⟩
    by_contra late
    -- the outstanding buffer that lies exactly one lag behind shares the armed index
    exact spares (posted - done - ((16 * ((posted + 2) / 65536) + 27) % 30 + 1)) (by omega) (by omega)
  · intro early
    refine ⟨fun d bound => by omega, ?_⟩
    -- the buffer being filled is never the one that is armed, also when the counter wraps
    unfold written dmaNumBuffers
    split <;> omega

/-- Whenever the interrupt of a prompt run is due, it spares every buffer in use exactly when
the backlog is below the lag. -/
theorem interrupt_spares_iff {state : State} (reached : Reachable step Prompt initial state)
    (pending : state.doneFlag = true) : Spares state ↔ state.outstanding < lag state.wraps := by
  obtain ⟨served, inStep⟩ := prompt_inStep reached
  exact inStep.spares_iff (reachable_reading reached) pending

/-- Transfers without a pass, the last of which has not been served. -/
def unread (served : Nat) : List Event :=
  (List.replicate served [.complete, .isr]).flatten ++ [.complete]

/-- The backlog is one below the lag, or has reached it. -/
theorem interrupt_spares_iff_behind :
    (∃ state, exec step initial (unread 26) = some state ∧ state.outstanding = 27 ∧ Spares state) ∧
      ∃ state, exec step initial (unread 27) = some state ∧ state.outstanding = 28 ∧
        ¬ Spares state := by
  constructor
  · have seen : (exec step initial (unread 26)).map (fun state =>
        (state.doneFlag, state.outstanding, state.wraps)) = some (true, 27, 0) := by decide +kernel
    obtain ⟨state, ran, outcome⟩ := Option.map_eq_some_iff.mp seen
    simp only [Prod.mk.injEq] at outcome
    obtain ⟨pending, backlog, wraps⟩ := outcome
    refine ⟨state, ran, backlog, ?_⟩
    rw [interrupt_spares_iff (.of_exec (unread 26) (by decide +kernel) ran) pending, backlog, wraps]
    decide
  · have seen : (exec step initial (unread 27)).map (fun state =>
        (state.doneFlag, state.outstanding, state.wraps)) = some (true, 28, 0) := by decide +kernel
    obtain ⟨state, ran, outcome⟩ := Option.map_eq_some_iff.mp seen
    simp only [Prod.mk.injEq] at outcome
    obtain ⟨pending, backlog, wraps⟩ := outcome
    refine ⟨state, ran, backlog, ?_⟩
    rw [interrupt_spares_iff (.of_exec (unread 27) (by decide +kernel) ran) pending, backlog, wraps]
    decide

/-! ## Runs with a bounded backlog -/

/-- A prompt run in which no interrupt finds more than 27 outstanding buffers. -/
def Bounded (state : State) (event : Event) : Prop :=
  Prompt state event ∧ (event = .isr → state.outstanding ≤ 27)

instance (state : State) (event : Event) : Decidable (Bounded state event) :=
  inferInstanceAs (Decidable (_ ∧ (_ → _)))

theorem Bounded.prompt {state : State} (reached : Reachable step Bounded initial state) :
    Reachable step Prompt initial state :=
  reached.weaken fun _ _ bounded => bounded.1

theorem InStep.complete_enabled {state : State} {served : Nat} (inStep : InStep state served) :
    ∃ result, step state .complete = some result ∧ result.doneFlag = true ∧
      result.busy = state.busy ∧ result.processed = state.processed ∧
      result.completed.length = state.completed.length + 1 := by
  exact ⟨_, if_pos inStep.armed, rfl, rfl, rfl, by simp⟩

/-- Between two passes and with nothing left to serve, after `posted` transfers and
`processed` passes. -/
structure Resting (state : State) (posted processed : Nat) : Prop where
  reached : Reachable step Bounded initial state
  served : state.doneFlag = false
  idle : state.busy = false
  posted : state.completed.length = posted
  processed : state.processed.length = processed

theorem Resting.complete {state : State} {posted processed : Nat}
    (resting : Resting state posted processed) :
    ∃ result, Reachable step Bounded initial result ∧ result.doneFlag = true ∧
      result.busy = false ∧ result.completed.length = posted + 1 ∧
      result.processed.length = processed := by
  obtain ⟨served, inStep⟩ := prompt_inStep (Bounded.prompt resting.reached)
  obtain ⟨result, stepped, flag, busy, read, count⟩ := inStep.complete_enabled
  refine ⟨result, .next resting.reached ⟨fun _ => resting.served, by simp⟩ stepped, flag, ?_, ?_, ?_⟩
  · rw [busy, resting.idle]
  · rw [count, resting.posted]
  · rw [read, resting.processed]

theorem Resting.serve {state : State} {posted processed : Nat}
    (resting : Resting state posted processed) (room : posted < processed + 27) :
    ∃ result, Resting result (posted + 1) processed := by
  obtain ⟨middle, reached, flag, busy, count, read⟩ := resting.complete
  have stepped : step middle .isr =
      some { middle with globals := isrDmaDone middle.globals, doneFlag := false } := if_pos flag
  have backlog : middle.outstanding ≤ 27 := by
    simp only [State.outstanding, busy, Bool.toNat_false]
    omega
  exact ⟨_, .next reached ⟨by simp [Prompt], fun _ => backlog⟩ stepped, rfl, busy, count, read⟩

theorem Resting.pass {state : State} {posted processed : Nat}
    (resting : Resting state posted processed) (behind : processed < posted) :
    ∃ result, Resting result posted (processed + 1) := by
  obtain ⟨served, inStep⟩ := prompt_inStep (Bounded.prompt resting.reached)
  have count := inStep.completed_length
  have posts := inStep.posts
  rw [resting.served, resting.posted, Bool.toNat_false] at count
  rw [State.posts, resting.processed] at posts
  have enabled : ¬ state.busy = true ∧ 0 < state.globals.dwsSemaphore := by
    rw [resting.idle]; exact ⟨by simp, by omega⟩
  have pend : step state .pend = some { state with
      globals := { state.globals with dwsSemaphore := state.globals.dwsSemaphore - 1 }
      busy := true
      processed := state.processed ++ [state.cntBufferIn] } := if_pos enabled
  have begun := Reachable.next resting.reached ⟨by simp [Prompt], by simp⟩ pend
  have ended := Reachable.next begun ⟨by simp [Prompt], by simp⟩
    (show step _ .finish = some _ from rfl)
  exact ⟨_, ended, resting.served, rfl, resting.posted, by simp [resting.processed]⟩

theorem resting_keeping_up (posted : Nat) : ∃ state, Resting state posted posted := by
  induction posted with
  | zero => exact ⟨initial, .start, rfl, rfl, rfl, rfl⟩
  | succ posted inductionHypothesis =>
    obtain ⟨state, resting⟩ := inductionHypothesis
    obtain ⟨middle, ahead⟩ := resting.serve (by omega)
    exact ahead.pass (by omega)

theorem resting_behind (processed backlog : Nat) (bound : backlog ≤ 27) :
    ∃ state, Resting state (processed + backlog) processed := by
  induction backlog with
  | zero => exact resting_keeping_up processed
  | succ backlog inductionHypothesis =>
    obtain ⟨state, resting⟩ := inductionHypothesis (by omega)
    exact resting.serve (by omega)

/-- After 65534 transfers the counter wraps to 0; with 14 buffers outstanding, index 0 is the
one that the thread reads next. -/
theorem wrapped_interrupt_overwrites :
    ∃ state, Reachable step Bounded initial state ∧ state.doneFlag = true ∧
      state.outstanding = 14 ∧ ¬ Spares state := by
  -- 65520 passes, 13 transfers more that are served, and one that is not
  obtain ⟨_, resting⟩ := resting_behind 65520 13 (by omega)
  obtain ⟨state, reached, pending, idle, posted, processed⟩ := resting.complete
  obtain ⟨served, inStep⟩ := prompt_inStep (Bounded.prompt reached)
  have backlog : state.outstanding = 14 := by
    rw [State.outstanding, posted, processed, idle]; rfl
  refine ⟨state, reached, pending, backlog, ?_⟩
  rw [inStep.spares_iff (reachable_reading reached) pending, backlog, State.wraps, posted]
  decide

end PlhrFirmware.Acquisition
