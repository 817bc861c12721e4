import PlhrFirmware.Telemetry.System

/-! # Which samples a pass reads

While the backlog stays below the lag, no transfer that is armed two or more places ahead of a
pass goes into its buffer (`Spared`).  The one transfer that this leaves open, the one right
behind the pass's own, goes there in every fifteenth turn of the 16-bit counter (`apart_iff`).
Apart from these a pass reads one transfer, whole: the last one of the first `n + 1` into its
buffer (`sourceOf`).
-/

namespace PlhrFirmware.Telemetry

open PlhrFirmware.Lib PlhrFirmware.Acquisition PlhrFirmware.Pipeline

/-! ## Buffers in use -/

/-- The passes that have come to their end. -/
def finished (state : Acquisition.State) : Nat := state.processed.length - state.busy.toNat

/-- No armed transfer `m` goes into the buffer of a pass `n` that is still to end, if it is two
or more ahead. -/
def Spared (state : Acquisition.State) : Prop :=
  ∀ n m, finished state ≤ n → n + 2 ≤ m → m ≤ state.posts + 1 → written m ≠ n % dmaNumBuffers

theorem spared_initial : Spared Acquisition.initial := by
  intro n m _ ahead armed
  have none : m ≤ 1 := armed
  omega

theorem armedIndex_written {state : Acquisition.State} {served : Nat} (inStep : InStep state served)
    (pending : state.doneFlag = true) : state.armedIndex = written (state.posts + 2) := by
  rw [inStep.armedIndex pending, inStep.completed_length, inStep.posts, pending,
    written_of_ge (by omega)]
  rfl

/-- What the interrupt arms spares the outstanding passes. -/
theorem spared_of_spares {state : Acquisition.State} {served n : Nat} (inStep : InStep state served)
    (reading : Reading state) (pending : state.doneFlag = true) (spares : Spares state)
    (unread : finished state ≤ n) (posted : n ≤ state.posts) :
    written (state.posts + 2) ≠ n % dmaNumBuffers := by
  have count := inStep.completed_length
  rw [pending, ← inStep.posts, Bool.toNat_true] at count
  have outstanding : n - finished state < state.outstanding := by
    rw [State.outstanding, count]
    show _ < _ - finished state
    omega
  have apart := spares.1 _ outstanding
  rw [armedIndex_written inStep pending, State.willRead, reading.next, ringAdvance_iterate] at apart
  have place : finished state + (n - finished state) = n := by omega
  rw [← finished, place] at apart
  exact apart.symm

theorem Spared.preserved {state result : Acquisition.State} {event : Acquisition.Event}
    {served : Nat} (spared : Spared state) (inStep : InStep state served) (reading : Reading state)
    (keepsUp : KeepsUp state event) (stepped : Acquisition.step state event = some result) :
    Spared result := by
  cases event with
  | complete =>
    simp only [Acquisition.step, Option.ite_none_right_eq_some, Option.some.injEq] at stepped
    obtain ⟨_, rfl⟩ := stepped
    exact spared
  | activate =>
    simp only [Acquisition.step, Option.ite_none_right_eq_some, Option.some.injEq] at stepped
    obtain ⟨_, rfl⟩ := stepped
    exact spared
  | isr =>
    have later := inStep.isr stepped
    have posts : result.posts = state.posts + 1 := by rw [later.posts, inStep.posts]
    simp only [Acquisition.step, Option.ite_none_right_eq_some, Option.some.injEq] at stepped
    obtain ⟨pending, rfl⟩ := stepped
    have spares := (inStep.spares_iff reading pending).mpr (keepsUp.2 rfl)
    intro n m unread ahead armed
    rw [posts] at armed
    obtain old | new := Nat.lt_succ_iff_lt_or_eq.mp (Nat.lt_succ_of_le armed)
    · exact spared n m unread ahead (by omega)
    · subst new
      exact spared_of_spares inStep reading pending spares unread (by omega)
  | pend =>
    have posts := (step_pend stepped).posts
    simp only [Acquisition.step, Option.ite_none_right_eq_some, Option.some.injEq] at stepped
    obtain ⟨⟨free, _⟩, rfl⟩ := stepped
    have idle : state.busy = false := by simpa using free
    intro n m unread ahead armed
    rw [posts] at armed
    refine spared n m ?_ ahead armed
    simpa [finished, idle] using unread
  | finish =>
    have posts := (step_finish stepped).posts
    simp only [Acquisition.step, Option.ite_none_right_eq_some, Option.some.injEq] at stepped
    obtain ⟨_, rfl⟩ := stepped
    intro n m unread ahead armed
    rw [posts] at armed
    refine spared n m (le_trans ?_ unread) ahead armed
    exact Nat.sub_le_sub_left (Nat.zero_le _) _

/-- What holds of the channel whenever it is kept up with. -/
structure KeptUp (state : Acquisition.State) : Prop where
  inStep : InStep state state.posts
  reading : Reading state
  spared : Spared state

theorem keptUp_of_reachable {state : Acquisition.State}
    (reached : Reachable Acquisition.step KeepsUp Acquisition.initial state) : KeptUp state := by
  refine reached.invariant KeptUp ⟨.initial, .initial, spared_initial⟩ ?_
  intro state event result ⟨inStep, reading, spared⟩ keepsUp stepped
  obtain ⟨served, later⟩ := inStep.preserved keepsUp.1 stepped
  refine ⟨?_, reading.preserved stepped, spared.preserved inStep reading keepsUp stepped⟩
  rw [later.posts]
  exact later

/-! ## The contents of the buffers -/

def transferOf (samples : List UInt16) (k : Nat) : DmaBuffer :=
  fun j => samples[dmaBuffSize * k + j]?.getD 0

/-- The buffer at `index` after `count` transfers: the last one that went there, or the zeros of
static memory. -/
def filledBy (samples : List UInt16) (count index : Nat) : DmaBuffer :=
  match lastTo written index count with
  | none => fun _ => 0
  | some k => transferOf samples k

theorem transferOf_append {samples : List UInt16} {k : Nat} (more : List UInt16)
    (whole : dmaBuffSize * (k + 1) ≤ samples.length) :
    transferOf (samples ++ more) k = transferOf samples k := by
  funext j
  have small := j.isLt
  rw [Nat.mul_add_one] at whole
  rw [transferOf, transferOf, List.getElem?_append_left (by omega)]

theorem filledBy_succ (samples : List UInt16) (count index : Nat) :
    filledBy samples (count + 1) index =
      if written count = index then transferOf samples count else filledBy samples count index := by
  by_cases same : written count = index
  · rw [if_pos same, filledBy, lastTo, if_pos same]
  · rw [if_neg same, filledBy, lastTo, if_neg same]
    rfl

theorem filledBy_append {samples : List UInt16} {count index : Nat} (more : List UInt16)
    (whole : dmaBuffSize * count ≤ samples.length) :
    filledBy (samples ++ more) count index = filledBy samples count index := by
  unfold filledBy
  cases last : lastTo written index count with
  | none => rfl
  | some k =>
    have before := lastTo_lt last
    exact transferOf_append more ((Nat.mul_le_mul_left _ before).trans whole)

/-- The stream of samples is cut into transfers, and each buffer holds the last transfer that
went there, up to the words of the one under way. -/
structure Filling (state : State) : Prop where
  stream : state.samples.length =
    dmaBuffSize * state.acquisition.completed.length + state.position
  position : state.position ≤ dmaBuffSize
  memory : ∀ index (j : Fin dmaBuffSize), state.dmaBuffer index j =
    if index = written state.acquisition.completed.length ∧ j < state.position then
      transferOf state.samples state.acquisition.completed.length j
    else filledBy state.samples state.acquisition.completed.length index j

theorem Filling.whole {state : State} (filling : Filling state) :
    dmaBuffSize * state.acquisition.completed.length ≤ state.samples.length := by
  rw [filling.stream]
  exact Nat.le_add_right _ _

theorem Filling.initial : Filling initial where
  stream := rfl
  position := by decide
  memory := by
    intro index j
    rw [if_neg (by intro under; exact absurd under.2 (Nat.not_lt_zero _))]
    rfl

/-- A sample goes behind those of its transfer. -/
theorem Filling.sample {state : State} {room : state.position < dmaBuffSize} {buffer : Nat}
    (filling : Filling state) (value : UInt16)
    (target : buffer = written state.acquisition.completed.length) :
    Filling { state with
      dmaBuffer := writeWord state.dmaBuffer buffer ⟨state.position, room⟩ value
      position := state.position + 1
      samples := state.samples ++ [value] } := by
  have whole := filling.whole
  obtain ⟨stream, position, memory⟩ := filling
  refine ⟨by simp [stream, Nat.add_assoc], room, ?_⟩
  subst target
  intro index j
  simp only
  rw [filledBy_append [value] whole]
  by_cases same : index = written state.acquisition.completed.length
  · subst same
    simp only [writeWord, Function.update_self, true_and]
    by_cases last : j = ⟨state.position, room⟩
    · subst last
      simp [transferOf, ← stream]
    · have other : j.val ≠ state.position := fun equal => last (Fin.ext equal)
      rw [Function.update_of_ne last, memory]
      by_cases earlier : j < state.position
      · rw [if_pos ⟨rfl, earlier⟩, if_pos (by omega), transferOf, transferOf,
          List.getElem?_append_left (by omega)]
      · rw [if_neg (by tauto), if_neg (by omega)]
  · simp only [writeWord, Function.update_of_ne same]
    rw [memory, if_neg (by tauto), if_neg (by tauto)]

theorem Filling.complete {state result : State} (filling : Filling state)
    (full : state.position = dmaBuffSize)
    (more : result.acquisition.completed.length = state.acquisition.completed.length + 1)
    (dmaBuffer : result.dmaBuffer = state.dmaBuffer) (position : result.position = 0)
    (samples : result.samples = state.samples) : Filling result := by
  obtain ⟨stream, _, memory⟩ := filling
  refine ⟨?_, by rw [position]; exact Nat.zero_le _, ?_⟩
  · rw [samples, stream, more, position, full, Nat.mul_add_one]
    rfl
  intro index j
  have empty : ¬ (index = written result.acquisition.completed.length ∧ j.val < result.position) := by
    rw [position]
    exact fun under => absurd under.2 (Nat.not_lt_zero _)
  rw [if_neg empty, dmaBuffer, memory, samples, more, filledBy_succ]
  by_cases same : written state.acquisition.completed.length = index
  · rw [if_pos ⟨same.symm, j.isLt.trans_eq full.symm⟩, if_pos same]
  · rw [if_neg (fun under => same under.1.symm), if_neg same]

theorem Filling.frame {state result : State} (filling : Filling state)
    (same : result.acquisition.completed = state.acquisition.completed)
    (dmaBuffer : result.dmaBuffer = state.dmaBuffer) (position : result.position = state.position)
    (samples : result.samples = state.samples) : Filling result := by
  obtain ⟨stream, bound, memory⟩ := filling
  refine ⟨by rw [samples, stream, same, position], position ▸ bound, ?_⟩
  rw [dmaBuffer, same, position, samples]
  exact memory

theorem Filling.preserved {state result : State} {event : Event} (filling : Filling state)
    (keptUp : KeptUp state.acquisition) (moved : Moved state event result) : Filling result := by
  have inStep := keptUp.inStep
  cases moved with
  | sample value room armed =>
    apply filling.sample
    rw [inStep.filling, inStep.completed_length]
  | complete _ full stepped =>
    refine filling.complete full ?_ rfl rfl rfl
    simp only [Acquisition.step, Option.ite_none_right_eq_some, Option.some.injEq] at stepped
    obtain ⟨_, rfl⟩ := stepped
    exact List.length_append
  | activate _ stepped | isr _ stepped =>
    simp only [Acquisition.step, Option.ite_none_right_eq_some, Option.some.injEq] at stepped
    obtain ⟨_, rfl⟩ := stepped
    exact filling.frame rfl rfl rfl rfl
  | pend _ stepped => exact filling.frame (step_pend stepped).completed rfl rfl rfl
  | finish _ _ stepped => exact filling.frame (step_finish stepped).completed rfl rfl rfl
  | read | other => exact filling.frame rfl rfl rfl rfl

/-! ## What a pass reads -/

/-- The transfer right behind that of pass `n` goes into another buffer. -/
def Apart (n : Nat) : Prop := written (n + 1) ≠ n % dmaNumBuffers

def sourceOf (samples : List UInt16) (n : Nat) : DmaBuffer :=
  filledBy samples (n + 1) (n % dmaNumBuffers)

/-- While a pass is under way, its buffer is the one that the transfers up to its own left. -/
theorem memory_of_pass {state : State} {n : Nat} (filling : Filling state)
    (keptUp : KeptUp state.acquisition) (busy : state.acquisition.busy = true)
    (current : state.acquisition.processed.length = n + 1) (apart : Apart n) :
    state.dmaBuffer (n % dmaNumBuffers) = sourceOf state.samples n := by
  have posts := keptUp.inStep.completed_length
  have pended : n + 1 ≤ state.acquisition.posts := by
    rw [State.posts, current]
    omega
  have done : finished state.acquisition = n := by
    rw [finished, current, busy]
    rfl
  have flag : state.acquisition.doneFlag.toNat ≤ 1 := Bool.toNat_le _
  have elsewhere : ∀ m, n + 1 ≤ m → m ≤ state.acquisition.completed.length →
      written m ≠ n % dmaNumBuffers := by
    intro m behind armed
    obtain next | later := Nat.eq_or_lt_of_le behind
    · rw [← next]
      exact apart
    · exact keptUp.spared n m done.le later (by omega)
  funext j
  rw [filling.memory, if_neg fun under => elsewhere _ (by omega) le_rfl under.1.symm]
  rw [sourceOf, filledBy, filledBy, lastTo_extend (show n + 1 ≤ _ by omega)]
  exact fun m behind before => elsewhere m behind before.le

theorem sourceOf_append {samples : List UInt16} {n : Nat} (more : List UInt16)
    (whole : dmaBuffSize * (n + 1) ≤ samples.length) :
    sourceOf (samples ++ more) n = sourceOf samples n :=
  filledBy_append more whole

/-- The words read so far, and the buffers of the passes that have ended. -/
structure Passing (state : State) : Prop where
  count : state.pipeline.inputs.length = finished state.acquisition
  current : state.acquisition.busy = true → Apart state.pipeline.inputs.length →
    ∀ j : Fin dmaBuffSize, j < state.taken →
      state.bufferDownsampling j = sourceOf state.samples state.pipeline.inputs.length j
  ended : ∀ n bufferDownsampling, state.pipeline.inputs[n]? = some bufferDownsampling → Apart n →
    bufferDownsampling = sourceOf state.samples n

theorem Passing.initial : Passing initial where
  count := rfl
  current := by intro busy; cases busy
  ended := by intro n bufferDownsampling read; cases read

theorem busy_count {state : State} (passing : Passing state) (keptUp : KeptUp state.acquisition)
    (busy : state.acquisition.busy = true) :
    state.acquisition.processed.length = state.pipeline.inputs.length + 1 := by
  have begun := keptUp.reading.busy busy
  rw [passing.count, finished, busy]
  simp only [Bool.toNat_true]
  omega

/-- More samples, with everything else as it was. -/
theorem Passing.extend {state result : State} (passing : Passing state) (more : List UInt16)
    (filling : Filling state) (keptUp : KeptUp state.acquisition)
    (count : finished result.acquisition = finished state.acquisition)
    (busy : result.acquisition.busy = state.acquisition.busy)
    (inputs : result.pipeline.inputs = state.pipeline.inputs)
    (buffer : result.bufferDownsampling = state.bufferDownsampling)
    (taken : result.taken = state.taken) (samples : result.samples = state.samples ++ more) :
    Passing result := by
  have whole (n : Nat) (begun : n < state.acquisition.processed.length) :
      dmaBuffSize * (n + 1) ≤ state.samples.length :=
    (Nat.mul_le_mul_left _ (begun.trans_le keptUp.inStep.processed_le_completed)).trans filling.whole
  refine ⟨by rw [inputs, count, passing.count], ?_, ?_⟩
  · intro running apart j less
    rw [busy] at running
    rw [inputs] at apart ⊢
    rw [taken] at less
    have begun := busy_count passing keptUp running
    rw [buffer, samples, sourceOf_append more (whole _ (by omega))]
    exact passing.current running apart j less
  · intro n bufferDownsampling read apart
    rw [inputs] at read
    have bound := (List.getElem?_eq_some_iff.mp read).1
    rw [passing.count, finished] at bound
    rw [samples, sourceOf_append more (whole n (by omega))]
    exact passing.ended n bufferDownsampling read apart

theorem Passing.frame {state result : State} (passing : Passing state) (filling : Filling state)
    (keptUp : KeptUp state.acquisition)
    (count : finished result.acquisition = finished state.acquisition)
    (busy : result.acquisition.busy = state.acquisition.busy)
    (inputs : result.pipeline.inputs = state.pipeline.inputs)
    (buffer : result.bufferDownsampling = state.bufferDownsampling)
    (taken : result.taken = state.taken) (samples : result.samples = state.samples) :
    Passing result :=
  passing.extend [] filling keptUp count busy inputs buffer taken (by rw [samples, List.append_nil])

theorem Passing.read {state : State} {more : state.taken < dmaBuffSize} (passing : Passing state)
    (filling : Filling state) (keptUp : KeptUp state.acquisition)
    (busy : state.acquisition.busy = true) :
    Passing { state with
      bufferDownsampling := Function.update state.bufferDownsampling ⟨state.taken, more⟩
        (state.dmaBuffer state.acquisition.cntBufferIn ⟨state.taken, more⟩)
      taken := state.taken + 1 } := by
  refine ⟨passing.count, ?_, passing.ended⟩
  intro _ apart j less
  have memory := memory_of_pass filling keptUp busy (busy_count passing keptUp busy) apart
  have index : state.acquisition.cntBufferIn = state.pipeline.inputs.length % dmaNumBuffers := by
    rw [keptUp.reading.next, passing.count, finished]
  simp only at less ⊢
  by_cases last : j = ⟨state.taken, more⟩
  · subst last
    rw [Function.update_self, index, memory]
  · have other : j.val ≠ state.taken := fun equal => last (Fin.ext equal)
    rw [Function.update_of_ne last]
    exact passing.current busy apart j (by omega)

theorem Passing.finish {state : State} {acquisition : Acquisition.State} (passing : Passing state)
    (keptUp : KeptUp state.acquisition) (whole : state.taken = dmaBuffSize)
    (stepped : Acquisition.step state.acquisition .finish = some acquisition) :
    Passing { state with
      acquisition := acquisition
      pipeline := threadDownsampling state.bufferDownsampling state.pipeline } := by
  have inputs := (threadDownsampling_passed state.bufferDownsampling state.pipeline).inputs
  simp only [Acquisition.step, Option.ite_none_right_eq_some, Option.some.injEq] at stepped
  obtain ⟨busy, rfl⟩ := stepped
  have begun := busy_count passing keptUp busy
  refine ⟨?_, (by intro impossible; cases impossible), ?_⟩
  · simp [inputs, finished, begun]
  intro n bufferDownsampling read apart
  simp only [inputs] at read
  obtain old | ⟨rfl, rfl⟩ := getElem?_append_singleton read
  · exact passing.ended n bufferDownsampling old apart
  · funext j
    exact passing.current busy apart j (j.isLt.trans_eq whole.symm)

theorem inputs_of_other {state result : Pipeline.State} {event : Pipeline.Event}
    (noPass : ∀ bufferDownsampling, event ≠ .pass bufferDownsampling)
    (stepped : Pipeline.step state event = some result) : result.inputs = state.inputs := by
  obtain ⟨bufferDownsampling, pass, _⟩ | ⟨_, sent⟩ | elsewhere := step_cases stepped
  · exact absurd pass (noPass bufferDownsampling)
  · exact sent.sent.inputs
  · exact elsewhere.inputs

theorem Passing.preserved {state result : State} {event : Event} (passing : Passing state)
    (filling : Filling state) (keptUp : KeptUp state.acquisition)
    (moved : Moved state event result) : Passing result := by
  cases moved with
  | sample value => exact passing.extend [value] filling keptUp rfl rfl rfl rfl rfl rfl
  | complete _ _ stepped | activate _ stepped | isr _ stepped =>
    simp only [Acquisition.step, Option.ite_none_right_eq_some, Option.some.injEq] at stepped
    obtain ⟨_, rfl⟩ := stepped
    exact passing.frame filling keptUp rfl rfl rfl rfl rfl rfl
  | pend _ stepped =>
    simp only [Acquisition.step, Option.ite_none_right_eq_some, Option.some.injEq] at stepped
    obtain ⟨⟨free, _⟩, rfl⟩ := stepped
    have idle : state.acquisition.busy = false := by simpa using free
    refine ⟨?_, ?_, passing.ended⟩
    · rw [passing.count]
      simp [finished, idle]
    · intro _ _ j less
      exact absurd less (Nat.not_lt_zero _)
  | read more busy => exact passing.read filling keptUp busy
  | finish _ whole stepped => exact passing.finish keptUp whole stepped
  | other _ _ noPass stepped =>
    exact passing.frame filling keptUp rfl rfl (inputs_of_other noPass stepped) rfl rfl rfl

theorem reachable_passing {state : State} (reached : Reachable step Keeping initial state) :
    Filling state ∧ Passing state := by
  induction reached with
  | start => exact ⟨.initial, .initial⟩
  | next reached _ ran inductionHypothesis =>
    obtain ⟨filling, passing⟩ := inductionHypothesis
    have keptUp := keptUp_of_reachable (reachable_acquisition reached)
    have moved := step_moved ran
    exact ⟨filling.preserved keptUp moved, passing.preserved filling keptUp moved⟩

end PlhrFirmware.Telemetry
