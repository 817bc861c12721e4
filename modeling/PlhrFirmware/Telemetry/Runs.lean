import PlhrFirmware.Telemetry.Delivery

/-! # Runs from the converter to the message

Existence of runs in which every buffer is read as soon as it is filled, by induction on their
length: the words of a transfer, the words of a pass, any number of buffers, a message.
-/

namespace PlhrFirmware.Telemetry

open PlhrFirmware.Lib PlhrFirmware.Message PlhrFirmware.Acquisition PlhrFirmware.Pipeline

/-- The backlog of messages, which the steps of the channel leave alone. -/
def FewMessages (state : State) : Prop :=
  state.pipeline.posted.length ≤ state.pipeline.published.length + (nMsgDataMax - 1)

theorem keeping_quiet {state : State} {event : Event} (few : FewMessages state)
    (noComplete : event ≠ .complete) (noInterrupt : event ≠ .isr) : Keeping state event :=
  ⟨fun complete => absurd complete noComplete, fun interrupt => absurd interrupt noInterrupt, few⟩

/-- More words of the transfer under way. -/
theorem reachable_words {state : State} (reached : Reachable step Keeping initial state)
    (few : FewMessages state) (count : Nat) (room : state.position + count ≤ dmaBuffSize) :
    ∃ result, Reachable step Keeping initial result ∧ result.acquisition = state.acquisition ∧
      result.pipeline = state.pipeline ∧ result.position = state.position + count := by
  induction count with
  | zero => exact ⟨state, reached, rfl, rfl, rfl⟩
  | succ count inductionHypothesis =>
    obtain ⟨middle, before, acquisition, pipeline, position⟩ := inductionHypothesis (by omega)
    have armed := (keptUp_of_reachable (reachable_acquisition before)).inStep.armed
    have less : middle.position < dmaBuffSize := by omega
    have stepped : step middle (.sample 0) = some _ := (dif_pos less).trans (if_pos armed)
    have fewer : FewMessages middle := by
      rw [FewMessages, pipeline]
      exact few
    refine ⟨_, .next before (keeping_quiet fewer (by simp) (by simp)) stepped, acquisition, pipeline, ?_⟩
    simp only [position, Nat.add_assoc]

/-- More words of the pass under way. -/
theorem reachable_reads {state : State} (reached : Reachable step Keeping initial state)
    (few : FewMessages state) (busy : state.acquisition.busy = true) (count : Nat)
    (room : state.taken + count ≤ dmaBuffSize) :
    ∃ result, Reachable step Keeping initial result ∧ result.acquisition = state.acquisition ∧
      result.pipeline = state.pipeline ∧ result.position = state.position ∧
      result.taken = state.taken + count := by
  induction count with
  | zero => exact ⟨state, reached, rfl, rfl, rfl, rfl⟩
  | succ count inductionHypothesis =>
    obtain ⟨middle, before, acquisition, pipeline, position, taken⟩ := inductionHypothesis (by omega)
    have less : middle.taken < dmaBuffSize := by omega
    have running : middle.acquisition.busy = true := by rw [acquisition, busy]
    have stepped : step middle .read = some _ := (dif_pos less).trans (if_pos running)
    have fewer : FewMessages middle := by
      rw [FewMessages, pipeline]
      exact few
    refine ⟨_, .next before (keeping_quiet fewer (by simp) (by simp)) stepped, acquisition, pipeline,
      position, ?_⟩
    simp only [taken, Nat.add_assoc]

/-- Between two buffers, with `count` of them filled, served and read. -/
structure Level (state : State) (count : Nat) : Prop where
  reached : Reachable step Keeping initial state
  served : state.acquisition.doneFlag = false
  idle : state.acquisition.busy = false
  completed : state.acquisition.completed.length = count
  processed : state.acquisition.processed.length = count
  position : state.position = 0

/-- A buffer is filled, and the interrupt serves it. -/
theorem Level.serve {state : State} {count : Nat} (level : Level state count)
    (few : FewMessages state) :
    ∃ result, Reachable step Keeping initial result ∧ result.acquisition.doneFlag = false ∧
      result.acquisition.busy = false ∧ result.acquisition.completed.length = count + 1 ∧
      result.acquisition.processed.length = count ∧ result.position = 0 ∧
      result.pipeline = state.pipeline := by
  obtain ⟨full, filled, acquisition, pipeline, position⟩ :=
    reachable_words level.reached few dmaBuffSize (by rw [level.position, Nat.zero_add])
  rw [level.position, Nat.zero_add] at position
  have fewer : FewMessages full := by
    rw [FewMessages, pipeline]
    exact few
  have served : full.acquisition.doneFlag = false := by rw [acquisition, level.served]
  have inStep := (keptUp_of_reachable (reachable_acquisition filled)).inStep
  obtain ⟨done, stepped, flag, busy, processed, completed⟩ := inStep.complete_enabled
  have completes : step full .complete = some { full with acquisition := done, position := 0 } := by
    simp only [step, if_pos position, State.channel, stepped, Option.map_some]
  have finished := Reachable.next filled ⟨fun _ => served, by simp, fewer⟩ completes
  -- one buffer is outstanding, and the lag is at least two
  have outstanding : done.outstanding = 1 := by
    rw [State.outstanding, completed, processed, busy, acquisition, level.completed, level.processed,
      level.idle]
    simp
  have backlog : done.outstanding < lag done.wraps := by
    rw [outstanding, lag]
    simp only [dmaNumBuffers]
    omega
  have interrupt : Acquisition.step done .isr =
      some { done with globals := isrDmaDone done.globals, doneFlag := false } := if_pos flag
  have serves : step { full with acquisition := done, position := 0 } .isr = some _ :=
    channel_eq_some.mpr ⟨_, interrupt, rfl⟩
  refine ⟨_, .next finished ⟨by simp, fun _ => backlog, fewer⟩ serves, rfl, ?_, ?_, ?_, rfl, pipeline⟩
  · simp only [busy, acquisition, level.idle]
  · simp only [completed, acquisition, level.completed]
  · simp only [processed, acquisition, level.processed]

/-- The buffer just filled is read to its end. -/
theorem Level.next {state : State} {count : Nat} (level : Level state count)
    (few : FewMessages state) :
    ∃ result bufferDownsampling, Level result (count + 1) ∧
      result.pipeline = threadDownsampling bufferDownsampling state.pipeline := by
  obtain ⟨ready, served, flag, idle, completed, processed, position, pipeline⟩ := level.serve few
  have fewer : FewMessages ready := by
    rw [FewMessages, pipeline]
    exact few
  -- the post of the buffer is still on the semaphore
  have posts := (keptUp_of_reachable (reachable_acquisition served)).inStep.completed_length
  rw [flag, completed, Bool.toNat_false, State.posts, processed] at posts
  have enabled : ¬ ready.acquisition.busy = true ∧ 0 < ready.acquisition.globals.dwsSemaphore :=
    ⟨by rw [idle]; simp, by omega⟩
  have pend : Acquisition.step ready.acquisition .pend = some _ := if_pos enabled
  have pends : step ready .pend = some _ := channel_eq_some.mpr ⟨_, pend, rfl⟩
  have begun := Reachable.next served (keeping_quiet fewer (by simp) (by simp)) pends
  obtain ⟨whole, read, acquisition, same, kept, taken⟩ :=
    reachable_reads begun fewer rfl dmaBuffSize (by simp)
  rw [Nat.zero_add] at taken
  have busy : whole.acquisition.busy = true := by rw [acquisition]
  have fewest : FewMessages whole := by
    rw [FewMessages, same]
    exact fewer
  have finish : Acquisition.step whole.acquisition .finish = some _ := if_pos busy
  have finishes : step whole .finish = some _ :=
    (if_pos taken).trans (channel_eq_some.mpr ⟨_, finish, rfl⟩)
  have ended := Reachable.next read (keeping_quiet fewest (by simp) (by simp)) finishes
  refine ⟨_, whole.bufferDownsampling, ⟨ended, ?_, rfl, ?_, ?_, ?_⟩, ?_⟩
  · simp only [acquisition, flag]
  · simp only [acquisition, completed]
  · simp only [acquisition, List.length_append, List.length_singleton, processed]
  · simp only [kept, position]
  · simp only [same, pipeline]

/-- Steps of the threads that add no message. -/
theorem reachable_threads {state : State} (reached : Reachable step Keeping initial state)
    (few : FewMessages state) {event : Pipeline.Event} {pipeline : Pipeline.State}
    (noPass : ∀ bufferDownsampling, event ≠ .pass bufferDownsampling)
    (stepped : Pipeline.step state.pipeline event = some pipeline) :
    Reachable step Keeping initial { state with pipeline := pipeline } := by
  have threads : state.threads event = some _ := threads_eq_some.mpr ⟨_, stepped, rfl⟩
  refine .next reached (@keeping_quiet state (.other event) few (by simp) (by simp)) ?_
  cases event with
  | pass bufferDownsampling => exact absurd rfl (noPass bufferDownsampling)
  | _ => exact threads

/-- `count` buffers with sending enabled and nothing taken from the semaphore, for less than
ten messages. -/
theorem exists_level (count : Nat) (bound : count < dataBufferMax * nMsgDataMax) :
    ∃ state, Level state count ∧ state.pipeline.passes = count ∧
      state.pipeline.sendData.phase = .pend ∧ state.pipeline.sendDataStatus = .start ∧
      state.pipeline.published = [] := by
  induction count with
  | zero =>
    have few : FewMessages initial := Nat.zero_le _
    have connected := reachable_threads .start few (by simp)
      (show Pipeline.step initial.pipeline (.wlan true) = some _ from rfl)
    have enabled := reachable_threads connected (by simp [FewMessages, initial, Pipeline.initial])
      (by simp) (show Pipeline.step _ .testWifi = some _ from rfl)
    exact ⟨_, ⟨enabled, rfl, rfl, rfl, rfl, rfl⟩, rfl, rfl, rfl, rfl⟩
  | succ count inductionHypothesis =>
    obtain ⟨state, level, passes, phase, status, published⟩ := inductionHypothesis (by omega)
    have few : FewMessages state := by
      have posted := (reachable_handover (reachable_pipeline level.reached)).counted.posted
      rw [passes] at posted
      rw [FewMessages, posted, published]
      simp only [dataBufferMax, nMsgDataMax, List.length_nil] at bound ⊢
      omega
    obtain ⟨result, bufferDownsampling, next, pipeline⟩ := level.next few
    have passed := threadDownsampling_passed bufferDownsampling state.pipeline
    rw [← pipeline] at passed
    refine ⟨result, next, by rw [passed.passes, passes], ?_, ?_, ?_⟩
    · rw [passed.untouched.sendData, phase]
    · rw [passed.untouched.sendDataStatus, status]
    · rw [passed.untouched.published, published]

theorem exists_published : ∃ state, Reachable step Keeping initial state ∧
    state.pipeline.published.length = 1 := by
  obtain ⟨state, level, passes, phase, status, published⟩ := exists_level dataBufferMax (by decide)
  have handover := reachable_handover (reachable_pipeline level.reached)
  have posted : state.pipeline.posted.length = 1 := by
    rw [handover.counted.posted, passes]
    rfl
  have semaphore : 0 < state.pipeline.sendDataSemaphore := by
    have sending := handover.sending.semaphore
    rw [posted, published, phase] at sending
    exact Nat.lt_of_lt_of_eq Nat.one_pos sending.symm
  have few (publishedLater : List MsgData) : state.pipeline.posted.length ≤
      publishedLater.length + (nMsgDataMax - 1) := by
    rw [posted]
    exact Nat.le_add_left _ _
  have taken := reachable_threads level.reached (few _) (by simp)
    (SendStep.step (.pend phase semaphore))
  have headed := reachable_threads taken (few _) (by simp) (SendStep.step (.header rfl))
  have polled := reachable_threads headed (few _) (by simp) (SendStep.step (.poll rfl status))
  have called := reachable_threads polled (few _) (by simp) (SendStep.step (.call rfl))
  have sent := reachable_threads called (few _) (by simp) (SendStep.step (.publish rfl))
  refine ⟨_, sent, ?_⟩
  show (state.pipeline.published ++ [_]).length = 1
  rw [published]
  rfl

end PlhrFirmware.Telemetry
