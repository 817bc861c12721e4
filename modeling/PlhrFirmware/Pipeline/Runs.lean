import PlhrFirmware.Pipeline.Published

/-! # Runs of any length

Existence of runs, by induction on their length: any number of passes, and any number of
messages published one by one as soon as they are posted.
-/

namespace PlhrFirmware.Pipeline

open PlhrFirmware.Lib PlhrFirmware.Message

variable {guard : State → Event → Prop}

def silence : DmaBuffer := fun _ => 0

/-- Any number of passes, without a synchronisation if none is pending. -/
theorem reachable_passes {state : State} (reached : Reachable step guard initial state) (count : Nat)
    (allowed : ∀ middle, Handover middle → Untouched state middle →
      middle.passes < state.passes + count → guard middle (.pass silence)) :
    ∃ result, exec step state (List.replicate count (.pass silence)) = some result ∧
      Reachable step guard initial result ∧ Untouched state result ∧
      result.passes = state.passes + count ∧
      (state.statusTimeSync = 0 →
        result.statusTimeSync = 0 ∧ result.captures = state.captures) := by
  induction count with
  | zero => exact ⟨state, rfl, reached, .refl state, rfl, fun quiet => ⟨quiet, rfl⟩⟩
  | succ count inductionHypothesis =>
    obtain ⟨middle, ran, before, untouched, passes, quiet⟩ := inductionHypothesis
      fun middle handover untouched fewer => allowed middle handover untouched (by omega)
    have passed := threadDownsampling_passed silence middle
    have permitted := allowed middle (reachable_handover before) untouched (by omega)
    refine ⟨_, ?_, .next before permitted rfl, untouched.trans passed.untouched, ?_, ?_⟩
    · rw [List.replicate_succ', exec_append, ran]
      rfl
    · rw [passed.passes, passes, Nat.add_assoc]
    · intro none
      obtain ⟨flag, captures⟩ := quiet none
      have kept := passed.synchronized.quiet flag
      exact ⟨kept.2.2.2, kept.2.2.1.trans captures⟩

/-- A posted message is taken, its header filled, and published while sending is enabled. -/
theorem reachable_publish {state : State} (reached : Reachable step guard initial state)
    (idle : state.sendData.phase = .pend) (posted : 0 < state.sendDataSemaphore)
    (started : state.sendDataStatus = .start)
    (allowed : ∀ middle, Handover middle → middle.inputs = state.inputs →
      middle.published = state.published → guard middle .sendData) :
    ∃ result, Reachable step guard initial result ∧ result.sendData.phase = .pend ∧
      result.sendDataStatus = .start ∧ result.inputs = state.inputs ∧
      result.published.length = state.published.length + 1 := by
  have taken := Reachable.next reached (allowed _ (reachable_handover reached) rfl rfl)
    (SendStep.step (.pend idle posted))
  have filled := Reachable.next taken (allowed _ (reachable_handover taken) rfl rfl)
    (show step _ .sendData = some _ from rfl)
  have polled := Reachable.next filled (allowed _ (reachable_handover filled) rfl rfl)
    (SendStep.step (.poll rfl started))
  have called := Reachable.next polled (allowed _ (reachable_handover polled) rfl rfl)
    (show step _ .sendData = some _ from rfl)
  have published := Reachable.next called (allowed _ (reachable_handover called) rfl rfl)
    (show step _ .sendData = some _ from rfl)
  exact ⟨_, published, rfl, started, rfl, List.length_append⟩

/-- `k` messages published, each as soon as it was posted. -/
structure Clean (guard : State → Event → Prop) (state : State) (k : Nat) : Prop where
  reached : Reachable step guard initial state
  idle : state.sendData.phase = .pend
  started : state.sendDataStatus = .start
  passes : state.passes = dataBufferMax * k
  published : state.published.length = k

/-- The states that such a run goes through. -/
def Tight (state : State) (k : Nat) : Prop :=
  state.posted.length ≤ state.published.length + 1 ∧ state.passes ≤ dataBufferMax * k

theorem Clean.next {state : State} {k : Nat} (clean : Clean guard state k)
    (allowed : ∀ middle event, Handover middle → Tight middle (k + 1) → guard middle event) :
    ∃ result, Clean guard result (k + 1) := by
  obtain ⟨reached, idle, started, passes, published⟩ := clean
  obtain ⟨full, _, filled, untouched, count, _⟩ := reachable_passes reached dataBufferMax (by
    intro middle handover untouched fewer
    rw [passes] at fewer
    apply allowed _ _ handover
    refine ⟨?_, by rw [Nat.mul_add]; omega⟩
    rw [handover.counted.posted, untouched.published, published]
    have := Nat.div_lt_of_lt_mul (show middle.passes < dataBufferMax * (k + 1) by
      rw [Nat.mul_add]; omega)
    omega)
  have posts : full.posted.length = k + 1 := by
    rw [(reachable_handover filled).counted.posted, count, passes, ← Nat.mul_add_one,
      Nat.mul_div_cancel_left _ (by decide)]
  -- its post is the only one on the semaphore
  have semaphore : 0 < full.sendDataSemaphore := by
    have semaphore := (reachable_handover filled).sending.semaphore
    rw [posts, untouched.published, untouched.sendData, published, idle] at semaphore
    simp only [Phase.taken] at semaphore
    omega
  obtain ⟨result, done, idle', started', inputs, log⟩ := reachable_publish filled
    (by rw [untouched.sendData, idle]) semaphore (by rw [untouched.sendDataStatus, started]) (by
      intro middle handover inputs log
      apply allowed _ _ handover
      have same : middle.passes = dataBufferMax * (k + 1) := by
        rw [State.passes, inputs, ← State.passes, count, passes, Nat.mul_add_one]
      refine ⟨?_, same.le⟩
      rw [handover.counted.posted, same, log, untouched.published, published,
        Nat.mul_div_cancel_left _ (by decide)])
  refine ⟨result, done, idle', started', ?_, by rw [log, untouched.published, published]⟩
  rw [State.passes, inputs, ← State.passes, count, passes, Nat.mul_add_one]

theorem exists_clean (count : Nat)
    (allowed : ∀ middle event, Handover middle → Tight middle count → guard middle event) :
    ∃ state, Clean guard state count := by
  induction count with
  | zero =>
    have connected := Reachable.next .start (allowed _ (.wlan true) .initial ⟨by decide, by decide⟩)
      (show step initial _ = some _ from rfl)
    have enabled := Reachable.next connected
      (allowed _ .testWifi (reachable_handover connected) ⟨by decide, by decide⟩)
      (show step _ .testWifi = some _ from rfl)
    exact ⟨_, enabled, rfl, rfl, rfl, rfl⟩
  | succ count inductionHypothesis =>
    obtain ⟨state, clean⟩ := inductionHypothesis (by
      intro middle event handover tight
      apply allowed middle event handover
      exact ⟨tight.1, tight.2.trans (Nat.mul_le_mul_left _ (Nat.le_succ count))⟩)
    exact clean.next allowed

end PlhrFirmware.Pipeline
