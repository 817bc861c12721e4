import PlhrFirmware.Acquisition.Udma

/-! # The order of the transfers and of the passes

While the interrupt serves every completion before the next one, the run is determined by
the number `served` of interrupts: `InStep` gives the channel and the write counter,
`Reading` the read index.  Both are inductive, and they fix the ring index of every
transfer and of every pass in closed form.
-/

namespace PlhrFirmware.Acquisition

open PlhrFirmware.Lib

/-! ## Transfers -/

def halfOf (k : Nat) : Half := if k % 2 = 0 then .pri else .alt

theorem halfOf_succ (k : Nat) : halfOf (k + 1) = (halfOf k).other := by
  rcases Nat.mod_two_eq_zero_or_one k with even | odd
  · have next : (k + 1) % 2 ≠ 0 := by omega
    simp [halfOf, even, next, Half.other]
  · have next : (k + 1) % 2 = 0 := by omega
    simp [halfOf, odd, next, Half.other]

/-- The ring index that the `k`-th transfer is written into: the two indices of the set-up,
then the interrupt's, which increments the 16-bit counter before it uses it. -/
def written (k : Nat) : Nat := if k < 2 then k else (k + 1) % 65536 % dmaNumBuffers

theorem written_of_ge {k : Nat} (late : 2 ≤ k) : written k = (k + 1) % 65536 % dmaNumBuffers :=
  if_neg (by omega)

structure InStep (state : State) (served : Nat) : Prop where
  live : state.globals.dmaFinished = false
  completed : state.completed = (List.range (served + state.doneFlag.toNat)).map written
  counter : state.globals.cntDmaWrite = UInt16.ofNat (served + 2)
  active : state.active = halfOf (served + state.doneFlag.toNat)
  filling : state.activeControl = ⟨.pingpong, written (served + state.doneFlag.toNat)⟩
  idle : state.idleControl =
    if state.doneFlag then ⟨.stop, written served⟩ else ⟨.pingpong, written (served + 1)⟩
  posts : state.posts = served

theorem InStep.initial : InStep initial 0 where
  live := rfl
  completed := rfl
  counter := rfl
  active := rfl
  filling := rfl
  idle := rfl
  posts := rfl

theorem InStep.completed_length {state : State} {served : Nat} (inStep : InStep state served) :
    state.completed.length = served + state.doneFlag.toNat := by
  rw [inStep.completed, List.length_map, List.length_range]

theorem InStep.armed {state : State} {served : Nat} (inStep : InStep state served) :
    state.activeControl.Armed := by
  rw [inStep.filling]
  exact pingpong_armed _

theorem InStep.complete {state result : State} {served : Nat} (inStep : InStep state served)
    (prompt : state.doneFlag = false) (stepped : step state .complete = some result) :
    InStep result served := by
  have idle := inStep.idle
  have filling := inStep.filling
  have active := inStep.active
  simp only [prompt, Bool.toNat_false, Nat.add_zero, Bool.false_eq_true, if_false] at idle filling active
  have idleArmed : state.idleControl.Armed := by
    rw [idle]
    exact pingpong_armed _
  simp only [step, if_pos inStep.armed, if_pos idleArmed, Option.some.injEq] at stepped
  subst result
  refine ⟨inStep.live, ?_, inStep.counter, ?_, ?_, ?_, inStep.posts⟩
  · have completed := inStep.completed
    simp only [prompt, Bool.toNat_false, Nat.add_zero] at completed
    simp [completed, filling, List.range_succ]
  · simp [active, halfOf_succ]
  · simpa [State.activeControl, State.idleControl] using idle
  · simp only [State.idleControl, State.activeControl, Half.other_other, Udma.get_set, if_true]
    simp only [State.activeControl] at filling
    rw [filling]

theorem InStep.isr {state result : State} {served : Nat} (inStep : InStep state served)
    (stepped : step state .isr = some result) : InStep result (served + 1) := by
  cases flag : state.doneFlag with
  | false => simp [step, flag] at stepped
  | true =>
    obtain ⟨live, completed, counter, active, filling, idle, posts⟩ := inStep
    simp only [flag, Bool.toNat_true, if_true] at completed active filling idle
    -- the structure that is not active has stopped, and the active one is still armed
    have rearmed := isrDmaDone_stopped state.active.other live
      (by rw [show state.globals.udma.get state.active.other = _ from idle])
      (by
        intro other
        have here : state.active = .pri := by
          cases half : state.active with
          | pri => rfl
          | alt => rw [half] at other; cases other
        rw [← here, show state.globals.udma.get state.active = _ from filling]
        exact pingpong_armed _)
    simp only [step, flag, if_true, rearmed, Option.some.injEq] at stepped
    subst result
    have next : state.globals.cntDmaWrite + 1 = UInt16.ofNat (served + 1 + 2) := by
      rw [counter, show served + 1 + 2 = served + 2 + 1 by omega, UInt16.ofNat_add (served + 2)]
      rfl
    refine ⟨live, completed, next, active, ?_, ?_, ?_⟩
    · simpa [State.activeControl] using filling
    · simp [State.idleControl, next, written_of_ge]
    · simp only [State.posts] at posts ⊢; omega

theorem InStep.frame {state result : State} {served : Nat} (inStep : InStep state served)
    (same : SameChannel state result) : InStep result served := by
  obtain ⟨udma, counter, live, active, flag, completed, posts, _⟩ := same
  refine ⟨by rw [live, inStep.live], by rw [completed, flag, inStep.completed],
    by rw [counter, inStep.counter], by rw [active, flag, inStep.active], ?_, ?_,
    by rw [posts, inStep.posts]⟩
  · rw [State.activeControl, udma, active, flag]; exact inStep.filling
  · rw [State.idleControl, udma, active, flag]; exact inStep.idle

theorem InStep.preserved {state result : State} {event : Event} {served : Nat}
    (inStep : InStep state served) (prompt : Prompt state event)
    (stepped : step state event = some result) : ∃ served', InStep result served' := by
  cases event with
  | complete => exact ⟨served, inStep.complete (prompt rfl) stepped⟩
  | isr => exact ⟨served + 1, inStep.isr stepped⟩
  | activate =>
    -- an active structure that is armed leaves nothing to resume
    simp [step, inStep.armed] at stepped
  | pend => exact ⟨served, inStep.frame (step_pend stepped)⟩
  | finish => exact ⟨served, inStep.frame (step_finish stepped)⟩

theorem prompt_inStep {state : State} (reached : Reachable step Prompt initial state) :
    ∃ served, InStep state served :=
  reached.invariant (fun state => ∃ served, InStep state served) ⟨0, .initial⟩
    fun _ _ _ ⟨_, inStep⟩ prompt stepped => inStep.preserved prompt stepped

/-! ## Passes -/

/-- The passes begun so far read the ring in its natural order, and `cnt_buffer_in` is the
index of the first buffer that is not processed completely. -/
structure Reading (state : State) : Prop where
  processed : state.processed = (List.range state.processed.length).map (· % dmaNumBuffers)
  next : state.cntBufferIn = (state.processed.length - state.busy.toNat) % dmaNumBuffers
  busy : state.busy = true → 0 < state.processed.length

theorem Reading.initial : Reading initial where
  processed := rfl
  next := rfl
  busy := by intro busy; cases busy

theorem Reading.preserved {state result : State} {event : Event} (reading : Reading state)
    (stepped : step state event = some result) : Reading result := by
  obtain ⟨processed, next, busy⟩ := reading
  cases event with
  | complete | activate | isr =>
    -- the hardware and the interrupt leave the reading side alone
    simp only [step, Option.ite_none_right_eq_some, Option.some.injEq] at stepped
    obtain ⟨_, rfl⟩ := stepped
    exact ⟨processed, next, busy⟩
  | pend =>
    simp only [step, Option.ite_none_right_eq_some, Option.some.injEq] at stepped
    obtain ⟨⟨free, _⟩, rfl⟩ := stepped
    have idle : state.busy = false := by simpa using free
    simp only [idle, Bool.toNat_false, Nat.sub_zero] at next
    refine ⟨?_, ?_, by simp⟩
    · simp only [List.length_append, List.length_singleton, List.range_succ, List.map_append,
        List.map_singleton, ← processed, next]
    · simp [next]
  | finish =>
    simp only [step, Option.ite_none_right_eq_some, Option.some.injEq] at stepped
    obtain ⟨running, rfl⟩ := stepped
    have begun := busy running
    simp only [running, Bool.toNat_true] at next
    refine ⟨processed, ?_, by intro impossible; cases impossible⟩
    simp only [ringAdvance, next, dmaNumBuffers, Bool.toNat_false]
    omega

theorem reachable_reading {guard : State → Event → Prop} {state : State}
    (reached : Reachable step guard initial state) : Reading state :=
  reached.invariant Reading .initial fun _ _ _ reading _ stepped => reading.preserved stepped

/-! ## Passes against transfers -/

/-- The `k`-th pass reads the buffer that the `k`-th transfer filled, for every pass begun. -/
def InOrder (state : State) : Prop :=
  ∀ k index : Nat, state.processed[k]? = some index → state.completed[k]? = some index

/-- From the third one on, no transfer goes where the reader expects it, however often the
16-bit counter has wrapped: both the ring and the wrap shift the index by an even number. -/
theorem written_eq_mod_iff (k : Nat) : written k = k % dmaNumBuffers ↔ k < 2 := by
  unfold written dmaNumBuffers
  split <;> omega

theorem InStep.written_get {state : State} {served k : Nat} (inStep : InStep state served)
    (bound : k < state.completed.length) : state.completed[k]? = some (written k) := by
  rw [inStep.completed_length] at bound
  rw [inStep.completed, List.getElem?_map, List.getElem?_range bound, Option.map_some]

theorem Reading.processed_get {state : State} {k : Nat} (reading : Reading state)
    (bound : k < state.processed.length) :
    state.processed[k]? = some (k % dmaNumBuffers) := by
  rw [reading.processed, List.getElem?_map, List.getElem?_range bound, Option.map_some]

theorem InStep.processed_le_completed {state : State} {served : Nat} (inStep : InStep state served) :
    state.processed.length ≤ state.completed.length := by
  have posts := inStep.posts
  rw [inStep.completed_length]
  simp only [State.posts] at posts
  omega

/-- The passes follow the transfers for two passes and for no more. -/
theorem inOrder_iff {state : State} (reached : Reachable step Prompt initial state) :
    InOrder state ↔ state.processed.length ≤ 2 := by
  obtain ⟨served, inStep⟩ := prompt_inStep reached
  have reading := reachable_reading reached
  have enough := inStep.processed_le_completed
  constructor
  · intro inOrder
    by_contra more
    -- pass 2 reads index 2, and no transfer goes there after the set-up
    have third : 2 < state.processed.length := by omega
    have same := inOrder 2 _ (reading.processed_get third)
    rw [inStep.written_get (by omega)] at same
    cases same
  · intro few k index read
    have bound : k < state.processed.length := (List.getElem?_eq_some_iff.mp read).1
    rw [reading.processed_get bound, ← (written_eq_mod_iff k).mpr (by omega)] at read
    rw [inStep.written_get (by omega)]
    exact read

def threeBuffers : List Event :=
  [.complete, .isr, .pend, .finish, .complete, .isr, .pend, .finish, .complete, .isr, .pend]

theorem inOrder_iff_threeBuffers :
    ∃ state, exec step initial threeBuffers = some state ∧
      (InOrder state ↔ state.processed.length ≤ 2) ∧ ¬ state.processed.length ≤ 2 :=
  ⟨_, rfl, inOrder_iff (.of_exec threeBuffers (by decide) rfl), by decide⟩

/-- The third pass reads index 2, which no transfer has filled: the third one went to 3. -/
theorem third_pass_out_of_order :
    ∃ state, exec step initial threeBuffers = some state ∧ Reachable step Prompt initial state ∧
      state.processed = [0, 1, 2] ∧ state.completed = [0, 1, 3] ∧ ¬ InOrder state := by
  refine ⟨_, rfl, .of_exec threeBuffers (by decide) rfl, by decide, by decide, ?_⟩
  intro inOrder
  exact absurd (inOrder 2 2 (by decide)) (by decide)

end PlhrFirmware.Acquisition
