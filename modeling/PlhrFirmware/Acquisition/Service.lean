import PlhrFirmware.Acquisition.Udma

/-! # Which completions are served

The done flag is one bit, so a completion that finds it raised shares an interrupt with the
one before.  `dma_stop_mode_get` reports one stopped structure, the primary one first, and
the interrupt re-arms and posts for that one only.  `Serviced` is what holds while no two
completions have shared an interrupt, `Starved` what holds ever after: from then on the
alternate structure stays stopped.
-/

namespace PlhrFirmware.Acquisition

open PlhrFirmware.Lib

/-- No interrupt is due, both structures are armed and every completion has been posted. -/
def AllServed (state : State) : Prop :=
  (state.globals.udma.get .pri).Armed ∧ (state.globals.udma.get .alt).Armed ∧
    state.posts = state.completed.length

structure Serviced (state : State) : Prop where
  active : state.activeControl.Armed
  idle : state.idleControl.Armed ↔ state.doneFlag = false
  posts : state.posts + state.doneFlag.toNat = state.completed.length

structure Starved (state : State) : Prop where
  alt : ¬ (state.globals.udma.get .alt).Armed
  pri : state.doneFlag = true → ¬ (state.globals.udma.get .pri).Armed
  posts : state.posts + state.doneFlag.toNat < state.completed.length

/-- The two regimes of a run, told apart by the completions that shared an interrupt. -/
structure Regime (state : State) : Prop where
  live : state.globals.dmaFinished = false
  serviced : state.merged = 0 → Serviced state
  starved : state.merged ≠ 0 → Starved state

theorem Regime.initial : Regime initial where
  live := rfl
  serviced := fun _ => ⟨by decide, by decide, rfl⟩
  starved := by intro merged; cases merged rfl

theorem not_armed {control : ControlStruct} : ¬ control.Armed ↔ control.mode = .stop :=
  not_not

theorem Serviced.isr {state result : State} (serviced : Serviced state)
    (live : state.globals.dmaFinished = false) (stepped : step state .isr = some result) :
    result.merged = state.merged ∧ result.globals.dmaFinished = false ∧ Serviced result := by
  simp only [step, Option.ite_none_right_eq_some, Option.some.injEq] at stepped
  obtain ⟨pending, rfl⟩ := stepped
  obtain ⟨active, idle, posts⟩ := serviced
  have stopped : state.idleControl.mode = .stop := by
    apply not_armed.mp
    rw [idle, pending]
    simp
  have rearmed := isrDmaDone_stopped state.active.other live stopped (by
    intro other
    cases half : state.active with
    | pri => rwa [State.activeControl, half] at active
    | alt => rw [half] at other; cases other)
  simp only [rearmed]
  refine ⟨trivial, live, ?_, ?_, ?_⟩
  · simpa [State.activeControl] using active
  · simp [State.idleControl, ControlStruct.Armed]
  · simp only [State.posts, pending, Bool.toNat_true, Bool.toNat_false] at posts ⊢
    omega

theorem Starved.isr {state result : State} (starved : Starved state)
    (live : state.globals.dmaFinished = false) (stepped : step state .isr = some result) :
    result.merged = state.merged ∧ result.globals.dmaFinished = false ∧ Starved result := by
  simp only [step, Option.ite_none_right_eq_some, Option.some.injEq] at stepped
  obtain ⟨pending, rfl⟩ := stepped
  obtain ⟨alt, pri, posts⟩ := starved
  -- both structures have stopped, and the primary one is looked at first
  have rearmed := isrDmaDone_stopped .pri live (not_armed.mp (pri pending)) (by
    intro impossible; cases impossible)
  simp only [rearmed]
  refine ⟨trivial, live, alt, (by intro impossible; cases impossible), ?_⟩
  simp only [State.posts, pending, Bool.toNat_true, Bool.toNat_false] at posts ⊢
  omega

/-- A completion while nothing is due keeps the channel serviced; one that finds the flag
raised leaves both structures stopped and starves it. -/
theorem Serviced.complete {state result : State} (serviced : Serviced state)
    (stepped : step state .complete = some result) :
    (state.doneFlag = false → result.merged = state.merged ∧ Serviced result) ∧
      (state.doneFlag = true → result.merged = state.merged + 1 ∧ Starved result) := by
  obtain ⟨active, idle, posts⟩ := serviced
  constructor
  · intro served
    have ready : state.idleControl.Armed := idle.mpr served
    simp only [step, if_pos active, if_pos ready, Option.some.injEq] at stepped
    subst result
    refine ⟨by simp [served], ?_, ?_, ?_⟩
    -- the idle structure takes over, and the one that stopped waits for the interrupt
    · simpa [State.activeControl, State.idleControl] using ready
    · simp [State.idleControl, ControlStruct.Armed]
    · simp only [State.posts, served, Bool.toNat_false, Bool.toNat_true, List.length_append,
        List.length_singleton] at posts ⊢
      omega
  · intro pending
    have stopped : ¬ state.idleControl.Armed := by rw [idle, pending]; simp
    simp only [step, if_pos active, if_neg stopped, Option.some.injEq] at stepped
    subst result
    -- the other structure still waits for its interrupt, so now both have stopped
    refine ⟨by simp [pending], ?_, fun _ => ?_, ?_⟩
    · cases half : state.active with
      | pri => simpa [State.idleControl, half, Half.other, Udma.get, Udma.set] using stopped
      | alt => simp [ControlStruct.Armed]
    · cases half : state.active with
      | pri => simp [ControlStruct.Armed]
      | alt => simpa [State.idleControl, half, Half.other, Udma.get, Udma.set] using stopped
    · simp only [State.posts, pending, Bool.toNat_true, List.length_append,
        List.length_singleton] at posts ⊢
      omega

theorem Starved.complete {state result : State} (starved : Starved state)
    (stepped : step state .complete = some result) :
    state.merged ≤ result.merged ∧ Starved result := by
  simp only [step, Option.ite_none_right_eq_some, Option.some.injEq] at stepped
  obtain ⟨armed, rfl⟩ := stepped
  obtain ⟨alt, pri, posts⟩ := starved
  -- the alternate structure has stopped for good, so only the primary one can complete
  have half : state.active = .pri := by
    cases half : state.active with
    | pri => rfl
    | alt => rw [State.activeControl, half] at armed; exact absurd armed alt
  have served : state.doneFlag = false := by
    rw [State.activeControl, half] at armed
    cases flag : state.doneFlag with
    | false => rfl
    | true => exact absurd armed (pri flag)
  refine ⟨by simp [served], ?_, fun _ => ?_, ?_⟩
  · simpa [half, Udma.set, Udma.get] using alt
  · simp [half, ControlStruct.Armed]
  · simp only [State.posts, served, Bool.toNat_false, Bool.toNat_true, List.length_append,
      List.length_singleton] at posts ⊢
    omega

theorem Regime.frame {state result : State} (regime : Regime state)
    (same : SameChannel state result) : Regime result := by
  obtain ⟨udma, _, live, active, flag, completed, posts, merged⟩ := same
  refine ⟨by rw [live, regime.live], fun none => ?_, fun some => ?_⟩
  · obtain ⟨armed, idle, count⟩ := regime.serviced (merged ▸ none)
    refine ⟨?_, ?_, by rw [posts, flag, completed, count]⟩
    · rw [State.activeControl, udma, active]; exact armed
    · rw [State.idleControl, udma, active, flag]; exact idle
  · obtain ⟨alt, pri, count⟩ := regime.starved (merged ▸ some)
    exact ⟨by rw [udma]; exact alt, by rw [udma, flag]; exact pri,
      by rw [posts, flag, completed]; exact count⟩

theorem Regime.preserved {state result : State} {event : Event} (regime : Regime state)
    (stepped : step state event = some result) : Regime result := by
  cases event with
  | complete =>
    have live : result.globals.dmaFinished = false := by
      simp only [step, Option.ite_none_right_eq_some, Option.some.injEq] at stepped
      obtain ⟨_, rfl⟩ := stepped
      exact regime.live
    by_cases clean : state.merged = 0
    · obtain ⟨served, pending⟩ := (regime.serviced clean).complete stepped
      cases flag : state.doneFlag with
      | false =>
        obtain ⟨merged, serviced⟩ := served flag
        exact ⟨live, fun _ => serviced, fun some => absurd (merged.trans clean) some⟩
      | true =>
        obtain ⟨merged, starved⟩ := pending flag
        exact ⟨live, fun none => by omega, fun _ => starved⟩
    · obtain ⟨merged, starved⟩ := (regime.starved clean).complete stepped
      exact ⟨live, fun none => by omega, fun _ => starved⟩
  | isr =>
    by_cases clean : state.merged = 0
    · obtain ⟨merged, live, serviced⟩ := (regime.serviced clean).isr regime.live stepped
      exact ⟨live, fun _ => serviced, fun some => absurd (merged.trans clean) some⟩
    · obtain ⟨merged, live, starved⟩ := (regime.starved clean).isr regime.live stepped
      exact ⟨live, fun none => absurd (merged.symm.trans none) clean, fun _ => starved⟩
  | activate =>
    simp only [step, Option.ite_none_right_eq_some, Option.some.injEq] at stepped
    obtain ⟨⟨dry, _⟩, rfl⟩ := stepped
    -- a serviced channel never runs dry
    exact ⟨regime.live, fun clean => absurd (regime.serviced clean).active dry,
      fun some => ⟨(regime.starved some).alt, (regime.starved some).pri, (regime.starved some).posts⟩⟩
  | pend => exact regime.frame (step_pend stepped)
  | finish => exact regime.frame (step_finish stepped)

/-- Whenever no interrupt is due, everything has been served exactly if no two completions of
the run have shared an interrupt. -/
theorem allServed_iff {state : State} (reached : Reachable step always initial state)
    (served : state.doneFlag = false) : AllServed state ↔ state.merged = 0 := by
  have regime := reached.invariant Regime .initial fun _ _ _ regime _ stepped =>
    regime.preserved stepped
  constructor
  · rintro ⟨_, alt, _⟩
    by_contra some
    exact (regime.starved some).alt alt
  · intro clean
    obtain ⟨active, idle, posts⟩ := regime.serviced clean
    have ready : state.idleControl.Armed := idle.mpr served
    rw [served, Bool.toNat_false, Nat.add_zero] at posts
    unfold State.activeControl at active
    unfold State.idleControl at ready
    cases half : state.active with
    | pri => rw [half] at active ready; exact ⟨active, ready, posts⟩
    | alt => rw [half] at active ready; exact ⟨ready, active, posts⟩

theorem allServed_iff_twoBuffers :
    ∃ state, exec step initial [.complete, .isr, .complete, .isr] = some state ∧
      (AllServed state ↔ state.merged = 0) ∧ state.merged = 0 :=
  ⟨_, rfl, allServed_iff (.of_exec [.complete, .isr, .complete, .isr] (.always _) rfl) rfl, rfl⟩

/-- Both halves complete before the interrupt runs: it serves the primary one, and no flag is
left for the alternate one. -/
theorem shared_interrupt_starves :
    ∃ state, exec step initial [.complete, .complete, .isr] = some state ∧
      state.doneFlag = false ∧ state.posts = 1 ∧ state.completed = [0, 1] ∧
      (state.globals.udma.get .alt).mode = .stop ∧ ¬ AllServed state :=
  ⟨_, rfl, rfl, rfl, rfl, rfl, fun allServed => absurd allServed.2.2 (by decide)⟩

end PlhrFirmware.Acquisition
