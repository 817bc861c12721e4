import Mathlib.Data.List.Basic

/-! # Reachability of event-driven systems

A system is a partial step function `step : State → Event → Option State`: an event
that is not enabled in a state has no successor.  Several threads, interrupts and
hardware units are interleaved by letting each of them contribute events.

`Reachable step guard start` collects the states of the runs from `start` all of whose
steps meet `guard` at the state they leave, so that a law which only holds of restricted
runs is a statement about a guarded system.  `exec` runs a given list of events.
-/

namespace PlhrFirmware.Lib

variable {State Event : Type*}

/-- The states of the runs from `start` whose steps all meet `guard`. -/
inductive Reachable (step : State → Event → Option State) (guard : State → Event → Prop)
    (start : State) : State → Prop where
  | start : Reachable step guard start start
  | next {state result : State} {event : Event} (reached : Reachable step guard start state)
      (allowed : guard state event) (stepped : step state event = some result) :
      Reachable step guard start result

/-- The guard of an unrestricted run. -/
def always (_ : State) (_ : Event) : Prop := True

/-- Run a list of events; `none` as soon as one of them is not enabled. -/
def exec (step : State → Event → Option State) : State → List Event → Option State
  | state, [] => some state
  | state, event :: events => (step state event).bind fun next => exec step next events

/-- Every step that the run of `events` takes meets `guard`. -/
def Along (step : State → Event → Option State) (guard : State → Event → Prop) :
    State → List Event → Prop
  | _, [] => True
  | state, event :: events => guard state event ∧
      ∀ next, step state event = some next → Along step guard next events

section Guarded

variable {step : State → Event → Option State} {guard : State → Event → Prop} {start : State}

/-- An invariant of the allowed steps holds in every reachable state. -/
theorem Reachable.invariant {state : State} (reached : Reachable step guard start state)
    (property : State → Prop) (initial : property start)
    (preserved : ∀ state event result, property state → guard state event →
      step state event = some result → property result) : property state := by
  induction reached with
  | start => exact initial
  | next _ allowed stepped inductionHypothesis =>
    exact preserved _ _ _ inductionHypothesis allowed stepped

theorem Reachable.weaken {weaker : State → Event → Prop}
    (implies : ∀ state event, guard state event → weaker state event)
    {state : State} (reached : Reachable step guard start state) :
    Reachable step weaker start state := by
  induction reached with
  | start => exact .start
  | next _ allowed stepped inductionHypothesis =>
    exact .next inductionHypothesis (implies _ _ allowed) stepped

theorem Reachable.trans {middle state : State} (first : Reachable step guard start middle)
    (second : Reachable step guard middle state) : Reachable step guard start state := by
  induction second with
  | start => exact first
  | next _ allowed stepped inductionHypothesis => exact .next inductionHypothesis allowed stepped

theorem Reachable.of_exec (events : List Event) {state : State}
    (allowed : Along step guard start events) (ran : exec step start events = some state) :
    Reachable step guard start state := by
  induction events generalizing start with
  | nil => cases ran; exact .start
  | cons event events inductionHypothesis =>
    obtain ⟨next, stepped, rest⟩ := Option.bind_eq_some_iff.mp ran
    exact (Reachable.next .start allowed.1 stepped).trans
      (inductionHypothesis (allowed.2 next stepped) rest)

theorem Along.always (events : List Event) : Along step always start events := by
  induction events generalizing start with
  | nil => trivial
  | cons _ _ inductionHypothesis => exact ⟨trivial, fun _ _ => inductionHypothesis⟩

theorem Along.of_forall {events : List Event}
    (allowed : ∀ event ∈ events, ∀ state, guard state event) : Along step guard start events := by
  induction events generalizing start with
  | nil => trivial
  | cons event events inductionHypothesis =>
    exact ⟨allowed event (List.mem_cons_self ..) start, fun _ _ =>
      inductionHypothesis fun later member => allowed later (List.mem_cons_of_mem _ member)⟩

theorem Along.left {first second : List Event} (along : Along step guard start (first ++ second)) :
    Along step guard start first := by
  induction first generalizing start with
  | nil => trivial
  | cons event first inductionHypothesis =>
    exact ⟨along.1, fun next stepped => inductionHypothesis (along.2 next stepped)⟩

theorem Along.right {first second : List Event} {middle : State}
    (along : Along step guard start (first ++ second)) (ran : exec step start first = some middle) :
    Along step guard middle second := by
  induction first generalizing start with
  | nil => cases ran; exact along
  | cons event first inductionHypothesis =>
    obtain ⟨next, stepped, rest⟩ := Option.bind_eq_some_iff.mp ran
    exact inductionHypothesis (along.2 next stepped) rest

/-- A law that no step restores holds all along a run at whose end it holds. -/
theorem law_of_exec {law : State → Prop}
    (remains : ∀ state event result, step state event = some result → law result → law state)
    (events : List Event) {state : State} (lawful : law state)
    (ran : exec step start events = some state) : law start := by
  induction events generalizing start with
  | nil => cases ran; exact lawful
  | cons event events inductionHypothesis =>
    obtain ⟨next, stepped, rest⟩ := Option.bind_eq_some_iff.mp ran
    exact remains _ _ _ stepped (inductionHypothesis rest)

/-- A law that the allowed steps keep, and that a step which is not allowed breaks for good,
holds of exactly the runs whose steps are all allowed. -/
theorem iff_along_of_exec (invariant law : State → Prop)
    (kept : ∀ state event result, invariant state → step state event = some result →
      invariant result)
    (preserved : ∀ state event result, invariant state → law state → guard state event →
      step state event = some result → law result)
    (broken : ∀ state event result, invariant state → ¬ guard state event →
      step state event = some result → ¬ law result)
    (remains : ∀ state event result, step state event = some result → law result → law state)
    (events : List Event) {state : State} (initially : invariant start) (lawful : law start)
    (ran : exec step start events = some state) :
    law state ↔ Along step guard start events := by
  induction events generalizing start with
  | nil =>
    cases ran
    exact ⟨fun _ => trivial, fun _ => lawful⟩
  | cons event events inductionHypothesis =>
    obtain ⟨next, stepped, rest⟩ := Option.bind_eq_some_iff.mp ran
    have onlyNext : ∀ other, step start event = some other → other = next := fun other same =>
      Option.some.inj (same.symm.trans stepped)
    by_cases allowed : guard start event
    · have later := inductionHypothesis (kept _ _ _ initially stepped)
        (preserved _ _ _ initially lawful allowed stepped) rest
      rw [later]
      exact ⟨fun along => ⟨allowed, fun other same => onlyNext other same ▸ along⟩,
        fun along => along.2 next stepped⟩
    · refine ⟨fun lawful => ?_, fun along => absurd along.1 allowed⟩
      refine absurd ?_ (broken _ _ _ initially allowed stepped)
      exact law_of_exec remains events lawful rest

/-- Two guards that agree in the states of an invariant are met by the same runs, if the steps
that meet them keep the invariant. -/
theorem along_congr {other : State → Event → Prop} (invariant : State → Prop)
    (agree : ∀ state event, invariant state → (guard state event ↔ other state event))
    (kept : ∀ state event result, invariant state → other state event →
      step state event = some result → invariant result)
    (initially : invariant start) (events : List Event) :
    Along step guard start events ↔ Along step other start events := by
  induction events generalizing start with
  | nil => exact Iff.rfl
  | cons event events inductionHypothesis =>
    by_cases allowed : other start event
    · have later := fun next stepped =>
        inductionHypothesis (kept start event next initially allowed stepped)
      exact ⟨fun along => ⟨allowed, fun next stepped => (later next stepped).mp (along.2 next stepped)⟩,
        fun along => ⟨(agree start event initially).mpr allowed,
          fun next stepped => (later next stepped).mpr (along.2 next stepped)⟩⟩
    · exact ⟨fun along => absurd ((agree start event initially).mp along.1) allowed,
        fun along => absurd along.1 allowed⟩

instance Along.decidable [∀ state event, Decidable (guard state event)] (state : State)
    (events : List Event) : Decidable (Along step guard state events) :=
  match events with
  | [] => .isTrue trivial
  | event :: events =>
    match stepped : step state event with
    | none => decidable_of_iff (guard state event)
        ⟨fun met => ⟨met, fun _ same => by simp [stepped] at same⟩, And.left⟩
    | some next =>
      have := Along.decidable next events
      decidable_of_iff (guard state event ∧ Along step guard next events)
        ⟨fun met => ⟨met.1, fun _ same => by
          rw [stepped] at same; cases same; exact met.2⟩,
         fun along => ⟨along.1, along.2 next stepped⟩⟩

end Guarded

theorem exec_cons {step : State → Event → Option State} {state next : State} {event : Event}
    (stepped : step state event = some next) (events : List Event) :
    exec step state (event :: events) = exec step next events := by
  rw [exec, stepped, Option.bind_some]

theorem exec_append (step : State → Event → Option State) (state : State)
    (first second : List Event) :
    exec step state (first ++ second) =
      (exec step state first).bind fun middle => exec step middle second := by
  induction first generalizing state with
  | nil => rfl
  | cons event first inductionHypothesis =>
    simp only [List.cons_append, exec, Option.bind_assoc, inductionHypothesis]

end PlhrFirmware.Lib
