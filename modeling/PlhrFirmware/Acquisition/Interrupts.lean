import PlhrFirmware.Lib.Reachable

/-! # The table of interrupts

`interrupt_user.c`: `udma_interrupt_start` creates a Hwi object and records its handle in the
first free slot of `int_handler`, and `interrupt_user_disable` deletes the object of the slot
with the number.  A slot is free when its `interrupt_num` is 0.
-/

namespace PlhrFirmware.Acquisition

open PlhrFirmware.Lib

namespace Interrupts

/-! ## State -/

abbrev maxNumInt : Nat := 1

abbrev interruptNoError : Int := 0

abbrev interruptNotCreated : Int := -1

abbrev interruptNotInterruptSize : Int := -2

abbrev interruptHasNotBeenCreated : Int := -3

/-- An `int_handler_t`; the handle `none` is `NULL`. -/
structure IntHandler where
  interruptNum : Int
  hwiHandle : Option Nat
  deriving DecidableEq, Repr

/-- The Hwi objects are numbered, and `deleted` lists them in the order of `HwiP_delete`.
`registered` are the interrupts that have been started and not been disabled since; `ret` is the
value of the last call. -/
structure State where
  intHandler : List IntHandler
  created : List Nat
  deleted : List Nat
  registered : List Int
  ret : Int
  deriving DecidableEq, Repr

/-- `hwiHandle` is what `HwiP_create` returns. -/
inductive Event where
  | start (interruptNum : Int) (hwiHandle : Option Nat)
  | disable (interruptNum : Int)

/-! ## Operations -/

def interruptConfig (state : State) : State :=
  { state with
    intHandler := state.intHandler.map fun slot => { slot with interruptNum := 0 }
    ret := interruptNoError }

/-- The loop of `udma_interrupt_start`; `none` when it reaches the end of the table. -/
def storeLoop (interruptNum : Int) (hwiHandle : Nat) : List IntHandler → Option (List IntHandler)
  | [] => none
  | slot :: slots =>
    if slot.interruptNum = 0 then some (⟨interruptNum, some hwiHandle⟩ :: slots)
    else (storeLoop interruptNum hwiHandle slots).map (slot :: ·)

def udmaInterruptStart (interruptNum : Int) (hwiHandle : Option Nat) (state : State) : State :=
  match hwiHandle with
  | none => { state with ret := interruptNotCreated }
  | some hwiHandle =>
    let state := { state with created := state.created ++ [hwiHandle] }
    match storeLoop interruptNum hwiHandle state.intHandler with
    | none => { state with ret := interruptNotInterruptSize }
    | some intHandler => { state with
        intHandler := intHandler
        registered := state.registered ++ [interruptNum]
        ret := interruptNoError }

/-- The loop deletes the object of the first slot with the number; the slot stays as it is. -/
def interruptUserDisable (interruptNum : Int) (state : State) : State :=
  match state.intHandler.find? (·.interruptNum = interruptNum) with
  | none => { state with ret := interruptHasNotBeenCreated }
  | some slot => { state with
      deleted := state.deleted ++ slot.hwiHandle.toList
      registered := state.registered.filter (· ≠ interruptNum)
      ret := interruptNoError }

/-- The number is not 0, and a handle is a new one. -/
def Starts (state : State) (interruptNum : Int) (hwiHandle : Option Nat) : Prop :=
  interruptNum ≠ 0 ∧ ∀ handle ∈ hwiHandle, handle ∉ state.created

instance (state : State) (interruptNum : Int) (hwiHandle : Option Nat) :
    Decidable (Starts state interruptNum hwiHandle) :=
  inferInstanceAs (Decidable (_ ∧ ∀ handle ∈ hwiHandle, _))

def step (state : State) : Event → Option State
  | .start interruptNum hwiHandle =>
    if Starts state interruptNum hwiHandle then
      some (udmaInterruptStart interruptNum hwiHandle state)
    else none
  | .disable interruptNum => some (interruptUserDisable interruptNum state)

def initial : State := interruptConfig ⟨List.replicate maxNumInt ⟨0, none⟩, [], [], [], 0⟩

/-! ## The table and the objects -/

/-- The object has been created and not been deleted. -/
def Live (state : State) (handle : Nat) : Prop := handle ∈ state.created ∧ handle ∉ state.deleted

instance (state : State) (handle : Nat) : Decidable (Live state handle) :=
  inferInstanceAs (Decidable (_ ∧ _))

def Recorded (state : State) (handle : Nat) : Prop :=
  ∃ slot ∈ state.intHandler, slot.interruptNum ≠ 0 ∧ slot.hwiHandle = some handle

structure Matched (state : State) : Prop where
  recorded : ∀ handle, Live state handle ↔ Recorded state handle
  once : state.deleted.Nodup

/-- The call leaves a table that matches the objects; a start that fails leaves no new object,
and one with nothing registered succeeds when `HwiP_create` does. -/
def Kept (state : State) (event : Event) : Prop :=
  ∀ result, step state event = some result → Matched result ∧
    match event with
    | .start _ hwiHandle =>
      (result.ret < 0 → ∀ handle, Live result handle → Live state handle) ∧
        (state.registered = [] → hwiHandle.isSome → result.ret = interruptNoError)
    | .disable _ => True

/-- An object is created only when a slot is free, and no occupied slot has the number of an
interrupt that is disabled. -/
def Registrable (state : State) : Event → Prop
  | .start interruptNum hwiHandle => Starts state interruptNum hwiHandle → hwiHandle.isSome →
    ∃ slot ∈ state.intHandler, slot.interruptNum = 0
  | .disable interruptNum => interruptNum ≠ 0 →
    ∀ slot ∈ state.intHandler, slot.interruptNum ≠ interruptNum

instance (state : State) (event : Event) : Decidable (Registrable state event) :=
  match event with
  | .start _ _ => inferInstanceAs (Decidable (_ → _ → _))
  | .disable _ => inferInstanceAs (Decidable (_ → _))

/-! ## The loops -/

theorem storeLoop_eq_none {interruptNum : Int} {hwiHandle : Nat} {slots : List IntHandler} :
    storeLoop interruptNum hwiHandle slots = none ↔ ∀ slot ∈ slots, slot.interruptNum ≠ 0 := by
  induction slots with
  | nil => simp [storeLoop]
  | cons slot slots inductionHypothesis =>
    by_cases free : slot.interruptNum = 0
    · simp [storeLoop, free]
    · simp [storeLoop, free, inductionHypothesis]

/-- The first free slot is taken. -/
theorem storeLoop_eq_some {interruptNum : Int} {hwiHandle : Nat} {slots result : List IntHandler}
    (stored : storeLoop interruptNum hwiHandle slots = some result) : ∃ front free back,
    slots = front ++ free :: back ∧ free.interruptNum = 0 ∧
      result = front ++ ⟨interruptNum, some hwiHandle⟩ :: back := by
  induction slots generalizing result with
  | nil => cases stored
  | cons slot slots inductionHypothesis =>
    by_cases free : slot.interruptNum = 0
    · rw [storeLoop, if_pos free] at stored
      cases stored
      exact ⟨[], slot, slots, rfl, free, rfl⟩
    · rw [storeLoop, if_neg free] at stored
      obtain ⟨rest, later, rfl⟩ := Option.map_eq_some_iff.mp stored
      obtain ⟨front, free', back, rfl, isFree, rfl⟩ := inductionHypothesis later
      exact ⟨slot :: front, free', back, rfl, isFree, rfl⟩

/-! ## What the calls keep -/

/-- Nothing has been deleted, and the occupied slots are those with a handle. -/
structure Registered (state : State) : Prop where
  matched : Matched state
  undeleted : state.deleted = []
  occupied : ∀ slot ∈ state.intHandler, slot.interruptNum = 0 ↔ slot.hwiHandle = none

section Steps

variable {state : State} {interruptNum : Int}

theorem Registered.live (registered : Registered state) (handle : Nat) :
    Live state handle ↔ handle ∈ state.created := by
  simp [Live, registered.undeleted]

theorem udmaInterruptStart_fails (registered : Registered state) (interruptNum : Int) :
    Registered (udmaInterruptStart interruptNum none state) :=
  ⟨⟨registered.matched.recorded, registered.matched.once⟩, registered.undeleted, registered.occupied⟩

theorem udmaInterruptStart_registered (registered : Registered state) (hwiHandle : Nat)
    (nonZero : interruptNum ≠ 0) (free : ∃ slot ∈ state.intHandler, slot.interruptNum = 0) :
    Registered (udmaInterruptStart interruptNum (some hwiHandle) state) ∧
      (udmaInterruptStart interruptNum (some hwiHandle) state).ret = interruptNoError := by
  cases stored : storeLoop interruptNum hwiHandle state.intHandler with
  | none =>
    obtain ⟨slot, member, isFree⟩ := free
    exact absurd isFree (storeLoop_eq_none.mp stored slot member)
  | some intHandler =>
    obtain ⟨front, slot, back, table, isFree, rfl⟩ := storeLoop_eq_some stored
    have recorded := registered.matched.recorded
    have occupied := registered.occupied
    simp only [registered.live, Recorded, table, List.mem_append, List.mem_cons] at recorded occupied
    simp only [udmaInterruptStart, stored]
    refine ⟨⟨⟨fun handle => ?_, registered.matched.once⟩, registered.undeleted, ?_⟩, trivial⟩
    · simp only [Live, Recorded, registered.undeleted, List.not_mem_nil, not_false_eq_true, and_true,
        List.mem_append, List.mem_cons, or_false, recorded]
      constructor
      · rintro (⟨other, inFront | rfl | inBack, occupied, same⟩ | rfl)
        · exact ⟨other, .inl inFront, occupied, same⟩
        · exact absurd isFree occupied
        · exact ⟨other, .inr (.inr inBack), occupied, same⟩
        · exact ⟨_, .inr (.inl rfl), nonZero, rfl⟩
      · rintro ⟨other, inFront | rfl | inBack, occupied, same⟩
        · exact .inl ⟨other, .inl inFront, occupied, same⟩
        · exact .inr (Option.some.inj same).symm
        · exact .inl ⟨other, .inr (.inr inBack), occupied, same⟩
    · simp only [List.mem_append, List.mem_cons]
      rintro other (inFront | rfl | inBack)
      · exact occupied other (.inl inFront)
      · simp [nonZero]
      · exact occupied other (.inr (.inr inBack))

/-- Without a free slot the new object stays, and no slot has its handle. -/
theorem udmaInterruptStart_leaks {hwiHandle : Nat}
    (full : ∀ slot ∈ state.intHandler, slot.interruptNum ≠ 0) :
    udmaInterruptStart interruptNum (some hwiHandle) state = { state with
      created := state.created ++ [hwiHandle]
      ret := interruptNotInterruptSize } := by
  simp [udmaInterruptStart, storeLoop_eq_none.mpr full]

theorem interruptUserDisable_registered (registered : Registered state)
    (allowed : Registrable state (.disable interruptNum)) :
    Registered (interruptUserDisable interruptNum state) := by
  cases found : state.intHandler.find? (·.interruptNum = interruptNum) with
  | none =>
    simp only [interruptUserDisable, found]
    exact ⟨⟨registered.matched.recorded, registered.matched.once⟩, registered.undeleted,
      registered.occupied⟩
  | some slot =>
    have member := List.mem_of_find?_eq_some found
    have number : slot.interruptNum = interruptNum := by
      simpa using List.find?_some found
    have free : slot.interruptNum = 0 := by
      by_contra nonZero
      exact allowed (number ▸ nonZero) slot member number
    -- a free slot has no handle
    simp only [interruptUserDisable, found, (registered.occupied slot member).mp free,
      Option.toList_none, List.append_nil]
    exact ⟨⟨registered.matched.recorded, registered.matched.once⟩, registered.undeleted,
      registered.occupied⟩

/-- The slot keeps the handle of the object that is deleted. -/
theorem interruptUserDisable_broken (registered : Registered state)
    (broken : ¬ Registrable state (.disable interruptNum)) :
    ¬ Matched (interruptUserDisable interruptNum state) := by
  simp only [Registrable, Classical.not_imp, not_forall, not_not] at broken
  obtain ⟨nonZero, slot, member, number⟩ := broken
  cases found : state.intHandler.find? (·.interruptNum = interruptNum) with
  | none => simpa [number] using List.find?_eq_none.mp found slot member
  | some first =>
    have firstMember := List.mem_of_find?_eq_some found
    have firstNumber : first.interruptNum ≠ 0 := by
      have same : first.interruptNum = interruptNum := by simpa using List.find?_some found
      rw [same]
      exact nonZero
    cases handle : first.hwiHandle with
    | none => exact absurd ((registered.occupied first firstMember).mpr handle) firstNumber
    | some hwiHandle =>
      simp only [interruptUserDisable, found, handle]
      intro matched
      have live := (matched.recorded hwiHandle).mpr ⟨first, firstMember, firstNumber, handle⟩
      exact live.2 (by simp)

end Steps

/-! ## Runs -/

theorem step_registered {state result : State} {event : Event} (registered : Registered state)
    (allowed : Registrable state event) (stepped : step state event = some result) :
    Registered result := by
  cases event with
  | start interruptNum hwiHandle =>
    simp only [step, Option.ite_none_right_eq_some, Option.some.injEq] at stepped
    obtain ⟨starts, rfl⟩ := stepped
    cases hwiHandle with
    | none => exact udmaInterruptStart_fails registered interruptNum
    | some hwiHandle =>
      exact (udmaInterruptStart_registered registered hwiHandle starts.1 (allowed starts rfl)).1
  | disable interruptNum =>
    cases stepped
    exact interruptUserDisable_registered registered allowed

theorem kept_of_registrable {state : State} {event : Event} (registered : Registered state)
    (allowed : Registrable state event) : Kept state event := by
  intro result stepped
  refine ⟨(step_registered registered allowed stepped).matched, ?_⟩
  cases event with
  | start interruptNum hwiHandle =>
    simp only [step, Option.ite_none_right_eq_some, Option.some.injEq] at stepped
    obtain ⟨starts, rfl⟩ := stepped
    cases hwiHandle with
    | none => exact ⟨fun _ _ => id, fun _ created => by cases created⟩
    | some hwiHandle =>
      have succeeds := (udmaInterruptStart_registered registered hwiHandle starts.1
        (allowed starts rfl)).2
      exact ⟨fun failed => by simp [succeeds] at failed, fun _ _ => succeeds⟩
  | disable => trivial

theorem registrable_of_kept {state : State} {event : Event} (registered : Registered state)
    (kept : Kept state event) : Registrable state event := by
  by_contra broken
  cases event with
  | start interruptNum hwiHandle =>
    simp only [Registrable, Classical.not_imp, not_exists, not_and] at broken
    obtain ⟨starts, created, full⟩ := broken
    obtain ⟨hwiHandle, rfl⟩ := Option.isSome_iff_exists.mp created
    have leaks := @udmaInterruptStart_leaks state interruptNum hwiHandle full
    obtain ⟨_, failed, _⟩ := kept _ (if_pos starts)
    rw [leaks] at failed
    have live := failed (show interruptNotInterruptSize < 0 by decide) hwiHandle
      (by simp [Live, registered.undeleted])
    exact starts.2 hwiHandle rfl live.1
  | disable interruptNum =>
    exact interruptUserDisable_broken registered broken (kept _ rfl).1

/-- The table matches the live objects after every call, as long as no object is created for a
full table and no occupied slot is disabled. -/
theorem interrupts_kept_iff (events : List Event) :
    Along step Kept initial events ↔ Along step Registrable initial events := by
  refine along_congr Registered ?_ (fun _ _ _ => step_registered) ?_ events
  · exact fun _ _ registered => ⟨registrable_of_kept registered, kept_of_registrable registered⟩
  · refine ⟨⟨fun handle => ?_, List.nodup_nil⟩, rfl, ?_⟩
    · simp [Live, Recorded, initial, interruptConfig]
    · simp [initial, interruptConfig]

/-- The interrupt of the ADC is started, disabled and started again: the second object stays
behind, and the slot still has the first one. -/
theorem started_again_leaks : ∃ state, exec step initial
    [.start 30 (some 1), .disable 30, .start 30 (some 2)] = some state ∧
      state.ret = interruptNotInterruptSize ∧ state.registered = [] ∧ Live state 2 ∧
        ¬ Recorded state 2 ∧ ¬ Live state 1 ∧ Recorded state 1 := by
  refine ⟨_, rfl, rfl, rfl, by decide, ?_, by decide, ?_⟩
  · rintro ⟨slot, member, _, handle⟩
    cases List.mem_singleton.mp member
    cases handle
  · exact ⟨_, .head _, by decide, rfl⟩

end Interrupts

end PlhrFirmware.Acquisition
