import PlhrFirmware.Lib.Chain

/-! # Slots that own what they point to

A control block is a pointer for each of its slots.  `held slots pointer` lists the addresses that
the slots point to, and `Accounts heap slots pointer lost` says that these and the `lost` ones are
what is allocated, each once.  To overwrite a slot loses what it pointed to; to release it does
not.
-/

namespace PlhrFirmware.Lib

variable {Slot Address Cell : Type*}

def held (slots : List Slot) (pointer : Slot → Option Address) : List Address :=
  slots.filterMap pointer

/-- What is allocated is what the slots point to and what has been lost. -/
def Accounts (heap : Address → Option Cell) (slots : List Slot) (pointer : Slot → Option Address)
    (lost : List Address) : Prop :=
  Owns heap (held slots pointer ++ lost)

section Held

variable {slots : List Slot} {pointer : Slot → Option Address} {slot : Slot} {address : Address}

theorem mem_held : address ∈ held slots pointer ↔ ∃ slot ∈ slots, pointer slot = some address :=
  List.mem_filterMap

theorem held_eq_nil (null : ∀ slot ∈ slots, pointer slot = none) : held slots pointer = [] :=
  List.filterMap_eq_nil_iff.mpr null

@[simp] theorem held_nil (pointer : Slot → Option Address) : held [] pointer = [] := rfl

theorem held_cons (slot : Slot) (slots : List Slot) (pointer : Slot → Option Address) :
    held (slot :: slots) pointer = (pointer slot).toList ++ held slots pointer := by
  rw [held, List.filterMap_cons]
  cases pointer slot with
  | none => rfl
  | some address => rfl

theorem held_append (first second : List Slot) (pointer : Slot → Option Address) :
    held (first ++ second) pointer = held first pointer ++ held second pointer :=
  List.filterMap_append

variable [DecidableEq Slot]

theorem held_update_of_notMem (outside : slot ∉ slots) (value : Option Address) :
    held slots (Function.update pointer slot value) = held slots pointer := by
  apply List.filterMap_congr
  intro other member
  have different : other ≠ slot := fun same => outside (same ▸ member)
  rw [Function.update_of_ne different]

theorem held_update (pointer : Slot → Option Address) (distinct : slots.Nodup) (member : slot ∈ slots)
    (value : Option Address) :
    (held slots (Function.update pointer slot value)).Perm
      (value.toList ++ held slots (Function.update pointer slot none)) := by
  induction slots with
  | nil => cases member
  | cons first slots inductionHypothesis =>
    obtain ⟨outside, distinct⟩ := List.nodup_cons.mp distinct
    by_cases same : slot = first
    · subst same
      cases value with
      | none => rfl
      | some address =>
        simp only [held, List.filterMap_cons, Function.update_self]
        change (address :: held slots _).Perm (address :: held slots _)
        rw [held_update_of_notMem outside, held_update_of_notMem outside]
    · have later := inductionHypothesis distinct (List.mem_of_ne_of_mem same member)
      have different : first ≠ slot := fun equal => same equal.symm
      simp only [held, List.filterMap_cons, Function.update_of_ne different]
      cases pointer first with
      | none => exact later
      | some address => exact (later.cons address).trans List.perm_middle.symm

/-- What the slots point to is what one of them does and what the others do. -/
theorem held_perm (pointer : Slot → Option Address) (distinct : slots.Nodup) (member : slot ∈ slots) :
    (held slots pointer).Perm
      ((pointer slot).toList ++ held slots (Function.update pointer slot none)) := by
  have all := held_update pointer distinct member (pointer slot)
  rwa [Function.update_eq_self] at all

end Held

section Accounts

variable {heap : Address → Option Cell} {slots : List Slot} {pointer : Slot → Option Address}
  {lost : List Address} {slot : Slot} {address : Address}

theorem Accounts.none (slots : List Slot) :
    Accounts (fun _ : Address => (Option.none : Option Cell)) slots (fun _ => Option.none) [] := by
  rw [Accounts, held_eq_nil fun _ _ => rfl]
  exact Owns.none

theorem Accounts.read (accounts : Accounts heap slots pointer lost) (member : slot ∈ slots)
    (points : pointer slot = some address) : ∃ cell, heap address = some cell :=
  Owns.read accounts (List.mem_append_left _ (mem_held.mpr ⟨slot, member, points⟩))

theorem Accounts.ne (accounts : Accounts heap slots pointer lost) (points : pointer slot = some address)
    {other : Address} (member : slot ∈ slots) (isLost : other ∈ lost) : address ≠ other := by
  have apart := (List.nodup_append.mp accounts.distinct).2.2
  exact apart _ (mem_held.mpr ⟨slot, member, points⟩) _ isLost

variable [DecidableEq Slot]

/-- Two slots do not share what they point to. -/
theorem Accounts.injective (accounts : Accounts heap slots pointer lost) (distinct : slots.Nodup)
    (member : slot ∈ slots) {other : Slot} (otherMember : other ∈ slots) (different : other ≠ slot)
    (points : pointer slot = some address) : pointer other ≠ some address := by
  intro shared
  have parts := (held_perm pointer distinct member).nodup_iff.mp
    (List.nodup_append.mp accounts.distinct).1
  rw [points] at parts
  apply (List.nodup_cons.mp parts).1
  exact mem_held.mpr ⟨other, otherMember, by rw [Function.update_of_ne different, shared]⟩

/-- To clear a slot loses what it pointed to. -/
theorem Accounts.forget (accounts : Accounts heap slots pointer lost) (distinct : slots.Nodup)
    (member : slot ∈ slots) :
    Accounts heap slots (Function.update pointer slot .none) ((pointer slot).toList ++ lost) := by
  apply Owns.perm accounts
  have parts := (held_perm pointer distinct member).append_right lost
  refine parts.trans ?_
  rw [← List.append_assoc]
  exact List.perm_append_comm.append_right lost

variable [DecidableEq Address]

/-- To store what has been allocated loses what the slot pointed to. -/
theorem Accounts.store (accounts : Accounts heap slots pointer lost) (distinct : slots.Nodup)
    (member : slot ∈ slots) (fresh : heap address = .none) (cell : Cell) :
    Accounts (Function.update heap address (some cell)) slots
      (Function.update pointer slot (some address)) ((pointer slot).toList ++ lost) := by
  have stored := Owns.malloc (accounts.forget distinct member) fresh cell
  apply Owns.perm stored
  exact ((held_update pointer distinct member (some address)).append_right _).symm

theorem Accounts.release (accounts : Accounts heap slots pointer lost) (distinct : slots.Nodup)
    (member : slot ∈ slots) (points : pointer slot = some address) :
    Accounts (Function.update heap address .none) slots (Function.update pointer slot .none) lost := by
  have parts := (held_perm pointer distinct member).append_right lost
  rw [points] at parts
  exact Owns.free (Owns.perm accounts parts)

omit [DecidableEq Slot] in
theorem Accounts.write (accounts : Accounts heap slots pointer lost) {current : Cell}
    (read : heap address = some current) (cell : Cell) :
    Accounts (Function.update heap address (some cell)) slots pointer lost :=
  Owns.write accounts ((accounts.allocated address).mp (by simp [read])) cell

end Accounts

end PlhrFirmware.Lib
