import Mathlib.Data.Nat.ModEq

/-! # Overwriting rings

A producer writes an unbounded sequence of cells into a bounded memory and never waits: the
`p`-th cell goes to `address p`, over whatever was there.

* `Window address size` — any `size` consecutive cells have distinct addresses.
* `Holds address size memory written count` — after `count` writes the memory holds the
  last `size` cells of the sequence.
* `blockOf`, `window_blockOf` — a ring of slots, each of which is filled block by block.
* `lastTo address index count` — the last of the first `count` cells that goes to `index`,
  for sequences of addresses that are no window.
-/

namespace PlhrFirmware.Lib

variable {Index Cell : Type*}

def Window (address : Nat → Index) (size : Nat) : Prop :=
  ∀ p q, p < q → q < p + size → address p ≠ address q

def Holds (address : Nat → Index) (size : Nat) (memory : Index → Cell) (written : Nat → Cell)
    (count : Nat) : Prop :=
  ∀ p < count, count ≤ p + size → memory (address p) = written p

section Writing

variable {address : Nat → Index} {size count : Nat} {memory result : Index → Cell}
  {written : Nat → Cell}

theorem Holds.zero : Holds address size memory written 0 := by
  intro p impossible
  omega

/-- Writing the next cell, and nothing else, keeps the last `size` cells. -/
theorem Holds.write (holds : Holds address size memory written count)
    (window : Window address size) (fresh : result (address count) = written count)
    (frame : ∀ index, index ≠ address count → result index = memory index) :
    Holds address size result written (count + 1) := by
  intro p before recent
  rcases Nat.lt_succ_iff_lt_or_eq.mp before with older | rfl
  -- an older cell of the window is not where the new one goes
  · rw [frame _ (window p count older (by omega))]
    exact holds p older (by omega)
  · exact fresh

theorem Holds.congr (holds : Holds address size memory written count)
    (memorySame : ∀ index, result index = memory index) {written' : Nat → Cell}
    (writtenSame : ∀ p < count, written' p = written p) :
    Holds address size result written' count := by
  intro p before recent
  rw [memorySame, writtenSame p before]
  exact holds p before recent

end Writing

/-! ## Slots of blocks -/

/-- The next block is in the same slot while that slot has room. -/
theorem succ_div_within {p blocks : Nat} (more : p % blocks + 1 < blocks) :
    (p + 1) / blocks = p / blocks ∧ (p + 1) % blocks = p % blocks + 1 := by
  have position : p + 1 = blocks * (p / blocks) + (p % blocks + 1) := by
    rw [← Nat.add_assoc, Nat.div_add_mod]
  constructor
  · rw [position, Nat.mul_add_div (by omega), Nat.div_eq_of_lt more, Nat.add_zero]
  · rw [position, Nat.mul_add_mod, Nat.mod_eq_of_lt more]

theorem succ_div_switch {p blocks : Nat} (positive : 0 < blocks)
    (full : ¬ p % blocks + 1 < blocks) :
    (p + 1) / blocks = p / blocks + 1 ∧ (p + 1) % blocks = 0 := by
  have last : p % blocks + 1 = blocks := by
    have := Nat.mod_lt p positive
    omega
  have position : p + 1 = blocks * (p / blocks + 1) := by
    rw [Nat.mul_add, Nat.mul_one, ← Nat.div_add_mod p blocks, Nat.add_assoc, last,
      Nat.div_add_mod p blocks]
  constructor
  · rw [position, Nat.mul_div_cancel_left _ positive]
  · rw [position, Nat.mul_mod_right]

variable {slots blocks : Nat} [NeZero slots] [NeZero blocks]

/-- Where the `p`-th block goes when `slots` slots of `blocks` blocks are filled in turn. -/
def blockOf (slots blocks : Nat) [NeZero slots] [NeZero blocks] (p : Nat) :
    Fin slots × Fin blocks :=
  (Fin.ofNat slots (p / blocks), Fin.ofNat blocks p)

theorem window_blockOf : Window (blockOf slots blocks) (slots * blocks) := by
  intro p q before near same
  have slot : p / blocks % slots = q / blocks % slots := congrArg (·.1.val) same
  have block : p % blocks = q % blocks := congrArg (·.2.val) same
  -- the slot and the block together fix the position in the ring
  have parts : p % (blocks * slots) = q % (blocks * slots) := by
    rw [Nat.mod_mul, Nat.mod_mul, slot, block]
  have apart : blocks * slots ∣ q - p := (Nat.modEq_iff_dvd' before.le).mp parts
  have := Nat.le_of_dvd (by omega) apart
  rw [Nat.mul_comm slots] at near
  omega

theorem blockOf_mul_add (k i : Nat) (bound : i < blocks) :
    blockOf slots blocks (blocks * k + i) = (Fin.ofNat slots k, ⟨i, bound⟩) := by
  have slot : (blocks * k + i) / blocks = k := by
    rw [Nat.mul_add_div (by omega), Nat.div_eq_of_lt bound, Nat.add_zero]
  simp only [blockOf, slot, Prod.mk.injEq, true_and]
  apply Fin.ext
  simp [Nat.mod_eq_of_lt bound]

/-! ## The last cell of an index -/

section LastTo

variable [DecidableEq Index] {address : Nat → Index} {index : Index} {count later p : Nat}

def lastTo (address : Nat → Index) (index : Index) : Nat → Option Nat
  | 0 => none
  | count + 1 => if address count = index then some count else lastTo address index count

theorem lastTo_succ_self : lastTo address (address count) (count + 1) = some count :=
  if_pos rfl

theorem lastTo_succ_of_ne (elsewhere : address count ≠ index) :
    lastTo address index (count + 1) = lastTo address index count :=
  if_neg elsewhere

theorem lastTo_lt (last : lastTo address index count = some p) : p < count := by
  induction count with
  | zero => cases last
  | succ count inductionHypothesis =>
    rw [lastTo] at last
    split at last
    · cases last; exact Nat.lt_succ_self _
    · exact (inductionHypothesis last).trans (Nat.lt_succ_self _)

/-- Cells that go elsewhere do not change the last one. -/
theorem lastTo_extend (le : count ≤ later)
    (elsewhere : ∀ q, count ≤ q → q < later → address q ≠ index) :
    lastTo address index later = lastTo address index count := by
  induction le with
  | refl => rfl
  | step le inductionHypothesis =>
    rw [lastTo_succ_of_ne (elsewhere _ le (Nat.lt_succ_self _))]
    exact inductionHypothesis fun q begun before => elsewhere q begun (before.trans (Nat.lt_succ_self _))

theorem lastTo_eq_some (before : p < count) (goes : address p = index)
    (elsewhere : ∀ q, p < q → q < count → address q ≠ index) :
    lastTo address index count = some p := by
  subst goes
  rw [lastTo_extend before elsewhere, lastTo_succ_self]

end LastTo

end PlhrFirmware.Lib
