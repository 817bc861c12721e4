import Mathlib.Algebra.BigOperators.Group.List.Basic
import Mathlib.Algebra.Order.Field.Basic
import Mathlib.Data.Sign.Basic

/-! # Statistics of a list

In exact arithmetic.  The square root is a parameter.
-/

namespace PlhrFirmware.Lib

variable {Value : Type*} [Field Value]

def mean (run : List Value) : Value := run.sum / run.length

def moment (order : Nat) (run : List Value) : Value :=
  mean (run.map fun entry => (entry - mean run) ^ order)

/-- The standard deviation of a sample, and zero for a single entry. -/
def std (sqrt : Value → Value) (run : List Value) : Value :=
  if run.length = 1 then 0
  else sqrt ((run.map fun entry => (entry - mean run) ^ 2).sum / (run.length - 1))

variable [LinearOrder Value] [IsStrictOrderedRing Value] {run : List Value} {sign : SignType}

theorem sign_add_same {first second : Value} (left : SignType.sign first = sign)
    (right : SignType.sign second = sign) : SignType.sign (first + second) = sign := by
  cases sign with
  | zero =>
    rw [SignType.zero_eq_zero, sign_eq_zero_iff] at left right ⊢
    rw [left, right, add_zero]
  | neg =>
    rw [SignType.neg_eq_neg_one, sign_eq_neg_one_iff] at left right ⊢
    exact add_neg left right
  | pos =>
    rw [SignType.pos_eq_one, sign_eq_one_iff] at left right ⊢
    exact add_pos left right

theorem sign_mean (nonempty : run ≠ []) (all : ∀ entry ∈ run, SignType.sign entry = sign) :
    SignType.sign (mean run) = sign := by
  have sum : SignType.sign run.sum = sign := by
    induction run with
    | nil => exact absurd rfl nonempty
    | cons entry run inductionHypothesis =>
      obtain ⟨first, rest⟩ := List.forall_mem_cons.mp all
      rw [List.sum_cons]
      cases run with
      | nil => simpa using first
      | cons => exact sign_add_same first (inductionHypothesis (by simp) rest)
  have positive : (0 : Value) < run.length := Nat.cast_pos.mpr (List.length_pos_iff.mpr nonempty)
  rw [mean, div_eq_mul_inv, sign_mul, sum, sign_pos (inv_pos.mpr positive), mul_one]

theorem length_mul_mean (nonempty : run ≠ []) : run.length * mean run = run.sum := by
  have nonzero : (run.length : Value) ≠ 0 := Nat.cast_ne_zero.mpr (mt List.length_eq_zero_iff.mp nonempty)
  exact mul_div_cancel₀ _ nonzero

/-! ## Parts of a run -/

section Parts

variable {parts : List (List Value)}

omit [IsStrictOrderedRing Value] [Field Value] in
/-- The greatest entry is the greatest of those of the parts. -/
theorem max?_of_parts {greatest : Value} (together : parts.flatten.Perm run)
    (isGreatest : run.max? = some greatest) : (parts.filterMap List.max?).max? = some greatest := by
  obtain ⟨member, above⟩ := List.max?_eq_some_iff.mp isGreatest
  obtain ⟨part, inside, inPart⟩ := List.mem_flatten.mp (together.mem_iff.mpr member)
  have below : ∀ part ∈ parts, ∀ entry ∈ part, entry ≤ greatest := by
    intro part inside entry inPart
    exact above entry (together.mem_iff.mp (List.mem_flatten.mpr ⟨part, inside, inPart⟩))
  have ofPart : part.max? = some greatest := List.max?_eq_some_iff.mpr ⟨inPart, below part inside⟩
  apply List.max?_eq_some_iff.mpr
  constructor
  · exact List.mem_filterMap.mpr ⟨part, inside, ofPart⟩
  · intro entry isEntry
    obtain ⟨part, inside, ofPart⟩ := List.mem_filterMap.mp isEntry
    exact below part inside entry (List.max?_mem ofPart)

omit [IsStrictOrderedRing Value] [Field Value] in
theorem min?_of_parts {least : Value} (together : parts.flatten.Perm run) (isLeast : run.min? = some least) :
    (parts.filterMap List.min?).min? = some least :=
  @max?_of_parts Valueᵒᵈ _ run parts least together isLeast

/-- The means of the parts, each as often as the part has entries. -/
theorem sum_of_parts (together : parts.flatten.Perm run) :
    (parts.map fun part => (part.length : Value) * mean part).sum = run.sum := by
  have each : (fun part : List Value => (part.length : Value) * mean part) = List.sum := by
    funext part
    by_cases nothing : part = []
    · simp [nothing]
    · exact length_mul_mean nothing
  rw [each, ← List.sum_flatten, together.sum_eq]

end Parts

end PlhrFirmware.Lib
