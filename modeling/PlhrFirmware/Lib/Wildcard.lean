import Mathlib.Logic.Basic

/-! # Patterns of levels

A name is a list of levels, and a pattern fixes a level, takes any one, or takes any number of
them.  `Matches` is the meaning of a list of patterns; one with a `multi` that is not the last
matches nothing.
-/

namespace PlhrFirmware.Lib

variable {Level : Type*}

inductive Pattern (Level : Type*) where
  | exact (level : Level)
  | single
  | multi
  deriving DecidableEq, Repr

inductive Matches : List (Pattern Level) → List Level → Prop where
  | nil : Matches [] []
  | exact {patterns : List (Pattern Level)} {levels : List Level} (level : Level)
      (rest : Matches patterns levels) : Matches (.exact level :: patterns) (level :: levels)
  | single {patterns : List (Pattern Level)} {levels : List Level} (level : Level)
      (rest : Matches patterns levels) : Matches (.single :: patterns) (level :: levels)
  | multi (levels : List Level) : Matches [.multi] levels

section Inversion

variable {patterns : List (Pattern Level)} {levels : List Level} {level other : Level}

@[simp] theorem matches_nil_left : Matches [] levels ↔ levels = [] := by
  constructor
  · intro matched
    cases matched
    rfl
  · rintro rfl
    exact .nil

@[simp] theorem matches_exact_cons :
    Matches (.exact level :: patterns) (other :: levels) ↔ level = other ∧ Matches patterns levels := by
  constructor
  · intro matched
    cases matched with
    | exact _ rest => exact ⟨rfl, rest⟩
  · rintro ⟨rfl, rest⟩
    exact .exact level rest

@[simp] theorem matches_single_cons :
    Matches (.single :: patterns) (level :: levels) ↔ Matches patterns levels := by
  constructor
  · intro matched
    cases matched with
    | single _ rest => exact rest
  · exact .single level

@[simp] theorem matches_multi : Matches (.multi :: patterns) levels ↔ patterns = [] := by
  constructor
  · intro matched
    cases matched
    rfl
  · rintro rfl
    exact .multi levels

/-- Nothing is left of the name: only a `multi` may follow. -/
theorem matches_nil_right : Matches patterns ([] : List Level) ↔ patterns = [] ∨ patterns = [.multi] := by
  constructor
  · intro matched
    cases matched with
    | nil => exact .inl rfl
    | multi => exact .inr rfl
  · rintro (rfl | rfl)
    · exact .nil
    · exact .multi []

end Inversion

instance Matches.decidable [DecidableEq Level] (patterns : List (Pattern Level))
    (levels : List Level) : Decidable (Matches patterns levels) :=
  match patterns, levels with
  | [], _ => decidable_of_iff _ matches_nil_left.symm
  | .exact _ :: _, [] => .isFalse fun matched => by cases matched
  | .exact _ :: patterns, _ :: levels =>
    have := Matches.decidable patterns levels
    decidable_of_iff _ matches_exact_cons.symm
  | .single :: _, [] => .isFalse fun matched => by cases matched
  | .single :: patterns, _ :: levels =>
    have := Matches.decidable patterns levels
    decidable_of_iff _ matches_single_cons.symm
  | .multi :: _, _ => decidable_of_iff _ matches_multi.symm

example : Matches [.exact 1, .single, .multi] [1, 2] ∧ ¬ Matches [.single] [1, 2] := by decide

end PlhrFirmware.Lib
