import Mathlib.Data.List.Basic
import PlhrFirmware.Lib.Bytes
import PlhrFirmware.Lib.Wildcard

/-! # Matching a topic

`MQTTHelperTopicMatching` compares a filter of the list of topics with a name, level by level.  A
string is the list of its bytes up to the NUL, and a pointer into it what is left of it.  Every
read is checked: `memcmp` reads all the bytes that it is asked to compare.
-/

namespace PlhrFirmware.Mqtt

open PlhrFirmware.Lib

/-! ## `MQTTHelperTopicMatching` -/

/-- `'/'` -/
abbrev slash : UInt8 := 47

/-- `'+'` -/
abbrev plus : UInt8 := 43

/-- `'#'` -/
abbrev hash : UInt8 := 35

def strchr (char : UInt8) : List UInt8 → Option (List UInt8)
  | [] => none
  | byte :: rest => if byte = char then some (byte :: rest) else strchr char rest

/-- Only whether the value is 0 is used. -/
def memcmp (first second : List UInt8) (len : Nat) : Except Fault Int := do
  let left ← load (first ++ [0]) 0 len
  let right ← load (second ++ [0]) 0 len
  return if left = right then 0 else 1

/-- The length of the level at `s`, and of the separator or the NUL behind it. -/
def levelLen (s : List UInt8) : Nat :=
  match strchr slash s with
  | some sNext => s.length - sNext.length + 1
  | none => s.length + 1

def compareLevel (s p : List UInt8) : Except Fault Int :=
  if s.head? ≠ some plus then memcmp s p (levelLen s) else .ok 0

theorem strchr_length {char : UInt8} {string found : List UInt8} (at_ : strchr char string = some found) :
    found ≠ [] ∧ found.length ≤ string.length := by
  induction string with
  | nil => cases at_
  | cons byte rest inductionHypothesis =>
    rw [strchr] at at_
    split at at_
    · cases at_
      simp
    · obtain ⟨nonempty, shorter⟩ := inductionHypothesis at_
      exact ⟨nonempty, shorter.trans (Nat.le_succ _)⟩

/-- `p` is `none` when it is one behind `NULL`, which a read through it follows. -/
def mqttHelperTopicMatching (s : List UInt8) (p : Option (List UInt8)) : Except Fault Int :=
  if s.head? = some hash then .ok 1
  else
    match p with
    | none => .error ⟨1, 1, 0⟩
    | some p =>
      match compareLevel s p with
      | .error fault => .error fault
      | .ok ret =>
        if ret ≠ 0 then .ok 0
        else
          match _ : strchr slash s with
          | some sNext => mqttHelperTopicMatching sNext.tail ((strchr slash p).map List.tail)
          | none => .ok (if (strchr slash p).isSome then 0 else 1)
termination_by s.length
decreasing_by
  obtain ⟨nonempty, shorter⟩ := strchr_length ‹_›
  have positive := List.length_pos_iff.mpr nonempty
  rw [List.length_tail]
  omega

/-! ## Filters and names -/

def levels (string : List UInt8) : List (List UInt8) := string.splitOn slash

def levelPattern (level : List UInt8) : Pattern (List UInt8) :=
  if level = [plus] then .single else if level = [hash] then .multi else .exact level

def filterOf (s : List UInt8) : List (Pattern (List UInt8)) := (levels s).map levelPattern

/-- `+` and `#` are whole levels, and `#` is the last one. -/
def ValidLevels : List (List UInt8) → Prop
  | [] => True
  | level :: rest => (plus ∈ level → level = [plus]) ∧ (hash ∈ level → level = [hash] ∧ rest = []) ∧
      ValidLevels rest

instance ValidLevels.decidable (levels : List (List UInt8)) : Decidable (ValidLevels levels) :=
  match levels with
  | [] => .isTrue trivial
  | _ :: rest =>
    have := ValidLevels.decidable rest
    inferInstanceAs (Decidable (_ ∧ _ ∧ _))

/-- No byte of a string is its NUL. -/
def CString (string : List UInt8) : Prop := 0 ∉ string

instance : DecidablePred CString := fun _ => inferInstanceAs (Decidable (_ ∉ _))

/-- The function returns without a read outside the strings, and returns 1 exactly when the name
matches the filter. -/
def Implemented (s p : List UInt8) : Prop := ∃ ret, mqttHelperTopicMatching s (some p) = .ok ret ∧
  (ret = 1 ↔ Matches (filterOf s) (levels p))

/-- Where the filter and the name first leave the function's ground, behind levels that match: a
level of the filter is longer than the rest of the name; the name ends where only `#` follows in
the filter; the name ends at a `+` and the filter goes on with another level than `#`. -/
inductive Strays : List (Pattern (List UInt8)) → List (List UInt8) → Prop where
  | beyond {level : List UInt8} {patterns : List (Pattern (List UInt8))} {names : List (List UInt8)}
      (long : ([slash].intercalate names).length < level.length) :
      Strays (.exact level :: patterns) names
  | parent (level : List UInt8) : Strays [.exact level, .multi] [level]
  | ended {level : List UInt8} {patterns : List (Pattern (List UInt8))} (more : patterns ≠ [])
      (other : patterns ≠ [.multi]) : Strays (.single :: patterns) [level]
  | exact {level : List UInt8} {patterns : List (Pattern (List UInt8))} {names : List (List UInt8)}
      (rest : Strays patterns names) (more : names ≠ []) :
      Strays (.exact level :: patterns) (level :: names)
  | single {level : List UInt8} {patterns : List (Pattern (List UInt8))}
      {names : List (List UInt8)} (rest : Strays patterns names) (more : names ≠ []) :
      Strays (.single :: patterns) (level :: names)

/-! ## Levels -/

theorem strchr_last {string : List UInt8} (outside : slash ∉ string) : strchr slash string = none := by
  induction string with
  | nil => rfl
  | cons byte string inductionHypothesis =>
    simp only [List.mem_cons, not_or] at outside
    rw [strchr, if_neg (Ne.symm outside.1)]
    exact inductionHypothesis outside.2

theorem strchr_next {level : List UInt8} (outside : slash ∉ level) (rest : List UInt8) :
    strchr slash (level ++ slash :: rest) = some (slash :: rest) := by
  induction level with
  | nil => rfl
  | cons byte level inductionHypothesis =>
    simp only [List.mem_cons, not_or] at outside
    rw [List.cons_append, strchr, if_neg (Ne.symm outside.1)]
    exact inductionHypothesis outside.2

theorem levels_last {string : List UInt8} (outside : slash ∉ string) : levels string = [string] :=
  List.splitOn_eq_singleton outside

theorem levels_next {level : List UInt8} (outside : slash ∉ level) (rest : List UInt8) :
    levels (level ++ slash :: rest) = level :: levels rest :=
  List.splitOn_append_cons_self_of_not_mem outside rest

/-- A string is one level, or a level, a separator and the rest. -/
theorem level_cases (string : List UInt8) : slash ∉ string ∨
    ∃ level rest, slash ∉ level ∧ string = level ++ slash :: rest := by
  induction string with
  | nil => exact .inl List.not_mem_nil
  | cons byte string inductionHypothesis =>
    by_cases separator : byte = slash
    · subst separator
      exact .inr ⟨[], string, List.not_mem_nil, rfl⟩
    · cases inductionHypothesis with
      | inl last => exact .inl (by simp [last, Ne.symm separator])
      | inr more =>
        obtain ⟨level, rest, outside, rfl⟩ := more
        exact .inr ⟨byte :: level, rest, by simp [outside, Ne.symm separator], rfl⟩

theorem levels_ne_nil (string : List UInt8) : levels string ≠ [] := List.splitOn_ne_nil slash string

theorem intercalate_levels (string : List UInt8) : [slash].intercalate (levels string) = string :=
  List.intercalate_splitOn slash

theorem filterOf_ne_nil (s : List UInt8) : filterOf s ≠ [] := by
  simpa [filterOf] using levels_ne_nil s

/-! ## Comparing a level -/

/-- `memcmp` over the whole of a text at `s`. -/
theorem memcmp_eq {s p text : List UInt8} (at_ : text <+: s ++ [0]) :
    memcmp s p text.length =
      if p.length + 1 < text.length then .error ⟨0, text.length, p.length + 1⟩
      else .ok (if text <+: p ++ [0] then 0 else 1) := by
  have left : load (s ++ [0]) 0 text.length = .ok text := by
    rw [load_fits (by simpa using at_.length_le), slice, List.drop_zero]
    exact congrArg Except.ok (List.prefix_iff_eq_take.mp at_).symm
  rw [memcmp, left, ok_bind]
  split
  · rw [load_beyond (by simp; omega), error_bind, List.length_append, List.length_singleton]
  · rw [load_fits (by simp; omega), ok_bind, slice, List.drop_zero]
    simp only [List.prefix_iff_eq_take]
    rfl

section Texts

variable {level other rest more : List UInt8}

theorem terminated_prefix_iff {p : List UInt8} (text : CString p) :
    level ++ [0] <+: p ++ [0] ↔ level = p := by
  constructor
  · rintro ⟨behind, same⟩
    rw [List.append_assoc] at same
    exact ((List.append_cons_inj_of_notMem text List.not_mem_nil).mp same.symm).1.symm
  · rintro rfl
    exact List.prefix_refl _

theorem separated_prefix_iff {p : List UInt8} :
    level ++ [slash] <+: p ++ [0] ↔ ∃ rest, p = level ++ slash :: rest := by
  constructor
  · rintro ⟨behind, same⟩
    cases behind.eq_nil_or_concat with
    | inl nothing =>
      subst nothing
      rw [List.append_nil] at same
      cases (List.append_inj' same rfl).2
    | inr some =>
      obtain ⟨front, last, rfl⟩ := some
      rw [List.concat_eq_append, ← List.append_assoc] at same
      refine ⟨front, ?_⟩
      rw [← (List.append_inj' same rfl).1, List.append_assoc]
      rfl
  · rintro ⟨rest, rfl⟩
    exact ⟨rest ++ [0], by simp⟩

end Texts

/-! ## One level of the loop -/

section Loop

variable {s p level rest : List UInt8}

theorem matching_multi (wild : s.head? = some hash) (p : Option (List UInt8)) :
    mqttHelperTopicMatching s p = .ok 1 := by
  rw [mqttHelperTopicMatching.eq_def, if_pos wild]

/-- The name has ended, and the filter goes on. -/
theorem matching_null (other : s.head? ≠ some hash) :
    mqttHelperTopicMatching s none = .error ⟨1, 1, 0⟩ := by
  rw [mqttHelperTopicMatching, if_neg other]

theorem matching_differs (other : s.head? ≠ some hash) (compared : compareLevel s p = .ok 1) :
    mqttHelperTopicMatching s (some p) = .ok 0 := by
  simp [mqttHelperTopicMatching, other, compared]

theorem matching_faults (other : s.head? ≠ some hash) {fault : Fault}
    (compared : compareLevel s p = .error fault) :
    mqttHelperTopicMatching s (some p) = .error fault := by
  simp [mqttHelperTopicMatching, other, compared]

theorem matching_last (other : s.head? ≠ some hash) (compared : compareLevel s p = .ok 0)
    (last : strchr slash s = none) : mqttHelperTopicMatching s (some p) =
      .ok (if (strchr slash p).isSome then 0 else 1) := by
  rw [mqttHelperTopicMatching]
  simp only [if_neg other, compared]
  split
  · contradiction
  · split
    · rename_i found
      rw [last] at found
      cases found
    · rfl

theorem matching_next (other : s.head? ≠ some hash) (compared : compareLevel s p = .ok 0)
    (more : strchr slash s = some (slash :: rest)) : mqttHelperTopicMatching s (some p) =
      mqttHelperTopicMatching rest ((strchr slash p).map List.tail) := by
  rw [mqttHelperTopicMatching]
  simp only [if_neg other, compared]
  split
  · contradiction
  · split
    · rename_i found
      rw [more] at found
      cases found
      rfl
    · rename_i found
      rw [more] at found
      cases found

/-- The level is followed by `char`, a separator or the NUL. -/
theorem compareLevel_eq {char : UInt8} (other : s.head? ≠ some plus)
    (at_ : level ++ [char] <+: s ++ [0]) (len : levelLen s = level.length + 1) :
    compareLevel s p = if p.length < level.length then .error ⟨0, level.length + 1, p.length + 1⟩
      else .ok (if level ++ [char] <+: p ++ [0] then 0 else 1) := by
  have compared := @memcmp_eq s p (level ++ [char]) at_
  simp only [List.length_append, List.length_singleton, Nat.add_lt_add_iff_right] at compared
  rw [compareLevel, if_pos other, len, compared]

theorem levelLen_last (last : strchr slash s = none) : levelLen s = s.length + 1 := by
  simp [levelLen, last]

theorem levelLen_next (more : strchr slash (level ++ slash :: rest) = some (slash :: rest)) :
    levelLen (level ++ slash :: rest) = level.length + 1 := by
  simp [levelLen, more]

theorem head_next {char : UInt8} (other : char ≠ slash) :
    (level ++ slash :: rest).head? = some char ↔ level.head? = some char := by
  cases level with
  | nil => simp [Ne.symm other]
  | cons => simp

end Loop

/-! ## Patterns of levels -/

section Patterns

variable {level : List UInt8}

/-- A level with a wildcard in front is the wildcard. -/
theorem levelPattern_cases (plusAlone : plus ∈ level → level = [plus])
    (hashAlone : hash ∈ level → level = [hash]) :
    level = [plus] ∧ levelPattern level = .single ∨ level = [hash] ∧ levelPattern level = .multi ∨
      level.head? ≠ some plus ∧ level.head? ≠ some hash ∧ levelPattern level = .exact level := by
  by_cases single : level = [plus]
  · exact .inl ⟨single, if_pos single⟩
  by_cases multi : level = [hash]
  · subst multi
    exact .inr (.inl ⟨rfl, rfl⟩)
  · refine .inr (.inr ⟨fun head => ?_, fun head => ?_, by rw [levelPattern, if_neg single, if_neg multi]⟩)
    · exact single (plusAlone (List.mem_of_mem_head? head))
    · exact multi (hashAlone (List.mem_of_mem_head? head))

end Patterns

/-- Over the levels of a string. -/
theorem levels_induction {motive : List UInt8 → Prop}
    (last : ∀ string, slash ∉ string → motive string)
    (next : ∀ level rest, slash ∉ level → motive rest → motive (level ++ slash :: rest))
    (string : List UInt8) : motive string := by
  induction length : string.length using Nat.strong_induction_on generalizing string with
  | _ _ inductionHypothesis =>
    cases level_cases string with
    | inl whole => exact last string whole
    | inr more =>
      obtain ⟨level, rest, outside, rfl⟩ := more
      refine next level rest outside (inductionHypothesis rest.length ?_ rest rfl)
      rw [← length, List.length_append, List.length_cons]
      omega

theorem matching_self (string : List UInt8) : mqttHelperTopicMatching string (some string) = .ok 1 := by
  have compared : ∀ string, levelLen string ≤ string.length + 1 → compareLevel string string = .ok 0 := by
    intro string bounded
    rw [compareLevel, memcmp, load_fits (by simpa using bounded)]
    split <;> simp [ok_bind]
  induction string using levels_induction with
  | last string outside =>
    by_cases wild : string.head? = some hash
    · exact matching_multi wild _
    · have found := strchr_last outside
      rw [matching_last wild (compared string (levelLen_last found).le) found, found]
      rfl
  | next level rest outside inductionHypothesis =>
    by_cases wild : (level ++ slash :: rest).head? = some hash
    · exact matching_multi wild _
    · have found := strchr_next outside rest
      have bounded : levelLen (level ++ slash :: rest) ≤ (level ++ slash :: rest).length + 1 := by
        rw [levelLen_next found]
        simp
      rw [matching_next wild (compared _ bounded) found, found]
      exact inductionHypothesis

/-! ## Straying -/

section Strays

variable {level other : List UInt8} {patterns : List (Pattern (List UInt8))}
  {names : List (List UInt8)}

theorem not_strays_nil : ¬ Strays [] names := by
  intro strays
  cases strays

theorem not_strays_multi : ¬ Strays (.multi :: patterns) names := by
  intro strays
  cases strays

theorem not_strays_single : ¬ Strays [.single] names := by
  intro strays
  cases strays with
  | ended more => exact more rfl
  | single rest => exact not_strays_nil rest

theorem strays_single_one : Strays (.single :: patterns) [level] ↔ patterns ≠ [] ∧ patterns ≠ [.multi] := by
  constructor
  · intro strays
    cases strays with
    | ended more other => exact ⟨more, other⟩
    | single _ more => exact absurd rfl more
  · exact fun both => .ended both.1 both.2

theorem strays_single_cons (more : names ≠ []) :
    Strays (.single :: patterns) (level :: names) ↔ Strays patterns names := by
  constructor
  · intro strays
    cases strays with
    | ended => exact absurd rfl more
    | single rest => exact rest
  · exact fun rest => .single rest more

/-- Behind a level that is not too long. -/
theorem strays_exact_cons (short : level.length ≤ ([slash].intercalate (other :: names)).length) :
    Strays (.exact level :: patterns) (other :: names) ↔ level = other ∧
      (names = [] ∧ patterns = [.multi] ∨ names ≠ [] ∧ Strays patterns names) := by
  constructor
  · intro strays
    cases strays with
    | beyond long => exact absurd short (Nat.not_le.mpr long)
    | parent => exact ⟨rfl, .inl ⟨rfl, rfl⟩⟩
    | exact rest more => exact ⟨rfl, .inr ⟨more, rest⟩⟩
  · rintro ⟨rfl, ⟨rfl, rfl⟩ | ⟨more, rest⟩⟩
    · exact .parent level
    · exact .exact rest more

end Strays

/-! ## The meaning of filters -/

section Implemented

variable {s p level rest : List UInt8}

theorem implemented_of_ok {ret : Int} (ran : mqttHelperTopicMatching s (some p) = .ok ret) :
    Implemented s p ↔ (ret = 1 ↔ Matches (filterOf s) (levels p)) := by
  constructor
  · rintro ⟨ret', ran', correct⟩
    cases ran.symm.trans ran'
    exact correct
  · exact fun correct => ⟨ret, ran, correct⟩

theorem not_implemented_of_error {fault : Fault}
    (ran : mqttHelperTopicMatching s (some p) = .error fault) : ¬ Implemented s p := by
  rintro ⟨_, ran', _⟩
  cases ran.symm.trans ran'

theorem filterOf_last (outside : slash ∉ s) : filterOf s = [levelPattern s] := by
  rw [filterOf, levels_last outside]
  rfl

theorem filterOf_next (outside : slash ∉ level) (rest : List UInt8) :
    filterOf (level ++ slash :: rest) = levelPattern level :: filterOf rest := by
  rw [filterOf, levels_next outside]
  rfl

theorem implemented_multi (head : s.head? = some hash) {patterns : List (Pattern (List UInt8))}
    (valid : patterns = []) (filter : filterOf s = .multi :: patterns) :
    Implemented s p ↔ ¬ Strays (filterOf s) (levels p) := by
  subst valid
  rw [implemented_of_ok (matching_multi head (some p)), filter]
  exact iff_of_true (by simp) not_strays_multi

theorem implemented_single_last : Implemented [plus] p ↔ ¬ Strays (filterOf [plus]) (levels p) := by
  have ran := @matching_last [plus] p (by decide) rfl rfl
  rw [implemented_of_ok ran, show filterOf [plus] = [.single] from rfl]
  refine iff_of_true ?_ not_strays_single
  cases level_cases p with
  | inl last => simp [strchr_last last, levels_last last]
  | inr more =>
    obtain ⟨level, rest, outside, rfl⟩ := more
    simp [strchr_next outside, levels_next outside, levels_ne_nil]

/-- A literal level that is the last of the filter only strays when it is too long. -/
theorem not_strays_exact_last (short : s.length ≤ p.length) : ¬ Strays [.exact s] (levels p) := by
  have text := intercalate_levels p
  cases parts : levels p with
  | nil => exact absurd parts (levels_ne_nil p)
  | cons other names =>
    rw [parts] at text
    rw [strays_exact_cons (by rwa [text])]
    rintro ⟨_, ⟨_, multi⟩ | ⟨_, rest⟩⟩
    · cases multi
    · exact not_strays_nil rest

theorem implemented_exact_last (outside : slash ∉ s) (notPlus : s.head? ≠ some plus)
    (notHash : s.head? ≠ some hash) (pattern : levelPattern s = .exact s) (text : CString p) :
    Implemented s p ↔ ¬ Strays (filterOf s) (levels p) := by
  have filter : filterOf s = [.exact s] := by rw [filterOf_last outside, pattern]
  have found := strchr_last outside
  have compared := @compareLevel_eq s p s 0 notPlus (List.prefix_refl _) (levelLen_last found)
  rw [filter]
  by_cases long : p.length < s.length
  · rw [if_pos long] at compared
    refine iff_of_false (not_implemented_of_error (matching_faults notHash compared)) ?_
    exact not_not_intro (.beyond (by rwa [intercalate_levels]))
  · have strays := not_strays_exact_last (Nat.le_of_not_lt long)
    by_cases same : s ++ [0] <+: p ++ [0]
    · rw [if_neg long, if_pos same] at compared
      cases (terminated_prefix_iff text).mp same
      rw [implemented_of_ok (matching_last notHash compared found), filter]
      exact iff_of_true (by simp [found, levels_last outside]) strays
    · rw [if_neg long, if_neg same] at compared
      rw [implemented_of_ok (matching_differs notHash compared), filter]
      refine iff_of_true (iff_of_false (by decide) ?_) strays
      cases level_cases p with
      | inl last =>
        rw [levels_last last, matches_exact_cons]
        exact fun both => same ((terminated_prefix_iff text).mpr both.1)
      | inr more =>
        obtain ⟨level, rest, outside', rfl⟩ := more
        simp [levels_next outside', levels_ne_nil]

/-- The pattern is `#` alone. -/
theorem filterOf_eq_multi (valid : ValidLevels (levels s)) :
    filterOf s = [.multi] ↔ s.head? = some hash := by
  cases level_cases s with
  | inl last =>
    rw [levels_last last] at valid
    rw [filterOf_last last, List.cons.injEq, and_iff_left rfl]
    obtain ⟨rfl, pattern⟩ | ⟨rfl, pattern⟩ | ⟨_, notHash, pattern⟩ :=
      levelPattern_cases valid.1 fun member => (valid.2.1 member).1
    · exact iff_of_false (by simp [pattern]) (by decide)
    · simp [pattern]
    · simp [pattern, notHash]
  | inr more =>
    obtain ⟨level, rest, outside, rfl⟩ := more
    rw [levels_next outside] at valid
    rw [filterOf_next outside, head_next (by decide)]
    refine iff_of_false (fun same => ?_) fun head => ?_
    · exact filterOf_ne_nil rest (List.cons.inj same).2
    · exact levels_ne_nil rest (valid.2.1 (List.mem_of_mem_head? head)).2

theorem implemented_single_next (valid : ValidLevels (levels rest)) (text : CString p)
    (rest_iff : ∀ p, CString p → (Implemented rest p ↔ ¬ Strays (filterOf rest) (levels p))) :
    Implemented (plus :: slash :: rest) p ↔ ¬ Strays (filterOf (plus :: slash :: rest)) (levels p) := by
  have filter : filterOf (plus :: slash :: rest) = .single :: filterOf rest :=
    @filterOf_next [plus] (by decide) rest
  have notHash : some plus ≠ some hash := by decide
  have ran := @matching_next (plus :: slash :: rest) p rest notHash rfl rfl
  rw [filter]
  cases level_cases p with
  | inl last =>
    rw [strchr_last last, Option.map_none] at ran
    rw [levels_last last, strays_single_one, ne_eq, ne_eq, filterOf_eq_multi valid]
    by_cases head : rest.head? = some hash
    · rw [matching_multi head] at ran
      rw [implemented_of_ok ran, filter, levels_last last, matches_single_cons,
        (filterOf_eq_multi valid).mpr head]
      simp [head]
    · rw [matching_null head] at ran
      exact iff_of_false (not_implemented_of_error ran) (by simp [head, filterOf_ne_nil])
  | inr more =>
    obtain ⟨level, rest', outside, rfl⟩ := more
    rw [strchr_next outside, Option.map_some, List.tail_cons] at ran
    have text' : CString rest' := fun member => text (by simp [member])
    rw [levels_next outside, strays_single_cons (levels_ne_nil rest'), ← rest_iff rest' text']
    simp only [Implemented, ran, filter, levels_next outside, matches_single_cons]

theorem implemented_exact_next (outside : slash ∉ level)
    (notPlus : level.head? ≠ some plus) (notHash : level.head? ≠ some hash)
    (pattern : levelPattern level = .exact level) (text : CString p)
    (rest_iff : ∀ p, CString p → (Implemented rest p ↔ ¬ Strays (filterOf rest) (levels p))) :
    Implemented (level ++ slash :: rest) p ↔
      ¬ Strays (filterOf (level ++ slash :: rest)) (levels p) := by
  have filter : filterOf (level ++ slash :: rest) = .exact level :: filterOf rest := by
    rw [filterOf_next outside, pattern]
  have notHash' : (level ++ slash :: rest).head? ≠ some hash := mt (head_next (by decide)).mp notHash
  have found := strchr_next outside rest
  have compared := @compareLevel_eq (level ++ slash :: rest) p level slash
    (mt (head_next (by decide)).mp notPlus) ⟨rest ++ [0], by simp⟩ (levelLen_next found)
  rw [filter]
  by_cases long : p.length < level.length
  · rw [if_pos long] at compared
    refine iff_of_false (not_implemented_of_error (matching_faults notHash' compared)) ?_
    exact not_not_intro (.beyond (by rwa [intercalate_levels]))
  have short := Nat.le_of_not_lt long
  by_cases same : level ++ [slash] <+: p ++ [0]
  · rw [if_neg long, if_pos same] at compared
    obtain ⟨rest', rfl⟩ := separated_prefix_iff.mp same
    have ran := matching_next notHash' compared found
    rw [strchr_next outside, Option.map_some, List.tail_cons] at ran
    have text' : CString rest' := fun member => text (by simp [member])
    have names := intercalate_levels (level ++ slash :: rest')
    rw [levels_next outside] at names
    rw [levels_next outside, strays_exact_cons (by rwa [names])]
    simp only [levels_ne_nil, ne_eq, not_false_eq_true, true_and, false_and, false_or,
      ← rest_iff rest' text']
    simp only [Implemented, ran, filter, levels_next outside, matches_exact_cons, true_and]
  · rw [if_neg long, if_neg same] at compared
    rw [implemented_of_ok (matching_differs notHash' compared), filter]
    cases level_cases p with
    | inl last =>
      rw [levels_last last, matches_exact_cons, matches_nil_right,
        strays_exact_cons (by simpa using short)]
      simp [filterOf_ne_nil]
    | inr more =>
      obtain ⟨name, rest', outside', rfl⟩ := more
      have differs : level ≠ name := by
        rintro rfl
        exact same (separated_prefix_iff.mpr ⟨rest', rfl⟩)
      have names := intercalate_levels (name ++ slash :: rest')
      rw [levels_next outside'] at names
      rw [levels_next outside', matches_exact_cons, strays_exact_cons (by rwa [names])]
      simp [differs]

end Implemented

/-- For every valid filter and every name, the function returns without a read outside the strings
and tells whether the name matches, exactly when the two do not stray. -/
theorem implemented_iff {s p : List UInt8} (valid : ValidLevels (levels s)) (text : CString p) :
    Implemented s p ↔ ¬ Strays (filterOf s) (levels p) := by
  induction s using levels_induction generalizing p with
  | last s outside =>
    rw [levels_last outside] at valid
    obtain ⟨rfl, _⟩ | ⟨rfl, _⟩ | ⟨notPlus, notHash, pattern⟩ :=
      levelPattern_cases valid.1 fun member => (valid.2.1 member).1
    · exact implemented_single_last
    · exact implemented_multi rfl rfl rfl
    · exact implemented_exact_last outside notPlus notHash pattern text
  | next level rest outside inductionHypothesis =>
    rw [levels_next outside] at valid
    have rest_iff : ∀ p, CString p → (Implemented rest p ↔ ¬ Strays (filterOf rest) (levels p)) :=
      fun _ => inductionHypothesis valid.2.2
    obtain ⟨rfl, _⟩ | ⟨rfl, _⟩ | ⟨notPlus, notHash, pattern⟩ :=
      levelPattern_cases valid.1 fun member => (valid.2.1 member).1
    · exact implemented_single_next valid.2.2 text rest_iff
    · exact absurd (valid.2.1 (.head _)).2 (levels_ne_nil rest)
    · exact implemented_exact_next outside notPlus notHash pattern text rest_iff

/-- The filter `a/+` and the name `a/b` -/
theorem implemented_plus : ValidLevels (levels [97, 47, 43]) ∧ CString [97, 47, 98] ∧
    Implemented [97, 47, 43] [97, 47, 98] := by
  have valid : ValidLevels (levels [97, 47, 43]) := by decide
  have text : CString [97, 47, 98] := by decide
  refine ⟨valid, text, (implemented_iff valid text).mpr ?_⟩
  rw [show filterOf [97, 47, 43] = [.exact [97], .single] from rfl,
    show levels [97, 47, 98] = [[97], [98]] from rfl, strays_exact_cons (by decide)]
  simp [not_strays_single]

/-- The filter `a/#` does not get the name `a` of its parent level, and for the filter `+/b` and
the name `a` the function reads behind `NULL`. -/
theorem parent_missed : mqttHelperTopicMatching [97, 47, 35] (some [97]) = .ok 0 ∧
    Matches (filterOf [97, 47, 35]) (levels [97]) ∧
      mqttHelperTopicMatching [43, 47, 98] (some [97]) = .error ⟨1, 1, 0⟩ ∧
        ¬ Implemented [97, 47, 35] [97] ∧ ¬ Implemented [43, 47, 98] [97] := by
  have missed : mqttHelperTopicMatching [97, 47, 35] (some [97]) = .ok 0 :=
    matching_differs (by decide) (by rfl)
  have matched : Matches (filterOf [97, 47, 35]) (levels [97]) := by
    rw [show filterOf [97, 47, 35] = [.exact [97], .multi] from rfl, show levels [97] = [[97]] from rfl]
    decide
  have faults : mqttHelperTopicMatching [43, 47, 98] (some [97]) = .error ⟨1, 1, 0⟩ := by
    rw [@matching_next [43, 47, 98] [97] [98] (by decide) rfl rfl]
    exact matching_null (by decide)
  refine ⟨missed, matched, faults, ?_, not_implemented_of_error faults⟩
  rw [implemented_of_ok missed]
  exact fun correct => absurd (correct.mpr matched) (by decide)

end PlhrFirmware.Mqtt
