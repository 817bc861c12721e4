import Mathlib.Data.List.DropRight
import Mathlib.Tactic.LinearCombination
import Mathlib.Tactic.Ring
import PlhrFirmware.Analysis.Intervals
import PlhrFirmware.Lib.Statistics

/-! # Joining intervals across midnight

When the intervals that `SR_ionos.get_table_interval` returns still have all the hours and the whole
correlation of the vector, after the last interval has been joined with the first.
-/

namespace PlhrFirmware.Analysis

open PlhrFirmware.Lib

variable {Value : Type*}

/-! ## What is conserved -/

section Hours

variable {intervals more : List (Interval Value)} {interval : Interval Value}

def hours (intervals : List (Interval Value)) : Nat := (intervals.map Interval.length).sum

@[simp] theorem hours_nil : hours ([] : List (Interval Value)) = 0 := rfl

@[simp] theorem hours_cons : hours (interval :: intervals) = interval.length + hours intervals := rfl

@[simp] theorem hours_append : hours (intervals ++ more) = hours intervals + hours more := by
  simp [hours]

variable [Field Value]

def weight (intervals : List (Interval Value)) : Value :=
  (intervals.map fun interval => (interval.length : Value) * interval.mean).sum

@[simp] theorem weight_nil : weight ([] : List (Interval Value)) = 0 := rfl

@[simp] theorem weight_cons :
    weight (interval :: intervals) = interval.length * interval.mean + weight intervals := rfl

@[simp] theorem weight_append : weight (intervals ++ more) = weight intervals + weight more := by
  simp [weight]

end Hours

variable [Field Value] [LinearOrder Value]

/-- The lengths sum to the number of entries that are not zero, and the lengths times the means to
the sum of the entries. -/
def Conserves (corr : List Value) (intervals : List (Interval Value)) : Prop :=
  hours intervals = corr.countP (· ≠ 0) ∧ weight intervals = corr.sum

/-- The first and the last entry have one sign. -/
def Continues (corr : List Value) : Prop :=
  ∃ first ∈ corr.head?, ∃ last ∈ corr.getLast?, 0 < first * last

def leading (corr : List Value) : List Value := corr.takeWhile (· ≠ 0)

def trailing (corr : List Value) : List Value := corr.rtakeWhile (· ≠ 0)

/-! ## Runs -/

section Runs

variable [IsStrictOrderedRing Value]

/-- Before they are joined, the intervals conserve hours and correlation. -/
theorem intervalsOf_conserves {groups : List (List Value)} (uniform : ∀ group ∈ groups, Uniform group)
    (start : Nat) : Conserves groups.flatten (intervalsOf start groups) := by
  induction groups generalizing start with
  | nil => exact ⟨rfl, rfl⟩
  | cons group groups inductionHypothesis =>
    obtain ⟨first, rest⟩ := List.forall_mem_cons.mp uniform
    obtain ⟨count, total⟩ := inductionHypothesis rest (start + group.length)
    rw [intervalsOf_cons, Conserves, List.flatten_cons, List.countP_append, List.sum_append]
    by_cases head : group.head? = some 0
    · have zeros := first.zeros head
      have none : group.countP (· ≠ 0) = 0 := by
        rw [List.countP_eq_zero]
        simpa using zeros
      rw [if_pos head, count, total, none, List.sum_eq_zero zeros, Nat.zero_add, zero_add]
      exact ⟨rfl, rfl⟩
    · have every : group.countP (· ≠ 0) = group.length := by
        rw [List.countP_eq_length]
        simpa using first.nonzero_iff.mpr head
      rw [if_neg head, hours_cons, weight_cons, count, total, every]
      exact ⟨rfl, congrArg (· + _) (length_mul_mean first.1)⟩

end Runs

/-! ## The two ends -/

/-- A vector begins or ends with a group of zeros, is one run, or has a run at both ends. -/
inductive Ends : List (List Value) → Prop where
  | firstZero (group : List Value) (groups : List (List Value)) (zero : group.head? = some 0) :
      Ends (group :: groups)
  | lastZero (groups : List (List Value)) (group : List Value) (zero : group.head? = some 0) :
      Ends (groups ++ [group])
  | whole {run : List Value} (nonzero : run.head? ≠ some 0) : Ends [run]
  | both {first last : List Value} {between : List (List Value)} (nonzero : first.head? ≠ some 0)
      (nonzero' : last.head? ≠ some 0) : Ends (first :: (between ++ [last]))

theorem ends {groups : List (List Value)} (nonempty : groups ≠ []) : Ends groups := by
  cases groups with
  | nil => exact absurd rfl nonempty
  | cons first groups =>
    by_cases zero : first.head? = some 0
    · exact .firstZero first groups zero
    · cases groups.eq_nil_or_concat with
      | inl nothing =>
        subst nothing
        exact .whole zero
      | inr some =>
        obtain ⟨between, last, rfl⟩ := some
        rw [List.concat_eq_append]
        by_cases zero' : last.head? = Option.some 0
        · exact .lastZero (first :: between) last zero'
        · exact .both zero zero'

section Ends

variable {scan : Scan Value} {first last run : List Value} {between : List (List Value)}

theorem intervalsOf_append (start : Nat) (front back : List (List Value)) :
    intervalsOf start (front ++ back) =
      intervalsOf start front ++ intervalsOf (start + front.flatten.length) back := by
  rw [intervalsOf, places_append, List.filter_append, List.map_append]
  rfl

theorem openLength_last (lengthInterval : Nat) (groups : List (List Value)) (group : List Value) :
    openLength lengthInterval (groups ++ [group]) = if group.head? = some 0 then 0 else group.length := by
  rw [openLength, List.foldl_append]
  rfl

/-- Nothing is joined when no interval is open at the end. -/
theorem joined_closed (closed : scan.lengthInterval = 0) : joined scan = scan.intervalArray := by
  unfold joined
  split
  · simp_all
  · simp_all

/-- Nothing is joined when the first interval starts later. -/
theorem joined_later (later : ∀ interval ∈ scan.intervalArray, interval.startInterval ≠ 1) :
    joined scan = scan.intervalArray := by
  unfold joined
  split
  · simp_all
  · simp_all

/-- A single interval that spans the vector is dropped. -/
theorem joined_whole {only : Interval Value} (array : scan.intervalArray = [only])
    (opened : scan.lengthInterval ≠ 0) (start : only.startInterval = 1) : joined scan = [] := by
  simp [joined, array, opened, start]

theorem joined_both {first last : Interval Value} {between : List (Interval Value)}
    (array : scan.intervalArray = first :: (between ++ [last])) (opened : scan.lengthInterval ≠ 0)
    (start : first.startInterval = 1) : joined scan =
      if SignType.sign last.mean = SignType.sign first.mean then
        between ++ [{ last with length := first.length + scan.lengthInterval }]
      else first :: (between ++ [last]) := by
  have dropped : (first :: (between ++ [last])).dropLast = first :: between := by
    rw [← List.cons_append, List.dropLast_concat]
  simp [joined, array, opened, start, dropped]

end Ends

section Vectors

variable {corr run rest : List Value} {first last : Value}

theorem leading_append (nonzero : ∀ entry ∈ run, entry ≠ 0) (zero : ∀ entry ∈ rest.head?, entry = 0) :
    leading (run ++ rest) = run := by
  rw [leading, List.takeWhile_append_of_pos (by simpa using nonzero)]
  cases rest with
  | nil => simp
  | cons entry rest => simp [zero entry rfl]

theorem trailing_append (nonzero : ∀ entry ∈ run, entry ≠ 0)
    (zero : ∀ entry ∈ rest.getLast?, entry = 0) : trailing (rest ++ run) = run := by
  have reversed := @leading_append Value _ _ run.reverse rest.reverse
    (by simpa using nonzero) (by simpa [List.head?_reverse] using zero)
  rw [leading, ← List.reverse_append] at reversed
  rw [trailing, List.rtakeWhile, reversed, List.reverse_reverse]

theorem Uniform.sign {group : List Value} (uniform : Uniform group) (nonzero : group.head? ≠ some 0) :
    ∃ sign ≠ 0, ∀ entry ∈ group, SignType.sign entry = sign := by
  obtain ⟨nonempty, zeros | signed⟩ := uniform
  · cases group with
    | nil => exact absurd rfl nonempty
    | cons entry => exact absurd (by simp [zeros entry (.head _)]) nonzero
  · exact signed

variable [IsStrictOrderedRing Value]

theorem continues_iff (isFirst : first ∈ corr.head?) (isLast : last ∈ corr.getLast?) (nonzero : first ≠ 0) :
    Continues corr ↔ SignType.sign last = SignType.sign first := by
  have signs : ∀ left right : SignType, left ≠ 0 → (left * right = 1 ↔ right = left) := by decide
  rw [← signs _ _ (mt sign_eq_zero_iff.mp nonzero), ← sign_mul, sign_eq_one_iff]
  constructor
  · rintro ⟨first', isFirst', last', isLast', positive⟩
    cases isFirst.symm.trans isFirst'
    cases isLast.symm.trans isLast'
    exact positive
  · exact fun positive => ⟨first, isFirst, last, isLast, positive⟩

end Vectors

/-! ## The joined intervals -/

section Joined

variable {corr : List Value} {scan : Scan Value} {groups : List (List Value)}

theorem nil_notMem (uniform : ∀ group ∈ groups, Uniform group) : [] ∉ groups :=
  fun member => (uniform [] member).1 rfl

theorem head_zero (uniform : ∀ group ∈ groups, Uniform group)
    (zero : ∀ group ∈ groups.head?, group.head? = some 0) : ∀ entry ∈ groups.flatten.head?, entry = 0 := by
  intro entry isHead
  obtain ⟨group, rest, rfl, isFirst⟩ := exists_of_head?_flatten (nil_notMem uniform) isHead
  exact (uniform group (.head _)).zeros (zero group rfl) entry (List.mem_of_mem_head? isFirst)

theorem last_zero (uniform : ∀ group ∈ groups, Uniform group)
    (zero : ∀ group ∈ groups.getLast?, group.head? = some 0) :
    ∀ entry ∈ groups.flatten.getLast?, entry = 0 := by
  intro entry isLast
  obtain ⟨front, group, rfl, isLast'⟩ := exists_of_getLast?_flatten (nil_notMem uniform) isLast
  exact (uniform group (by simp)).zeros (zero group (by simp)) entry (List.mem_of_getLast? isLast')

theorem intervalsOf_both {first last : List Value} {between : List (List Value)}
    (nonzero : first.head? ≠ some 0) (nonzero' : last.head? ≠ some 0) (start : Nat) :
    intervalsOf start (first :: (between ++ [last])) =
      intervalOf start first :: (intervalsOf (start + first.length) between ++
        [intervalOf (start + first.length + between.flatten.length) last]) := by
  rw [intervalsOf_cons, if_neg nonzero, intervalsOf_append, intervalsOf_cons, if_neg nonzero']
  rfl

theorem not_continues_head (zero : ∀ entry ∈ corr.head?, entry = 0) : ¬ Continues corr := by
  rintro ⟨first, isFirst, last, _, positive⟩
  rw [zero first isFirst, zero_mul] at positive
  exact lt_irrefl _ positive

theorem not_continues_last (zero : ∀ entry ∈ corr.getLast?, entry = 0) : ¬ Continues corr := by
  rintro ⟨first, _, last, isLast, positive⟩
  rw [zero last isLast, mul_zero] at positive
  exact lt_irrefl _ positive

variable [IsStrictOrderedRing Value]

/-- The mean of the joined interval is that of the last. -/
theorem conserves_joined {first last : Interval Value} {between : List (Interval Value)}
    (conserves : Conserves corr (first :: (between ++ [last]))) (positive : first.length ≠ 0) :
    Conserves corr (between ++ [{ last with length := first.length + last.length }]) ↔
      first.mean = last.mean := by
  have nonzero : (first.length : Value) ≠ 0 := Nat.cast_ne_zero.mpr positive
  obtain ⟨count, total⟩ := conserves
  simp only [hours_cons, hours_append, hours_nil, weight_cons, weight_append, weight_nil] at count total
  simp only [Conserves, hours_cons, hours_append, hours_nil, weight_cons, weight_append, weight_nil,
    Nat.cast_add]
  constructor
  · rintro ⟨_, joined⟩
    apply mul_left_cancel₀ nonzero
    linear_combination total - joined
  · intro equal
    refine ⟨by omega, ?_⟩
    rw [← total, equal]
    ring

section Both

variable {first last : List Value} {between : List (List Value)}

omit [IsStrictOrderedRing Value] in
/-- Between two runs at the ends there is a zero, and they are the leading and the trailing run. -/
theorem leading_trailing (uniform : ∀ group ∈ first :: (between ++ [last]), Uniform group)
    (apart : (first :: (between ++ [last])).IsChain Apart)
    (nonzero : first.head? ≠ some 0) (nonzero' : last.head? ≠ some 0)
    (whole : corr = (first :: (between ++ [last])).flatten) :
    0 ∈ corr ∧ leading corr = first ∧ trailing corr = last := by
  have uniformFirst := uniform first (by simp)
  have uniformLast := uniform last (by simp)
  have behind : ∀ entry ∈ (between ++ [last]).flatten.head?, entry = 0 :=
    head_zero (fun group member => uniform group (.tail _ member))
      fun group isHead => ((List.isChain_cons.mp apart).1 group isHead).resolve_left nonzero
  have before : ∀ entry ∈ (first :: between).flatten.getLast?, entry = 0 := by
    rw [← List.cons_append] at uniform apart
    apply last_zero fun group member => uniform group (List.mem_append_left _ member)
    intro group isLast
    exact ((List.isChain_append.mp apart).2.2 group isLast last rfl).resolve_right nonzero'
  have nonempty : (between ++ [last]).flatten ≠ [] := by simp [uniformLast.1]
  refine ⟨?_, ?_, ?_⟩
  · have isZero := behind _ (List.head_mem_head? nonempty)
    rw [whole, List.flatten_cons, ← isZero]
    exact List.mem_append_right _ (List.head_mem nonempty)
  · rw [whole, List.flatten_cons]
    exact leading_append (uniformFirst.nonzero_iff.mpr nonzero) behind
  · rw [whole, ← List.cons_append, List.flatten_append, List.flatten_singleton]
    exact trailing_append (uniformLast.nonzero_iff.mpr nonzero') before

/-- The vector goes on across midnight when the runs have one sign. -/
theorem continues_both {sign sign' : SignType} (nonempty : first ≠ []) (nonempty' : last ≠ [])
    (signed : sign ≠ 0) (all : ∀ entry ∈ first, SignType.sign entry = sign)
    (all' : ∀ entry ∈ last, SignType.sign entry = sign')
    (whole : corr = (first :: (between ++ [last])).flatten) : Continues corr ↔ sign' = sign := by
  have isFirst : first.head nonempty ∈ corr.head? := by
    rw [whole, List.flatten_cons, List.head?_append_of_ne_nil _ nonempty]
    exact List.head_mem_head? nonempty
  have isLast : last.getLast nonempty' ∈ corr.getLast? := by
    rw [whole, ← List.cons_append, List.flatten_append, List.flatten_singleton,
      List.getLast?_append_of_ne_nil _ nonempty']
    exact List.getLast_mem_getLast? nonempty'
  have signFirst := all _ (List.head_mem nonempty)
  have nonzero : first.head nonempty ≠ 0 := by
    intro zero
    rw [zero, sign_zero] at signFirst
    exact signed signFirst.symm
  rw [continues_iff isFirst isLast nonzero, signFirst, all' _ (List.getLast_mem nonempty')]

/-- With a run at both ends, the joined intervals conserve the correlation when the runs have the
same mean. -/
theorem joined_both_conserves (uniform : ∀ group ∈ first :: (between ++ [last]), Uniform group)
    (apart : (first :: (between ++ [last])).IsChain Apart)
    (nonzero : first.head? ≠ some 0) (nonzero' : last.head? ≠ some 0)
    (whole : corr = (first :: (between ++ [last])).flatten)
    (array : scan.intervalArray = intervalsOf 0 (first :: (between ++ [last])))
    (opened : scan.lengthInterval = last.length) :
    Conserves corr (joined scan) ↔
      (Continues corr → 0 ∈ corr ∧ mean (leading corr) = mean (trailing corr)) := by
  have uniformFirst := uniform first (by simp)
  have uniformLast := uniform last (by simp)
  obtain ⟨sign, signed, all⟩ := uniformFirst.sign nonzero
  obtain ⟨sign', _, all'⟩ := uniformLast.sign nonzero'
  obtain ⟨zero, isLeading, isTrailing⟩ := leading_trailing uniform apart nonzero nonzero' whole
  have continues := continues_both uniformFirst.1 uniformLast.1 signed all all' whole
  have conserves := intervalsOf_conserves uniform 0
  rw [← whole, intervalsOf_both nonzero nonzero'] at conserves
  rw [intervalsOf_both nonzero nonzero'] at array
  have positive : scan.lengthInterval ≠ 0 := by
    rw [opened]
    exact mt List.length_eq_zero_iff.mp uniformLast.1
  have result := joined_both array positive rfl
  change joined scan = if SignType.sign (mean last) = SignType.sign (mean first) then _ else _ at result
  rw [sign_mean uniformFirst.1 all, sign_mean uniformLast.1 all'] at result
  rw [result, isLeading, isTrailing, continues]
  by_cases same : sign' = sign
  · have lengths : (intervalOf 0 first).length ≠ 0 := mt List.length_eq_zero_iff.mp uniformFirst.1
    have joins := conserves_joined conserves lengths
    rw [if_pos same, opened]
    exact joins.trans ⟨fun equal _ => ⟨zero, equal⟩, fun equal => (equal same).2⟩
  · rw [if_neg same]
    exact iff_of_true conserves fun equal => absurd equal same

end Both

/-- A run that spans the vector is dropped, and with it everything. -/
theorem joined_whole_conserves {run : List Value} (uniform : Uniform run) (nonzero : run.head? ≠ some 0)
    (array : scan.intervalArray = intervalsOf 0 [run]) (opened : scan.lengthInterval = run.length) :
    ¬ Conserves run (joined scan) ∧ Continues run ∧ 0 ∉ run := by
  have entries := uniform.nonzero_iff.mpr nonzero
  have positive : run.length ≠ 0 := mt List.length_eq_zero_iff.mp uniform.1
  rw [intervalsOf_cons, if_neg nonzero] at array
  have dropped : joined scan = [] := joined_whole array (opened ▸ positive) rfl
  have count : run.countP (· ≠ 0) = run.length := by
    rw [List.countP_eq_length]
    simpa using entries
  refine ⟨?_, ?_, fun zero => entries 0 zero rfl⟩
  · intro conserves
    rw [dropped, Conserves, count] at conserves
    exact positive conserves.1.symm
  · obtain ⟨sign, _, all⟩ := uniform.sign nonzero
    have same := (all _ (List.getLast_mem uniform.1)).trans (all _ (List.head_mem uniform.1)).symm
    exact (continues_iff (List.head_mem_head? uniform.1) (List.getLast_mem_getLast? uniform.1)
      (entries _ (List.head_mem uniform.1))).mpr same

/-- The intervals of a vector conserve hours and correlation if and only if it does not go on across
midnight, or it has a zero and the runs at its ends have the same mean. -/
theorem joined_conserves (nonempty : corr ≠ []) (same : NoOpposite corr) (ran : scanned corr = some scan) :
    Conserves corr (joined scan) ↔
      (Continues corr → 0 ∈ corr ∧ mean (leading corr) = mean (trailing corr)) := by
  obtain ⟨scan', ran', array, opened⟩ := scanned_groups nonempty same
  cases ran.symm.trans ran'
  have uniform := uniform_groups corr
  have apart := apart_groups same
  have whole := flatten_groups SignType.sign corr
  have conserves := intervalsOf_conserves uniform 0
  have some : groups SignType.sign corr ≠ [] := List.splitBy_ne_nil.mpr nonempty
  rw [← array, whole] at conserves
  generalize Lib.groups SignType.sign corr = parts at *
  cases ends some with
  | firstZero group rest zero =>
    have stops : ¬ Continues corr := by
      refine not_continues_head ?_
      rw [← whole]
      exact head_zero uniform fun first isFirst => Option.some.inj isFirst ▸ zero
    have later : ∀ interval ∈ scan.intervalArray, interval.startInterval ≠ 1 := by
      rw [array, intervalsOf_cons, if_pos zero, Nat.zero_add]
      have positive : 0 < group.length := List.length_pos_iff.mpr (uniform group (.head _)).1
      intro interval member start
      simp only [intervalsOf, List.mem_map, List.mem_filter, Prod.exists] at member
      obtain ⟨place, run, ⟨placed, _⟩, rfl⟩ := member
      obtain ⟨front, back, _, rfl⟩ := mem_places.mp placed
      exact absurd (Nat.succ.inj start) (by omega)
    rw [joined_later later]
    exact iff_of_true conserves fun continues => absurd continues stops
  | lastZero front group zero =>
    have stops : ¬ Continues corr := by
      refine not_continues_last ?_
      rw [← whole]
      refine last_zero uniform fun last isLast => ?_
      rw [List.getLast?_append_of_ne_nil _ (by simp)] at isLast
      cases isLast
      exact zero
    rw [openLength_last, if_pos zero] at opened
    rw [joined_closed opened]
    exact iff_of_true conserves fun continues => absurd continues stops
  | @whole run nonzero =>
    rw [List.flatten_singleton] at whole
    subst whole
    rw [show openLength 0 [run] = _ from openLength_last 0 [] run, if_neg nonzero] at opened
    obtain ⟨loses, continues, noZero⟩ :=
      joined_whole_conserves (uniform run (.head _)) nonzero array opened
    exact iff_of_false loses fun holds => noZero (holds continues).1
  | both nonzero nonzero' =>
    rw [← List.cons_append, openLength_last, if_neg nonzero'] at opened
    exact joined_both_conserves uniform apart nonzero nonzero' whole.symm array opened

end Joined

/-- For all rows and every threshold that leave no two adjacent correlations of opposite signs: the
intervals have the hours of the correlations that are not zero, and their sum, if and only if there is
a row, and a vector that goes on across midnight has a zero and one mean at both ends. -/
theorem getTableInterval_conserves_iff [IsStrictOrderedRing Value] (thresholdPValue : Value)
    (rows : List (Value × Value)) (same : NoOpposite (discard thresholdPValue rows)) :
    (∃ intervals, getTableInterval thresholdPValue rows = some intervals ∧
      Conserves (discard thresholdPValue rows) intervals) ↔
        rows ≠ [] ∧ (Continues (discard thresholdPValue rows) →
          0 ∈ discard thresholdPValue rows ∧
            mean (leading (discard thresholdPValue rows)) =
              mean (trailing (discard thresholdPValue rows))) := by
  cases rows with
  | nil =>
    refine iff_of_false ?_ fun holds => holds.1 rfl
    rintro ⟨intervals, ran, _⟩
    cases ran
  | cons row rows =>
    have nonempty : discard thresholdPValue (row :: rows) ≠ [] := by simp [discard]
    obtain ⟨scan, ran, _, _⟩ := scanned_groups nonempty same
    have conserves := joined_conserves nonempty same ran
    rw [getTableInterval, ran, ← conserves]
    constructor
    · rintro ⟨intervals, isJoined, conserved⟩
      cases isJoined
      exact ⟨by simp, conserved⟩
    · exact fun holds => ⟨_, rfl, holds.2⟩

/-- The two runs have the mean 1/2, one of one hour and one of two. -/
theorem getTableInterval_conserves_same : ∃ intervals,
    getTableInterval (1 / 20 : ℚ) [(1 / 2, 0), (0, 0), (1 / 4, 0), (3 / 4, 0)] = some intervals ∧
      Conserves (discard (1 / 20 : ℚ) [(1 / 2, 0), (0, 0), (1 / 4, 0), (3 / 4, 0)]) intervals :=
  (getTableInterval_conserves_iff (1 / 20) _ (by norm_num [NoOpposite, discard])).mpr
    ⟨by simp, fun _ => by norm_num [discard, leading, trailing, mean, List.rtakeWhile]⟩

/-- One run spans the vector, and no interval is left; two runs have different means, and the joined
interval has the mean of the last. -/
theorem getTableInterval_loses :
    (NoOpposite (discard (1 / 20 : ℚ) [(1 / 2, 0)]) ∧
      getTableInterval (1 / 20 : ℚ) [(1 / 2, 0)] = some [] ∧
        ¬ Conserves (discard (1 / 20 : ℚ) [(1 / 2, 0)]) []) ∧
    NoOpposite (discard (1 / 20 : ℚ) [(1, 0), (0, 0), (1 / 2, 0)]) ∧
      getTableInterval (1 / 20 : ℚ) [(1, 0), (0, 0), (1 / 2, 0)] = some [⟨3, 2, 1 / 2⟩] ∧
        ¬ Conserves (discard (1 / 20 : ℚ) [(1, 0), (0, 0), (1 / 2, 0)]) [⟨3, 2, 1 / 2⟩] := by
  refine ⟨⟨?_, ?_, ?_⟩, ?_, ?_, ?_⟩
  · norm_num [NoOpposite, discard]
  · norm_num [getTableInterval, scanned, discard, scanHours, scanHour, Scan.closed, Scan.interval, joined]
  · norm_num [Conserves, discard]
  · norm_num [NoOpposite, discard]
  · norm_num [getTableInterval, scanned, discard, scanHours, scanHour, Scan.closed, Scan.interval, joined]
  · norm_num [Conserves, discard]

end PlhrFirmware.Analysis
