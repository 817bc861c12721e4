import Mathlib.Algebra.BigOperators.Group.List.Basic
import Mathlib.Algebra.Field.Rat
import Mathlib.Algebra.Order.Field.Basic
import Mathlib.Algebra.Order.Ring.Rat
import Mathlib.Data.Sign.Basic
import Mathlib.Tactic.NormNum
import PlhrFirmware.Lib.Runs

/-! # Intervals of correlation

What `SR_ionos.get_table_interval` does with the correlations of one mode: it discards those with a
p-value above the threshold, scans the hours for intervals, and joins the last interval with the
first across midnight.  The arithmetic is that of an ordered field; indices start at 1.
-/

namespace PlhrFirmware.Analysis

open PlhrFirmware.Lib

variable {Value : Type*} [Field Value] [LinearOrder Value]

/-! ## `get_table_interval` -/

structure Interval (Value : Type*) where
  startInterval : Nat
  length : Nat
  mean : Value
  deriving DecidableEq, Repr

structure Scan (Value : Type*) where
  startInterval : Nat
  lengthInterval : Nat
  acumCorr : Value
  signPrevious : SignType
  intervalArray : List (Interval Value)

/-- A row has a correlation and its p-value. -/
def discard (thresholdPValue : Value) (rows : List (Value × Value)) : List Value :=
  rows.map fun row => if row.2 > thresholdPValue then 0 else row.1

def Scan.interval (scan : Scan Value) : Interval Value :=
  ⟨scan.startInterval, scan.lengthInterval, scan.acumCorr / scan.lengthInterval⟩

/-- The array with the interval that is open, if one is. -/
def Scan.closed (scan : Scan Value) : List (Interval Value) :=
  if scan.lengthInterval ≠ 0 then scan.intervalArray ++ [scan.interval] else scan.intervalArray

def scanHour (indexHour : Nat) (corr : Value) (scan : Scan Value) : Scan Value :=
  let signCurrent := SignType.sign corr
  let scan :=
    if corr ≠ 0 then
      if scan.lengthInterval = 0 ∨ signCurrent = scan.signPrevious then
        { scan with
          lengthInterval := scan.lengthInterval + 1
          acumCorr := corr + scan.acumCorr }
      else scan
    else
      { scan with
        intervalArray := scan.closed
        startInterval := indexHour + 1
        lengthInterval := 0
        acumCorr := 0 }
  { scan with signPrevious := signCurrent }

def scanHours : Nat → List Value → Scan Value → Scan Value
  | _, [], scan => scan
  | indexHour, corr :: rest, scan => scanHours (indexHour + 1) rest (scanHour indexHour corr scan)

/-- The scan before its last step across midnight; there is no first entry in an empty vector. -/
def scanned : List Value → Option (Scan Value)
  | [] => none
  | first :: rest =>
    let scan := scanHours 1 (first :: rest) ⟨1, 0, 0, SignType.sign first, []⟩
    some { scan with intervalArray := scan.closed }

def joined (scan : Scan Value) : List (Interval Value) :=
  match scan.intervalArray with
  | [] => []
  | first :: rest =>
    let last := rest.getLastD first
    if scan.lengthInterval ≠ 0 ∧ first.startInterval = 1 ∧
        SignType.sign last.mean = SignType.sign first.mean then
      ((first :: rest).dropLast ++ [{ last with length := first.length + scan.lengthInterval }]).tail
    else first :: rest

def getTableInterval (thresholdPValue : Value) (rows : List (Value × Value)) :
    Option (List (Interval Value)) :=
  (scanned (discard thresholdPValue rows)).map joined

/-! ## Runs of one sign -/

def intervalOf (start : Nat) (run : List Value) : Interval Value :=
  ⟨start + 1, run.length, run.sum / run.length⟩

/-- The intervals are exactly the maximal runs of non-zero entries of one sign, in order. -/
def ExactRuns (corr : List Value) (intervals : List (Interval Value)) : Prop :=
  (intervals.Pairwise fun first second => first.startInterval < second.startInterval) ∧
    ∀ interval, interval ∈ intervals ↔ ∃ start run, IsRun SignType.sign corr start run ∧
      (∀ entry ∈ run, entry ≠ 0) ∧ interval = intervalOf start run

/-- No two adjacent entries have opposite signs. -/
def NoOpposite (corr : List Value) : Prop := corr.IsChain fun first second => 0 ≤ first * second

instance (corr : List Value) : Decidable (NoOpposite corr) :=
  inferInstanceAs (Decidable (List.IsChain _ _))

/-- The intervals of the groups that are not zero. -/
def intervalsOf (start : Nat) (groups : List (List Value)) : List (Interval Value) :=
  ((places start groups).filter fun place => place.2.head? ≠ some 0).map fun place =>
    intervalOf place.1 place.2

theorem intervalsOf_cons (start : Nat) (group : List Value) (groups : List (List Value)) :
    intervalsOf start (group :: groups) =
      if group.head? = some 0 then intervalsOf (start + group.length) groups
      else intervalOf start group :: intervalsOf (start + group.length) groups := by
  by_cases zero : group.head? = some 0 <;> simp [intervalsOf, places, zero]

/-! ## The scan over a group -/

section Scan

variable {scan : Scan Value}

theorem scanHours_append (front back : List Value) (indexHour : Nat) (scan : Scan Value) :
    scanHours indexHour (front ++ back) scan =
      scanHours (indexHour + front.length) back (scanHours indexHour front scan) := by
  induction front generalizing indexHour scan with
  | nil => rfl
  | cons corr front inductionHypothesis =>
    rw [List.cons_append, scanHours, inductionHypothesis, scanHours, List.length_cons,
      Nat.add_assoc, Nat.add_comm 1]

/-- Entries of one sign prolong the open interval, or open one. -/
theorem scanHours_run {sign : SignType} (nonzero : sign ≠ 0) {run : List Value} (nonempty : run ≠ [])
    (all : ∀ entry ∈ run, SignType.sign entry = sign)
    (open_ : scan.lengthInterval = 0 ∨ scan.signPrevious = sign) (indexHour : Nat) :
    scanHours indexHour run scan = { scan with
      lengthInterval := scan.lengthInterval + run.length
      acumCorr := scan.acumCorr + run.sum
      signPrevious := sign } := by
  induction run generalizing scan indexHour with
  | nil => exact absurd rfl nonempty
  | cons corr run inductionHypothesis =>
    obtain ⟨same, rest⟩ := List.forall_mem_cons.mp all
    have entry : corr ≠ 0 := by
      rintro rfl
      exact nonzero (same.symm.trans sign_zero)
    have hour : scanHour indexHour corr scan = { scan with
        lengthInterval := scan.lengthInterval + 1
        acumCorr := scan.acumCorr + corr
        signPrevious := sign } := by
      have prolongs : scan.lengthInterval = 0 ∨ sign = scan.signPrevious := open_.imp_right Eq.symm
      simp [scanHour, entry, same, prolongs, add_comm]
    rw [scanHours, hour]
    cases run with
    | nil => simp [scanHours]
    | cons next run =>
      rw [inductionHypothesis (by simp) rest (.inr rfl)]
      simp [add_assoc, add_comm, add_left_comm]

theorem scanHour_zero (indexHour : Nat) :
    scanHour indexHour 0 scan = ⟨indexHour + 1, 0, 0, 0, scan.closed⟩ := by
  simp [scanHour]

/-- Only a zero ends an interval and starts the next. -/
theorem scanHour_nonzero {entry : Value} (nonzero : entry ≠ 0) (indexHour : Nat) :
    (scanHour indexHour entry scan).startInterval = scan.startInterval ∧
      (scanHour indexHour entry scan).intervalArray = scan.intervalArray := by
  by_cases prolongs : scan.lengthInterval = 0 ∨ SignType.sign entry = scan.signPrevious
  · simp [scanHour, nonzero, prolongs]
  · simp [scanHour, nonzero, prolongs]

theorem scanHours_zeros {zeros : List Value} (nonempty : zeros ≠ []) (all : ∀ entry ∈ zeros, entry = 0)
    (indexHour : Nat) : scanHours indexHour zeros scan =
      ⟨indexHour + zeros.length, 0, 0, 0, scan.closed⟩ := by
  induction zeros generalizing scan indexHour with
  | nil => exact absurd rfl nonempty
  | cons corr zeros inductionHypothesis =>
    obtain ⟨rfl, rest⟩ := List.forall_mem_cons.mp all
    rw [scanHours, scanHour_zero]
    cases zeros with
    | nil => rfl
    | cons next zeros =>
      rw [inductionHypothesis (by simp) rest, Nat.add_right_comm]
      rfl

/-- A group is of zeros, or its entries have one sign. -/
def Uniform (group : List Value) : Prop :=
  group ≠ [] ∧ ((∀ entry ∈ group, entry = 0) ∨ ∃ sign ≠ 0, ∀ entry ∈ group, SignType.sign entry = sign)

/-- Of two groups that meet, one is of zeros. -/
def Apart (first second : List Value) : Prop := first.head? = some 0 ∨ second.head? = some 0

/-- The length of the run that the last group is. -/
def openLength (lengthInterval : Nat) (groups : List (List Value)) : Nat :=
  groups.foldl (fun _ group => if group.head? = some 0 then 0 else group.length) lengthInterval

/-- The scan over groups of which no two runs meet. -/
theorem scanHours_groups {groups : List (List Value)} (uniform : ∀ group ∈ groups, Uniform group)
    (apart : groups.IsChain Apart) (start : Nat) {scan : Scan Value}
    (fresh : scan.lengthInterval = 0 → scan.startInterval = start + 1 ∧ scan.acumCorr = 0)
    (meets : scan.lengthInterval ≠ 0 → ∀ group ∈ groups.head?, group.head? = some 0) :
    (scanHours (start + 1) groups.flatten scan).closed = scan.closed ++ intervalsOf start groups ∧
      (scanHours (start + 1) groups.flatten scan).lengthInterval =
        openLength scan.lengthInterval groups := by
  induction groups generalizing start scan with
  | nil => simp [scanHours, intervalsOf, places, openLength]
  | cons group groups inductionHypothesis =>
    obtain ⟨⟨nonempty, zeros | ⟨sign, nonzero, all⟩⟩, rest⟩ := List.forall_mem_cons.mp uniform
    · have head : group.head? = some 0 := by
        cases group with
        | nil => exact absurd rfl nonempty
        | cons entry => rw [List.head?_cons, zeros entry (.head _)]
      rw [List.flatten_cons, scanHours_append, scanHours_zeros nonempty zeros,
        intervalsOf_cons, if_pos head, Nat.add_right_comm, openLength, List.foldl_cons, if_pos head]
      have later := @inductionHypothesis rest (List.isChain_cons.mp apart).2 (start + group.length)
        ⟨start + group.length + 1, 0, 0, 0, scan.closed⟩ (fun _ => ⟨rfl, rfl⟩) (absurd rfl)
      exact later
    · have head : group.head? ≠ some 0 := by
        intro isZero
        have zero := all 0 (List.mem_of_mem_head? isZero)
        exact nonzero (zero.symm.trans sign_zero)
      have idle : scan.lengthInterval = 0 := by
        by_contra opened
        exact head (meets opened group rfl)
      obtain ⟨place, empty⟩ := fresh idle
      rw [List.flatten_cons, scanHours_append, scanHours_run nonzero nonempty all (.inl idle),
        intervalsOf_cons, if_neg head, Nat.add_right_comm, openLength, List.foldl_cons, if_neg head]
      have positive : group.length ≠ 0 := mt List.length_eq_zero_iff.mp nonempty
      have later := @inductionHypothesis rest (List.isChain_cons.mp apart).2 (start + group.length)
        { scan with
          lengthInterval := scan.lengthInterval + group.length
          acumCorr := scan.acumCorr + group.sum
          signPrevious := sign }
        (fun none => absurd none (by simp [positive]))
        (fun _ next isNext => ((List.isChain_cons.mp apart).1 next isNext).resolve_left head)
      refine ⟨?_, ?_⟩
      · rw [later.1]
        simp [Scan.closed, Scan.interval, idle, place, empty, positive, intervalOf]
      · rw [later.2, idle, Nat.zero_add, openLength]

/-- Before the start of an interval there is a zero, or nothing. -/
def Fresh (corr : List Value) (startInterval : Nat) : Prop :=
  startInterval = 1 ∨ ∃ index, startInterval = index + 2 ∧ corr[index]? = some 0

omit [LinearOrder Value] in
theorem closed_fresh {corr : List Value} (start : Fresh corr scan.startInterval)
    (starts : ∀ interval ∈ scan.intervalArray, Fresh corr interval.startInterval) :
    ∀ interval ∈ scan.closed, Fresh corr interval.startInterval := by
  intro interval member
  unfold Scan.closed at member
  split at member
  · cases List.mem_append.mp member with
    | inl before => exact starts interval before
    | inr last =>
      cases List.mem_singleton.mp last
      exact start
  · exact starts interval member

/-- An interval is only started behind a zero. -/
theorem scanHours_fresh {corr front back : List Value} (parts : corr = front ++ back)
    (start : Fresh corr scan.startInterval)
    (starts : ∀ interval ∈ scan.intervalArray, Fresh corr interval.startInterval) :
    ∀ interval ∈ (scanHours (front.length + 1) back scan).closed, Fresh corr interval.startInterval := by
  induction back generalizing front scan with
  | nil => exact closed_fresh start starts
  | cons entry back inductionHypothesis =>
    have parts' : corr = (front ++ [entry]) ++ back := by rw [parts, List.append_cons]
    have place : front.length + 1 = (front ++ [entry]).length := by simp
    rw [scanHours]
    by_cases zero : entry = 0
    · subst zero
      rw [scanHour_zero, place]
      apply inductionHypothesis parts'
      · exact .inr ⟨front.length, by simp, by simp [parts]⟩
      · exact closed_fresh start starts
    · obtain ⟨sameStart, sameArray⟩ := @scanHour_nonzero _ _ _ scan _ zero (front.length + 1)
      rw [← sameStart] at start
      rw [← sameArray] at starts
      rw [place] at start starts ⊢
      exact inductionHypothesis parts' start starts

end Scan

/-! ## The scan of a vector -/

theorem Uniform.nonzero_iff {group : List Value} (uniform : Uniform group) :
    (∀ entry ∈ group, entry ≠ 0) ↔ group.head? ≠ some 0 := by
  obtain ⟨nonempty, zeros | ⟨sign, nonzero, all⟩⟩ := uniform
  · cases group with
    | nil => exact absurd rfl nonempty
    | cons entry =>
      have zero := zeros entry (.head _)
      exact iff_of_false (fun nonzero => nonzero entry (.head _) zero) (by simp [zero])
  · have apart : ∀ entry ∈ group, entry ≠ 0 := by
      rintro entry member rfl
      exact nonzero ((all 0 member).symm.trans sign_zero)
    exact iff_of_true apart fun head => apart 0 (List.mem_of_mem_head? head) rfl

theorem Uniform.zeros {group : List Value} (uniform : Uniform group) (head : group.head? = some 0) :
    ∀ entry ∈ group, entry = 0 := by
  obtain ⟨_, zeros | ⟨sign, nonzero, all⟩⟩ := uniform
  · exact zeros
  · have zero := all 0 (List.mem_of_mem_head? head)
    exact absurd (zero.symm.trans sign_zero) nonzero

section Vectors

variable {corr : List Value}

theorem uniform_groups (corr : List Value) : ∀ group ∈ groups SignType.sign corr, Uniform group := by
  intro group member
  obtain ⟨sign, all⟩ := shared_of_mem_groups member
  refine ⟨fun nothing => nil_notMem_groups _ corr (nothing ▸ member), ?_⟩
  by_cases zero : sign = 0
  · subst zero
    exact .inl fun entry inside => sign_eq_zero_iff.mp (all entry inside)
  · exact .inr ⟨sign, zero, all⟩

/-- The intervals of the groups are the runs. -/
theorem exactRuns_groups (corr : List Value) :
    ExactRuns corr (intervalsOf 0 (groups SignType.sign corr)) := by
  refine ⟨?_, fun interval => ?_⟩
  · rw [intervalsOf, List.pairwise_map]
    refine List.Pairwise.filter _ ((places_sorted (nil_notMem_groups _ corr) 0).imp ?_)
    exact fun less => Nat.succ_lt_succ less
  · simp only [intervalsOf, List.mem_map, List.mem_filter, Prod.exists, decide_eq_true_eq]
    constructor
    · rintro ⟨start, run, ⟨place, head⟩, rfl⟩
      have uniform := uniform_groups corr run (mem_of_mem_places place)
      exact ⟨start, run, isRun_iff.mpr place, uniform.nonzero_iff.mpr head, rfl⟩
    · rintro ⟨start, run, isRun, nonzero, rfl⟩
      have place := isRun_iff.mp isRun
      have uniform := uniform_groups corr run (mem_of_mem_places place)
      exact ⟨start, run, ⟨place, uniform.nonzero_iff.mp nonzero⟩, rfl⟩

variable [IsStrictOrderedRing Value]

theorem sign_eq_of_mul_pos {first second : Value} (positive : 0 < first * second) :
    SignType.sign first = SignType.sign second := by
  cases mul_pos_iff.mp positive with
  | inl both => rw [sign_pos both.1, sign_pos both.2]
  | inr both => rw [sign_neg both.1, sign_neg both.2]

theorem apart_groups (same : NoOpposite corr) : (groups SignType.sign corr).IsChain Apart := by
  refine List.isChain_iff_forall_rel_of_append_cons_cons.mpr ?_
  intro first second front back parts
  have whole := flatten_groups SignType.sign corr
  rw [parts, List.flatten_append, List.flatten_cons, List.flatten_cons] at whole
  have uniform := uniform_groups corr first (by simp [parts])
  have uniform' := uniform_groups corr second (by simp [parts])
  have meet := groups_meet parts
  rw [NoOpposite, ← whole, List.isChain_append, List.isChain_append] at same
  have junction := same.2.1.2.2 (first.getLast uniform.1) (List.getLast_mem_getLast? uniform.1)
    (second.head uniform'.1) (by rw [List.head?_append_of_ne_nil _ uniform'.1]; exact List.head_mem_head? _)
  by_contra neither
  rw [Apart, not_or] at neither
  have nonzero := uniform.nonzero_iff.mpr neither.1 _ (List.getLast_mem uniform.1)
  have nonzero' := uniform'.nonzero_iff.mpr neither.2 _ (List.head_mem uniform'.1)
  exact meet _ (List.getLast_mem_getLast? uniform.1) _ (List.head_mem_head? uniform'.1)
    (sign_eq_of_mul_pos (lt_of_le_of_ne junction (mul_ne_zero nonzero nonzero').symm))

/-- The scan without opposite neighbours. -/
theorem scanned_groups (nonempty : corr ≠ []) (same : NoOpposite corr) :
    ∃ scan, scanned corr = some scan ∧
      scan.intervalArray = intervalsOf 0 (groups SignType.sign corr) ∧
        scan.lengthInterval = openLength 0 (groups SignType.sign corr) := by
  cases corr with
  | nil => exact absurd rfl nonempty
  | cons first rest =>
    refine ⟨_, rfl, ?_⟩
    have scan := @scanHours_groups Value _ _ (groups SignType.sign (first :: rest))
      (uniform_groups _) (apart_groups same) 0 ⟨1, 0, 0, SignType.sign first, []⟩
      (fun _ => ⟨rfl, rfl⟩) (absurd rfl)
    rw [flatten_groups] at scan
    exact scan

/-- A run begins between opposite neighbours, and the scan has no interval there. -/
theorem noOpposite_of_exactRuns {scan : Scan Value} (ran : scanned corr = some scan)
    (exact : ExactRuns corr scan.intervalArray) : NoOpposite corr := by
  refine List.isChain_iff_forall_rel_of_append_cons_cons.mpr ?_
  rintro first second front back rfl
  by_contra negative
  have nonzero : first ≠ 0 ∧ second ≠ 0 := by
    refine ⟨?_, ?_⟩ <;>
      · rintro rfl
        simp at negative
  have change : SignType.sign first ≠ SignType.sign second := by
    intro equal
    have square : SignType.sign (first * second) = 1 := by
      rw [sign_mul, equal, ← sign_mul]
      exact sign_pos (mul_self_pos.mpr nonzero.2)
    exact negative (sign_eq_one_iff.mp square).le
  obtain ⟨run, isRun⟩ := @exists_isRun Value SignType SignType.sign _ front back first second change
  have entries : ∀ entry ∈ second :: run, entry ≠ 0 := by
    obtain ⟨_, _, shared, _, _, _, all, _⟩ := isRun
    rintro entry member rfl
    have zero := (all second (.head _)).trans (all 0 member).symm
    rw [sign_zero, sign_eq_zero_iff] at zero
    exact nonzero.2 zero
  have member := (exact.2 _).mpr ⟨_, _, isRun, entries, rfl⟩
  have fresh : ∀ interval ∈ scan.intervalArray,
      Fresh (front ++ first :: second :: back) interval.startInterval := by
    cases whole : front ++ first :: second :: back with
    | nil => simp at whole
    | cons entry rest =>
      rw [whole, scanned, Option.some.injEq] at ran
      subst ran
      exact @scanHours_fresh Value _ _ _ (entry :: rest) [] (entry :: rest) rfl (.inl rfl) (by simp)
  cases fresh _ member with
  | inl start => cases start
  | inr behind =>
    obtain ⟨index, start, zero⟩ := behind
    have place : front.length = index := Nat.succ.inj (Nat.succ.inj start)
    simp only [← place, List.getElem?_append_right (Nat.le_refl _), Nat.sub_self,
      List.getElem?_cons_zero, Option.some.injEq] at zero
    exact nonzero.1 zero

end Vectors

/-- For all rows and every threshold, the scan ends with exactly the maximal runs of one sign if and
only if there is a row and no two adjacent correlations have opposite signs. -/
theorem scanned_exact_iff [IsStrictOrderedRing Value] (thresholdPValue : Value)
    (rows : List (Value × Value)) :
    (∃ scan, scanned (discard thresholdPValue rows) = some scan ∧
      ExactRuns (discard thresholdPValue rows) scan.intervalArray) ↔
        rows ≠ [] ∧ NoOpposite (discard thresholdPValue rows) := by
  constructor
  · rintro ⟨scan, ran, exact⟩
    refine ⟨?_, noOpposite_of_exactRuns ran exact⟩
    rintro rfl
    cases ran
  · rintro ⟨nonempty, same⟩
    obtain ⟨scan, ran, intervals, _⟩ := scanned_groups (by simpa [discard] using nonempty) same
    exact ⟨scan, ran, intervals ▸ exactRuns_groups _⟩

/-- Two runs with a zero between them, and one correlation that is discarded. -/
theorem scanned_exact_two : ∃ scan, scanned (discard (1 / 20 : ℚ)
      [(1 / 2, 0), (1 / 4, 0), (3 / 4, 1), (-1 / 2, 0)]) = some scan ∧
    ExactRuns (discard (1 / 20 : ℚ) [(1 / 2, 0), (1 / 4, 0), (3 / 4, 1), (-1 / 2, 0)])
      scan.intervalArray :=
  (scanned_exact_iff (1 / 20) _).mpr ⟨by simp, by norm_num [NoOpposite, discard]⟩

/-- The sign changes without a zero: the second entry is in no interval. -/
theorem sign_change_missed : ∃ scan, scanned (discard (1 / 20 : ℚ) [(1 / 2, 0), (-1 / 2, 0)]) =
      some scan ∧ scan.intervalArray = [⟨1, 1, 1 / 2⟩] ∧
    ¬ ExactRuns (discard (1 / 20 : ℚ) [(1 / 2, 0), (-1 / 2, 0)]) scan.intervalArray := by
  refine ⟨_, rfl, ?_, fun exact => ?_⟩
  · norm_num [scanHours, scanHour, Scan.closed, Scan.interval]
  · have same := @noOpposite_of_exactRuns ℚ _ _ _ _ _ rfl exact
    norm_num [NoOpposite, discard] at same

end PlhrFirmware.Analysis
