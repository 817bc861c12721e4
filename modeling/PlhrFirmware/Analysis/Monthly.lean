import Mathlib.Data.Finset.Sort
import Mathlib.Data.List.ReduceOption
import Mathlib.Data.Prod.Lex
import PlhrFirmware.Analysis.Daily

/-! # The monthly entries

What `ArrayRelevantParameters.create_array_day` has for the months, and how `select_same_time` pairs
the months of two arrays.
-/

namespace PlhrFirmware.Analysis

open PlhrFirmware.Lib

/-! ## Dates -/

def Datetime.key (date : Datetime) : Int ×ₗ Int ×ₗ Int := toLex (date.year, toLex (date.month, date.day))

theorem key_injective : Function.Injective Datetime.key := by
  intro first second same
  cases first
  cases second
  cases same
  rfl

instance : LinearOrder Datetime := LinearOrder.lift' Datetime.key key_injective

theorem before_iff_lt {first second : Datetime} : first.Before second ↔ first < second := by
  change _ ↔ first.key < second.key
  simp [Datetime.Before, Datetime.key, Prod.Lex.toLex_lt_toLex]

theorem nodup_of_ordered {dates : List Datetime} (ordered : dates.Pairwise Datetime.Before) :
    dates.Nodup := by
  apply ordered.imp
  intro date later before
  exact (before_iff_lt.mp before).ne

variable {Value : Type}

/-! ## `select_same_time` -/

/-- The dates that are in both, in order. -/
def intersect (first second : List (Option Datetime)) : List Datetime :=
  (first.reduceOption.toFinset ∩ second.reduceOption.toFinset).sort

def meansAt (array : List (RelevantParameters Value)) (commonTime : Datetime) : List Value :=
  (array.filter fun parameters => parameters.date = some commonTime).map RelevantParameters.mean

/-- Only one value is assigned to an element. -/
def element : List Value → Option Value
  | [value] => some value
  | _ => none

/-- The columns of `output`, which is only there when an element of it has been assigned. -/
def selectSameTime (arrayRelevantParam1 arrayRelevantParam2 : List (RelevantParameters Value)) :
    Option (List (Value × Value)) :=
  let commonTimes := intersect (arrayRelevantParam1.map RelevantParameters.date)
    (arrayRelevantParam2.map RelevantParameters.date)
  if commonTimes = [] then none
  else commonTimes.mapM fun commonTime => do
    let mean1 ← element (meansAt arrayRelevantParam1 commonTime)
    let mean2 ← element (meansAt arrayRelevantParam2 commonTime)
    some (mean1, mean2)

/-! ## Months -/

/-- The month of a sample, as its first day. -/
def Sample.monthOf (sample : Sample Value) : Option Datetime :=
  sample.1.map fun time => ⟨time.year, time.month, 1⟩

def samplesOfMonth (date : Datetime) (samples : List (Sample Value)) : List (Sample Value) :=
  samples.filter fun sample => sample.monthOf = some date

def dates (array : List (RelevantParameters Value)) : List Datetime :=
  array.filterMap RelevantParameters.date

/-- Each month that two arrays have in common is paired once, in chronological order, if there is
one. -/
def PairsMonths (array1 array2 : List (RelevantParameters Value)) : Prop :=
  ∃ common columns, common.Pairwise Datetime.Before ∧
    (∀ date, date ∈ common ↔ date ∈ dates array1 ∧ date ∈ dates array2) ∧
    List.Forall₂ (fun date (column : Value × Value) =>
      ∃ first ∈ array1, ∃ second ∈ array2,
        first.date = some date ∧ second.date = some date ∧ column = (first.mean, second.mean))
      common columns ∧
    (common ≠ [] → selectSameTime array1 array2 = some columns)

section Months

variable {samples : List (Sample Value)} {date : Datetime}

theorem monthOf_eq {sample : Sample Value} : sample.monthOf = some date ↔
    ∃ time, sample.1 = some time ∧ (⟨time.year, time.month, 1⟩ : Datetime) = date :=
  Option.map_eq_some_iff

theorem mem_samplesOfMonth {sample : Sample Value} :
    sample ∈ samplesOfMonth date samples ↔ sample ∈ samples ∧ sample.monthOf = some date := by
  simp [samplesOfMonth]

/-- The two selections leave the samples of the month. -/
theorem selectIndexMonth_eq (year month : Int) (samples : List (Sample Value)) :
    selectIndexMonth month (selectIndexYear year samples) = samplesOfMonth ⟨year, month, 1⟩ samples := by
  rw [selectIndexMonth, selectIndexYear, select, select, List.filter_filter, samplesOfMonth]
  apply List.filter_congr
  intro sample _
  rw [Bool.eq_iff_iff]
  simp only [Bool.and_eq_true, decide_eq_true_eq, key_eq, monthOf_eq]
  constructor
  · rintro ⟨⟨time, isTime, month⟩, time', isTime', year⟩
    cases isTime.symm.trans isTime'
    exact ⟨time, isTime, Datetime.ext year month rfl⟩
  · rintro ⟨time, isTime, isDate⟩
    cases isDate
    exact ⟨⟨time, isTime, rfl⟩, time, isTime, rfl⟩

theorem ofMonth_samplesOfMonth {year month : Int} (samples : List (Sample Value)) :
    OfMonth year month (samplesOfMonth ⟨year, month, 1⟩ samples) := by
  rw [← selectIndexMonth_eq]
  exact ofMonth_select year month samples

end Months

section Pairs

variable {array1 array2 : List (RelevantParameters Value)} {date : Datetime}

theorem mem_intersect : date ∈ intersect (array1.map RelevantParameters.date)
    (array2.map RelevantParameters.date) ↔ date ∈ dates array1 ∧ date ∈ dates array2 := by
  rw [intersect, Finset.mem_sort, Finset.mem_inter, List.mem_toFinset, List.mem_toFinset,
    List.reduceOption_mem_iff, List.reduceOption_mem_iff, List.mem_map, List.mem_map, dates, dates,
    List.mem_filterMap, List.mem_filterMap]

theorem intersect_ordered (first second : List (Option Datetime)) :
    (intersect first second).Pairwise Datetime.Before := by
  apply (Finset.sortedLT_sort _).pairwise.imp
  intro date later less
  exact before_iff_lt.mpr less

/-- A date that only one entry has. -/
theorem element_meansAt (ordered : (dates array1).Pairwise Datetime.Before) (member : date ∈ dates array1) :
    ∃ entry ∈ array1, entry.date = some date ∧ element (meansAt array1 date) = some entry.mean := by
  obtain ⟨entry, inside, isDate, only⟩ := filter_eq_singleton (nodup_of_ordered ordered) member
  rw [meansAt, only]
  exact ⟨entry, inside, isDate, rfl⟩

/-- Arrays with the entries in chronological order. -/
theorem pairsMonths (ordered1 : (dates array1).Pairwise Datetime.Before)
    (ordered2 : (dates array2).Pairwise Datetime.Before) : PairsMonths array1 array2 := by
  have each : ∀ date ∈ intersect (array1.map RelevantParameters.date) (array2.map RelevantParameters.date),
      ∃ column, (do
        let mean1 ← element (meansAt array1 date)
        let mean2 ← element (meansAt array2 date)
        some (mean1, mean2)) = some column ∧
      ∃ first ∈ array1, ∃ second ∈ array2, first.date = some date ∧ second.date = some date ∧
        column = (first.mean, second.mean) := by
    intro date member
    obtain ⟨member1, member2⟩ := mem_intersect.mp member
    obtain ⟨first, inside1, isDate1, mean1⟩ := element_meansAt ordered1 member1
    obtain ⟨second, inside2, isDate2, mean2⟩ := element_meansAt ordered2 member2
    rw [mean1, mean2]
    exact ⟨_, rfl, first, inside1, second, inside2, isDate1, isDate2, rfl⟩
  obtain ⟨columns, mapped, paired⟩ := mapM_forall₂ each
  have output : intersect (array1.map RelevantParameters.date) (array2.map RelevantParameters.date) ≠ [] →
      selectSameTime array1 array2 = some columns := by
    intro common
    rw [selectSameTime, if_neg common]
    exact mapped
  exact ⟨_, columns, intersect_ordered _ _, fun _ => mem_intersect, paired, output⟩

/-- Without a month in common there is no output. -/
theorem selectSameTime_none (disjoint : ∀ date ∈ dates array1, date ∉ dates array2) :
    selectSameTime array1 array2 = none := by
  have nothing : intersect (array1.map RelevantParameters.date)
      (array2.map RelevantParameters.date) = [] := by
    apply List.eq_nil_iff_forall_not_mem.mpr
    intro date member
    obtain ⟨member1, member2⟩ := mem_intersect.mp member
    exact disjoint date member1 member2
  rw [selectSameTime, nothing, if_pos rfl]

end Pairs

variable [Field Value] [LinearOrder Value]

/-- One entry for each month that has a sample, in chronological order, with the mean, the maximum
and the minimum of the samples of the month; every sample at a time is in one month. -/
structure MonthsExact (samples : List (Sample Value)) (array : List (RelevantParameters Value)) : Prop where
  ordered : (dates array).Pairwise Datetime.Before
  complete : ∀ date, date ∈ dates array ↔ samplesOfMonth date samples ≠ []
  computed : ∀ entry ∈ array, ∃ date, entry.date = some date ∧
    entry.mean = mean ((samplesOfMonth date samples).map Prod.snd) ∧
      ((samplesOfMonth date samples).map Prod.snd).max? = some entry.max ∧
        ((samplesOfMonth date samples).map Prod.snd).min? = some entry.min
  partition : ((dates array).flatMap fun date => samplesOfMonth date samples).Perm
    (samples.filter fun sample => sample.1.isSome)

section Entries

variable {sqrt : Value → Value} {samples : List (Sample Value)} {entry : RelevantParameters Value}
  {year month : Int}

theorem mem_monthEntries : entry ∈ monthEntries sqrt (selectIndexYear year samples) month ↔
    ofSamples sqrt (samplesOfMonth ⟨year, month, 1⟩ samples) = some entry := by
  rw [monthEntries, Option.mem_toList, selectIndexMonth_eq]

/-- What the constructor has for the samples of a month. -/
theorem ofSamples_samplesOfMonth
    (constructed : ofSamples sqrt (samplesOfMonth ⟨year, month, 1⟩ samples) = some entry) :
    entry.date = some ⟨year, month, 1⟩ ∧
      entry.mean = mean ((samplesOfMonth ⟨year, month, 1⟩ samples).map Prod.snd) ∧
        ((samplesOfMonth ⟨year, month, 1⟩ samples).map Prod.snd).max? = some entry.max ∧
          ((samplesOfMonth ⟨year, month, 1⟩ samples).map Prod.snd).min? = some entry.min := by
  have nonempty := ne_nil_of_ofSamples constructed
  obtain ⟨parameters, same, facts⟩ := ofSamples_month sqrt nonempty (ofMonth_samplesOfMonth samples)
  cases same.symm.trans constructed
  exact facts

theorem mem_yearEntries : entry ∈ yearEntries sqrt samples year ↔
    ∃ month ∈ months (selectIndexYear year samples),
      ofSamples sqrt (samplesOfMonth ⟨year, month, 1⟩ samples) = some entry := by
  simp only [yearEntries, List.mem_flatMap, mem_monthEntries]

/-- The months that have a sample are among those that the loops come to. -/
theorem mem_entries : entry ∈ (years samples).flatMap (yearEntries sqrt samples) ↔
    ∃ year month, ofSamples sqrt (samplesOfMonth ⟨year, month, 1⟩ samples) = some entry := by
  simp only [List.mem_flatMap, mem_yearEntries]
  constructor
  · intro looped
    obtain ⟨year, _, month, _, constructed⟩ := looped
    exact ⟨year, month, constructed⟩
  · intro ofMonth
    obtain ⟨year, month, constructed⟩ := ofMonth
    obtain ⟨sample, inMonth⟩ := List.exists_mem_of_ne_nil _ (ne_nil_of_ofSamples constructed)
    rw [← selectIndexMonth_eq] at inMonth
    have inYear := (mem_select.mp inMonth).1
    exact ⟨year, mem_colon_of_select inYear, month, mem_colon_of_select inMonth, constructed⟩

theorem monthEntries_ordered (samplesYear : List (Sample Value)) (month : Int) :
    (monthEntries sqrt samplesYear month).Pairwise fun first second =>
      ∀ date ∈ first.date, ∀ later ∈ second.date, date.Before later := by
  unfold monthEntries
  cases ofSamples sqrt (selectIndexMonth month samplesYear) <;> simp

theorem yearEntries_ordered (samples : List (Sample Value)) (year : Int) :
    (yearEntries sqrt samples year).Pairwise fun first second =>
      ∀ date ∈ first.date, ∀ later ∈ second.date, date.Before later := by
  apply pairwise_flatMap_colon fun month => monthEntries_ordered (selectIndexYear year samples) month
  intro month later less first isFirst second isSecond date isDate date' isDate'
  have ofFirst := (ofSamples_samplesOfMonth (mem_monthEntries.mp isFirst)).1
  have ofSecond := (ofSamples_samplesOfMonth (mem_monthEntries.mp isSecond)).1
  cases ofFirst.symm.trans isDate
  cases ofSecond.symm.trans isDate'
  exact .inr ⟨rfl, .inl less⟩

theorem entries_ordered (samples : List (Sample Value)) :
    (dates ((years samples).flatMap (yearEntries sqrt samples))).Pairwise Datetime.Before := by
  rw [dates, List.pairwise_filterMap]
  apply pairwise_flatMap_colon fun year => yearEntries_ordered samples year
  intro year later less first isFirst second isSecond date isDate date' isDate'
  obtain ⟨month, _, constructed⟩ := mem_yearEntries.mp isFirst
  obtain ⟨month', _, constructed'⟩ := mem_yearEntries.mp isSecond
  cases (ofSamples_samplesOfMonth constructed).1.symm.trans isDate
  cases (ofSamples_samplesOfMonth constructed').1.symm.trans isDate'
  exact .inl less

/-- A month has an entry when it has samples. -/
theorem mem_dates_entries {date : Datetime} :
    date ∈ dates ((years samples).flatMap (yearEntries sqrt samples)) ↔
      samplesOfMonth date samples ≠ [] := by
  rw [dates, List.mem_filterMap]
  constructor
  · intro dated
    obtain ⟨entry, member, isDate⟩ := dated
    obtain ⟨year, month, constructed⟩ := mem_entries.mp member
    cases (ofSamples_samplesOfMonth constructed).1.symm.trans isDate
    exact ne_nil_of_ofSamples constructed
  · intro nonempty
    obtain ⟨sample, member⟩ := List.exists_mem_of_ne_nil _ nonempty
    obtain ⟨time, _, isDate⟩ := monthOf_eq.mp (mem_samplesOfMonth.mp member).2
    cases isDate
    obtain ⟨parameters, constructed, isDate, _⟩ :=
      ofSamples_month sqrt nonempty (ofMonth_samplesOfMonth samples)
    exact ⟨parameters, mem_entries.mpr ⟨_, _, constructed⟩, isDate⟩

theorem monthsExact (sqrt : Value → Value) (samples : List (Sample Value)) :
    MonthsExact samples ((years samples).flatMap (yearEntries sqrt samples)) where
  ordered := entries_ordered samples
  complete _ := mem_dates_entries
  computed entry member := by
    obtain ⟨year, month, constructed⟩ := mem_entries.mp member
    exact ⟨_, ofSamples_samplesOfMonth constructed⟩
  partition := by
    have distinct : (dates ((years samples).flatMap (yearEntries sqrt samples))).Nodup :=
      nodup_of_ordered (entries_ordered samples)
    have covers : ∀ sample ∈ samples, ∀ date ∈ sample.monthOf,
        date ∈ dates ((years samples).flatMap (yearEntries sqrt samples)) := by
      intro sample member date isMonth
      exact mem_dates_entries.mpr (List.ne_nil_of_mem (mem_samplesOfMonth.mpr ⟨member, isMonth⟩))
    have partition := buckets_perm distinct covers
    simp only [Sample.monthOf, Option.isSome_map] at partition
    exact partition

end Entries

/-- For all vectors of one length, every square root and every day of a number: there is exactly one
entry for each month with a sample, in chronological order and from the samples of the month, and every
sample at a time is in one; the months that two arrays have in common are each paired once. -/
theorem createArrayDay_months (sqrt : Value → Value) (dayOfNumber : Value → Int)
    (timeVector1 timeVector2 : List (Option Datetime)) (dataVector1 dataVector2 : List (Option Value))
    (sizes1 : timeVector1.length = dataVector1.length) (sizes2 : timeVector2.length = dataVector2.length) :
    ∃ arrays1 arrays2, createArrayDay sqrt dayOfNumber timeVector1 dataVector1 = some arrays1 ∧
      createArrayDay sqrt dayOfNumber timeVector2 dataVector2 = some arrays2 ∧
        MonthsExact (removeNan timeVector1 dataVector1) arrays1.arrayRelevantParameters ∧
          MonthsExact (removeNan timeVector2 dataVector2) arrays2.arrayRelevantParameters ∧
            PairsMonths arrays1.arrayRelevantParameters arrays2.arrayRelevantParameters := by
  have exact1 := monthsExact sqrt (removeNan timeVector1 dataVector1)
  have exact2 := monthsExact sqrt (removeNan timeVector2 dataVector2)
  exact ⟨_, _, createArrayDay_eq sqrt dayOfNumber sizes1, createArrayDay_eq sqrt dayOfNumber sizes2,
    exact1, exact2, pairsMonths exact1.ordered exact2.ordered⟩

/-- January is in both, once behind March and once with a value that is not a number. -/
theorem createArrayDay_months_january : ∃ arrays1 arrays2 columns,
    createArrayDay Rat.sqrt (fun number => serialDay ⌊number⌋)
      [some ⟨2024, 3, 2⟩, some ⟨2024, 1, 7⟩] [some 8, some (39 / 5)] = some arrays1 ∧
    createArrayDay Rat.sqrt (fun number => serialDay ⌊number⌋)
      [some ⟨2024, 1, 9⟩, some ⟨2024, 1, 3⟩] [none, some 7] = some arrays2 ∧
    MonthsExact (removeNan [some ⟨2024, 3, 2⟩, some ⟨2024, 1, 7⟩] [some 8, some (39 / 5)])
      arrays1.arrayRelevantParameters ∧
    MonthsExact (removeNan [some ⟨2024, 1, 9⟩, some ⟨2024, 1, 3⟩] [none, some 7])
      arrays2.arrayRelevantParameters ∧
    selectSameTime arrays1.arrayRelevantParameters arrays2.arrayRelevantParameters = some columns := by
  obtain ⟨arrays1, arrays2, created1, created2, exact1, exact2, common, columns, _, isCommon, _, output⟩ :=
    createArrayDay_months Rat.sqrt (fun number => serialDay ⌊number⌋)
      [some ⟨2024, 3, 2⟩, some ⟨2024, 1, 7⟩] [some ⟨2024, 1, 9⟩, some ⟨2024, 1, 3⟩]
      [some 8, some (39 / 5)] [none, some 7] rfl rfl
  have january1 := (exact1.complete ⟨2024, 1, 1⟩).mpr
    (List.ne_nil_of_mem (mem_samplesOfMonth.mpr ⟨.tail _ (.head _), rfl⟩))
  have january2 := (exact2.complete ⟨2024, 1, 1⟩).mpr
    (List.ne_nil_of_mem (mem_samplesOfMonth.mpr ⟨.head _, rfl⟩))
  have member := (isCommon _).mpr ⟨january1, january2⟩
  exact ⟨arrays1, arrays2, columns, created1, created2, exact1, exact2, output (List.ne_nil_of_mem member)⟩

/-- A value without a time is in no month; without a month in common there is no output. -/
theorem months_missed :
    (∃ arrays, createArrayDay Rat.sqrt (fun number => serialDay ⌊number⌋) [none] [some 8] = some arrays ∧
      ¬ ((dates arrays.arrayRelevantParameters).flatMap fun date =>
        samplesOfMonth date (removeNan [none] [some (8 : ℚ)])).Perm (removeNan [none] [some 8])) ∧
    ∃ arrays1 arrays2,
      createArrayDay Rat.sqrt (fun number => serialDay ⌊number⌋) [some ⟨2024, 1, 7⟩] [some 8] =
        some arrays1 ∧
      createArrayDay Rat.sqrt (fun number => serialDay ⌊number⌋) [some ⟨2024, 2, 7⟩] [some 8] =
        some arrays2 ∧
      selectSameTime arrays1.arrayRelevantParameters arrays2.arrayRelevantParameters = none := by
  constructor
  · have nothing : ¬ ([] : List (Sample ℚ)).Perm (removeNan [none] [some 8]) := by
      intro same
      cases same.nil_eq
    exact ⟨⟨[], []⟩, rfl, nothing⟩
  · have january := monthsExact Rat.sqrt (removeNan [some ⟨2024, 1, 7⟩] [some 8])
    have february := monthsExact Rat.sqrt (removeNan [some ⟨2024, 2, 7⟩] [some 8])
    have output := selectSameTime_none (by
      intro date inJanuary inFebruary
      obtain ⟨sample, member⟩ := List.exists_mem_of_ne_nil _ ((january.complete date).mp inJanuary)
      obtain ⟨other, member'⟩ := List.exists_mem_of_ne_nil _ ((february.complete date).mp inFebruary)
      obtain ⟨inside, isDate⟩ := mem_samplesOfMonth.mp member
      obtain ⟨inside', isDate'⟩ := mem_samplesOfMonth.mp member'
      cases List.mem_singleton.mp inside
      cases List.mem_singleton.mp inside'
      cases isDate.trans isDate'.symm)
    exact ⟨_, _, createArrayDay_eq _ _ rfl, createArrayDay_eq _ _ rfl, output⟩

end PlhrFirmware.Analysis
