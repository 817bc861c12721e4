import Mathlib.Algebra.Order.Floor.Ring
import Mathlib.Data.Rat.Floor
import Mathlib.Data.Rat.Sqrt
import PlhrFirmware.Analysis.Grouping

/-! # The daily timetable

When `ArrayRelevantParameters.create_array_day` has a row for every day with a sample.
-/

namespace PlhrFirmware.Analysis

open PlhrFirmware.Lib

/-- The day of the month of a serial date number, of which 1 is the first of January of the year
0. -/
def serialDay (number : Int) : Int :=
  -- the days of an era of 400 years that begins on a first of March
  let dayOfEra := (number - 61) % 146097
  let yearOfEra := (dayOfEra - dayOfEra / 1460 + dayOfEra / 36524 - dayOfEra / 146096) / 365
  let dayOfYear := dayOfEra - (365 * yearOfEra + yearOfEra / 4 - yearOfEra / 100)
  let month := (5 * dayOfYear + 2) / 153
  dayOfYear - (153 * month + 2) / 5 + 1

example : [1, 31, 32, 59, 60, 61, 366, 367, 738886, 738887].map serialDay =
    [1, 31, 1, 28, 29, 1, 31, 1, 31, 1] := by decide

variable {Value : Type}

def samplesOfDay (date : Datetime) (samples : List (Sample Value)) : List (Sample Value) :=
  samples.filter fun sample => sample.1 = some date

/-- In the month of a sample there is a value whose day is not before that of the sample. -/
def DataReaches (dayOfNumber : Value → Int) (samples : List (Sample Value)) : Prop :=
  ∀ sample ∈ samples, ∀ date ∈ sample.1,
    ∃ other ∈ samples, (∃ time ∈ other.1, time.year = date.year ∧ time.month = date.month) ∧
      date.day ≤ dayOfNumber other.2

section Days

variable {samples : List (Sample Value)} {date : Datetime}

theorem mem_samplesOfDay {sample : Sample Value} :
    sample ∈ samplesOfDay date samples ↔ sample ∈ samples ∧ sample.1 = some date := by
  simp [samplesOfDay]

/-- The three selections leave the samples of the day. -/
theorem selectIndexDay_eq (date : Datetime) (samples : List (Sample Value)) :
    selectIndexDay date.day (selectIndexMonth date.month (selectIndexYear date.year samples)) =
      samplesOfDay date samples := by
  rw [selectIndexDay, selectIndexMonth, selectIndexYear, select, select, select, List.filter_filter,
    List.filter_filter, samplesOfDay]
  apply List.filter_congr
  intro sample _
  rw [Bool.eq_iff_iff]
  simp only [Bool.and_eq_true, decide_eq_true_eq, key_eq]
  constructor
  · rintro ⟨⟨⟨time, isTime, day⟩, time', isTime', month⟩, time'', isTime'', year⟩
    cases isTime.symm.trans isTime'
    cases isTime.symm.trans isTime''
    rw [isTime, Option.some.injEq]
    exact Datetime.ext year month day
  · intro isDate
    exact ⟨⟨⟨date, isDate, rfl⟩, date, isDate, rfl⟩, date, isDate, rfl⟩

theorem mem_selectIndexMonth {sample : Sample Value} :
    sample ∈ selectIndexMonth date.month (selectIndexYear date.year samples) ↔
      sample ∈ samples ∧ ∃ time ∈ sample.1, time.year = date.year ∧ time.month = date.month := by
  rw [selectIndexMonth, selectIndexYear, mem_select, mem_select, key_eq, key_eq]
  constructor
  · rintro ⟨⟨member, time, isTime, year⟩, time', isTime', month⟩
    cases isTime.symm.trans isTime'
    exact ⟨member, time, isTime, year, month⟩
  · rintro ⟨member, time, isTime, year, month⟩
    exact ⟨⟨member, time, isTime, year⟩, time, isTime, month⟩

end Days

variable [Field Value] [LinearOrder Value]

/-- One row for each day that has a sample, in chronological order, and from the samples of the
day. -/
structure DaysExact (sqrt : Value → Value) (samples : List (Sample Value))
    (timetableDay : List (Datetime × RelevantParameters Value)) : Prop where
  ordered : (timetableDay.map Prod.fst).Pairwise Datetime.Before
  complete : ∀ date, date ∈ timetableDay.map Prod.fst ↔ samplesOfDay date samples ≠ []
  computed : ∀ row ∈ timetableDay, ofSamples sqrt (samplesOfDay row.1 samples) = some row.2

section Rows

variable {sqrt : Value → Value} {dayOfNumber : Value → Int} {samples : List (Sample Value)}
  {row : Datetime × RelevantParameters Value}

theorem mem_dayRows {samplesMonth : List (Sample Value)} {date : Datetime} :
    row ∈ dayRows sqrt samplesMonth date ↔
      row.1 = date ∧ ofSamples sqrt (selectIndexDay date.day samplesMonth) = some row.2 := by
  simp only [dayRows, List.mem_map, Option.mem_toList]
  constructor
  · rintro ⟨parameters, constructed, rfl⟩
    exact ⟨rfl, constructed⟩
  · rintro ⟨rfl, constructed⟩
    exact ⟨row.2, constructed, rfl⟩

theorem mem_monthRows {samplesYear : List (Sample Value)} {year month : Int} :
    row ∈ monthRows sqrt dayOfNumber samplesYear year month ↔
      (row.1.year = year ∧ row.1.month = month) ∧
        row.1.day ∈ days dayOfNumber (selectIndexMonth month samplesYear) ∧
          ofSamples sqrt (selectIndexDay row.1.day (selectIndexMonth month samplesYear)) = some row.2 := by
  simp only [monthRows, List.mem_flatMap, mem_dayRows]
  constructor
  · rintro ⟨day, ofDay, date, constructed⟩
    rw [date]
    exact ⟨⟨rfl, rfl⟩, ofDay, constructed⟩
  · rintro ⟨⟨rfl, rfl⟩, ofDay, constructed⟩
    exact ⟨row.1.day, ofDay, rfl, constructed⟩

theorem mem_yearRows {year : Int} : row ∈ yearRows sqrt dayOfNumber samples year ↔
    row.1.year = year ∧ row.1.month ∈ months (selectIndexYear year samples) ∧
      row.1.day ∈ days dayOfNumber (selectIndexMonth row.1.month (selectIndexYear year samples)) ∧
        ofSamples sqrt (samplesOfDay row.1 samples) = some row.2 := by
  simp only [yearRows, List.mem_flatMap, mem_monthRows, ← selectIndexDay_eq]
  constructor
  · rintro ⟨month, ofMonth, ⟨rfl, rfl⟩, ofDay, constructed⟩
    exact ⟨rfl, ofMonth, ofDay, constructed⟩
  · rintro ⟨rfl, ofMonth, ofDay, constructed⟩
    exact ⟨row.1.month, ofMonth, ⟨rfl, rfl⟩, ofDay, constructed⟩

theorem dayRows_ordered (samplesMonth : List (Sample Value)) (date : Datetime) :
    (dayRows sqrt samplesMonth date).Pairwise fun first second => first.1.Before second.1 := by
  unfold dayRows
  cases ofSamples sqrt (selectIndexDay date.day samplesMonth) <;> simp

theorem monthRows_ordered (samplesYear : List (Sample Value)) (year month : Int) :
    (monthRows sqrt dayOfNumber samplesYear year month).Pairwise fun first second =>
      first.1.Before second.1 := by
  apply pairwise_flatMap_colon fun day =>
    dayRows_ordered (selectIndexMonth month samplesYear) ⟨year, month, day⟩
  intro day later less first isFirst second isSecond
  rw [(mem_dayRows.mp isFirst).1, (mem_dayRows.mp isSecond).1]
  exact .inr ⟨rfl, .inr ⟨rfl, less⟩⟩

theorem yearRows_ordered (samples : List (Sample Value)) (year : Int) :
    (yearRows sqrt dayOfNumber samples year).Pairwise fun first second => first.1.Before second.1 := by
  apply pairwise_flatMap_colon fun month => monthRows_ordered (selectIndexYear year samples) year month
  intro month later less first isFirst second isSecond
  obtain ⟨firstYear, firstMonth⟩ := (mem_monthRows.mp isFirst).1
  obtain ⟨secondYear, secondMonth⟩ := (mem_monthRows.mp isSecond).1
  exact .inr ⟨firstYear.trans secondYear.symm, .inl (by rwa [firstMonth, secondMonth])⟩

theorem rows_ordered (samples : List (Sample Value)) :
    ((years samples).flatMap (yearRows sqrt dayOfNumber samples)).Pairwise fun first second =>
      first.1.Before second.1 := by
  apply pairwise_flatMap_colon fun year => yearRows_ordered samples year
  intro year later less first isFirst second isSecond
  exact .inl (by rwa [(mem_yearRows.mp isFirst).1, (mem_yearRows.mp isSecond).1])

/-- A day has a row when it has samples and is not behind the last day of the loop. -/
theorem mem_dates {date : Datetime} :
    date ∈ ((years samples).flatMap (yearRows sqrt dayOfNumber samples)).map Prod.fst ↔
      samplesOfDay date samples ≠ [] ∧
        ∃ other ∈ selectIndexMonth date.month (selectIndexYear date.year samples),
          date.day ≤ dayOfNumber other.2 := by
  simp only [List.mem_map, List.mem_flatMap, mem_yearRows]
  constructor
  · rintro ⟨row, ⟨year, _, rfl, _, ofDay, constructed⟩, rfl⟩
    obtain ⟨_, high, isHigh, below⟩ := mem_colon.mp ofDay
    obtain ⟨other, member, rfl⟩ := List.mem_map.mp isHigh
    exact ⟨ne_nil_of_ofSamples constructed, other, member, below⟩
  · rintro ⟨nonempty, other, member, below⟩
    obtain ⟨sample, inside⟩ := List.exists_mem_of_ne_nil _ nonempty
    have inDay := inside
    rw [← selectIndexDay_eq] at inDay
    have inMonth := (mem_select.mp inDay).1
    have inYear := (mem_select.mp inMonth).1
    have ofMonth := (ofMonth_select date.year date.month samples).selectIndexDay date.day
    rw [selectIndexDay_eq] at ofMonth
    obtain ⟨parameters, constructed, _⟩ := ofSamples_month sqrt nonempty ofMonth
    have isDay := mem_keys.mpr ⟨sample, mem_select.mp inDay⟩
    have ofDay : date.day ∈
        days dayOfNumber (selectIndexMonth date.month (selectIndexYear date.year samples)) :=
      mem_colon.mpr ⟨⟨_, isDay, le_rfl⟩, _, List.mem_map.mpr ⟨other, member, rfl⟩, below⟩
    exact ⟨(date, parameters), ⟨date.year, mem_colon_of_select inYear, rfl,
      mem_colon_of_select inMonth, ofDay, constructed⟩, rfl⟩

/-- The timetable is exact when the data values reach the days. -/
theorem daysExact_iff :
    DaysExact sqrt samples ((years samples).flatMap (yearRows sqrt dayOfNumber samples)) ↔
      DataReaches dayOfNumber samples := by
  constructor
  · intro exact sample member date isTime
    have inDay : sample ∈ samplesOfDay date samples := mem_samplesOfDay.mpr ⟨member, isTime⟩
    have row := (exact.complete date).mpr (List.ne_nil_of_mem inDay)
    obtain ⟨_, other, inMonth, below⟩ := mem_dates.mp row
    obtain ⟨inside, ofMonth⟩ := mem_selectIndexMonth.mp inMonth
    exact ⟨other, inside, ofMonth, below⟩
  · intro reaches
    refine ⟨List.pairwise_map.mpr (rows_ordered samples), fun date => ?_, fun row member => ?_⟩
    · rw [mem_dates]
      constructor
      · exact And.left
      · intro nonempty
        obtain ⟨sample, inDay⟩ := List.exists_mem_of_ne_nil _ nonempty
        obtain ⟨member, isTime⟩ := mem_samplesOfDay.mp inDay
        obtain ⟨other, inside, ofMonth, below⟩ := reaches sample member date isTime
        exact ⟨nonempty, other, mem_selectIndexMonth.mpr ⟨inside, ofMonth⟩, below⟩
    · obtain ⟨year, _, inYear⟩ := List.mem_flatMap.mp member
      exact (mem_yearRows.mp inYear).2.2.2

end Rows

/-- For all vectors of one length, every square root and every day of a number: the timetable has
exactly one row for each day with a sample, in chronological order and from the samples of the day, if
and only if in the month of each sample there is a value whose day is not before that of the sample. -/
theorem createArrayDay_exact_iff (sqrt : Value → Value) (dayOfNumber : Value → Int)
    (timeVector : List (Option Datetime)) (dataVector : List (Option Value))
    (sizes : timeVector.length = dataVector.length) :
    (∃ arrays, createArrayDay sqrt dayOfNumber timeVector dataVector = some arrays ∧
      DaysExact sqrt (removeNan timeVector dataVector) arrays.timetableDay) ↔
        DataReaches dayOfNumber (removeNan timeVector dataVector) := by
  rw [createArrayDay_eq sqrt dayOfNumber sizes, ← @daysExact_iff _ _ _ sqrt]
  constructor
  · rintro ⟨arrays, isArrays, exact⟩
    cases isArrays
    exact exact
  · exact fun exact => ⟨_, rfl, exact⟩

theorem serialDay_frequency : serialDay ⌊(39 / 5 : ℚ)⌋ = 7 := by
  have floor : ⌊(39 / 5 : ℚ)⌋ = 7 := by norm_num
  rw [floor]
  decide

/-- A frequency of 7.8 reaches the seventh of January. -/
theorem createArrayDay_exact_seventh : ∃ arrays,
    createArrayDay Rat.sqrt (fun number => serialDay ⌊number⌋) [some ⟨2024, 1, 7⟩, some ⟨2024, 1, 2⟩]
      [some (39 / 5), none] = some arrays ∧
    DaysExact Rat.sqrt (removeNan [some ⟨2024, 1, 7⟩, some ⟨2024, 1, 2⟩] [some (39 / 5), none])
      arrays.timetableDay :=
  (createArrayDay_exact_iff Rat.sqrt (fun number => serialDay ⌊number⌋) _ _ rfl).mpr (by
    intro sample member date isTime
    cases List.mem_singleton.mp member
    cases isTime
    exact ⟨_, member, ⟨_, rfl, rfl, rfl⟩, serialDay_frequency.ge⟩)

/-- It does not reach the eighth, which has a sample and no row. -/
theorem eighth_missed : ∃ arrays,
    createArrayDay Rat.sqrt (fun number => serialDay ⌊number⌋) [some ⟨2024, 1, 8⟩] [some (39 / 5)] =
      some arrays ∧
    samplesOfDay ⟨2024, 1, 8⟩ (removeNan [some ⟨2024, 1, 8⟩] [some (39 / 5 : ℚ)]) ≠ [] ∧
    ⟨2024, 1, 8⟩ ∉ arrays.timetableDay.map Prod.fst ∧
    ¬ DaysExact Rat.sqrt (removeNan [some ⟨2024, 1, 8⟩] [some (39 / 5)]) arrays.timetableDay := by
  have sampled : samplesOfDay ⟨2024, 1, 8⟩ (removeNan [some ⟨2024, 1, 8⟩] [some (39 / 5 : ℚ)]) ≠ [] :=
    List.ne_nil_of_mem (mem_samplesOfDay.mpr ⟨.head _, rfl⟩)
  have missed : ⟨2024, 1, 8⟩ ∉
      ((years (removeNan [some ⟨2024, 1, 8⟩] [some (39 / 5 : ℚ)])).flatMap
        (yearRows Rat.sqrt (fun number => serialDay ⌊number⌋)
          (removeNan [some ⟨2024, 1, 8⟩] [some (39 / 5)]))).map Prod.fst := by
    intro row
    obtain ⟨_, other, inMonth, below⟩ := mem_dates.mp row
    cases List.mem_singleton.mp (mem_selectIndexMonth.mp inMonth).1
    exact absurd (below.trans serialDay_frequency.le) (by decide)
  refine ⟨_, createArrayDay_eq _ _ rfl, sampled, missed, fun exact => ?_⟩
  exact missed ((exact.complete _).mpr sampled)

end PlhrFirmware.Analysis
