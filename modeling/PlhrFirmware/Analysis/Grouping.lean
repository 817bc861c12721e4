import Mathlib.Algebra.Order.Field.Basic
import PlhrFirmware.Lib.Buckets
import PlhrFirmware.Lib.Statistics

/-! # Grouping samples by month and day

What `ArrayRelevantParameters.create_array_day` does: it takes the samples apart by year, month and
day in three nested loops, and has one `RelevantParameters` for a month and one for a day.  A value
that is not a number, and a time that is not a time, is `none`.  The square root and the day of the
month that a number stands for are MATLAB's and are parameters.
-/

namespace PlhrFirmware.Analysis

open PlhrFirmware.Lib

/-- The day of a time. -/
@[ext] structure Datetime where
  year : Int
  month : Int
  day : Int
  deriving DecidableEq, Repr

def Datetime.Before (first second : Datetime) : Prop :=
  first.year < second.year ∨ first.year = second.year ∧
    (first.month < second.month ∨ first.month = second.month ∧ first.day < second.day)

structure RelevantParameters (Value : Type) where
  date : Option Datetime
  std : Value
  mean : Value
  max : Value
  min : Value
  skewness : Value
  kurtosis : Value
  deriving DecidableEq, Repr

/-- A time and what was measured at it. -/
abbrev Sample (Value : Type) := Option Datetime × Value

/-- The two outputs of `create_array_day`. -/
structure Arrays (Value : Type) where
  arrayRelevantParameters : List (RelevantParameters Value)
  timetableDay : List (Datetime × RelevantParameters Value)
  deriving DecidableEq, Repr

variable {Value : Type}

/-! ## Selecting samples -/

def removeNan (timeVector : List (Option Datetime)) (dataVector : List (Option Value)) :
    List (Sample Value) :=
  (timeVector.zip dataVector).filterMap fun sample => sample.2.map fun value => (sample.1, value)

/-- A field of the time of a sample. -/
def Sample.key (field : Datetime → Int) (sample : Sample Value) : Option Int := sample.1.map field

def selectIndexYear (indexYear : Int) (samples : List (Sample Value)) : List (Sample Value) :=
  select (Sample.key Datetime.year) indexYear samples

def selectIndexMonth (indexMonth : Int) (samplesYear : List (Sample Value)) : List (Sample Value) :=
  select (Sample.key Datetime.month) indexMonth samplesYear

def selectIndexDay (indexDay : Int) (samplesMonth : List (Sample Value)) : List (Sample Value) :=
  select (Sample.key Datetime.day) indexDay samplesMonth

/-- `min_year:max_year` -/
def years (samples : List (Sample Value)) : List Int :=
  colon (keys (Sample.key Datetime.year) samples) (keys (Sample.key Datetime.year) samples)

/-- `min_month:max_month` -/
def months (samplesYear : List (Sample Value)) : List Int :=
  colon (keys (Sample.key Datetime.month) samplesYear) (keys (Sample.key Datetime.month) samplesYear)

/-- `min_day:max_day`; the greatest day is that of a data value and not of a time. -/
def days (dayOfNumber : Value → Int) (samplesMonth : List (Sample Value)) : List Int :=
  colon (keys (Sample.key Datetime.day) samplesMonth) (samplesMonth.map fun sample => dayOfNumber sample.2)

def OfMonth (year month : Int) (samples : List (Sample Value)) : Prop :=
  ∀ sample ∈ samples, ∃ time, sample.1 = some time ∧ time.year = year ∧ time.month = month

section Samples

variable {samples : List (Sample Value)} {year month : Int}

theorem key_eq {field : Datetime → Int} {sample : Sample Value} {index : Int} :
    sample.key field = some index ↔ ∃ time, sample.1 = some time ∧ field time = index :=
  Option.map_eq_some_iff

theorem ofMonth_select (year month : Int) (samples : List (Sample Value)) :
    OfMonth year month (selectIndexMonth month (selectIndexYear year samples)) := by
  intro sample member
  obtain ⟨inYear, isMonth⟩ := mem_select.mp member
  obtain ⟨time, isTime, ofMonth⟩ := key_eq.mp isMonth
  obtain ⟨time', isTime', ofYear⟩ := key_eq.mp (mem_select.mp inYear).2
  cases isTime.symm.trans isTime'
  exact ⟨time, isTime, ofYear, ofMonth⟩

theorem OfMonth.selectIndexDay (ofMonth : OfMonth year month samples) (day : Int) :
    OfMonth year month (selectIndexDay day samples) :=
  fun sample member => ofMonth sample (mem_select.mp member).1

end Samples

/-! ## `RelevantParameters` -/

/-- The greatest less the least number. -/
def range (numbers : List Int) : Option Int := do
  let max ← numbers.max?
  let min ← numbers.min?
  some (max - min)

def fields (field : Datetime → Int) (timeVector : List (Option Datetime)) : List Int :=
  timeVector.filterMap fun time => time.map field

theorem range_same {numbers : List Int} {number : Int} (nonempty : numbers ≠ [])
    (all : ∀ other ∈ numbers, other = number) : range numbers = some 0 := by
  have member : number ∈ numbers := by
    obtain ⟨other, member⟩ := List.exists_mem_of_ne_nil _ nonempty
    exact all other member ▸ member
  have max : numbers.max? = some number :=
    List.max?_eq_some_iff.mpr ⟨member, fun other member => (all other member).le⟩
  have min : numbers.min? = some number :=
    List.min?_eq_some_iff.mpr ⟨member, fun other member => (all other member).ge⟩
  simp [range, max, min]

theorem range_fields {field : Datetime → Int} {number : Int} {samples : List (Sample Value)}
    (nonempty : samples ≠ [])
    (all : ∀ sample ∈ samples, ∃ time, sample.1 = some time ∧ field time = number) :
    range (fields field (samples.map Prod.fst)) = some 0 := by
  have numbers : ∀ other ∈ fields field (samples.map Prod.fst), other = number := by
    intro other member
    simp only [fields, List.mem_filterMap, List.mem_map] at member
    obtain ⟨time, ⟨sample, inside, rfl⟩, isField⟩ := member
    obtain ⟨time, isTime, equal⟩ := all sample inside
    rw [isTime] at isField
    cases isField
    exact equal
  apply range_same _ numbers
  obtain ⟨sample, inside⟩ := List.exists_mem_of_ne_nil _ nonempty
  obtain ⟨time, isTime, _⟩ := all sample inside
  apply List.ne_nil_of_mem
  exact List.mem_filterMap.mpr ⟨some time, List.mem_map.mpr ⟨sample, inside, isTime⟩, rfl⟩

variable [Field Value] [LinearOrder Value]

/-- The constructor, which throws unless the times are all of one month. -/
def relevantParameters (sqrt : Value → Value) (timeVector : List (Option Datetime))
    (dataVector : List Value) : Option (RelevantParameters Value) :=
  if timeVector.length ≠ dataVector.length then none
  else do
    let months ← range (fields Datetime.month timeVector)
    let years ← range (fields Datetime.year timeVector)
    if months ≠ 0 ∨ years ≠ 0 then none
    else do
      let first : Option Datetime ← timeVector.head?
      let max ← dataVector.max?
      let min ← dataVector.min?
      some {
        date := first.map fun time => ⟨time.year, time.month, 1⟩
        std := Lib.std sqrt dataVector
        mean := Lib.mean dataVector
        max := max
        min := min
        skewness := moment 3 dataVector
        kurtosis := moment 4 dataVector }

/-- The constructor on the times and the values of samples. -/
def ofSamples (sqrt : Value → Value) (samples : List (Sample Value)) : Option (RelevantParameters Value) :=
  relevantParameters sqrt (samples.map Prod.fst) (samples.map Prod.snd)

@[simp] theorem ofSamples_nil (sqrt : Value → Value) : ofSamples sqrt [] = none := rfl

theorem ne_nil_of_ofSamples {sqrt : Value → Value} {samples : List (Sample Value)}
    {parameters : RelevantParameters Value} (constructed : ofSamples sqrt samples = some parameters) :
    samples ≠ [] := by
  intro nothing
  rw [nothing, ofSamples_nil] at constructed
  cases constructed

/-- On samples of one month the constructor does not throw. -/
theorem ofSamples_month {samples : List (Sample Value)} {year month : Int} (sqrt : Value → Value)
    (nonempty : samples ≠ []) (ofMonth : OfMonth year month samples) :
    ∃ parameters, ofSamples sqrt samples = some parameters ∧ parameters.date = some ⟨year, month, 1⟩ ∧
      parameters.mean = mean (samples.map Prod.snd) ∧
        (samples.map Prod.snd).max? = some parameters.max ∧
          (samples.map Prod.snd).min? = some parameters.min := by
  have months : range (fields Datetime.month (samples.map Prod.fst)) = some 0 := by
    apply range_fields nonempty
    intro sample member
    obtain ⟨time, isTime, _, isMonth⟩ := ofMonth sample member
    exact ⟨time, isTime, isMonth⟩
  have years : range (fields Datetime.year (samples.map Prod.fst)) = some 0 := by
    apply range_fields nonempty
    intro sample member
    obtain ⟨time, isTime, isYear, _⟩ := ofMonth sample member
    exact ⟨time, isTime, isYear⟩
  cases samples with
  | nil => exact absurd rfl nonempty
  | cons first rest =>
    obtain ⟨time, isTime, rfl, rfl⟩ := ofMonth first (.head _)
    obtain ⟨max, isMax⟩ := Option.isSome_iff_exists.mp
      (List.isSome_max?_of_ne_nil (List.cons_ne_nil first.2 (rest.map Prod.snd)))
    obtain ⟨min, isMin⟩ := Option.isSome_iff_exists.mp
      (List.isSome_min?_of_ne_nil (List.cons_ne_nil first.2 (rest.map Prod.snd)))
    rw [List.map_cons] at months years
    rw [ofSamples, relevantParameters, List.map_cons, List.map_cons, if_neg (by simp), months, years]
    simp only [Option.bind_eq_bind, Option.bind_some, List.head?_cons, isTime, isMax, isMin]
    exact ⟨_, rfl, rfl, rfl, rfl, rfl⟩

/-! ## `create_array_day` -/

section Loops

variable (sqrt : Value → Value) (dayOfNumber : Value → Int)

def groupDay (indexYear indexMonth : Int) (samplesMonth : List (Sample Value)) (arrays : Arrays Value)
    (indexDay : Int) : Option (Arrays Value) :=
  let samplesDay := selectIndexDay indexDay samplesMonth
  if samplesDay ≠ [] then do
    let currentValue ← ofSamples sqrt samplesDay
    some { arrays with
      timetableDay := arrays.timetableDay ++ [(⟨indexYear, indexMonth, indexDay⟩, currentValue)] }
  else some arrays

def groupMonth (indexYear : Int) (samplesYear : List (Sample Value)) (arrays : Arrays Value)
    (indexMonth : Int) : Option (Arrays Value) := do
  let samplesMonth := selectIndexMonth indexMonth samplesYear
  let arrays ←
    if samplesMonth ≠ [] then do
      let current ← ofSamples sqrt samplesMonth
      some { arrays with arrayRelevantParameters := arrays.arrayRelevantParameters ++ [current] }
    else some arrays
  (days dayOfNumber samplesMonth).foldlM (groupDay sqrt indexYear indexMonth samplesMonth) arrays

def groupYear (samples : List (Sample Value)) (arrays : Arrays Value) (indexYear : Int) :
    Option (Arrays Value) :=
  let samplesYear := selectIndexYear indexYear samples
  (months samplesYear).foldlM (groupMonth sqrt dayOfNumber indexYear samplesYear) arrays

/-- Nothing, when an error is thrown. -/
def createArrayDay (timeVector : List (Option Datetime)) (dataVector : List (Option Value)) :
    Option (Arrays Value) :=
  if timeVector.length ≠ dataVector.length then none
  else
    let samples := removeNan timeVector dataVector
    (years samples).foldlM (groupYear sqrt dayOfNumber samples) ⟨[], []⟩

end Loops

/-! ## What the loops append -/

def Arrays.more (arrays : Arrays Value) (entries : List (RelevantParameters Value))
    (rows : List (Datetime × RelevantParameters Value)) : Arrays Value :=
  ⟨arrays.arrayRelevantParameters ++ entries, arrays.timetableDay ++ rows⟩

/-- The entry of a month, if it has samples. -/
def monthEntries (sqrt : Value → Value) (samplesYear : List (Sample Value)) (month : Int) :
    List (RelevantParameters Value) :=
  (ofSamples sqrt (selectIndexMonth month samplesYear)).toList

/-- The row of a day, if it has samples. -/
def dayRows (sqrt : Value → Value) (samplesMonth : List (Sample Value)) (date : Datetime) :
    List (Datetime × RelevantParameters Value) :=
  (ofSamples sqrt (selectIndexDay date.day samplesMonth)).toList.map fun parameters => (date, parameters)

def yearEntries (sqrt : Value → Value) (samples : List (Sample Value)) (year : Int) :
    List (RelevantParameters Value) :=
  (months (selectIndexYear year samples)).flatMap (monthEntries sqrt (selectIndexYear year samples))

def monthRows (sqrt : Value → Value) (dayOfNumber : Value → Int) (samplesYear : List (Sample Value))
    (year month : Int) : List (Datetime × RelevantParameters Value) :=
  (days dayOfNumber (selectIndexMonth month samplesYear)).flatMap fun day =>
    dayRows sqrt (selectIndexMonth month samplesYear) ⟨year, month, day⟩

def yearRows (sqrt : Value → Value) (dayOfNumber : Value → Int) (samples : List (Sample Value))
    (year : Int) : List (Datetime × RelevantParameters Value) :=
  (months (selectIndexYear year samples)).flatMap
    (monthRows sqrt dayOfNumber (selectIndexYear year samples) year)

section Appended

variable {sqrt : Value → Value} {dayOfNumber : Value → Int} {year month : Int}
  {samplesYear samplesMonth : List (Sample Value)}

omit [Field Value] [LinearOrder Value] in
/-- A loop of which every pass appends. -/
theorem foldlM_more {indices : List Int} {body : Arrays Value → Int → Option (Arrays Value)}
    {entries : Int → List (RelevantParameters Value)}
    {rows : Int → List (Datetime × RelevantParameters Value)}
    (pass : ∀ arrays, ∀ index ∈ indices, body arrays index = some (arrays.more (entries index) (rows index)))
    (arrays : Arrays Value) : indices.foldlM body arrays =
      some (arrays.more (indices.flatMap entries) (indices.flatMap rows)) := by
  induction indices generalizing arrays with
  | nil => simp [Arrays.more]
  | cons index indices inductionHypothesis =>
    rw [List.foldlM_cons, pass arrays index (.head _)]
    have later := inductionHypothesis (fun arrays index member => pass arrays index (.tail _ member))
      (arrays.more (entries index) (rows index))
    rw [Option.bind_eq_bind, Option.bind_some, later]
    simp [Arrays.more]

theorem groupDay_more (ofMonth : OfMonth year month samplesMonth) (arrays : Arrays Value) (day : Int) :
    groupDay sqrt year month samplesMonth arrays day =
      some (arrays.more [] (dayRows sqrt samplesMonth ⟨year, month, day⟩)) := by
  by_cases nothing : selectIndexDay day samplesMonth = []
  · simp [groupDay, Arrays.more, dayRows, nothing]
  · obtain ⟨parameters, constructed, _⟩ := ofSamples_month sqrt nothing (ofMonth.selectIndexDay day)
    simp [groupDay, Arrays.more, dayRows, nothing, constructed]

theorem foldlM_groupDay (ofMonth : OfMonth year month samplesMonth) (indices : List Int)
    (arrays : Arrays Value) : indices.foldlM (groupDay sqrt year month samplesMonth) arrays =
      some (arrays.more [] (indices.flatMap fun day => dayRows sqrt samplesMonth ⟨year, month, day⟩)) := by
  rw [foldlM_more fun arrays day _ => groupDay_more ofMonth arrays day]
  simp [Arrays.more]

theorem groupMonth_more (ofMonth : OfMonth year month (selectIndexMonth month samplesYear))
    (arrays : Arrays Value) : groupMonth sqrt dayOfNumber year samplesYear arrays month =
      some (arrays.more (monthEntries sqrt samplesYear month)
        (monthRows sqrt dayOfNumber samplesYear year month)) := by
  simp only [groupMonth, foldlM_groupDay ofMonth]
  by_cases nothing : selectIndexMonth month samplesYear = []
  · simp [Arrays.more, monthEntries, monthRows, nothing]
  · obtain ⟨parameters, constructed, _⟩ := ofSamples_month sqrt nothing ofMonth
    simp [Arrays.more, monthEntries, monthRows, nothing, constructed]

theorem groupYear_more (samples : List (Sample Value)) (arrays : Arrays Value) (year : Int) :
    groupYear sqrt dayOfNumber samples arrays year =
      some (arrays.more (yearEntries sqrt samples year) (yearRows sqrt dayOfNumber samples year)) :=
  foldlM_more (fun arrays month _ => groupMonth_more (ofMonth_select year month samples) arrays) arrays

end Appended

/-- Vectors of one length have an entry for a month, and a row for a day that the loops come to. -/
theorem createArrayDay_eq (sqrt : Value → Value) (dayOfNumber : Value → Int)
    {timeVector : List (Option Datetime)} {dataVector : List (Option Value)}
    (sizes : timeVector.length = dataVector.length) :
    createArrayDay sqrt dayOfNumber timeVector dataVector = some {
      arrayRelevantParameters := (years (removeNan timeVector dataVector)).flatMap
        (yearEntries sqrt (removeNan timeVector dataVector))
      timetableDay := (years (removeNan timeVector dataVector)).flatMap
        (yearRows sqrt dayOfNumber (removeNan timeVector dataVector)) } := by
  rw [createArrayDay, if_neg (not_not_intro sizes)]
  exact foldlM_more (fun arrays year _ => groupYear_more _ arrays year) ⟨[], []⟩

end PlhrFirmware.Analysis
