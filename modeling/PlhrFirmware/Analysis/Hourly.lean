import Mathlib.Algebra.BigOperators.Group.List.Basic
import Mathlib.Data.List.FinRange
import PlhrFirmware.Analysis.Monthly

/-! # The arrays of the hours

`ArrayRelevantParameters.create_array_hour` has one array for each hour of the day, and
`create_array_day` one array for all hours.  What the arrays of the hours have for a month is taken
together what the other array has for it.
-/

namespace PlhrFirmware.Analysis

open PlhrFirmware.Lib

/-! ## `create_array_hour` -/

/-- A time with its hour. -/
abbrev Instant := Datetime × Fin 24

variable {Value : Type}

/-- The entries of one hour; a time that is not one has no hour. -/
def selectHour (indexHour : Fin 24) (timeVector : List (Option Instant)) (dataVector : List (Option Value)) :
    List (Option Datetime) × List (Option Value) :=
  let selected := (timeVector.zip dataVector).filter fun entry => entry.1.map Prod.snd = some indexHour
  (selected.map fun entry => entry.1.map Prod.fst, selected.map Prod.snd)

/-- The array of each hour, from the first output for the entries of the hour. -/
def createArrayHour [Field Value] [LinearOrder Value] (sqrt : Value → Value) (dayOfNumber : Value → Int)
    (timeVector : List (Option Instant)) (dataVector : List (Option Value)) :
    Option (List (List (RelevantParameters Value))) :=
  if timeVector.length ≠ dataVector.length then none
  else (List.finRange 24).mapM fun indexHour =>
    let (timeVectorHour, dataVectorHour) := selectHour indexHour timeVector dataVector
    (createArrayDay sqrt dayOfNumber timeVectorHour dataVectorHour).map Arrays.arrayRelevantParameters

def datesOf (timeVector : List (Option Instant)) : List (Option Datetime) :=
  timeVector.map fun time => time.map Prod.fst

/-- The samples that `create_array_day` is given for an hour. -/
def samplesOfHour (indexHour : Fin 24) (timeVector : List (Option Instant))
    (dataVector : List (Option Value)) : List (Sample Value) :=
  removeNan (selectHour indexHour timeVector dataVector).1 (selectHour indexHour timeVector dataVector).2

section Hours

variable {timeVector : List (Option Instant)} {dataVector : List (Option Value)} {date : Datetime}

/-- The sample of an entry, if its value is a number. -/
def sampleOf (entry : Option Instant × Option Value) : Option (Sample Value) :=
  entry.2.map fun value => (entry.1.map Prod.fst, value)

theorem removeNan_datesOf :
    removeNan (datesOf timeVector) dataVector = (timeVector.zip dataVector).filterMap sampleOf := by
  rw [removeNan, datesOf, List.zip_map_left, List.filterMap_map]
  rfl

theorem samplesOfHour_eq (indexHour : Fin 24) : samplesOfHour indexHour timeVector dataVector =
    ((timeVector.zip dataVector).filter fun entry =>
      entry.1.map Prod.snd = some indexHour).filterMap sampleOf := by
  rw [samplesOfHour, removeNan, selectHour, List.zip_map', List.filterMap_map]
  rfl

theorem samplesOfMonth_filterMap (entries : List (Option Instant × Option Value)) :
    samplesOfMonth date (entries.filterMap sampleOf) =
      entries.filterMap fun entry => (sampleOf entry).filter fun sample => sample.monthOf = some date :=
  List.filter_filterMap

/-- The samples of a month are those of its hours. -/
theorem samplesOfHour_perm (date : Datetime) (timeVector : List (Option Instant))
    (dataVector : List (Option Value)) : ((List.finRange 24).flatMap fun indexHour =>
        samplesOfMonth date (samplesOfHour indexHour timeVector dataVector)).Perm
      (samplesOfMonth date (removeNan (datesOf timeVector) dataVector)) := by
  have hours : ∀ entry ∈ timeVector.zip dataVector, ∀ index ∈ entry.1.map Prod.snd,
      index ∈ List.finRange 24 := fun _ _ index _ => List.mem_finRange index
  have together := (buckets_perm (List.nodup_finRange 24) hours).filterMap fun entry =>
    (sampleOf entry).filter fun sample => sample.monthOf = some date
  have timed : ∀ entry : Option Instant × Option Value, (if (entry.1.map Prod.snd).isSome then
      (sampleOf entry).filter fun sample => sample.monthOf = some date else none) =
        (sampleOf entry).filter fun sample => sample.monthOf = some date := by
    intro entry
    obtain ⟨time, value⟩ := entry
    cases time with
    | none => cases value <;> rfl
    | some time => rfl
  rw [List.filterMap_flatMap, List.filterMap_filter] at together
  simp only [samplesOfHour_eq, removeNan_datesOf, samplesOfMonth_filterMap]
  simpa only [timed] using together

/-- The values of a month, hour for hour. -/
def valuesOfHours (date : Datetime) (timeVector : List (Option Instant)) (dataVector : List (Option Value)) :
    List (List Value) :=
  (List.finRange 24).map fun indexHour =>
    (samplesOfMonth date (samplesOfHour indexHour timeVector dataVector)).map Prod.snd

theorem valuesOfHours_perm (date : Datetime) (timeVector : List (Option Instant))
    (dataVector : List (Option Value)) : (valuesOfHours date timeVector dataVector).flatten.Perm
      ((samplesOfMonth date (removeNan (datesOf timeVector) dataVector)).map Prod.snd) := by
  have together := (samplesOfHour_perm date timeVector dataVector).map Prod.snd
  rwa [List.map_flatMap, List.flatMap_def] at together

end Hours

/-- Vectors of one length have an array for each hour. -/
theorem createArrayHour_eq [Field Value] [LinearOrder Value] (sqrt : Value → Value)
    (dayOfNumber : Value → Int) {timeVector : List (Option Instant)} {dataVector : List (Option Value)}
    (sizes : timeVector.length = dataVector.length) :
    createArrayHour sqrt dayOfNumber timeVector dataVector = some ((List.finRange 24).map fun indexHour =>
      (years (samplesOfHour indexHour timeVector dataVector)).flatMap
        (yearEntries sqrt (samplesOfHour indexHour timeVector dataVector))) := by
  have hour : ∀ indexHour, (createArrayDay sqrt dayOfNumber (selectHour indexHour timeVector dataVector).1
      (selectHour indexHour timeVector dataVector).2).map Arrays.arrayRelevantParameters =
        some ((years (samplesOfHour indexHour timeVector dataVector)).flatMap
          (yearEntries sqrt (samplesOfHour indexHour timeVector dataVector))) := by
    intro indexHour
    have sizesHour : (selectHour indexHour timeVector dataVector).1.length =
        (selectHour indexHour timeVector dataVector).2.length := by
      rw [selectHour, List.length_map, List.length_map]
    rw [createArrayDay_eq sqrt dayOfNumber sizesHour]
    rfl
  rw [createArrayHour, if_neg (not_not_intro sizes)]
  simp only [hour]
  exact List.mapM_pure

/-! ## The entries of the hours for a month -/

def entriesAt (date : Datetime) (array : List (RelevantParameters Value)) : List (RelevantParameters Value) :=
  array.filter fun entry => entry.date = some date

variable [Field Value] [LinearOrder Value]

/-- What the hours have for a month gives the entry of all hours: the extremes are among those of the
hours, and the mean is that of the hours, each as often as it has samples. -/
structure Recombines (timeVector : List (Option Instant)) (dataVector : List (Option Value))
    (ofHour : Fin 24 → List (RelevantParameters Value)) (array : List (RelevantParameters Value)) : Prop where
  months : ∀ date, date ∈ dates array ↔ ∃ indexHour, date ∈ dates (ofHour indexHour)
  greatest : ∀ entry ∈ array, ∀ date ∈ entry.date,
    (((List.finRange 24).flatMap fun indexHour =>
      entriesAt date (ofHour indexHour)).map RelevantParameters.max).max? = some entry.max
  least : ∀ entry ∈ array, ∀ date ∈ entry.date,
    (((List.finRange 24).flatMap fun indexHour =>
      entriesAt date (ofHour indexHour)).map RelevantParameters.min).min? = some entry.min
  weighted : ∀ entry ∈ array, ∀ date ∈ entry.date,
    ((List.finRange 24).map fun indexHour =>
      ((samplesOfMonth date (samplesOfHour indexHour timeVector dataVector)).length : Value) *
        ((entriesAt date (ofHour indexHour)).map RelevantParameters.mean).sum).sum =
      (samplesOfMonth date (removeNan (datesOf timeVector) dataVector)).length * entry.mean

section Entries

variable {samples : List (Sample Value)} {array : List (RelevantParameters Value)} {date : Datetime}

/-- There is one entry for a month with samples, and none for another. -/
theorem entriesAt_cases (exact : MonthsExact samples array) (date : Datetime) :
    (samplesOfMonth date samples = [] ∧ entriesAt date array = []) ∨
      samplesOfMonth date samples ≠ [] ∧ ∃ entry, entriesAt date array = [entry] ∧
        entry.mean = mean ((samplesOfMonth date samples).map Prod.snd) ∧
          ((samplesOfMonth date samples).map Prod.snd).max? = some entry.max ∧
            ((samplesOfMonth date samples).map Prod.snd).min? = some entry.min := by
  by_cases member : date ∈ dates array
  · obtain ⟨entry, inside, isDate, only⟩ := filter_eq_singleton (nodup_of_ordered exact.ordered) member
    obtain ⟨date', isDate', computed⟩ := exact.computed entry inside
    cases isDate.symm.trans isDate'
    exact .inr ⟨(exact.complete date).mp member, entry, only, computed⟩
  · have nothing : entriesAt date array = [] := by
      apply List.filter_eq_nil_iff.mpr
      intro entry inside isDate
      exact member (List.mem_filterMap.mpr ⟨entry, inside, of_decide_eq_true isDate⟩)
    exact .inl ⟨not_not.mp (mt (exact.complete date).mpr member), nothing⟩

theorem map_max_entriesAt (exact : MonthsExact samples array) :
    (entriesAt date array).map RelevantParameters.max =
      ((samplesOfMonth date samples).map Prod.snd).max?.toList := by
  obtain ⟨nothing, noEntry⟩ | ⟨_, entry, only, _, isMax, _⟩ := entriesAt_cases exact date
  · rw [nothing, noEntry]
    rfl
  · rw [only, isMax]
    rfl

theorem map_min_entriesAt (exact : MonthsExact samples array) :
    (entriesAt date array).map RelevantParameters.min =
      ((samplesOfMonth date samples).map Prod.snd).min?.toList := by
  obtain ⟨nothing, noEntry⟩ | ⟨_, entry, only, _, _, isMin⟩ := entriesAt_cases exact date
  · rw [nothing, noEntry]
    rfl
  · rw [only, isMin]
    rfl

theorem sum_mean_entriesAt (exact : MonthsExact samples array) :
    ((entriesAt date array).map RelevantParameters.mean).sum =
      mean ((samplesOfMonth date samples).map Prod.snd) := by
  obtain ⟨nothing, noEntry⟩ | ⟨_, entry, only, isMean, _⟩ := entriesAt_cases exact date
  · rw [nothing, noEntry]
    simp [mean]
  · rw [only, ← isMean]
    simp

end Entries

section Recombined

variable {timeVector : List (Option Instant)} {dataVector : List (Option Value)}
  {ofHour : Fin 24 → List (RelevantParameters Value)} {array : List (RelevantParameters Value)}

theorem mem_dates_hours
    (exactHour : ∀ indexHour, MonthsExact (samplesOfHour indexHour timeVector dataVector) (ofHour indexHour))
    (exact : MonthsExact (removeNan (datesOf timeVector) dataVector) array) (date : Datetime) :
    date ∈ dates array ↔ ∃ indexHour, date ∈ dates (ofHour indexHour) := by
  rw [exact.complete]
  simp only [(exactHour _).complete]
  have together := samplesOfHour_perm date timeVector dataVector
  constructor
  · intro sampled
    obtain ⟨sample, member⟩ := List.exists_mem_of_ne_nil _ sampled
    obtain ⟨indexHour, _, ofHour⟩ := List.mem_flatMap.mp (together.mem_iff.mpr member)
    exact ⟨indexHour, List.ne_nil_of_mem ofHour⟩
  · intro hour
    obtain ⟨indexHour, sampled⟩ := hour
    obtain ⟨sample, member⟩ := List.exists_mem_of_ne_nil _ sampled
    exact List.ne_nil_of_mem (together.mem_iff.mp
      (List.mem_flatMap.mpr ⟨indexHour, List.mem_finRange indexHour, member⟩))

theorem recombines [IsStrictOrderedRing Value]
    (exactHour : ∀ indexHour, MonthsExact (samplesOfHour indexHour timeVector dataVector) (ofHour indexHour))
    (exact : MonthsExact (removeNan (datesOf timeVector) dataVector) array) :
    Recombines timeVector dataVector ofHour array where
  months := mem_dates_hours exactHour exact
  greatest entry inside date isDate := by
    obtain ⟨date', isDate', _, isMax, _⟩ := exact.computed entry inside
    cases isDate.symm.trans isDate'
    have ofParts := max?_of_parts (valuesOfHours_perm date timeVector dataVector) isMax
    rw [valuesOfHours, List.filterMap_map] at ofParts
    rw [List.map_flatMap]
    simp only [map_max_entriesAt (exactHour _)]
    rwa [List.filterMap_eq_flatMap_toList] at ofParts
  least entry inside date isDate := by
    obtain ⟨date', isDate', _, _, isMin⟩ := exact.computed entry inside
    cases isDate.symm.trans isDate'
    have ofParts := min?_of_parts (valuesOfHours_perm date timeVector dataVector) isMin
    rw [valuesOfHours, List.filterMap_map] at ofParts
    rw [List.map_flatMap]
    simp only [map_min_entriesAt (exactHour _)]
    rwa [List.filterMap_eq_flatMap_toList] at ofParts
  weighted entry inside date isDate := by
    obtain ⟨date', isDate', isMean, isMax, _⟩ := exact.computed entry inside
    cases isDate.symm.trans isDate'
    have ofParts := sum_of_parts (valuesOfHours_perm date timeVector dataVector)
    have nonempty : (samplesOfMonth date (removeNan (datesOf timeVector) dataVector)).map Prod.snd ≠ [] := by
      intro nothing
      rw [nothing] at isMax
      cases isMax
    rw [← length_mul_mean nonempty, ← isMean, valuesOfHours, List.map_map, List.length_map] at ofParts
    rw [← ofParts]
    apply congrArg List.sum
    apply List.map_congr_left
    intro indexHour _
    rw [sum_mean_entriesAt (exactHour indexHour), Function.comp_apply, List.length_map]

end Recombined

/-- For all vectors of one length, every square root and every day of a number: the arrays of the hours
have the months of the array of all hours, and recombine to its entries. -/
theorem createArrayHour_recombines [IsStrictOrderedRing Value] (sqrt : Value → Value)
    (dayOfNumber : Value → Int) (timeVector : List (Option Instant)) (dataVector : List (Option Value))
    (sizes : timeVector.length = dataVector.length) :
    ∃ ofHour arrays,
      createArrayHour sqrt dayOfNumber timeVector dataVector = some ((List.finRange 24).map ofHour) ∧
        createArrayDay sqrt dayOfNumber (datesOf timeVector) dataVector = some arrays ∧
          (∀ indexHour, MonthsExact (samplesOfHour indexHour timeVector dataVector) (ofHour indexHour)) ∧
            Recombines timeVector dataVector ofHour arrays.arrayRelevantParameters := by
  have exactHour := fun indexHour => monthsExact sqrt (samplesOfHour indexHour timeVector dataVector)
  have exact := monthsExact sqrt (removeNan (datesOf timeVector) dataVector)
  have sizesDay : (datesOf timeVector).length = dataVector.length := by
    rw [datesOf, List.length_map, sizes]
  exact ⟨_, _, createArrayHour_eq sqrt dayOfNumber sizes, createArrayDay_eq sqrt dayOfNumber sizesDay, exactHour,
    recombines exactHour exact⟩

/-- March has samples of two hours, and one without a time. -/
theorem createArrayHour_recombines_march : ∃ ofHour arrays,
    createArrayHour Rat.sqrt (fun number => serialDay ⌊number⌋)
      [some (⟨2024, 3, 2⟩, 5), none, some (⟨2024, 3, 9⟩, 17)] [some 8, some 3, some (39 / 5)] =
        some ((List.finRange 24).map ofHour) ∧
    createArrayDay Rat.sqrt (fun number => serialDay ⌊number⌋) [some ⟨2024, 3, 2⟩, none, some ⟨2024, 3, 9⟩]
      [some 8, some 3, some (39 / 5)] = some arrays ∧
    ⟨2024, 3, 1⟩ ∈ dates arrays.arrayRelevantParameters ∧
    ⟨2024, 3, 1⟩ ∈ dates (ofHour 5) ∧ ⟨2024, 3, 1⟩ ∈ dates (ofHour 17) ∧
    Recombines [some (⟨2024, 3, 2⟩, 5), none, some (⟨2024, 3, 9⟩, 17)]
      [some 8, some 3, some (39 / 5)] ofHour arrays.arrayRelevantParameters := by
  obtain ⟨ofHour, arrays, createdHour, createdDay, exactHour, recombined⟩ :=
    createArrayHour_recombines Rat.sqrt (fun number => serialDay ⌊number⌋)
      [some (⟨2024, 3, 2⟩, 5), none, some (⟨2024, 3, 9⟩, 17)] [some 8, some 3, some (39 / 5)] rfl
  have five : ⟨2024, 3, 1⟩ ∈ dates (ofHour 5) :=
    ((exactHour 5).complete _).mpr (List.ne_nil_of_mem (mem_samplesOfMonth.mpr ⟨.head _, rfl⟩))
  have seventeen : ⟨2024, 3, 1⟩ ∈ dates (ofHour 17) :=
    ((exactHour 17).complete _).mpr (List.ne_nil_of_mem (mem_samplesOfMonth.mpr ⟨.head _, rfl⟩))
  exact ⟨ofHour, arrays, createdHour, createdDay, (recombined.months _).mpr ⟨5, five⟩, five, seventeen,
    recombined⟩

end PlhrFirmware.Analysis
