import Mathlib.Data.Int.Range
import Mathlib.Data.List.Basic
import Mathlib.Order.Basic

/-! # Buckets by a bounded key

The entries of a list by a key, which an entry may lack.  The keys are counted from the least one up
to a bound, so that some buckets are empty; with a bound that no key exceeds, none is missed.
-/

namespace PlhrFirmware.Lib

variable {Entry : Type*} {key : Entry → Option Int} {entries : List Entry} {index : Int}

/-- From the least of `lows` to the greatest of `highs`; nothing, if there is no such. -/
def colon (lows highs : List Int) : List Int :=
  match lows.min?, highs.max? with
  | some low, some high => Int.range low (high + 1)
  | _, _ => []

theorem mem_colon {lows highs : List Int} :
    index ∈ colon lows highs ↔ (∃ low ∈ lows, low ≤ index) ∧ ∃ high ∈ highs, index ≤ high := by
  unfold colon
  split
  · rename_i low high isLow isHigh
    obtain ⟨low', least⟩ := List.min?_eq_some_iff.mp isLow
    obtain ⟨high', greatest⟩ := List.max?_eq_some_iff.mp isHigh
    rw [Int.mem_range_iff, Int.lt_add_one_iff]
    constructor
    · exact fun within => ⟨⟨low, low', within.1⟩, high, high', within.2⟩
    · rintro ⟨⟨other, member, below⟩, other', member', above⟩
      exact ⟨(least other member).trans below, above.trans (greatest other' member')⟩
  · rename_i missing
    refine iff_of_false (by simp) ?_
    rintro ⟨⟨low, member, _⟩, high, member', _⟩
    obtain ⟨least, isLeast⟩ := Option.isSome_iff_exists.mp (List.isSome_min?_of_mem member)
    obtain ⟨greatest, isGreatest⟩ := Option.isSome_iff_exists.mp (List.isSome_max?_of_mem member')
    exact missing least greatest isLeast isGreatest

theorem colon_sorted (lows highs : List Int) : (colon lows highs).Pairwise (· < ·) := by
  unfold colon
  split
  · rw [Int.range, List.pairwise_map]
    exact List.pairwise_lt_range.imp fun less => by simpa using less
  · exact List.Pairwise.nil

/-- A loop whose passes are in order, each and one behind the other. -/
theorem pairwise_flatMap_colon {Output : Type*} {InOrder : Output → Output → Prop} {lows highs : List Int}
    {pass : Int → List Output} (within : ∀ index, (pass index).Pairwise InOrder)
    (behind : ∀ index later, index < later →
      ∀ first ∈ pass index, ∀ second ∈ pass later, InOrder first second) :
    ((colon lows highs).flatMap pass).Pairwise InOrder := by
  rw [List.pairwise_flatMap]
  constructor
  · intro index _
    exact within index
  · apply (colon_sorted lows highs).imp
    intro index later less
    exact behind index later less

def keys (key : Entry → Option Int) (entries : List Entry) : List Int := entries.filterMap key

def select (key : Entry → Option Int) (index : Int) (entries : List Entry) : List Entry :=
  entries.filter fun entry => key entry = some index

theorem mem_keys : index ∈ keys key entries ↔ ∃ entry ∈ entries, key entry = some index :=
  List.mem_filterMap

@[simp] theorem mem_select {entry : Entry} :
    entry ∈ select key index entries ↔ entry ∈ entries ∧ key entry = some index := by
  simp [select]

/-- A bucket that has an entry is among the keys counted up to the greatest. -/
theorem mem_colon_of_select {entry : Entry} (member : entry ∈ select key index entries) :
    index ∈ colon (keys key entries) (keys key entries) := by
  have isKey : index ∈ keys key entries := mem_keys.mpr ⟨entry, mem_select.mp member⟩
  exact mem_colon.mpr ⟨⟨index, isKey, le_rfl⟩, index, isKey, le_rfl⟩

/-! ## All buckets -/

section Partition

variable {Key : Type*} [DecidableEq Key] {ofKey : Entry → Option Key} {indices : List Key}

/-- The entries of one kind before those of another. -/
theorem filter_or_perm {kind other : Entry → Bool} (apart : ∀ entry, kind entry → ¬ other entry)
    (entries : List Entry) : (entries.filter kind ++ entries.filter other).Perm
      (entries.filter fun entry => kind entry || other entry) := by
  have ofKind : entries.filter kind =
      (entries.filter fun entry => kind entry || other entry).filter kind := by
    rw [List.filter_filter]
    apply List.filter_congr
    intro entry _
    cases kind entry <;> simp
  have ofOther : entries.filter other =
      (entries.filter fun entry => kind entry || other entry).filter fun entry => ! kind entry := by
    rw [List.filter_filter]
    apply List.filter_congr
    intro entry _
    cases isKind : kind entry with
    | true => simpa using apart entry isKind
    | false => simp
  rw [ofKind, ofOther]
  exact List.filter_append_perm _ _

/-- The buckets of distinct keys are together the entries with one of the keys. -/
theorem buckets_perm_any (distinct : indices.Nodup) :
    (indices.flatMap fun index => entries.filter fun entry => ofKey entry = some index).Perm
      (entries.filter fun entry => indices.any fun index => ofKey entry = some index) := by
  induction indices with
  | nil => simp
  | cons first indices inductionHypothesis =>
    obtain ⟨outside, distinct⟩ := List.nodup_cons.mp distinct
    have apart : ∀ entry, decide (ofKey entry = some first) →
        ¬ indices.any fun index => ofKey entry = some index := by
      intro entry isFirst again
      obtain ⟨index, member, isIndex⟩ := List.any_eq_true.mp again
      cases (of_decide_eq_true isFirst).symm.trans (of_decide_eq_true isIndex)
      exact outside member
    rw [List.flatMap_cons]
    exact ((inductionHypothesis distinct).append_left _).trans (filter_or_perm apart entries)

/-- If these are all keys, they are together the entries that have a key. -/
theorem buckets_perm (distinct : indices.Nodup)
    (covers : ∀ entry ∈ entries, ∀ index ∈ ofKey entry, index ∈ indices) :
    (indices.flatMap fun index => entries.filter fun entry => ofKey entry = some index).Perm
      (entries.filter fun entry => (ofKey entry).isSome) := by
  have keyed : (entries.filter fun entry => indices.any fun index => ofKey entry = some index) =
      entries.filter fun entry => (ofKey entry).isSome := by
    apply List.filter_congr
    intro entry member
    cases isKey : ofKey entry with
    | none => simp
    | some index => simpa using covers entry member index isKey
  rw [← keyed]
  exact buckets_perm_any distinct

/-- A key of entries with distinct keys is that of one of them. -/
theorem filter_eq_singleton {index : Key} (distinct : (entries.filterMap ofKey).Nodup)
    (member : index ∈ entries.filterMap ofKey) :
    ∃ entry ∈ entries, ofKey entry = some index ∧
      (entries.filter fun entry => ofKey entry = some index) = [entry] := by
  induction entries with
  | nil => cases member
  | cons entry entries inductionHypothesis =>
    cases isKey : ofKey entry with
    | none =>
      rw [List.filterMap_cons_none isKey] at distinct member
      obtain ⟨other, inside, same, only⟩ := inductionHypothesis distinct member
      exact ⟨other, .tail _ inside, same, by simpa [isKey] using only⟩
    | some first =>
      rw [List.filterMap_cons_some isKey] at distinct member
      obtain ⟨outside, distinct⟩ := List.nodup_cons.mp distinct
      by_cases same : first = index
      · subst same
        have nothing : entries.filter (fun entry => ofKey entry = some first) = [] := by
          apply List.filter_eq_nil_iff.mpr
          intro other inside again
          exact outside (List.mem_filterMap.mpr ⟨other, inside, of_decide_eq_true again⟩)
        exact ⟨entry, .head _, isKey, by rw [List.filter_cons_of_pos (by simp [isKey]), nothing]⟩
      · have later : index ∈ entries.filterMap ofKey := by
          cases member with
          | head => exact absurd rfl same
          | tail _ later => exact later
        obtain ⟨other, inside, isOther, only⟩ := inductionHypothesis distinct later
        exact ⟨other, .tail _ inside, isOther, by simpa [isKey, same] using only⟩

/-- Something for each entry. -/
theorem mapM_forall₂ {Value : Type*} {lookup : Entry → Option Value} {Found : Entry → Value → Prop}
    (each : ∀ entry ∈ entries, ∃ value, lookup entry = some value ∧ Found entry value) :
    ∃ values, entries.mapM lookup = some values ∧ List.Forall₂ Found entries values := by
  induction entries with
  | nil => exact ⟨[], rfl, .nil⟩
  | cons entry entries inductionHypothesis =>
    obtain ⟨value, isValue, found⟩ := each entry (.head _)
    obtain ⟨values, later, all⟩ := inductionHypothesis fun other member => each other (.tail _ member)
    exact ⟨value :: values, by simp [isValue, later], .cons found all⟩

end Partition

end PlhrFirmware.Lib
