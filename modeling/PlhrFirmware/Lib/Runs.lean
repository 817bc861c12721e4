import Mathlib.Data.List.SplitBy

/-! # Maximal runs

The maximal runs of the entries of a list that share a key.  `IsRun` says what they are, and they
are the groups of `List.splitBy` at the places that `places` gives them (`isRun_iff`), in order
(`places_sorted`).
-/

namespace PlhrFirmware.Lib

variable {Entry Key : Type*} {key : Entry → Key}

/-- The entries from `start` on share a key, which neither the entry before nor the one behind
has. -/
def IsRun (key : Entry → Key) (entries : List Entry) (start : Nat) (run : List Entry) : Prop :=
  ∃ before after shared, entries = before ++ (run ++ after) ∧ before.length = start ∧ run ≠ [] ∧
    (∀ entry ∈ run, key entry = shared) ∧ (∀ entry ∈ before.getLast?, key entry ≠ shared) ∧
      ∀ entry ∈ after.head?, key entry ≠ shared

/-- Each group with the index of its first entry, from `start` on. -/
def places : Nat → List (List Entry) → List (Nat × List Entry)
  | _, [] => []
  | start, group :: groups => (start, group) :: places (start + group.length) groups

theorem places_append (front back : List (List Entry)) (start : Nat) :
    places start (front ++ back) = places start front ++ places (start + front.flatten.length) back := by
  induction front generalizing start with
  | nil => rfl
  | cons group front inductionHypothesis =>
    rw [List.cons_append, places, places, inductionHypothesis, List.flatten_cons, List.length_append,
      Nat.add_assoc]
    rfl

theorem mem_places {groups : List (List Entry)} {offset start : Nat} {run : List Entry} :
    (start, run) ∈ places offset groups ↔
      ∃ front back, groups = front ++ run :: back ∧ start = offset + front.flatten.length := by
  induction groups generalizing offset with
  | nil => simp [places]
  | cons group groups inductionHypothesis =>
    rw [places, List.mem_cons, inductionHypothesis]
    constructor
    · rintro (same | ⟨front, back, rfl, rfl⟩)
      · cases same
        exact ⟨[], groups, rfl, rfl⟩
      · exact ⟨group :: front, back, rfl, by simp [Nat.add_assoc]⟩
    · rintro ⟨front, back, parts, rfl⟩
      cases front with
      | nil =>
        cases parts
        exact .inl rfl
      | cons first front =>
        cases parts
        exact .inr ⟨front, back, rfl, by simp [Nat.add_assoc]⟩

theorem mem_of_mem_places {groups : List (List Entry)} {offset start : Nat} {run : List Entry}
    (member : (start, run) ∈ places offset groups) : run ∈ groups := by
  obtain ⟨front, back, rfl, _⟩ := mem_places.mp member
  exact List.mem_append_right front (List.mem_cons_self ..)

theorem places_sorted {groups : List (List Entry)} (nonempty : [] ∉ groups) (offset : Nat) :
    (places offset groups).Pairwise fun first second => first.1 < second.1 := by
  induction groups generalizing offset with
  | nil => exact .nil
  | cons group groups inductionHypothesis =>
    simp only [List.mem_cons, not_or] at nonempty
    refine List.pairwise_cons.mpr ⟨?_, inductionHypothesis nonempty.2 _⟩
    rintro ⟨start, run⟩ member
    obtain ⟨_, _, _, rfl⟩ := mem_places.mp member
    have positive := List.length_pos_iff.mpr (Ne.symm nonempty.1)
    simp only
    omega

theorem isChain_of_shared {run : List Entry} {shared : Key} (all : ∀ entry ∈ run, key entry = shared) :
    run.IsChain fun first second => key first = key second := by
  refine List.isChain_iff_forall_rel_of_append_cons_cons.mpr ?_
  rintro first second before after rfl
  exact (all first (by simp)).trans (all second (by simp)).symm

theorem shared_of_isChain {first : Entry} {run : List Entry}
    (chain : (first :: run).IsChain fun first second => key first = key second) :
    ∀ entry ∈ first :: run, key entry = key first := by
  induction run generalizing first with
  | nil => simp
  | cons second run inductionHypothesis =>
    obtain ⟨same, rest⟩ := List.isChain_cons_cons.mp chain
    rw [List.forall_mem_cons]
    exact ⟨rfl, fun entry member => (inductionHypothesis rest entry member).trans same.symm⟩

/-! ## Groups -/

section Flatten

variable {front back : List (List Entry)}

theorem exists_of_head?_flatten (nonempty : [] ∉ back) {next : Entry} (isNext : next ∈ back.flatten.head?) :
    ∃ group rest, back = group :: rest ∧ next ∈ group.head? := by
  cases back with
  | nil => cases isNext
  | cons group back =>
    have groupNonempty : group ≠ [] := fun nothing => nonempty (nothing ▸ List.mem_cons_self ..)
    rw [List.flatten_cons, List.head?_append_of_ne_nil group groupNonempty] at isNext
    exact ⟨group, back, rfl, isNext⟩

theorem exists_of_getLast?_flatten (nonempty : [] ∉ front) {last : Entry}
    (isLast : last ∈ front.flatten.getLast?) :
    ∃ rest group, front = rest ++ [group] ∧ last ∈ group.getLast? := by
  cases front.eq_nil_or_concat with
  | inl nothing =>
    subst nothing
    cases isLast
  | inr some =>
    obtain ⟨rest, group, rfl⟩ := some
    have groupNonempty : group ≠ [] := by
      rintro rfl
      exact nonempty (by simp)
    rw [List.concat_eq_append, List.flatten_append, List.flatten_singleton,
      List.getLast?_append_of_ne_nil _ groupNonempty] at isLast
    exact ⟨rest, group, List.concat_eq_append, isLast⟩

end Flatten

variable [DecidableEq Key]

def groups (key : Entry → Key) (entries : List Entry) : List (List Entry) :=
  entries.splitBy fun first second => key first = key second

section Groups

variable {entries group front back run : List Entry}

theorem flatten_groups (key : Entry → Key) (entries : List Entry) :
    (groups key entries).flatten = entries := List.flatten_splitBy _ _

theorem nil_notMem_groups (key : Entry → Key) (entries : List Entry) : [] ∉ groups key entries :=
  List.nil_notMem_splitBy _ _

theorem shared_of_mem_groups (member : group ∈ groups key entries) :
    ∃ shared, ∀ entry ∈ group, key entry = shared := by
  have chain := List.isChain_of_mem_splitBy member
  cases group with
  | nil => exact absurd member (nil_notMem_groups key entries)
  | cons first rest => exact ⟨key first, shared_of_isChain (by simpa using chain)⟩

/-- The keys differ where two groups meet. -/
theorem groups_meet {first second : List Entry} {front back : List (List Entry)}
    (parts : groups key entries = front ++ first :: second :: back) :
    ∀ last ∈ first.getLast?, ∀ next ∈ second.head?, key last ≠ key next := by
  have chain := List.isChain_getLast_head_splitBy
    (fun first second => decide (key first = key second)) entries
  rw [show entries.splitBy _ = _ from parts] at chain
  have both := (List.isChain_append_cons_cons.mp chain).2.1
  obtain ⟨nonempty, nonempty', differ⟩ := both
  intro last isLast next isNext
  rw [List.getLast?_eq_getLast_of_ne_nil nonempty] at isLast
  rw [List.head?_eq_some_head nonempty'] at isNext
  cases isLast
  cases isNext
  exact of_decide_eq_false differ

theorem groups_append (differ : ∀ last ∈ front.getLast?, ∀ next ∈ back.head?, key last ≠ key next) :
    groups key (front ++ back) = groups key front ++ groups key back :=
  List.splitBy_append fun last isLast next isNext => decide_eq_false (differ last isLast next isNext)

theorem groups_of_shared {shared : Key} (nonempty : run ≠ [])
    (all : ∀ entry ∈ run, key entry = shared) : groups key run = [run] :=
  List.splitBy_of_isChain nonempty (by simpa using isChain_of_shared all)

end Groups

/-- A run is a group, at its place. -/
theorem IsRun.mem_places {entries : List Entry} {start : Nat} {run : List Entry}
    (isRun : IsRun key entries start run) : (start, run) ∈ places 0 (groups key entries) := by
  obtain ⟨before, after, shared, rfl, rfl, nonempty, all, left, right⟩ := isRun
  have first : ∀ last ∈ before.getLast?, ∀ next ∈ (run ++ after).head?, key last ≠ key next := by
    intro last isLast next isNext
    rw [List.head?_append_of_ne_nil run nonempty] at isNext
    rw [all next (List.mem_of_mem_head? isNext)]
    exact left last isLast
  have second : ∀ last ∈ run.getLast?, ∀ next ∈ after.head?, key last ≠ key next := by
    intro last isLast next isNext
    rw [all last (List.mem_of_getLast? isLast)]
    exact (right next isNext).symm
  refine Lib.mem_places.mpr ⟨groups key before, groups key after, ?_, ?_⟩
  · rw [groups_append first, groups_append second, groups_of_shared nonempty all]
    rfl
  · rw [flatten_groups, Nat.zero_add]

/-- A group is a run, at its place. -/
theorem isRun_of_mem_places {entries : List Entry} {start : Nat} {run : List Entry}
    (place : (start, run) ∈ places 0 (groups key entries)) : IsRun key entries start run := by
  obtain ⟨front, back, parts, rfl⟩ := mem_places.mp place
  have whole := flatten_groups key entries
  rw [parts, List.flatten_append, List.flatten_cons] at whole
  have member : run ∈ groups key entries := mem_of_mem_places place
  have nonempty := nil_notMem_groups key entries
  have runNonempty : run ≠ [] := fun nothing => nonempty (nothing ▸ member)
  rw [parts, List.mem_append, List.mem_cons, not_or, not_or] at nonempty
  obtain ⟨shared, all⟩ := shared_of_mem_groups member
  refine ⟨front.flatten, back.flatten, shared, whole.symm, (Nat.zero_add _).symm, runNonempty, all,
    ?_, ?_⟩
  · intro last isLast
    obtain ⟨rest, group, rfl, isLast'⟩ := exists_of_getLast?_flatten nonempty.1 isLast
    rw [List.append_assoc] at parts
    rw [← all (run.head runNonempty) (List.head_mem runNonempty)]
    exact groups_meet parts last isLast' _ (List.head_mem_head? runNonempty)
  · intro next isNext
    obtain ⟨group, rest, rfl, isNext'⟩ := exists_of_head?_flatten nonempty.2.2 isNext
    rw [← all (run.getLast runNonempty) (List.getLast_mem runNonempty)]
    exact (groups_meet parts _ (List.getLast_mem_getLast? runNonempty) next isNext').symm

/-- The runs are the groups at their places. -/
theorem isRun_iff {entries : List Entry} {start : Nat} {run : List Entry} :
    IsRun key entries start run ↔ (start, run) ∈ places 0 (groups key entries) :=
  ⟨IsRun.mem_places, isRun_of_mem_places⟩

/-- A run begins where the key changes. -/
theorem exists_isRun {front back : List Entry} {first second : Entry} (change : key first ≠ key second) :
    ∃ run, IsRun key (front ++ first :: second :: back) (front.length + 1) (second :: run) := by
  have parts : groups key (front ++ [first] ++ second :: back) =
      groups key (front ++ [first]) ++ groups key (second :: back) := by
    apply groups_append
    rintro last isLast next isNext
    rw [List.getLast?_concat] at isLast
    cases isLast
    cases isNext
    exact change
  cases rest : groups key (second :: back) with
  | nil => cases List.splitBy_eq_nil.mp rest
  | cons run more =>
    have whole := flatten_groups key (second :: back)
    have nonempty := nil_notMem_groups key (second :: back)
    rw [rest] at whole nonempty
    cases run with
    | nil => exact absurd (List.mem_cons_self ..) nonempty
    | cons entry run =>
      cases (List.cons.inj whole).1
      refine ⟨run, isRun_iff.mpr (mem_places.mpr ⟨groups key (front ++ [first]), more, ?_, ?_⟩)⟩
      · rw [← rest, ← parts, List.append_assoc]
        rfl
      · rw [flatten_groups, List.length_append, List.length_singleton, Nat.zero_add]

end PlhrFirmware.Lib
