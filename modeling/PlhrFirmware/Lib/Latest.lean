import Mathlib.Order.Lattice

/-! # Logs

A log is a list that grows at its end (`getElem?_append_singleton`).  When its entries have
stamps in some order, `LatestBy stamp log last entry` says that `entry` is the latest one that
is not after `last`, and `Nothing stamp log last` that there is none.  `lastAnswer answer log` is
the answer of the last entry that has one.
-/

namespace PlhrFirmware.Lib

theorem getElem?_append_singleton {Entry : Type*} {log : List Entry} {new entry : Entry} {k : Nat}
    (read : (log ++ [new])[k]? = some entry) :
    log[k]? = some entry ∨ k = log.length ∧ entry = new := by
  by_cases old : k < log.length
  · rw [List.getElem?_append_left old] at read
    exact .inl read
  · have bound := (List.getElem?_eq_some_iff.mp read).1
    rw [List.length_append, List.length_singleton] at bound
    have last : k = log.length := by omega
    subst last
    rw [List.getElem?_concat_length] at read
    cases read
    exact .inr ⟨rfl, rfl⟩

/-- An entry of a log that has grown is the new one or was in it. -/
theorem append_singleton_split {Entry : Type*} {log before after : List Entry} {new entry : Entry}
    (read : log ++ [new] = before ++ entry :: after) :
    (log = before ∧ new = entry ∧ after = []) ∨
      ∃ rest, after = rest ++ [new] ∧ log = before ++ entry :: rest := by
  obtain rfl | ⟨rest, last, rfl⟩ := List.eq_nil_or_concat after
  · obtain ⟨same, ends⟩ := List.append_inj' read rfl
    cases ends
    exact .inl ⟨same, rfl, rfl⟩
  · rw [List.concat_eq_append, ← List.cons_append, ← List.append_assoc] at read
    obtain ⟨same, ends⟩ := List.append_inj' read rfl
    cases ends
    exact .inr ⟨rest, List.concat_eq_append, same⟩

/-- Of two entries the one that comes first is in front of the other. -/
theorem exists_split_of_notMem {Entry : Type*} {first rest middle after : List Entry} {entry other : Entry}
    (same : first ++ entry :: rest = middle ++ other :: after) (different : entry ≠ other)
    (outside : other ∉ first) : ∃ more, middle = first ++ entry :: more := by
  obtain ⟨more, rfl, split⟩ | ⟨more, rfl, split⟩ := List.append_eq_append_iff.mp same
  · cases more with
    | nil => exact absurd (List.cons.inj split).1 different
    | cons head more =>
      rw [(List.cons.inj split).1]
      exact ⟨more, rfl⟩
  · cases more with
    | nil => exact absurd (List.cons.inj split).1.symm different
    | cons head more =>
      rw [(List.cons.inj split).1] at outside
      exact absurd (List.mem_append_right middle (.head more)) outside

section LastAnswer

variable {Entry Answer : Type*} {answer : Entry → Option Answer} {log more : List Entry}

def lastAnswer (answer : Entry → Option Answer) (log : List Entry) : Option Answer :=
  log.reverse.findSome? answer

theorem lastAnswer_append :
    lastAnswer answer (log ++ more) = (lastAnswer answer more).or (lastAnswer answer log) := by
  rw [lastAnswer, List.reverse_append, List.findSome?_append]
  rfl

theorem lastAnswer_singleton (entry : Entry) : lastAnswer answer [entry] = answer entry := by
  simp [lastAnswer]

theorem lastAnswer_eq_none : lastAnswer answer log = none ↔ ∀ entry ∈ log, answer entry = none := by
  rw [lastAnswer, List.findSome?_eq_none_iff]
  exact forall_congr' fun entry => by rw [List.mem_reverse]

theorem exists_of_lastAnswer {value : Answer} (last : lastAnswer answer log = some value) :
    ∃ entry ∈ log, answer entry = some value := by
  obtain ⟨entry, member, answered⟩ := List.exists_of_findSome?_eq_some last
  exact ⟨entry, List.mem_reverse.mp member, answered⟩

end LastAnswer

variable {Entry Time : Type*} [LinearOrder Time] {stamp : Entry → Time}
  {log : List Entry} {last : Time} {entry : Entry}

structure LatestBy (stamp : Entry → Time) (log : List Entry) (last : Time) (entry : Entry) :
    Prop where
  mem : entry ∈ log
  notAfter : stamp entry ≤ last
  greatest : ∀ other ∈ log, stamp other ≤ last → stamp other ≤ stamp entry

def Nothing (stamp : Entry → Time) (log : List Entry) (last : Time) : Prop :=
  ∀ entry ∈ log, last < stamp entry

theorem LatestBy.mono {last' : Time} {entry' : Entry} (latest : LatestBy stamp log last entry)
    (latest' : LatestBy stamp log last' entry') (le : last ≤ last') :
    stamp entry ≤ stamp entry' :=
  latest'.greatest entry latest.mem (latest.notAfter.trans le)

theorem LatestBy.not_nothing {last' : Time} (latest : LatestBy stamp log last entry)
    (le : last ≤ last') : ¬ Nothing stamp log last' := by
  intro nothing
  exact absurd (nothing entry latest.mem) (not_lt.mpr (latest.notAfter.trans le))

theorem LatestBy.append {new : Entry} (latest : LatestBy stamp log last entry)
    (after : last < stamp new) : LatestBy stamp (log ++ [new]) last entry := by
  refine ⟨List.mem_append_left _ latest.mem, latest.notAfter, ?_⟩
  intro other member notAfter
  rcases List.mem_append.mp member with old | isNew
  · exact latest.greatest other old notAfter
  · rw [List.mem_singleton.mp isNew] at notAfter
    exact absurd after (not_lt.mpr notAfter)

theorem Nothing.append {new : Entry} (nothing : Nothing stamp log last)
    (after : last < stamp new) : Nothing stamp (log ++ [new]) last := by
  intro other member
  rcases List.mem_append.mp member with old | isNew
  · exact nothing other old
  · rw [List.mem_singleton.mp isNew]; exact after

theorem latestBy_append_self {new : Entry} (older : ∀ other ∈ log, stamp other ≤ stamp new)
    (notAfter : stamp new ≤ last) : LatestBy stamp (log ++ [new]) last new := by
  refine ⟨List.mem_append_right _ (List.mem_singleton.mpr rfl), notAfter, ?_⟩
  intro other member _
  rcases List.mem_append.mp member with old | isNew
  · exact older other old
  · rw [List.mem_singleton.mp isNew]

end PlhrFirmware.Lib
