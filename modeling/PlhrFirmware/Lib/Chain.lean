import Mathlib.Data.List.Nodup
import Mathlib.Logic.Function.Basic

/-! # Chains of cells

A heap gives the cell at an allocated address, and `next` reads the link of a cell; `none` is
`NULL`.  `Segment next heap start cells stop` says that the links lead from `start` over the
allocated `cells` to `stop`, and a chain is a segment that ends in `NULL`.  The links determine a
chain (`Chain.unique`), so none comes back to a cell (`Chain.nodup`), and writing to a cell
outside leaves it (`Segment.update`).  `Owns heap addresses` says that exactly the listed
addresses are allocated, each of them listed once.
-/

namespace PlhrFirmware.Lib

variable {Address Cell : Type*} {next : Cell → Option Address} {heap : Address → Option Cell}
  {start middle stop : Option Address} {cells more : List Address} {address : Address}

inductive Segment (next : Cell → Option Address) (heap : Address → Option Cell) :
    Option Address → List Address → Option Address → Prop where
  | nil {stop : Option Address} : Segment next heap stop [] stop
  | cons {address : Address} {cell : Cell} {cells : List Address} {stop : Option Address}
      (read : heap address = some cell) (rest : Segment next heap (next cell) cells stop) :
      Segment next heap (some address) (address :: cells) stop

abbrev Chain (next : Cell → Option Address) (heap : Address → Option Cell) (start : Option Address)
    (cells : List Address) : Prop := Segment next heap start cells none

theorem Segment.append (first : Segment next heap start cells middle)
    (second : Segment next heap middle more stop) : Segment next heap start (cells ++ more) stop := by
  induction first with
  | nil => exact second
  | cons read _ inductionHypothesis => exact .cons read (inductionHypothesis second)

theorem Segment.split (segment : Segment next heap start (cells ++ more) stop) :
    ∃ middle, Segment next heap start cells middle ∧ Segment next heap middle more stop := by
  induction cells generalizing start with
  | nil => exact ⟨start, .nil, segment⟩
  | cons address cells inductionHypothesis =>
    cases segment with
    | cons read rest =>
      obtain ⟨middle, first, second⟩ := inductionHypothesis rest
      exact ⟨middle, .cons read first, second⟩

theorem Segment.allocated (segment : Segment next heap start cells stop) (member : address ∈ cells) :
    ∃ cell, heap address = some cell := by
  induction segment with
  | nil => cases member
  | cons read _ inductionHypothesis =>
    cases member with
    | head => exact ⟨_, read⟩
    | tail _ member => exact inductionHypothesis member

/-- A free address is not in a segment. -/
theorem Segment.outside (segment : Segment next heap start cells stop) (free : heap address = none) :
    address ∉ cells := by
  intro member
  obtain ⟨cell, read⟩ := segment.allocated member
  rw [free] at read
  cases read

/-- Only the cells of a segment matter. -/
theorem Segment.frame {heap' : Address → Option Cell} (segment : Segment next heap start cells stop)
    (same : ∀ address ∈ cells, heap' address = heap address) :
    Segment next heap' start cells stop := by
  induction segment with
  | nil => exact .nil
  | cons read _ inductionHypothesis =>
    exact .cons ((same _ (.head _)).trans read)
      (inductionHypothesis fun _ member => same _ (.tail _ member))

theorem Chain.uncons (chain : Chain next heap (some address) cells) : ∃ cell rest,
    heap address = some cell ∧ cells = address :: rest ∧ Chain next heap (next cell) rest := by
  cases chain with
  | cons read rest => exact ⟨_, _, read, rfl, rest⟩

theorem Chain.eq_nil (chain : Chain next heap none cells) : cells = [] := by
  cases chain
  rfl

theorem Chain.start_eq (chain : Chain next heap start []) : start = none := by
  cases chain
  rfl

theorem Chain.start_cons (chain : Chain next heap start (address :: cells)) : start = some address := by
  cases chain
  rfl

theorem Chain.unique (chain : Chain next heap start cells) (other : Chain next heap start more) :
    cells = more := by
  induction cells generalizing start more with
  | nil =>
    cases chain
    exact other.eq_nil.symm
  | cons address cells inductionHypothesis =>
    cases chain with
    | cons read rest =>
      obtain ⟨cell, tail, read', rfl, rest'⟩ := Chain.uncons other
      rw [read] at read'
      cases read'
      rw [inductionHypothesis rest rest']

/-- A chain that came back to a cell would go on for ever. -/
theorem Chain.nodup (chain : Chain next heap start cells) : cells.Nodup := by
  induction cells generalizing start with
  | nil => exact List.nodup_nil
  | cons address cells inductionHypothesis =>
    cases chain with
    | cons read rest =>
      refine List.nodup_cons.mpr ⟨?_, inductionHypothesis rest⟩
      intro member
      obtain ⟨front, back, rfl⟩ := List.append_of_mem member
      obtain ⟨middle, _, again⟩ := Segment.split rest
      cases again with
      | cons read' rest' =>
        have same := Chain.unique (.cons read rest) (.cons read' rest' : Chain next heap _ _)
        have lengths := congrArg List.length same
        simp only [List.length_cons, List.length_append] at lengths
        omega

variable [DecidableEq Address]

theorem Segment.update (segment : Segment next heap start cells stop) (outside : address ∉ cells)
    (value : Option Cell) : Segment next (Function.update heap address value) start cells stop := by
  refine segment.frame ?_
  intro other member
  have different : other ≠ address := fun same => outside (same ▸ member)
  rw [Function.update_of_ne different]

/-- A cell of a chain is linked to a later part of it. -/
theorem Chain.relink {front dropped back : List Address} {target : Option Address} {cell : Cell}
    (chain : Chain next heap start (front ++ address :: (dropped ++ back)))
    (rest : Chain next heap target back) (link : next cell = target) :
    Chain next (Function.update heap address (some cell)) start (front ++ address :: back) := by
  have distinct := Chain.nodup chain
  rw [List.nodup_middle, List.nodup_cons] at distinct
  simp only [List.mem_append, not_or] at distinct
  obtain ⟨middle, first, second⟩ := Segment.split chain
  cases second with
  | cons read _ =>
    refine (first.update distinct.1.1 _).append (.cons (Function.update_self ..) ?_)
    rw [link]
    exact Segment.update rest distinct.1.2.2 _

theorem Chain.behead {cell : Cell} {back : List Address}
    (chain : Chain next heap (some address) (address :: back)) (read : heap address = some cell) :
    Chain next (Function.update heap address none) (next cell) back := by
  have distinct := Chain.nodup chain
  cases chain with
  | cons read' rest =>
    rw [read] at read'
    cases read'
    exact Segment.update rest (List.nodup_cons.mp distinct).1 none

/-- A cell is freed after an earlier one has been linked to what follows it; what lies between
the two is lost. -/
theorem Chain.unlink {front between back : List Address} {prev : Address} {cell : Cell}
    (chain : Chain next heap start (front ++ prev :: (between ++ address :: back)))
    (read : heap address = some cell) (linked : Cell) (link : next linked = next cell) :
    let unlinked := Function.update (Function.update heap prev (some linked)) address none
    Chain next unlinked start (front ++ prev :: back) ∧ Chain next unlinked (next cell) back := by
  have distinct := Chain.nodup chain
  rw [List.append_cons, ← List.append_assoc, List.nodup_middle, List.nodup_cons] at distinct
  simp only [List.mem_append, List.mem_singleton, not_or] at distinct
  obtain ⟨⟨⟨⟨outsideFront, outsidePrev⟩, _⟩, outsideBack⟩, others⟩ := distinct
  have prevOutside : prev ∉ back := by
    rw [List.append_assoc, List.append_assoc, List.singleton_append, List.nodup_middle,
      List.nodup_cons] at others
    exact fun member => others.1 (by simp [member])
  have rest : Chain next heap (next cell) back := by
    rw [List.append_cons, ← List.append_assoc] at chain
    obtain ⟨middle, _, second⟩ := Segment.split chain
    cases second with
    | cons read' rest =>
      rw [read] at read'
      cases read'
      exact rest
  have relinked : Chain next (Function.update heap prev (some linked)) start
      (front ++ prev :: back) := by
    have parts : front ++ prev :: (between ++ address :: back) =
        front ++ prev :: ((between ++ [address]) ++ back) := by simp
    exact Chain.relink (parts ▸ chain) rest link
  refine ⟨Segment.update relinked ?_ none, (Segment.update rest prevOutside _).update outsideBack none⟩
  simp only [List.mem_append, List.mem_cons, not_or]
  exact ⟨outsideFront, outsidePrev, outsideBack⟩

/-! ## Owned addresses -/

section Owns

variable {addresses : List Address}

omit [DecidableEq Address] in
structure Owns (heap : Address → Option Cell) (addresses : List Address) : Prop where
  distinct : addresses.Nodup
  allocated : ∀ address, (heap address).isSome ↔ address ∈ addresses

omit [DecidableEq Address] in
theorem Owns.none : Owns (fun _ : Address => (Option.none : Option Cell)) [] :=
  ⟨List.nodup_nil, fun _ => by simp⟩

omit [DecidableEq Address] in
theorem Owns.perm {listed : List Address} (owns : Owns heap addresses) (same : addresses.Perm listed) :
    Owns heap listed :=
  ⟨same.nodup_iff.mp owns.distinct, fun address => (owns.allocated address).trans same.mem_iff⟩

omit [DecidableEq Address] in
theorem Owns.read (owns : Owns heap addresses) (member : address ∈ addresses) :
    ∃ cell, heap address = some cell :=
  Option.isSome_iff_exists.mp ((owns.allocated address).mpr member)

theorem Owns.malloc (owns : Owns heap addresses) (fresh : heap address = .none) (cell : Cell) :
    Owns (Function.update heap address (some cell)) (address :: addresses) := by
  have outside : address ∉ addresses := by
    rw [← owns.allocated, fresh]
    simp
  refine ⟨List.nodup_cons.mpr ⟨outside, owns.distinct⟩, fun other => ?_⟩
  by_cases same : other = address
  · subst same
    simp
  · rw [Function.update_of_ne same, owns.allocated, List.mem_cons]
    simp [same]

theorem Owns.free (owns : Owns heap (address :: addresses)) :
    Owns (Function.update heap address .none) addresses := by
  obtain ⟨outside, distinct⟩ := List.nodup_cons.mp owns.distinct
  refine ⟨distinct, fun other => ?_⟩
  by_cases same : other = address
  · subst same
    simp [outside]
  · rw [Function.update_of_ne same, owns.allocated, List.mem_cons]
    simp [same]

/-- Writing to an allocated cell frees nothing. -/
theorem Owns.write (owns : Owns heap addresses) (member : address ∈ addresses) (cell : Cell) :
    Owns (Function.update heap address (some cell)) addresses := by
  refine ⟨owns.distinct, fun other => ?_⟩
  by_cases same : other = address
  · subst same
    simp [member]
  · rw [Function.update_of_ne same, owns.allocated]

end Owns

end PlhrFirmware.Lib
