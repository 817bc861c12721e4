import Mathlib.Algebra.Order.Ring.Nat

/-! # Byte memory of C objects

* `leBytes`, `leValue` — little-endian integers.
* `Memory size` — an object of `size` bytes, with `put` at an offset.
* `store`, `load` — the same accesses checked against the size of the object.
* `strcpy`, `strcat` — C strings in an object.
* `Filled` — an object whose first bytes have been written.
-/

namespace PlhrFirmware.Lib

/-! ## Little-endian integers -/

def leBytes : Nat → Nat → List UInt8
  | 0, _ => []
  | count + 1, value => UInt8.ofNat value :: leBytes count (value / 256)

def leValue : List UInt8 → Nat
  | [] => 0
  | byte :: bytes => byte.toNat + 256 * leValue bytes

@[simp] theorem leBytes_length (count value : Nat) : (leBytes count value).length = count := by
  induction count generalizing value with
  | zero => rfl
  | succ count inductionHypothesis => simp [leBytes, inductionHypothesis]

theorem leValue_leBytes (count value : Nat) :
    leValue (leBytes count value) = value % 256 ^ count := by
  induction count generalizing value with
  | zero => simp [leBytes, leValue, Nat.mod_one]
  | succ count inductionHypothesis =>
    simp only [leBytes, leValue, inductionHypothesis, UInt8.toNat_ofNat', Nat.reducePow]
    rw [Nat.pow_succ, Nat.mul_comm _ 256, Nat.mod_mul]

/-- The `count` bytes at `offset`, or as many of them as there are. -/
def slice (bytes : List UInt8) (offset count : Nat) : List UInt8 := (bytes.drop offset).take count

theorem slice_append {bytes : List UInt8} {offset count : Nat} (fits : offset + count ≤ bytes.length)
    (more : List UInt8) : slice (bytes ++ more) offset count = slice bytes offset count := by
  rw [slice, slice, List.drop_append_of_le_length (by omega),
    List.take_append_of_le_length (by rw [List.length_drop]; omega)]

theorem slice_append_right (bytes more : List UInt8) (offset count : Nat) :
    slice (bytes ++ more) (bytes.length + offset) count = slice more offset count := by
  rw [slice, slice, List.drop_append, List.drop_of_length_le (by omega), List.nil_append]
  congr 2
  omega

/-- An array of parts of one size, part by part. -/
theorem slice_flatMap {Part : Type*} {bytes : Part → List UInt8} {size : Nat}
    (uniform : ∀ part, (bytes part).length = size) (parts : List Part) (i : Nat)
    (bound : i < parts.length) : slice (parts.flatMap bytes) (size * i) size = bytes parts[i] := by
  induction parts generalizing i with
  | nil => cases bound
  | cons part parts inductionHypothesis =>
    rw [List.flatMap_cons]
    cases i with
    | zero =>
      rw [Nat.mul_zero, slice_append (by rw [uniform, Nat.zero_add]), slice, List.drop_zero,
        List.take_of_length_le (uniform part).le]
      rfl
    | succ i =>
      have place : size * (i + 1) = (bytes part).length + size * i := by
        rw [uniform, Nat.mul_add_one, Nat.add_comm]
      rw [place, slice_append_right]
      exact inductionHypothesis i (Nat.lt_of_succ_lt_succ bound)

theorem slice_slice {outer count : Nat} (bytes : List UInt8) (offset inner : Nat)
    (fits : inner + count ≤ outer) :
    slice (slice bytes offset outer) inner count = slice bytes (offset + inner) count := by
  rw [slice, slice, slice, List.drop_take, List.take_take, List.drop_drop,
    Nat.min_eq_left (by omega)]

/-! ## Objects -/

abbrev Memory (size : Nat) := Vector UInt8 size

variable {size : Nat}

def Memory.put (memory : Memory size) (offset : Nat) (bytes : List UInt8) : Memory size :=
  Vector.ofFn fun i => if offset ≤ i then (bytes[i - offset]?).getD memory[i] else memory[i]

theorem Memory.put_toList (memory : Memory size) (offset : Nat) (bytes : List UInt8)
    (fits : offset + bytes.length ≤ size) :
    (memory.put offset bytes).toList =
      memory.toList.take offset ++ (bytes ++ memory.toList.drop (offset + bytes.length)) := by
  have front : (memory.toList.take offset).length = offset := by
    rw [List.length_take, Vector.length_toList]
    omega
  apply List.ext_getElem
  · simp
    omega
  · intro i left right
    have bound : i < size := by simpa using left
    simp only [put, Vector.getElem_toList, Vector.getElem_ofFn, Fin.getElem_fin]
    -- before, inside and behind the bytes that are written
    by_cases before : i < offset
    · rw [if_neg (Nat.not_le.mpr before), List.getElem_append_left (by rw [front]; exact before),
        List.getElem_take, Vector.getElem_toList]
    · rw [if_pos (Nat.not_lt.mp before),
        List.getElem_append_right (by rw [front]; exact Nat.not_lt.mp before)]
      simp only [front]
      by_cases inside : i - offset < bytes.length
      · rw [List.getElem?_eq_getElem inside, List.getElem_append_left inside, Option.getD_some]
      · rw [List.getElem?_eq_none (Nat.not_lt.mp inside), Option.getD_none,
          List.getElem_append_right (Nat.not_lt.mp inside), List.getElem_drop,
          Vector.getElem_toList]
        congr 1
        omega

/-- The first bytes of the object have been written, and the others are as they were before. -/
def Filled (before after : Memory size) (written : List UInt8) : Prop :=
  after.toList = written ++ before.toList.drop written.length

theorem Filled.nil (memory : Memory size) : Filled memory memory [] := rfl

theorem Filled.put {before after : Memory size} {written : List UInt8}
    (filled : Filled before after written) (offset : Nat) (bytes : List UInt8)
    (ends : written.length = offset) (fits : offset + bytes.length ≤ size) :
    Filled before (after.put offset bytes) (written ++ bytes) := by
  subst ends
  rw [Filled, Memory.put_toList _ _ _ fits, filled, List.take_left' rfl, List.append_assoc]
  congr 2
  -- the untouched rest begins where the new bytes end
  rw [List.drop_append, List.drop_of_length_le (by omega), List.nil_append, List.drop_drop,
    List.length_append]
  congr 1
  omega

theorem Filled.take {before after : Memory size} {written : List UInt8}
    (filled : Filled before after written) {count : Nat} (ends : written.length = count) :
    after.toList.take count = written := by
  rw [filled]
  exact List.take_left' ends

theorem Filled.full {left right left' right' : Memory size} {written : List UInt8}
    (filled : Filled left left' written) (filled' : Filled right right' written)
    (all : written.length = size) : left' = right' := by
  rw [← Vector.toList_inj, filled, filled', List.drop_of_length_le, List.drop_of_length_le]
  · simp [all]
  · simp [all]

/-! ## Checked accesses -/

/-- An access to `count` bytes at `offset` of an object of `size` bytes that leaves it. -/
structure Fault where
  offset : Nat
  count : Nat
  size : Nat
  deriving DecidableEq, Repr

@[simp] theorem ok_bind {α β : Type} (value : α) (next : α → Except Fault β) :
    (Except.ok value >>= next) = next value := rfl

@[simp] theorem error_bind {α β : Type} (fault : Fault) (next : α → Except Fault β) :
    (Except.error fault >>= next) = .error fault := rfl

def store (memory : Memory size) (offset : Nat) (bytes : List UInt8) :
    Except Fault (Memory size) :=
  if offset + bytes.length ≤ size then .ok (memory.put offset bytes)
  else .error ⟨offset, bytes.length, size⟩

def load (stored : List UInt8) (offset count : Nat) : Except Fault (List UInt8) :=
  if offset + count ≤ stored.length then .ok (slice stored offset count)
  else .error ⟨offset, count, stored.length⟩

theorem load_fits {stored : List UInt8} {offset count : Nat}
    (fits : offset + count ≤ stored.length) :
    load stored offset count = .ok (slice stored offset count) :=
  if_pos fits

theorem load_beyond {stored : List UInt8} {offset count : Nat}
    (beyond : ¬ offset + count ≤ stored.length) :
    load stored offset count = .error ⟨offset, count, stored.length⟩ :=
  if_neg beyond

theorem store_fits {memory : Memory size} {offset : Nat} {bytes : List UInt8}
    (fits : offset + bytes.length ≤ size) :
    store memory offset bytes = .ok (memory.put offset bytes) :=
  if_pos fits

theorem store_overflows {memory : Memory size} {offset : Nat} {bytes : List UInt8}
    (overflows : size < offset + bytes.length) :
    store memory offset bytes = .error ⟨offset, bytes.length, size⟩ :=
  if_neg (Nat.not_le.mpr overflows)

/-! ## C strings -/

def strlen (memory : Memory size) : Except Fault Nat :=
  match memory.toList.findIdx? (· = 0) with
  | some length => .ok length
  | none => .error ⟨0, size + 1, size⟩

def Memory.string (memory : Memory size) : List UInt8 := memory.toList.takeWhile (· ≠ 0)

def strcpy (target : Memory size) (source : List UInt8) : Except Fault (Memory size) :=
  store target 0 (source ++ [0])

def strcat (target : Memory size) (source : List UInt8) : Except Fault (Memory size) := do
  let length ← strlen target
  store target length (source ++ [0])

def ascii (text : String) : List UInt8 := text.toList.map fun char => UInt8.ofNat char.toNat

def decimal (value : Nat) : List UInt8 :=
  (Nat.toDigits 10 value).map fun digit => UInt8.ofNat digit.toNat

/-- `sprintf(target, "%d", value)` for a value that is not negative. -/
def sprintfD (target : Memory size) (value : Nat) : Except Fault (Memory size) :=
  strcpy target (decimal value)

/-- A copied string can be read back, and its length is where the NUL is. -/
theorem strcpy_string {target : Memory size} {source : List UInt8} (fits : source.length < size)
    (text : ∀ byte ∈ source, byte ≠ 0) :
    ∃ copy, strcpy target source = .ok copy ∧ copy.string = source ∧
      strlen copy = .ok source.length := by
  have room : (source ++ [0]).length ≤ size := by
    rw [List.length_append, List.length_singleton]
    exact fits
  have written : Filled target (target.put 0 (source ++ [0])) (source ++ [0]) :=
    (Filled.nil target).put 0 _ rfl (by rw [Nat.zero_add]; exact room)
  -- the first NUL of the copy is the one behind the source
  refine ⟨_, store_fits (by rw [Nat.zero_add]; exact room), ?_, ?_⟩
  · rw [Memory.string, written, List.append_assoc,
      List.takeWhile_append_of_pos (by simpa using text)]
    simp
  · have before : source.findIdx? (· = 0) = none := by
      rw [List.findIdx?_eq_none_iff]
      simpa using text
    rw [strlen, written, List.append_assoc, List.findIdx?_append, before]
    simp [List.findIdx?_cons]

theorem strcpy_overflows {target : Memory size} {source : List UInt8}
    (overflows : size ≤ source.length) :
    strcpy target source = .error ⟨0, source.length + 1, size⟩ := by
  rw [strcpy, store_overflows (by simp; omega)]
  simp

theorem decimal_length_le_iff (value count : Nat) (positive : 0 < count) :
    (decimal value).length ≤ count ↔ value < 10 ^ count := by
  rw [decimal, List.length_map]
  exact Nat.length_toDigits_le_iff (by decide) positive

theorem decimal_length_pos (value : Nat) : 0 < (decimal value).length := by
  rw [decimal, List.length_map]
  exact Nat.length_toDigits_pos

theorem decimal_text (value : Nat) : ∀ byte ∈ decimal value, byte ≠ 0 := by
  intro byte member
  obtain ⟨digit, digits, rfl⟩ := List.mem_map.mp member
  obtain ⟨lower, upper⟩ := Char.isDigit_iff_toNat.mp
    (Nat.isDigit_of_mem_toDigits (by decide) (by decide) digits)
  intro zero
  have value := congrArg UInt8.toNat zero
  simp at value lower upper
  omega

end PlhrFirmware.Lib
