import Mathlib.Data.List.FinRange
import Mathlib.Data.List.GetD
import Mathlib.Logic.Equiv.Defs
import PlhrFirmware.Lib.Bytes

/-! # Layouts of packed structures

A `Layout` has the memory images of the values of a type, all of one size, and reads a value from
the beginning of a memory image.  Every image of the size is that of one value: packed structures have
no padding.

* `byte`, `word`, `memory` — the fields.
* `pair`, `array`, `map` — structures and arrays of them.
-/

namespace PlhrFirmware.Lib

structure Layout (Value : Type*) where
  size : Nat
  bytes : Value → List UInt8
  read : List UInt8 → Value
  bytes_length (value : Value) : (bytes value).length = size
  read_bytes (value : Value) (rest : List UInt8) : read (bytes value ++ rest) = value
  bytes_read (image : List UInt8) (whole : size ≤ image.length) : bytes (read image) = image.take size

namespace Layout

variable {Value First Second : Type*} (layout : Layout Value)

attribute [simp] bytes_length read_bytes

/-! ## Reading -/

/-- A value is read wherever its bytes are. -/
theorem read_of_slice {image : List UInt8} {offset : Nat} {value : Value}
    (there : slice image offset layout.size = layout.bytes value) :
    layout.read (image.drop offset) = value := by
  rw [← List.take_append_drop layout.size (image.drop offset), ← slice, there, layout.read_bytes]

/-! ## Fields -/

def byte : Layout UInt8 where
  size := 1
  bytes value := [value]
  read image := image.headD 0
  bytes_length _ := rfl
  read_bytes _ _ := rfl
  bytes_read image whole := by
    cases image with
    | nil => cases whole
    | cons first rest => rfl

theorem leBytes_leValue (bytes : List UInt8) : leBytes bytes.length (leValue bytes) = bytes := by
  induction bytes with
  | nil => rfl
  | cons first bytes inductionHypothesis =>
    have small := first.toNat_lt
    have head : UInt8.ofNat (first.toNat + 256 * leValue bytes) = first := by
      apply UInt8.toNat_inj.mp
      rw [UInt8.toNat_ofNat', Nat.add_mul_mod_self_left]
      exact Nat.mod_eq_of_lt small
    have tail : (first.toNat + 256 * leValue bytes) / 256 = leValue bytes := by omega
    rw [leValue, List.length_cons, leBytes, head, tail, inductionHypothesis]

theorem leValue_lt (bytes : List UInt8) : leValue bytes < 256 ^ bytes.length := by
  induction bytes with
  | nil => exact Nat.one_pos
  | cons first bytes inductionHypothesis =>
    have small := first.toNat_lt
    rw [leValue, List.length_cons, Nat.pow_succ]
    omega

/-- An unsigned integer, little-endian. -/
def word (size : Nat) (toNat : Value → Nat) (ofNat : Nat → Value)
    (bound : ∀ value, toNat value < 256 ^ size) (ofNat_toNat : ∀ value, ofNat (toNat value) = value)
    (toNat_ofNat : ∀ number < 256 ^ size, toNat (ofNat number) = number) : Layout Value where
  size := size
  bytes value := leBytes size (toNat value)
  read image := ofNat (leValue (image.take size))
  bytes_length value := leBytes_length size (toNat value)
  read_bytes value rest := by
    rw [List.take_left' (leBytes_length size (toNat value)), leValue_leBytes,
      Nat.mod_eq_of_lt (bound value), ofNat_toNat]
  bytes_read image whole := by
    have length : (image.take size).length = size := List.length_take_of_le whole
    have small := leValue_lt (image.take size)
    have image := leBytes_leValue (image.take size)
    rw [length] at small image
    rw [toNat_ofNat _ small, image]

def uint16 : Layout UInt16 := word 2 UInt16.toNat UInt16.ofNat (fun value => value.toNat_lt)
  (fun _ => UInt16.ofNat_toNat) fun _ small => UInt16.toNat_ofNat_of_lt' small

def uint32 : Layout UInt32 := word 4 UInt32.toNat UInt32.ofNat (fun value => value.toNat_lt)
  (fun _ => UInt32.ofNat_toNat) fun _ small => UInt32.toNat_ofNat_of_lt' small

def uint64 : Layout UInt64 := word 8 UInt64.toNat UInt64.ofNat (fun value => value.toNat_lt)
  (fun _ => UInt64.ofNat_toNat) fun _ small => UInt64.toNat_ofNat_of_lt' small

def memory (size : Nat) : Layout (Memory size) where
  size := size
  bytes value := value.toList
  read image := Vector.ofFn fun i => image.getD i 0
  bytes_length value := Vector.length_toList
  read_bytes value rest := by
    apply Vector.ext
    intro i bound
    have inside : i < (value.toList ++ rest).length := by
      rw [List.length_append, Vector.length_toList]
      omega
    rw [Vector.getElem_ofFn, List.getD_eq_getElem _ _ inside,
      List.getElem_append_left (by simpa using bound), Vector.getElem_toList]
  bytes_read image whole := by
    apply List.ext_getElem
    · rw [Vector.length_toList, List.length_take_of_le whole]
    · intro i bound _
      rw [Vector.length_toList] at bound
      rw [Vector.getElem_toList, Vector.getElem_ofFn, List.getElem_take,
        List.getD_eq_getElem _ _ (bound.trans_le whole)]

/-! ## Structures and arrays -/

def pair (first : Layout First) (second : Layout Second) : Layout (First × Second) where
  size := first.size + second.size
  bytes value := first.bytes value.1 ++ second.bytes value.2
  read image := (first.read image, second.read (image.drop first.size))
  bytes_length value := by rw [List.length_append, bytes_length, bytes_length]
  read_bytes value rest := by
    rw [List.append_assoc, read_bytes, List.drop_left' (first.bytes_length value.1), read_bytes]
  bytes_read image whole := by
    have behind : second.size ≤ (image.drop first.size).length := by
      rw [List.length_drop]
      omega
    rw [first.bytes_read image (Nat.le_of_add_right_le whole), second.bytes_read _ behind, List.take_add]

/-- The parts of an image one behind the other. -/
theorem flatMap_slice (image : List UInt8) (size count : Nat) :
    ((List.finRange count).flatMap fun i : Fin count => slice image (size * i) size) =
      image.take (size * count) := by
  induction count with
  | zero => rfl
  | succ count inductionHypothesis =>
    rw [List.finRange_succ_last, List.flatMap_append, List.flatMap_map, List.flatMap_singleton,
      Nat.mul_succ, List.take_add, ← inductionHypothesis]
    rfl

def array (count : Nat) : Layout (Fin count → Value) where
  size := layout.size * count
  bytes value := (List.finRange count).flatMap fun i => layout.bytes (value i)
  read image i := layout.read (image.drop (layout.size * i))
  bytes_length value := by
    simp only [List.length_flatMap, bytes_length, List.map_const', List.length_finRange,
      List.sum_replicate_nat]
    exact Nat.mul_comm count layout.size
  read_bytes value rest := by
    funext i
    apply layout.read_of_slice
    have inside : i.val < (List.finRange count).length := i.isLt.trans_eq List.length_finRange.symm
    have fits : layout.size * i + layout.size ≤
        ((List.finRange count).flatMap fun i => layout.bytes (value i)).length := by
      simp only [List.length_flatMap, bytes_length, List.map_const', List.length_finRange,
        List.sum_replicate_nat]
      rw [← Nat.mul_succ, Nat.mul_comm count]
      exact Nat.mul_le_mul_left layout.size i.isLt
    rw [slice_append fits, slice_flatMap (fun i => layout.bytes_length (value i)) _ i inside,
      List.getElem_finRange]
    rfl
  bytes_read image whole := by
    rw [← flatMap_slice]
    apply List.flatMap_congr
    intro i _
    have fits : layout.size ≤ (image.drop (layout.size * i)).length := by
      have least := Nat.mul_le_mul_left layout.size i.isLt
      rw [Nat.mul_succ] at least
      rw [List.length_drop]
      omega
    rw [layout.bytes_read _ fits, slice]

def map (fields : Value ≃ First) (layout : Layout First) : Layout Value where
  size := layout.size
  bytes value := layout.bytes (fields value)
  read image := fields.symm (layout.read image)
  bytes_length value := layout.bytes_length (fields value)
  read_bytes value rest := by rw [read_bytes, Equiv.symm_apply_apply]
  bytes_read image whole := by rw [Equiv.apply_symm_apply, layout.bytes_read image whole]

end Layout

end PlhrFirmware.Lib
