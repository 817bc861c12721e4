import Mathlib.Algebra.Order.BigOperators.Group.List
import PlhrFirmware.Pipeline.Downsampling

/-! # Reading a block back

The two decoders of the 150 bytes of a block, `print_values_downsampled` and the printer that
`send_data` has for `PRINT_MSG_DATA`, and what they read in a block that `thread_downsampling` has
packed.
-/

namespace PlhrFirmware.Pipeline

open PlhrFirmware.Lib PlhrFirmware.Message

/-! ## Decoders -/

def byteAt (bytes : List UInt8) (index : Nat) : UInt32 := (bytes.getD index 0).toUInt32

def tempValueRight (currentBuffer : List UInt8) : UInt16 :=
  ((byteAt currentBuffer 0 ||| ((byteAt currentBuffer 1 &&& 0xFF) <<< 8)) &&& 0x0FFF).toUInt16

def tempValueLeft (currentBuffer : List UInt8) : UInt16 :=
  (((byteAt currentBuffer 1 &&& 0xFF0) >>> 4) ||| (byteAt currentBuffer 2 <<< 4)).toUInt16

def printRound (printBuffer : List UInt8) (printed : List UInt16) (round : Nat) :
    Except Fault (List UInt16) := do
  let currentBuffer ← load printBuffer (round * 3) 3
  return printed ++ [tempValueRight currentBuffer, tempValueLeft currentBuffer]

/-- The values that are printed, in order. -/
def printValuesDownsampled (printBuffer : List UInt8) (printBufferSize : UInt16) :
    Except Fault (List UInt16) :=
  -- the index goes up to the size in steps of 3
  (List.range ((printBufferSize.toNat + 2) / 3)).foldlM (printRound printBuffer) []

/-- `memcpy(&target, source, 3)`; the highest byte is left. -/
def memcpyThree (target : UInt32) (source : List UInt8) : UInt32 :=
  UInt32.ofNat (leValue (source ++ (leBytes 4 target.toNat).drop 3))

/-- What has been printed, `data_to_print_right` and `data_to_print_left`. -/
structure DataPrint where
  printed : List UInt32
  right : UInt32
  left : UInt32

def dataPrintRound (p : List UInt8) (print : DataPrint) (nDataPrint : Nat) : Except Fault DataPrint := do
  let bytes ← load p (nDataPrint * 3) 3
  let right := memcpyThree print.right bytes &&& 0xFFF
  let left := (memcpyThree print.left bytes >>> 12) &&& 0xFFF
  return ⟨print.printed ++ [right, left], right, left⟩

/-- The loop over one block; the two variables have not been initialized. -/
def printMsgData (p : List UInt8) (right left : UInt32) : Except Fault DataPrint :=
  (List.range (dataBufferL / 3)).foldlM (dataPrintRound p) ⟨[], right, left⟩

/-! ## Averages -/

/-- The average of eight samples, rounded down. -/
def average (buffer : DmaBuffer) (index : Nat) : Nat :=
  ((List.range 8).map fun offset =>
    (word buffer (index * 8 + offset)).toNat >>> 2 &&& 0xFFF).sum / 8

def averages (buffer : DmaBuffer) : List Nat := (List.range 100).map (average buffer)

/-- The sixteen samples of a group are the same. -/
def SameGroup (buffer other : DmaBuffer) (group : Nat) : Prop :=
  ∀ offset < 16, word buffer (group * 16 + offset) = word other (group * 16 + offset)

theorem sum_toNat (terms : List UInt32) (bounded : (terms.map UInt32.toNat).sum < 2 ^ 32) :
    terms.sum.toNat = (terms.map UInt32.toNat).sum := by
  induction terms with
  | nil => rfl
  | cons term terms inductionHypothesis =>
    rw [List.map_cons, List.sum_cons] at bounded
    rw [List.sum_cons, List.map_cons, List.sum_cons, UInt32.toNat_add, inductionHypothesis (by omega),
      Nat.mod_eq_of_lt bounded]

/-- Two fields side by side. -/
theorem or_shiftLeft {low bits : Nat} (fits : low < 2 ^ bits) (high : Nat) :
    low ||| high <<< bits = low + 2 ^ bits * high := by
  rw [Nat.or_comm, ← Nat.shiftLeft_add_eq_or_of_lt fits, Nat.shiftLeft_eq, Nat.add_comm, Nat.mul_comm]

/-- A sum of eight 12-bit numbers is a 15-bit number. -/
theorem sum_masked_le (samples : Nat → Nat) :
    ((List.range 8).map fun offset => samples offset &&& 0xFFF).sum ≤ 8 * 4095 := by
  have bounded := List.sum_le_card_nsmul ((List.range 8).map fun offset => samples offset &&& 0xFFF) 4095
    (by simpa using fun offset _ => Nat.and_le_right)
  simpa using bounded

section Averages

variable (buffer : DmaBuffer)

theorem average_lt (index : Nat) : average buffer index < 4096 := by
  have bounded := sum_masked_le fun offset => (word buffer (index * 8 + offset)).toNat >>> 2
  exact Nat.lt_succ_of_le (Nat.div_le_of_le_mul bounded)

theorem sumOfEight_words (offset : Nat) : sumOfEight buffer offset =
    ((List.range dwsRateFix).map fun i => ((word buffer (offset + i) >>> 2) &&& 0x0FFF).toUInt32).sum := rfl

theorem sumOfEight_toNat (offset : Nat) : (sumOfEight buffer offset).toNat =
    ((List.range 8).map fun i => (word buffer (offset + i)).toNat >>> 2 &&& 0xFFF).sum := by
  have terms : ((List.range dwsRateFix).map fun i =>
      ((word buffer (offset + i) >>> 2) &&& 0x0FFF).toUInt32).map UInt32.toNat =
      (List.range 8).map fun i => (word buffer (offset + i)).toNat >>> 2 &&& 0xFFF := by
    simp
  have bounded := sum_masked_le fun i => (word buffer (offset + i)).toNat >>> 2
  rw [sumOfEight_words, sum_toNat, terms]
  rw [terms]
  exact Nat.lt_of_le_of_lt bounded (by decide)

theorem downsampledDataRight_toNat (indexBuffer : Nat) :
    (downsampledDataRight buffer indexBuffer).toNat = average buffer (2 * indexBuffer) := by
  have place : indexBuffer * (dwsRateFix * 2) = 2 * indexBuffer * 8 := by
    change indexBuffer * 16 = 2 * indexBuffer * 8
    omega
  rw [downsampledDataRight, UInt32.toNat_shiftRight, place, sumOfEight_toNat, average,
    ← Nat.shiftRight_eq_div_pow _ 3]
  rfl

theorem downsampledDataLeft_toNat (indexBuffer : Nat) :
    (downsampledDataLeft buffer indexBuffer).toNat = average buffer (2 * indexBuffer + 1) := by
  have place : dwsRateFix + indexBuffer * (dwsRateFix * 2) = (2 * indexBuffer + 1) * 8 := by
    change 8 + indexBuffer * 16 = (2 * indexBuffer + 1) * 8
    omega
  rw [downsampledDataLeft, UInt32.toNat_div, place, sumOfEight_toNat, average]
  rfl

/-- Neither average carries into the place of the other. -/
theorem downsampledData_toNat (indexBuffer : Nat) : (downsampledData buffer indexBuffer).toNat =
    average buffer (2 * indexBuffer) + 4096 * average buffer (2 * indexBuffer + 1) := by
  have right := average_lt buffer (2 * indexBuffer)
  have left := average_lt buffer (2 * indexBuffer + 1)
  have masked : average buffer (2 * indexBuffer) &&& 0xFFF = average buffer (2 * indexBuffer) := by
    rw [Nat.and_two_pow_sub_one_eq_mod _ 12]
    exact Nat.mod_eq_of_lt right
  have shifted : average buffer (2 * indexBuffer + 1) <<< 12 % 2 ^ 32 =
      average buffer (2 * indexBuffer + 1) <<< 12 := by
    rw [Nat.shiftLeft_eq]
    omega
  rw [downsampledData, UInt32.toNat_or, UInt32.toNat_and, UInt32.toNat_shiftLeft,
    downsampledDataRight_toNat, downsampledDataLeft_toNat]
  change average buffer (2 * indexBuffer) &&& 0xFFF |||
    average buffer (2 * indexBuffer + 1) <<< 12 % 2 ^ 32 = _
  rw [masked, shifted]
  exact @or_shiftLeft _ 12 right _

end Averages

/-! ## Decoding three bytes -/

section Decoding

variable (value : Nat)

theorem byteAt_leBytes : (byteAt (leBytes 3 value) 0).toNat = value % 256 ∧
    (byteAt (leBytes 3 value) 1).toNat = value / 256 % 256 ∧
      (byteAt (leBytes 3 value) 2).toNat = value / 256 / 256 % 256 := by
  simp [byteAt, leBytes]

theorem tempValueRight_toNat : (tempValueRight (leBytes 3 value)).toNat = value % 4096 := by
  obtain ⟨first, second, _⟩ := byteAt_leBytes value
  have masked : value / 256 % 256 &&& 0xFF = value / 256 % 256 := by
    rw [Nat.and_two_pow_sub_one_eq_mod _ 8, Nat.mod_mod]
  have shifted : (value / 256 % 256) <<< 8 % 2 ^ 32 = (value / 256 % 256) <<< 8 := by
    rw [Nat.shiftLeft_eq]
    omega
  have joined : value % 256 ||| (value / 256 % 256) <<< 8 = value % 256 + 256 * (value / 256 % 256) :=
    @or_shiftLeft _ 8 (Nat.mod_lt _ (by decide)) _
  rw [tempValueRight, UInt32.toNat_toUInt16, UInt32.toNat_and, UInt32.toNat_or,
    UInt32.toNat_shiftLeft, UInt32.toNat_and, first, second]
  change ((value % 256 ||| (value / 256 % 256 &&& 0xFF) <<< 8 % 2 ^ 32) &&& 0xFFF) % 2 ^ 16 = _
  rw [masked, shifted, joined, Nat.and_two_pow_sub_one_eq_mod _ 12]
  omega

theorem tempValueLeft_toNat : (tempValueLeft (leBytes 3 value)).toNat = value / 4096 % 4096 := by
  obtain ⟨_, second, third⟩ := byteAt_leBytes value
  have masked : (value / 256 % 256 &&& 0xFF0) >>> 4 = value / 256 % 256 / 16 := by
    rw [Nat.shiftRight_and_distrib]
    change (value / 256 % 256) >>> 4 &&& 0xFF = _
    rw [Nat.and_two_pow_sub_one_eq_mod _ 8, Nat.shiftRight_eq_div_pow]
    omega
  have shifted : (value / 256 / 256 % 256) <<< 4 % 2 ^ 32 = (value / 256 / 256 % 256) <<< 4 := by
    rw [Nat.shiftLeft_eq]
    omega
  have joined : value / 256 % 256 / 16 ||| (value / 256 / 256 % 256) <<< 4 =
      value / 256 % 256 / 16 + 16 * (value / 256 / 256 % 256) :=
    @or_shiftLeft _ 4 (by omega) _
  rw [tempValueLeft, UInt32.toNat_toUInt16, UInt32.toNat_or, UInt32.toNat_shiftRight,
    UInt32.toNat_shiftLeft, UInt32.toNat_and, second, third]
  change ((value / 256 % 256 &&& 0xFF0) >>> 4 ||| (value / 256 / 256 % 256) <<< 4 % 2 ^ 32) % 2 ^ 16 = _
  rw [masked, shifted, joined]
  omega

theorem memcpyThree_toNat (target : UInt32) :
    (memcpyThree target (leBytes 3 value)).toNat = value % 2 ^ 24 + 2 ^ 24 * (target.toNat / 2 ^ 24) := by
  have bounded := target.toNat_lt
  simp only [memcpyThree, leBytes, leValue, List.drop_succ_cons, List.drop_zero, List.cons_append,
    List.nil_append, UInt32.toNat_ofNat', UInt8.toNat_ofNat']
  omega

theorem right_toNat (target : UInt32) :
    (memcpyThree target (leBytes 3 value) &&& 0xFFF).toNat = value % 4096 := by
  rw [UInt32.toNat_and, memcpyThree_toNat]
  change _ &&& 0xFFF = _
  rw [Nat.and_two_pow_sub_one_eq_mod _ 12]
  omega

theorem left_toNat (target : UInt32) :
    ((memcpyThree target (leBytes 3 value) >>> 12) &&& 0xFFF).toNat = value / 4096 % 4096 := by
  rw [UInt32.toNat_and, UInt32.toNat_shiftRight, memcpyThree_toNat]
  change (value % 2 ^ 24 + 2 ^ 24 * (target.toNat / 2 ^ 24)) >>> 12 &&& 0xFFF = _
  rw [Nat.and_two_pow_sub_one_eq_mod _ 12, Nat.shiftRight_eq_div_pow]
  omega

end Decoding

/-! ## Decoding a block -/

section Blocks

variable {buffer : DmaBuffer} {stored : List UInt8}

theorem slice_packedBytes {count index : Nat} (less : index < count) :
    slice (packedBytes buffer count) (index * 3) 3 = leBytes 3 (downsampledData buffer index).toNat := by
  induction count with
  | zero => cases less
  | succ count inductionHypothesis =>
    have more : packedBytes buffer (count + 1) =
        packedBytes buffer count ++ leBytes 3 (downsampledData buffer count).toNat := by
      simp [packedBytes, List.range_succ]
    rw [more]
    by_cases last : index = count
    · subst last
      rw [slice, List.drop_left' (packedBytes_length buffer index),
        List.take_of_length_le (leBytes_length 3 _).le]
    · have before : index < count := by omega
      rw [slice_append (by rw [packedBytes_length]; omega), inductionHypothesis before]

theorem load_packedBytes {index : Nat} (less : index < 50) :
    load (packedBytes buffer 50) (index * 3) 3 =
      .ok (leBytes 3 (downsampledData buffer index).toNat) := by
  rw [load_fits (by rw [packedBytes_length]; omega), slice_packedBytes less]

def pairs (buffer : DmaBuffer) (count : Nat) : List Nat :=
  (List.range count).flatMap fun group => [average buffer (2 * group), average buffer (2 * group + 1)]

theorem pairs_succ (count : Nat) : pairs buffer (count + 1) =
    pairs buffer count ++ [average buffer (2 * count), average buffer (2 * count + 1)] := by
  simp [pairs, List.range_succ]

theorem pairs_eq (count : Nat) : pairs buffer count = (List.range (2 * count)).map (average buffer) := by
  induction count with
  | zero => rfl
  | succ count inductionHypothesis =>
    rw [pairs_succ, inductionHypothesis, Nat.mul_succ, List.range_succ, List.range_succ]
    simp

theorem downsampledData_fields (group : Nat) :
    (downsampledData buffer group).toNat % 4096 = average buffer (2 * group) ∧
      (downsampledData buffer group).toNat / 4096 % 4096 = average buffer (2 * group + 1) := by
  have right := average_lt buffer (2 * group)
  have left := average_lt buffer (2 * group + 1)
  rw [downsampledData_toNat]
  omega

theorem printValues_rounds {count : Nat} (bounded : count ≤ 50) :
    ∃ printed, (List.range count).foldlM (printRound (packedBytes buffer 50)) [] = .ok printed ∧
      printed.map UInt16.toNat = pairs buffer count := by
  induction count with
  | zero => exact ⟨[], rfl, rfl⟩
  | succ count inductionHypothesis =>
    obtain ⟨printed, ran, values⟩ := inductionHypothesis (Nat.le_of_succ_le bounded)
    obtain ⟨right, left⟩ := @downsampledData_fields buffer count
    let bytes := leBytes 3 (downsampledData buffer count).toNat
    refine ⟨printed ++ [tempValueRight bytes, tempValueLeft bytes], ?_, ?_⟩
    · rw [List.range_succ, List.foldlM_append, ran, ok_bind, List.foldlM_cons, printRound,
        load_packedBytes bounded]
      rfl
    · rw [List.map_append, values, pairs_succ, ← right, ← left, ← tempValueRight_toNat,
        ← tempValueLeft_toNat]
      rfl

theorem printMsgData_rounds (first : DataPrint) (nothing : first.printed = []) {count : Nat}
    (bounded : count ≤ 50) :
    ∃ print, (List.range count).foldlM (dataPrintRound (packedBytes buffer 50)) first = .ok print ∧
      print.printed.map UInt32.toNat = pairs buffer count := by
  induction count with
  | zero => exact ⟨first, rfl, by rw [nothing]; rfl⟩
  | succ count inductionHypothesis =>
    obtain ⟨print, ran, values⟩ := inductionHypothesis (Nat.le_of_succ_le bounded)
    obtain ⟨right, left⟩ := @downsampledData_fields buffer count
    let bytes := leBytes 3 (downsampledData buffer count).toNat
    let right' := memcpyThree print.right bytes &&& 0xFFF
    let left' := (memcpyThree print.left bytes >>> 12) &&& 0xFFF
    refine ⟨⟨print.printed ++ [right', left'], right', left'⟩, ?_, ?_⟩
    · rw [List.range_succ, List.foldlM_append, ran, ok_bind, List.foldlM_cons, dataPrintRound,
        load_packedBytes bounded]
      rfl
    · rw [List.map_append, values, pairs_succ, ← right, ← left, ← right_toNat _ print.right,
        ← left_toNat _ print.left]
      rfl

theorem sumOfEight_congr {other : DmaBuffer} {offset : Nat}
    (same : ∀ i < 8, word buffer (offset + i) = word other (offset + i)) :
    sumOfEight buffer offset = sumOfEight other offset := by
  rw [sumOfEight_words, sumOfEight_words]
  congr 1
  apply List.map_congr_left
  intro i member
  rw [same i (List.mem_range.mp member)]

/-- A group only enters its own pair. -/
theorem downsampledData_congr {other : DmaBuffer} {group : Nat} (same : SameGroup buffer other group) :
    downsampledData buffer group = downsampledData other group := by
  have right : sumOfEight buffer (group * (dwsRateFix * 2)) =
      sumOfEight other (group * (dwsRateFix * 2)) := by
    apply sumOfEight_congr
    intro i less
    exact same i (by omega)
  have left : sumOfEight buffer (dwsRateFix + group * (dwsRateFix * 2)) =
      sumOfEight other (dwsRateFix + group * (dwsRateFix * 2)) := by
    apply sumOfEight_congr
    intro i less
    have place : dwsRateFix + group * (dwsRateFix * 2) + i = group * 16 + (8 + i) := by
      change 8 + group * 16 + i = _
      omega
    rw [place, same (8 + i) (by omega)]
  rw [downsampledData, downsampledDataRight, downsampledDataLeft, right, left]
  rfl

/-- Packing leaves nothing else in the block. -/
theorem packingLoop_toList (buffer : DmaBuffer) (p : Memory dataBufferL) :
    (packingLoop buffer p).toList = packedBytes buffer 50 := by
  have filled := packingRounds_filled buffer p 50 (by decide)
  have length : (packedBytes buffer 50).length = dataBufferL := packedBytes_length buffer 50
  rw [packingLoop]
  change (packingRounds buffer p 50).toList = _
  rw [filled, List.drop_of_length_le (by rw [length, Vector.length_toList]), List.append_nil]

end Blocks

/-- For every DMA buffer, both decoders read the averages back from the block, whatever it held
before and whatever their variables hold; three bytes of it depend on one group only, and nothing
is left of what it held. -/
theorem packing_roundTrip (buffer : DmaBuffer) (p : Memory dataBufferL) (right left : UInt32) :
    (∃ printed, printValuesDownsampled (packingLoop buffer p).toList 150 = .ok printed ∧
      printed.map UInt16.toNat = averages buffer) ∧
    (∃ print, printMsgData (packingLoop buffer p).toList right left = .ok print ∧
      print.printed.map UInt32.toNat = averages buffer) ∧
    (∀ other group, SameGroup buffer other group → slice (packingLoop buffer p).toList (group * 3) 3 =
      slice (packingLoop other p).toList (group * 3) 3) ∧
    ∀ p', packingLoop buffer p = packingLoop buffer p' := by
  have whole : pairs buffer 50 = averages buffer := pairs_eq 50
  rw [packingLoop_toList, ← whole]
  refine ⟨printValues_rounds le_rfl, printMsgData_rounds ⟨[], right, left⟩ rfl le_rfl, ?_, ?_⟩
  · intro other group same
    rw [packingLoop_toList]
    by_cases inside : group < 50
    · rw [slice_packedBytes inside, slice_packedBytes inside, downsampledData_congr same]
    · have beyond : ∀ buffer, slice (packedBytes buffer 50) (group * 3) 3 = [] := by
        intro buffer
        rw [slice, List.drop_of_length_le (by rw [packedBytes_length]; omega), List.take_nil]
      rw [beyond, beyond]
  · intro p'
    rw [packingLoop_eq, packingLoop_eq]

end PlhrFirmware.Pipeline
