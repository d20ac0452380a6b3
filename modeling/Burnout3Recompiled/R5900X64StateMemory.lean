import Burnout3Recompiled.R5900X64NativeCode
import Burnout3Recompiled.R5900IrExecutorComposition
import Burnout3Recompiled.R5900IrWordArithmetic

/-!
# The execution state in memory

Native code sees the execution state as bytes behind RCX.  A store to one field
updates that field of the state and no other, and a load from a field reads it.
-/

namespace Burnout3Recompiled

open LittleEndianMemory (load store displaced displaced_add load_store_disjoint
  load_store_same getLsbD_load_store extractLsb'_load extractLsb'_load_low)
open R5900IrExecutionState

@[simp]
theorem offsetOf_gpr : offsetOf 0 = 0 := rfl

@[simp]
theorem offsetOf_hi : offsetOf 1 = 512 := rfl

@[simp]
theorem offsetOf_lo : offsetOf 2 = 520 := rfl

@[simp]
theorem offsetOf_hi1 : offsetOf 3 = 528 := rfl

@[simp]
theorem offsetOf_lo1 : offsetOf 4 = 536 := rfl

@[simp]
theorem offsetOf_sa : offsetOf 5 = 544 := rfl

@[simp]
theorem offsetOf_fpr : offsetOf 6 = 548 := rfl

@[simp]
theorem offsetOf_fcr31 : offsetOf 7 = 676 := rfl

@[simp]
theorem offsetOf_fpAcc : offsetOf 8 = 680 := rfl

theorem stateOffset_add (first second : Nat) :
    stateOffset first + stateOffset second = stateOffset (first + second) :=
  (BitVec.ofNat_add first second).symm

theorem gprLow64Offset_eq (index : BitVec 8) :
    gprLow64Offset index = stateOffset (index.toNat * 16) := by
  simp [gprLow64Offset, gprOffset, stateOffset_add]

theorem gprOffset_eq (index : BitVec 8) :
    gprOffset index = stateOffset (index.toNat * 16) := by
  simp [gprOffset]

/-- Displacements inside the state are positive, so their sign extension is the
offset itself. -/
theorem stateOffset_signExtend {offset : Nat} (small : offset < 2 ^ 31) :
    (stateOffset offset).signExtend 64 = BitVec.ofNat 64 offset := by
  have positive : (stateOffset offset).msb = false := by
    rw [stateOffset, BitVec.msb_eq_false_iff_two_mul_lt, BitVec.toNat_ofNat]
    omega
  rw [BitVec.signExtend_eq_setWidth_of_msb_false positive]
  apply BitVec.eq_of_toNat_eq
  simp only [stateOffset, BitVec.toNat_setWidth, BitVec.toNat_ofNat]
  omega

section Fields

variable {memory : LittleEndianMemory 64} {base : BitVec 64} {index : BitVec 8}

theorem load_gprLow64 (inRange : index < 32) :
    load memory (displaced base (index.toNat * 16)) 64 =
      ((stateAt memory base).gprValue index).low64 := by
  have bound : index.toNat < 32 := inRange
  simp [stateAt, gprValue, bound]

theorem load_gprHigh64 (inRange : index < 32) :
    load memory (displaced base (index.toNat * 16 + 8)) 64 =
      ((stateAt memory base).gprValue index).high64 := by
  have bound : index.toNat < 32 := inRange
  simp [stateAt, gprValue, bound]

theorem load_gprWord (inRange : index < 32) :
    load memory (displaced base (index.toNat * 16)) 32 =
      ((stateAt memory base).gprValue index).low64.setWidth 32 := by
  rw [← load_gprLow64 inRange, ← extractLsb'_load_low memory _ 64 32 rfl rfl (by decide),
    ← BitVec.setWidth_ushiftRight_eq_extractLsb, BitVec.ushiftRight_zero]

theorem load_fpr (inRange : index < 32) :
    load memory (displaced base (548 + index.toNat * 4)) 32 =
      (stateAt memory base).fprValue index := by
  have bound : index.toNat < 32 := inRange
  simp [stateAt, fprValue, bound]

/-- The lanes of a register are its four words in memory. -/
theorem load_packedLane (inRange : index < 32) {lane : Nat} (laneInRange : lane < 4) :
    load memory (displaced base (index.toNat * 16 + lane * 4)) 32 =
      packedLane ((stateAt memory base).gprValue index) lane := by
  unfold packedLane
  split
  · next lower =>
      have word := extractLsb'_load memory (displaced base (index.toNat * 16)) 64
        (lane * 4) 32 rfl rfl (by omega)
      have shift : 8 * (lane * 4) = lane * 32 := by omega
      rw [BitVec.setWidth_ushiftRight_eq_extractLsb, ← load_gprLow64 inRange,
        ← shift, word]
      exact congrArg (load memory · 32) (displaced_add base _ _)
  · next upper =>
      have word := extractLsb'_load memory (displaced base (index.toNat * 16 + 8)) 64
        ((lane - 2) * 4) 32 rfl rfl (by omega)
      have shift : 8 * ((lane - 2) * 4) = (lane - 2) * 32 := by omega
      have sameOffset : index.toNat * 16 + lane * 4 =
          index.toNat * 16 + 8 + (lane - 2) * 4 := by omega
      rw [BitVec.setWidth_ushiftRight_eq_extractLsb, ← load_gprHigh64 inRange,
        ← shift, word, sameOffset]
      exact congrArg (load memory · 32) (displaced_add base _ _)

theorem stateAt_store_hi (value : BitVec 64) :
    stateAt (store memory (displaced base 512) value) base =
      { stateAt memory base with hi := value } := by
  simp (disch := omega) [stateAt, load_store_disjoint, load_store_same]

theorem stateAt_store_lo (value : BitVec 64) :
    stateAt (store memory (displaced base 520) value) base =
      { stateAt memory base with lo := value } := by
  simp (disch := omega) [stateAt, load_store_disjoint, load_store_same]

theorem stateAt_store_hi1 (value : BitVec 64) :
    stateAt (store memory (displaced base 528) value) base =
      { stateAt memory base with hi1 := value } := by
  simp (disch := omega) [stateAt, load_store_disjoint, load_store_same]

theorem stateAt_store_lo1 (value : BitVec 64) :
    stateAt (store memory (displaced base 536) value) base =
      { stateAt memory base with lo1 := value } := by
  simp (disch := omega) [stateAt, load_store_disjoint, load_store_same]

theorem stateAt_store_sa (value : BitVec 32) :
    stateAt (store memory (displaced base 544) value) base =
      { stateAt memory base with sa := value } := by
  simp (disch := omega) [stateAt, load_store_disjoint, load_store_same]

theorem stateAt_store_fcr31 (value : BitVec 32) :
    stateAt (store memory (displaced base 676) value) base =
      { stateAt memory base with fcr31 := value } := by
  simp (disch := omega) [stateAt, load_store_disjoint, load_store_same]

theorem stateAt_store_fpAcc (value : BitVec 32) :
    stateAt (store memory (displaced base 680) value) base =
      { stateAt memory base with fpAcc := value } := by
  simp (disch := omega) [stateAt, load_store_disjoint, load_store_same]

theorem stateAt_store_fpr (inRange : index < 32) (value : BitVec 32) :
    stateAt (store memory (displaced base (548 + index.toNat * 4)) value) base =
      (stateAt memory base).setFpr index value := by
  have bound : index.toNat < 32 := inRange
  simp (disch := omega) [stateAt, setFpr, load_store_disjoint]
  ext1 register inside
  simp only [Vector.getElem_setIfInBounds, Vector.getElem_ofFn]
  split
  · next same => rw [← same, load_store_same rfl (by omega)]
  · next different => rw [load_store_disjoint (by omega) (by omega) (by omega)]

/-- A store inside one general register leaves the rest of the state alone. -/
theorem stateAt_store_insideGpr (inRange : index < 32) {bits : Nat} (skipped : Nat)
    (inside : skipped + bits / 8 ≤ 16) (value : BitVec bits) :
    stateAt (store memory (displaced base (index.toNat * 16 + skipped)) value) base =
      (stateAt memory base).setGpr index
        ⟨load (store memory (displaced base (index.toNat * 16 + skipped)) value)
            (displaced base (index.toNat * 16)) 64,
          load (store memory (displaced base (index.toNat * 16 + skipped)) value)
            (displaced base (index.toNat * 16 + 8)) 64⟩ := by
  have bound : index.toNat < 32 := inRange
  simp (disch := omega) [stateAt, setGpr, load_store_disjoint]
  ext1 register insideFile
  simp only [Vector.getElem_setIfInBounds, Vector.getElem_ofFn]
  split
  · next same => rw [same]
  · next different =>
      rw [load_store_disjoint (by omega) (by omega) (by omega),
        load_store_disjoint (by omega) (by omega) (by omega)]

theorem stateAt_store_gprLow64 (inRange : index < 32) (value : BitVec 64) :
    stateAt (store memory (displaced base (index.toNat * 16)) value) base =
      (stateAt memory base).setGpr index
        { (stateAt memory base).gprValue index with low64 := value } := by
  have bound : index.toNat < 32 := inRange
  have stored : stateAt (store memory (displaced base (index.toNat * 16 + 0)) value)
      base = _ := stateAt_store_insideGpr inRange 0 (by omega) value
  rw [Nat.add_zero] at stored
  rw [stored, load_store_same rfl (by omega),
    load_store_disjoint (by omega) (by omega) (by omega), load_gprHigh64 inRange]

theorem stateAt_store_gprHigh64 (inRange : index < 32) (value : BitVec 64) :
    stateAt (store memory (displaced base (index.toNat * 16 + 8)) value) base =
      (stateAt memory base).setGpr index
        { (stateAt memory base).gprValue index with high64 := value } := by
  have bound : index.toNat < 32 := inRange
  rw [stateAt_store_insideGpr inRange 8 (by omega), load_store_same rfl (by omega),
    load_store_disjoint (by omega) (by omega) (by omega), load_gprLow64 inRange]

/-- A 32-bit store to a lane replaces that lane. -/
theorem stateAt_store_packedLane (inRange : index < 32) {lane : Nat}
    (laneInRange : lane < 4) (value : BitVec 32) :
    stateAt (store memory (displaced base (index.toNat * 16 + lane * 4)) value) base =
      (stateAt memory base).setGpr index
        (setPackedLane ((stateAt memory base).gprValue index) lane value) := by
  have bound : index.toNat < 32 := inRange
  rw [stateAt_store_insideGpr inRange (lane * 4) (by omega)]
  unfold setPackedLane
  split
  · next lower =>
      have upperHalf : load (store memory
          (displaced base (index.toNat * 16 + lane * 4)) value)
          (displaced base (index.toNat * 16 + 8)) 64 = _ :=
        load_store_disjoint (by omega) (by omega) (by omega)
      have lowerHalf : load (store memory
          (displaced base (index.toNat * 16 + lane * 4)) value)
          (displaced base (index.toNat * 16)) 64 =
          (((stateAt memory base).gprValue index).low64 &&&
            ~~~((0xFFFFFFFF : BitVec 64) <<< (lane * 32))) |||
            (value.setWidth 64 <<< (lane * 32)) := by
        apply BitVec.eq_of_getLsbD_eq
        intro bit inside
        have shift : 8 * (lane * 4) = lane * 32 := by omega
        rw [getLsbD_load_store rfl rfl (by omega) (by omega) inside, shift,
          getLsbD_maskedWord inside, load_gprLow64 inRange]
      rw [upperHalf, lowerHalf, load_gprHigh64 inRange]
  · next upper =>
      have lowerHalf : load (store memory
          (displaced base (index.toNat * 16 + lane * 4)) value)
          (displaced base (index.toNat * 16)) 64 = _ :=
        load_store_disjoint (by omega) (by omega) (by omega)
      have sameOffset : index.toNat * 16 + lane * 4 =
          index.toNat * 16 + 8 + (lane - 2) * 4 := by omega
      have upperHalf : load (store memory
          (displaced base (index.toNat * 16 + lane * 4)) value)
          (displaced base (index.toNat * 16 + 8)) 64 =
          (((stateAt memory base).gprValue index).high64 &&&
            ~~~((0xFFFFFFFF : BitVec 64) <<< ((lane - 2) * 32))) |||
            (value.setWidth 64 <<< ((lane - 2) * 32)) := by
        apply BitVec.eq_of_getLsbD_eq
        intro bit inside
        have shift : 8 * ((lane - 2) * 4) = (lane - 2) * 32 := by omega
        rw [sameOffset, getLsbD_load_store rfl rfl (by omega) (by omega) inside,
          shift, getLsbD_maskedWord inside, load_gprHigh64 inRange]
      rw [upperHalf, lowerHalf, load_gprLow64 inRange]

end Fields

end Burnout3Recompiled
