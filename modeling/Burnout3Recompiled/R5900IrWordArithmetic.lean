import Burnout3Recompiled.R5900IrExecutor

/-!
# Arithmetic of the interpreter

The interpreter extends signs, saturates sums and replaces lanes with masks,
shifts and comparisons.  Here each helper is put into the terms of bit vectors.
-/

namespace Burnout3Recompiled

theorem signExtendWord_eq_signExtend (value : BitVec 32) :
    signExtendWord value = value.signExtend 64 := by
  have mask : (0x80000000 : BitVec 32) = BitVec.twoPow 32 31 := rfl
  have selected : value &&& 0x80000000 =
      if value.msb then BitVec.twoPow 32 31 else 0 := by
    rw [mask, BitVec.and_twoPow, BitVec.msb_eq_getLsbD_last]
    rfl
  unfold signExtendWord
  cases sign : value.msb with
  | false =>
      rw [selected, sign, BitVec.signExtend_eq_setWidth_of_msb_false sign]
      simp
  | true =>
      have nonzero : BitVec.twoPow 32 31 ≠ 0 := by decide
      rw [selected, sign, if_pos rfl, if_pos nonzero,
        BitVec.signExtend_eq_not_setWidth_not_of_msb_true sign]
      apply BitVec.eq_of_getLsbD_eq
      intro bit inside
      have upper : (0xFFFFFFFF00000000 : BitVec 64) =
          (BitVec.allOnes 32).setWidth 64 <<< 32 := rfl
      rw [upper, BitVec.getLsbD_or, BitVec.getLsbD_shiftLeft, BitVec.getLsbD_not,
        BitVec.getLsbD_setWidth, BitVec.getLsbD_setWidth, BitVec.getLsbD_setWidth,
        BitVec.getLsbD_not, BitVec.getLsbD_allOnes]
      by_cases low : bit < 32
      · simp [low, inside]
      · have noBit : value.getLsbD bit = false :=
          BitVec.getLsbD_of_ge _ _ (by omega)
        simp [low, inside, noBit]
        omega

/-- ADD, SBB of a register from itself and OR saturate. -/
theorem saturatingAddU32_eq (lhs rhs : BitVec 32) :
    saturatingAddU32 lhs rhs = (lhs + rhs) |||
      (0 - BitVec.ofNat 32 (decide (2 ^ 32 ≤ lhs.toNat + rhs.toNat)).toNat) := by
  have sum : (lhs.setWidth 64 + rhs.setWidth 64).toNat = lhs.toNat + rhs.toNat := by
    simp only [BitVec.toNat_add, BitVec.toNat_setWidth]
    omega
  have overflow : lhs.setWidth 64 + rhs.setWidth 64 > 0xFFFFFFFF ↔
      2 ^ 32 ≤ lhs.toNat + rhs.toNat := by
    have limit : (0xFFFFFFFF : BitVec 64).toNat = 2 ^ 32 - 1 := rfl
    rw [GT.gt, BitVec.lt_def, sum, limit]
    omega
  unfold saturatingAddU32
  by_cases carry : 2 ^ 32 ≤ lhs.toNat + rhs.toNat
  · have allOnes : (0 : BitVec 32) - BitVec.ofNat 32 true.toNat = BitVec.allOnes 32 :=
      rfl
    rw [if_pos (overflow.mpr carry), decide_eq_true carry, allOnes, BitVec.or_allOnes]
    rfl
  · have zero : (0 : BitVec 32) - BitVec.ofNat 32 false.toNat = 0#32 := rfl
    rw [if_neg (mt overflow.mp carry), decide_eq_false carry, zero, BitVec.or_zero]
    apply BitVec.eq_of_toNat_eq
    rw [BitVec.toNat_setWidth, sum, BitVec.toNat_add]

/-- Replacing one half of a word by a mask and a shift. -/
theorem getLsbD_maskedWord {whole : BitVec 64} {value : BitVec 32} {shift bit : Nat}
    (inside : bit < 64) :
    ((whole &&& ~~~((0xFFFFFFFF : BitVec 64) <<< shift)) |||
        (value.setWidth 64 <<< shift)).getLsbD bit =
      if shift ≤ bit ∧ bit < shift + 32 then value.getLsbD (bit - shift)
      else whole.getLsbD bit := by
  have lowWord : ∀ position, (0xFFFFFFFF : BitVec 64).getLsbD position =
      decide (position < 32) := by
    intro position
    have mask : (0xFFFFFFFF : BitVec 64) = (BitVec.allOnes 32).setWidth 64 := rfl
    rw [mask, BitVec.getLsbD_setWidth, BitVec.getLsbD_allOnes]
    by_cases low : position < 32
    · simp [low]; omega
    · simp [low]
  rw [BitVec.getLsbD_or, BitVec.getLsbD_and, BitVec.getLsbD_not,
    BitVec.getLsbD_shiftLeft, BitVec.getLsbD_shiftLeft, BitVec.getLsbD_setWidth,
    lowWord]
  by_cases below : bit < shift
  · simp [below, inside, Nat.not_le.mpr below]
  · by_cases covered : bit < shift + 32
    · have low : bit - shift < 32 := by omega
      simp [below, covered, inside, low, Nat.not_lt.mp below]
      omega
    · have high : ¬bit - shift < 32 := by omega
      have noBit : value.getLsbD (bit - shift) = false :=
        BitVec.getLsbD_of_ge _ _ (by omega)
      simp [below, covered, inside, high, noBit]

/-- A word both of whose halves are replaced. -/
theorem maskedWord_pair (whole : BitVec 64) (lower upper : BitVec 32) :
    (((whole &&& ~~~((0xFFFFFFFF : BitVec 64) <<< 0)) |||
          (lower.setWidth 64 <<< 0)) &&&
        ~~~((0xFFFFFFFF : BitVec 64) <<< 32)) |||
      (upper.setWidth 64 <<< 32) = upper ++ lower := by
  apply BitVec.eq_of_getLsbD_eq
  intro bit inside
  rw [getLsbD_maskedWord inside, getLsbD_maskedWord inside, BitVec.getLsbD_append]
  by_cases low : bit < 32
  · simp [low, Nat.not_le.mpr low]
  · simp [low, Nat.not_lt.mp low, inside]

/-- The lane loop replaces every bit of the register it starts from. -/
theorem foldl_setPackedLane (initial : R5900IrGprValue) (lanes : Nat → BitVec 32) :
    (List.range 4).foldl (fun result lane => setPackedLane result lane (lanes lane))
        initial =
      ⟨lanes 1 ++ lanes 0, lanes 3 ++ lanes 2⟩ := by
  have lower := maskedWord_pair initial.low64 (lanes 0) (lanes 1)
  have upper := maskedWord_pair initial.high64 (lanes 2) (lanes 3)
  simp only [List.range_succ, List.range_zero, List.nil_append, List.cons_append,
    List.foldl_cons, List.foldl_nil, setPackedLane, Nat.reduceLT, if_true, if_false,
    Nat.reduceMul, Nat.reduceSub]
  rw [lower, upper]

theorem packedU32SaturatingAdd_eq (lhs rhs : R5900IrGprValue) :
    packedU32SaturatingAdd lhs rhs =
      ⟨saturatingAddU32 (packedLane lhs 1) (packedLane rhs 1) ++
          saturatingAddU32 (packedLane lhs 0) (packedLane rhs 0),
        saturatingAddU32 (packedLane lhs 3) (packedLane rhs 3) ++
          saturatingAddU32 (packedLane lhs 2) (packedLane rhs 2)⟩ :=
  foldl_setPackedLane {} fun lane =>
    saturatingAddU32 (packedLane lhs lane) (packedLane rhs lane)

end Burnout3Recompiled
