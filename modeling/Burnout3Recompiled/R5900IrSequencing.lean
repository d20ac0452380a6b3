import Burnout3Recompiled.R5900IrExecutorComposition

/-!
# Programs in sequence

Executing two programs one after the other is executing their concatenation, whether or
not their instructions are valid: what the first one fails with is final, and otherwise the
second one only sees its instructions at other indices, which its messages name and
nothing else depends on.
-/

namespace Burnout3Recompiled

open OrderedChecks R5900IrExecutionState

section Validation

variable (ir : R5900IrInstruction) (guestPc : BitVec 32) (first second : Nat)

theorem validateOperand_alike (operand : R5900IrOperand) :
    Alike R5900IrValidationFailure.error (validateOperand operand first guestPc)
      (validateOperand operand second guestPc) := by
  unfold validateOperand
  split
  · exact alike_ok ()
  · exact alike_ensure rfl
  · exact alike_ensure rfl
  · exact alike_error rfl

theorem requireDestination_alike :
    Alike R5900IrValidationFailure.error (requireDestination ir first)
      (requireDestination ir second) := by
  unfold requireDestination
  split
  · exact alike_ok _
  · exact alike_error rfl

theorem validateGprDestination_alike (expectedMode : R5900IrGprWriteMode) :
    Alike R5900IrValidationFailure.error (validateGprDestination ir first expectedMode)
      (validateGprDestination ir second expectedMode) := by
  apply (requireDestination_alike ir first second).bind
  intro destination
  exact alike_ensure_bind rfl fun _ => alike_ensure_bind rfl fun _ => alike_ensure rfl

theorem validateOperands_alike (accepted : R5900IrOperandKind → Bool) (reason : String)
    (operands : List R5900IrOperand) :
    Alike R5900IrValidationFailure.error
      (validateOperands accepted reason first guestPc operands)
      (validateOperands accepted reason second guestPc operands) := by
  induction operands with
  | nil => exact alike_ok ()
  | cons operand operands ih =>
      apply (validateOperand_alike guestPc first second operand).bind
      intro valid
      exact alike_ensure_bind rfl fun _ => ih

theorem validateExistingIntegerWrite_alike :
    Alike R5900IrValidationFailure.error (validateExistingIntegerWrite ir first)
      (validateExistingIntegerWrite ir second) := by
  apply (validateGprDestination_alike ir first second _).bind
  intro destination
  exact alike_ensure_bind rfl fun _ => validateOperands_alike _ first second _ _ _

theorem validateAnd64_alike :
    Alike R5900IrValidationFailure.error (validateAnd64 ir first)
      (validateAnd64 ir second) := by
  apply (validateGprDestination_alike ir first second _).bind
  intro destination
  split
  · apply (validateOperand_alike _ first second _).bind
    intro left
    exact (validateOperand_alike _ first second _).bind fun _ => alike_ensure rfl
  · exact alike_error rfl

theorem validateLui_alike :
    Alike R5900IrValidationFailure.error (validateLui ir first) (validateLui ir second) := by
  apply (validateGprDestination_alike ir first second _).bind
  intro destination
  split
  · exact alike_ensure rfl
  · exact alike_error rfl

theorem validatePackedU32Add_alike :
    Alike R5900IrValidationFailure.error (validatePackedU32Add ir first)
      (validatePackedU32Add ir second) := by
  apply (validateGprDestination_alike ir first second _).bind
  intro destination
  exact alike_ensure_bind rfl fun _ => validateOperands_alike _ first second _ _ _

theorem validateMoveGprLow64_alike :
    Alike R5900IrValidationFailure.error (validateMoveGprLow64 ir first)
      (validateMoveGprLow64 ir second) := by
  apply (requireDestination_alike ir first second).bind
  intro destination
  refine alike_ensure_bind rfl fun hilo => ?_
  split
  · exact (validateOperand_alike _ first second _).bind fun _ => alike_ensure rfl
  · exact alike_error rfl

theorem validateMtsah_alike :
    Alike R5900IrValidationFailure.error (validateMtsah ir first)
      (validateMtsah ir second) := by
  apply (requireDestination_alike ir first second).bind
  intro destination
  refine alike_ensure_bind rfl fun unindexed => ?_
  split
  · exact (validateOperand_alike _ first second _).bind fun _ => alike_ensure rfl
  · exact alike_error rfl

theorem validateMoveBits32Destination_alike (destination : R5900IrDestination) :
    Alike R5900IrValidationFailure.error
      (validateMoveBits32Destination destination first guestPc)
      (validateMoveBits32Destination destination second guestPc) := by
  unfold validateMoveBits32Destination
  split
  · exact alike_ensure rfl
  · exact alike_ensure rfl
  · exact alike_error rfl

theorem validateMoveBits32_alike :
    Alike R5900IrValidationFailure.error (validateMoveBits32 ir first)
      (validateMoveBits32 ir second) := by
  apply (requireDestination_alike ir first second).bind
  intro destination
  split
  · apply (validateOperand_alike _ first second _).bind
    intro valid
    exact alike_ensure_bind rfl fun _ =>
      validateMoveBits32Destination_alike _ first second destination
  · exact alike_error rfl

theorem validateAddF32Accumulator_alike :
    Alike R5900IrValidationFailure.error (validateAddF32Accumulator ir first)
      (validateAddF32Accumulator ir second) := by
  apply (requireDestination_alike ir first second).bind
  intro destination
  refine alike_ensure_bind rfl fun unindexed => ?_
  exact alike_ensure_bind rfl fun _ => validateOperands_alike _ first second _ _ _

/-- An instruction is accepted, or refused for the same reason, at every index. -/
theorem validateR5900IrInstruction_alike :
    Alike R5900IrValidationFailure.error (validateR5900IrInstruction ir first)
      (validateR5900IrInstruction ir second) := by
  unfold validateR5900IrInstruction
  cases ir.opcode with
  | nop => exact alike_ensure rfl
  | addWordSignExtend => exact validateExistingIntegerWrite_alike ir first second
  | or64 => exact validateExistingIntegerWrite_alike ir first second
  | and64 => exact validateAnd64_alike ir first second
  | loadUpperImmediateSignExtend => exact validateLui_alike ir first second
  | addPackedU32Saturate128 => exact validatePackedU32Add_alike ir first second
  | moveGprLow64 => exact validateMoveGprLow64_alike ir first second
  | computeMtsah => exact validateMtsah_alike ir first second
  | moveBits32 => exact validateMoveBits32_alike ir first second
  | addF32ToAccumulator => exact validateAddF32Accumulator_alike ir first second
  | outOfRange => exact alike_error rfl

end Validation

theorem mapValidationFailure_error {first second : R5900IrValidationFailure}
    (same : first.error = second.error) :
    (mapValidationFailure first).error = (mapValidationFailure second).error := by
  unfold mapValidationFailure
  rw [same]
  cases second.error <;> rfl

theorem R5900IrExecutionState.ZeroNormalized.readGpr_zero {state : R5900IrExecutionState}
    (normalized : state.ZeroNormalized) : state.readGpr 0 = some {} := by
  rw [readGpr_eq_some (by decide)]
  exact congrArg some normalized

theorem normalizeZero_setGpr_zero (state : R5900IrExecutionState)
    (value : R5900IrGprValue) : (state.setGpr 0 value).normalizeZero = state.normalizeZero := by
  simp only [setGpr, normalizeZero, R5900IrExecutionState.mk.injEq, and_true]
  ext1 register inside
  rw [Vector.getElem_set, Vector.getElem_set]
  split
  · rfl
  · next different => exact Vector.getElem_setIfInBounds_ne inside different

section Runs

variable (addF32 : BitVec 32 → BitVec 32 → BitVec 32)

/-- The interpreter loop, together with the states in which it reaches an instruction. -/
def traceFrom (index : Nat) :
    List R5900IrInstruction → R5900IrExecutionState →
      List R5900IrExecutionState × R5900IrExecutionResult × R5900IrExecutionState
  | [], state => ([], .ok (), state.normalizeZero)
  | ir :: instructions, state =>
      match validateR5900IrInstruction ir index with
      | .error validation =>
          ([state], .error (mapValidationFailure validation), state.normalizeZero)
      | .ok () =>
          let later := traceFrom (index + 1) instructions
            ((executeInstruction addF32 ir state).getD state)
          (state :: later.1, later.2)

def traceR5900Ir (instructions : List R5900IrInstruction)
    (state : R5900IrExecutionState) :
    List R5900IrExecutionState × R5900IrExecutionResult × R5900IrExecutionState :=
  traceFrom addF32 0 instructions state.normalizeZero

variable {addF32} {index : Nat} {first second instructions : List R5900IrInstruction}
  {state : R5900IrExecutionState}

theorem traceFrom_snd :
    (traceFrom addF32 index instructions state).2 =
      executeFrom addF32 index instructions state := by
  induction instructions generalizing index state with
  | nil => rfl
  | cons ir instructions ih =>
      rw [traceFrom, executeFrom]
      cases validateR5900IrInstruction ir index with
      | error validation => rfl
      | ok valid => exact ih

/-- The loop reaches an instruction exactly when executing those before it succeeds, in the
state which that leaves. -/
theorem getElem?_traceFrom_iff (normalized : state.ZeroNormalized) {position : Nat}
    {reached : R5900IrExecutionState} :
    (traceFrom addF32 index instructions state).1[position]? = some reached ↔
      position < instructions.length ∧
        executeFrom addF32 index (instructions.take position) state = (.ok (), reached) := by
  induction instructions generalizing index state position with
  | nil => simp [traceFrom]
  | cons ir instructions ih =>
      rw [traceFrom]
      cases validated : validateR5900IrInstruction ir index with
      | error validation =>
          cases position with
          | zero => simp [executeFrom, normalizeZero_eq_self normalized]
          | succ position => simp [executeFrom, validated]
      | ok valid =>
          cases position with
          | zero => simp [executeFrom, normalizeZero_eq_self normalized]
          | succ position =>
              have next := applyInstruction_zeroNormalized addF32
                (validateR5900IrInstruction_eq_ok_iff.mp validated) normalized
              rw [List.getElem?_cons_succ, List.length_cons, List.take_succ_cons, executeFrom,
                validated, Nat.add_lt_add_iff_right]
              exact ih next

/-- No instruction sees anything but zero in GPR zero. -/
theorem zeroNormalized_of_mem_traceFrom (normalized : state.ZeroNormalized)
    {reached : R5900IrExecutionState}
    (member : reached ∈ (traceFrom addF32 index instructions state).1) :
    reached.ZeroNormalized := by
  induction instructions generalizing index state with
  | nil => cases member
  | cons ir instructions ih =>
      rw [traceFrom] at member
      split at member
      · obtain rfl := List.mem_singleton.mp member
        exact normalized
      · next valid =>
          rcases List.mem_cons.mp member with rfl | later
          · exact normalized
          · have wellFormed := validateR5900IrInstruction_eq_ok_iff.mp valid
            apply ih _ later
            exact applyInstruction_zeroNormalized addF32 wellFormed normalized

/-- Every way out of the loop clears GPR zero. -/
theorem zeroNormalized_executeFrom :
    (executeFrom addF32 index instructions state).2.ZeroNormalized := by
  induction instructions generalizing index state with
  | nil => exact zeroNormalized_normalizeZero state
  | cons ir instructions ih =>
      rw [executeFrom]
      split
      · exact zeroNormalized_normalizeZero state
      · exact ih

/-- The loop only succeeds on well-formed programs. -/
theorem wellFormed_of_executeFrom
    (succeeds : (executeFrom addF32 index instructions state).1 = .ok ()) :
    ∀ ir ∈ instructions, R5900IrWellFormed ir := by
  induction instructions generalizing index state with
  | nil => exact List.forall_mem_nil _
  | cons ir instructions ih =>
      rw [executeFrom] at succeeds
      split at succeeds
      · cases succeeds
      · next valid =>
          exact List.forall_mem_cons.mpr
            ⟨validateR5900IrInstruction_eq_ok_iff.mp valid, ih succeeds⟩

/-- What the first part fails with, the whole fails with. -/
theorem executeFrom_append_of_error {failure : R5900IrExecutionFailure}
    (fails : (executeFrom addF32 index first state).1 = .error failure) :
    executeFrom addF32 index (first ++ second) state =
      executeFrom addF32 index first state := by
  induction first generalizing index state with
  | nil => cases fails
  | cons ir first ih =>
      rw [List.cons_append, executeFrom, executeFrom]
      rw [executeFrom] at fails
      cases validated : validateR5900IrInstruction ir index with
      | error validation => rfl
      | ok valid =>
          rw [validated] at fails
          exact ih fails

/-- The same program at two indices, from the same state. -/
theorem executeFrom_alike (index other : Nat) :
    (executeFrom addF32 index instructions state).2 =
        (executeFrom addF32 other instructions state).2 ∧
      Alike R5900IrExecutionFailure.error
        (executeFrom addF32 index instructions state).1
        (executeFrom addF32 other instructions state).1 := by
  induction instructions generalizing index other state with
  | nil => exact ⟨rfl, alike_ok ()⟩
  | cons ir instructions ih =>
      have alike := validateR5900IrInstruction_alike ir index other
      rw [executeFrom, executeFrom]
      cases validated : validateR5900IrInstruction ir index with
      | error validation =>
          obtain ⟨otherValidation, otherFails, same⟩ := alike.eq_error validated
          rw [otherFails]
          exact ⟨rfl, alike_error (mapValidationFailure_error same)⟩
      | ok valid =>
          rw [alike.eq_ok validated]
          exact ih (index + 1) (other + 1)

variable (addF32)

/-- Executing `first ++ second` compared with executing one after the other. -/
structure ExecutesInSequence (first second : List R5900IrInstruction)
    (state : R5900IrExecutionState) : Prop where
  goesOn : (executeR5900Ir addF32 first state).1 = .ok () →
    (executeR5900Ir addF32 (first ++ second) state).2 =
        (executeR5900Ir addF32 second (executeR5900Ir addF32 first state).2).2 ∧
      Alike R5900IrExecutionFailure.error
        (executeR5900Ir addF32 (first ++ second) state).1
        (executeR5900Ir addF32 second (executeR5900Ir addF32 first state).2).1
  stops : ∀ failure, (executeR5900Ir addF32 first state).1 = .error failure →
    executeR5900Ir addF32 (first ++ second) state = executeR5900Ir addF32 first state

/-- GPR zero reads as zero throughout and does not matter at the start. -/
structure IgnoresZero (instructions : List R5900IrInstruction)
    (state : R5900IrExecutionState) : Prop where
  traced : (traceR5900Ir addF32 instructions state).2 =
    executeR5900Ir addF32 instructions state
  prefixes : ∀ index reached,
    (traceR5900Ir addF32 instructions state).1[index]? = some reached ↔
      index < instructions.length ∧
        executeR5900Ir addF32 (instructions.take index) state = (.ok (), reached)
  reached : ∀ reached ∈ (traceR5900Ir addF32 instructions state).1,
    reached.readGpr 0 = some {}
  returned : (executeR5900Ir addF32 instructions state).2.readGpr 0 = some {}
  initial : ∀ value : R5900IrGprValue,
    executeR5900Ir addF32 instructions (state.setGpr 0 value) =
      executeR5900Ir addF32 instructions state

theorem executesInSequence (first second : List R5900IrInstruction)
    (state : R5900IrExecutionState) : ExecutesInSequence addF32 first second state where
  goesOn := by
    intro succeeds
    have wellFormed := wellFormed_of_executeFrom succeeds
    have normalized := foldl_applyInstruction_zeroNormalized addF32 wellFormed
      (zeroNormalized_normalizeZero state)
    rw [executeR5900Ir_eq_foldl addF32 wellFormed, executeR5900Ir, executeR5900Ir,
      executeFrom_append addF32 wellFormed, normalizeZero_eq_self normalized]
    exact executeFrom_alike _ _
  stops failure fails := executeFrom_append_of_error fails

theorem ignoresZero (instructions : List R5900IrInstruction)
    (state : R5900IrExecutionState) : IgnoresZero addF32 instructions state where
  traced := traceFrom_snd
  prefixes index reached := getElem?_traceFrom_iff (zeroNormalized_normalizeZero state)
  reached reached member :=
    (zeroNormalized_of_mem_traceFrom (zeroNormalized_normalizeZero state) member).readGpr_zero
  returned := zeroNormalized_executeFrom.readGpr_zero
  initial value := by
    rw [executeR5900Ir, executeR5900Ir, normalizeZero_setGpr_zero]

/-- Runs compose at every cut of every program. -/
theorem executeR5900Ir_composes (first second : List R5900IrInstruction)
    (state : R5900IrExecutionState) :
    ExecutesInSequence addF32 first second state ∧ IgnoresZero addF32 first state :=
  ⟨executesInSequence addF32 first second state, ignoresZero addF32 first state⟩

end Runs

end Burnout3Recompiled
