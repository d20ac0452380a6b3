import Burnout3Recompiled.R5900IrExecutorComposition
import Burnout3Recompiled.R5900X64NativeCode

/-!
# Interpreter and compiler accept the same programs

The interpreter validates an instruction just before it executes it, the
compiler validates the whole program before it emits a byte.  Both stop at the
first instruction the validator rejects and report the validator's message;
what the interpreter has committed by then is the program in front of it.
-/

namespace Burnout3Recompiled

/-- The compiler's enumerator of the same name. -/
def R5900IrExecutionError.toCompileError :
    R5900IrExecutionError → R5900X64CompileError
  | .malformedInstruction => .malformedInstruction
  | .invalidRegister => .invalidRegister
  | .unsupportedOpcode => .unsupportedOpcode

def R5900IrExecutionFailure.toCompileFailure (failure : R5900IrExecutionFailure) :
    R5900X64CompileFailure :=
  ⟨failure.error.toCompileError, failure.message⟩

theorem toCompileFailure_mapValidationFailure
    (validation : R5900IrValidationFailure) :
    (mapValidationFailure validation).toCompileFailure =
      mapCompileValidationFailure validation := by
  obtain ⟨error, message⟩ := validation
  cases error <;> rfl

/-- The operating system refused a call; nothing is wrong with the program. -/
def R5900X64CompileError.IsHostFailure (error : R5900X64CompileError) : Prop :=
  error = .allocationFailed ∨ error = .protectionFailed ∨ error = .cacheFlushFailed

theorem publishCode_error {bytes : List (BitVec 8)} {nonempty : bytes ≠ []}
    {os : ExecutablePageOutcome} {failure : R5900X64CompileFailure}
    (failed : publishCode bytes nonempty os = .error failure) :
    failure.error.IsHostFailure := by
  cases os with
  | success => cases failed
  | virtualAllocFails =>
      obtain rfl := Except.error.inj failed
      exact .inl rfl
  | virtualProtectFails =>
      obtain rfl := Except.error.inj failed
      exact .inr (.inl rfl)
  | flushInstructionCacheFails =>
      obtain rfl := Except.error.inj failed
      exact .inr (.inr rfl)

/-- Every instruction passes the validator at its own index. -/
def AllValid (instructions : List R5900IrInstruction) : Prop :=
  ∀ (index : Nat) (ir : R5900IrInstruction), instructions[index]? = some ir →
    validateR5900IrInstruction ir index = .ok ()

/-- The instruction at `index` is the first the validator rejects. -/
structure FirstInvalidAt (instructions : List R5900IrInstruction) (index : Nat)
    (failure : R5900IrValidationFailure) : Prop where
  rejected : ∃ ir, instructions[index]? = some ir ∧
    validateR5900IrInstruction ir index = .error failure
  earlier : ∀ (before : Nat) (ir : R5900IrInstruction), before < index →
    instructions[before]? = some ir → validateR5900IrInstruction ir before = .ok ()

theorem allValid_iff {instructions : List R5900IrInstruction} :
    AllValid instructions ↔ ∀ ir ∈ instructions, R5900IrWellFormed ir := by
  constructor
  · intro valid ir member
    obtain ⟨index, found⟩ := List.mem_iff_getElem?.mp member
    exact validateR5900IrInstruction_eq_ok_iff.mp (valid index ir found)
  · intro wellFormed index ir found
    exact validateR5900IrInstruction_eq_ok_iff.mpr
      (wellFormed ir (List.mem_of_getElem? found))

/-- A program with a rejected instruction is a well-formed part, the rejected
instruction and whatever follows. -/
theorem FirstInvalidAt.split {instructions : List R5900IrInstruction} {index : Nat}
    {failure : R5900IrValidationFailure}
    (invalid : FirstInvalidAt instructions index failure) :
    ∃ ir rest, instructions = instructions.take index ++ ir :: rest ∧
      (instructions.take index).length = index ∧
      (∀ other ∈ instructions.take index, R5900IrWellFormed other) ∧
      validateR5900IrInstruction ir index = .error failure := by
  obtain ⟨ir, found, refused⟩ := invalid.rejected
  obtain ⟨inside, atIndex⟩ := List.getElem?_eq_some_iff.mp found
  have cut : instructions =
      instructions.take index ++ ir :: instructions.drop (index + 1) := by
    rw [← atIndex, List.getElem_cons_drop, List.take_append_drop]
  refine ⟨ir, instructions.drop (index + 1), cut, ?_, ?_, refused⟩
  · exact List.length_take_of_le inside.le
  · intro other member
    obtain ⟨before, located⟩ := List.mem_iff_getElem?.mp member
    rw [List.getElem?_take] at located
    split at located
    · next early =>
        exact validateR5900IrInstruction_eq_ok_iff.mp
          (invalid.earlier before other early located)
    · cases located

theorem allValid_or_firstInvalidAt (instructions : List R5900IrInstruction) :
    AllValid instructions ∨
      ∃ index failure, FirstInvalidAt instructions index failure := by
  classical
  by_cases invalid : ∃ (index : Nat) (ir : R5900IrInstruction),
      instructions[index]? = some ir ∧ validateR5900IrInstruction ir index ≠ .ok ()
  · right
    obtain ⟨ir, found, refused⟩ := Nat.find_spec invalid
    obtain ⟨failure, reported⟩ : ∃ failure,
        validateR5900IrInstruction ir (Nat.find invalid) = .error failure := by
      cases outcome : validateR5900IrInstruction ir (Nat.find invalid) with
      | error failure => exact ⟨failure, rfl⟩
      | ok value => exact absurd outcome refused
    refine ⟨Nat.find invalid, failure, ⟨ir, found, reported⟩, ?_⟩
    intro before other early located
    by_contra refusedBefore
    exact Nat.find_min invalid early ⟨other, located, refusedBefore⟩
  · left
    intro index ir found
    by_contra refused
    exact invalid ⟨index, ir, found, refused⟩

/-- The validation loop walks over a well-formed first part. -/
theorem validateFrom_append {first second : List R5900IrInstruction}
    (wellFormed : ∀ ir ∈ first, R5900IrWellFormed ir) (index : Nat) :
    validateFrom index (first ++ second) =
      validateFrom (index + first.length) second := by
  induction first generalizing index with
  | nil => simp
  | cons ir first ih =>
      have valid : validateR5900IrInstruction ir index = .ok () :=
        validateR5900IrInstruction_eq_ok_iff.mpr (wellFormed ir (.head _))
      have rest := ih (fun other member => wellFormed other (.tail _ member))
        (index + 1)
      simpa [validateFrom, valid, Nat.add_assoc, Nat.add_comm 1] using rest

theorem validateFrom_firstInvalidAt {instructions : List R5900IrInstruction}
    {index : Nat} {failure : R5900IrValidationFailure}
    (invalid : FirstInvalidAt instructions index failure) :
    validateFrom 0 instructions = .error (mapCompileValidationFailure failure) := by
  obtain ⟨ir, rest, cut, length, wellFormed, refused⟩ := invalid.split
  rw [cut, validateFrom_append wellFormed, length, Nat.zero_add, validateFrom, refused]

/-- No byte is emitted and no page asked for once validation has failed. -/
theorem compileR5900IrX64_firstInvalidAt {instructions : List R5900IrInstruction}
    {index : Nat} {failure : R5900IrValidationFailure}
    (invalid : FirstInvalidAt instructions index failure)
    (os : ExecutablePageOutcome) :
    compileR5900IrX64 os instructions =
      .error (mapCompileValidationFailure failure) := by
  rw [compileR5900IrX64, validateFrom_firstInvalidAt invalid]
  rfl

theorem compileR5900IrX64_error {instructions : List R5900IrInstruction}
    (valid : AllValid instructions) {os : ExecutablePageOutcome}
    {failure : R5900X64CompileFailure}
    (failed : compileR5900IrX64 os instructions = .error failure) :
    failure.error.IsHostFailure := by
  have wellFormed := allValid_iff.mp valid
  obtain ⟨body, emitted, -⟩ := emitFrom_encodes wellFormed 0
  have validated : validateFrom 0 instructions = .ok () :=
    validateFrom_eq_ok_iff.mpr wellFormed
  simp only [compileR5900IrX64, validated, emitted] at failed
  exact publishCode_error failed

section Interpreter

variable (addF32 : BitVec 32 → BitVec 32 → BitVec 32)

theorem executeR5900Ir_zeroNormalized {instructions : List R5900IrInstruction}
    (wellFormed : ∀ ir ∈ instructions, R5900IrWellFormed ir)
    (state : R5900IrExecutionState) :
    (executeR5900Ir addF32 instructions state).2.ZeroNormalized := by
  rw [executeR5900Ir_eq_foldl addF32 wellFormed]
  exact foldl_applyInstruction_zeroNormalized addF32 wellFormed
    (R5900IrExecutionState.zeroNormalized_normalizeZero state)

/-- The interpreter stops at the first rejected instruction and keeps what the
instructions in front of it have done. -/
theorem executeR5900Ir_firstInvalidAt {instructions : List R5900IrInstruction}
    {index : Nat} {failure : R5900IrValidationFailure}
    (invalid : FirstInvalidAt instructions index failure)
    (state : R5900IrExecutionState) :
    executeR5900Ir addF32 instructions state =
      (.error (mapValidationFailure failure),
        (executeR5900Ir addF32 (instructions.take index) state).2) := by
  obtain ⟨ir, rest, cut, length, wellFormed, refused⟩ := invalid.split
  have committed := foldl_applyInstruction_zeroNormalized addF32 wellFormed
    (R5900IrExecutionState.zeroNormalized_normalizeZero state)
  have run : executeFrom addF32 0 instructions state.normalizeZero =
      executeFrom addF32 index (ir :: rest)
        ((instructions.take index).foldl (applyInstruction addF32)
          state.normalizeZero) := by
    conv_lhs => rw [cut]
    rw [executeFrom_append addF32 wellFormed, length, Nat.zero_add]
  rw [executeR5900Ir, run, executeFrom, refused,
    executeR5900Ir_eq_foldl addF32 wellFormed]
  simp only [R5900IrExecutionState.normalizeZero_eq_self committed]

/-- What both paths do with a program the validator accepts throughout. -/
structure AcceptedByBoth (instructions : List R5900IrInstruction)
    (state : R5900IrExecutionState) : Prop where
  executes : (executeR5900Ir addF32 instructions state).1 = .ok ()
  compiles : ∃ block, compileR5900IrX64 .success instructions = .ok block
  hostFailures : ∀ (os : ExecutablePageOutcome) (failure : R5900X64CompileFailure),
    compileR5900IrX64 os instructions = .error failure → failure.error.IsHostFailure

/-- What both paths do with a program whose instruction `index` is refused with
`failure`. -/
structure RejectedByBoth (instructions : List R5900IrInstruction)
    (state : R5900IrExecutionState) (index : Nat)
    (failure : R5900IrValidationFailure) : Prop where
  executes : (executeR5900Ir addF32 instructions state).1 =
    .error (mapValidationFailure failure)
  compiles : ∀ os, compileR5900IrX64 os instructions =
    .error (mapValidationFailure failure).toCompileFailure
  message : (mapValidationFailure failure).message = failure.message
  committedPrefix : (executeR5900Ir addF32 (instructions.take index) state).1 = .ok ()
  committed : (executeR5900Ir addF32 instructions state).2 =
    (executeR5900Ir addF32 (instructions.take index) state).2
  zeroNormalized : (executeR5900Ir addF32 instructions state).2.ZeroNormalized

/-- Either no instruction is invalid and both paths accept, or both fail alike at
the first invalid one. -/
theorem executeR5900Ir_compileR5900IrX64_agree
    (instructions : List R5900IrInstruction) (state : R5900IrExecutionState) :
    (AllValid instructions ∧ AcceptedByBoth addF32 instructions state) ∨
      ∃ index failure, FirstInvalidAt instructions index failure ∧
        RejectedByBoth addF32 instructions state index failure := by
  rcases allValid_or_firstInvalidAt instructions with valid | ⟨index, failure, invalid⟩
  · left
    have wellFormed := allValid_iff.mp valid
    refine ⟨valid, ?_, ?_, ?_⟩
    · rw [executeR5900Ir_eq_foldl addF32 wellFormed]
    · obtain ⟨block, -, compiled, -⟩ := compileR5900IrX64_encodes wellFormed
      exact ⟨block, compiled⟩
    · intro os failure failed
      exact compileR5900IrX64_error valid failed
  · right
    have run := executeR5900Ir_firstInvalidAt addF32 invalid state
    obtain ⟨-, -, -, -, wellFormed, -⟩ := invalid.split
    refine ⟨index, failure, invalid, ?_, ?_, ?_, ?_, ?_, ?_⟩
    · rw [run]
    · intro os
      rw [toCompileFailure_mapValidationFailure]
      exact compileR5900IrX64_firstInvalidAt invalid os
    · obtain ⟨error, message⟩ := failure
      cases error <;> rfl
    · rw [executeR5900Ir_eq_foldl addF32 wellFormed]
    · rw [run]
    · rw [run]
      exact executeR5900Ir_zeroNormalized addF32 wellFormed state

end Interpreter

end Burnout3Recompiled
