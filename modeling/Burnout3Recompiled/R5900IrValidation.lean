import Burnout3Recompiled.HexText
import Burnout3Recompiled.OrderedChecks
import Burnout3Recompiled.R5900Ir

/-!
# Structural validation of IR instructions

The interpreter and the native backend dereference destinations, index operand
lists and index register files without further checks.  Validation is what
licenses those accesses.  `R5900IrWellFormed` lists the accepted shapes, one
constructor for each family of opcodes, and validation succeeds on exactly
those.
-/

namespace Burnout3Recompiled

open OrderedChecks

/-- The failing values of the source enumeration; its `None` is `Except.ok`. -/
inductive R5900IrValidationError where
  | malformedInstruction | invalidRegister | unsupportedOpcode
  deriving DecidableEq, Repr

structure R5900IrValidationFailure where
  error : R5900IrValidationError
  message : String
  deriving DecidableEq, Repr

abbrev R5900IrValidationResult := Except R5900IrValidationFailure Unit

def irInstructionMessage (index : Nat) (guestPc : BitVec 32) (reason : String) :
    String :=
  "IR instruction " ++ toString index ++ " at guest PC 0x" ++
    HexText.hex guestPc.toNat ++ ": " ++ reason

def validationFailure (error : R5900IrValidationError) (index : Nat)
    (guestPc : BitVec 32) (reason : String) : R5900IrValidationFailure :=
  { error := error, message := irInstructionMessage index guestPc reason }

def validateOperand (operand : R5900IrOperand) (index : Nat)
    (guestPc : BitVec 32) : R5900IrValidationResult :=
  match operand.kind with
  | .immediate => .ok ()
  | .gpr =>
      ensure (operand.gprIndex < 32)
        (validationFailure .invalidRegister index guestPc "invalid source GPR")
  | .fpr =>
      ensure (operand.gprIndex < 32)
        (validationFailure .invalidRegister index guestPc "invalid source FPR")
  | .outOfRange =>
      .error (validationFailure .malformedInstruction index guestPc
        "unsupported operand kind")

/-- Returns the destination it found, so that later checks need no second
dereference. -/
def requireDestination (ir : R5900IrInstruction) (index : Nat) :
    Except R5900IrValidationFailure R5900IrDestination :=
  match ir.destination with
  | some destination => .ok destination
  | none =>
      .error (validationFailure .malformedInstruction index ir.guestPc
        "missing destination")

def validateGprDestination (ir : R5900IrInstruction) (index : Nat)
    (expectedMode : R5900IrGprWriteMode) : R5900IrValidationResult := do
  let destination ← requireDestination ir index
  ensure (destination.kind = .gpr)
    (validationFailure .malformedInstruction index ir.guestPc
      "expected GPR destination")
  ensure (destination.index < 32)
    (validationFailure .invalidRegister index ir.guestPc
      "invalid destination GPR")
  ensure (ir.writeMode = expectedMode)
    (validationFailure .malformedInstruction index ir.guestPc
      "invalid GPR write mode")

/-- The loop of several validators: each operand is valid on its own and of an
accepted kind, or the loop stops with the first failure. -/
def validateOperands (accepted : R5900IrOperandKind → Bool) (reason : String)
    (index : Nat) (guestPc : BitVec 32) :
    List R5900IrOperand → R5900IrValidationResult
  | [] => .ok ()
  | operand :: operands => do
      validateOperand operand index guestPc
      ensure (accepted operand.kind)
        (validationFailure .malformedInstruction index guestPc reason)
      validateOperands accepted reason index guestPc operands

def validateExistingIntegerWrite (ir : R5900IrInstruction) (index : Nat) :
    R5900IrValidationResult := do
  validateGprDestination ir index .low64PreserveUpper64
  ensure (ir.inputs.length = 2)
    (validationFailure .malformedInstruction index ir.guestPc
      "expected exactly two inputs")
  validateOperands (· ≠ .fpr) "FPR operand is not valid for this integer opcode"
    index ir.guestPc ir.inputs

def validateAnd64 (ir : R5900IrInstruction) (index : Nat) :
    R5900IrValidationResult := do
  let failure := validationFailure .malformedInstruction index ir.guestPc
    "And64 expects GPR and immediate inputs"
  validateGprDestination ir index .low64PreserveUpper64
  match ir.inputs with
  | [lhs, rhs] =>
      validateOperand lhs index ir.guestPc
      validateOperand rhs index ir.guestPc
      ensure (lhs.kind = .gpr ∧ rhs.kind = .immediate) failure
  | _ => .error failure

def validateLui (ir : R5900IrInstruction) (index : Nat) :
    R5900IrValidationResult := do
  let failure := validationFailure .malformedInstruction index ir.guestPc
    "LoadUpperImmediateSignExtend expects one immediate input"
  validateGprDestination ir index .low64PreserveUpper64
  match ir.inputs with
  | [input] => ensure (input.kind = .immediate) failure
  | _ => .error failure

def validatePackedU32Add (ir : R5900IrInstruction) (index : Nat) :
    R5900IrValidationResult := do
  validateGprDestination ir index .full128
  ensure (ir.inputs.length = 2)
    (validationFailure .malformedInstruction index ir.guestPc
      "packed add expects exactly two GPR inputs")
  validateOperands (· = .gpr) "packed add expects exactly two GPR inputs"
    index ir.guestPc ir.inputs

def isHiloDestination : R5900IrDestinationKind → Bool
  | .hi | .lo | .hi1 | .lo1 => true
  | _ => false

def validateMoveGprLow64 (ir : R5900IrInstruction) (index : Nat) :
    R5900IrValidationResult := do
  let destination ← requireDestination ir index
  ensure (isHiloDestination destination.kind ∧ destination.index = 0)
    (validationFailure .malformedInstruction index ir.guestPc
      "MoveGprLow64 expects unindexed HI/LO/HI1/LO1 destination")
  match ir.writeMode, ir.inputs with
  | .none, [input] =>
      validateOperand input index ir.guestPc
      ensure (input.kind = .gpr)
        (validationFailure .malformedInstruction index ir.guestPc
          "MoveGprLow64 expects one GPR input")
  | _, _ =>
      .error (validationFailure .malformedInstruction index ir.guestPc
        "MoveGprLow64 expects one GPR input and no GPR write mode")

/-- The immediate operand is checked for its kind only. -/
def validateMtsah (ir : R5900IrInstruction) (index : Nat) :
    R5900IrValidationResult := do
  let failure := validationFailure .malformedInstruction index ir.guestPc
    "ComputeMtsah expects GPR and immediate inputs"
  let destination ← requireDestination ir index
  ensure (destination.kind = .sa ∧ destination.index = 0)
    (validationFailure .malformedInstruction index ir.guestPc
      "ComputeMtsah expects unindexed SA destination")
  match ir.writeMode, ir.inputs with
  | .none, [source, immediate] =>
      validateOperand source index ir.guestPc
      ensure (source.kind = .gpr ∧ immediate.kind = .immediate) failure
  | _, _ => .error failure

def validateMoveBits32Destination (destination : R5900IrDestination)
    (index : Nat) (guestPc : BitVec 32) : R5900IrValidationResult :=
  match destination.kind with
  | .fpr =>
      ensure (destination.index < 32)
        (validationFailure .invalidRegister index guestPc
          "invalid destination FPR")
  | .fcr31 =>
      ensure (destination.index = 0)
        (validationFailure .malformedInstruction index guestPc
          "FCR31 destination must be unindexed")
  | _ =>
      .error (validationFailure .malformedInstruction index guestPc
        "MoveBits32 expects FPR or FCR31 destination")

def validateMoveBits32 (ir : R5900IrInstruction) (index : Nat) :
    R5900IrValidationResult := do
  let destination ← requireDestination ir index
  match ir.writeMode, ir.inputs with
  | .none, [input] =>
      validateOperand input index ir.guestPc
      ensure (input.kind = .gpr)
        (validationFailure .malformedInstruction index ir.guestPc
          "MoveBits32 expects one GPR input")
      validateMoveBits32Destination destination index ir.guestPc
  | _, _ =>
      .error (validationFailure .malformedInstruction index ir.guestPc
        "MoveBits32 expects one GPR input and no GPR write mode")

def validateAddF32Accumulator (ir : R5900IrInstruction) (index : Nat) :
    R5900IrValidationResult := do
  let destination ← requireDestination ir index
  ensure (destination.kind = .fpAccumulator ∧ destination.index = 0)
    (validationFailure .malformedInstruction index ir.guestPc
      "AddF32ToAccumulator expects unindexed FP accumulator destination")
  ensure (ir.writeMode = .none ∧ ir.inputs.length = 2)
    (validationFailure .malformedInstruction index ir.guestPc
      "AddF32ToAccumulator expects two FPR inputs and no GPR write mode")
  validateOperands (· = .fpr) "AddF32ToAccumulator expects exactly two FPR inputs"
    index ir.guestPc ir.inputs

def validateR5900IrInstruction (ir : R5900IrInstruction) (index : Nat) :
    R5900IrValidationResult :=
  match ir.opcode with
  | .nop =>
      ensure (ir.destination = none ∧ ir.inputs = [] ∧ ir.writeMode = .none)
        (validationFailure .malformedInstruction index ir.guestPc
          "malformed Nop")
  | .addWordSignExtend | .or64 => validateExistingIntegerWrite ir index
  | .and64 => validateAnd64 ir index
  | .loadUpperImmediateSignExtend => validateLui ir index
  | .addPackedU32Saturate128 => validatePackedU32Add ir index
  | .moveGprLow64 => validateMoveGprLow64 ir index
  | .computeMtsah => validateMtsah ir index
  | .moveBits32 => validateMoveBits32 ir index
  | .addF32ToAccumulator => validateAddF32Accumulator ir index
  | .outOfRange =>
      .error (validationFailure .unsupportedOpcode index ir.guestPc
        "unsupported opcode")

namespace R5900IrOperand

def IsGpr (operand : R5900IrOperand) : Prop :=
  operand.kind = .gpr ∧ operand.gprIndex < 32

def IsFpr (operand : R5900IrOperand) : Prop :=
  operand.kind = .fpr ∧ operand.gprIndex < 32

def IsImmediate (operand : R5900IrOperand) : Prop :=
  operand.kind = .immediate

def IsInteger (operand : R5900IrOperand) : Prop :=
  operand.IsGpr ∨ operand.IsImmediate

end R5900IrOperand

/-- The instructions the interpreter and the backend can execute without an
access outside a register file, an operand list or an optional. -/
inductive R5900IrWellFormed : R5900IrInstruction → Prop
  | nop {guestPc guestRaw : BitVec 32} :
      R5900IrWellFormed ⟨guestPc, guestRaw, .nop, none, .none, []⟩
  | addWordSignExtend {guestPc guestRaw : BitVec 32} {rd : BitVec 8}
      {lhs rhs : R5900IrOperand} (destination : rd < 32)
      (left : lhs.IsInteger) (right : rhs.IsInteger) :
      R5900IrWellFormed ⟨guestPc, guestRaw, .addWordSignExtend,
        some ⟨.gpr, rd⟩, .low64PreserveUpper64, [lhs, rhs]⟩
  | or64 {guestPc guestRaw : BitVec 32} {rd : BitVec 8}
      {lhs rhs : R5900IrOperand} (destination : rd < 32)
      (left : lhs.IsInteger) (right : rhs.IsInteger) :
      R5900IrWellFormed ⟨guestPc, guestRaw, .or64,
        some ⟨.gpr, rd⟩, .low64PreserveUpper64, [lhs, rhs]⟩
  | and64 {guestPc guestRaw : BitVec 32} {rd : BitVec 8}
      {lhs rhs : R5900IrOperand} (destination : rd < 32)
      (left : lhs.IsGpr) (right : rhs.IsImmediate) :
      R5900IrWellFormed ⟨guestPc, guestRaw, .and64,
        some ⟨.gpr, rd⟩, .low64PreserveUpper64, [lhs, rhs]⟩
  | lui {guestPc guestRaw : BitVec 32} {rd : BitVec 8}
      {input : R5900IrOperand} (destination : rd < 32)
      (source : input.IsImmediate) :
      R5900IrWellFormed ⟨guestPc, guestRaw, .loadUpperImmediateSignExtend,
        some ⟨.gpr, rd⟩, .low64PreserveUpper64, [input]⟩
  | packedU32Add {guestPc guestRaw : BitVec 32} {rd : BitVec 8}
      {lhs rhs : R5900IrOperand} (destination : rd < 32)
      (left : lhs.IsGpr) (right : rhs.IsGpr) :
      R5900IrWellFormed ⟨guestPc, guestRaw, .addPackedU32Saturate128,
        some ⟨.gpr, rd⟩, .full128, [lhs, rhs]⟩
  | moveGprLow64 {guestPc guestRaw : BitVec 32}
      {kind : R5900IrDestinationKind} {input : R5900IrOperand}
      (destination : isHiloDestination kind) (source : input.IsGpr) :
      R5900IrWellFormed ⟨guestPc, guestRaw, .moveGprLow64,
        some ⟨kind, 0⟩, .none, [input]⟩
  | mtsah {guestPc guestRaw : BitVec 32} {input immediate : R5900IrOperand}
      (source : input.IsGpr) (constant : immediate.IsImmediate) :
      R5900IrWellFormed ⟨guestPc, guestRaw, .computeMtsah,
        some ⟨.sa, 0⟩, .none, [input, immediate]⟩
  | moveBitsToFpr {guestPc guestRaw : BitVec 32} {fd : BitVec 8}
      {input : R5900IrOperand} (destination : fd < 32) (source : input.IsGpr) :
      R5900IrWellFormed ⟨guestPc, guestRaw, .moveBits32,
        some ⟨.fpr, fd⟩, .none, [input]⟩
  | moveBitsToFcr31 {guestPc guestRaw : BitVec 32} {input : R5900IrOperand}
      (source : input.IsGpr) :
      R5900IrWellFormed ⟨guestPc, guestRaw, .moveBits32,
        some ⟨.fcr31, 0⟩, .none, [input]⟩
  | addF32Accumulator {guestPc guestRaw : BitVec 32}
      {lhs rhs : R5900IrOperand} (left : lhs.IsFpr) (right : rhs.IsFpr) :
      R5900IrWellFormed ⟨guestPc, guestRaw, .addF32ToAccumulator,
        some ⟨.fpAccumulator, 0⟩, .none, [lhs, rhs]⟩

/-- Acceptance of a single operand, before its kind is compared. -/
def R5900IrOperand.IsValid (operand : R5900IrOperand) : Prop :=
  operand.IsGpr ∨ operand.IsFpr ∨ operand.IsImmediate

namespace R5900IrOperand

theorem isValid_and_gprKind_iff {operand : R5900IrOperand} :
    operand.IsValid ∧ operand.kind = .gpr ↔ operand.IsGpr := by
  unfold IsValid IsGpr IsFpr IsImmediate
  cases operand.kind <;> simp

theorem isValid_and_fprKind_iff {operand : R5900IrOperand} :
    operand.IsValid ∧ operand.kind = .fpr ↔ operand.IsFpr := by
  unfold IsValid IsGpr IsFpr IsImmediate
  cases operand.kind <;> simp

theorem isValid_and_immediateKind_iff {operand : R5900IrOperand} :
    operand.IsValid ∧ operand.kind = .immediate ↔ operand.IsImmediate := by
  unfold IsValid IsGpr IsFpr IsImmediate
  cases operand.kind <;> simp

theorem isValid_and_ne_fprKind_iff {operand : R5900IrOperand} :
    operand.IsValid ∧ operand.kind ≠ .fpr ↔ operand.IsInteger := by
  unfold IsValid IsInteger IsGpr IsFpr IsImmediate
  cases operand.kind <;> simp

end R5900IrOperand

open R5900IrOperand

@[simp]
theorem validateOperand_eq_ok_iff {operand : R5900IrOperand} {index : Nat}
    {guestPc : BitVec 32} {value : Unit} :
    validateOperand operand index guestPc = .ok value ↔ operand.IsValid := by
  unfold validateOperand IsValid IsGpr IsFpr IsImmediate
  cases operand.kind <;> simp

@[simp]
theorem requireDestination_eq_ok_iff {ir : R5900IrInstruction} {index : Nat}
    {destination : R5900IrDestination} :
    requireDestination ir index = .ok destination ↔
      ir.destination = some destination := by
  unfold requireDestination
  cases ir.destination <;> simp

/-- The destination the GPR-writing opcodes share. -/
def R5900IrInstruction.HasGprDestination (ir : R5900IrInstruction)
    (mode : R5900IrGprWriteMode) : Prop :=
  ∃ rd, ir.destination = some ⟨.gpr, rd⟩ ∧ rd < 32 ∧ ir.writeMode = mode

@[simp]
theorem validateGprDestination_eq_ok_iff {ir : R5900IrInstruction} {index : Nat}
    {expectedMode : R5900IrGprWriteMode} {value : Unit} :
    validateGprDestination ir index expectedMode = .ok value ↔
      ir.HasGprDestination expectedMode := by
  simp only [validateGprDestination, bind_eq_ok_iff, ensure_eq_ok_iff,
    requireDestination_eq_ok_iff]
  constructor
  · rintro ⟨⟨kind, rd⟩, present, -, rfl, -, inRange, mode⟩
    exact ⟨rd, present, inRange, mode⟩
  · rintro ⟨rd, present, inRange, mode⟩
    exact ⟨_, present, (), rfl, (), inRange, mode⟩

@[simp]
theorem validateOperands_eq_ok_iff {accepted : R5900IrOperandKind → Bool}
    {reason : String} {index : Nat} {guestPc : BitVec 32}
    {operands : List R5900IrOperand} {value : Unit} :
    validateOperands accepted reason index guestPc operands = .ok value ↔
      ∀ operand ∈ operands, operand.IsValid ∧ accepted operand.kind := by
  induction operands with
  | nil => simp [validateOperands]
  | cons operand operands ih => simp [validateOperands, ih, and_assoc]

theorem validateExistingIntegerWrite_eq_ok_iff {ir : R5900IrInstruction}
    {index : Nat} {value : Unit} :
    validateExistingIntegerWrite ir index = .ok value ↔
      ir.HasGprDestination .low64PreserveUpper64 ∧
        ∃ lhs rhs, ir.inputs = [lhs, rhs] ∧ lhs.IsInteger ∧ rhs.IsInteger := by
  simp only [validateExistingIntegerWrite, bind_eq_ok_iff, ensure_eq_ok_iff,
    validateGprDestination_eq_ok_iff, validateOperands_eq_ok_iff,
    List.length_eq_two, decide_eq_true_eq, isValid_and_ne_fprKind_iff]
  constructor
  · rintro ⟨-, destination, -, ⟨lhs, rhs, inputs⟩, operands⟩
    exact ⟨destination, lhs, rhs, inputs, operands lhs (by simp [inputs]),
      operands rhs (by simp [inputs])⟩
  · rintro ⟨destination, lhs, rhs, inputs, left, right⟩
    exact ⟨(), destination, (), ⟨lhs, rhs, inputs⟩, by simp [inputs, left, right]⟩

theorem validatePackedU32Add_eq_ok_iff {ir : R5900IrInstruction} {index : Nat}
    {value : Unit} :
    validatePackedU32Add ir index = .ok value ↔
      ir.HasGprDestination .full128 ∧
        ∃ lhs rhs, ir.inputs = [lhs, rhs] ∧ lhs.IsGpr ∧ rhs.IsGpr := by
  simp only [validatePackedU32Add, bind_eq_ok_iff, ensure_eq_ok_iff,
    validateGprDestination_eq_ok_iff, validateOperands_eq_ok_iff,
    List.length_eq_two, decide_eq_true_eq, isValid_and_gprKind_iff]
  constructor
  · rintro ⟨-, destination, -, ⟨lhs, rhs, inputs⟩, operands⟩
    exact ⟨destination, lhs, rhs, inputs, operands lhs (by simp [inputs]),
      operands rhs (by simp [inputs])⟩
  · rintro ⟨destination, lhs, rhs, inputs, left, right⟩
    exact ⟨(), destination, (), ⟨lhs, rhs, inputs⟩, by simp [inputs, left, right]⟩

theorem validateAnd64_eq_ok_iff {ir : R5900IrInstruction} {index : Nat}
    {value : Unit} :
    validateAnd64 ir index = .ok value ↔
      ir.HasGprDestination .low64PreserveUpper64 ∧
        ∃ lhs rhs, ir.inputs = [lhs, rhs] ∧ lhs.IsGpr ∧ rhs.IsImmediate := by
  simp only [validateAnd64, bind_eq_ok_iff, validateGprDestination_eq_ok_iff,
    ← isValid_and_gprKind_iff, ← isValid_and_immediateKind_iff]
  rcases ir.inputs with _ | ⟨lhs, _ | ⟨rhs, _ | ⟨extra, rest⟩⟩⟩
  · simp
  · simp
  · simp only [bind_eq_ok_iff, validateOperand_eq_ok_iff, ensure_eq_ok_iff,
      List.cons.injEq, and_true, exists_and_left, exists_const]
    grind
  · simp

theorem validateLui_eq_ok_iff {ir : R5900IrInstruction} {index : Nat}
    {value : Unit} :
    validateLui ir index = .ok value ↔
      ir.HasGprDestination .low64PreserveUpper64 ∧
        ∃ input, ir.inputs = [input] ∧ input.IsImmediate := by
  simp only [validateLui, bind_eq_ok_iff, validateGprDestination_eq_ok_iff]
  rcases ir.inputs with _ | ⟨input, _ | ⟨extra, rest⟩⟩
  · simp
  · simp [IsImmediate]
  · simp

theorem validateMoveGprLow64_eq_ok_iff {ir : R5900IrInstruction} {index : Nat}
    {value : Unit} :
    validateMoveGprLow64 ir index = .ok value ↔
      (∃ kind, ir.destination = some ⟨kind, 0⟩ ∧ isHiloDestination kind) ∧
        ir.writeMode = .none ∧ ∃ input, ir.inputs = [input] ∧ input.IsGpr := by
  simp only [validateMoveGprLow64, bind_eq_ok_iff, ensure_eq_ok_iff,
    requireDestination_eq_ok_iff, ← isValid_and_gprKind_iff]
  constructor
  · rintro ⟨⟨kind, destinationIndex⟩, present, -, ⟨hilo, rfl⟩, operands⟩
    refine ⟨⟨kind, present, hilo⟩, ?_⟩
    split at operands <;> simp_all
  · rintro ⟨⟨kind, present, hilo⟩, mode, input, inputs, valid, gprKind⟩
    refine ⟨_, present, (), ⟨hilo, rfl⟩, ?_⟩
    simp [mode, inputs, valid, gprKind]

theorem validateMtsah_eq_ok_iff {ir : R5900IrInstruction} {index : Nat}
    {value : Unit} :
    validateMtsah ir index = .ok value ↔
      ir.destination = some ⟨.sa, 0⟩ ∧ ir.writeMode = .none ∧
        ∃ source immediate, ir.inputs = [source, immediate] ∧
          source.IsGpr ∧ immediate.IsImmediate := by
  simp only [validateMtsah, bind_eq_ok_iff, ensure_eq_ok_iff,
    requireDestination_eq_ok_iff, ← isValid_and_gprKind_iff, IsImmediate]
  constructor
  · rintro ⟨⟨kind, destinationIndex⟩, present, -, ⟨rfl, rfl⟩, operands⟩
    refine ⟨present, ?_⟩
    split at operands <;> simp_all
  · rintro ⟨present, mode, source, immediate, inputs, ⟨valid, gprKind⟩, constant⟩
    refine ⟨_, present, (), ⟨rfl, rfl⟩, ?_⟩
    simp [mode, inputs, valid, gprKind, constant]

@[simp]
theorem validateMoveBits32Destination_eq_ok_iff
    {destination : R5900IrDestination} {index : Nat} {guestPc : BitVec 32}
    {value : Unit} :
    validateMoveBits32Destination destination index guestPc = .ok value ↔
      (destination.kind = .fpr ∧ destination.index < 32) ∨
        (destination.kind = .fcr31 ∧ destination.index = 0) := by
  unfold validateMoveBits32Destination
  cases destination.kind <;> simp

theorem validateMoveBits32_eq_ok_iff {ir : R5900IrInstruction} {index : Nat}
    {value : Unit} :
    validateMoveBits32 ir index = .ok value ↔
      ((∃ fd, ir.destination = some ⟨.fpr, fd⟩ ∧ fd < 32) ∨
          ir.destination = some ⟨.fcr31, 0⟩) ∧
        ir.writeMode = .none ∧ ∃ input, ir.inputs = [input] ∧ input.IsGpr := by
  simp only [validateMoveBits32, bind_eq_ok_iff, requireDestination_eq_ok_iff,
    ← isValid_and_gprKind_iff]
  constructor
  · rintro ⟨⟨kind, destinationIndex⟩, present, checks⟩
    rw [present]
    split at checks <;> simp_all
  · rintro ⟨⟨fd, present, inRange⟩ | present, mode, input, inputs, valid, gprKind⟩
    · exact ⟨_, present, by simpa [mode, inputs, valid, gprKind] using inRange⟩
    · exact ⟨_, present, by simp [mode, inputs, valid, gprKind]⟩

theorem validateAddF32Accumulator_eq_ok_iff {ir : R5900IrInstruction}
    {index : Nat} {value : Unit} :
    validateAddF32Accumulator ir index = .ok value ↔
      ir.destination = some ⟨.fpAccumulator, 0⟩ ∧ ir.writeMode = .none ∧
        ∃ lhs rhs, ir.inputs = [lhs, rhs] ∧ lhs.IsFpr ∧ rhs.IsFpr := by
  simp only [validateAddF32Accumulator, bind_eq_ok_iff, ensure_eq_ok_iff,
    requireDestination_eq_ok_iff, validateOperands_eq_ok_iff, List.length_eq_two,
    decide_eq_true_eq, isValid_and_fprKind_iff]
  constructor
  · rintro ⟨⟨kind, destinationIndex⟩, present, -, ⟨rfl, rfl⟩, -,
      ⟨mode, lhs, rhs, inputs⟩, operands⟩
    exact ⟨present, mode, lhs, rhs, inputs, operands lhs (by simp [inputs]),
      operands rhs (by simp [inputs])⟩
  · rintro ⟨present, mode, lhs, rhs, inputs, left, right⟩
    exact ⟨_, present, (), ⟨rfl, rfl⟩, (), ⟨mode, lhs, rhs, inputs⟩,
      by simp [inputs, left, right]⟩

/-- Validation succeeds on the well-formed instructions and on no others,
whatever index the message would have carried. -/
theorem validateR5900IrInstruction_eq_ok_iff {ir : R5900IrInstruction}
    {index : Nat} {value : Unit} :
    validateR5900IrInstruction ir index = .ok value ↔ R5900IrWellFormed ir := by
  constructor
  · obtain ⟨guestPc, guestRaw, opcode, destination, writeMode, inputs⟩ := ir
    intro valid
    cases opcode with
    | nop =>
        obtain ⟨rfl, rfl, rfl⟩ := ensure_eq_ok_iff.mp valid
        exact .nop
    | addWordSignExtend =>
        obtain ⟨⟨rd, rfl, inRange, rfl⟩, lhs, rhs, rfl, left, right⟩ :=
          validateExistingIntegerWrite_eq_ok_iff.mp valid
        exact .addWordSignExtend inRange left right
    | or64 =>
        obtain ⟨⟨rd, rfl, inRange, rfl⟩, lhs, rhs, rfl, left, right⟩ :=
          validateExistingIntegerWrite_eq_ok_iff.mp valid
        exact .or64 inRange left right
    | and64 =>
        obtain ⟨⟨rd, rfl, inRange, rfl⟩, lhs, rhs, rfl, left, right⟩ :=
          validateAnd64_eq_ok_iff.mp valid
        exact .and64 inRange left right
    | loadUpperImmediateSignExtend =>
        obtain ⟨⟨rd, rfl, inRange, rfl⟩, input, rfl, source⟩ :=
          validateLui_eq_ok_iff.mp valid
        exact .lui inRange source
    | addPackedU32Saturate128 =>
        obtain ⟨⟨rd, rfl, inRange, rfl⟩, lhs, rhs, rfl, left, right⟩ :=
          validatePackedU32Add_eq_ok_iff.mp valid
        exact .packedU32Add inRange left right
    | moveGprLow64 =>
        obtain ⟨⟨kind, rfl, hilo⟩, rfl, input, rfl, source⟩ :=
          validateMoveGprLow64_eq_ok_iff.mp valid
        exact .moveGprLow64 hilo source
    | computeMtsah =>
        obtain ⟨rfl, rfl, input, immediate, rfl, source, constant⟩ :=
          validateMtsah_eq_ok_iff.mp valid
        exact .mtsah source constant
    | moveBits32 =>
        obtain ⟨⟨fd, rfl, inRange⟩ | rfl, rfl, input, rfl, source⟩ :=
          validateMoveBits32_eq_ok_iff.mp valid
        · exact .moveBitsToFpr inRange source
        · exact .moveBitsToFcr31 source
    | addF32ToAccumulator =>
        obtain ⟨rfl, rfl, lhs, rhs, rfl, left, right⟩ :=
          validateAddF32Accumulator_eq_ok_iff.mp valid
        exact .addF32Accumulator left right
    | outOfRange => cases valid
  · intro wellFormed
    cases wellFormed with
    | nop => exact ensure_eq_ok_iff.mpr ⟨rfl, rfl, rfl⟩
    | addWordSignExtend inRange left right =>
        exact validateExistingIntegerWrite_eq_ok_iff.mpr
          ⟨⟨_, rfl, inRange, rfl⟩, _, _, rfl, left, right⟩
    | or64 inRange left right =>
        exact validateExistingIntegerWrite_eq_ok_iff.mpr
          ⟨⟨_, rfl, inRange, rfl⟩, _, _, rfl, left, right⟩
    | and64 inRange left right =>
        exact validateAnd64_eq_ok_iff.mpr
          ⟨⟨_, rfl, inRange, rfl⟩, _, _, rfl, left, right⟩
    | lui inRange source =>
        exact validateLui_eq_ok_iff.mpr ⟨⟨_, rfl, inRange, rfl⟩, _, rfl, source⟩
    | packedU32Add inRange left right =>
        exact validatePackedU32Add_eq_ok_iff.mpr
          ⟨⟨_, rfl, inRange, rfl⟩, _, _, rfl, left, right⟩
    | moveGprLow64 hilo source =>
        exact validateMoveGprLow64_eq_ok_iff.mpr
          ⟨⟨_, rfl, hilo⟩, rfl, _, rfl, source⟩
    | mtsah source constant =>
        exact validateMtsah_eq_ok_iff.mpr ⟨rfl, rfl, _, _, rfl, source, constant⟩
    | moveBitsToFpr inRange source =>
        exact validateMoveBits32_eq_ok_iff.mpr
          ⟨.inl ⟨_, rfl, inRange⟩, rfl, _, rfl, source⟩
    | moveBitsToFcr31 source =>
        exact validateMoveBits32_eq_ok_iff.mpr ⟨.inr rfl, rfl, _, rfl, source⟩
    | addF32Accumulator left right =>
        exact validateAddF32Accumulator_eq_ok_iff.mpr
          ⟨rfl, rfl, _, _, rfl, left, right⟩

end Burnout3Recompiled
