import Burnout3Recompiled.R5900IrValidation

/-!
# The shapes that validation accepts

Every opcode has one shape: the kinds of its destination, its write mode and the kinds of
its operands.  Validation accepts the instructions of that shape with every register in
range, and no others.
-/

namespace Burnout3Recompiled

/-- The destination kinds, the write mode and the operand kinds of an opcode.  No kinds
mean no destination. -/
structure R5900IrShape where
  destinations : List R5900IrDestinationKind := []
  writeMode : R5900IrGprWriteMode := .none
  operands : List (List R5900IrOperandKind) := []
  deriving DecidableEq, Repr

def R5900IrOpcode.shape? : R5900IrOpcode → Option R5900IrShape
  | .nop => some {}
  | .addWordSignExtend | .or64 =>
      some ⟨[.gpr], .low64PreserveUpper64, [[.gpr, .immediate], [.gpr, .immediate]]⟩
  | .and64 => some ⟨[.gpr], .low64PreserveUpper64, [[.gpr], [.immediate]]⟩
  | .loadUpperImmediateSignExtend =>
      some ⟨[.gpr], .low64PreserveUpper64, [[.immediate]]⟩
  | .addPackedU32Saturate128 => some ⟨[.gpr], .full128, [[.gpr], [.gpr]]⟩
  | .moveGprLow64 => some ⟨[.hi, .lo, .hi1, .lo1], .none, [[.gpr]]⟩
  | .computeMtsah => some ⟨[.sa], .none, [[.gpr], [.immediate]]⟩
  | .moveBits32 => some ⟨[.fpr, .fcr31], .none, [[.gpr]]⟩
  | .addF32ToAccumulator => some ⟨[.fpAccumulator], .none, [[.fpr], [.fpr]]⟩
  | .outOfRange => none

/-- Register files have 32 registers; the other destinations carry no index. -/
def R5900IrDestination.InRange (destination : R5900IrDestination) : Prop :=
  match destination.kind with
  | .gpr | .fpr => destination.index < 32
  | _ => destination.index = 0

def R5900IrOperand.InRange (operand : R5900IrOperand) : Prop :=
  match operand.kind with
  | .gpr | .fpr => operand.gprIndex < 32
  | _ => True

/-- The instruction has the shape, with every register in range. -/
structure R5900IrInstruction.HasShape (ir : R5900IrInstruction) (shape : R5900IrShape) :
    Prop where
  destination :
    match ir.destination with
    | none => shape.destinations = []
    | some destination => destination.kind ∈ shape.destinations ∧ destination.InRange
  writeMode : ir.writeMode = shape.writeMode
  operands : List.Forall₂ (fun operand kinds => operand.kind ∈ kinds ∧ operand.InRange)
    ir.inputs shape.operands

namespace R5900IrOperand

variable {operand : R5900IrOperand}

theorem isGpr_iff : operand.IsGpr ↔ operand.kind ∈ [.gpr] ∧ operand.InRange := by
  unfold IsGpr InRange
  cases operand.kind <;> simp

theorem isFpr_iff : operand.IsFpr ↔ operand.kind ∈ [.fpr] ∧ operand.InRange := by
  unfold IsFpr InRange
  cases operand.kind <;> simp

theorem isImmediate_iff : operand.IsImmediate ↔ operand.kind ∈ [.immediate] ∧ operand.InRange := by
  unfold IsImmediate InRange
  cases operand.kind <;> simp

theorem isInteger_iff :
    operand.IsInteger ↔ operand.kind ∈ [.gpr, .immediate] ∧ operand.InRange := by
  unfold IsInteger IsGpr IsImmediate InRange
  cases operand.kind <;> simp

end R5900IrOperand

section Shapes

variable {ir : R5900IrInstruction} {index : Nat}

open R5900IrOperand

theorem R5900IrWellFormed.hasShape (wellFormed : R5900IrWellFormed ir) :
    ∃ shape, ir.opcode.shape? = some shape ∧ ir.HasShape shape := by
  have gprDestination : ∀ {rd : BitVec 8}, rd < 32 →
      R5900IrDestinationKind.gpr ∈ [R5900IrDestinationKind.gpr] ∧
        (⟨.gpr, rd⟩ : R5900IrDestination).InRange :=
    fun inRange => ⟨.head _, inRange⟩
  cases wellFormed with
  | nop => exact ⟨_, rfl, rfl, rfl, .nil⟩
  | addWordSignExtend inRange left right =>
      exact ⟨_, rfl, gprDestination inRange, rfl,
        .cons (isInteger_iff.mp left) (.cons (isInteger_iff.mp right) .nil)⟩
  | or64 inRange left right =>
      exact ⟨_, rfl, gprDestination inRange, rfl,
        .cons (isInteger_iff.mp left) (.cons (isInteger_iff.mp right) .nil)⟩
  | and64 inRange left right =>
      exact ⟨_, rfl, gprDestination inRange, rfl,
        .cons (isGpr_iff.mp left) (.cons (isImmediate_iff.mp right) .nil)⟩
  | lui inRange source =>
      exact ⟨_, rfl, gprDestination inRange, rfl, .cons (isImmediate_iff.mp source) .nil⟩
  | packedU32Add inRange left right =>
      exact ⟨_, rfl, gprDestination inRange, rfl,
        .cons (isGpr_iff.mp left) (.cons (isGpr_iff.mp right) .nil)⟩
  | @moveGprLow64 _ _ kind _ hilo source =>
      refine ⟨_, rfl, ?_, rfl, .cons (isGpr_iff.mp source) .nil⟩
      cases kind with
      | hi | lo | hi1 | lo1 => exact ⟨by simp, rfl⟩
      | _ => cases hilo
  | mtsah source constant =>
      exact ⟨_, rfl, ⟨.head _, rfl⟩, rfl,
        .cons (isGpr_iff.mp source) (.cons (isImmediate_iff.mp constant) .nil)⟩
  | moveBitsToFpr inRange source =>
      exact ⟨_, rfl, ⟨.head _, inRange⟩, rfl, .cons (isGpr_iff.mp source) .nil⟩
  | moveBitsToFcr31 source =>
      exact ⟨_, rfl, ⟨.tail _ (.head _), rfl⟩, rfl, .cons (isGpr_iff.mp source) .nil⟩
  | addF32Accumulator left right =>
      exact ⟨_, rfl, ⟨.head _, rfl⟩, rfl,
        .cons (isFpr_iff.mp left) (.cons (isFpr_iff.mp right) .nil)⟩

theorem exists_singleton_of_forall₂ {α β : Type*} {related : α → β → Prop} {values : List α}
    {only : β} (matched : List.Forall₂ related values [only]) :
    ∃ value, values = [value] ∧ related value only := by
  cases matched with
  | cons here rest =>
      cases rest with
      | nil => exact ⟨_, rfl, here⟩

theorem exists_pair_of_forall₂ {α β : Type*} {related : α → β → Prop} {values : List α}
    {first second : β} (matched : List.Forall₂ related values [first, second]) :
    ∃ left right, values = [left, right] ∧ related left first ∧ related right second := by
  cases matched with
  | cons here rest =>
      obtain ⟨right, rfl, there⟩ := exists_singleton_of_forall₂ rest
      exact ⟨_, right, rfl, here, there⟩

/-- A shape with destinations has one of them. -/
theorem R5900IrInstruction.HasShape.exists_destination {shape : R5900IrShape}
    (hasShape : ir.HasShape shape) (named : shape.destinations ≠ []) :
    ∃ kind index, ir.destination = some ⟨kind, index⟩ ∧ kind ∈ shape.destinations ∧
      (⟨kind, index⟩ : R5900IrDestination).InRange := by
  have destination := hasShape.destination
  cases present : ir.destination with
  | none =>
      rw [present] at destination
      exact absurd destination named
  | some found =>
      rw [present] at destination
      exact ⟨found.kind, found.index, rfl, destination.1, destination.2⟩

/-- A shape with one destination kind has that destination. -/
theorem R5900IrInstruction.HasShape.exists_index {shape : R5900IrShape}
    {kind : R5900IrDestinationKind} (hasShape : ir.HasShape shape)
    (only : shape.destinations = [kind]) :
    ∃ index, ir.destination = some ⟨kind, index⟩ ∧
      (⟨kind, index⟩ : R5900IrDestination).InRange := by
  obtain ⟨other, index, present, member, inRange⟩ := hasShape.exists_destination (by simp [only])
  rw [only] at member
  obtain rfl := List.mem_singleton.mp member
  exact ⟨index, present, inRange⟩

theorem R5900IrInstruction.HasShape.wellFormed {shape : R5900IrShape}
    (known : ir.opcode.shape? = some shape) (hasShape : ir.HasShape shape) :
    R5900IrWellFormed ir := by
  have named := hasShape.exists_destination
  have only {kind : R5900IrDestinationKind} (single : shape.destinations = [kind]) :=
    hasShape.exists_index single
  obtain ⟨guestPc, guestRaw, opcode, destination, writeMode, inputs⟩ := ir
  obtain ⟨target, mode, operands⟩ := hasShape
  cases opcode with
  | nop =>
      obtain rfl := Option.some.inj known
      obtain rfl : writeMode = .none := mode
      cases operands with
      | nil =>
          cases destination with
          | none => exact .nop
          | some destination => exact absurd target.1 (List.not_mem_nil)
  | addWordSignExtend =>
      obtain rfl := Option.some.inj known
      obtain rfl : writeMode = .low64PreserveUpper64 := mode
      obtain ⟨rd, rfl, inRange⟩ := only rfl
      obtain ⟨lhs, rhs, rfl, left, right⟩ := exists_pair_of_forall₂ operands
      exact .addWordSignExtend inRange (isInteger_iff.mpr left) (isInteger_iff.mpr right)
  | or64 =>
      obtain rfl := Option.some.inj known
      obtain rfl : writeMode = .low64PreserveUpper64 := mode
      obtain ⟨rd, rfl, inRange⟩ := only rfl
      obtain ⟨lhs, rhs, rfl, left, right⟩ := exists_pair_of_forall₂ operands
      exact .or64 inRange (isInteger_iff.mpr left) (isInteger_iff.mpr right)
  | and64 =>
      obtain rfl := Option.some.inj known
      obtain rfl : writeMode = .low64PreserveUpper64 := mode
      obtain ⟨rd, rfl, inRange⟩ := only rfl
      obtain ⟨lhs, rhs, rfl, left, right⟩ := exists_pair_of_forall₂ operands
      exact .and64 inRange (isGpr_iff.mpr left) (isImmediate_iff.mpr right)
  | loadUpperImmediateSignExtend =>
      obtain rfl := Option.some.inj known
      obtain rfl : writeMode = .low64PreserveUpper64 := mode
      obtain ⟨rd, rfl, inRange⟩ := only rfl
      obtain ⟨input, rfl, source⟩ := exists_singleton_of_forall₂ operands
      exact .lui inRange (isImmediate_iff.mpr source)
  | addPackedU32Saturate128 =>
      obtain rfl := Option.some.inj known
      obtain rfl : writeMode = .full128 := mode
      obtain ⟨rd, rfl, inRange⟩ := only rfl
      obtain ⟨lhs, rhs, rfl, left, right⟩ := exists_pair_of_forall₂ operands
      exact .packedU32Add inRange (isGpr_iff.mpr left) (isGpr_iff.mpr right)
  | moveGprLow64 =>
      obtain rfl := Option.some.inj known
      obtain rfl : writeMode = .none := mode
      obtain ⟨kind, unindexed, rfl, member, inRange⟩ := named (by simp)
      obtain ⟨input, rfl, source⟩ := exists_singleton_of_forall₂ operands
      have hilo : isHiloDestination kind ∧ unindexed = 0 := by
        cases kind with
        | hi | lo | hi1 | lo1 => exact ⟨rfl, inRange⟩
        | _ => simp at member
      obtain ⟨hilo, rfl⟩ := hilo
      exact .moveGprLow64 hilo (isGpr_iff.mpr source)
  | computeMtsah =>
      obtain rfl := Option.some.inj known
      obtain rfl : writeMode = .none := mode
      obtain ⟨unindexed, rfl, inRange⟩ := only rfl
      obtain rfl : unindexed = 0 := inRange
      obtain ⟨input, immediate, rfl, source, constant⟩ := exists_pair_of_forall₂ operands
      exact .mtsah (isGpr_iff.mpr source) (isImmediate_iff.mpr constant)
  | moveBits32 =>
      obtain rfl := Option.some.inj known
      obtain rfl : writeMode = .none := mode
      obtain ⟨kind, fd, rfl, member, inRange⟩ := named (by simp)
      obtain ⟨input, rfl, source⟩ := exists_singleton_of_forall₂ operands
      rcases List.mem_pair.mp member with rfl | rfl
      · exact .moveBitsToFpr inRange (isGpr_iff.mpr source)
      · obtain rfl : fd = 0 := inRange
        exact .moveBitsToFcr31 (isGpr_iff.mpr source)
  | addF32ToAccumulator =>
      obtain rfl := Option.some.inj known
      obtain rfl : writeMode = .none := mode
      obtain ⟨unindexed, rfl, inRange⟩ := only rfl
      obtain rfl : unindexed = 0 := inRange
      obtain ⟨lhs, rhs, rfl, left, right⟩ := exists_pair_of_forall₂ operands
      exact .addF32Accumulator (isFpr_iff.mpr left) (isFpr_iff.mpr right)
  | outOfRange => cases known

/-- Validation accepts exactly the instructions of the shape of their opcode. -/
theorem validateR5900IrInstruction_eq_ok_iff_hasShape :
    validateR5900IrInstruction ir index = .ok () ↔
      ∃ shape, ir.opcode.shape? = some shape ∧ ir.HasShape shape := by
  rw [validateR5900IrInstruction_eq_ok_iff]
  constructor
  · exact fun wellFormed => wellFormed.hasShape
  · rintro ⟨shape, known, hasShape⟩
    exact hasShape.wellFormed known

end Shapes

end Burnout3Recompiled
