import Burnout3Recompiled.R5900Decoder

/-!
# The R5900 intermediate representation and its lowering

A decoded guest instruction is lowered to a short list of IR instructions that
carry the guest PC and the guest word they came from.  Writes to GPR zero are
dropped here already: they lower to a `Nop`.
-/

namespace Burnout3Recompiled

/-- The `outOfRange` values of the enumerations below stand for every integer
that is no enumerator; the code that reads the field treats them all alike. -/
inductive R5900IrOpcode where
  | nop
  | addWordSignExtend
  | or64
  | and64
  | loadUpperImmediateSignExtend
  | addPackedU32Saturate128
  | moveGprLow64
  | computeMtsah
  | moveBits32
  | addF32ToAccumulator
  | outOfRange
  deriving DecidableEq, Repr

inductive R5900IrOperandKind where
  | gpr | fpr | immediate | outOfRange
  deriving DecidableEq, Repr

/-- Integer instructions update the low half of a 128-bit GPR only; packed
instructions replace the whole register. -/
inductive R5900IrGprWriteMode where
  | none | low64PreserveUpper64 | full128 | outOfRange
  deriving DecidableEq, Repr

inductive R5900IrDestinationKind where
  | gpr | hi | lo | hi1 | lo1 | sa | fpr | fcr31 | fpAccumulator | outOfRange
  deriving DecidableEq, Repr

structure R5900IrDestination where
  kind : R5900IrDestinationKind := .gpr
  index : BitVec 8 := 0
  deriving DecidableEq, Repr

structure R5900IrOperand where
  kind : R5900IrOperandKind := .gpr
  /-- The register of both the GPR and the FPR kind. -/
  gprIndex : BitVec 8 := 0
  immediate : BitVec 64 := 0
  deriving DecidableEq, Repr

structure R5900IrInstruction where
  guestPc : BitVec 32 := 0
  guestRaw : BitVec 32 := 0
  opcode : R5900IrOpcode := .nop
  destination : Option R5900IrDestination := none
  writeMode : R5900IrGprWriteMode := .none
  inputs : List R5900IrOperand := []
  deriving DecidableEq, Repr

inductive R5900IrLoweringError where
  | none | unsupportedInstruction
  deriving DecidableEq, Repr

structure R5900IrLoweringResult where
  error : R5900IrLoweringError := .none
  message : String := ""
  instructions : List R5900IrInstruction := []
  deriving DecidableEq, Repr

def R5900IrLoweringResult.ok (result : R5900IrLoweringResult) : Bool :=
  result.error = .none

namespace R5900IrOperand

def gpr (index : BitVec 8) : R5900IrOperand :=
  { kind := .gpr, gprIndex := index }

def fpr (index : BitVec 8) : R5900IrOperand :=
  { kind := .fpr, gprIndex := index }

def ofImmediate (value : BitVec 64) : R5900IrOperand :=
  { kind := .immediate, immediate := value }

end R5900IrOperand

def baseInstruction (decoded : R5900DecodedInstruction) (guestPc : BitVec 32)
    (opcode : R5900IrOpcode) : R5900IrInstruction :=
  { guestPc := guestPc, guestRaw := decoded.raw, opcode := opcode }

def singleInstruction (ir : R5900IrInstruction) : R5900IrLoweringResult :=
  { instructions := [ir] }

def discardedGprZeroWrite (decoded : R5900DecodedInstruction)
    (guestPc : BitVec 32) : R5900IrLoweringResult :=
  singleInstruction (baseInstruction decoded guestPc .nop)

def unsupportedLowering (decoded : R5900DecodedInstruction)
    (detail : String := "") : R5900IrLoweringResult :=
  let message :=
    "unsupported R5900 IR lowering: " ++ r5900InstructionName decoded.instruction
  { error := .unsupportedInstruction
    message :=
      if detail.isEmpty then message else message ++ (" (" ++ detail ++ ")") }

namespace R5900IrInstruction

def setDestination (ir : R5900IrInstruction) (kind : R5900IrDestinationKind)
    (index : BitVec 8 := 0) (writeMode : R5900IrGprWriteMode := .none) :
    R5900IrInstruction :=
  { ir with
    destination := some { kind := kind, index := index }
    writeMode := writeMode }

def setLow64Destination (ir : R5900IrInstruction) (index : BitVec 8) :
    R5900IrInstruction :=
  ir.setDestination .gpr index .low64PreserveUpper64

def pushInput (ir : R5900IrInstruction) (operand : R5900IrOperand) :
    R5900IrInstruction :=
  { ir with inputs := ir.inputs ++ [operand] }

end R5900IrInstruction

open R5900IrOperand in
def lowerR5900Instruction (decoded : R5900DecodedInstruction)
    (guestPc : BitVec 32) : R5900IrLoweringResult :=
  match decoded.instruction with
  | .nop | .sync => singleInstruction (baseInstruction decoded guestPc .nop)
  | .addu =>
      if decoded.rd = 0 then discardedGprZeroWrite decoded guestPc
      else
        singleInstruction <|
          (((baseInstruction decoded guestPc .addWordSignExtend).setLow64Destination
            decoded.rd).pushInput (gpr decoded.rs)).pushInput (gpr decoded.rt)
  | .addiu =>
      if decoded.rt = 0 then discardedGprZeroWrite decoded guestPc
      else
        singleInstruction <|
          (((baseInstruction decoded guestPc .addWordSignExtend).setLow64Destination
            decoded.rt).pushInput (gpr decoded.rs)).pushInput
            (ofImmediate (decoded.signedImmediate.signExtend 64))
  | .ori =>
      if decoded.rt = 0 then discardedGprZeroWrite decoded guestPc
      else
        singleInstruction <|
          (((baseInstruction decoded guestPc .or64).setLow64Destination
            decoded.rt).pushInput (gpr decoded.rs)).pushInput
            (ofImmediate (decoded.immediate.setWidth 64))
  | .andi =>
      if decoded.rt = 0 then discardedGprZeroWrite decoded guestPc
      else
        singleInstruction <|
          (((baseInstruction decoded guestPc .and64).setLow64Destination
            decoded.rt).pushInput (gpr decoded.rs)).pushInput
            (ofImmediate (decoded.immediate.setWidth 64))
  | .lui =>
      if decoded.rt = 0 then discardedGprZeroWrite decoded guestPc
      else
        singleInstruction <|
          ((baseInstruction decoded guestPc
            .loadUpperImmediateSignExtend).setLow64Destination decoded.rt).pushInput
            (ofImmediate (decoded.immediate.setWidth 64))
  | .mthi | .mtlo | .mthi1 | .mtlo1 =>
      let destinationKind : R5900IrDestinationKind :=
        match decoded.instruction with
        | .mthi => .hi
        | .mtlo => .lo
        | .mthi1 => .hi1
        | .mtlo1 => .lo1
        | _ => .hi
      singleInstruction <|
        ((baseInstruction decoded guestPc .moveGprLow64).setDestination
          destinationKind).pushInput (gpr decoded.rs)
  | .mtsah =>
      singleInstruction <|
        (((baseInstruction decoded guestPc .computeMtsah).setDestination .sa).pushInput
          (gpr decoded.rs)).pushInput (ofImmediate (decoded.immediate.setWidth 64))
  | .padduw =>
      if decoded.rd = 0 then discardedGprZeroWrite decoded guestPc
      else
        singleInstruction <|
          (((baseInstruction decoded guestPc .addPackedU32Saturate128).setDestination
            .gpr decoded.rd .full128).pushInput (gpr decoded.rs)).pushInput
            (gpr decoded.rt)
  | .mtc1 =>
      singleInstruction <|
        ((baseInstruction decoded guestPc .moveBits32).setDestination .fpr
          decoded.rd).pushInput (gpr decoded.rt)
  | .ctc1 =>
      if decoded.rd ≠ 31 then
        unsupportedLowering decoded "only FCR31 is supported by startup execution v0"
      else
        singleInstruction <|
          ((baseInstruction decoded guestPc .moveBits32).setDestination
            .fcr31).pushInput (gpr decoded.rt)
  | .addaS =>
      singleInstruction <|
        (((baseInstruction decoded guestPc .addF32ToAccumulator).setDestination
          .fpAccumulator).pushInput (fpr decoded.rd)).pushInput (fpr decoded.rt)
  | _ => unsupportedLowering decoded

end Burnout3Recompiled
