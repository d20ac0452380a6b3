import Burnout3Recompiled.R5900IrExecutor
import Burnout3Recompiled.X64StraightLine

/-!
# The native x86-64 backend

The backend validates a whole program, emits machine code that receives a
pointer to the execution state in RCX, and moves the code to an executable page.
The emitters below write the opcode and ModRM bytes by hand, as the source does.
-/

namespace Burnout3Recompiled

open LittleEndianMemory (load store displaced bytesOf)

/-- A standard-layout structure places each member at the next multiple of its
alignment. -/
structure LayoutMember where
  size : Nat
  alignment : Nat

def alignUp (offset alignment : Nat) : Nat :=
  (offset + alignment - 1) / alignment * alignment

/-- Offsets of the members that follow after `used` bytes. -/
def memberOffsetsFrom (used : Nat) : List LayoutMember → List Nat
  | [] => []
  | member :: members =>
      let offset := alignUp used member.alignment
      offset :: memberOffsetsFrom (offset + member.size) members

/-- The members of `R5900IrExecutionState` in declaration order: `gpr`, `hi`,
`lo`, `hi1`, `lo1`, `sa`, `fpr`, `fcr31`, `fp_acc`. -/
def executionStateMembers : List LayoutMember :=
  [⟨32 * 16, 8⟩, ⟨8, 8⟩, ⟨8, 8⟩, ⟨8, 8⟩, ⟨8, 8⟩, ⟨4, 4⟩, ⟨32 * 4, 4⟩, ⟨4, 4⟩, ⟨4, 4⟩]

def offsetOf (member : Nat) : Nat :=
  (memberOffsetsFrom 0 executionStateMembers).getD member 0

def stateOffset (value : Nat) : BitVec 32 :=
  BitVec.ofNat 32 value

def gprOffset (index : BitVec 8) : BitVec 32 :=
  stateOffset (offsetOf 0 + index.toNat * 16)

def gprLow64Offset (index : BitVec 8) : BitVec 32 :=
  gprOffset index + stateOffset 0

def hiOffset : BitVec 32 := stateOffset (offsetOf 1)

def loOffset : BitVec 32 := stateOffset (offsetOf 2)

def hi1Offset : BitVec 32 := stateOffset (offsetOf 3)

def lo1Offset : BitVec 32 := stateOffset (offsetOf 4)

def saOffset : BitVec 32 := stateOffset (offsetOf 5)

def fprOffset (index : BitVec 8) : BitVec 32 :=
  stateOffset (offsetOf 6 + index.toNat * 4)

def fcr31Offset : BitVec 32 := stateOffset (offsetOf 7)

def fpAccOffset : BitVec 32 := stateOffset (offsetOf 8)

def emitU32 (value : BitVec 32) : List (BitVec 8) :=
  [(value &&& 0xff).setWidth 8, ((value >>> 8) &&& 0xff).setWidth 8,
    ((value >>> 16) &&& 0xff).setWidth 8, ((value >>> 24) &&& 0xff).setWidth 8]

/-- The byte loop over the shifts `0, 8, …, 56`. -/
def emitU64 (value : BitVec 64) : List (BitVec 8) :=
  (List.range 8).map fun byte => ((value >>> (8 * byte)) &&& 0xff).setWidth 8

def emitXorEaxEax : List (BitVec 8) := [0x31, 0xc0]

def emitStoreRaxToState (displacement : BitVec 32) : List (BitVec 8) :=
  [0x48, 0x89, 0x81] ++ emitU32 displacement

def emitStoreEaxToState (displacement : BitVec 32) : List (BitVec 8) :=
  [0x89, 0x81] ++ emitU32 displacement

def emitLoadEaxFromState (displacement : BitVec 32) : List (BitVec 8) :=
  [0x8b, 0x81] ++ emitU32 displacement

def emitLoadEdxFromState (displacement : BitVec 32) : List (BitVec 8) :=
  [0x8b, 0x91] ++ emitU32 displacement

def emitLoadRaxFromState (displacement : BitVec 32) : List (BitVec 8) :=
  [0x48, 0x8b, 0x81] ++ emitU32 displacement

def emitLoadRdxFromState (displacement : BitVec 32) : List (BitVec 8) :=
  [0x48, 0x8b, 0x91] ++ emitU32 displacement

def emitMovEaxImm32 (immediate : BitVec 32) : List (BitVec 8) :=
  [0xb8] ++ emitU32 immediate

def emitMovEdxImm32 (immediate : BitVec 32) : List (BitVec 8) :=
  [0xba] ++ emitU32 immediate

def emitMovRaxImm64 (immediate : BitVec 64) : List (BitVec 8) :=
  [0x48, 0xb8] ++ emitU64 immediate

def emitMovRdxImm64 (immediate : BitVec 64) : List (BitVec 8) :=
  [0x48, 0xba] ++ emitU64 immediate

def emitOperand32ToEax (operand : R5900IrOperand) : List (BitVec 8) :=
  if operand.kind = .gpr then emitLoadEaxFromState (gprLow64Offset operand.gprIndex)
  else emitMovEaxImm32 (operand.immediate.setWidth 32)

def emitOperand32ToEdx (operand : R5900IrOperand) : List (BitVec 8) :=
  if operand.kind = .gpr then emitLoadEdxFromState (gprLow64Offset operand.gprIndex)
  else emitMovEdxImm32 (operand.immediate.setWidth 32)

def emitOperand64ToRax (operand : R5900IrOperand) : List (BitVec 8) :=
  if operand.kind = .gpr then emitLoadRaxFromState (gprLow64Offset operand.gprIndex)
  else emitMovRaxImm64 operand.immediate

def emitOperand64ToRdx (operand : R5900IrOperand) : List (BitVec 8) :=
  if operand.kind = .gpr then emitLoadRdxFromState (gprLow64Offset operand.gprIndex)
  else emitMovRdxImm64 operand.immediate

def emitZeroGpr0 : List (BitVec 8) :=
  emitXorEaxEax ++ emitStoreRaxToState (gprOffset 0) ++
    emitStoreRaxToState (gprOffset 0 + 8)

/-- The store that ends the integer emitters; GPR zero is never written. -/
def emitStoreLow64 (index : BitVec 8) : List (BitVec 8) :=
  if index ≠ 0 then emitStoreRaxToState (gprLow64Offset index) else []

def emitAddWordSignExtend (lhs rhs : R5900IrOperand) (index : BitVec 8) :
    List (BitVec 8) :=
  emitOperand32ToEax lhs ++ emitOperand32ToEdx rhs ++
    [0x01, 0xd0, 0x48, 0x98] ++ emitStoreLow64 index

def emitOr64 (lhs rhs : R5900IrOperand) (index : BitVec 8) : List (BitVec 8) :=
  emitOperand64ToRax lhs ++ emitOperand64ToRdx rhs ++ [0x48, 0x09, 0xd0] ++
    emitStoreLow64 index

def emitAnd64 (lhs rhs : R5900IrOperand) (index : BitVec 8) : List (BitVec 8) :=
  emitOperand64ToRax lhs ++ emitOperand64ToRdx rhs ++ [0x48, 0x21, 0xd0] ++
    emitStoreLow64 index

def emitLui (input : R5900IrOperand) (index : BitVec 8) : List (BitVec 8) :=
  let immediate16 := input.immediate.setWidth 16
  let word := immediate16.setWidth 32 <<< 16
  emitMovEaxImm32 word ++ [0x48, 0x98] ++ emitStoreLow64 index

def hiloDestinationOffset : R5900IrDestinationKind → BitVec 32
  | .hi => hiOffset
  | .lo => loOffset
  | .hi1 => hi1Offset
  | .lo1 => lo1Offset
  | _ => hiOffset

def emitMoveGprLow64 (input : R5900IrOperand) (kind : R5900IrDestinationKind) :
    List (BitVec 8) :=
  emitLoadRaxFromState (gprLow64Offset input.gprIndex) ++
    emitStoreRaxToState (hiloDestinationOffset kind)

def emitMtsah (source immediate : R5900IrOperand) : List (BitVec 8) :=
  emitLoadEaxFromState (gprLow64Offset source.gprIndex) ++
    [0x83, 0xe0, 0x07] ++
    [0x83, 0xf0, immediate.immediate.setWidth 8 &&& 0x07] ++
    [0xd1, 0xe0] ++
    emitStoreEaxToState saOffset

def emitLoadXmm0Gpr (index : BitVec 8) : List (BitVec 8) :=
  [0xf3, 0x0f, 0x6f, 0x81] ++ emitU32 (gprOffset index)

def emitLoadXmm1Gpr (index : BitVec 8) : List (BitVec 8) :=
  [0xf3, 0x0f, 0x6f, 0x89] ++ emitU32 (gprOffset index)

def emitMovdEaxXmm0 : List (BitVec 8) := [0x66, 0x0f, 0x7e, 0xc0]

def emitMovdEdxXmm1 : List (BitVec 8) := [0x66, 0x0f, 0x7e, 0xca]

def emitShiftXmmSourcesOneLane : List (BitVec 8) :=
  [0x66, 0x0f, 0x73, 0xd8, 0x04] ++ [0x66, 0x0f, 0x73, 0xd9, 0x04]

/-- The body of the lane loop of `emit_padduw`. -/
def emitPadduwLane (index : BitVec 8) (lane : Nat) : List (BitVec 8) :=
  emitMovdEaxXmm0 ++ emitMovdEdxXmm1 ++
    [0x01, 0xd0, 0x19, 0xd2, 0x09, 0xd0] ++
    (if index ≠ 0 then
      emitStoreEaxToState (gprOffset index + BitVec.ofNat 32 (lane * 4))
    else []) ++
    (if lane ≠ 3 then emitShiftXmmSourcesOneLane else [])

def emitPadduw (lhs rhs : R5900IrOperand) (index : BitVec 8) : List (BitVec 8) :=
  emitLoadXmm0Gpr lhs.gprIndex ++ emitLoadXmm1Gpr rhs.gprIndex ++
    (List.range 4).flatMap (emitPadduwLane index)

def emitMoveBits32 (input : R5900IrOperand) (destination : R5900IrDestination) :
    List (BitVec 8) :=
  emitLoadEaxFromState (gprLow64Offset input.gprIndex) ++
    emitStoreEaxToState
      (if destination.kind = .fpr then fprOffset destination.index
      else fcr31Offset)

def emitLoadXmm0F32 (displacement : BitVec 32) : List (BitVec 8) :=
  [0xf3, 0x0f, 0x10, 0x81] ++ emitU32 displacement

def emitAddXmm0F32 (displacement : BitVec 32) : List (BitVec 8) :=
  [0xf3, 0x0f, 0x58, 0x81] ++ emitU32 displacement

def emitStoreXmm0F32 (displacement : BitVec 32) : List (BitVec 8) :=
  [0xf3, 0x0f, 0x11, 0x81] ++ emitU32 displacement

def emitAddF32ToAccumulator (lhs rhs : R5900IrOperand) : List (BitVec 8) :=
  emitLoadXmm0F32 (fprOffset lhs.gprIndex) ++
    emitAddXmm0F32 (fprOffset rhs.gprIndex) ++ emitStoreXmm0F32 fpAccOffset

/-- The emitter of each opcode.  `none` stands for a dereferenced empty
destination or a missing input, which validation excludes; the opcode outside
the enumeration is the caller's business. -/
def emitInstruction (ir : R5900IrInstruction) : Option (List (BitVec 8)) :=
  match ir.opcode with
  | .nop => some []
  | .addWordSignExtend => do
      return emitAddWordSignExtend (← ir.inputs[0]?) (← ir.inputs[1]?)
        (← ir.destination).index
  | .or64 => do
      return emitOr64 (← ir.inputs[0]?) (← ir.inputs[1]?) (← ir.destination).index
  | .and64 => do
      return emitAnd64 (← ir.inputs[0]?) (← ir.inputs[1]?) (← ir.destination).index
  | .loadUpperImmediateSignExtend => do
      return emitLui (← ir.inputs[0]?) (← ir.destination).index
  | .moveGprLow64 => do
      return emitMoveGprLow64 (← ir.inputs[0]?) (← ir.destination).kind
  | .computeMtsah => do
      return emitMtsah (← ir.inputs[0]?) (← ir.inputs[1]?)
  | .addPackedU32Saturate128 => do
      return emitPadduw (← ir.inputs[0]?) (← ir.inputs[1]?) (← ir.destination).index
  | .moveBits32 => do
      return emitMoveBits32 (← ir.inputs[0]?) (← ir.destination)
  | .addF32ToAccumulator => do
      return emitAddF32ToAccumulator (← ir.inputs[0]?) (← ir.inputs[1]?)
  | .outOfRange => none

/-- The failing values of the source enumeration; its `None` is `Except.ok`. -/
inductive R5900X64CompileError where
  | malformedInstruction | invalidRegister | unsupportedOpcode
  | allocationFailed | protectionFailed | cacheFlushFailed
  deriving DecidableEq, Repr

structure R5900X64CompileFailure where
  error : R5900X64CompileError
  message : String
  deriving DecidableEq, Repr

/-- A block owns executable code; a block without code is never handed out. -/
structure R5900X64CompiledBlock where
  code : List (BitVec 8)
  nonempty : code ≠ []
  deriving DecidableEq

/-- What the operating system answers to the three calls that make a buffer
executable: the first call that fails, if any. -/
inductive ExecutablePageOutcome where
  | success | virtualAllocFails | virtualProtectFails | flushInstructionCacheFails
  deriving DecidableEq, Repr

def mapCompileValidationFailure (validation : R5900IrValidationFailure) :
    R5900X64CompileFailure :=
  match validation.error with
  | .malformedInstruction => ⟨.malformedInstruction, validation.message⟩
  | .invalidRegister => ⟨.invalidRegister, validation.message⟩
  | .unsupportedOpcode => ⟨.unsupportedOpcode, validation.message⟩

def unsupportedBackendOpcode (index : Nat) (ir : R5900IrInstruction) :
    R5900X64CompileFailure :=
  { error := .unsupportedOpcode
    message := irInstructionMessage index ir.guestPc
      "opcode not implemented by x64 backend" }

/-- The validation loop in front of the emission loop. -/
def validateFrom (index : Nat) :
    List R5900IrInstruction → Except R5900X64CompileFailure Unit
  | [] => .ok ()
  | ir :: instructions =>
      match validateR5900IrInstruction ir index with
      | .error validation => .error (mapCompileValidationFailure validation)
      | .ok () => validateFrom (index + 1) instructions

/-- The emission loop.  `getD` never falls back: the program is validated. -/
def emitFrom (index : Nat) :
    List R5900IrInstruction → Except R5900X64CompileFailure (List (BitVec 8))
  | [] => .ok []
  | ir :: instructions =>
      if ir.opcode = .outOfRange then .error (unsupportedBackendOpcode index ir)
      else
        (emitFrom (index + 1) instructions).map fun bytes =>
          (emitInstruction ir).getD [] ++ bytes

def publishCode (bytes : List (BitVec 8)) (nonempty : bytes ≠ []) :
    ExecutablePageOutcome → Except R5900X64CompileFailure R5900X64CompiledBlock
  | .success => .ok ⟨bytes, nonempty⟩
  | .virtualAllocFails =>
      .error ⟨.allocationFailed, "VirtualAlloc failed for R5900 x64 block"⟩
  | .virtualProtectFails =>
      .error ⟨.protectionFailed, "VirtualProtect failed for R5900 x64 block"⟩
  | .flushInstructionCacheFails =>
      .error ⟨.cacheFlushFailed, "FlushInstructionCache failed for R5900 x64 block"⟩

def compileR5900IrX64 (os : ExecutablePageOutcome)
    (instructions : List R5900IrInstruction) :
    Except R5900X64CompileFailure R5900X64CompiledBlock := do
  validateFrom 0 instructions
  let body ← emitFrom 0 instructions
  publishCode (emitZeroGpr0 ++ body ++ emitZeroGpr0 ++ [0xc3]) (by simp) os

/-- The execution state stored at `base`. -/
def stateAt (memory : LittleEndianMemory 64) (base : BitVec 64) :
    R5900IrExecutionState where
  gpr := Vector.ofFn fun index : Fin 32 =>
    { low64 := load memory (displaced base (offsetOf 0 + index * 16)) 64
      high64 := load memory (displaced base (offsetOf 0 + index * 16 + 8)) 64 }
  hi := load memory (displaced base (offsetOf 1)) 64
  lo := load memory (displaced base (offsetOf 2)) 64
  hi1 := load memory (displaced base (offsetOf 3)) 64
  lo1 := load memory (displaced base (offsetOf 4)) 64
  sa := load memory (displaced base (offsetOf 5)) 32
  fpr := Vector.ofFn fun index : Fin 32 =>
    load memory (displaced base (offsetOf 6 + index * 4)) 32
  fcr31 := load memory (displaced base (offsetOf 7)) 32
  fpAcc := load memory (displaced base (offsetOf 8)) 32

def layOutGpr (base : BitVec 64) (state : R5900IrExecutionState)
    (memory : LittleEndianMemory 64) (index : Fin 32) : LittleEndianMemory 64 :=
  store (store memory (displaced base (offsetOf 0 + index * 16)) state.gpr[index].low64)
    (displaced base (offsetOf 0 + index * 16 + 8)) state.gpr[index].high64

def layOutFpr (base : BitVec 64) (state : R5900IrExecutionState)
    (memory : LittleEndianMemory 64) (index : Fin 32) : LittleEndianMemory 64 :=
  store memory (displaced base (offsetOf 6 + index * 4)) state.fpr[index]

/-- Memory that holds the state at `base`. -/
def layOut (memory : LittleEndianMemory 64) (base : BitVec 64)
    (state : R5900IrExecutionState) : LittleEndianMemory 64 :=
  let withGprs := (List.finRange 32).foldl (layOutGpr base state) memory
  let withFprs := (List.finRange 32).foldl (layOutFpr base state) withGprs
  let withHi := store withFprs (displaced base (offsetOf 1)) state.hi
  let withLo := store withHi (displaced base (offsetOf 2)) state.lo
  let withHi1 := store withLo (displaced base (offsetOf 3)) state.hi1
  let withLo1 := store withHi1 (displaced base (offsetOf 4)) state.lo1
  let withSa := store withLo1 (displaced base (offsetOf 5)) state.sa
  let withFcr31 := store withSa (displaced base (offsetOf 7)) state.fcr31
  store withFcr31 (displaced base (offsetOf 8)) state.fpAcc

/-- A machine at the first byte of a block, called with the state at address
zero and everything else clear. -/
def callMachine (state : R5900IrExecutionState) : X64.Machine where
  gpr := fun _ => 0
  xmm := fun _ => 0
  carry := false
  memory := layOut (fun _ => 0) 0 state

/-- `R5900X64CompiledBlock::execute`: run the machine code to its `ret` and read
the state back.  Code that never reaches a `ret` leaves the state alone; compiled
blocks are not of that kind. -/
def R5900X64CompiledBlock.execute (addF32 : BitVec 32 → BitVec 32 → BitVec 32)
    (block : R5900X64CompiledBlock) (state : R5900IrExecutionState) :
    R5900IrExecutionState :=
  match X64.run addF32 block.code (block.code.length + 1) 0 (callMachine state) with
  | some (_, machine) => stateAt machine.memory 0
  | none => state

end Burnout3Recompiled
