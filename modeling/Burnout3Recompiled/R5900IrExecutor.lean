import Burnout3Recompiled.R5900IrValidation

/-!
# The reference interpreter of the IR

The interpreter validates each instruction right before it runs it and stops at
the first invalid one, keeping the effects of the instructions before it.  GPR
zero is cleared on entry and on every return.

An access outside a register file or an operand list, or through an empty
optional, has no defined meaning in the source.  `executeInstruction` returns
`none` there, and `executeInstruction_isSome` shows that validation excludes it.
-/

namespace Burnout3Recompiled

structure R5900IrGprValue where
  low64 : BitVec 64 := 0
  high64 : BitVec 64 := 0
  deriving DecidableEq, Repr

structure R5900IrExecutionState where
  gpr : Vector R5900IrGprValue 32 := Vector.replicate 32 {}
  hi : BitVec 64 := 0
  lo : BitVec 64 := 0
  hi1 : BitVec 64 := 0
  lo1 : BitVec 64 := 0
  sa : BitVec 32 := 0
  fpr : Vector (BitVec 32) 32 := Vector.replicate 32 0
  fcr31 : BitVec 32 := 0
  fpAcc : BitVec 32 := 0
  deriving DecidableEq, Repr

/-- The failing values of the source enumeration; its `None` is `Except.ok`. -/
inductive R5900IrExecutionError where
  | malformedInstruction | invalidRegister | unsupportedOpcode
  deriving DecidableEq, Repr

structure R5900IrExecutionFailure where
  error : R5900IrExecutionError
  message : String
  deriving DecidableEq, Repr

abbrev R5900IrExecutionResult := Except R5900IrExecutionFailure Unit

def mapValidationFailure (validation : R5900IrValidationFailure) :
    R5900IrExecutionFailure :=
  match validation.error with
  | .malformedInstruction => ⟨.malformedInstruction, validation.message⟩
  | .invalidRegister => ⟨.invalidRegister, validation.message⟩
  | .unsupportedOpcode => ⟨.unsupportedOpcode, validation.message⟩

namespace R5900IrExecutionState

def normalizeZero (state : R5900IrExecutionState) : R5900IrExecutionState :=
  { state with gpr := state.gpr.set 0 {} }

def readGpr (state : R5900IrExecutionState) (index : BitVec 8) :
    Option R5900IrGprValue :=
  state.gpr[index.toNat]?

def writeGpr (state : R5900IrExecutionState) (index : BitVec 8)
    (value : R5900IrGprValue) : Option R5900IrExecutionState :=
  if inRange : index.toNat < 32 then
    some { state with gpr := state.gpr.set index.toNat value }
  else none

/-- `state.gpr[index].low64 = value`, which keeps the upper half. -/
def writeGprLow64 (state : R5900IrExecutionState) (index : BitVec 8)
    (value : BitVec 64) : Option R5900IrExecutionState := do
  let current ← state.readGpr index
  state.writeGpr index { current with low64 := value }

def readFpr (state : R5900IrExecutionState) (index : BitVec 8) :
    Option (BitVec 32) :=
  state.fpr[index.toNat]?

def writeFpr (state : R5900IrExecutionState) (index : BitVec 8)
    (value : BitVec 32) : Option R5900IrExecutionState :=
  if inRange : index.toNat < 32 then
    some { state with fpr := state.fpr.set index.toNat value }
  else none

end R5900IrExecutionState

def readOperandValue (operand : R5900IrOperand) (state : R5900IrExecutionState) :
    Option (BitVec 64) :=
  if operand.kind = .immediate then some operand.immediate
  else do
    let value ← state.readGpr operand.gprIndex
    return value.low64

def signExtendWord (value : BitVec 32) : BitVec 64 :=
  if value &&& 0x80000000 ≠ 0 then 0xFFFFFFFF00000000 ||| value.setWidth 64
  else value.setWidth 64

def packedLane (value : R5900IrGprValue) (lane : Nat) : BitVec 32 :=
  if lane < 2 then (value.low64 >>> (lane * 32)).setWidth 32
  else (value.high64 >>> ((lane - 2) * 32)).setWidth 32

def setPackedLane (value : R5900IrGprValue) (lane : Nat) (laneValue : BitVec 32) :
    R5900IrGprValue :=
  if lane < 2 then
    let shift := lane * 32
    let mask := ~~~((0xFFFFFFFF : BitVec 64) <<< shift)
    { value with
      low64 := (value.low64 &&& mask) ||| (laneValue.setWidth 64 <<< shift) }
  else
    let shift := (lane - 2) * 32
    let mask := ~~~((0xFFFFFFFF : BitVec 64) <<< shift)
    { value with
      high64 := (value.high64 &&& mask) ||| (laneValue.setWidth 64 <<< shift) }

def saturatingAddU32 (lhs rhs : BitVec 32) : BitVec 32 :=
  let sum := lhs.setWidth 64 + rhs.setWidth 64
  if sum > 0xFFFFFFFF then 0xFFFFFFFF else sum.setWidth 32

/-- The lane loop of the packed addition, over the lanes in order. -/
def packedU32SaturatingAdd (lhs rhs : R5900IrGprValue) : R5900IrGprValue :=
  (List.range 4).foldl
    (fun result lane =>
      setPackedLane result lane
        (saturatingAddU32 (packedLane lhs lane) (packedLane rhs lane))) {}

section Execution

-- Single-precision addition on raw bit patterns, whatever the host does.
variable (addF32 : BitVec 32 → BitVec 32 → BitVec 32)

/-- The body of the opcode switch. -/
def executeInstruction (ir : R5900IrInstruction) (state : R5900IrExecutionState) :
    Option R5900IrExecutionState :=
  match ir.opcode with
  | .nop => some state
  | .addWordSignExtend => do
      let lhs ← readOperandValue (← ir.inputs[0]?) state
      let rhs ← readOperandValue (← ir.inputs[1]?) state
      let word := lhs.setWidth 32 + rhs.setWidth 32
      let destination ← ir.destination
      if destination.index ≠ 0 then
        state.writeGprLow64 destination.index (signExtendWord word)
      else some state
  | .or64 => do
      let lhs ← readOperandValue (← ir.inputs[0]?) state
      let rhs ← readOperandValue (← ir.inputs[1]?) state
      let destination ← ir.destination
      if destination.index ≠ 0 then
        state.writeGprLow64 destination.index (lhs ||| rhs)
      else some state
  | .and64 => do
      let lhs ← state.readGpr (← ir.inputs[0]?).gprIndex
      let rhs ← ir.inputs[1]?
      let destination ← ir.destination
      if destination.index ≠ 0 then
        state.writeGprLow64 destination.index (lhs.low64 &&& rhs.immediate)
      else some state
  | .loadUpperImmediateSignExtend => do
      let input ← ir.inputs[0]?
      let immediate16 := input.immediate.setWidth 16
      let word := immediate16.setWidth 32 <<< 16
      let destination ← ir.destination
      if destination.index ≠ 0 then
        state.writeGprLow64 destination.index (signExtendWord word)
      else some state
  | .moveGprLow64 => do
      let value := (← state.readGpr (← ir.inputs[0]?).gprIndex).low64
      let destination ← ir.destination
      match destination.kind with
      | .hi => some { state with hi := value }
      | .lo => some { state with lo := value }
      | .hi1 => some { state with hi1 := value }
      | .lo1 => some { state with lo1 := value }
      | _ => some state
  | .computeMtsah => do
      let source := (← state.readGpr (← ir.inputs[0]?).gprIndex).low64.setWidth 32
      let immediateValue := (← ir.inputs[1]?).immediate.setWidth 32
      some { state with
        sa := ((source &&& 0x7) ^^^ (immediateValue &&& 0x7)) <<< 1 }
  | .addPackedU32Saturate128 => do
      let lhs ← state.readGpr (← ir.inputs[0]?).gprIndex
      let rhs ← state.readGpr (← ir.inputs[1]?).gprIndex
      let destination ← ir.destination
      if destination.index ≠ 0 then
        state.writeGpr destination.index (packedU32SaturatingAdd lhs rhs)
      else some state
  | .moveBits32 => do
      let raw := (← state.readGpr (← ir.inputs[0]?).gprIndex).low64.setWidth 32
      let destination ← ir.destination
      if destination.kind = .fpr then state.writeFpr destination.index raw
      else some { state with fcr31 := raw }
  | .addF32ToAccumulator => do
      let lhs ← state.readFpr (← ir.inputs[0]?).gprIndex
      let rhs ← state.readFpr (← ir.inputs[1]?).gprIndex
      some { state with fpAcc := addF32 lhs rhs }
  | .outOfRange => some state

/-- The interpreter loop from instruction `index` on.  `getD` never falls back:
the instruction has just been validated. -/
def executeFrom (index : Nat) :
    List R5900IrInstruction → R5900IrExecutionState →
      R5900IrExecutionResult × R5900IrExecutionState
  | [], state => (.ok (), state.normalizeZero)
  | ir :: instructions, state =>
      match validateR5900IrInstruction ir index with
      | .error validation =>
          (.error (mapValidationFailure validation), state.normalizeZero)
      | .ok () =>
          executeFrom (index + 1) instructions
            ((executeInstruction addF32 ir state).getD state)

def executeR5900Ir (instructions : List R5900IrInstruction)
    (state : R5900IrExecutionState) :
    R5900IrExecutionResult × R5900IrExecutionState :=
  executeFrom addF32 0 instructions state.normalizeZero

end Execution

namespace R5900IrExecutionState

/-- The register an in-range index names. -/
def gprValue (state : R5900IrExecutionState) (index : BitVec 8) : R5900IrGprValue :=
  state.gpr[index.toNat]?.getD {}

def setGpr (state : R5900IrExecutionState) (index : BitVec 8)
    (value : R5900IrGprValue) : R5900IrExecutionState :=
  { state with gpr := state.gpr.setIfInBounds index.toNat value }

def fprValue (state : R5900IrExecutionState) (index : BitVec 8) : BitVec 32 :=
  state.fpr[index.toNat]?.getD 0

def setFpr (state : R5900IrExecutionState) (index : BitVec 8) (value : BitVec 32) :
    R5900IrExecutionState :=
  { state with fpr := state.fpr.setIfInBounds index.toNat value }

/-- Replace a whole register, unless it is GPR zero. -/
def writeFull128 (state : R5900IrExecutionState) (rd : BitVec 8)
    (value : R5900IrGprValue) : R5900IrExecutionState :=
  if rd = 0 then state else state.setGpr rd value

/-- Replace the low half of a register, unless it is GPR zero. -/
def writeLow64 (state : R5900IrExecutionState) (rd : BitVec 8)
    (value : BitVec 64) : R5900IrExecutionState :=
  state.writeFull128 rd { state.gprValue rd with low64 := value }

def setHilo (state : R5900IrExecutionState) (kind : R5900IrDestinationKind)
    (value : BitVec 64) : R5900IrExecutionState :=
  match kind with
  | .hi => { state with hi := value }
  | .lo => { state with lo := value }
  | .hi1 => { state with hi1 := value }
  | .lo1 => { state with lo1 := value }
  | _ => state

def operandValue (state : R5900IrExecutionState) (operand : R5900IrOperand) :
    BitVec 64 :=
  if operand.kind = .immediate then operand.immediate
  else (state.gprValue operand.gprIndex).low64

section Accesses

variable {state : R5900IrExecutionState} {index : BitVec 8}

theorem readGpr_eq_some (inRange : index < 32) :
    state.readGpr index = some (state.gprValue index) := by
  have bound : index.toNat < 32 := inRange
  simp [readGpr, gprValue, bound]

theorem readFpr_eq_some (inRange : index < 32) :
    state.readFpr index = some (state.fprValue index) := by
  have bound : index.toNat < 32 := inRange
  simp [readFpr, fprValue, bound]

theorem writeGpr_eq_some (inRange : index < 32) (value : R5900IrGprValue) :
    state.writeGpr index value = some (state.setGpr index value) := by
  have bound : index.toNat < 32 := inRange
  simp only [writeGpr, setGpr, bound, dif_pos]
  congr 2
  ext register inside
  simp [Vector.getElem_set, Vector.getElem_setIfInBounds]

theorem writeFpr_eq_some (inRange : index < 32) (value : BitVec 32) :
    state.writeFpr index value = some (state.setFpr index value) := by
  have bound : index.toNat < 32 := inRange
  simp only [writeFpr, setFpr, bound, dif_pos]
  congr 2
  ext register inside
  simp [Vector.getElem_set, Vector.getElem_setIfInBounds]

theorem writeGprLow64_eq_some (inRange : index < 32) (value : BitVec 64) :
    state.writeGprLow64 index value =
      some (state.setGpr index { state.gprValue index with low64 := value }) := by
  simp [writeGprLow64, readGpr_eq_some inRange, writeGpr_eq_some inRange]

end Accesses

end R5900IrExecutionState

open R5900IrExecutionState

theorem readOperandValue_eq_some {operand : R5900IrOperand}
    {state : R5900IrExecutionState} (integer : operand.IsInteger) :
    readOperandValue operand state = some (state.operandValue operand) := by
  unfold readOperandValue operandValue
  rcases integer with gpr | immediate
  · simp [gpr.1, readGpr_eq_some gpr.2]
  · have kind : operand.kind = .immediate := immediate
    simp [kind]

section Effects

variable {addF32 : BitVec 32 → BitVec 32 → BitVec 32}
  {guestPc guestRaw : BitVec 32} {state : R5900IrExecutionState}

theorem executeInstruction_addWordSignExtend {rd : BitVec 8}
    {lhs rhs : R5900IrOperand} (destination : rd < 32)
    (left : lhs.IsInteger) (right : rhs.IsInteger) :
    executeInstruction addF32 ⟨guestPc, guestRaw, .addWordSignExtend,
        some ⟨.gpr, rd⟩, .low64PreserveUpper64, [lhs, rhs]⟩ state =
      some (state.writeLow64 rd (signExtendWord
        ((state.operandValue lhs).setWidth 32 +
          (state.operandValue rhs).setWidth 32))) := by
  simp [executeInstruction, readOperandValue_eq_some left,
    readOperandValue_eq_some right, writeGprLow64_eq_some destination, writeLow64,
    writeFull128]
  split <;> rfl

theorem executeInstruction_or64 {rd : BitVec 8} {lhs rhs : R5900IrOperand}
    (destination : rd < 32) (left : lhs.IsInteger) (right : rhs.IsInteger) :
    executeInstruction addF32 ⟨guestPc, guestRaw, .or64,
        some ⟨.gpr, rd⟩, .low64PreserveUpper64, [lhs, rhs]⟩ state =
      some (state.writeLow64 rd
        (state.operandValue lhs ||| state.operandValue rhs)) := by
  simp [executeInstruction, readOperandValue_eq_some left,
    readOperandValue_eq_some right, writeGprLow64_eq_some destination, writeLow64,
    writeFull128]
  split <;> rfl

theorem executeInstruction_and64 {rd : BitVec 8} {lhs rhs : R5900IrOperand}
    (destination : rd < 32) (left : lhs.IsGpr) :
    executeInstruction addF32 ⟨guestPc, guestRaw, .and64,
        some ⟨.gpr, rd⟩, .low64PreserveUpper64, [lhs, rhs]⟩ state =
      some (state.writeLow64 rd
        ((state.gprValue lhs.gprIndex).low64 &&& rhs.immediate)) := by
  simp [executeInstruction, readGpr_eq_some left.2,
    writeGprLow64_eq_some destination, writeLow64, writeFull128]
  split <;> rfl

theorem executeInstruction_lui {rd : BitVec 8} {input : R5900IrOperand}
    (destination : rd < 32) :
    executeInstruction addF32 ⟨guestPc, guestRaw, .loadUpperImmediateSignExtend,
        some ⟨.gpr, rd⟩, .low64PreserveUpper64, [input]⟩ state =
      some (state.writeLow64 rd (signExtendWord
        ((input.immediate.setWidth 16).setWidth 32 <<< 16))) := by
  simp [executeInstruction, writeGprLow64_eq_some destination, writeLow64,
    writeFull128]
  split <;> rfl

theorem executeInstruction_packedU32Add {rd : BitVec 8}
    {lhs rhs : R5900IrOperand} (destination : rd < 32)
    (left : lhs.IsGpr) (right : rhs.IsGpr) :
    executeInstruction addF32 ⟨guestPc, guestRaw, .addPackedU32Saturate128,
        some ⟨.gpr, rd⟩, .full128, [lhs, rhs]⟩ state =
      some (state.writeFull128 rd (packedU32SaturatingAdd
        (state.gprValue lhs.gprIndex) (state.gprValue rhs.gprIndex))) := by
  simp [executeInstruction, readGpr_eq_some left.2, readGpr_eq_some right.2,
    writeGpr_eq_some destination, writeFull128]
  split <;> rfl

theorem executeInstruction_moveGprLow64 {kind : R5900IrDestinationKind}
    {input : R5900IrOperand} (source : input.IsGpr) :
    executeInstruction addF32 ⟨guestPc, guestRaw, .moveGprLow64,
        some ⟨kind, 0⟩, .none, [input]⟩ state =
      some (state.setHilo kind (state.gprValue input.gprIndex).low64) := by
  simp only [executeInstruction, List.getElem?_cons_zero, Option.bind_eq_bind,
    Option.bind_some, readGpr_eq_some source.2]
  cases kind <;> rfl

theorem executeInstruction_mtsah {input immediate : R5900IrOperand}
    (source : input.IsGpr) :
    executeInstruction addF32 ⟨guestPc, guestRaw, .computeMtsah,
        some ⟨.sa, 0⟩, .none, [input, immediate]⟩ state =
      some { state with
        sa := (((state.gprValue input.gprIndex).low64.setWidth 32 &&& 0x7) ^^^
          (immediate.immediate.setWidth 32 &&& 0x7)) <<< 1 } := by
  simp [executeInstruction, readGpr_eq_some source.2]

theorem executeInstruction_moveBitsToFpr {fd : BitVec 8}
    {input : R5900IrOperand} (destination : fd < 32) (source : input.IsGpr) :
    executeInstruction addF32 ⟨guestPc, guestRaw, .moveBits32,
        some ⟨.fpr, fd⟩, .none, [input]⟩ state =
      some (state.setFpr fd
        ((state.gprValue input.gprIndex).low64.setWidth 32)) := by
  simp [executeInstruction, readGpr_eq_some source.2, writeFpr_eq_some destination]

theorem executeInstruction_moveBitsToFcr31 {input : R5900IrOperand}
    (source : input.IsGpr) :
    executeInstruction addF32 ⟨guestPc, guestRaw, .moveBits32,
        some ⟨.fcr31, 0⟩, .none, [input]⟩ state =
      some { state with
        fcr31 := (state.gprValue input.gprIndex).low64.setWidth 32 } := by
  simp [executeInstruction, readGpr_eq_some source.2]

theorem executeInstruction_addF32Accumulator {lhs rhs : R5900IrOperand}
    (left : lhs.IsFpr) (right : rhs.IsFpr) :
    executeInstruction addF32 ⟨guestPc, guestRaw, .addF32ToAccumulator,
        some ⟨.fpAccumulator, 0⟩, .none, [lhs, rhs]⟩ state =
      some { state with
        fpAcc := addF32 (state.fprValue lhs.gprIndex)
          (state.fprValue rhs.gprIndex) } := by
  simp [executeInstruction, readFpr_eq_some left.2, readFpr_eq_some right.2]

/-- Every access a validated instruction makes is inside its register file or
operand list. -/
theorem executeInstruction_isSome {ir : R5900IrInstruction}
    (wellFormed : R5900IrWellFormed ir) :
    (executeInstruction addF32 ir state).isSome := by
  cases wellFormed with
  | nop => rfl
  | addWordSignExtend inRange left right =>
      rw [executeInstruction_addWordSignExtend inRange left right]; rfl
  | or64 inRange left right =>
      rw [executeInstruction_or64 inRange left right]; rfl
  | and64 inRange left right => rw [executeInstruction_and64 inRange left]; rfl
  | lui inRange source => rw [executeInstruction_lui inRange]; rfl
  | packedU32Add inRange left right =>
      rw [executeInstruction_packedU32Add inRange left right]; rfl
  | moveGprLow64 hilo source => rw [executeInstruction_moveGprLow64 source]; rfl
  | mtsah source constant => rw [executeInstruction_mtsah source]; rfl
  | moveBitsToFpr inRange source =>
      rw [executeInstruction_moveBitsToFpr inRange source]; rfl
  | moveBitsToFcr31 source => rw [executeInstruction_moveBitsToFcr31 source]; rfl
  | addF32Accumulator left right =>
      rw [executeInstruction_addF32Accumulator left right]; rfl

end Effects

end Burnout3Recompiled
