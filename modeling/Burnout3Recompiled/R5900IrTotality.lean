import Burnout3Recompiled.R5900IrShapes
import Burnout3Recompiled.R5900X64NativeCode

/-!
# Validation makes execution and emission total

The interpreter and the emitters are written here once more so that they trap: where an
access would leave a register file or an operand list, where an operand is not of the
kind its reader takes it for, and where the source would fall back to a default.  Where
the trapping versions return, they agree with the source's, and on every validated
instruction they return.
-/

namespace Burnout3Recompiled

open R5900IrExecutionState

namespace R5900IrOperand

/-- The immediate, of an operand that is one. -/
def immediate? (operand : R5900IrOperand) : Option (BitVec 64) :=
  if operand.kind = .immediate then some operand.immediate else none

/-- The register, of an operand that names a GPR. -/
def gprIndex? (operand : R5900IrOperand) : Option (BitVec 8) :=
  if operand.kind = .gpr then some operand.gprIndex else none

/-- The register, of an operand that names an FPR. -/
def fprIndex? (operand : R5900IrOperand) : Option (BitVec 8) :=
  if operand.kind = .fpr then some operand.gprIndex else none

end R5900IrOperand

/-- The destination, where it is one of the kinds that the code writes. -/
def R5900IrInstruction.destinationOf? (ir : R5900IrInstruction)
    (kinds : List R5900IrDestinationKind) : Option R5900IrDestination := do
  let destination ← ir.destination
  if destination.kind ∈ kinds then some destination else none

section Execution

variable (addF32 : BitVec 32 → BitVec 32 → BitVec 32)

def trappingOperandValue (operand : R5900IrOperand) (state : R5900IrExecutionState) :
    Option (BitVec 64) :=
  match operand.kind with
  | .immediate => some operand.immediate
  | .gpr => do
      let value ← state.readGpr operand.gprIndex
      return value.low64
  | _ => none

def trappingWriteLow64 (ir : R5900IrInstruction) (state : R5900IrExecutionState)
    (value : BitVec 64) : Option R5900IrExecutionState := do
  let destination ← ir.destinationOf? [.gpr]
  if destination.index ≠ 0 then state.writeGprLow64 destination.index value else some state

def trappingExecuteInstruction (ir : R5900IrInstruction) (state : R5900IrExecutionState) :
    Option R5900IrExecutionState :=
  match ir.opcode with
  | .nop => some state
  | .addWordSignExtend => do
      let lhs ← trappingOperandValue (← ir.inputs[0]?) state
      let rhs ← trappingOperandValue (← ir.inputs[1]?) state
      trappingWriteLow64 ir state (signExtendWord (lhs.setWidth 32 + rhs.setWidth 32))
  | .or64 => do
      let lhs ← trappingOperandValue (← ir.inputs[0]?) state
      let rhs ← trappingOperandValue (← ir.inputs[1]?) state
      trappingWriteLow64 ir state (lhs ||| rhs)
  | .and64 => do
      let lhs ← state.readGpr (← (← ir.inputs[0]?).gprIndex?)
      let rhs ← (← ir.inputs[1]?).immediate?
      trappingWriteLow64 ir state (lhs.low64 &&& rhs)
  | .loadUpperImmediateSignExtend => do
      let immediate ← (← ir.inputs[0]?).immediate?
      trappingWriteLow64 ir state
        (signExtendWord ((immediate.setWidth 16).setWidth 32 <<< 16))
  | .moveGprLow64 => do
      let value := (← state.readGpr (← (← ir.inputs[0]?).gprIndex?)).low64
      let destination ← ir.destination
      match destination.kind with
      | .hi => some { state with hi := value }
      | .lo => some { state with lo := value }
      | .hi1 => some { state with hi1 := value }
      | .lo1 => some { state with lo1 := value }
      | _ => none
  | .computeMtsah => do
      let source := (← state.readGpr (← (← ir.inputs[0]?).gprIndex?)).low64.setWidth 32
      let immediateValue := (← (← ir.inputs[1]?).immediate?).setWidth 32
      some { state with
        sa := ((source &&& 0x7) ^^^ (immediateValue &&& 0x7)) <<< 1 }
  | .addPackedU32Saturate128 => do
      let lhs ← state.readGpr (← (← ir.inputs[0]?).gprIndex?)
      let rhs ← state.readGpr (← (← ir.inputs[1]?).gprIndex?)
      let destination ← ir.destinationOf? [.gpr]
      if destination.index ≠ 0 then
        state.writeGpr destination.index (packedU32SaturatingAdd lhs rhs)
      else some state
  | .moveBits32 => do
      let raw := (← state.readGpr (← (← ir.inputs[0]?).gprIndex?)).low64.setWidth 32
      let destination ← ir.destination
      match destination.kind with
      | .fpr => state.writeFpr destination.index raw
      | .fcr31 => some { state with fcr31 := raw }
      | _ => none
  | .addF32ToAccumulator => do
      let lhs ← state.readFpr (← (← ir.inputs[0]?).fprIndex?)
      let rhs ← state.readFpr (← (← ir.inputs[1]?).fprIndex?)
      some { state with fpAcc := addF32 lhs rhs }
  | .outOfRange => none

end Execution

def trappingGprOffset (index : BitVec 8) : Option (BitVec 32) :=
  if index < 32 then some (gprOffset index) else none

def trappingGprLow64Offset (index : BitVec 8) : Option (BitVec 32) :=
  if index < 32 then some (gprLow64Offset index) else none

def trappingFprOffset (index : BitVec 8) : Option (BitVec 32) :=
  if index < 32 then some (fprOffset index) else none

def trappingHiloDestinationOffset : R5900IrDestinationKind → Option (BitVec 32)
  | .hi => some hiOffset
  | .lo => some loOffset
  | .hi1 => some hi1Offset
  | .lo1 => some lo1Offset
  | _ => none

/-- The four emitters that load an operand into RAX or RDX. -/
def trappingEmitOperand (load : BitVec 32 → List (BitVec 8))
    (move : BitVec 64 → List (BitVec 8)) (operand : R5900IrOperand) :
    Option (List (BitVec 8)) :=
  match operand.kind with
  | .gpr => (trappingGprLow64Offset operand.gprIndex).map load
  | .immediate => some (move operand.immediate)
  | _ => none

def trappingEmitStoreLow64 (ir : R5900IrInstruction) : Option (List (BitVec 8)) := do
  let destination ← ir.destinationOf? [.gpr]
  if destination.index ≠ 0 then
    (trappingGprLow64Offset destination.index).map emitStoreRaxToState
  else some []

def trappingEmitStoreLane (index : BitVec 8) (lane : Nat) : Option (List (BitVec 8)) :=
  if index ≠ 0 then
    (trappingGprOffset index).map fun offset =>
      emitStoreEaxToState (offset + BitVec.ofNat 32 (lane * 4))
  else some []

def trappingEmitPadduwLane (index : BitVec 8) (lane : Nat) : Option (List (BitVec 8)) := do
  let store ← trappingEmitStoreLane index lane
  return emitMovdEaxXmm0 ++ emitMovdEdxXmm1 ++ [0x01, 0xd0, 0x19, 0xd2, 0x09, 0xd0] ++
    store ++ (if lane ≠ 3 then emitShiftXmmSourcesOneLane else [])

def trappingMoveBits32Offset (destination : R5900IrDestination) : Option (BitVec 32) :=
  match destination.kind with
  | .fpr => trappingFprOffset destination.index
  | .fcr31 => some fcr31Offset
  | _ => none

def trappingEmitInstruction (ir : R5900IrInstruction) : Option (List (BitVec 8)) :=
  match ir.opcode with
  | .nop => some []
  | .addWordSignExtend => do
      let lhs ← trappingEmitOperand emitLoadEaxFromState
        (fun immediate => emitMovEaxImm32 (immediate.setWidth 32)) (← ir.inputs[0]?)
      let rhs ← trappingEmitOperand emitLoadEdxFromState
        (fun immediate => emitMovEdxImm32 (immediate.setWidth 32)) (← ir.inputs[1]?)
      return lhs ++ rhs ++ [0x01, 0xd0, 0x48, 0x98] ++ (← trappingEmitStoreLow64 ir)
  | .or64 => do
      let lhs ← trappingEmitOperand emitLoadRaxFromState emitMovRaxImm64 (← ir.inputs[0]?)
      let rhs ← trappingEmitOperand emitLoadRdxFromState emitMovRdxImm64 (← ir.inputs[1]?)
      return lhs ++ rhs ++ [0x48, 0x09, 0xd0] ++ (← trappingEmitStoreLow64 ir)
  | .and64 => do
      let lhs ← trappingEmitOperand emitLoadRaxFromState emitMovRaxImm64 (← ir.inputs[0]?)
      let rhs ← trappingEmitOperand emitLoadRdxFromState emitMovRdxImm64 (← ir.inputs[1]?)
      return lhs ++ rhs ++ [0x48, 0x21, 0xd0] ++ (← trappingEmitStoreLow64 ir)
  | .loadUpperImmediateSignExtend => do
      let immediate ← (← ir.inputs[0]?).immediate?
      return emitMovEaxImm32 ((immediate.setWidth 16).setWidth 32 <<< 16) ++
        [0x48, 0x98] ++ (← trappingEmitStoreLow64 ir)
  | .moveGprLow64 => do
      let source ← trappingGprLow64Offset (← (← ir.inputs[0]?).gprIndex?)
      let target ← trappingHiloDestinationOffset (← ir.destination).kind
      return emitLoadRaxFromState source ++ emitStoreRaxToState target
  | .computeMtsah => do
      let source ← trappingGprLow64Offset (← (← ir.inputs[0]?).gprIndex?)
      let immediate ← (← ir.inputs[1]?).immediate?
      return emitLoadEaxFromState source ++ [0x83, 0xe0, 0x07] ++
        [0x83, 0xf0, immediate.setWidth 8 &&& 0x07] ++ [0xd1, 0xe0] ++
        emitStoreEaxToState saOffset
  | .addPackedU32Saturate128 => do
      let lhs ← trappingGprOffset (← (← ir.inputs[0]?).gprIndex?)
      let rhs ← trappingGprOffset (← (← ir.inputs[1]?).gprIndex?)
      let destination ← ir.destinationOf? [.gpr]
      let lanes ← (List.range 4).mapM (trappingEmitPadduwLane destination.index)
      return ([0xf3, 0x0f, 0x6f, 0x81] ++ emitU32 lhs) ++
        ([0xf3, 0x0f, 0x6f, 0x89] ++ emitU32 rhs) ++ lanes.flatten
  | .moveBits32 => do
      let source ← trappingGprLow64Offset (← (← ir.inputs[0]?).gprIndex?)
      let target ← trappingMoveBits32Offset (← ir.destination)
      return emitLoadEaxFromState source ++ emitStoreEaxToState target
  | .addF32ToAccumulator => do
      let lhs ← trappingFprOffset (← (← ir.inputs[0]?).fprIndex?)
      let rhs ← trappingFprOffset (← (← ir.inputs[1]?).fprIndex?)
      return emitLoadXmm0F32 lhs ++ emitAddXmm0F32 rhs ++ emitStoreXmm0F32 fpAccOffset
  | .outOfRange => none

section Agreement

variable {addF32 : BitVec 32 → BitVec 32 → BitVec 32} {ir : R5900IrInstruction}
  {state next : R5900IrExecutionState} {operand : R5900IrOperand}
  {destination : R5900IrDestination} {index : BitVec 8}

theorem gprIndex?_eq_some_iff :
    operand.gprIndex? = some index ↔ operand.kind = .gpr ∧ operand.gprIndex = index := by
  simp [R5900IrOperand.gprIndex?]

theorem fprIndex?_eq_some_iff :
    operand.fprIndex? = some index ↔ operand.kind = .fpr ∧ operand.gprIndex = index := by
  simp [R5900IrOperand.fprIndex?]

theorem immediate?_eq_some_iff {immediate : BitVec 64} :
    operand.immediate? = some immediate ↔
      operand.kind = .immediate ∧ operand.immediate = immediate := by
  simp [R5900IrOperand.immediate?]

theorem destinationOf?_eq_some_iff {kinds : List R5900IrDestinationKind} :
    ir.destinationOf? kinds = some destination ↔
      ir.destination = some destination ∧ destination.kind ∈ kinds := by
  unfold R5900IrInstruction.destinationOf?
  cases ir.destination with
  | none => simp
  | some other =>
      simp only [Option.bind_eq_bind, Option.bind_some, Option.some.injEq]
      constructor
      · intro found
        split at found
        · next member =>
            obtain rfl := Option.some.inj found
            exact ⟨rfl, member⟩
        · cases found
      · rintro ⟨rfl, member⟩
        exact if_pos member

theorem readOperandValue_of_trapping {value : BitVec 64}
    (returns : trappingOperandValue operand state = some value) :
    readOperandValue operand state = some value := by
  unfold trappingOperandValue at returns
  unfold readOperandValue
  split at returns
  · next kind => rwa [if_pos kind]
  · next kind =>
      rw [if_neg (by simp [kind])]
      exact returns
  · cases returns

theorem writeLow64_of_trapping {value : BitVec 64}
    (returns : trappingWriteLow64 ir state value = some next) :
    ∃ destination, ir.destination = some destination ∧
      (if destination.index ≠ 0 then state.writeGprLow64 destination.index value
      else some state) = some next := by
  simp only [trappingWriteLow64, Option.bind_eq_bind, Option.bind_eq_some_iff,
    destinationOf?_eq_some_iff] at returns
  obtain ⟨destination, ⟨present, -⟩, written⟩ := returns
  exact ⟨destination, present, written⟩

/-- Where the trapping interpreter returns, the interpreter does the same. -/
theorem executeInstruction_of_trapping
    (returns : trappingExecuteInstruction addF32 ir state = some next) :
    executeInstruction addF32 ir state = some next := by
  unfold trappingExecuteInstruction at returns
  unfold executeInstruction
  cases opcode : ir.opcode with
  | nop =>
      rw [opcode] at returns
      exact returns
  | addWordSignExtend | or64 =>
      rw [opcode] at returns
      simp only [Option.bind_eq_bind, Option.bind_eq_some_iff] at returns ⊢
      obtain ⟨lhs, first, left, readLeft, rhs, second, right, readRight, written⟩ := returns
      exact ⟨lhs, first, left, readOperandValue_of_trapping readLeft, rhs, second, right,
        readOperandValue_of_trapping readRight, writeLow64_of_trapping written⟩
  | and64 =>
      rw [opcode] at returns
      simp only [Option.bind_eq_bind, Option.bind_eq_some_iff, gprIndex?_eq_some_iff,
        immediate?_eq_some_iff] at returns ⊢
      obtain ⟨lhs, first, _, ⟨-, rfl⟩, left, readLeft, rhs, second, _, ⟨-, rfl⟩, written⟩ :=
        returns
      exact ⟨lhs, first, left, readLeft, rhs, second, writeLow64_of_trapping written⟩
  | loadUpperImmediateSignExtend =>
      rw [opcode] at returns
      simp only [Option.bind_eq_bind, Option.bind_eq_some_iff,
        immediate?_eq_some_iff] at returns ⊢
      obtain ⟨input, first, _, ⟨-, rfl⟩, written⟩ := returns
      exact ⟨input, first, writeLow64_of_trapping written⟩
  | moveGprLow64 =>
      rw [opcode] at returns
      simp only [Option.bind_eq_bind, Option.bind_eq_some_iff,
        gprIndex?_eq_some_iff] at returns ⊢
      obtain ⟨input, first, _, ⟨-, rfl⟩, value, readInput, destination, present, written⟩ :=
        returns
      refine ⟨input, first, value, readInput, destination, present, ?_⟩
      cases kind : destination.kind <;> rw [kind] at written <;>
        first | exact written | cases written
  | computeMtsah =>
      rw [opcode] at returns
      simp only [Option.bind_eq_bind, Option.bind_eq_some_iff, gprIndex?_eq_some_iff,
        immediate?_eq_some_iff] at returns ⊢
      obtain ⟨input, first, _, ⟨-, rfl⟩, value, readInput, rhs, second, _, ⟨-, rfl⟩, written⟩ :=
        returns
      exact ⟨input, first, value, readInput, rhs, second, written⟩
  | addPackedU32Saturate128 =>
      rw [opcode] at returns
      simp only [Option.bind_eq_bind, Option.bind_eq_some_iff, gprIndex?_eq_some_iff,
        destinationOf?_eq_some_iff] at returns ⊢
      obtain ⟨lhs, first, _, ⟨-, rfl⟩, left, readLeft, rhs, second, _, ⟨-, rfl⟩, right,
        readRight, destination, ⟨present, -⟩, written⟩ := returns
      exact ⟨lhs, first, left, readLeft, rhs, second, right, readRight, destination, present,
        written⟩
  | moveBits32 =>
      rw [opcode] at returns
      simp only [Option.bind_eq_bind, Option.bind_eq_some_iff,
        gprIndex?_eq_some_iff] at returns ⊢
      obtain ⟨input, first, _, ⟨-, rfl⟩, value, readInput, destination, present, written⟩ :=
        returns
      refine ⟨input, first, value, readInput, destination, present, ?_⟩
      cases kind : destination.kind <;> rw [kind] at written <;>
        first | exact written | cases written
  | addF32ToAccumulator =>
      rw [opcode] at returns
      simp only [Option.bind_eq_bind, Option.bind_eq_some_iff,
        fprIndex?_eq_some_iff] at returns ⊢
      obtain ⟨lhs, first, _, ⟨-, rfl⟩, left, readLeft, rhs, second, _, ⟨-, rfl⟩, right,
        readRight, written⟩ := returns
      exact ⟨lhs, first, left, readLeft, rhs, second, right, readRight, written⟩
  | outOfRange =>
      rw [opcode] at returns
      cases returns

end Agreement

section EmissionAgreement

variable {ir : R5900IrInstruction} {operand : R5900IrOperand} {index : BitVec 8}
  {offset : BitVec 32} {bytes : List (BitVec 8)}

theorem trappingGprOffset_eq_some_iff :
    trappingGprOffset index = some offset ↔ index < 32 ∧ gprOffset index = offset := by
  simp [trappingGprOffset]

theorem trappingGprLow64Offset_eq_some_iff :
    trappingGprLow64Offset index = some offset ↔
      index < 32 ∧ gprLow64Offset index = offset := by
  simp [trappingGprLow64Offset]

theorem trappingFprOffset_eq_some_iff :
    trappingFprOffset index = some offset ↔ index < 32 ∧ fprOffset index = offset := by
  simp [trappingFprOffset]

theorem hiloDestinationOffset_of_trapping {kind : R5900IrDestinationKind}
    (returns : trappingHiloDestinationOffset kind = some offset) :
    hiloDestinationOffset kind = offset := by
  cases kind <;> first | exact Option.some.inj returns | cases returns

theorem emitOperand_of_trapping {load : BitVec 32 → List (BitVec 8)}
    {move : BitVec 64 → List (BitVec 8)}
    (returns : trappingEmitOperand load move operand = some bytes) :
    (if operand.kind = .gpr then load (gprLow64Offset operand.gprIndex)
      else move operand.immediate) = bytes := by
  unfold trappingEmitOperand at returns
  split at returns
  · next kind =>
      obtain ⟨offset, found, rfl⟩ := Option.map_eq_some_iff.mp returns
      obtain ⟨-, rfl⟩ := trappingGprLow64Offset_eq_some_iff.mp found
      exact if_pos kind
  · next kind =>
      obtain rfl := Option.some.inj returns
      exact if_neg (by simp [kind])
  · cases returns

theorem emitStoreLow64_of_trapping (returns : trappingEmitStoreLow64 ir = some bytes) :
    ∃ destination, ir.destination = some destination ∧
      emitStoreLow64 destination.index = bytes := by
  simp only [trappingEmitStoreLow64, Option.bind_eq_bind, Option.bind_eq_some_iff,
    destinationOf?_eq_some_iff] at returns
  obtain ⟨destination, ⟨present, -⟩, stored⟩ := returns
  refine ⟨destination, present, ?_⟩
  unfold emitStoreLow64
  split at stored
  · next written =>
      obtain ⟨offset, found, rfl⟩ := Option.map_eq_some_iff.mp stored
      obtain ⟨-, rfl⟩ := trappingGprLow64Offset_eq_some_iff.mp found
      exact if_pos written
  · next discarded =>
      obtain rfl := Option.some.inj stored
      exact if_neg discarded

theorem emitPadduwLane_of_trapping {lane : Nat}
    (returns : trappingEmitPadduwLane index lane = some bytes) :
    emitPadduwLane index lane = bytes := by
  simp only [trappingEmitPadduwLane, Option.bind_eq_bind, Option.bind_eq_some_iff] at returns
  obtain ⟨store, stored, returned⟩ := returns
  obtain rfl := Option.some.inj returned
  unfold trappingEmitStoreLane at stored
  unfold emitPadduwLane
  split at stored
  · next written =>
      obtain ⟨offset, found, rfl⟩ := Option.map_eq_some_iff.mp stored
      obtain ⟨-, rfl⟩ := trappingGprOffset_eq_some_iff.mp found
      rw [if_pos written]
  · next discarded =>
      obtain rfl := Option.some.inj stored
      rw [if_neg discarded]

theorem moveBits32Offset_of_trapping {destination : R5900IrDestination}
    (returns : trappingMoveBits32Offset destination = some offset) :
    (if destination.kind = .fpr then fprOffset destination.index else fcr31Offset) =
      offset := by
  unfold trappingMoveBits32Offset at returns
  split at returns
  · next kind =>
      obtain ⟨-, rfl⟩ := trappingFprOffset_eq_some_iff.mp returns
      exact if_pos kind
  · next kind =>
      obtain rfl := Option.some.inj returns
      exact if_neg (by simp [kind])
  · cases returns

theorem emitPadduwLanes_of_trapping {lanes : List Nat} {chunks : List (List (BitVec 8))}
    (returns : lanes.mapM (trappingEmitPadduwLane index) = some chunks) :
    lanes.flatMap (emitPadduwLane index) = chunks.flatten := by
  induction lanes generalizing chunks with
  | nil =>
      obtain rfl := Option.some.inj returns
      rfl
  | cons lane lanes ih =>
      simp only [List.mapM_cons, Option.bind_eq_bind, Option.bind_eq_some_iff] at returns
      obtain ⟨chunk, first, rest, others, returned⟩ := returns
      obtain rfl := Option.some.inj returned
      rw [List.flatMap_cons, List.flatten_cons, ih others, emitPadduwLane_of_trapping first]

/-- Where the trapping emitters return, the emitters emit the same bytes. -/
theorem emitInstruction_of_trapping (returns : trappingEmitInstruction ir = some bytes) :
    emitInstruction ir = some bytes := by
  unfold trappingEmitInstruction at returns
  unfold emitInstruction
  cases opcode : ir.opcode with
  | nop =>
      rw [opcode] at returns
      exact returns
  | addWordSignExtend | or64 | and64 =>
      rw [opcode] at returns
      simp only [Option.bind_eq_bind, Option.bind_eq_some_iff] at returns
      obtain ⟨lhs, first, left, emitLeft, rhs, second, right, emitRight, store, stored,
        returned⟩ := returns
      obtain rfl := Option.some.inj returned
      obtain ⟨destination, present, rfl⟩ := emitStoreLow64_of_trapping stored
      obtain rfl := emitOperand_of_trapping emitLeft
      obtain rfl := emitOperand_of_trapping emitRight
      simp only [first, second, present, Option.bind_eq_bind, Option.bind_some]
      rfl
  | loadUpperImmediateSignExtend =>
      rw [opcode] at returns
      simp only [Option.bind_eq_bind, Option.bind_eq_some_iff,
        immediate?_eq_some_iff] at returns
      obtain ⟨input, first, _, ⟨-, rfl⟩, store, stored, returned⟩ := returns
      obtain rfl := Option.some.inj returned
      obtain ⟨destination, present, rfl⟩ := emitStoreLow64_of_trapping stored
      simp only [first, present, Option.bind_eq_bind, Option.bind_some]
      rfl
  | moveGprLow64 =>
      rw [opcode] at returns
      simp only [Option.bind_eq_bind, Option.bind_eq_some_iff, gprIndex?_eq_some_iff,
        trappingGprLow64Offset_eq_some_iff] at returns
      obtain ⟨input, first, _, ⟨-, rfl⟩, _, ⟨-, rfl⟩, destination, present, target, hilo,
        returned⟩ := returns
      obtain rfl := Option.some.inj returned
      obtain rfl := hiloDestinationOffset_of_trapping hilo
      simp only [first, present, Option.bind_eq_bind, Option.bind_some]
      rfl
  | computeMtsah =>
      rw [opcode] at returns
      simp only [Option.bind_eq_bind, Option.bind_eq_some_iff, gprIndex?_eq_some_iff,
        immediate?_eq_some_iff, trappingGprLow64Offset_eq_some_iff] at returns
      obtain ⟨input, first, _, ⟨-, rfl⟩, _, ⟨-, rfl⟩, rhs, second, _, ⟨-, rfl⟩, returned⟩ :=
        returns
      obtain rfl := Option.some.inj returned
      simp only [first, second, Option.bind_eq_bind, Option.bind_some]
      rfl
  | addPackedU32Saturate128 =>
      rw [opcode] at returns
      simp only [Option.bind_eq_bind, Option.bind_eq_some_iff, gprIndex?_eq_some_iff,
        destinationOf?_eq_some_iff, trappingGprOffset_eq_some_iff] at returns
      obtain ⟨lhs, first, _, ⟨-, rfl⟩, _, ⟨-, rfl⟩, rhs, second, _, ⟨-, rfl⟩, _, ⟨-, rfl⟩,
        destination, ⟨present, -⟩, chunks, lanes, returned⟩ := returns
      obtain rfl := Option.some.inj returned
      simp only [first, second, present, Option.bind_eq_bind, Option.bind_some]
      rw [← emitPadduwLanes_of_trapping lanes]
      rfl
  | moveBits32 =>
      rw [opcode] at returns
      simp only [Option.bind_eq_bind, Option.bind_eq_some_iff, gprIndex?_eq_some_iff,
        trappingGprLow64Offset_eq_some_iff] at returns
      obtain ⟨input, first, _, ⟨-, rfl⟩, _, ⟨-, rfl⟩, destination, present, target, found,
        returned⟩ := returns
      obtain rfl := Option.some.inj returned
      obtain rfl := moveBits32Offset_of_trapping found
      simp only [first, present, Option.bind_eq_bind, Option.bind_some]
      rfl
  | addF32ToAccumulator =>
      rw [opcode] at returns
      simp only [Option.bind_eq_bind, Option.bind_eq_some_iff, fprIndex?_eq_some_iff,
        trappingFprOffset_eq_some_iff] at returns
      obtain ⟨lhs, first, _, ⟨-, rfl⟩, _, ⟨-, rfl⟩, rhs, second, _, ⟨-, rfl⟩, _, ⟨-, rfl⟩,
        returned⟩ := returns
      obtain rfl := Option.some.inj returned
      simp only [first, second, Option.bind_eq_bind, Option.bind_some]
      rfl
  | outOfRange =>
      rw [opcode] at returns
      cases returns

end EmissionAgreement

section Validated

variable {ir : R5900IrInstruction} {state : R5900IrExecutionState}
  {operand : R5900IrOperand} {index : BitVec 8}

theorem gprIndex?_of_isGpr (gpr : operand.IsGpr) :
    operand.gprIndex? = some operand.gprIndex :=
  if_pos gpr.1

theorem fprIndex?_of_isFpr (fpr : operand.IsFpr) :
    operand.fprIndex? = some operand.gprIndex :=
  if_pos fpr.1

theorem immediate?_of_isImmediate (immediate : operand.IsImmediate) :
    operand.immediate? = some operand.immediate :=
  if_pos immediate

theorem destinationOf?_gpr (present : ir.destination = some ⟨.gpr, index⟩) :
    ir.destinationOf? [.gpr] = some ⟨.gpr, index⟩ :=
  destinationOf?_eq_some_iff.mpr ⟨present, .head _⟩

theorem trappingOperandValue_eq_some (integer : operand.IsInteger) :
    trappingOperandValue operand state = some (state.operandValue operand) := by
  unfold trappingOperandValue operandValue
  rcases integer with gpr | immediate
  · simp [gpr.1, readGpr_eq_some gpr.2]
  · have kind : operand.kind = .immediate := immediate
    simp [kind]

theorem trappingWriteLow64_isSome (present : ir.destination = some ⟨.gpr, index⟩)
    (inRange : index < 32) (value : BitVec 64) :
    (trappingWriteLow64 ir state value).isSome := by
  simp only [trappingWriteLow64, destinationOf?_gpr present, Option.bind_eq_bind,
    Option.bind_some]
  split
  · rw [writeGprLow64_eq_some inRange]
    rfl
  · rfl

/-- One case for each shape that validation accepts. -/
theorem trappingExecuteInstruction_isSome (addF32 : BitVec 32 → BitVec 32 → BitVec 32)
    (wellFormed : R5900IrWellFormed ir) (state : R5900IrExecutionState) :
    (trappingExecuteInstruction addF32 ir state).isSome := by
  cases wellFormed with
  | nop => rfl
  | addWordSignExtend inRange left right | or64 inRange left right =>
      simp only [trappingExecuteInstruction, List.getElem?_cons_zero, List.getElem?_cons_succ,
        Option.bind_eq_bind, Option.bind_some, trappingOperandValue_eq_some left,
        trappingOperandValue_eq_some right]
      exact trappingWriteLow64_isSome rfl inRange _
  | and64 inRange left right =>
      simp only [trappingExecuteInstruction, List.getElem?_cons_zero, List.getElem?_cons_succ,
        Option.bind_eq_bind, Option.bind_some, gprIndex?_of_isGpr left,
        readGpr_eq_some left.2, immediate?_of_isImmediate right]
      exact trappingWriteLow64_isSome rfl inRange _
  | lui inRange source =>
      simp only [trappingExecuteInstruction, List.getElem?_cons_zero, Option.bind_eq_bind,
        Option.bind_some, immediate?_of_isImmediate source]
      exact trappingWriteLow64_isSome rfl inRange _
  | packedU32Add inRange left right =>
      simp only [trappingExecuteInstruction, List.getElem?_cons_zero, List.getElem?_cons_succ,
        Option.bind_eq_bind, Option.bind_some, gprIndex?_of_isGpr left,
        readGpr_eq_some left.2, gprIndex?_of_isGpr right, readGpr_eq_some right.2]
      rw [destinationOf?_gpr rfl]
      simp only [Option.bind_some]
      split
      · rw [writeGpr_eq_some inRange]
        rfl
      · rfl
  | @moveGprLow64 _ _ kind _ hilo source =>
      simp only [trappingExecuteInstruction, List.getElem?_cons_zero, Option.bind_eq_bind,
        Option.bind_some, gprIndex?_of_isGpr source, readGpr_eq_some source.2]
      cases kind <;> first | rfl | cases hilo
  | mtsah source constant =>
      simp only [trappingExecuteInstruction, List.getElem?_cons_zero, List.getElem?_cons_succ,
        Option.bind_eq_bind, Option.bind_some, gprIndex?_of_isGpr source,
        readGpr_eq_some source.2, immediate?_of_isImmediate constant]
      rfl
  | moveBitsToFpr inRange source =>
      simp only [trappingExecuteInstruction, List.getElem?_cons_zero, Option.bind_eq_bind,
        Option.bind_some, gprIndex?_of_isGpr source, readGpr_eq_some source.2,
        writeFpr_eq_some inRange]
      rfl
  | moveBitsToFcr31 source =>
      simp only [trappingExecuteInstruction, List.getElem?_cons_zero, Option.bind_eq_bind,
        Option.bind_some, gprIndex?_of_isGpr source, readGpr_eq_some source.2]
      rfl
  | addF32Accumulator left right =>
      simp only [trappingExecuteInstruction, List.getElem?_cons_zero, List.getElem?_cons_succ,
        Option.bind_eq_bind, Option.bind_some, fprIndex?_of_isFpr left,
        readFpr_eq_some left.2, fprIndex?_of_isFpr right, readFpr_eq_some right.2]
      rfl

theorem trappingEmitOperand_eq_some {load : BitVec 32 → List (BitVec 8)}
    {move : BitVec 64 → List (BitVec 8)} (integer : operand.IsInteger) :
    trappingEmitOperand load move operand =
      some (if operand.kind = .gpr then load (gprLow64Offset operand.gprIndex)
        else move operand.immediate) := by
  unfold trappingEmitOperand
  rcases integer with gpr | immediate
  · rw [gpr.1, trappingGprLow64Offset, if_pos gpr.2]
    rfl
  · have kind : operand.kind = .immediate := immediate
    rw [kind]
    rfl

theorem trappingEmitStoreLow64_eq_some (present : ir.destination = some ⟨.gpr, index⟩)
    (inRange : index < 32) : trappingEmitStoreLow64 ir = some (emitStoreLow64 index) := by
  simp only [trappingEmitStoreLow64, emitStoreLow64, destinationOf?_gpr present,
    Option.bind_eq_bind, Option.bind_some, trappingGprLow64Offset, if_pos inRange]
  split
  · rfl
  · rfl

theorem trappingEmitPadduwLane_isSome (inRange : index < 32) (lane : Nat) :
    ∃ bytes, trappingEmitPadduwLane index lane = some bytes := by
  simp only [trappingEmitPadduwLane, trappingEmitStoreLane, trappingGprOffset, if_pos inRange,
    Option.map_some]
  split
  · exact ⟨_, rfl⟩
  · exact ⟨_, rfl⟩

theorem trappingEmitPadduwLanes_isSome (inRange : index < 32) (lanes : List Nat) :
    ∃ chunks, lanes.mapM (trappingEmitPadduwLane index) = some chunks := by
  induction lanes with
  | nil => exact ⟨[], rfl⟩
  | cons lane lanes ih =>
      obtain ⟨chunk, first⟩ := trappingEmitPadduwLane_isSome inRange lane
      obtain ⟨chunks, others⟩ := ih
      refine ⟨chunk :: chunks, ?_⟩
      rw [List.mapM_cons, first, others]
      rfl

theorem trappingEmitInstruction_isSome (wellFormed : R5900IrWellFormed ir) :
    ∃ bytes, trappingEmitInstruction ir = some bytes := by
  cases wellFormed with
  | nop => exact ⟨_, rfl⟩
  | addWordSignExtend inRange left right | or64 inRange left right =>
      simp only [trappingEmitInstruction, List.getElem?_cons_zero, List.getElem?_cons_succ,
        Option.bind_eq_bind, Option.bind_some, trappingEmitOperand_eq_some left,
        trappingEmitOperand_eq_some right]
      rw [trappingEmitStoreLow64_eq_some rfl inRange]
      exact ⟨_, rfl⟩
  | and64 inRange left right =>
      simp only [trappingEmitInstruction, List.getElem?_cons_zero, List.getElem?_cons_succ,
        Option.bind_eq_bind, Option.bind_some, trappingEmitOperand_eq_some (.inl left),
        trappingEmitOperand_eq_some (.inr right)]
      rw [trappingEmitStoreLow64_eq_some rfl inRange]
      exact ⟨_, rfl⟩
  | lui inRange source =>
      simp only [trappingEmitInstruction, List.getElem?_cons_zero, Option.bind_eq_bind,
        Option.bind_some, immediate?_of_isImmediate source]
      rw [trappingEmitStoreLow64_eq_some rfl inRange]
      exact ⟨_, rfl⟩
  | packedU32Add inRange left right =>
      obtain ⟨chunks, lanes⟩ := trappingEmitPadduwLanes_isSome inRange (List.range 4)
      simp only [trappingEmitInstruction, List.getElem?_cons_zero, List.getElem?_cons_succ,
        Option.bind_eq_bind, Option.bind_some, gprIndex?_of_isGpr left,
        gprIndex?_of_isGpr right, trappingGprOffset, if_pos left.2, if_pos right.2]
      rw [destinationOf?_gpr rfl]
      simp only [Option.bind_some]
      rw [lanes]
      exact ⟨_, rfl⟩
  | @moveGprLow64 _ _ kind _ hilo source =>
      simp only [trappingEmitInstruction, List.getElem?_cons_zero, Option.bind_eq_bind,
        Option.bind_some, gprIndex?_of_isGpr source, trappingGprLow64Offset, if_pos source.2]
      cases kind <;> first | exact ⟨_, rfl⟩ | cases hilo
  | mtsah source constant =>
      simp only [trappingEmitInstruction, List.getElem?_cons_zero, List.getElem?_cons_succ,
        Option.bind_eq_bind, Option.bind_some, gprIndex?_of_isGpr source,
        trappingGprLow64Offset, if_pos source.2, immediate?_of_isImmediate constant]
      exact ⟨_, rfl⟩
  | moveBitsToFpr inRange source =>
      simp only [trappingEmitInstruction, List.getElem?_cons_zero, Option.bind_eq_bind,
        Option.bind_some, gprIndex?_of_isGpr source, trappingGprLow64Offset, if_pos source.2,
        trappingMoveBits32Offset, trappingFprOffset, if_pos inRange]
      exact ⟨_, rfl⟩
  | moveBitsToFcr31 source =>
      simp only [trappingEmitInstruction, List.getElem?_cons_zero, Option.bind_eq_bind,
        Option.bind_some, gprIndex?_of_isGpr source, trappingGprLow64Offset, if_pos source.2,
        trappingMoveBits32Offset]
      exact ⟨_, rfl⟩
  | addF32Accumulator left right =>
      simp only [trappingEmitInstruction, List.getElem?_cons_zero, List.getElem?_cons_succ,
        Option.bind_eq_bind, Option.bind_some, fprIndex?_of_isFpr left,
        fprIndex?_of_isFpr right, trappingFprOffset, if_pos left.2, if_pos right.2]
      exact ⟨_, rfl⟩

end Validated

/-- On an instruction that validation accepts, neither the interpreter in any state nor
the emitters make an undefined access, misread an operand or reach a fallback.  Each
known opcode is accepted in every form of its shape with registers in range, and
nothing else is accepted. -/
theorem validateR5900IrInstruction_total (addF32 : BitVec 32 → BitVec 32 → BitVec 32)
    (ir : R5900IrInstruction) (index : Nat) :
    (validateR5900IrInstruction ir index = .ok () →
      (∀ state, ∃ next, trappingExecuteInstruction addF32 ir state = some next ∧
        executeInstruction addF32 ir state = some next) ∧
      ∃ bytes, trappingEmitInstruction ir = some bytes ∧
        emitInstruction ir = some bytes) ∧
    (validateR5900IrInstruction ir index = .ok () ↔
      ∃ shape, ir.opcode.shape? = some shape ∧ ir.HasShape shape) := by
  refine ⟨?_, validateR5900IrInstruction_eq_ok_iff_hasShape⟩
  intro accepted
  have wellFormed := validateR5900IrInstruction_eq_ok_iff.mp accepted
  constructor
  · intro state
    obtain ⟨next, returns⟩ := Option.isSome_iff_exists.mp
      (trappingExecuteInstruction_isSome addF32 wellFormed state)
    exact ⟨next, returns, executeInstruction_of_trapping returns⟩
  · obtain ⟨bytes, returns⟩ := trappingEmitInstruction_isSome wellFormed
    exact ⟨bytes, returns, emitInstruction_of_trapping returns⟩

end Burnout3Recompiled
