import Burnout3Recompiled.R5900X64StateMemory

/-!
# Native code for the scalar IR instructions

`Represents` ties a machine to the execution state behind its RCX.  The native
instructions of every scalar IR instruction keep the tie while the state takes
the interpreter's step.
-/

namespace Burnout3Recompiled

open LittleEndianMemory (load store displaced extractLsb'_load)
open X64 (Machine Instruction execute rax rcx rdx xmm0 xmm1)
open R5900IrExecutionState

/-- RCX holds `base`, and the bytes from `base` on are the state. -/
structure Represents (base : BitVec 64) (state : R5900IrExecutionState)
    (machine : Machine) : Prop where
  pointer : machine.gpr rcx = base
  contents : stateAt machine.memory base = state

namespace Represents

variable {base : BitVec 64} {state : R5900IrExecutionState} {machine : Machine}

theorem setGpr (represents : Represents base state machine)
    {register : X64.RegisterIndex} (scratch : rcx ≠ register) {bits : Nat}
    (value : BitVec bits) : Represents base state (machine.setGpr register value) :=
  ⟨(Machine.setGpr_gpr_of_ne _ _ _ scratch).trans represents.pointer,
    represents.contents⟩

theorem setCarry (represents : Represents base state machine) (carry : Bool) :
    Represents base state { machine with carry := carry } :=
  ⟨represents.pointer, represents.contents⟩

theorem setXmm (represents : Represents base state machine)
    (register : X64.RegisterIndex) (value : BitVec 128) :
    Represents base state (machine.setXmm register value) :=
  ⟨represents.pointer, represents.contents⟩

theorem setXmmLow (represents : Represents base state machine)
    (register : X64.RegisterIndex) (value : BitVec 32) :
    Represents base state (machine.setXmmLow register value) :=
  represents.setXmm register _

theorem address (represents : Represents base state machine) {offset : Nat}
    (small : offset < 2 ^ 31) :
    machine.address rcx ((stateOffset offset).signExtend 64) =
      displaced base offset := by
  rw [Machine.address, represents.pointer, stateOffset_signExtend small]
  rfl

/-- A store through RCX, given what it does to the state in memory. -/
theorem storeState (represents : Represents base state machine) {offset bits : Nat}
    (small : offset < 2 ^ 31) (value : BitVec bits) {next : R5900IrExecutionState}
    (stored : stateAt (store machine.memory (displaced base offset) value) base = next) :
    Represents base next (machine.writeRm (stateOperand (stateOffset offset)) value) := by
  constructor
  · exact represents.pointer
  · rw [stateOperand, Machine.writeRm, represents.address small]
    exact stored

section Reads

variable {index : BitVec 8}

theorem readGprLow64 (represents : Represents base state machine)
    (inRange : index < 32) :
    machine.readRm 64 (stateOperand (gprLow64Offset index)) =
      (state.gprValue index).low64 := by
  have bound : index.toNat < 32 := inRange
  rw [gprLow64Offset_eq, stateOperand, Machine.readRm,
    represents.address (by omega), load_gprLow64 inRange, represents.contents]

theorem readGprWord (represents : Represents base state machine)
    (inRange : index < 32) :
    machine.readRm 32 (stateOperand (gprLow64Offset index)) =
      (state.gprValue index).low64.setWidth 32 := by
  have bound : index.toNat < 32 := inRange
  rw [gprLow64Offset_eq, stateOperand, Machine.readRm,
    represents.address (by omega), load_gprWord inRange, represents.contents]

theorem readFpr (represents : Represents base state machine) (inRange : index < 32) :
    machine.readXmmRm 32 (stateOperand (fprOffset index)) = state.fprValue index := by
  have bound : index.toNat < 32 := inRange
  rw [fprOffset, offsetOf_fpr, stateOperand, Machine.readXmmRm,
    represents.address (by omega), load_fpr inRange, represents.contents]

/-- The words of a vector loaded from a register are its packed lanes. -/
theorem readGprLane (represents : Represents base state machine)
    (inRange : index < 32) (lane : Nat) (laneInRange : lane < 4) :
    (machine.readXmmRm 128 (stateOperand (gprOffset index)) >>>
        (32 * lane)).setWidth 32 = packedLane (state.gprValue index) lane := by
  have bound : index.toNat < 32 := inRange
  have word := extractLsb'_load machine.memory (displaced base (index.toNat * 16)) 128
    (lane * 4) 32 rfl rfl (by omega)
  have shift : 8 * (lane * 4) = 32 * lane := by omega
  rw [gprOffset_eq, stateOperand, Machine.readXmmRm, represents.address (by omega),
    BitVec.setWidth_ushiftRight_eq_extractLsb, ← shift, word, ← represents.contents,
    ← load_packedLane inRange laneInRange]
  exact congrArg (load machine.memory · 32)
    (LittleEndianMemory.displaced_add base _ _).symm

end Reads

end Represents

/-- The imm8 of the MTSAH toggle is not negative, so its sign extension is the
masked immediate. -/
theorem signExtend_maskedImmediate (immediate : BitVec 64) :
    (immediate.setWidth 8 &&& 7).signExtend 32 = immediate.setWidth 32 &&& 7 := by
  have positive : (immediate.setWidth 8 &&& 7).msb = false := by
    rw [BitVec.msb_and]
    exact Bool.and_false _
  rw [BitVec.signExtend_eq_setWidth_of_msb_false positive]
  apply BitVec.eq_of_toNat_eq
  have mask8 : (7 : BitVec 8).toNat = 2 ^ 3 - 1 := rfl
  have mask32 : (7 : BitVec 32).toNat = 2 ^ 3 - 1 := rfl
  simp only [BitVec.toNat_setWidth, BitVec.toNat_and, mask8, mask32,
    Nat.and_two_pow_sub_one_eq_mod]
  omega

section Simulation

variable (addF32 : BitVec 32 → BitVec 32 → BitVec 32)
  {base : BitVec 64} {state : R5900IrExecutionState} {machine : Machine}

theorem execute_operand32 (represents : Represents base state machine)
    {operand : R5900IrOperand} (integer : operand.IsInteger)
    (register : X64.RegisterIndex) :
    execute addF32 machine (nativeOperand32 register operand) =
      machine.setGpr register ((state.operandValue operand).setWidth 32) := by
  unfold nativeOperand32 operandValue
  rcases integer with gpr | immediate
  · simp [gpr.1, execute, represents.readGprWord gpr.2]
  · have kind : operand.kind = .immediate := immediate
    simp [kind, execute]

theorem execute_operand64 (represents : Represents base state machine)
    {operand : R5900IrOperand} (integer : operand.IsInteger)
    (register : X64.RegisterIndex) :
    execute addF32 machine (nativeOperand64 register operand) =
      machine.setGpr register (state.operandValue operand) := by
  unfold nativeOperand64 operandValue
  rcases integer with gpr | immediate
  · simp [gpr.1, execute, represents.readGprLow64 gpr.2]
  · have kind : operand.kind = .immediate := immediate
    simp [kind, execute]

theorem rcx_ne_rax : rcx ≠ rax := by decide

theorem rcx_ne_rdx : rcx ≠ rdx := by decide

theorem rax_ne_rdx : rax ≠ rdx := by decide

theorem xmm0_ne_xmm1 : xmm0 ≠ xmm1 := by decide

/-- The final store of the integer emitters. -/
theorem Represents.storeLow64 (represents : Represents base state machine)
    {index : BitVec 8} (inRange : index < 32) {value : BitVec 64}
    (result : machine.gpr rax = value) :
    Represents base (state.writeLow64 index value)
      ((nativeStoreLow64 index).foldl (execute addF32) machine) := by
  have bound : index.toNat < 32 := inRange
  unfold nativeStoreLow64 writeLow64 writeFull128
  by_cases zero : index = 0
  · simpa [zero] using represents
  · rw [if_pos zero, if_neg zero, List.foldl_cons, List.foldl_nil,
      gprLow64Offset_eq]
    apply represents.storeState (by omega)
    rw [stateAt_store_gprLow64 inRange, represents.contents, BitVec.setWidth_eq, result]

theorem Represents.loadEax (represents : Represents base state machine)
    {index : BitVec 8} (inRange : index < 32) :
    Represents base state
        (execute addF32 machine (.moveFromRm 32 rax (stateOperand (gprLow64Offset index)))) ∧
      (execute addF32 machine
          (.moveFromRm 32 rax (stateOperand (gprLow64Offset index)))).gpr rax =
        ((state.gprValue index).low64.setWidth 32).setWidth 64 := by
  refine ⟨represents.setGpr rcx_ne_rax _, ?_⟩
  rw [execute, Machine.setGpr_gpr_self, represents.readGprWord inRange]

/-- An operation of RAX with RDX. -/
theorem Represents.aluRax (represents : Represents base state machine)
    (operation : X64.AluOperation) (bits : Nat) :
    Represents base state
        (execute addF32 machine (.alu operation bits (.register rax) rdx)) ∧
      (execute addF32 machine (.alu operation bits (.register rax) rdx)).gpr rax =
        ((operation.apply ((machine.gpr rax).setWidth bits)
          ((machine.gpr rdx).setWidth bits) machine.carry).1).setWidth 64 :=
  ⟨(represents.setGpr rcx_ne_rax _).setCarry _, machine.setGpr_gpr_self rax _⟩

theorem Represents.aluImmediateEax (represents : Represents base state machine)
    (operation : X64.AluOperation) (immediate : BitVec 8) :
    Represents base state
        (execute addF32 machine (.aluImmediate operation 32 (.register rax) immediate)) ∧
      (execute addF32 machine
          (.aluImmediate operation 32 (.register rax) immediate)).gpr rax =
        ((operation.apply ((machine.gpr rax).setWidth 32)
          (immediate.signExtend 32) machine.carry).1).setWidth 64 := by
  refine ⟨(represents.setGpr rcx_ne_rax _).setCarry _, ?_⟩
  simp only [execute, Machine.writeRm, Machine.readRm, Machine.setGpr_gpr_self]

theorem Represents.shiftLeftOneEax (represents : Represents base state machine) :
    Represents base state
        (execute addF32 machine (.shiftLeftOne 32 (.register rax))) ∧
      (execute addF32 machine (.shiftLeftOne 32 (.register rax))).gpr rax =
        (((machine.gpr rax).setWidth 32) <<< 1).setWidth 64 := by
  refine ⟨(represents.setGpr rcx_ne_rax _).setCarry _, ?_⟩
  simp only [execute, Machine.writeRm, Machine.readRm, Machine.setGpr_gpr_self]

theorem represents_addWordSignExtend (represents : Represents base state machine)
    {lhs rhs : R5900IrOperand} {index : BitVec 8} (inRange : index < 32)
    (left : lhs.IsInteger) (right : rhs.IsInteger) :
    Represents base
      (state.writeLow64 index (signExtendWord
        ((state.operandValue lhs).setWidth 32 + (state.operandValue rhs).setWidth 32)))
      ((nativeAddWordSignExtend lhs rhs index).foldl (execute addF32) machine) := by
  have leftLoaded := represents.setGpr rcx_ne_rax
    ((state.operandValue lhs).setWidth 32)
  have bothLoaded := leftLoaded.setGpr rcx_ne_rdx
    ((state.operandValue rhs).setWidth 32)
  obtain ⟨added, sum⟩ := bothLoaded.aluRax addF32 .add 32
  rw [nativeAddWordSignExtend, List.foldl_append, signExtendWord_eq_signExtend]
  simp only [List.foldl_cons, List.foldl_nil]
  rw [execute_operand32 addF32 represents left, execute_operand32 addF32 leftLoaded right]
  apply (added.setGpr rcx_ne_rax _).storeLow64 addF32 inRange
  rw [Machine.setGpr_gpr_self, BitVec.setWidth_eq, sum]
  simp [X64.AluOperation.apply, rax_ne_rdx]

theorem represents_or64 (represents : Represents base state machine)
    {lhs rhs : R5900IrOperand} {index : BitVec 8} (inRange : index < 32)
    (left : lhs.IsInteger) (right : rhs.IsInteger) :
    Represents base
      (state.writeLow64 index (state.operandValue lhs ||| state.operandValue rhs))
      ((nativeBitwise64 .or lhs rhs index).foldl (execute addF32) machine) := by
  have leftLoaded := represents.setGpr rcx_ne_rax (state.operandValue lhs)
  have bothLoaded := leftLoaded.setGpr rcx_ne_rdx (state.operandValue rhs)
  obtain ⟨combined, result⟩ := bothLoaded.aluRax addF32 .or 64
  rw [nativeBitwise64, List.foldl_append]
  simp only [List.foldl_cons, List.foldl_nil]
  rw [execute_operand64 addF32 represents left, execute_operand64 addF32 leftLoaded right]
  apply combined.storeLow64 addF32 inRange
  rw [result]
  simp [X64.AluOperation.apply, rax_ne_rdx]

theorem represents_and64 (represents : Represents base state machine)
    {lhs rhs : R5900IrOperand} {index : BitVec 8} (inRange : index < 32)
    (left : lhs.IsGpr) (right : rhs.IsImmediate) :
    Represents base
      (state.writeLow64 index ((state.gprValue lhs.gprIndex).low64 &&& rhs.immediate))
      ((nativeBitwise64 .and lhs rhs index).foldl (execute addF32) machine) := by
  have leftValue : state.operandValue lhs = (state.gprValue lhs.gprIndex).low64 := by
    simp [operandValue, left.1]
  have rightKind : rhs.kind = .immediate := right
  have rightValue : state.operandValue rhs = rhs.immediate := by
    simp [operandValue, rightKind]
  have leftLoaded := represents.setGpr rcx_ne_rax (state.operandValue lhs)
  have bothLoaded := leftLoaded.setGpr rcx_ne_rdx (state.operandValue rhs)
  obtain ⟨combined, result⟩ := bothLoaded.aluRax addF32 .and 64
  rw [nativeBitwise64, List.foldl_append]
  simp only [List.foldl_cons, List.foldl_nil]
  rw [execute_operand64 addF32 represents (.inl left),
    execute_operand64 addF32 leftLoaded (.inr right)]
  apply combined.storeLow64 addF32 inRange
  rw [result]
  simp [X64.AluOperation.apply, rax_ne_rdx, leftValue, rightValue]

theorem represents_lui (represents : Represents base state machine)
    {input : R5900IrOperand} {index : BitVec 8} (inRange : index < 32) :
    Represents base
      (state.writeLow64 index (signExtendWord
        ((input.immediate.setWidth 16).setWidth 32 <<< 16)))
      ((nativeLui input index).foldl (execute addF32) machine) := by
  have loaded := represents.setGpr rcx_ne_rax
    ((input.immediate.setWidth 16).setWidth 32 <<< 16)
  rw [nativeLui, List.foldl_append, signExtendWord_eq_signExtend]
  apply (loaded.setGpr rcx_ne_rax _).storeLow64 addF32 inRange
  simp [execute]

theorem represents_moveGprLow64 (represents : Represents base state machine)
    {input : R5900IrOperand} {kind : R5900IrDestinationKind}
    (hilo : isHiloDestination kind) (source : input.IsGpr) :
    Represents base (state.setHilo kind (state.gprValue input.gprIndex).low64)
      ((nativeMoveGprLow64 input kind).foldl (execute addF32) machine) := by
  have loaded := represents.setGpr rcx_ne_rax
    (machine.readRm 64 (stateOperand (gprLow64Offset input.gprIndex)))
  have value := represents.readGprLow64 source.2
  simp only [nativeMoveGprLow64, List.foldl_cons, List.foldl_nil, execute]
  rw [Machine.setGpr_gpr_self, BitVec.setWidth_eq, BitVec.setWidth_eq, value]
  rw [value] at loaded
  cases kind with
  | hi =>
      apply loaded.storeState (by decide)
      rw [offsetOf_hi, stateAt_store_hi, loaded.contents]
      rfl
  | lo =>
      apply loaded.storeState (by decide)
      rw [offsetOf_lo, stateAt_store_lo, loaded.contents]
      rfl
  | hi1 =>
      apply loaded.storeState (by decide)
      rw [offsetOf_hi1, stateAt_store_hi1, loaded.contents]
      rfl
  | lo1 =>
      apply loaded.storeState (by decide)
      rw [offsetOf_lo1, stateAt_store_lo1, loaded.contents]
      rfl
  | _ => simp [isHiloDestination] at hilo

theorem represents_mtsah (represents : Represents base state machine)
    {input immediate : R5900IrOperand} (source : input.IsGpr) :
    Represents base
      { state with
        sa := (((state.gprValue input.gprIndex).low64.setWidth 32 &&& 0x7) ^^^
          (immediate.immediate.setWidth 32 &&& 0x7)) <<< 1 }
      ((nativeMtsah input immediate).foldl (execute addF32) machine) := by
  obtain ⟨loaded, loadedValue⟩ := represents.loadEax addF32 source.2
  obtain ⟨masked, maskedValue⟩ := loaded.aluImmediateEax addF32 .and 7
  obtain ⟨toggled, toggledValue⟩ := masked.aluImmediateEax addF32 .xor
    (immediate.immediate.setWidth 8 &&& 7)
  obtain ⟨doubled, doubledValue⟩ := toggled.shiftLeftOneEax addF32
  have mask : (7 : BitVec 8).signExtend 32 = 7 := rfl
  simp only [nativeMtsah, List.foldl_cons, List.foldl_nil]
  apply doubled.storeState (by decide)
  rw [offsetOf_sa, stateAt_store_sa, doubled.contents, doubledValue, toggledValue,
    maskedValue, loadedValue, mask, signExtend_maskedImmediate]
  simp [X64.AluOperation.apply]

theorem represents_moveBitsToFpr (represents : Represents base state machine)
    {input : R5900IrOperand} {fd : BitVec 8} (inRange : fd < 32)
    (source : input.IsGpr) :
    Represents base
      (state.setFpr fd ((state.gprValue input.gprIndex).low64.setWidth 32))
      ((nativeMoveBits32 input ⟨.fpr, fd⟩).foldl (execute addF32) machine) := by
  have bound : fd.toNat < 32 := inRange
  obtain ⟨loaded, loadedValue⟩ := represents.loadEax addF32 source.2
  simp only [nativeMoveBits32, if_true, List.foldl_cons, List.foldl_nil]
  rw [fprOffset]
  apply loaded.storeState (by rw [offsetOf_fpr]; omega)
  rw [offsetOf_fpr, stateAt_store_fpr inRange, loaded.contents, loadedValue]
  simp

theorem represents_moveBitsToFcr31 (represents : Represents base state machine)
    {input : R5900IrOperand} (source : input.IsGpr) :
    Represents base
      { state with fcr31 := (state.gprValue input.gprIndex).low64.setWidth 32 }
      ((nativeMoveBits32 input ⟨.fcr31, 0⟩).foldl (execute addF32) machine) := by
  obtain ⟨loaded, loadedValue⟩ := represents.loadEax addF32 source.2
  simp only [nativeMoveBits32, List.foldl_cons, List.foldl_nil]
  apply loaded.storeState (by decide)
  rw [offsetOf_fcr31, stateAt_store_fcr31, loaded.contents, loadedValue]
  simp

theorem execute_movssLoad (represents : Represents base state machine)
    {index : BitVec 8} (inRange : index < 32) :
    execute addF32 machine (.movssLoad xmm0 (stateOperand (fprOffset index))) =
      machine.setXmm xmm0 ((state.fprValue index).setWidth 128) := by
  rw [← represents.readFpr inRange]
  rfl

theorem execute_addss (represents : Represents base state machine)
    {index : BitVec 8} (inRange : index < 32) :
    execute addF32 machine (.addss xmm0 (stateOperand (fprOffset index))) =
      machine.setXmmLow xmm0
        (addF32 ((machine.xmm xmm0).setWidth 32) (state.fprValue index)) := by
  rw [← represents.readFpr inRange]
  rfl

theorem execute_movssStore (displacement : BitVec 32) :
    execute addF32 machine (.movssStore (stateOperand displacement) xmm0) =
      machine.writeRm (stateOperand displacement) ((machine.xmm xmm0).setWidth 32) :=
  rfl

theorem represents_addF32ToAccumulator (represents : Represents base state machine)
    {lhs rhs : R5900IrOperand} (left : lhs.IsFpr) (right : rhs.IsFpr) :
    Represents base
      { state with
        fpAcc := addF32 (state.fprValue lhs.gprIndex) (state.fprValue rhs.gprIndex) }
      ((nativeAddF32ToAccumulator lhs rhs).foldl (execute addF32) machine) := by
  have loaded := represents.setXmm xmm0 ((state.fprValue lhs.gprIndex).setWidth 128)
  have added := loaded.setXmmLow xmm0
    (addF32 (state.fprValue lhs.gprIndex) (state.fprValue rhs.gprIndex))
  have lowLane : ((state.fprValue lhs.gprIndex).setWidth 128).setWidth 32 =
      state.fprValue lhs.gprIndex := by
    simp
  simp only [nativeAddF32ToAccumulator, List.foldl_cons, List.foldl_nil]
  rw [execute_movssLoad addF32 represents left.2, execute_addss addF32 loaded right.2,
    Machine.setXmm_xmm_self, lowLane, execute_movssStore, Machine.setXmmLow_xmm_self]
  apply added.storeState (by decide)
  rw [offsetOf_fpAcc, stateAt_store_fpAcc, added.contents]

end Simulation

end Burnout3Recompiled
