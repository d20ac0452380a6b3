import Burnout3Recompiled.R5900X64PackedRefinement

/-!
# The native backend refines the interpreter

Instruction by instruction, native code keeps the machine in step with the
interpreter; a block adds the clearing of GPR zero in front and behind.  Run
from its first byte on any machine whose RCX points at a state, a compiled block
reaches its final `ret` with the state the interpreter computes.
-/

namespace Burnout3Recompiled

open LittleEndianMemory (load store displaced)
open X64 (Machine execute rax rcx)
open R5900IrExecutionState

section Blocks

variable (addF32 : BitVec 32 → BitVec 32 → BitVec 32)
  {base : BitVec 64} {state : R5900IrExecutionState} {machine : Machine}

/-- One case per shape of validated instructions. -/
theorem represents_nativeInstructions (represents : Represents base state machine)
    {ir : R5900IrInstruction} (wellFormed : R5900IrWellFormed ir) :
    Represents base (applyInstruction addF32 state ir)
      ((nativeInstructions ir).foldl (execute addF32) machine) := by
  unfold applyInstruction
  cases wellFormed with
  | nop => exact represents
  | addWordSignExtend inRange left right =>
      rw [executeInstruction_addWordSignExtend inRange left right]
      exact represents_addWordSignExtend addF32 represents inRange left right
  | or64 inRange left right =>
      rw [executeInstruction_or64 inRange left right]
      exact represents_or64 addF32 represents inRange left right
  | and64 inRange left right =>
      rw [executeInstruction_and64 inRange left]
      exact represents_and64 addF32 represents inRange left right
  | lui inRange source =>
      rw [executeInstruction_lui inRange]
      exact represents_lui addF32 represents inRange
  | packedU32Add inRange left right =>
      rw [executeInstruction_packedU32Add inRange left right]
      exact represents_packedU32Add addF32 represents inRange left right
  | moveGprLow64 hilo source =>
      rw [executeInstruction_moveGprLow64 source]
      exact represents_moveGprLow64 addF32 represents hilo source
  | mtsah source constant =>
      rw [executeInstruction_mtsah source]
      exact represents_mtsah addF32 represents source
  | moveBitsToFpr inRange source =>
      rw [executeInstruction_moveBitsToFpr inRange source]
      exact represents_moveBitsToFpr addF32 represents inRange source
  | moveBitsToFcr31 source =>
      rw [executeInstruction_moveBitsToFcr31 source]
      exact represents_moveBitsToFcr31 addF32 represents source
  | addF32Accumulator left right =>
      rw [executeInstruction_addF32Accumulator left right]
      exact represents_addF32ToAccumulator addF32 represents left right

theorem represents_program (represents : Represents base state machine)
    {instructions : List R5900IrInstruction}
    (wellFormed : ∀ ir ∈ instructions, R5900IrWellFormed ir) :
    Represents base (instructions.foldl (applyInstruction addF32) state)
      ((instructions.flatMap nativeInstructions).foldl (execute addF32) machine) := by
  induction instructions generalizing state machine with
  | nil => exact represents
  | cons ir instructions ih =>
      rw [List.flatMap_cons, List.foldl_append, List.foldl_cons]
      exact ih (represents_nativeInstructions addF32 represents (wellFormed ir (.head _)))
        fun other member => wellFormed other (.tail _ member)

theorem setGpr_zero (state : R5900IrExecutionState) :
    state.setGpr 0 {} = state.normalizeZero := by
  have sameFile : state.gpr.setIfInBounds 0 {} = state.gpr.set 0 {} := by
    ext1 register inside
    simp [Vector.getElem_set, Vector.getElem_setIfInBounds]
  simp only [setGpr, normalizeZero]
  rw [← sameFile]
  rfl

theorem Represents.storeRax (represents : Represents base state machine)
    (offset : Nat) (small : offset < 2 ^ 31) {value : BitVec 64}
    (result : machine.gpr rax = value) {next : R5900IrExecutionState}
    (stored : stateAt (store machine.memory (displaced base offset) value) base = next) :
    Represents base next
      (execute addF32 machine (.moveToRm 64 (stateOperand (stateOffset offset)) rax)) := by
  rw [execute, result, BitVec.setWidth_eq]
  exact represents.storeState small value stored

theorem represents_zeroGpr0 (represents : Represents base state machine) :
    Represents base state.normalizeZero
      (nativeZeroGpr0.foldl (execute addF32) machine) := by
  have inRange : (0 : BitVec 8) < 32 := by decide
  have cleared : Represents base state
      (execute addF32 machine (.alu .xor 32 (.register rax) rax)) :=
    (represents.setGpr rcx_ne_rax _).setCarry _
  have raxZero : (execute addF32 machine (.alu .xor 32 (.register rax) rax)).gpr rax =
      0 := by
    simp [execute, Machine.writeRm, Machine.readRm, X64.AluOperation.apply]
  have lowCleared := cleared.storeRax addF32 0 (by decide) raxZero
    (stateAt_store_gprLow64 inRange 0)
  have bothCleared := lowCleared.storeRax addF32 8 (by decide) raxZero
    (stateAt_store_gprHigh64 inRange 0)
  rw [lowCleared.contents, gprValue_setGpr_self inRange, setGpr_setGpr,
    cleared.contents, setGpr_zero] at bothCleared
  exact bothCleared

theorem represents_nativeBlock (represents : Represents base state machine)
    {instructions : List R5900IrInstruction}
    (wellFormed : ∀ ir ∈ instructions, R5900IrWellFormed ir) :
    Represents base (executeR5900Ir addF32 instructions state).2
      ((nativeBlock instructions).foldl (execute addF32) machine) := by
  have normalized := foldl_applyInstruction_zeroNormalized addF32 wellFormed
    (zeroNormalized_normalizeZero state)
  have cleared := represents_zeroGpr0 addF32 represents
  have executed := represents_program addF32 cleared wellFormed
  have finished := represents_zeroGpr0 addF32 executed
  rw [normalizeZero_eq_self normalized] at finished
  rw [executeR5900Ir_eq_foldl addF32 wellFormed, nativeBlock, List.foldl_append,
    List.foldl_append]
  exact finished

end Blocks

section LayOut

variable {memory : LittleEndianMemory 64} {base : BitVec 64}

theorem toNat_ofNat_register (index : Fin 32) :
    (BitVec.ofNat 8 index.val).toNat = index.val := by
  have bound := index.isLt
  rw [BitVec.toNat_ofNat]
  omega

theorem ofNat_register_lt (index : Fin 32) : BitVec.ofNat 8 index.val < 32 := by
  have number := toNat_ofNat_register index
  have limit : (32 : BitVec 8).toNat = 32 := rfl
  have bound := index.isLt
  rw [BitVec.lt_def]
  omega

theorem get_eq_getElem {α : Type} {size : Nat} (values : Vector α size) (index : Fin size) :
    values.get index = values[index] :=
  rfl

theorem stateAt_layOutGpr (state : R5900IrExecutionState) (index : Fin 32) :
    stateAt (layOutGpr base state memory index) base =
      (stateAt memory base).setGpr (BitVec.ofNat 8 index) (state.gpr.get index) := by
  have inRange := ofNat_register_lt index
  have number := toNat_ofNat_register index
  rw [layOutGpr, offsetOf_gpr, Nat.zero_add, get_eq_getElem]
  generalize state.gpr[index] = value
  rw [← number, stateAt_store_gprHigh64 inRange, stateAt_store_gprLow64 inRange,
    gprValue_setGpr_self inRange, setGpr_setGpr, number]

theorem stateAt_layOutFpr (state : R5900IrExecutionState) (index : Fin 32) :
    stateAt (layOutFpr base state memory index) base =
      (stateAt memory base).setFpr (BitVec.ofNat 8 index) (state.fpr.get index) := by
  rw [layOutFpr, offsetOf_fpr, ← stateAt_store_fpr (ofNat_register_lt index),
    toNat_ofNat_register, get_eq_getElem]

/-- Writing the registers of a list one by one leaves exactly those in place. -/
theorem stateAt_foldl_layOutGpr (state : R5900IrExecutionState)
    (registers : List (Fin 32)) :
    stateAt (registers.foldl (layOutGpr base state) memory) base =
      { stateAt memory base with
        gpr := Vector.ofFn fun index =>
          if index ∈ registers then state.gpr.get index
          else (stateAt memory base).gpr.get index } := by
  simp only [get_eq_getElem]
  induction registers generalizing memory with
  | nil => simp
  | cons register registers ih =>
      rw [List.foldl_cons, ih, stateAt_layOutGpr, setGpr, toNat_ofNat_register]
      simp only [get_eq_getElem, R5900IrExecutionState.mk.injEq, and_true]
      ext1 index inside
      simp only [Vector.getElem_ofFn, List.mem_cons, Fin.getElem_fin,
        Vector.getElem_setIfInBounds, Fin.ext_iff]
      grind

theorem stateAt_foldl_layOutFpr (state : R5900IrExecutionState)
    (registers : List (Fin 32)) :
    stateAt (registers.foldl (layOutFpr base state) memory) base =
      { stateAt memory base with
        fpr := Vector.ofFn fun index =>
          if index ∈ registers then state.fpr.get index
          else (stateAt memory base).fpr.get index } := by
  simp only [get_eq_getElem]
  induction registers generalizing memory with
  | nil => simp
  | cons register registers ih =>
      rw [List.foldl_cons, ih, stateAt_layOutFpr, setFpr, toNat_ofNat_register]
      simp only [get_eq_getElem, R5900IrExecutionState.mk.injEq, and_true, true_and]
      ext1 index inside
      simp only [Vector.getElem_ofFn, List.mem_cons, Fin.getElem_fin,
        Vector.getElem_setIfInBounds, Fin.ext_iff]
      grind

/-- Every state can stand in memory, at every address. -/
theorem stateAt_layOut (memory : LittleEndianMemory 64) (base : BitVec 64)
    (state : R5900IrExecutionState) :
    stateAt (layOut memory base state) base = state := by
  have gprs : (Vector.ofFn fun index : Fin 32 => state.gpr[index]) = state.gpr := by
    ext1 index inside
    simp
  have fprs : (Vector.ofFn fun index : Fin 32 => state.fpr[index]) = state.fpr := by
    ext1 index inside
    simp
  rw [layOut, offsetOf_fpAcc, stateAt_store_fpAcc, offsetOf_fcr31, stateAt_store_fcr31,
    offsetOf_sa, stateAt_store_sa, offsetOf_lo1, stateAt_store_lo1, offsetOf_hi1,
    stateAt_store_hi1, offsetOf_lo, stateAt_store_lo, offsetOf_hi, stateAt_store_hi,
    stateAt_foldl_layOutFpr, stateAt_foldl_layOutGpr]
  simp only [List.mem_finRange, if_true, get_eq_getElem, gprs, fprs]

end LayOut

section Programs

variable (addF32 : BitVec 32 → BitVec 32 → BitVec 32)
  {instructions : List R5900IrInstruction} {block : R5900X64CompiledBlock}

/-- A run of compiled code from its first byte. -/
theorem run_compiled (wellFormed : ∀ ir ∈ instructions, R5900IrWellFormed ir)
    (compiled : compileR5900IrX64 .success instructions = .ok block) {fuel : Nat}
    (enough : block.code.length ≤ fuel) (machine : Machine) :
    ∃ final : Machine,
      X64.run addF32 block.code fuel 0 machine = some (block.code.length - 1, final) ∧
        Represents (machine.gpr rcx)
          (executeR5900Ir addF32 instructions
            (stateAt machine.memory (machine.gpr rcx))).2 final := by
  obtain ⟨other, bytes, otherCompiled, code, encodes⟩ :=
    compileR5900IrX64_encodes wellFormed
  obtain rfl : block = other := Except.ok.inj (compiled.symm.trans otherCompiled)
  have length : block.code.length = bytes.length + 1 := by
    rw [code, List.length_append]
    rfl
  have start : Represents (machine.gpr rcx)
      (stateAt machine.memory (machine.gpr rcx)) machine := ⟨rfl, rfl⟩
  refine ⟨(nativeBlock instructions).foldl (execute addF32) machine, ?_,
    represents_nativeBlock addF32 start wellFormed⟩
  rw [length, code, Nat.add_sub_cancel]
  exact X64.run_straightLine addF32 encodes (ret_not_mem_nativeBlock instructions)
    (by omega) machine

/-- Calling a compiled block is executing its program. -/
theorem execute_compiled (wellFormed : ∀ ir ∈ instructions, R5900IrWellFormed ir)
    (compiled : compileR5900IrX64 .success instructions = .ok block)
    (state : R5900IrExecutionState) :
    block.execute addF32 state = (executeR5900Ir addF32 instructions state).2 := by
  obtain ⟨final, run, represents⟩ := run_compiled addF32 wellFormed compiled
    (Nat.le_succ block.code.length) (callMachine state)
  have pointer : (callMachine state).gpr rcx = 0 := rfl
  have contents : stateAt (callMachine state).memory 0 = state :=
    stateAt_layOut _ 0 state
  rw [pointer, contents] at represents
  rw [R5900X64CompiledBlock.execute, run]
  exact represents.contents

theorem wellFormed_of_validated
    (validated : ∀ entry ∈ instructions.zipIdx,
      validateR5900IrInstruction entry.1 entry.2 = .ok ()) :
    ∀ ir ∈ instructions, R5900IrWellFormed ir := by
  intro ir member
  obtain ⟨index, inside, rfl⟩ := List.getElem_of_mem member
  have entry : (instructions[index], index) ∈ instructions.zipIdx := by
    rw [List.mem_zipIdx_iff_getElem?]
    simp [inside]
  exact validateR5900IrInstruction_eq_ok_iff.mp (validated _ entry)

end Programs

/-- For every validated program the backend emits code that, called with RCX
pointing at any state, reaches its final `ret` and leaves the state the
interpreter leaves. -/
theorem compileR5900IrX64_refines_executeR5900Ir
    (addF32 : BitVec 32 → BitVec 32 → BitVec 32)
    (instructions : List R5900IrInstruction)
    (validated : ∀ entry ∈ instructions.zipIdx,
      validateR5900IrInstruction entry.1 entry.2 = .ok ()) :
    ∃ block, compileR5900IrX64 .success instructions = .ok block ∧
      block.code.getLast? = some 0xc3 ∧
      (∀ (machine : Machine) (state : R5900IrExecutionState),
        stateAt machine.memory (machine.gpr rcx) = state →
          ∃ final : Machine,
            X64.run addF32 block.code block.code.length 0 machine =
              some (block.code.length - 1, final) ∧
            executeR5900Ir addF32 instructions state =
              (.ok (), stateAt final.memory (machine.gpr rcx))) ∧
      ∀ state, block.execute addF32 state = (executeR5900Ir addF32 instructions state).2 := by
  have wellFormed := wellFormed_of_validated validated
  obtain ⟨block, bytes, compiled, code, encodes⟩ := compileR5900IrX64_encodes wellFormed
  refine ⟨block, compiled, by simp [code], ?_, execute_compiled addF32 wellFormed compiled⟩
  rintro machine state rfl
  obtain ⟨final, run, represents⟩ := run_compiled addF32 wellFormed compiled
    (Nat.le_refl _) machine
  refine ⟨final, run, Prod.ext ?_ represents.contents.symm⟩
  rw [executeR5900Ir_eq_foldl addF32 wellFormed]

theorem zero_lt_registers : 0 < 32 :=
  Nat.succ_pos 31

/-- A program of one instruction that adds a register to itself in place. -/
theorem compileR5900IrX64_refines_packedAdd :
    ∃ block, compileR5900IrX64 .success
        [⟨0x100000, 0x70631c28, .addPackedU32Saturate128, some ⟨.gpr, 3⟩, .full128,
          [⟨.gpr, 3, 0⟩, ⟨.gpr, 3, 0⟩]⟩] = .ok block ∧
      block.execute (fun lhs _ => lhs)
          { gpr := Vector.replicate 32 ⟨0xFFFFFFFF00000001, 0x7FFFFFFF80000000⟩ } =
        { gpr := (Vector.replicate 32 ⟨0xFFFFFFFF00000001, 0x7FFFFFFF80000000⟩ |>.set 0
            {} zero_lt_registers).set 3 ⟨0xFFFFFFFF00000002, 0xFFFFFFFEFFFFFFFF⟩ } := by
  obtain ⟨block, compiled, -, -, executed⟩ :=
    compileR5900IrX64_refines_executeR5900Ir (fun lhs _ => lhs)
      [⟨0x100000, 0x70631c28, .addPackedU32Saturate128, some ⟨.gpr, 3⟩, .full128,
        [⟨.gpr, 3, 0⟩, ⟨.gpr, 3, 0⟩]⟩] (by decide)
  refine ⟨block, compiled, ?_⟩
  rw [executed]
  decide

end Burnout3Recompiled
