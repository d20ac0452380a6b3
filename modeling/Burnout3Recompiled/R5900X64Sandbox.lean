import Burnout3Recompiled.R5900X64Refinement
import Burnout3Recompiled.X64Frame

/-!
# The sandbox of generated code

A compiled block touches memory relative to RCX only, each access inside one field of
the execution state.  It writes the fields its program names as destinations and GPR
zero, and of the registers the volatile ones its emitters compute in.
-/

namespace Burnout3Recompiled

open X64 (Instruction MemoryAccess Machine RegisterOrMemory Sandbox rax rcx rdx xmm0 xmm1)

/-- The fields of `R5900IrExecutionState` that machine code can name. -/
inductive StateField where
  | gprHalf (index : Fin 32) (upper : Bool)
  | gpr (index : Fin 32)
  | hi | lo | hi1 | lo1 | sa
  | fpr (index : Fin 32)
  | fcr31 | fpAcc
  deriving DecidableEq, Repr

namespace StateField

def offset : StateField → Nat
  | gprHalf index upper => offsetOf 0 + index * 16 + if upper then 8 else 0
  | gpr index => offsetOf 0 + index * 16
  | hi => offsetOf 1
  | lo => offsetOf 2
  | hi1 => offsetOf 3
  | lo1 => offsetOf 4
  | sa => offsetOf 5
  | fpr index => offsetOf 6 + index * 4
  | fcr31 => offsetOf 7
  | fpAcc => offsetOf 8

def size : StateField → Nat
  | gpr _ => 16
  | gprHalf _ _ | hi | lo | hi1 | lo1 => 8
  | sa | fpr _ | fcr31 | fpAcc => 4

/-- The byte at the displacement belongs to the field. -/
def Contains (field : StateField) (displacement : BitVec 64) : Prop :=
  field.offset ≤ displacement.toNat ∧ displacement.toNat < field.offset + field.size

/-- The access is relative to RCX and lies inside the field. -/
structure Covers (field : StateField) (access : MemoryAccess) : Prop where
  base : access.base = rcx
  start : field.offset ≤ access.displacement.toNat
  stop : access.displacement.toNat + access.bytes ≤ field.offset + field.size

/-- Every field ends inside the object. -/
theorem end_le (field : StateField) : field.offset + field.size ≤ 684 := by
  cases field with
  | gprHalf index upper =>
      have bound := index.isLt
      cases upper <;> simp [offset, size] <;> omega
  | gpr index | fpr index =>
      have bound := index.isLt
      simp [offset, size]
      omega
  | _ => simp [offset, size]

theorem covers_stateOffset (field : StateField) {offset bytes : Nat}
    (start : field.offset ≤ offset) (stop : offset + bytes ≤ field.offset + field.size) :
    field.Covers ⟨rcx, (stateOffset offset).signExtend 64, bytes⟩ := by
  have inside := field.end_le
  have displacement : ((stateOffset offset).signExtend 64).toNat = offset := by
    rw [stateOffset_signExtend (by omega), BitVec.toNat_ofNat]
    omega
  refine ⟨rfl, ?_, ?_⟩
  · rwa [displacement]
  · rwa [displacement]

/-- The bytes of a covered access belong to the field. -/
theorem Covers.contains {field : StateField} {access : MemoryAccess}
    (covers : field.Covers access) {byte : Nat} (inside : byte < access.bytes) :
    field.Contains (access.displacement + BitVec.ofNat 64 byte) := by
  have bound := field.end_le
  have start := covers.start
  have stop := covers.stop
  have position : (access.displacement + BitVec.ofNat 64 byte).toNat =
      access.displacement.toNat + byte := by
    rw [BitVec.toNat_add, BitVec.toNat_ofNat]
    omega
  rw [Contains, position]
  omega

end StateField

/-- The field a destination names, if it names one. -/
def R5900IrDestination.field? (destination : R5900IrDestination)
    (writeMode : R5900IrGprWriteMode) : Option StateField :=
  match destination.kind with
  | .gpr =>
      if inside : destination.index.toNat < 32 then
        match writeMode with
        | .low64PreserveUpper64 => some (.gprHalf ⟨destination.index.toNat, inside⟩ false)
        | _ => some (.gpr ⟨destination.index.toNat, inside⟩)
      else none
  | .hi => some .hi
  | .lo => some .lo
  | .hi1 => some .hi1
  | .lo1 => some .lo1
  | .sa => some .sa
  | .fpr =>
      if inside : destination.index.toNat < 32 then
        some (.fpr ⟨destination.index.toNat, inside⟩)
      else none
  | .fcr31 => some .fcr31
  | .fpAccumulator => some .fpAcc
  | .outOfRange => none

def R5900IrInstruction.destinationField? (ir : R5900IrInstruction) : Option StateField :=
  ir.destination.bind fun destination => destination.field? ir.writeMode

/-- GPR zero and the destinations of the program. -/
def writtenFields (instructions : List R5900IrInstruction) : List StateField :=
  .gpr 0 :: instructions.filterMap R5900IrInstruction.destinationField?

/-- The registers that generated code computes in. -/
structure WritesScratch (instruction : Instruction) : Prop where
  gprs : ∀ index ∈ instruction.gprWrites, index = rax ∨ index = rdx
  xmms : ∀ index ∈ instruction.xmmWrites, index = xmm0 ∨ index = xmm1

/-- An instruction that touches the state only, and writes the given fields only. -/
structure StaysInState (written : StateField → Prop) (instruction : Instruction) : Prop
    extends WritesScratch instruction where
  accesses : ∀ access ∈ instruction.loads ++ instruction.stores,
    ∃ field : StateField, field.Covers access
  stores : ∀ access ∈ instruction.stores, ∃ field, written field ∧ field.Covers access

section Natives

variable {written : StateField → Prop} {instruction : Instruction} {access : MemoryAccess}
  {field : StateField} {register : X64.RegisterIndex}

namespace WritesScratch

theorem ofGpr (scratch : register = rax ∨ register = rdx)
    (gprs : instruction.gprWrites = [register]) (xmms : instruction.xmmWrites = []) :
    WritesScratch instruction := by
  constructor
  · rwa [gprs, List.forall_mem_singleton]
  · simp [xmms]

theorem ofXmm (scratch : register = xmm0 ∨ register = xmm1)
    (gprs : instruction.gprWrites = []) (xmms : instruction.xmmWrites = [register]) :
    WritesScratch instruction := by
  constructor
  · simp [gprs]
  · rwa [xmms, List.forall_mem_singleton]

theorem ofNone (gprs : instruction.gprWrites = []) (xmms : instruction.xmmWrites = []) :
    WritesScratch instruction := by
  constructor
  · simp [gprs]
  · simp [xmms]

end WritesScratch

namespace StaysInState

theorem mono (stays : StaysInState written instruction) {more : StateField → Prop}
    (included : ∀ field, written field → more field) : StaysInState more instruction where
  toWritesScratch := stays.toWritesScratch
  accesses := stays.accesses
  stores access stored := by
    obtain ⟨field, named, covers⟩ := stays.stores access stored
    exact ⟨field, included field named, covers⟩

theorem ofRegisters (scratch : WritesScratch instruction) (loads : instruction.loads = [])
    (stores : instruction.stores = []) : StaysInState written instruction := by
  refine ⟨scratch, ?_, ?_⟩
  · simp [loads, stores]
  · simp [stores]

theorem ofLoad (scratch : WritesScratch instruction) (loads : instruction.loads = [access])
    (stores : instruction.stores = []) (covers : field.Covers access) :
    StaysInState written instruction := by
  refine ⟨scratch, ?_, ?_⟩
  · rw [loads, stores, List.append_nil, List.forall_mem_singleton]
    exact ⟨field, covers⟩
  · simp [stores]

theorem ofStore (scratch : WritesScratch instruction) (loads : instruction.loads = [])
    (stores : instruction.stores = [access]) (covers : field.Covers access)
    (named : written field) : StaysInState written instruction := by
  refine ⟨scratch, ?_, ?_⟩
  · rw [loads, stores, List.nil_append, List.forall_mem_singleton]
    exact ⟨field, covers⟩
  · rw [stores, List.forall_mem_singleton]
    exact ⟨field, named, covers⟩

end StaysInState

theorem covers_gprLow {index : BitVec 8} (inRange : index < 32) {bytes : Nat}
    (fits : bytes ≤ 8) :
    (StateField.gprHalf ⟨index.toNat, inRange⟩ false).Covers
      ⟨rcx, (gprLow64Offset index).signExtend 64, bytes⟩ := by
  rw [gprLow64Offset_eq]
  apply StateField.covers_stateOffset
  · simp [StateField.offset]
  · simp [StateField.offset, StateField.size]
    omega

theorem covers_gpr {index : BitVec 8} (inRange : index < 32) {skipped bytes : Nat}
    (fits : skipped + bytes ≤ 16) :
    (StateField.gpr ⟨index.toNat, inRange⟩).Covers
      ⟨rcx, (gprOffset index + stateOffset skipped).signExtend 64, bytes⟩ := by
  rw [gprOffset_eq, stateOffset_add]
  apply StateField.covers_stateOffset
  · simp [StateField.offset]
  · simp [StateField.offset, StateField.size]
    omega

theorem covers_gprStart {index : BitVec 8} (inRange : index < 32) {bytes : Nat}
    (fits : bytes ≤ 16) :
    (StateField.gpr ⟨index.toNat, inRange⟩).Covers
      ⟨rcx, (gprOffset index).signExtend 64, bytes⟩ := by
  have covers := covers_gpr inRange (by omega : 0 + bytes ≤ 16)
  rwa [stateOffset, BitVec.add_zero] at covers

theorem covers_fpr {index : BitVec 8} (inRange : index < 32) :
    (StateField.fpr ⟨index.toNat, inRange⟩).Covers
      ⟨rcx, (fprOffset index).signExtend 64, 4⟩ := by
  rw [fprOffset]
  exact StateField.covers_stateOffset _ (Nat.le_refl _) (Nat.le_refl _)

theorem StateField.covers_scalar (field : StateField) {bytes : Nat} (whole : field.size = bytes) :
    field.Covers ⟨rcx, (stateOffset field.offset).signExtend 64, bytes⟩ := by
  rw [← whole]
  exact field.covers_stateOffset (Nat.le_refl _) (Nat.le_refl _)

theorem R5900IrOperand.IsInteger.inRange {operand : R5900IrOperand}
    (integer : operand.IsInteger) (kind : operand.kind = .gpr) : operand.gprIndex < 32 := by
  rcases integer with gpr | immediate
  · exact gpr.2
  · rw [R5900IrOperand.IsImmediate, kind] at immediate
    cases immediate

theorem staysInState_nativeOperand32 {operand : R5900IrOperand}
    (scratch : register = rax ∨ register = rdx) (integer : operand.IsInteger) :
    StaysInState written (nativeOperand32 register operand) := by
  unfold nativeOperand32
  split
  · next kind =>
      have covers := covers_gprLow (integer.inRange kind) (by decide : 32 / 8 ≤ 8)
      exact .ofLoad (.ofGpr scratch rfl rfl) rfl rfl covers
  · exact .ofRegisters (.ofGpr scratch rfl rfl) rfl rfl

theorem staysInState_nativeOperand64 {operand : R5900IrOperand}
    (scratch : register = rax ∨ register = rdx) (integer : operand.IsInteger) :
    StaysInState written (nativeOperand64 register operand) := by
  unfold nativeOperand64
  split
  · next kind =>
      have covers := covers_gprLow (integer.inRange kind) (by decide : 64 / 8 ≤ 8)
      exact .ofLoad (.ofGpr scratch rfl rfl) rfl rfl covers
  · exact .ofRegisters (.ofGpr scratch rfl rfl) rfl rfl

theorem staysInState_nativeStoreLow64 {index : BitVec 8} (inRange : index < 32)
    (named : written (.gprHalf ⟨index.toNat, inRange⟩ false)) :
    ∀ instruction ∈ nativeStoreLow64 index, StaysInState written instruction := by
  unfold nativeStoreLow64
  split
  · rw [List.forall_mem_singleton]
    have covers := covers_gprLow inRange (by decide : 64 / 8 ≤ 8)
    exact .ofStore (.ofNone rfl rfl) rfl rfl covers named
  · simp

theorem staysInState_nativeZeroGpr0 (named : written (.gpr 0)) :
    ∀ instruction ∈ nativeZeroGpr0, StaysInState written instruction := by
  have lower := covers_gprStart (by decide : (0 : BitVec 8) < 32) (by decide : 64 / 8 ≤ 16)
  have upper := covers_gpr (by decide : (0 : BitVec 8) < 32) (by decide : 8 + 64 / 8 ≤ 16)
  simp only [nativeZeroGpr0, List.forall_mem_cons, List.not_mem_nil,
    false_implies, implies_true, and_true]
  exact ⟨.ofRegisters (.ofGpr (.inl rfl) rfl rfl) rfl rfl,
    .ofStore (.ofNone rfl rfl) rfl rfl lower named,
    .ofStore (.ofNone rfl rfl) rfl rfl upper named⟩

section Shapes

variable {index : BitVec 8} {lhs rhs input : R5900IrOperand}

theorem staysInState_nativeAddWordSignExtend (inRange : index < 32) (left : lhs.IsInteger)
    (right : rhs.IsInteger) (named : written (.gprHalf ⟨index.toNat, inRange⟩ false)) :
    ∀ instruction ∈ nativeAddWordSignExtend lhs rhs index,
      StaysInState written instruction := by
  simp only [nativeAddWordSignExtend, List.forall_mem_append, List.forall_mem_cons,
    List.not_mem_nil,
    false_implies, implies_true, and_true]
  exact ⟨⟨staysInState_nativeOperand32 (.inl rfl) left,
    staysInState_nativeOperand32 (.inr rfl) right,
    .ofRegisters (.ofGpr (.inl rfl) rfl rfl) rfl rfl,
    .ofRegisters (.ofGpr (.inl rfl) rfl rfl) rfl rfl⟩,
    staysInState_nativeStoreLow64 inRange named⟩

theorem staysInState_nativeBitwise64 (operation : X64.AluOperation) (inRange : index < 32)
    (left : lhs.IsInteger) (right : rhs.IsInteger)
    (named : written (.gprHalf ⟨index.toNat, inRange⟩ false)) :
    ∀ instruction ∈ nativeBitwise64 operation lhs rhs index,
      StaysInState written instruction := by
  simp only [nativeBitwise64, List.forall_mem_append, List.forall_mem_cons,
    List.not_mem_nil,
    false_implies, implies_true, and_true]
  exact ⟨⟨staysInState_nativeOperand64 (.inl rfl) left,
    staysInState_nativeOperand64 (.inr rfl) right,
    .ofRegisters (.ofGpr (.inl rfl) rfl rfl) rfl rfl⟩,
    staysInState_nativeStoreLow64 inRange named⟩

theorem staysInState_nativeLui (inRange : index < 32)
    (named : written (.gprHalf ⟨index.toNat, inRange⟩ false)) :
    ∀ instruction ∈ nativeLui input index, StaysInState written instruction := by
  simp only [nativeLui, List.forall_mem_append, List.forall_mem_cons, List.not_mem_nil,
    false_implies, implies_true, and_true]
  exact ⟨⟨.ofRegisters (.ofGpr (.inl rfl) rfl rfl) rfl rfl,
    .ofRegisters (.ofGpr (.inl rfl) rfl rfl) rfl rfl⟩,
    staysInState_nativeStoreLow64 inRange named⟩

/-- A register's low word or half moved to a scalar field. -/
theorem staysInState_move {bits : Nat} {displacement : BitVec 32} (source : input.IsGpr)
    (fits : bits / 8 ≤ 8) (covers : field.Covers ⟨rcx, displacement.signExtend 64, bits / 8⟩)
    (named : written field) :
    ∀ instruction ∈
      [Instruction.moveFromRm bits rax (stateOperand (gprLow64Offset input.gprIndex)),
        .moveToRm bits (stateOperand displacement) rax], StaysInState written instruction := by
  simp only [List.forall_mem_cons, List.not_mem_nil,
    false_implies, implies_true, and_true]
  exact ⟨.ofLoad (.ofGpr (.inl rfl) rfl rfl) rfl rfl (covers_gprLow source.2 fits),
    .ofStore (.ofNone rfl rfl) rfl rfl covers named⟩

theorem staysInState_nativeMtsah {immediate : R5900IrOperand} (source : input.IsGpr)
    (named : written .sa) :
    ∀ instruction ∈ nativeMtsah input immediate, StaysInState written instruction := by
  have word := covers_gprLow source.2 (by decide : 32 / 8 ≤ 8)
  simp only [nativeMtsah, List.forall_mem_cons, List.not_mem_nil,
    false_implies, implies_true, and_true]
  exact ⟨.ofLoad (.ofGpr (.inl rfl) rfl rfl) rfl rfl word,
    .ofRegisters (.ofGpr (.inl rfl) rfl rfl) rfl rfl,
    .ofRegisters (.ofGpr (.inl rfl) rfl rfl) rfl rfl,
    .ofRegisters (.ofGpr (.inl rfl) rfl rfl) rfl rfl,
    .ofStore (.ofNone rfl rfl) rfl rfl (StateField.covers_scalar .sa rfl) named⟩

theorem staysInState_nativePadduwLane (inRange : index < 32)
    (named : written (.gpr ⟨index.toNat, inRange⟩)) {lane : Nat} (laneInRange : lane < 4) :
    ∀ instruction ∈ nativePadduwLane index lane, StaysInState written instruction := by
  have word := covers_gpr inRange (by omega : lane * 4 + 32 / 8 ≤ 16)
  have scratchRax : rax = rax ∨ rax = rdx := .inl rfl
  have scratchRdx : rdx = rax ∨ rdx = rdx := .inr rfl
  simp only [nativePadduwLane, List.forall_mem_append, List.forall_mem_cons,
    List.not_mem_nil,
    false_implies, implies_true, and_true]
  refine ⟨⟨⟨.ofRegisters (.ofGpr scratchRax rfl rfl) rfl rfl,
    .ofRegisters (.ofGpr scratchRdx rfl rfl) rfl rfl,
    .ofRegisters (.ofGpr scratchRax rfl rfl) rfl rfl,
    .ofRegisters (.ofGpr scratchRdx rfl rfl) rfl rfl,
    .ofRegisters (.ofGpr scratchRax rfl rfl) rfl rfl⟩, ?_⟩, ?_⟩
  · split
    · rw [List.forall_mem_singleton]
      exact .ofStore (.ofNone rfl rfl) rfl rfl word named
    · simp
  · split
    · simp only [List.forall_mem_cons, List.not_mem_nil, false_implies,
    implies_true, and_true]
      exact ⟨.ofRegisters (.ofXmm (.inl rfl) rfl rfl) rfl rfl,
        .ofRegisters (.ofXmm (.inr rfl) rfl rfl) rfl rfl⟩
    · simp

theorem staysInState_nativePadduw (inRange : index < 32) (left : lhs.IsGpr)
    (right : rhs.IsGpr) (named : written (.gpr ⟨index.toNat, inRange⟩)) :
    ∀ instruction ∈ nativePadduw lhs rhs index, StaysInState written instruction := by
  have leftRegister := covers_gprStart left.2 (by decide : 128 / 8 ≤ 16)
  have rightRegister := covers_gprStart right.2 (by decide : 128 / 8 ≤ 16)
  simp only [nativePadduw, List.forall_mem_append, List.forall_mem_cons, List.not_mem_nil,
    false_implies, implies_true, and_true]
  refine ⟨⟨.ofLoad (.ofXmm (.inl rfl) rfl rfl) rfl rfl leftRegister,
    .ofLoad (.ofXmm (.inr rfl) rfl rfl) rfl rfl rightRegister⟩, ?_⟩
  intro instruction member
  obtain ⟨lane, laneInRange, inLane⟩ := List.mem_flatMap.mp member
  exact staysInState_nativePadduwLane inRange named (List.mem_range.mp laneInRange) instruction
    inLane

theorem staysInState_nativeAddF32ToAccumulator (left : lhs.IsFpr) (right : rhs.IsFpr)
    (named : written .fpAcc) :
    ∀ instruction ∈ nativeAddF32ToAccumulator lhs rhs, StaysInState written instruction := by
  simp only [nativeAddF32ToAccumulator, List.forall_mem_cons, List.not_mem_nil,
    false_implies, implies_true, and_true]
  exact ⟨.ofLoad (.ofXmm (.inl rfl) rfl rfl) rfl rfl (covers_fpr left.2),
    .ofLoad (.ofXmm (.inl rfl) rfl rfl) rfl rfl (covers_fpr right.2),
    .ofStore (.ofNone rfl rfl) rfl rfl (StateField.covers_scalar .fpAcc rfl) named⟩

end Shapes

/-- Each shape of validated instructions writes the field it names. -/
theorem staysInState_nativeInstructions {ir : R5900IrInstruction}
    (wellFormed : R5900IrWellFormed ir) :
    ∀ instruction ∈ nativeInstructions ir,
      StaysInState (ir.destinationField? = some ·) instruction := by
  have gprHalf : ∀ {guestPc guestRaw opcode inputs} {index : BitVec 8} (inRange : index < 32),
      (⟨guestPc, guestRaw, opcode, some ⟨.gpr, index⟩, .low64PreserveUpper64, inputs⟩ :
        R5900IrInstruction).destinationField? =
        some (.gprHalf ⟨index.toNat, inRange⟩ false) := fun inRange => dif_pos inRange
  cases wellFormed with
  | nop => simp [nativeInstructions]
  | addWordSignExtend inRange left right =>
      exact staysInState_nativeAddWordSignExtend inRange left right (gprHalf inRange)
  | or64 inRange left right =>
      exact staysInState_nativeBitwise64 .or inRange left right (gprHalf inRange)
  | and64 inRange left right =>
      exact staysInState_nativeBitwise64 .and inRange (.inl left) (.inr right)
        (gprHalf inRange)
  | lui inRange source => exact staysInState_nativeLui inRange (gprHalf inRange)
  | packedU32Add inRange left right =>
      exact staysInState_nativePadduw inRange left right (dif_pos inRange)
  | @moveGprLow64 _ _ kind _ hilo source =>
      cases kind with
      | hi => exact staysInState_move source (by decide) (StateField.covers_scalar .hi rfl) rfl
      | lo => exact staysInState_move source (by decide) (StateField.covers_scalar .lo rfl) rfl
      | hi1 => exact staysInState_move source (by decide) (StateField.covers_scalar .hi1 rfl) rfl
      | lo1 => exact staysInState_move source (by decide) (StateField.covers_scalar .lo1 rfl) rfl
      | _ => cases hilo
  | mtsah source constant => exact staysInState_nativeMtsah source rfl
  | moveBitsToFpr inRange source =>
      exact staysInState_move source (by decide) (covers_fpr inRange) (dif_pos inRange)
  | moveBitsToFcr31 source =>
      exact staysInState_move source (by decide) (StateField.covers_scalar .fcr31 rfl) rfl
  | addF32Accumulator left right =>
      exact staysInState_nativeAddF32ToAccumulator left right rfl

theorem staysInState_nativeBlock {instructions : List R5900IrInstruction}
    (wellFormed : ∀ ir ∈ instructions, R5900IrWellFormed ir) :
    ∀ instruction ∈ nativeBlock instructions,
      StaysInState (· ∈ writtenFields instructions) instruction := by
  have clears : ∀ instruction ∈ nativeZeroGpr0,
      StaysInState (· ∈ writtenFields instructions) instruction :=
    staysInState_nativeZeroGpr0 (List.mem_cons_self ..)
  intro instruction member
  rcases List.mem_append.mp member with front | back
  · rcases List.mem_append.mp front with first | inside
    · exact clears instruction first
    · obtain ⟨ir, irMember, native⟩ := List.mem_flatMap.mp inside
      apply (staysInState_nativeInstructions (wellFormed ir irMember) instruction native).mono
      intro field named
      exact .tail _ (List.mem_filterMap.mpr ⟨ir, irMember, named⟩)
  · exact clears instruction back

end Natives

/-- The sandbox of a program: every byte of the state may be read, those of the given
fields written. -/
def stateSandbox (written : List StateField) : Sandbox where
  base := rcx
  gprs := [rax, rdx]
  xmms := [xmm0, xmm1]
  readable displacement := ∃ field : StateField, field.Contains displacement
  writable displacement := ∃ field ∈ written, field.Contains displacement
  kept := by decide

theorem StaysInState.staysIn {written : List StateField} {instruction : Instruction}
    (stays : StaysInState (· ∈ written) instruction) :
    instruction.StaysIn (stateSandbox written) where
  gprs index member := by simpa [stateSandbox] using stays.gprs index member
  xmms index member := by simpa [stateSandbox] using stays.xmms index member
  loads access member := by
    obtain ⟨field, covers⟩ := stays.accesses access (List.mem_append_left _ member)
    exact ⟨covers.base, fun byte inside => ⟨field, covers.contains inside⟩⟩
  stores access member := by
    obtain ⟨field, named, covers⟩ := stays.stores access member
    exact ⟨covers.base, fun byte inside => ⟨field, named, covers.contains inside⟩⟩

/-- The address is in some field of the state that starts at `base`. -/
def InState (base address : BitVec 64) : Prop :=
  ∃ field : StateField, field.Contains (address - base)

/-- For every validated program the emitted bytes decode from the first one on to
instructions that cover them exactly, with the final `ret` as their only transfer.  All
others stay in the state behind RCX and write only scratch registers, GPR zero and the
destinations of the program.  A run therefore keeps every other register and every other
byte, and depends on no memory but the state. -/
theorem compileR5900IrX64_staysInState (addF32 : BitVec 32 → BitVec 32 → BitVec 32)
    (instructions : List R5900IrInstruction)
    (validated : ∀ entry ∈ instructions.zipIdx,
      validateR5900IrInstruction entry.1 entry.2 = .ok ()) :
    ∃ (block : R5900X64CompiledBlock) (native : List Instruction) (after : Machine → Machine),
      compileR5900IrX64 .success instructions = .ok block ∧
      X64.disassemble block.code = some (native ++ [.ret]) ∧
      .ret ∉ native ∧
      block.code.getLast? = some 0xc3 ∧
      (∀ instruction ∈ native,
        StaysInState (· ∈ writtenFields instructions) instruction) ∧
      ∀ machine : Machine,
        X64.run addF32 block.code block.code.length 0 machine =
          some (block.code.length - 1, after machine) ∧
        (∀ index, index ≠ rax → index ≠ rdx →
          (after machine).gpr index = machine.gpr index) ∧
        (∀ index, index ≠ xmm0 → index ≠ xmm1 →
          (after machine).xmm index = machine.xmm index) ∧
        (∀ address,
          (∀ field ∈ writtenFields instructions,
            ¬field.Contains (address - machine.gpr rcx)) →
          (after machine).memory address = machine.memory address) ∧
        ∀ other : Machine,
          X64.AgreeOn (InState (machine.gpr rcx)) machine other →
          X64.AgreeOn (InState (machine.gpr rcx)) (after machine) (after other) := by
  have wellFormed := wellFormed_of_validated validated
  obtain ⟨block, bytes, compiled, code, encodes⟩ := compileR5900IrX64_encodes wellFormed
  have stays := staysInState_nativeBlock wellFormed
  have inSandbox : ∀ instruction ∈ nativeBlock instructions,
      instruction.StaysIn (stateSandbox (writtenFields instructions)) :=
    fun instruction member => (stays instruction member).staysIn
  refine ⟨block, nativeBlock instructions,
    (nativeBlock instructions).foldl (X64.execute addF32), compiled, ?_,
    ret_not_mem_nativeBlock instructions, by simp [code], stays, ?_⟩
  · rw [code]
    exact encodes.disassemble_ret
  intro machine
  have kept : (stateSandbox (writtenFields instructions)).Kept machine
      ((nativeBlock instructions).foldl (X64.execute addF32) machine) :=
    X64.kept_foldl inSandbox machine
  refine ⟨?_, ?_, ?_, ?_, ?_⟩
  · rw [code, List.length_append, List.length_singleton, Nat.add_sub_cancel]
    exact X64.run_straightLine addF32 encodes (ret_not_mem_nativeBlock instructions)
      (Nat.lt_succ_self _) machine
  · intro index notRax notRdx
    exact kept.gpr index (by simp [stateSandbox, notRax, notRdx])
  · intro index notXmm0 notXmm1
    exact kept.xmm index (by simp [stateSandbox, notXmm0, notXmm1])
  · intro address outside
    apply kept.memory address
    rintro ⟨field, named, contains⟩
    exact outside field named contains
  · intro other agree
    exact X64.agreeOn_foldl inSandbox rfl agree

/-- A program of one instruction whose lanes are stored one by one. -/
theorem compileR5900IrX64_staysInState_packedAdd :
    ∃ (block : R5900X64CompiledBlock) (native : List Instruction),
      compileR5900IrX64 .success
        [⟨0x100000, 0x70641c28, .addPackedU32Saturate128, some ⟨.gpr, 3⟩, .full128,
          [⟨.gpr, 3, 0⟩, ⟨.gpr, 4, 0⟩]⟩] = .ok block ∧
      X64.disassemble block.code = some (native ++ [.ret]) ∧
      ∀ instruction ∈ native, StaysInState (· ∈ [.gpr 0, .gpr 3]) instruction := by
  obtain ⟨block, native, -, compiled, covered, -, -, stays, -⟩ :=
    compileR5900IrX64_staysInState (fun lhs _ => lhs)
      [⟨0x100000, 0x70641c28, .addPackedU32Saturate128, some ⟨.gpr, 3⟩, .full128,
        [⟨.gpr, 3, 0⟩, ⟨.gpr, 4, 0⟩]⟩] (by decide)
  exact ⟨block, native, compiled, covered, stays⟩

end Burnout3Recompiled
