import Burnout3Recompiled.R5900X64Backend

/-!
# The instructions a compiled block decodes to

`nativeInstructions` names, for every IR instruction, the x86-64 instructions
its bytes are meant to spell.  Every emitter is shown to encode exactly those,
so a compiled block is straight-line code that ends in its only `ret`.
-/

namespace Burnout3Recompiled

open LittleEndianMemory (ofBytes bytesOf)
open X64 (Encodes Instruction RegisterOrMemory RegisterIndex rax rcx rdx xmm0 xmm1
  spelled32 spelled64)

/-- The memory operand `[rcx + displacement]`. -/
def stateOperand (displacement : BitVec 32) : RegisterOrMemory :=
  .memory rcx (displacement.signExtend 64)

def nativeOperand32 (destination : RegisterIndex) (operand : R5900IrOperand) :
    Instruction :=
  if operand.kind = .gpr then
    .moveFromRm 32 destination (stateOperand (gprLow64Offset operand.gprIndex))
  else .moveImmediate32 destination (operand.immediate.setWidth 32)

def nativeOperand64 (destination : RegisterIndex) (operand : R5900IrOperand) :
    Instruction :=
  if operand.kind = .gpr then
    .moveFromRm 64 destination (stateOperand (gprLow64Offset operand.gprIndex))
  else .moveImmediate64 destination operand.immediate

def nativeStoreLow64 (index : BitVec 8) : List Instruction :=
  if index ≠ 0 then [.moveToRm 64 (stateOperand (gprLow64Offset index)) rax] else []

def nativeZeroGpr0 : List Instruction :=
  [.alu .xor 32 (.register rax) rax,
    .moveToRm 64 (stateOperand (gprOffset 0)) rax,
    .moveToRm 64 (stateOperand (gprOffset 0 + 8)) rax]

def nativeAddWordSignExtend (lhs rhs : R5900IrOperand) (index : BitVec 8) :
    List Instruction :=
  [nativeOperand32 rax lhs, nativeOperand32 rdx rhs,
    .alu .add 32 (.register rax) rdx, .cdqe] ++ nativeStoreLow64 index

/-- The shape of the two bitwise operations on 64-bit operands. -/
def nativeBitwise64 (operation : X64.AluOperation) (lhs rhs : R5900IrOperand)
    (index : BitVec 8) : List Instruction :=
  [nativeOperand64 rax lhs, nativeOperand64 rdx rhs,
    .alu operation 64 (.register rax) rdx] ++ nativeStoreLow64 index

def nativeLui (input : R5900IrOperand) (index : BitVec 8) : List Instruction :=
  [.moveImmediate32 rax ((input.immediate.setWidth 16).setWidth 32 <<< 16), .cdqe] ++
    nativeStoreLow64 index

def nativeMoveGprLow64 (input : R5900IrOperand) (kind : R5900IrDestinationKind) :
    List Instruction :=
  [.moveFromRm 64 rax (stateOperand (gprLow64Offset input.gprIndex)),
    .moveToRm 64 (stateOperand (hiloDestinationOffset kind)) rax]

def nativeMtsah (source immediate : R5900IrOperand) : List Instruction :=
  [.moveFromRm 32 rax (stateOperand (gprLow64Offset source.gprIndex)),
    .aluImmediate .and 32 (.register rax) 7,
    .aluImmediate .xor 32 (.register rax) (immediate.immediate.setWidth 8 &&& 7),
    .shiftLeftOne 32 (.register rax),
    .moveToRm 32 (stateOperand saOffset) rax]

def nativePadduwLane (index : BitVec 8) (lane : Nat) : List Instruction :=
  [.movd (.register rax) xmm0, .movd (.register rdx) xmm1,
    .alu .add 32 (.register rax) rdx, .alu .sbb 32 (.register rdx) rdx,
    .alu .or 32 (.register rax) rdx] ++
    (if index ≠ 0 then
      [.moveToRm 32 (stateOperand (gprOffset index + BitVec.ofNat 32 (lane * 4))) rax]
    else []) ++
    (if lane ≠ 3 then [.psrldq xmm0 4, .psrldq xmm1 4] else [])

def nativePadduw (lhs rhs : R5900IrOperand) (index : BitVec 8) : List Instruction :=
  [.movdqu xmm0 (stateOperand (gprOffset lhs.gprIndex)),
    .movdqu xmm1 (stateOperand (gprOffset rhs.gprIndex))] ++
    (List.range 4).flatMap (nativePadduwLane index)

def nativeMoveBits32 (input : R5900IrOperand) (destination : R5900IrDestination) :
    List Instruction :=
  [.moveFromRm 32 rax (stateOperand (gprLow64Offset input.gprIndex)),
    .moveToRm 32
      (stateOperand (if destination.kind = .fpr then fprOffset destination.index
        else fcr31Offset)) rax]

def nativeAddF32ToAccumulator (lhs rhs : R5900IrOperand) : List Instruction :=
  [.movssLoad xmm0 (stateOperand (fprOffset lhs.gprIndex)),
    .addss xmm0 (stateOperand (fprOffset rhs.gprIndex)),
    .movssStore (stateOperand fpAccOffset) xmm0]

/-- The instructions of one IR instruction, none where nothing is emitted. -/
def nativeInstructions (ir : R5900IrInstruction) : List Instruction :=
  match ir.opcode, ir.destination, ir.inputs with
  | .addWordSignExtend, some destination, [lhs, rhs] =>
      nativeAddWordSignExtend lhs rhs destination.index
  | .or64, some destination, [lhs, rhs] =>
      nativeBitwise64 .or lhs rhs destination.index
  | .and64, some destination, [lhs, rhs] =>
      nativeBitwise64 .and lhs rhs destination.index
  | .loadUpperImmediateSignExtend, some destination, [input] =>
      nativeLui input destination.index
  | .moveGprLow64, some destination, [input] =>
      nativeMoveGprLow64 input destination.kind
  | .computeMtsah, some _, [source, immediate] => nativeMtsah source immediate
  | .addPackedU32Saturate128, some destination, [lhs, rhs] =>
      nativePadduw lhs rhs destination.index
  | .moveBits32, some destination, [input] => nativeMoveBits32 input destination
  | .addF32ToAccumulator, some _, [lhs, rhs] => nativeAddF32ToAccumulator lhs rhs
  | _, _, _ => []

/-- The instructions of a compiled block in front of its `ret`. -/
def nativeBlock (instructions : List R5900IrInstruction) : List Instruction :=
  nativeZeroGpr0 ++ instructions.flatMap nativeInstructions ++ nativeZeroGpr0

theorem maskedByte {bits : Nat} (value mask : BitVec bits) (shift : Nat)
    (lowByte : mask.setWidth 8 = BitVec.allOnes 8) :
    ((value >>> shift) &&& mask).setWidth 8 = value.extractLsb' shift 8 := by
  rw [BitVec.setWidth_and, lowByte, BitVec.and_allOnes,
    BitVec.setWidth_ushiftRight_eq_extractLsb]

theorem emitU32_eq_bytesOf (value : BitVec 32) : emitU32 value = bytesOf value 4 := by
  have unshifted : (value &&& 0xff).setWidth 8 = value.extractLsb' 0 8 := by
    have shifted := maskedByte value 0xff 0 rfl
    rwa [BitVec.ushiftRight_zero] at shifted
  rw [emitU32, unshifted, maskedByte value 0xff 8 rfl, maskedByte value 0xff 16 rfl,
    maskedByte value 0xff 24 rfl]
  rfl

theorem emitU64_eq_bytesOf (value : BitVec 64) : emitU64 value = bytesOf value 8 := by
  unfold emitU64 bytesOf
  apply List.map_congr_left
  intro byte member
  exact maskedByte value 0xff (8 * byte) rfl

/-- An encoding that ends in a 32-bit displacement. -/
theorem encodes_displacement {head : List (BitVec 8)}
    (make : BitVec 64 → Instruction)
    (decoded : ∀ b0 b1 b2 b3 rest,
      X64.decode (head ++ (b0 :: b1 :: b2 :: b3 :: rest)) =
        some (make ((ofBytes 32 [b0, b1, b2, b3]).signExtend 64), head.length + 4))
    (displacement : BitVec 32) :
    Encodes (head ++ emitU32 displacement) [make (displacement.signExtend 64)] := by
  apply Encodes.single
  intro rest
  have spelled := spelled32 displacement
  rw [emitU32_eq_bytesOf, List.append_assoc]
  simp only [bytesOf, List.range_succ, List.range_zero, List.nil_append,
    List.cons_append, List.map_cons, List.map_nil] at spelled ⊢
  rw [decoded, spelled]
  simp

/-- An encoding that ends in a 32-bit immediate. -/
theorem encodes_immediate32 {head : List (BitVec 8)}
    (make : BitVec 32 → Instruction)
    (decoded : ∀ b0 b1 b2 b3 rest,
      X64.decode (head ++ (b0 :: b1 :: b2 :: b3 :: rest)) =
        some (make (ofBytes 32 [b0, b1, b2, b3]), head.length + 4))
    (immediate : BitVec 32) :
    Encodes (head ++ emitU32 immediate) [make immediate] := by
  apply Encodes.single
  intro rest
  have spelled := spelled32 immediate
  rw [emitU32_eq_bytesOf, List.append_assoc]
  simp only [bytesOf, List.range_succ, List.range_zero, List.nil_append,
    List.cons_append, List.map_cons, List.map_nil] at spelled ⊢
  rw [decoded, spelled]
  simp

/-- An encoding that ends in a 64-bit immediate. -/
theorem encodes_immediate64 {head : List (BitVec 8)}
    (make : BitVec 64 → Instruction)
    (decoded : ∀ b0 b1 b2 b3 b4 b5 b6 b7 rest,
      X64.decode (head ++ (b0 :: b1 :: b2 :: b3 :: b4 :: b5 :: b6 :: b7 :: rest)) =
        some (make (ofBytes 64 [b0, b1, b2, b3, b4, b5, b6, b7]), head.length + 8))
    (immediate : BitVec 64) :
    Encodes (head ++ emitU64 immediate) [make immediate] := by
  apply Encodes.single
  intro rest
  have spelled := spelled64 immediate
  rw [emitU64_eq_bytesOf, List.append_assoc]
  simp only [bytesOf, List.range_succ, List.range_zero, List.nil_append,
    List.cons_append, List.map_cons, List.map_nil] at spelled ⊢
  rw [decoded, spelled]
  simp

theorem encodes_xorEaxEax :
    Encodes emitXorEaxEax [.alu .xor 32 (.register rax) rax] :=
  .single fun _ => rfl

theorem encodes_storeRax (displacement : BitVec 32) :
    Encodes (emitStoreRaxToState displacement)
      [.moveToRm 64 (stateOperand displacement) rax] :=
  encodes_displacement (fun address => .moveToRm 64 (.memory rcx address) rax)
    (fun _ _ _ _ _ => rfl) displacement

theorem encodes_storeEax (displacement : BitVec 32) :
    Encodes (emitStoreEaxToState displacement)
      [.moveToRm 32 (stateOperand displacement) rax] :=
  encodes_displacement (fun address => .moveToRm 32 (.memory rcx address) rax)
    (fun _ _ _ _ _ => rfl) displacement

theorem encodes_loadEax (displacement : BitVec 32) :
    Encodes (emitLoadEaxFromState displacement)
      [.moveFromRm 32 rax (stateOperand displacement)] :=
  encodes_displacement (fun address => .moveFromRm 32 rax (.memory rcx address))
    (fun _ _ _ _ _ => rfl) displacement

theorem encodes_loadEdx (displacement : BitVec 32) :
    Encodes (emitLoadEdxFromState displacement)
      [.moveFromRm 32 rdx (stateOperand displacement)] :=
  encodes_displacement (fun address => .moveFromRm 32 rdx (.memory rcx address))
    (fun _ _ _ _ _ => rfl) displacement

theorem encodes_loadRax (displacement : BitVec 32) :
    Encodes (emitLoadRaxFromState displacement)
      [.moveFromRm 64 rax (stateOperand displacement)] :=
  encodes_displacement (fun address => .moveFromRm 64 rax (.memory rcx address))
    (fun _ _ _ _ _ => rfl) displacement

theorem encodes_loadRdx (displacement : BitVec 32) :
    Encodes (emitLoadRdxFromState displacement)
      [.moveFromRm 64 rdx (stateOperand displacement)] :=
  encodes_displacement (fun address => .moveFromRm 64 rdx (.memory rcx address))
    (fun _ _ _ _ _ => rfl) displacement

theorem encodes_movEaxImm32 (immediate : BitVec 32) :
    Encodes (emitMovEaxImm32 immediate) [.moveImmediate32 rax immediate] :=
  encodes_immediate32 (.moveImmediate32 rax) (fun _ _ _ _ _ => rfl) immediate

theorem encodes_movEdxImm32 (immediate : BitVec 32) :
    Encodes (emitMovEdxImm32 immediate) [.moveImmediate32 rdx immediate] :=
  encodes_immediate32 (.moveImmediate32 rdx) (fun _ _ _ _ _ => rfl) immediate

theorem encodes_movRaxImm64 (immediate : BitVec 64) :
    Encodes (emitMovRaxImm64 immediate) [.moveImmediate64 rax immediate] :=
  encodes_immediate64 (.moveImmediate64 rax) (fun _ _ _ _ _ _ _ _ _ => rfl) immediate

theorem encodes_movRdxImm64 (immediate : BitVec 64) :
    Encodes (emitMovRdxImm64 immediate) [.moveImmediate64 rdx immediate] :=
  encodes_immediate64 (.moveImmediate64 rdx) (fun _ _ _ _ _ _ _ _ _ => rfl) immediate

theorem encodes_operand32ToEax (operand : R5900IrOperand) :
    Encodes (emitOperand32ToEax operand) [nativeOperand32 rax operand] := by
  unfold emitOperand32ToEax nativeOperand32
  split
  · exact encodes_loadEax _
  · exact encodes_movEaxImm32 _

theorem encodes_operand32ToEdx (operand : R5900IrOperand) :
    Encodes (emitOperand32ToEdx operand) [nativeOperand32 rdx operand] := by
  unfold emitOperand32ToEdx nativeOperand32
  split
  · exact encodes_loadEdx _
  · exact encodes_movEdxImm32 _

theorem encodes_operand64ToRax (operand : R5900IrOperand) :
    Encodes (emitOperand64ToRax operand) [nativeOperand64 rax operand] := by
  unfold emitOperand64ToRax nativeOperand64
  split
  · exact encodes_loadRax _
  · exact encodes_movRaxImm64 _

theorem encodes_operand64ToRdx (operand : R5900IrOperand) :
    Encodes (emitOperand64ToRdx operand) [nativeOperand64 rdx operand] := by
  unfold emitOperand64ToRdx nativeOperand64
  split
  · exact encodes_loadRdx _
  · exact encodes_movRdxImm64 _

theorem encodes_storeLow64 (index : BitVec 8) :
    Encodes (emitStoreLow64 index) (nativeStoreLow64 index) := by
  unfold emitStoreLow64 nativeStoreLow64
  split
  · exact encodes_storeRax _
  · exact .nil

theorem encodes_zeroGpr0 : Encodes emitZeroGpr0 nativeZeroGpr0 :=
  (encodes_xorEaxEax.append (encodes_storeRax _)).append (encodes_storeRax _)

theorem encodes_addWordSignExtend (lhs rhs : R5900IrOperand) (index : BitVec 8) :
    Encodes (emitAddWordSignExtend lhs rhs index)
      (nativeAddWordSignExtend lhs rhs index) := by
  have addition : Encodes [0x01, 0xd0, 0x48, 0x98]
      [.alu .add 32 (.register rax) rdx, .cdqe] :=
    .cons [0x01, 0xd0] (fun _ => rfl) (.single fun _ => rfl)
  exact (((encodes_operand32ToEax lhs).append (encodes_operand32ToEdx rhs)).append
    addition).append (encodes_storeLow64 index)

theorem encodes_or64 (lhs rhs : R5900IrOperand) (index : BitVec 8) :
    Encodes (emitOr64 lhs rhs index) (nativeBitwise64 .or lhs rhs index) := by
  have disjunction : Encodes [0x48, 0x09, 0xd0] [.alu .or 64 (.register rax) rdx] :=
    .single fun _ => rfl
  exact (((encodes_operand64ToRax lhs).append (encodes_operand64ToRdx rhs)).append
    disjunction).append (encodes_storeLow64 index)

theorem encodes_and64 (lhs rhs : R5900IrOperand) (index : BitVec 8) :
    Encodes (emitAnd64 lhs rhs index) (nativeBitwise64 .and lhs rhs index) := by
  have conjunction : Encodes [0x48, 0x21, 0xd0] [.alu .and 64 (.register rax) rdx] :=
    .single fun _ => rfl
  exact (((encodes_operand64ToRax lhs).append (encodes_operand64ToRdx rhs)).append
    conjunction).append (encodes_storeLow64 index)

theorem encodes_lui (input : R5900IrOperand) (index : BitVec 8) :
    Encodes (emitLui input index) (nativeLui input index) := by
  have extension : Encodes [0x48, 0x98] [.cdqe] := .single fun _ => rfl
  exact ((encodes_movEaxImm32 _).append extension).append (encodes_storeLow64 index)

theorem encodes_moveGprLow64 (input : R5900IrOperand) (kind : R5900IrDestinationKind) :
    Encodes (emitMoveGprLow64 input kind) (nativeMoveGprLow64 input kind) :=
  (encodes_loadRax _).append (encodes_storeRax _)

theorem encodes_mtsah (source immediate : R5900IrOperand) :
    Encodes (emitMtsah source immediate) (nativeMtsah source immediate) := by
  have mask : Encodes [0x83, 0xe0, 0x07] [.aluImmediate .and 32 (.register rax) 7] :=
    .single fun _ => rfl
  have toggle : Encodes [0x83, 0xf0, immediate.immediate.setWidth 8 &&& 0x07]
      [.aluImmediate .xor 32 (.register rax)
        (immediate.immediate.setWidth 8 &&& 7)] :=
    .single fun _ => rfl
  have double : Encodes [0xd1, 0xe0] [.shiftLeftOne 32 (.register rax)] :=
    .single fun _ => rfl
  exact ((((encodes_loadEax _).append mask).append toggle).append double).append
    (encodes_storeEax _)

theorem encodes_padduwLane (index : BitVec 8) (lane : Nat) :
    Encodes (emitPadduwLane index lane) (nativePadduwLane index lane) := by
  have sources : Encodes (emitMovdEaxXmm0 ++ emitMovdEdxXmm1)
      [.movd (.register rax) xmm0, .movd (.register rdx) xmm1] :=
    .cons emitMovdEaxXmm0 (fun _ => rfl) (.single fun _ => rfl)
  have saturation : Encodes [0x01, 0xd0, 0x19, 0xd2, 0x09, 0xd0]
      [.alu .add 32 (.register rax) rdx, .alu .sbb 32 (.register rdx) rdx,
        .alu .or 32 (.register rax) rdx] :=
    .cons [0x01, 0xd0] (fun _ => rfl)
      (.cons [0x19, 0xd2] (fun _ => rfl) (.single fun _ => rfl))
  have storeLane : Encodes
      (if index ≠ 0 then
        emitStoreEaxToState (gprOffset index + BitVec.ofNat 32 (lane * 4))
      else [])
      (if index ≠ 0 then
        [.moveToRm 32
          (stateOperand (gprOffset index + BitVec.ofNat 32 (lane * 4))) rax]
      else []) := by
    split
    · exact encodes_storeEax _
    · exact .nil
  have shift : Encodes (if lane ≠ 3 then emitShiftXmmSourcesOneLane else [])
      (if lane ≠ 3 then [.psrldq xmm0 4, .psrldq xmm1 4] else []) := by
    split
    · exact .cons [0x66, 0x0f, 0x73, 0xd8, 0x04] (fun _ => rfl)
        (.single fun _ => rfl)
    · exact .nil
  exact ((sources.append saturation).append storeLane).append shift

theorem encodes_padduw (lhs rhs : R5900IrOperand) (index : BitVec 8) :
    Encodes (emitPadduw lhs rhs index) (nativePadduw lhs rhs index) := by
  have loadLeft : Encodes (emitLoadXmm0Gpr lhs.gprIndex)
      [.movdqu xmm0 (stateOperand (gprOffset lhs.gprIndex))] :=
    encodes_displacement (fun address => .movdqu xmm0 (.memory rcx address))
      (fun _ _ _ _ _ => rfl) _
  have loadRight : Encodes (emitLoadXmm1Gpr rhs.gprIndex)
      [.movdqu xmm1 (stateOperand (gprOffset rhs.gprIndex))] :=
    encodes_displacement (fun address => .movdqu xmm1 (.memory rcx address))
      (fun _ _ _ _ _ => rfl) _
  have lanes : ∀ lanes : List Nat, Encodes (lanes.flatMap (emitPadduwLane index))
      (lanes.flatMap (nativePadduwLane index)) := by
    intro lanes
    induction lanes with
    | nil => exact .nil
    | cons lane lanes ih => exact (encodes_padduwLane index lane).append ih
  exact (loadLeft.append loadRight).append (lanes (List.range 4))

theorem encodes_moveBits32 (input : R5900IrOperand)
    (destination : R5900IrDestination) :
    Encodes (emitMoveBits32 input destination) (nativeMoveBits32 input destination) :=
  (encodes_loadEax _).append (encodes_storeEax _)

theorem encodes_addF32ToAccumulator (lhs rhs : R5900IrOperand) :
    Encodes (emitAddF32ToAccumulator lhs rhs) (nativeAddF32ToAccumulator lhs rhs) := by
  have loadLeft : Encodes (emitLoadXmm0F32 (fprOffset lhs.gprIndex))
      [.movssLoad xmm0 (stateOperand (fprOffset lhs.gprIndex))] :=
    encodes_displacement (fun address => .movssLoad xmm0 (.memory rcx address))
      (fun _ _ _ _ _ => rfl) _
  have addRight : Encodes (emitAddXmm0F32 (fprOffset rhs.gprIndex))
      [.addss xmm0 (stateOperand (fprOffset rhs.gprIndex))] :=
    encodes_displacement (fun address => .addss xmm0 (.memory rcx address))
      (fun _ _ _ _ _ => rfl) _
  have storeSum : Encodes (emitStoreXmm0F32 fpAccOffset)
      [.movssStore (stateOperand fpAccOffset) xmm0] :=
    encodes_displacement (fun address => .movssStore (.memory rcx address) xmm0)
      (fun _ _ _ _ _ => rfl) _
  exact (loadLeft.append addRight).append storeSum

/-- Every validated instruction is emitted, as the encoding of its native
instructions. -/
theorem emitInstruction_encodes {ir : R5900IrInstruction}
    (wellFormed : R5900IrWellFormed ir) :
    ∃ bytes, emitInstruction ir = some bytes ∧
      Encodes bytes (nativeInstructions ir) := by
  cases wellFormed with
  | nop => exact ⟨_, rfl, .nil⟩
  | addWordSignExtend inRange left right =>
      exact ⟨_, rfl, encodes_addWordSignExtend _ _ _⟩
  | or64 inRange left right => exact ⟨_, rfl, encodes_or64 _ _ _⟩
  | and64 inRange left right => exact ⟨_, rfl, encodes_and64 _ _ _⟩
  | lui inRange source => exact ⟨_, rfl, encodes_lui _ _⟩
  | packedU32Add inRange left right => exact ⟨_, rfl, encodes_padduw _ _ _⟩
  | moveGprLow64 hilo source => exact ⟨_, rfl, encodes_moveGprLow64 _ _⟩
  | mtsah source constant => exact ⟨_, rfl, encodes_mtsah _ _⟩
  | moveBitsToFpr inRange source => exact ⟨_, rfl, encodes_moveBits32 _ _⟩
  | moveBitsToFcr31 source => exact ⟨_, rfl, encodes_moveBits32 _ _⟩
  | addF32Accumulator left right =>
      exact ⟨_, rfl, encodes_addF32ToAccumulator _ _⟩

theorem R5900IrWellFormed.opcode_ne_outOfRange {ir : R5900IrInstruction}
    (wellFormed : R5900IrWellFormed ir) : ir.opcode ≠ .outOfRange := by
  cases wellFormed <;> simp

theorem validateFrom_eq_ok_iff {index : Nat} {instructions : List R5900IrInstruction}
    {value : Unit} :
    validateFrom index instructions = .ok value ↔
      ∀ ir ∈ instructions, R5900IrWellFormed ir := by
  induction instructions generalizing index with
  | nil => simp [validateFrom]
  | cons ir instructions ih =>
      have first : validateR5900IrInstruction ir index = .ok () ↔
          R5900IrWellFormed ir := validateR5900IrInstruction_eq_ok_iff
      have others : validateFrom (index + 1) instructions = .ok value ↔ _ := ih
      rw [validateFrom, List.forall_mem_cons, ← first, ← others]
      cases validateR5900IrInstruction ir index with
      | error failure => simp
      | ok value => simp

theorem emitFrom_encodes {instructions : List R5900IrInstruction}
    (wellFormed : ∀ ir ∈ instructions, R5900IrWellFormed ir) (index : Nat) :
    ∃ bytes, emitFrom index instructions = .ok bytes ∧
      Encodes bytes (instructions.flatMap nativeInstructions) := by
  induction instructions generalizing index with
  | nil => exact ⟨[], rfl, .nil⟩
  | cons ir instructions ih =>
      obtain ⟨chunk, emitted, chunkEncodes⟩ :=
        emitInstruction_encodes (wellFormed ir (.head _))
      obtain ⟨bytes, rest, encodes⟩ :=
        ih (fun other member => wellFormed other (.tail _ member)) (index + 1)
      have supported := (wellFormed ir (.head _)).opcode_ne_outOfRange
      refine ⟨chunk ++ bytes, ?_, chunkEncodes.append encodes⟩
      rw [emitFrom, if_neg supported, rest, emitted]
      rfl

theorem ret_not_mem_nativeInstructions (ir : R5900IrInstruction) :
    .ret ∉ nativeInstructions ir := by
  obtain ⟨guestPc, guestRaw, opcode, destination, writeMode, inputs⟩ := ir
  unfold nativeInstructions
  split <;>
    simp [nativeAddWordSignExtend, nativeBitwise64, nativeLui, nativeMoveGprLow64,
      nativeMtsah, nativePadduw, nativePadduwLane, nativeMoveBits32,
      nativeAddF32ToAccumulator, nativeOperand32, nativeOperand64,
      nativeStoreLow64, List.range_succ] <;> grind

theorem ret_not_mem_nativeBlock (instructions : List R5900IrInstruction) :
    .ret ∉ nativeBlock instructions := by
  have body : .ret ∉ instructions.flatMap nativeInstructions := by
    intro member
    obtain ⟨ir, -, inside⟩ := List.mem_flatMap.mp member
    exact ret_not_mem_nativeInstructions ir inside
  simp [nativeBlock, nativeZeroGpr0] at body ⊢
  exact body

/-- Compilation of a validated program yields its native block and a `ret`. -/
theorem compileR5900IrX64_encodes {instructions : List R5900IrInstruction}
    (wellFormed : ∀ ir ∈ instructions, R5900IrWellFormed ir) :
    ∃ (block : R5900X64CompiledBlock) (bytes : List (BitVec 8)),
      compileR5900IrX64 .success instructions = .ok block ∧
        block.code = bytes ++ [0xc3] ∧
        Encodes bytes (nativeBlock instructions) := by
  obtain ⟨body, emitted, encodes⟩ := emitFrom_encodes wellFormed 0
  have validated : validateFrom 0 instructions = .ok () :=
    validateFrom_eq_ok_iff.mpr wellFormed
  refine ⟨⟨emitZeroGpr0 ++ body ++ emitZeroGpr0 ++ [0xc3], by simp⟩,
    emitZeroGpr0 ++ body ++ emitZeroGpr0, ?_, rfl,
    (encodes_zeroGpr0.append encodes).append encodes_zeroGpr0⟩
  simp only [compileR5900IrX64, validated, emitted]
  rfl

end Burnout3Recompiled
