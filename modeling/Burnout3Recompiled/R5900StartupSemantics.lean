import Burnout3Recompiled.R5900DecoderFields
import Burnout3Recompiled.R5900IrExecutorComposition
import Burnout3Recompiled.R5900IrWordArithmetic

/-!
# The startup instruction set

The meaning of the startup instructions is stated here directly on the bit
fields of the instruction word, independently of decoder, lowering and
interpreter.  Decoding, lowering and executing a word is then shown to succeed
on exactly the encodings of the set and to have exactly that meaning.
-/

namespace Burnout3Recompiled

namespace R5900Word

def opcode (word : BitVec 32) : BitVec 6 := word.extractLsb' 26 6

def rs (word : BitVec 32) : BitVec 5 := word.extractLsb' 21 5

def rt (word : BitVec 32) : BitVec 5 := word.extractLsb' 16 5

def rd (word : BitVec 32) : BitVec 5 := word.extractLsb' 11 5

def sa (word : BitVec 32) : BitVec 5 := word.extractLsb' 6 5

def funct (word : BitVec 32) : BitVec 6 := word.extractLsb' 0 6

def immediate (word : BitVec 32) : BitVec 16 := word.extractLsb' 0 16

end R5900Word

inductive StartupInstruction where
  | nop | sync | addu | mthi | mtlo | mtsah | addiu | andi | ori | lui
  | mthi1 | mtlo1 | padduw | mtc1 | ctc1 | addaS
  deriving DecidableEq, Repr

namespace StartupInstruction

open R5900Word

/-- The encodings of an instruction. -/
def Encodes (word : BitVec 32) : StartupInstruction → Prop
  | nop => word = 0
  | sync => opcode word = 0x00 ∧ funct word = 0x0F
  | addu => opcode word = 0x00 ∧ funct word = 0x21
  | mthi => opcode word = 0x00 ∧ funct word = 0x11
  | mtlo => opcode word = 0x00 ∧ funct word = 0x13
  | mtsah => opcode word = 0x01 ∧ rt word = 0x19
  | addiu => opcode word = 0x09
  | andi => opcode word = 0x0C
  | ori => opcode word = 0x0D
  | lui => opcode word = 0x0F
  | mthi1 => opcode word = 0x1C ∧ funct word = 0x11
  | mtlo1 => opcode word = 0x1C ∧ funct word = 0x13
  | padduw => opcode word = 0x1C ∧ funct word = 0x28 ∧ sa word = 0x10
  | mtc1 => opcode word = 0x11 ∧ rs word = 0x04
  | ctc1 => opcode word = 0x11 ∧ rs word = 0x06 ∧ rd word = 31
  | addaS => opcode word = 0x11 ∧ rs word = 0x10 ∧ funct word = 0x18

end StartupInstruction

namespace R5900IrExecutionState

def register (state : R5900IrExecutionState) (index : BitVec 5) : R5900IrGprValue :=
  state.gpr.get index.toFin

def floatRegister (state : R5900IrExecutionState) (index : BitVec 5) : BitVec 32 :=
  state.fpr.get index.toFin

/-- Replace a register; a write to GPR zero is discarded. -/
def putRegister (state : R5900IrExecutionState) (index : BitVec 5)
    (value : R5900IrGprValue) : R5900IrExecutionState :=
  if index = 0 then state
  else { state with gpr := state.gpr.set index.toNat value index.isLt }

/-- Replace the low half of a register and keep its high half. -/
def putLow64 (state : R5900IrExecutionState) (index : BitVec 5) (value : BitVec 64) :
    R5900IrExecutionState :=
  state.putRegister index ⟨value, (state.register index).high64⟩

def putFloatRegister (state : R5900IrExecutionState) (index : BitVec 5)
    (value : BitVec 32) : R5900IrExecutionState :=
  { state with fpr := state.fpr.set index.toNat value index.isLt }

end R5900IrExecutionState

/-- The largest 32-bit value stands for every larger sum. -/
def saturatedSum (lhs rhs : BitVec 32) : BitVec 32 :=
  BitVec.ofNat 32 (min (lhs.toNat + rhs.toNat) (2 ^ 32 - 1))

namespace R5900IrGprValue

/-- The four unsigned words of a register, from the low end. -/
def words (value : R5900IrGprValue) (lane : Fin 4) : BitVec 32 :=
  (value.high64 ++ value.low64).extractLsb' (32 * lane) 32

def ofWords (lanes : Fin 4 → BitVec 32) : R5900IrGprValue where
  low64 := lanes 1 ++ lanes 0
  high64 := lanes 3 ++ lanes 2

end R5900IrGprValue

namespace StartupInstruction

open R5900Word

/-- What executing an encoded instruction does to the architectural state. -/
def effect (addF32 : BitVec 32 → BitVec 32 → BitVec 32) (word : BitVec 32)
    (state : R5900IrExecutionState) : StartupInstruction → R5900IrExecutionState
  | nop | sync => state
  | addu =>
      state.putLow64 (rd word)
        (((state.register (rs word)).low64.setWidth 32 +
          (state.register (rt word)).low64.setWidth 32).signExtend 64)
  | addiu =>
      state.putLow64 (rt word)
        (((state.register (rs word)).low64.setWidth 32 +
          (immediate word).signExtend 32).signExtend 64)
  | andi =>
      state.putLow64 (rt word)
        ((state.register (rs word)).low64 &&& (immediate word).setWidth 64)
  | ori =>
      state.putLow64 (rt word)
        ((state.register (rs word)).low64 ||| (immediate word).setWidth 64)
  | lui => state.putLow64 (rt word) ((immediate word ++ (0 : BitVec 16)).signExtend 64)
  | mthi => { state with hi := (state.register (rs word)).low64 }
  | mtlo => { state with lo := (state.register (rs word)).low64 }
  | mthi1 => { state with hi1 := (state.register (rs word)).low64 }
  | mtlo1 => { state with lo1 := (state.register (rs word)).low64 }
  | mtsah =>
      { state with
        sa := (((state.register (rs word)).low64.setWidth 32 &&& 7) ^^^
          ((immediate word).setWidth 32 &&& 7)) <<< 1 }
  | padduw =>
      state.putRegister (rd word) <| R5900IrGprValue.ofWords fun lane =>
        saturatedSum ((state.register (rs word)).words lane)
          ((state.register (rt word)).words lane)
  | mtc1 =>
      state.putFloatRegister (rd word) ((state.register (rt word)).low64.setWidth 32)
  | ctc1 => { state with fcr31 := (state.register (rt word)).low64.setWidth 32 }
  | addaS =>
      { state with
        fpAcc := addF32 (state.floatRegister (rd word)) (state.floatRegister (rt word)) }

end StartupInstruction

section Fields

variable (word : BitVec 32)

theorem maskedField (mask : BitVec 32) (start bits width : Nat)
    (short : bits ≤ 32) (lowBits : mask = (BitVec.allOnes bits).setWidth 32) :
    ((word >>> start) &&& mask).setWidth width =
      (word.extractLsb' start bits).setWidth width := by
  apply BitVec.eq_of_getLsbD_eq
  intro bit inside
  rw [lowBits, BitVec.getLsbD_setWidth, BitVec.getLsbD_setWidth, BitVec.getLsbD_and,
    BitVec.getLsbD_ushiftRight, BitVec.getLsbD_setWidth, BitVec.getLsbD_allOnes,
    BitVec.getLsbD_extractLsb']
  by_cases covered : bit < bits
  · have small : bit < 32 := by omega
    simp [covered, small]
  · simp [covered]

theorem r5900Fields_opcode :
    (r5900Fields word).primaryOpcode = (R5900Word.opcode word).setWidth 8 :=
  maskedField word 0x3F 26 6 8 (by decide) rfl

theorem r5900Fields_rs : (r5900Fields word).rs = (R5900Word.rs word).setWidth 8 :=
  maskedField word 0x1F 21 5 8 (by decide) rfl

theorem r5900Fields_rt : (r5900Fields word).rt = (R5900Word.rt word).setWidth 8 :=
  maskedField word 0x1F 16 5 8 (by decide) rfl

theorem r5900Fields_rd : (r5900Fields word).rd = (R5900Word.rd word).setWidth 8 :=
  maskedField word 0x1F 11 5 8 (by decide) rfl

theorem r5900Fields_sa : (r5900Fields word).sa = (R5900Word.sa word).setWidth 8 :=
  maskedField word 0x1F 6 5 8 (by decide) rfl

theorem r5900Fields_funct :
    (r5900Fields word).funct = (R5900Word.funct word).setWidth 8 := by
  have shifted := maskedField word 0x3F 0 6 8 (by decide) rfl
  rwa [BitVec.ushiftRight_zero] at shifted

end Fields

section Decoded

variable (word : BitVec 32)

theorem decodeR5900_rs : (decodeR5900 word).rs = (R5900Word.rs word).setWidth 8 :=
  (sameFields_decodeR5900 word).rs.trans (r5900Fields_rs word)

theorem decodeR5900_rt : (decodeR5900 word).rt = (R5900Word.rt word).setWidth 8 :=
  (sameFields_decodeR5900 word).rt.trans (r5900Fields_rt word)

theorem decodeR5900_rd : (decodeR5900 word).rd = (R5900Word.rd word).setWidth 8 :=
  (sameFields_decodeR5900 word).rd.trans (r5900Fields_rd word)

theorem decodeR5900_immediate :
    (decodeR5900 word).immediate = R5900Word.immediate word := by
  have shifted := maskedField word 0xFFFF 0 16 16 (by decide) rfl
  rw [BitVec.ushiftRight_zero, BitVec.setWidth_eq] at shifted
  exact (sameFields_decodeR5900 word).immediate.trans shifted

end Decoded

namespace StartupInstruction

/-- The decoder's name for an instruction. -/
def name : StartupInstruction → R5900Instruction
  | nop => .nop
  | sync => .sync
  | addu => .addu
  | mthi => .mthi
  | mtlo => .mtlo
  | mtsah => .mtsah
  | addiu => .addiu
  | andi => .andi
  | ori => .ori
  | lui => .lui
  | mthi1 => .mthi1
  | mtlo1 => .mtlo1
  | padduw => .padduw
  | mtc1 => .mtc1
  | ctc1 => .ctc1
  | addaS => .addaS

theorem isStartupInstruction_name (instruction : StartupInstruction) :
    IsStartupInstruction instruction.name := by
  cases instruction <;> trivial

theorem exists_name {instruction : R5900Instruction}
    (startup : IsStartupInstruction instruction) :
    ∃ named : StartupInstruction, named.name = instruction := by
  cases instruction <;> first
    | exact absurd startup id
    | exact ⟨.nop, rfl⟩
    | exact ⟨.sync, rfl⟩
    | exact ⟨.addu, rfl⟩
    | exact ⟨.mthi, rfl⟩
    | exact ⟨.mtlo, rfl⟩
    | exact ⟨.mtsah, rfl⟩
    | exact ⟨.addiu, rfl⟩
    | exact ⟨.andi, rfl⟩
    | exact ⟨.ori, rfl⟩
    | exact ⟨.lui, rfl⟩
    | exact ⟨.mthi1, rfl⟩
    | exact ⟨.mtlo1, rfl⟩
    | exact ⟨.padduw, rfl⟩
    | exact ⟨.mtc1, rfl⟩
    | exact ⟨.ctc1, rfl⟩
    | exact ⟨.addaS, rfl⟩

theorem wideField_eq_iff {bits value : Nat} {field : BitVec bits} (short : bits ≤ 8)
    (fits : value < 2 ^ bits) :
    field.setWidth 8 = BitVec.ofNat 8 value ↔ field = BitVec.ofNat bits value := by
  have larger : 2 ^ bits ≤ 2 ^ 8 := Nat.pow_le_pow_right (by decide) short
  have bounded := field.isLt
  rw [← BitVec.toNat_inj, ← BitVec.toNat_inj, BitVec.toNat_setWidth,
    BitVec.toNat_ofNat, BitVec.toNat_ofNat, Nat.mod_eq_of_lt (by omega),
    Nat.mod_eq_of_lt (by omega), Nat.mod_eq_of_lt fits]

/-- The encodings are the decoder's, with the one register CTC1 may name. -/
theorem encodes_iff {word : BitVec 32} {instruction : StartupInstruction} :
    instruction.Encodes word ↔
      StartupFields (r5900Fields word) instruction.name ∧
        (instruction = .ctc1 → R5900Word.rd word = 31) := by
  have rawWord : (r5900Fields word).raw = word := rfl
  have nonzero : ∀ value, value ≠ 0 → R5900Word.funct word = value → ¬word = 0 := by
    rintro value different functValue rfl
    exact different functValue.symm
  cases instruction with
  | nop =>
      constructor
      · rintro rfl
        exact ⟨⟨rfl, rfl⟩, nofun⟩
      · rintro ⟨⟨-, zero⟩, -⟩
        exact zero
  | sync | addu | mthi | mtlo =>
      simp [Encodes, name, StartupFields, rawWord, r5900Fields_opcode,
        r5900Fields_funct, wideField_eq_iff]
      exact fun _ => nonzero _ (by decide)
  | _ =>
      simp [Encodes, name, StartupFields, r5900Fields_opcode, r5900Fields_rs,
        r5900Fields_rt, r5900Fields_sa, r5900Fields_funct, wideField_eq_iff, and_assoc]

theorem decodeR5900_of_encodes {word : BitVec 32} {instruction : StartupInstruction}
    (encodes : instruction.Encodes word) :
    (decodeR5900 word).instruction = instruction.name :=
  (decodeR5900_startup_iff (isStartupInstruction_name instruction)).mpr
    (encodes_iff.mp encodes).1

end StartupInstruction

theorem lowerR5900Instruction_unsupported {decoded : R5900DecodedInstruction}
    {guestPc : BitVec 32}
    (outside : ¬IsStartupInstruction decoded.instruction ∨
      decoded.instruction = .ctc1 ∧ decoded.rd ≠ 31) :
    (lowerR5900Instruction decoded guestPc).error = .unsupportedInstruction ∧
      (lowerR5900Instruction decoded guestPc).instructions = [] := by
  rcases outside with unknown | ⟨ctc1, otherRegister⟩
  · unfold lowerR5900Instruction
    split <;> first
      | exact ⟨rfl, rfl⟩
      | next named => simp [IsStartupInstruction, named] at unknown
  · simp only [lowerR5900Instruction, ctc1, if_pos otherRegister]
    exact ⟨rfl, rfl⟩

/-- A word outside the set is one the lowering rejects. -/
theorem not_encodes_iff {word : BitVec 32} :
    (∀ instruction : StartupInstruction, ¬instruction.Encodes word) ↔
      ¬IsStartupInstruction (decodeR5900 word).instruction ∨
        (decodeR5900 word).instruction = .ctc1 ∧ (decodeR5900 word).rd ≠ 31 := by
  have rdValue : (decodeR5900 word).rd = 31 ↔ R5900Word.rd word = 31 := by
    rw [decodeR5900_rd]
    exact StartupInstruction.wideField_eq_iff (by decide) (by decide)
  constructor
  · intro none
    by_contra inside
    rw [not_or, not_not, not_and, not_not, rdValue] at inside
    obtain ⟨startup, register⟩ := inside
    obtain ⟨instruction, named⟩ := StartupInstruction.exists_name startup
    have fields := (decodeR5900_startup_iff startup).mp rfl
    rw [← named] at fields
    refine none instruction (StartupInstruction.encodes_iff.mpr ⟨fields, ?_⟩)
    rintro rfl
    exact register named.symm
  · rintro outside instruction encodes
    have named := StartupInstruction.decodeR5900_of_encodes encodes
    rcases outside with unknown | ⟨ctc1, otherRegister⟩
    · rw [named] at unknown
      exact unknown instruction.isStartupInstruction_name
    · rw [named] at ctc1
      have isCtc1 : instruction = .ctc1 := by
        cases instruction <;> first | rfl | cases ctc1
      exact otherRegister (rdValue.mpr ((StartupInstruction.encodes_iff.mp encodes).2 isCtc1))

namespace R5900IrExecutionState

variable (state : R5900IrExecutionState) (index : BitVec 5)

theorem toNat_setWidth_register : (index.setWidth 8).toNat = index.toNat := by
  have bounded := index.isLt
  rw [BitVec.toNat_setWidth]
  omega

theorem setWidth_register_lt : index.setWidth 8 < 32 := by
  have bounded := index.isLt
  have limit : (32 : BitVec 8).toNat = 32 := rfl
  rw [BitVec.lt_def, toNat_setWidth_register, limit]
  exact bounded

theorem setWidth_register_eq_zero : index.setWidth 8 = 0 ↔ index = 0 :=
  StartupInstruction.wideField_eq_iff (by decide) (by decide)

theorem gprValue_setWidth : state.gprValue (index.setWidth 8) = state.register index := by
  have bounded : index.toNat < 32 := index.isLt
  rw [gprValue, toNat_setWidth_register, Vector.getElem?_eq_getElem bounded]
  rfl

theorem fprValue_setWidth :
    state.fprValue (index.setWidth 8) = state.floatRegister index := by
  have bounded : index.toNat < 32 := index.isLt
  rw [fprValue, toNat_setWidth_register, Vector.getElem?_eq_getElem bounded]
  rfl

theorem writeFull128_setWidth (value : R5900IrGprValue) :
    state.writeFull128 (index.setWidth 8) value = state.putRegister index value := by
  unfold writeFull128 putRegister
  simp only [setWidth_register_eq_zero]
  split
  · rfl
  · have sameFile : state.gpr.setIfInBounds index.toNat value =
        state.gpr.set index.toNat value index.isLt := by
      ext1 register inside
      rw [Vector.getElem_setIfInBounds, Vector.getElem_set]
    rw [setGpr, toNat_setWidth_register, sameFile]

theorem writeLow64_setWidth (value : BitVec 64) :
    state.writeLow64 (index.setWidth 8) value = state.putLow64 index value := by
  rw [writeLow64, gprValue_setWidth, writeFull128_setWidth]
  rfl

theorem setFpr_setWidth (value : BitVec 32) :
    state.setFpr (index.setWidth 8) value = state.putFloatRegister index value := by
  have sameFile : state.fpr.setIfInBounds index.toNat value =
      state.fpr.set index.toNat value index.isLt := by
    ext1 register inside
    rw [Vector.getElem_setIfInBounds, Vector.getElem_set]
  rw [setFpr, toNat_setWidth_register, sameFile]
  rfl

end R5900IrExecutionState

theorem saturatedSum_eq (lhs rhs : BitVec 32) :
    saturatedSum lhs rhs = saturatingAddU32 lhs rhs := by
  rw [saturatedSum, saturatingAddU32_eq]
  by_cases carry : 2 ^ 32 ≤ lhs.toNat + rhs.toNat
  · have allOnes : (0 : BitVec 32) - BitVec.ofNat 32 true.toNat = BitVec.allOnes 32 :=
      rfl
    rw [Nat.min_eq_right (by omega), decide_eq_true carry, allOnes, BitVec.or_allOnes]
    rfl
  · have zero : (0 : BitVec 32) - BitVec.ofNat 32 false.toNat = 0#32 := rfl
    rw [Nat.min_eq_left (by omega), decide_eq_false carry, zero, BitVec.or_zero,
      BitVec.ofNat_add, BitVec.ofNat_toNat, BitVec.ofNat_toNat, BitVec.setWidth_eq,
      BitVec.setWidth_eq]

theorem words_eq_packedLane (value : R5900IrGprValue) (lane : Fin 4) :
    value.words lane = packedLane value lane := by
  have bounded := lane.isLt
  apply BitVec.eq_of_getLsbD_eq
  intro bit inside
  rw [R5900IrGprValue.words, BitVec.getLsbD_extractLsb', BitVec.getLsbD_append]
  by_cases lower : lane.val < 2
  · have inLow : 32 * lane.val + bit < 64 := by omega
    have position : lane.val * 32 + bit = 32 * lane.val + bit := by omega
    rw [packedLane, if_pos lower]
    simp [inside, inLow, position]
  · have inHigh : ¬32 * lane.val + bit < 64 := by omega
    have position : (lane.val - 2) * 32 + bit = 32 * lane.val + bit - 64 := by omega
    rw [packedLane, if_neg lower]
    simp [inside, inHigh, position]

theorem packedU32SaturatingAdd_eq_ofWords (lhs rhs : R5900IrGprValue) :
    packedU32SaturatingAdd lhs rhs =
      R5900IrGprValue.ofWords fun lane =>
        saturatedSum (lhs.words lane) (rhs.words lane) := by
  simp only [packedU32SaturatingAdd_eq, R5900IrGprValue.ofWords, saturatedSum_eq,
    words_eq_packedLane]
  rfl

open R5900IrExecutionState

section Execution

variable (addF32 : BitVec 32 → BitVec 32 → BitVec 32)

/-- A lowering succeeds with well-formed IR for one word that has the given
effect. -/
structure Implements (lowered : R5900IrLoweringResult) (guestPc word : BitVec 32)
    (effect : R5900IrExecutionState → R5900IrExecutionState) : Prop where
  succeeds : lowered.ok = true
  wellFormed : ∀ ir ∈ lowered.instructions, R5900IrWellFormed ir
  origin : ∀ ir ∈ lowered.instructions, ir.guestPc = guestPc ∧ ir.guestRaw = word
  executes : ∀ state, executeR5900Ir addF32 lowered.instructions state =
    (.ok (), effect state.normalizeZero)

theorem implements_single {ir : R5900IrInstruction} {guestPc word : BitVec 32}
    {effect : R5900IrExecutionState → R5900IrExecutionState}
    (wellFormed : R5900IrWellFormed ir)
    (origin : ir.guestPc = guestPc ∧ ir.guestRaw = word)
    (executes : ∀ state, executeInstruction addF32 ir state = some (effect state)) :
    Implements addF32 (singleInstruction ir) guestPc word effect := by
  have only : ∀ other ∈ [ir], other = ir := fun _ member => List.mem_singleton.mp member
  have allWellFormed : ∀ other ∈ [ir], R5900IrWellFormed other := by
    intro other member
    rw [only other member]
    exact wellFormed
  refine ⟨rfl, allWellFormed, ?_, ?_⟩
  · intro other member
    rw [only other member]
    exact origin
  · intro state
    have run := executeR5900Ir_eq_foldl addF32 allWellFormed state
    rw [List.foldl_cons, List.foldl_nil, applyInstruction, executes] at run
    exact run

/-- A discarded write to GPR zero. -/
theorem implements_discarded {decoded : R5900DecodedInstruction}
    {guestPc word : BitVec 32} (raw : decoded.raw = word)
    {effect : R5900IrExecutionState → R5900IrExecutionState}
    (unchanged : ∀ state, effect state = state) :
    Implements addF32 (discardedGprZeroWrite decoded guestPc) guestPc word effect := by
  apply implements_single addF32 .nop ⟨rfl, raw⟩
  intro state
  rw [unchanged]
  rfl

/-- A write to a general register, discarded for GPR zero. -/
theorem implements_write {decoded : R5900DecodedInstruction} {ir : R5900IrInstruction}
    {guestPc word : BitVec 32} (register : BitVec 5) (raw : decoded.raw = word)
    {effect : R5900IrExecutionState → R5900IrExecutionState}
    (discarded : register = 0 → ∀ state, effect state = state)
    (wellFormed : R5900IrWellFormed ir)
    (origin : ir.guestPc = guestPc ∧ ir.guestRaw = word)
    (executes : ∀ state, executeInstruction addF32 ir state = some (effect state)) :
    Implements addF32
      (if register.setWidth 8 = 0 then discardedGprZeroWrite decoded guestPc
        else singleInstruction ir) guestPc word effect := by
  split
  · next zero =>
      have isZero := (setWidth_register_eq_zero register).mp zero
      exact implements_discarded addF32 raw (discarded isZero)
  · exact implements_single addF32 wellFormed origin executes

theorem isGpr_register (index : BitVec 5) :
    (R5900IrOperand.gpr (index.setWidth 8)).IsGpr :=
  ⟨rfl, setWidth_register_lt index⟩

theorem isFpr_register (index : BitVec 5) :
    (R5900IrOperand.fpr (index.setWidth 8)).IsFpr :=
  ⟨rfl, setWidth_register_lt index⟩

theorem isImmediate_ofImmediate (value : BitVec 64) :
    (R5900IrOperand.ofImmediate value).IsImmediate := rfl

theorem operandValue_gpr (state : R5900IrExecutionState) (index : BitVec 5) :
    state.operandValue (R5900IrOperand.gpr (index.setWidth 8)) =
      (state.register index).low64 := by
  rw [← gprValue_setWidth]
  rfl

theorem operandValue_ofImmediate (state : R5900IrExecutionState) (value : BitVec 64) :
    state.operandValue (R5900IrOperand.ofImmediate value) = value := rfl

theorem putLow64_zero (state : R5900IrExecutionState) (value : BitVec 64) :
    state.putLow64 0 value = state := rfl

theorem putRegister_zero (state : R5900IrExecutionState) (value : R5900IrGprValue) :
    state.putRegister 0 value = state := rfl

theorem upperImmediate (value : BitVec 16) :
    ((R5900IrOperand.ofImmediate (value.setWidth 64)).immediate.setWidth 16).setWidth
        32 <<< 16 = value ++ (0 : BitVec 16) := by
  rw [R5900IrOperand.ofImmediate]
  apply BitVec.eq_of_getLsbD_eq
  intro bit inside
  rw [BitVec.getLsbD_append]
  by_cases low : bit < 16
  · simp [low]
  · have small : bit - 16 < 16 := by omega
    simp [low, inside, small]

theorem setWidth_signExtend (value : BitVec 32) :
    (value.signExtend 64).setWidth 32 = value := by
  apply BitVec.eq_of_getLsbD_eq
  intro bit inside
  have wide : bit < 64 := by omega
  rw [BitVec.getLsbD_setWidth, BitVec.getLsbD_signExtend]
  simp [inside, wide]

theorem gprValue_operand (state : R5900IrExecutionState) (index : BitVec 5) :
    state.gprValue (R5900IrOperand.gpr (index.setWidth 8)).gprIndex =
      state.register index :=
  gprValue_setWidth state index

theorem fprValue_operand (state : R5900IrExecutionState) (index : BitVec 5) :
    state.fprValue (R5900IrOperand.fpr (index.setWidth 8)).gprIndex =
      state.floatRegister index :=
  fprValue_setWidth state index

/-- A move to one of the four HI and LO registers. -/
theorem implements_hilo {decoded : R5900DecodedInstruction} {guestPc word : BitVec 32}
    (raw : decoded.raw = word) {kind : R5900IrDestinationKind}
    (hilo : isHiloDestination kind = true) (index : BitVec 5) :
    Implements addF32
      (singleInstruction
        (((baseInstruction decoded guestPc .moveGprLow64).setDestination kind).pushInput
          (R5900IrOperand.gpr (index.setWidth 8)))) guestPc word
      (fun state => state.setHilo kind (state.register index).low64) := by
  have source := isGpr_register index
  refine implements_single addF32 (.moveGprLow64 hilo source) ⟨rfl, raw⟩ fun state => ?_
  refine (executeInstruction_moveGprLow64 source).trans ?_
  rw [gprValue_operand]

section Instructions

variable {word : BitVec 32} (guestPc : BitVec 32)

theorem implements_nop (encodes : StartupInstruction.nop.Encodes word) :
    Implements addF32 (lowerR5900Instruction (decodeR5900 word) guestPc) guestPc word
      (StartupInstruction.nop.effect addF32 word ·) := by
  have named := StartupInstruction.decodeR5900_of_encodes encodes
  simp only [StartupInstruction.name] at named
  simp only [lowerR5900Instruction, named]
  exact implements_discarded addF32 (decodeR5900_raw word) fun _ => rfl

theorem implements_sync (encodes : StartupInstruction.sync.Encodes word) :
    Implements addF32 (lowerR5900Instruction (decodeR5900 word) guestPc) guestPc word
      (StartupInstruction.sync.effect addF32 word ·) := by
  have named := StartupInstruction.decodeR5900_of_encodes encodes
  simp only [StartupInstruction.name] at named
  simp only [lowerR5900Instruction, named]
  exact implements_discarded addF32 (decodeR5900_raw word) fun _ => rfl

theorem implements_addu (encodes : StartupInstruction.addu.Encodes word) :
    Implements addF32 (lowerR5900Instruction (decodeR5900 word) guestPc) guestPc word
      (StartupInstruction.addu.effect addF32 word ·) := by
  have named := StartupInstruction.decodeR5900_of_encodes encodes
  simp only [StartupInstruction.name] at named
  simp only [lowerR5900Instruction, named, decodeR5900_rd, decodeR5900_rs,
    decodeR5900_rt]
  have destination := setWidth_register_lt (R5900Word.rd word)
  have left := isGpr_register (R5900Word.rs word)
  have right := isGpr_register (R5900Word.rt word)
  refine implements_write addF32 _ (decodeR5900_raw word) (fun zero state => ?_)
    (.addWordSignExtend destination (.inl left) (.inl right))
    ⟨rfl, decodeR5900_raw word⟩ fun state => ?_
  · simp only [StartupInstruction.effect, zero, putLow64_zero]
  · refine (executeInstruction_addWordSignExtend destination (.inl left)
      (.inl right)).trans ?_
    rw [writeLow64_setWidth, operandValue_gpr, operandValue_gpr,
      signExtendWord_eq_signExtend]
    rfl

theorem implements_addiu (encodes : StartupInstruction.addiu.Encodes word) :
    Implements addF32 (lowerR5900Instruction (decodeR5900 word) guestPc) guestPc word
      (StartupInstruction.addiu.effect addF32 word ·) := by
  have named := StartupInstruction.decodeR5900_of_encodes encodes
  simp only [StartupInstruction.name] at named
  simp only [lowerR5900Instruction, named, decodeR5900_rs, decodeR5900_rt,
    R5900DecodedInstruction.signedImmediate, decodeR5900_immediate]
  have destination := setWidth_register_lt (R5900Word.rt word)
  have left := isGpr_register (R5900Word.rs word)
  have right := isImmediate_ofImmediate
    (((R5900Word.immediate word).signExtend 32).signExtend 64)
  refine implements_write addF32 _ (decodeR5900_raw word) (fun zero state => ?_)
    (.addWordSignExtend destination (.inl left) (.inr right))
    ⟨rfl, decodeR5900_raw word⟩ fun state => ?_
  · simp only [StartupInstruction.effect, zero, putLow64_zero]
  · refine (executeInstruction_addWordSignExtend destination (.inl left)
      (.inr right)).trans ?_
    rw [writeLow64_setWidth, operandValue_gpr, operandValue_ofImmediate,
      setWidth_signExtend, signExtendWord_eq_signExtend]
    rfl

theorem implements_andi (encodes : StartupInstruction.andi.Encodes word) :
    Implements addF32 (lowerR5900Instruction (decodeR5900 word) guestPc) guestPc word
      (StartupInstruction.andi.effect addF32 word ·) := by
  have named := StartupInstruction.decodeR5900_of_encodes encodes
  simp only [StartupInstruction.name] at named
  simp only [lowerR5900Instruction, named, decodeR5900_rs, decodeR5900_rt,
    decodeR5900_immediate]
  have destination := setWidth_register_lt (R5900Word.rt word)
  have left := isGpr_register (R5900Word.rs word)
  have right := isImmediate_ofImmediate ((R5900Word.immediate word).setWidth 64)
  refine implements_write addF32 _ (decodeR5900_raw word) (fun zero state => ?_)
    (.and64 destination left right) ⟨rfl, decodeR5900_raw word⟩ fun state => ?_
  · simp only [StartupInstruction.effect, zero, putLow64_zero]
  · refine (executeInstruction_and64 destination left).trans ?_
    rw [writeLow64_setWidth, gprValue_operand]
    rfl

theorem implements_ori (encodes : StartupInstruction.ori.Encodes word) :
    Implements addF32 (lowerR5900Instruction (decodeR5900 word) guestPc) guestPc word
      (StartupInstruction.ori.effect addF32 word ·) := by
  have named := StartupInstruction.decodeR5900_of_encodes encodes
  simp only [StartupInstruction.name] at named
  simp only [lowerR5900Instruction, named, decodeR5900_rs, decodeR5900_rt,
    decodeR5900_immediate]
  have destination := setWidth_register_lt (R5900Word.rt word)
  have left := isGpr_register (R5900Word.rs word)
  have right := isImmediate_ofImmediate ((R5900Word.immediate word).setWidth 64)
  refine implements_write addF32 _ (decodeR5900_raw word) (fun zero state => ?_)
    (.or64 destination (.inl left) (.inr right)) ⟨rfl, decodeR5900_raw word⟩
    fun state => ?_
  · simp only [StartupInstruction.effect, zero, putLow64_zero]
  · refine (executeInstruction_or64 destination (.inl left) (.inr right)).trans ?_
    rw [writeLow64_setWidth, operandValue_gpr, operandValue_ofImmediate]
    rfl

theorem implements_lui (encodes : StartupInstruction.lui.Encodes word) :
    Implements addF32 (lowerR5900Instruction (decodeR5900 word) guestPc) guestPc word
      (StartupInstruction.lui.effect addF32 word ·) := by
  have named := StartupInstruction.decodeR5900_of_encodes encodes
  simp only [StartupInstruction.name] at named
  simp only [lowerR5900Instruction, named, decodeR5900_rt, decodeR5900_immediate]
  have destination := setWidth_register_lt (R5900Word.rt word)
  have source := isImmediate_ofImmediate ((R5900Word.immediate word).setWidth 64)
  refine implements_write addF32 _ (decodeR5900_raw word) (fun zero state => ?_)
    (.lui destination source) ⟨rfl, decodeR5900_raw word⟩ fun state => ?_
  · simp only [StartupInstruction.effect, zero, putLow64_zero]
  · refine (executeInstruction_lui destination).trans ?_
    rw [writeLow64_setWidth, signExtendWord_eq_signExtend, upperImmediate]
    rfl

theorem implements_mthi (encodes : StartupInstruction.mthi.Encodes word) :
    Implements addF32 (lowerR5900Instruction (decodeR5900 word) guestPc) guestPc word
      (StartupInstruction.mthi.effect addF32 word ·) := by
  have named := StartupInstruction.decodeR5900_of_encodes encodes
  simp only [StartupInstruction.name] at named
  simp only [lowerR5900Instruction, named, decodeR5900_rs]
  exact implements_hilo addF32 (decodeR5900_raw word) rfl (R5900Word.rs word)

theorem implements_mtlo (encodes : StartupInstruction.mtlo.Encodes word) :
    Implements addF32 (lowerR5900Instruction (decodeR5900 word) guestPc) guestPc word
      (StartupInstruction.mtlo.effect addF32 word ·) := by
  have named := StartupInstruction.decodeR5900_of_encodes encodes
  simp only [StartupInstruction.name] at named
  simp only [lowerR5900Instruction, named, decodeR5900_rs]
  exact implements_hilo addF32 (decodeR5900_raw word) rfl (R5900Word.rs word)

theorem implements_mthi1 (encodes : StartupInstruction.mthi1.Encodes word) :
    Implements addF32 (lowerR5900Instruction (decodeR5900 word) guestPc) guestPc word
      (StartupInstruction.mthi1.effect addF32 word ·) := by
  have named := StartupInstruction.decodeR5900_of_encodes encodes
  simp only [StartupInstruction.name] at named
  simp only [lowerR5900Instruction, named, decodeR5900_rs]
  exact implements_hilo addF32 (decodeR5900_raw word) rfl (R5900Word.rs word)

theorem implements_mtlo1 (encodes : StartupInstruction.mtlo1.Encodes word) :
    Implements addF32 (lowerR5900Instruction (decodeR5900 word) guestPc) guestPc word
      (StartupInstruction.mtlo1.effect addF32 word ·) := by
  have named := StartupInstruction.decodeR5900_of_encodes encodes
  simp only [StartupInstruction.name] at named
  simp only [lowerR5900Instruction, named, decodeR5900_rs]
  exact implements_hilo addF32 (decodeR5900_raw word) rfl (R5900Word.rs word)

theorem implements_mtsah (encodes : StartupInstruction.mtsah.Encodes word) :
    Implements addF32 (lowerR5900Instruction (decodeR5900 word) guestPc) guestPc word
      (StartupInstruction.mtsah.effect addF32 word ·) := by
  have named := StartupInstruction.decodeR5900_of_encodes encodes
  simp only [StartupInstruction.name] at named
  simp only [lowerR5900Instruction, named, decodeR5900_rs, decodeR5900_immediate]
  have source := isGpr_register (R5900Word.rs word)
  have constant := isImmediate_ofImmediate ((R5900Word.immediate word).setWidth 64)
  have narrow : ((R5900Word.immediate word).setWidth 64).setWidth 32 =
      (R5900Word.immediate word).setWidth 32 := by
    simp
  refine implements_single addF32 (.mtsah source constant)
    ⟨rfl, decodeR5900_raw word⟩ fun state => ?_
  refine (executeInstruction_mtsah source).trans ?_
  rw [gprValue_operand]
  exact congrArg (fun value => some { state with
    sa := (((state.register (R5900Word.rs word)).low64.setWidth 32 &&& 7) ^^^
      (value &&& 7)) <<< 1 }) narrow

theorem implements_padduw (encodes : StartupInstruction.padduw.Encodes word) :
    Implements addF32 (lowerR5900Instruction (decodeR5900 word) guestPc) guestPc word
      (StartupInstruction.padduw.effect addF32 word ·) := by
  have named := StartupInstruction.decodeR5900_of_encodes encodes
  simp only [StartupInstruction.name] at named
  simp only [lowerR5900Instruction, named, decodeR5900_rd, decodeR5900_rs,
    decodeR5900_rt]
  have destination := setWidth_register_lt (R5900Word.rd word)
  have left := isGpr_register (R5900Word.rs word)
  have right := isGpr_register (R5900Word.rt word)
  refine implements_write addF32 _ (decodeR5900_raw word) (fun zero state => ?_)
    (.packedU32Add destination left right) ⟨rfl, decodeR5900_raw word⟩ fun state => ?_
  · simp only [StartupInstruction.effect, zero, putRegister_zero]
  · refine (executeInstruction_packedU32Add destination left right).trans ?_
    rw [writeFull128_setWidth, gprValue_operand, gprValue_operand,
      packedU32SaturatingAdd_eq_ofWords]
    rfl

theorem implements_mtc1 (encodes : StartupInstruction.mtc1.Encodes word) :
    Implements addF32 (lowerR5900Instruction (decodeR5900 word) guestPc) guestPc word
      (StartupInstruction.mtc1.effect addF32 word ·) := by
  have named := StartupInstruction.decodeR5900_of_encodes encodes
  simp only [StartupInstruction.name] at named
  simp only [lowerR5900Instruction, named, decodeR5900_rd, decodeR5900_rt]
  have destination := setWidth_register_lt (R5900Word.rd word)
  have source := isGpr_register (R5900Word.rt word)
  refine implements_single addF32 (.moveBitsToFpr destination source)
    ⟨rfl, decodeR5900_raw word⟩ fun state => ?_
  refine (executeInstruction_moveBitsToFpr destination source).trans ?_
  rw [setFpr_setWidth, gprValue_operand]
  rfl

theorem implements_ctc1 (encodes : StartupInstruction.ctc1.Encodes word) :
    Implements addF32 (lowerR5900Instruction (decodeR5900 word) guestPc) guestPc word
      (StartupInstruction.ctc1.effect addF32 word ·) := by
  have named := StartupInstruction.decodeR5900_of_encodes encodes
  simp only [StartupInstruction.name] at named
  have register : (decodeR5900 word).rd = 31 := by
    rw [decodeR5900_rd, encodes.2.2]
    rfl
  simp only [lowerR5900Instruction, named, register, decodeR5900_rt, ne_eq,
    not_true_eq_false, if_false]
  have source := isGpr_register (R5900Word.rt word)
  refine implements_single addF32 (.moveBitsToFcr31 source)
    ⟨rfl, decodeR5900_raw word⟩ fun state => ?_
  refine (executeInstruction_moveBitsToFcr31 source).trans ?_
  rw [gprValue_operand]
  rfl

theorem implements_addaS (encodes : StartupInstruction.addaS.Encodes word) :
    Implements addF32 (lowerR5900Instruction (decodeR5900 word) guestPc) guestPc word
      (StartupInstruction.addaS.effect addF32 word ·) := by
  have named := StartupInstruction.decodeR5900_of_encodes encodes
  simp only [StartupInstruction.name] at named
  simp only [lowerR5900Instruction, named, decodeR5900_rd, decodeR5900_rt]
  have left := isFpr_register (R5900Word.rd word)
  have right := isFpr_register (R5900Word.rt word)
  refine implements_single addF32 (.addF32Accumulator left right)
    ⟨rfl, decodeR5900_raw word⟩ fun state => ?_
  refine (executeInstruction_addF32Accumulator left right).trans ?_
  rw [fprValue_operand, fprValue_operand]
  rfl

/-- Every encoded instruction is lowered to IR that has its effect. -/
theorem implements_effect {instruction : StartupInstruction}
    (encodes : instruction.Encodes word) :
    Implements addF32 (lowerR5900Instruction (decodeR5900 word) guestPc) guestPc word
      (instruction.effect addF32 word ·) := by
  cases instruction with
  | nop => exact implements_nop addF32 guestPc encodes
  | sync => exact implements_sync addF32 guestPc encodes
  | addu => exact implements_addu addF32 guestPc encodes
  | mthi => exact implements_mthi addF32 guestPc encodes
  | mtlo => exact implements_mtlo addF32 guestPc encodes
  | mtsah => exact implements_mtsah addF32 guestPc encodes
  | addiu => exact implements_addiu addF32 guestPc encodes
  | andi => exact implements_andi addF32 guestPc encodes
  | ori => exact implements_ori addF32 guestPc encodes
  | lui => exact implements_lui addF32 guestPc encodes
  | mthi1 => exact implements_mthi1 addF32 guestPc encodes
  | mtlo1 => exact implements_mtlo1 addF32 guestPc encodes
  | padduw => exact implements_padduw addF32 guestPc encodes
  | mtc1 => exact implements_mtc1 addF32 guestPc encodes
  | ctc1 => exact implements_ctc1 addF32 guestPc encodes
  | addaS => exact implements_addaS addF32 guestPc encodes

end Instructions

end Execution

/-- Decoding, lowering and executing a word implements the startup instruction
set: it succeeds on exactly the encodings of the set, and there it has exactly
the architectural effect. -/
theorem lowerR5900Instruction_implements_startup
    (addF32 : BitVec 32 → BitVec 32 → BitVec 32) (word guestPc : BitVec 32) :
    ((lowerR5900Instruction (decodeR5900 word) guestPc).ok = true ↔
        ∃ instruction : StartupInstruction, instruction.Encodes word) ∧
      ((lowerR5900Instruction (decodeR5900 word) guestPc).ok = false →
        (lowerR5900Instruction (decodeR5900 word) guestPc).error =
            .unsupportedInstruction ∧
          (lowerR5900Instruction (decodeR5900 word) guestPc).instructions = []) ∧
      ∀ instruction : StartupInstruction, instruction.Encodes word →
        (∀ ir ∈ (lowerR5900Instruction (decodeR5900 word) guestPc).instructions,
          (∀ index, validateR5900IrInstruction ir index = .ok ()) ∧
            ir.guestPc = guestPc ∧ ir.guestRaw = word) ∧
        ∀ state : R5900IrExecutionState,
          executeR5900Ir addF32
              (lowerR5900Instruction (decodeR5900 word) guestPc).instructions state =
            (.ok (), instruction.effect addF32 word state.normalizeZero) := by
  have rejected : (∀ instruction : StartupInstruction, ¬instruction.Encodes word) →
      (lowerR5900Instruction (decodeR5900 word) guestPc).error =
          .unsupportedInstruction ∧
        (lowerR5900Instruction (decodeR5900 word) guestPc).instructions = [] :=
    fun outside => lowerR5900Instruction_unsupported (not_encodes_iff.mp outside)
  have accepted : ∀ instruction : StartupInstruction, instruction.Encodes word →
      (lowerR5900Instruction (decodeR5900 word) guestPc).ok = true :=
    fun _ encodes => (implements_effect addF32 guestPc encodes).succeeds
  refine ⟨⟨fun succeeds => ?_, fun ⟨_, encodes⟩ => accepted _ encodes⟩,
    fun fails => ?_, fun instruction encodes => ?_⟩
  · by_contra outside
    rw [R5900IrLoweringResult.ok, (rejected (not_exists.mp outside)).1] at succeeds
    exact absurd succeeds (by decide)
  · apply rejected
    intro instruction encodes
    rw [accepted instruction encodes] at fails
    exact absurd fails (by decide)
  · have implements := implements_effect addF32 guestPc encodes
    refine ⟨fun ir member => ⟨fun index => ?_, implements.origin ir member⟩,
      implements.executes⟩
    exact validateR5900IrInstruction_eq_ok_iff.mpr (implements.wellFormed ir member)

end Burnout3Recompiled
