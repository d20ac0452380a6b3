import Burnout3Recompiled.BitPattern
import Burnout3Recompiled.R5900DecoderFields

/-!
# Instruction formats

The decoder looks at one field after the other.  Read as a table it says which bits of a
word are fixed by an instruction, and every other bit is free.  A word is decoded to an
instruction exactly when it has the bits of it, and filling these into any word makes an
encoding of the instruction.
-/

namespace Burnout3Recompiled

open BitPattern

/-- The fields of a word that an instruction fixes. -/
structure R5900Format where
  primaryOpcode : BitVec 6
  rs : Option (BitVec 5) := none
  rt : Option (BitVec 5) := none
  sa : Option (BitVec 5) := none
  funct : Option (BitVec 6) := none

/-- The no-operation is the one word that is left out of a format, and unknown words have
none. -/
def r5900Format : R5900Instruction → Option R5900Format
  | .unknown | .nop => none
  | .sll => some { primaryOpcode := 0x00, funct := some 0x00 }
  | .srl => some { primaryOpcode := 0x00, funct := some 0x02 }
  | .sra => some { primaryOpcode := 0x00, funct := some 0x03 }
  | .sllv => some { primaryOpcode := 0x00, funct := some 0x04 }
  | .srlv => some { primaryOpcode := 0x00, funct := some 0x06 }
  | .srav => some { primaryOpcode := 0x00, funct := some 0x07 }
  | .jr => some { primaryOpcode := 0x00, funct := some 0x08 }
  | .jalr => some { primaryOpcode := 0x00, funct := some 0x09 }
  | .syscall => some { primaryOpcode := 0x00, funct := some 0x0C }
  | .break => some { primaryOpcode := 0x00, funct := some 0x0D }
  | .sync => some { primaryOpcode := 0x00, funct := some 0x0F }
  | .mfhi => some { primaryOpcode := 0x00, funct := some 0x10 }
  | .mthi => some { primaryOpcode := 0x00, funct := some 0x11 }
  | .mflo => some { primaryOpcode := 0x00, funct := some 0x12 }
  | .mtlo => some { primaryOpcode := 0x00, funct := some 0x13 }
  | .mult => some { primaryOpcode := 0x00, funct := some 0x18 }
  | .multu => some { primaryOpcode := 0x00, funct := some 0x19 }
  | .div => some { primaryOpcode := 0x00, funct := some 0x1A }
  | .divu => some { primaryOpcode := 0x00, funct := some 0x1B }
  | .add => some { primaryOpcode := 0x00, funct := some 0x20 }
  | .addu => some { primaryOpcode := 0x00, funct := some 0x21 }
  | .sub => some { primaryOpcode := 0x00, funct := some 0x22 }
  | .subu => some { primaryOpcode := 0x00, funct := some 0x23 }
  | .and => some { primaryOpcode := 0x00, funct := some 0x24 }
  | .or => some { primaryOpcode := 0x00, funct := some 0x25 }
  | .xor => some { primaryOpcode := 0x00, funct := some 0x26 }
  | .nor => some { primaryOpcode := 0x00, funct := some 0x27 }
  | .slt => some { primaryOpcode := 0x00, funct := some 0x2A }
  | .sltu => some { primaryOpcode := 0x00, funct := some 0x2B }
  | .bltz => some { primaryOpcode := 0x01, rt := some 0x00 }
  | .bgez => some { primaryOpcode := 0x01, rt := some 0x01 }
  | .bltzl => some { primaryOpcode := 0x01, rt := some 0x02 }
  | .bgezl => some { primaryOpcode := 0x01, rt := some 0x03 }
  | .bltzal => some { primaryOpcode := 0x01, rt := some 0x10 }
  | .bgezal => some { primaryOpcode := 0x01, rt := some 0x11 }
  | .bltzall => some { primaryOpcode := 0x01, rt := some 0x12 }
  | .bgezall => some { primaryOpcode := 0x01, rt := some 0x13 }
  | .mtsah => some { primaryOpcode := 0x01, rt := some 0x19 }
  | .mtc1 => some { primaryOpcode := 0x11, rs := some 0x04 }
  | .ctc1 => some { primaryOpcode := 0x11, rs := some 0x06 }
  | .addaS => some { primaryOpcode := 0x11, rs := some 0x10, funct := some 0x18 }
  | .mthi1 => some { primaryOpcode := 0x1C, funct := some 0x11 }
  | .mtlo1 => some { primaryOpcode := 0x1C, funct := some 0x13 }
  | .padduw => some { primaryOpcode := 0x1C, sa := some 0x10, funct := some 0x28 }
  | .j => some { primaryOpcode := 0x02 }
  | .jal => some { primaryOpcode := 0x03 }
  | .beq => some { primaryOpcode := 0x04 }
  | .bne => some { primaryOpcode := 0x05 }
  | .blez => some { primaryOpcode := 0x06 }
  | .bgtz => some { primaryOpcode := 0x07 }
  | .addi => some { primaryOpcode := 0x08 }
  | .addiu => some { primaryOpcode := 0x09 }
  | .slti => some { primaryOpcode := 0x0A }
  | .sltiu => some { primaryOpcode := 0x0B }
  | .andi => some { primaryOpcode := 0x0C }
  | .ori => some { primaryOpcode := 0x0D }
  | .xori => some { primaryOpcode := 0x0E }
  | .lui => some { primaryOpcode := 0x0F }
  | .beql => some { primaryOpcode := 0x14 }
  | .bnel => some { primaryOpcode := 0x15 }
  | .blezl => some { primaryOpcode := 0x16 }
  | .bgtzl => some { primaryOpcode := 0x17 }
  | .daddi => some { primaryOpcode := 0x18 }
  | .daddiu => some { primaryOpcode := 0x19 }
  | .ldl => some { primaryOpcode := 0x1A }
  | .ldr => some { primaryOpcode := 0x1B }
  | .lq => some { primaryOpcode := 0x1E }
  | .sq => some { primaryOpcode := 0x1F }
  | .lb => some { primaryOpcode := 0x20 }
  | .lh => some { primaryOpcode := 0x21 }
  | .lwl => some { primaryOpcode := 0x22 }
  | .lw => some { primaryOpcode := 0x23 }
  | .lbu => some { primaryOpcode := 0x24 }
  | .lhu => some { primaryOpcode := 0x25 }
  | .lwr => some { primaryOpcode := 0x26 }
  | .lwu => some { primaryOpcode := 0x27 }
  | .sb => some { primaryOpcode := 0x28 }
  | .sh => some { primaryOpcode := 0x29 }
  | .swl => some { primaryOpcode := 0x2A }
  | .sw => some { primaryOpcode := 0x2B }
  | .sdl => some { primaryOpcode := 0x2C }
  | .sdr => some { primaryOpcode := 0x2D }
  | .swr => some { primaryOpcode := 0x2E }
  | .lwc1 => some { primaryOpcode := 0x31 }
  | .lqc2 => some { primaryOpcode := 0x36 }
  | .ld => some { primaryOpcode := 0x37 }
  | .swc1 => some { primaryOpcode := 0x39 }
  | .sqc2 => some { primaryOpcode := 0x3E }
  | .sd => some { primaryOpcode := 0x3F }

/-- What the decoder has cut out of a word, compared with a format. -/
def R5900Format.Holds (format : R5900Format) (decoded : R5900DecodedInstruction) : Prop :=
  decoded.primaryOpcode = format.primaryOpcode.setWidth 8 ∧
    (∀ rs ∈ format.rs, decoded.rs = rs.setWidth 8) ∧
    (∀ rt ∈ format.rt, decoded.rt = rt.setWidth 8) ∧
    (∀ sa ∈ format.sa, decoded.sa = sa.setWidth 8) ∧
    ∀ funct ∈ format.funct, decoded.funct = funct.setWidth 8

theorem holds_of_decodePrimary {decoded : R5900DecodedInstruction}
    (fresh : decoded.instruction = .unknown) :
    ∀ format ∈ r5900Format (decodePrimary decoded).instruction, format.Holds decoded := by
  unfold decodePrimary
  split
  case h_1 =>
    unfold decodeSpecial
    split
    · simp [r5900Format]
    · split <;> simp_all [r5900Format, R5900Format.Holds]
  case h_2 =>
    unfold decodeRegimm
    split <;> simp_all [r5900Format, R5900Format.Holds]
  case h_17 =>
    unfold decodeCop1
    split
    · simp_all [r5900Format, R5900Format.Holds]
    · simp_all [r5900Format, R5900Format.Holds]
    · split <;> simp_all [r5900Format, R5900Format.Holds]
    · simp_all [r5900Format]
  case h_26 =>
    unfold decodeMmi
    split
    · simp_all [r5900Format, R5900Format.Holds]
    · simp_all [r5900Format, R5900Format.Holds]
    · split <;> simp_all [r5900Format, R5900Format.Holds]
    · simp_all [r5900Format]
  all_goals simp_all [r5900Format, R5900Format.Holds]

theorem decodePrimary_of_holds {decoded : R5900DecodedInstruction}
    {instruction : R5900Instruction} {format : R5900Format}
    (listed : r5900Format instruction = some format) (filled : decoded.raw ≠ 0)
    (holds : format.Holds decoded) : (decodePrimary decoded).instruction = instruction := by
  cases instruction with
  | unknown | nop => cases listed
  | _ =>
      obtain rfl := Option.some.inj listed
      simp_all [R5900Format.Holds, decodePrimary, decodeSpecial, decodeRegimm, decodeCop1,
        decodeMmi]

def r5900MemoryWidthOf : R5900Instruction → R5900MemoryWidth
  | .lb | .lbu | .sb => .byte
  | .lh | .lhu | .sh => .halfword
  | .lwl | .lw | .lwr | .lwu | .swl | .sw | .swr | .lwc1 | .swc1 => .word
  | .ldl | .ldr | .sdl | .sdr | .ld | .sd => .doubleword64
  | .lq | .sq | .lqc2 | .sqc2 => .quadword128
  | _ => .none

def isLink : R5900Instruction → Bool
  | .jal | .jalr | .bltzal | .bgezal | .bltzall | .bgezall => true
  | _ => false

def hasDelaySlotOf (instruction : R5900Instruction) : Bool :=
  r5900ClassOf instruction = .branch ∨ r5900ClassOf instruction = .jump

/-- The fields of a word under the name of an instruction, with what the name says. -/
def r5900Named (word : BitVec 32) (instruction : R5900Instruction) :
    R5900DecodedInstruction :=
  { r5900Fields word with
    instruction := instruction
    instructionClass := r5900ClassOf instruction
    memoryWidth := r5900MemoryWidthOf instruction
    hasDelaySlot := hasDelaySlotOf instruction
    link := isLink instruction
    likely := isLikelyBranch instruction }

/-- The name alone decides everything but the fields. -/
theorem decodeR5900_eq_named (word : BitVec 32) :
    decodeR5900 word = r5900Named word (decodeR5900 word).instruction := by
  unfold decodeR5900 decodePrimary
  split
  case h_1 =>
    unfold decodeSpecial
    split
    · rfl
    · split <;> rfl
  case h_2 =>
    unfold decodeRegimm
    split <;> rfl
  case h_17 =>
    unfold decodeCop1
    split
    · rfl
    · rfl
    · split <;> rfl
    · rfl
  case h_26 =>
    unfold decodeMmi
    split
    · rfl
    · rfl
    · split <;> rfl
    · rfl
  all_goals rfl

def fixedField {size : Nat} (value : BitVec size) (shift : Nat) : BitPattern 32 :=
  field ((BitVec.allOnes size).setWidth 32) (value.setWidth 32) shift (by
    apply BitVec.eq_of_getLsbD_eq
    intro index bound
    simp only [BitVec.getLsbD_and, BitVec.getLsbD_setWidth, BitVec.getLsbD_allOnes]
    by_cases inside : index < size
    · simp [bound, inside]
    · simp [BitVec.getLsbD_of_ge value index (not_lt.mp inside)])

def optionalField {size : Nat} (value : Option (BitVec size)) (shift : Nat) : BitPattern 32 :=
  match value with
  | some value => fixedField value shift
  | none => ⟨0, 0, rfl⟩

def R5900Format.pattern (format : R5900Format) : BitPattern 32 :=
  both (fixedField format.primaryOpcode 26) (both (optionalField format.rs 21)
    (both (optionalField format.rt 16) (both (optionalField format.sa 6)
      (optionalField format.funct 0))))

/-- The bytes the decoder keeps of a field have lost none of its bits. -/
theorem setWidth_field_eq_iff {size : Nat} (small : size ≤ 8) (bits : BitVec 32)
    (value : BitVec size) :
    (bits &&& (BitVec.allOnes size).setWidth 32).setWidth 8 = value.setWidth 8 ↔
      bits &&& (BitVec.allOnes size).setWidth 32 = value.setWidth 32 := by
  constructor
  · intro same
    apply BitVec.eq_of_getLsbD_eq
    intro index bound
    have bit := congrArg (·.getLsbD index) same
    simp only [BitVec.getLsbD_and, BitVec.getLsbD_setWidth, BitVec.getLsbD_allOnes] at bit ⊢
    by_cases inside : index < size
    · simpa [inside, bound, show index < 8 by omega] using bit
    · simp [inside, BitVec.getLsbD_of_ge value index (not_lt.mp inside)]
  · intro same
    rw [same, BitVec.setWidth_setWidth_of_le]
    decide

theorem matches_fixedField {size shift : Nat} {value : BitVec size} {word : BitVec 32}
    (small : size ≤ 8)
    (fits : ((BitVec.allOnes size).setWidth 32 : BitVec 32) <<< shift >>> shift =
      (BitVec.allOnes size).setWidth 32) :
    (fixedField value shift).Matches word ↔
      (word >>> shift &&& (BitVec.allOnes size).setWidth 32).setWidth 8 = value.setWidth 8 := by
  rw [fixedField, matches_field fits, setWidth_field_eq_iff small]

theorem matches_optionalField {size shift : Nat} {value : Option (BitVec size)}
    {word : BitVec 32} (small : size ≤ 8)
    (fits : ((BitVec.allOnes size).setWidth 32 : BitVec 32) <<< shift >>> shift =
      (BitVec.allOnes size).setWidth 32) :
    (optionalField value shift).Matches word ↔ ∀ fixed ∈ value,
      (word >>> shift &&& (BitVec.allOnes size).setWidth 32).setWidth 8 = fixed.setWidth 8 := by
  cases value with
  | none => simp [optionalField, Matches]
  | some value =>
      rw [optionalField, matches_fixedField small fits]
      simp

/-- The bits of a format stand in a word exactly when the decoder cuts its fields out. -/
theorem R5900Format.matches_pattern (format : R5900Format) (word : BitVec 32) :
    format.pattern.Matches word ↔ format.Holds (r5900Fields word) := by
  have fields : format.pattern.Matches word ↔
      (fixedField format.primaryOpcode 26).Matches word ∧
      (optionalField format.rs 21).Matches word ∧
      (optionalField format.rt 16).Matches word ∧
      (optionalField format.sa 6).Matches word ∧
      (optionalField format.funct 0).Matches word := by
    obtain ⟨primaryOpcode, rs, rt, sa, funct⟩ := format
    rw [R5900Format.pattern]
    rw [matches_both, matches_both, matches_both, matches_both]
    all_goals
      cases rs <;> cases rt <;> cases sa <;> cases funct <;>
        simp +decide [both, optionalField, fixedField, field]
  rw [fields, matches_fixedField (by decide) (by decide),
    matches_optionalField (by decide) (by decide), matches_optionalField (by decide) (by decide),
    matches_optionalField (by decide) (by decide),
    matches_optionalField (by decide) (by decide)]
  rfl

/-- Words and instructions belong together. -/
structure DecodesFormat (instruction : R5900Instruction) (format : R5900Format) : Prop where
  decodes : ∀ word, (decodeR5900 word).instruction = instruction ↔
    word ≠ 0 ∧ format.pattern.Matches word
  fills : ∀ operands, format.pattern.fill operands ≠ 0 →
    decodeR5900 (format.pattern.fill operands) =
        r5900Named (format.pattern.fill operands) instruction ∧
      format.pattern.fill operands &&& ~~~format.pattern.mask =
        operands &&& ~~~format.pattern.mask
  keeps : ∀ word, (decodeR5900 word).instruction = instruction →
    format.pattern.fill word = word

theorem decodeR5900_zero : (decodeR5900 0).instruction = .nop :=
  rfl

theorem decodeR5900_eq_iff {instruction : R5900Instruction} {format : R5900Format}
    (listed : r5900Format instruction = some format) (word : BitVec 32) :
    (decodeR5900 word).instruction = instruction ↔
      word ≠ 0 ∧ format.pattern.Matches word := by
  rw [format.matches_pattern]
  constructor
  · rintro rfl
    refine ⟨?_, holds_of_decodePrimary rfl format listed⟩
    rintro rfl
    rw [decodeR5900_zero] at listed
    cases listed
  · rintro ⟨filled, holds⟩
    exact decodePrimary_of_holds listed filled holds

theorem decodesFormat {instruction : R5900Instruction} {format : R5900Format}
    (listed : r5900Format instruction = some format) : DecodesFormat instruction format where
  decodes := decodeR5900_eq_iff listed
  fills := by
    intro operands filled
    have named := (decodeR5900_eq_iff listed _).mpr ⟨filled, matches_fill _ operands⟩
    refine ⟨?_, fill_and_not_mask _ operands⟩
    rw [decodeR5900_eq_named, named]
  keeps := fun word named => ((decodeR5900_eq_iff listed word).mp named).2.fill_eq

theorem exists_format {instruction : R5900Instruction} (named : instruction ≠ .unknown)
    (filled : instruction ≠ .nop) : ∃ format, r5900Format instruction = some format := by
  cases instruction with
  | unknown => exact absurd rfl named
  | nop => exact absurd rfl filled
  | _ => exact ⟨_, rfl⟩

theorem decodeR5900_eq_nop_iff (word : BitVec 32) :
    (decodeR5900 word).instruction = .nop ↔ word = 0 := by
  rw [@decodeR5900_startup_iff word .nop trivial]
  constructor
  · exact fun fields => fields.2
  · rintro rfl
    exact ⟨rfl, rfl⟩

theorem decodeR5900_eq_unknown_iff (word : BitVec 32) :
    (decodeR5900 word).instruction = .unknown ↔
      word ≠ 0 ∧ ∀ instruction, ∀ format ∈ r5900Format instruction,
        ¬format.pattern.Matches word := by
  constructor
  · intro unknown
    have filled : word ≠ 0 := by
      rintro rfl
      cases decodeR5900_zero.symm.trans unknown
    refine ⟨filled, fun instruction format listed matched => ?_⟩
    have named := (decodeR5900_eq_iff listed word).mpr ⟨filled, matched⟩
    obtain rfl := named.symm.trans unknown
    cases listed
  · rintro ⟨filled, unmatched⟩
    by_contra named
    obtain ⟨format, listed⟩ := exists_format named
      ((decodeR5900_eq_nop_iff word).not.mpr filled)
    exact unmatched _ format listed ((decodeR5900_eq_iff listed word).mp rfl).2

/-- No format fixes the register in the middle of a word. -/
theorem R5900Format.fill_allOnes_ne_zero (format : R5900Format) :
    format.pattern.fill (BitVec.allOnes 32) ≠ 0 := by
  have free : format.pattern.mask[11] = false := by
    obtain ⟨primaryOpcode, rs, rt, sa, funct⟩ := format
    cases rs <;> cases rt <;> cases sa <;> cases funct <;>
      simp +decide [R5900Format.pattern, both, optionalField, fixedField, field]
  intro zero
  have bit := congrArg (·[11]) zero
  simp [fill, free] at bit

/-- The decoder is its table of formats: every word is decoded to the one instruction whose
fixed bits it has, every way to fill in the fixed bits of an instruction is decoded to it
again, and no instruction is hidden by another one. -/
theorem decodeR5900_readsFormats :
    (∀ instruction format, r5900Format instruction = some format →
      DecodesFormat instruction format) ∧
    (∀ word, (decodeR5900 word).instruction = .nop ↔ word = 0) ∧
    (∀ word, (decodeR5900 word).instruction = .unknown ↔
      word ≠ 0 ∧ ∀ instruction, ∀ format ∈ r5900Format instruction,
        ¬format.pattern.Matches word) ∧
    (∀ word, decodeR5900 word = r5900Named word (decodeR5900 word).instruction) ∧
    ∀ instruction, instruction ≠ .unknown →
      ∃ word, (decodeR5900 word).instruction = instruction := by
  refine ⟨fun instruction format listed => decodesFormat listed, decodeR5900_eq_nop_iff,
    decodeR5900_eq_unknown_iff, decodeR5900_eq_named, fun instruction named => ?_⟩
  by_cases filled : instruction = .nop
  · exact ⟨0, filled ▸ decodeR5900_zero⟩
  · obtain ⟨format, listed⟩ := exists_format named filled
    exact ⟨_, (decodeR5900_eq_iff listed _).mpr
      ⟨format.fill_allOnes_ne_zero, matches_fill _ _⟩⟩

end Burnout3Recompiled
