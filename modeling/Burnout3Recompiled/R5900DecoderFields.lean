import Burnout3Recompiled.R5900Ir

/-!
# What the decoder keeps and where it finds instructions

Naming an instruction never changes the bit fields cut out of the word.  The
tables below read the nested decoding backwards: from the name the decoder gave
to the fields it looked at.
-/

namespace Burnout3Recompiled

/-- Two decodings of one word, up to the name and its attributes. -/
structure SameFields (first second : R5900DecodedInstruction) : Prop where
  raw : first.raw = second.raw
  primaryOpcode : first.primaryOpcode = second.primaryOpcode
  rs : first.rs = second.rs
  rt : first.rt = second.rt
  rd : first.rd = second.rd
  sa : first.sa = second.sa
  funct : first.funct = second.funct
  immediate : first.immediate = second.immediate
  target : first.target = second.target

section Naming

variable (decoded : R5900DecodedInstruction) (instruction : R5900Instruction)

theorem sameFields_self : SameFields decoded decoded :=
  ⟨rfl, rfl, rfl, rfl, rfl, rfl, rfl, rfl, rfl⟩

theorem sameFields_setInstruction (instructionClass : R5900InstructionClass)
    (width : R5900MemoryWidth) :
    SameFields (setInstruction decoded instruction instructionClass width) decoded :=
  ⟨rfl, rfl, rfl, rfl, rfl, rfl, rfl, rfl, rfl⟩

theorem sameFields_markBranch (likely link : Bool) :
    SameFields (markBranch decoded instruction likely link) decoded :=
  ⟨rfl, rfl, rfl, rfl, rfl, rfl, rfl, rfl, rfl⟩

theorem sameFields_markJump (link : Bool) :
    SameFields (markJump decoded instruction link) decoded :=
  ⟨rfl, rfl, rfl, rfl, rfl, rfl, rfl, rfl, rfl⟩

@[simp]
theorem setInstruction_instruction (instructionClass : R5900InstructionClass)
    (width : R5900MemoryWidth) :
    (setInstruction decoded instruction instructionClass width).instruction =
      instruction := rfl

@[simp]
theorem setInstruction_class (instructionClass : R5900InstructionClass)
    (width : R5900MemoryWidth) :
    (setInstruction decoded instruction instructionClass width).instructionClass =
      instructionClass := rfl

@[simp]
theorem markBranch_instruction (likely link : Bool) :
    (markBranch decoded instruction likely link).instruction = instruction := rfl

@[simp]
theorem markBranch_class (likely link : Bool) :
    (markBranch decoded instruction likely link).instructionClass = .branch := rfl

@[simp]
theorem markJump_instruction (link : Bool) :
    (markJump decoded instruction link).instruction = instruction := rfl

@[simp]
theorem markJump_class (link : Bool) :
    (markJump decoded instruction link).instructionClass = .jump := rfl

end Naming

theorem sameFields_decodePrimary (decoded : R5900DecodedInstruction) :
    SameFields (decodePrimary decoded) decoded := by
  unfold decodePrimary
  split <;> first
    | exact sameFields_self _
    | exact sameFields_setInstruction ..
    | exact sameFields_markBranch ..
    | exact sameFields_markJump ..
    | skip
  case h_1 =>
    unfold decodeSpecial
    split
    · exact sameFields_setInstruction ..
    · split <;> first
        | exact sameFields_self _
        | exact sameFields_setInstruction ..
        | exact sameFields_markJump ..
  case h_2 =>
    unfold decodeRegimm
    split <;> first
      | exact sameFields_self _
      | exact sameFields_setInstruction ..
      | exact sameFields_markBranch ..
  case h_17 =>
    unfold decodeCop1
    split <;> first
      | exact sameFields_self _
      | exact sameFields_setInstruction ..
      | split <;> first
          | exact sameFields_self _
          | exact sameFields_setInstruction ..
  case h_26 =>
    unfold decodeMmi
    split <;> first
      | exact sameFields_self _
      | exact sameFields_setInstruction ..
      | split <;> first
          | exact sameFields_self _
          | exact sameFields_setInstruction ..

theorem sameFields_decodeR5900 (word : BitVec 32) :
    SameFields (decodeR5900 word) (r5900Fields word) :=
  sameFields_decodePrimary _

@[simp]
theorem decodeR5900_raw (word : BitVec 32) : (decodeR5900 word).raw = word :=
  (sameFields_decodeR5900 word).raw

/-- The fields that make the decoder name an instruction of the startup set. -/
def StartupFields (decoded : R5900DecodedInstruction) : R5900Instruction → Prop
  | .nop => decoded.primaryOpcode = 0x00 ∧ decoded.raw = 0
  | .sync =>
      decoded.primaryOpcode = 0x00 ∧ decoded.raw ≠ 0 ∧ decoded.funct = 0x0F
  | .mthi =>
      decoded.primaryOpcode = 0x00 ∧ decoded.raw ≠ 0 ∧ decoded.funct = 0x11
  | .mtlo =>
      decoded.primaryOpcode = 0x00 ∧ decoded.raw ≠ 0 ∧ decoded.funct = 0x13
  | .addu =>
      decoded.primaryOpcode = 0x00 ∧ decoded.raw ≠ 0 ∧ decoded.funct = 0x21
  | .mtsah => decoded.primaryOpcode = 0x01 ∧ decoded.rt = 0x19
  | .addiu => decoded.primaryOpcode = 0x09
  | .andi => decoded.primaryOpcode = 0x0C
  | .ori => decoded.primaryOpcode = 0x0D
  | .lui => decoded.primaryOpcode = 0x0F
  | .mtc1 => decoded.primaryOpcode = 0x11 ∧ decoded.rs = 0x04
  | .ctc1 => decoded.primaryOpcode = 0x11 ∧ decoded.rs = 0x06
  | .addaS =>
      decoded.primaryOpcode = 0x11 ∧ decoded.rs = 0x10 ∧ decoded.funct = 0x18
  | .mthi1 => decoded.primaryOpcode = 0x1C ∧ decoded.funct = 0x11
  | .mtlo1 => decoded.primaryOpcode = 0x1C ∧ decoded.funct = 0x13
  | .padduw =>
      decoded.primaryOpcode = 0x1C ∧ decoded.funct = 0x28 ∧ decoded.sa = 0x10
  | _ => False

/-- The instructions of the startup set. -/
def IsStartupInstruction : R5900Instruction → Prop
  | .nop | .sync | .mthi | .mtlo | .addu | .mtsah | .addiu | .andi | .ori | .lui
  | .mtc1 | .ctc1 | .addaS | .mthi1 | .mtlo1 | .padduw => True
  | _ => False

theorem startupFields_of_decodePrimary {decoded : R5900DecodedInstruction}
    (fresh : decoded.instruction = .unknown)
    (startup : IsStartupInstruction (decodePrimary decoded).instruction) :
    StartupFields decoded (decodePrimary decoded).instruction := by
  revert startup
  unfold decodePrimary
  split
  case h_1 =>
    unfold decodeSpecial
    split
    · simp_all [StartupFields]
    · split <;> simp_all [StartupFields, IsStartupInstruction]
  case h_2 =>
    unfold decodeRegimm
    split <;> simp_all [StartupFields, IsStartupInstruction]
  case h_17 =>
    unfold decodeCop1
    split
    · simp_all [StartupFields]
    · simp_all [StartupFields]
    · split <;> simp_all [StartupFields, IsStartupInstruction]
    · simp_all [IsStartupInstruction]
  case h_26 =>
    unfold decodeMmi
    split
    · simp_all [StartupFields]
    · simp_all [StartupFields]
    · split <;> simp_all [StartupFields, IsStartupInstruction]
    · simp_all [IsStartupInstruction]
  all_goals simp_all [StartupFields, IsStartupInstruction]

theorem decodePrimary_of_startupFields {decoded : R5900DecodedInstruction}
    {instruction : R5900Instruction} (fields : StartupFields decoded instruction) :
    (decodePrimary decoded).instruction = instruction := by
  cases instruction <;> first
    | exact absurd fields id
    | simp_all [StartupFields, decodePrimary, decodeSpecial, decodeRegimm, decodeCop1,
        decodeMmi]

/-- Reading the decoder backwards on the startup set. -/
theorem decodeR5900_startup_iff {word : BitVec 32} {instruction : R5900Instruction}
    (startup : IsStartupInstruction instruction) :
    (decodeR5900 word).instruction = instruction ↔
      StartupFields (r5900Fields word) instruction := by
  constructor
  · rintro rfl
    exact startupFields_of_decodePrimary rfl startup
  · exact decodePrimary_of_startupFields

/-- The class the tables of the decoder give to a name. -/
def r5900ClassOf : R5900Instruction → R5900InstructionClass
  | .unknown => .unknown
  | .jr | .jalr | .j | .jal => .jump
  | .syscall | .break => .system
  | .bltz | .bgez | .bltzl | .bgezl | .bltzal | .bgezal | .bltzall | .bgezall | .beq
  | .bne | .blez | .bgtz | .beql | .bnel | .blezl | .bgtzl => .branch
  | .ldl | .ldr | .lq | .lb | .lh | .lwl | .lw | .lbu | .lhu | .lwr | .lwu | .lwc1
  | .lqc2 | .ld => .load
  | .sq | .sb | .sh | .swl | .sw | .sdl | .sdr | .swr | .swc1 | .sqc2 | .sd => .store
  | _ => .alu

def Classified (decoded : R5900DecodedInstruction) : Prop :=
  decoded.instructionClass = r5900ClassOf decoded.instruction

theorem classified_decodePrimary {decoded : R5900DecodedInstruction}
    (fresh : Classified decoded) : Classified (decodePrimary decoded) := by
  unfold decodePrimary
  split <;> first
    | exact fresh
    | rfl
    | skip
  case h_1 =>
    unfold decodeSpecial
    split
    · rfl
    · split <;> first
        | exact fresh
        | rfl
  case h_2 =>
    unfold decodeRegimm
    split <;> first
      | exact fresh
      | rfl
  case h_17 =>
    unfold decodeCop1
    split <;> first
      | exact fresh
      | rfl
      | split <;> first
          | exact fresh
          | rfl
  case h_26 =>
    unfold decodeMmi
    split <;> first
      | exact fresh
      | rfl
      | split <;> first
          | exact fresh
          | rfl

/-- The name alone decides the class. -/
theorem decodeR5900_class (word : BitVec 32) :
    (decodeR5900 word).instructionClass = r5900ClassOf (decodeR5900 word).instruction :=
  classified_decodePrimary rfl

/-- The branches that skip their delay slot when they are not taken. -/
def isLikelyBranch : R5900Instruction → Bool
  | .bltzl | .bgezl | .bltzall | .bgezall | .beql | .bnel | .blezl | .bgtzl => true
  | _ => false

def LikelyNamed (decoded : R5900DecodedInstruction) : Prop :=
  decoded.likely = isLikelyBranch decoded.instruction

theorem likelyNamed_decodePrimary {decoded : R5900DecodedInstruction}
    (unnamed : decoded.instruction = .unknown) (unlikely : decoded.likely = false) :
    LikelyNamed (decodePrimary decoded) := by
  have fresh : LikelyNamed decoded := by
    rw [LikelyNamed, unnamed, unlikely]
    rfl
  unfold decodePrimary
  split <;> first
    | exact fresh
    | exact unlikely
    | rfl
    | skip
  case h_1 =>
    unfold decodeSpecial
    split
    · exact unlikely
    · split <;> first
        | exact fresh
        | exact unlikely
  case h_2 =>
    unfold decodeRegimm
    split <;> first
      | exact fresh
      | exact unlikely
      | rfl
  case h_17 =>
    unfold decodeCop1
    split <;> first
      | exact fresh
      | exact unlikely
      | split <;> first
          | exact fresh
          | exact unlikely
  case h_26 =>
    unfold decodeMmi
    split <;> first
      | exact fresh
      | exact unlikely
      | split <;> first
          | exact fresh
          | exact unlikely

/-- The name alone decides whether a branch is likely. -/
theorem decodeR5900_likely (word : BitVec 32) :
    (decodeR5900 word).likely = isLikelyBranch (decodeR5900 word).instruction :=
  likelyNamed_decodePrimary rfl rfl

end Burnout3Recompiled
