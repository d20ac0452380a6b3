import Mathlib.Data.BitVec

/-!
# The R5900 instruction decoder

A guest word is cut into the fixed MIPS bit fields and classified by a nest of
opcode tables.  Every table entry names an instruction, its class, the memory
width of loads and stores, and the delay-slot flags of control transfers.
-/

namespace Burnout3Recompiled

inductive R5900Instruction where
  | unknown | nop | sll | srl | sra | sllv | srlv | srav | jr | jalr | syscall | break
  | sync | mfhi | mthi | mflo | mtlo | mthi1 | mtlo1 | mtsah | mult | multu | div | divu
  | add | addu | sub | subu | and | or | xor | nor | slt | sltu | padduw | mtc1 | ctc1
  | addaS | bltz | bgez | bltzl | bgezl | bltzal | bgezal | bltzall | bgezall | j | jal
  | beq | bne | blez | bgtz | addi | addiu | slti | sltiu | andi | ori | xori | lui
  | beql | bnel | blezl | bgtzl | daddi | daddiu | ldl | ldr | lq | sq | lb | lh | lwl
  | lw | lbu | lhu | lwr | lwu | sb | sh | swl | sw | sdl | sdr | swr | lwc1 | lqc2 | ld
  | swc1 | sqc2 | sd
  deriving DecidableEq, Repr

inductive R5900InstructionClass where
  | unknown | alu | branch | jump | load | store | system
  deriving DecidableEq, Repr

inductive R5900MemoryWidth where
  | none | byte | halfword | word | doubleword64 | quadword128
  deriving DecidableEq, Repr

structure R5900DecodedInstruction where
  raw : BitVec 32 := 0
  instruction : R5900Instruction := .unknown
  instructionClass : R5900InstructionClass := .unknown
  memoryWidth : R5900MemoryWidth := .none
  primaryOpcode : BitVec 8 := 0
  rs : BitVec 8 := 0
  rt : BitVec 8 := 0
  rd : BitVec 8 := 0
  sa : BitVec 8 := 0
  funct : BitVec 8 := 0
  immediate : BitVec 16 := 0
  target : BitVec 32 := 0
  hasDelaySlot : Bool := false
  link : Bool := false
  likely : Bool := false
  deriving DecidableEq, Repr

namespace R5900DecodedInstruction

/-- `static_cast<std::int16_t>(immediate)`, widened to the 32-bit result. -/
def signedImmediate (decoded : R5900DecodedInstruction) : BitVec 32 :=
  decoded.immediate.signExtend 32

def isBranch (decoded : R5900DecodedInstruction) : Bool :=
  decoded.instructionClass = .branch

def isJump (decoded : R5900DecodedInstruction) : Bool :=
  decoded.instructionClass = .jump

/-- The statically known destination of a control transfer at `pc`; register
jumps have none. -/
def directTarget (decoded : R5900DecodedInstruction) (pc : BitVec 32) :
    Option (BitVec 32) :=
  if decoded.isBranch then
    some (pc + 4 + decoded.signedImmediate * 4)
  else if decoded.instruction = .j ∨ decoded.instruction = .jal then
    some (((pc + 4) &&& 0xF0000000) ||| ((decoded.target &&& 0x03FFFFFF) <<< 2))
  else
    none

end R5900DecodedInstruction

def setInstruction (decoded : R5900DecodedInstruction)
    (instruction : R5900Instruction) (instructionClass : R5900InstructionClass)
    (memoryWidth : R5900MemoryWidth := .none) : R5900DecodedInstruction :=
  { decoded with
    instruction := instruction
    instructionClass := instructionClass
    memoryWidth := memoryWidth }

def markBranch (decoded : R5900DecodedInstruction)
    (instruction : R5900Instruction) (likely : Bool := false)
    (link : Bool := false) : R5900DecodedInstruction :=
  { setInstruction decoded instruction .branch with
    hasDelaySlot := true
    likely := likely
    link := link }

def markJump (decoded : R5900DecodedInstruction)
    (instruction : R5900Instruction) (link : Bool := false) :
    R5900DecodedInstruction :=
  { setInstruction decoded instruction .jump with
    hasDelaySlot := true
    link := link }

def decodeSpecial (decoded : R5900DecodedInstruction) : R5900DecodedInstruction :=
  if decoded.raw = 0 then
    setInstruction decoded .nop .alu
  else
    match decoded.funct with
    | 0x00 => setInstruction decoded .sll .alu
    | 0x02 => setInstruction decoded .srl .alu
    | 0x03 => setInstruction decoded .sra .alu
    | 0x04 => setInstruction decoded .sllv .alu
    | 0x06 => setInstruction decoded .srlv .alu
    | 0x07 => setInstruction decoded .srav .alu
    | 0x08 => markJump decoded .jr
    | 0x09 => markJump decoded .jalr true
    | 0x0C => setInstruction decoded .syscall .system
    | 0x0D => setInstruction decoded .break .system
    | 0x0F => setInstruction decoded .sync .alu
    | 0x10 => setInstruction decoded .mfhi .alu
    | 0x11 => setInstruction decoded .mthi .alu
    | 0x12 => setInstruction decoded .mflo .alu
    | 0x13 => setInstruction decoded .mtlo .alu
    | 0x18 => setInstruction decoded .mult .alu
    | 0x19 => setInstruction decoded .multu .alu
    | 0x1A => setInstruction decoded .div .alu
    | 0x1B => setInstruction decoded .divu .alu
    | 0x20 => setInstruction decoded .add .alu
    | 0x21 => setInstruction decoded .addu .alu
    | 0x22 => setInstruction decoded .sub .alu
    | 0x23 => setInstruction decoded .subu .alu
    | 0x24 => setInstruction decoded .and .alu
    | 0x25 => setInstruction decoded .or .alu
    | 0x26 => setInstruction decoded .xor .alu
    | 0x27 => setInstruction decoded .nor .alu
    | 0x2A => setInstruction decoded .slt .alu
    | 0x2B => setInstruction decoded .sltu .alu
    | _ => decoded

def decodeRegimm (decoded : R5900DecodedInstruction) : R5900DecodedInstruction :=
  match decoded.rt with
  | 0x00 => markBranch decoded .bltz
  | 0x01 => markBranch decoded .bgez
  | 0x02 => markBranch decoded .bltzl true
  | 0x03 => markBranch decoded .bgezl true
  | 0x10 => markBranch decoded .bltzal false true
  | 0x11 => markBranch decoded .bgezal false true
  | 0x12 => markBranch decoded .bltzall true true
  | 0x13 => markBranch decoded .bgezall true true
  | 0x19 => setInstruction decoded .mtsah .alu
  | _ => decoded

def decodeCop1 (decoded : R5900DecodedInstruction) : R5900DecodedInstruction :=
  match decoded.rs with
  | 0x04 => setInstruction decoded .mtc1 .alu
  | 0x06 => setInstruction decoded .ctc1 .alu
  | 0x10 => if decoded.funct = 0x18 then setInstruction decoded .addaS .alu else decoded
  | _ => decoded

def decodeMmi (decoded : R5900DecodedInstruction) : R5900DecodedInstruction :=
  match decoded.funct with
  | 0x11 => setInstruction decoded .mthi1 .alu
  | 0x13 => setInstruction decoded .mtlo1 .alu
  | 0x28 => if decoded.sa = 0x10 then setInstruction decoded .padduw .alu else decoded
  | _ => decoded

/-- The bit fields every format shares, cut before the instruction is known. -/
def r5900Fields (word : BitVec 32) : R5900DecodedInstruction where
  raw := word
  primaryOpcode := ((word >>> 26) &&& 0x3F).setWidth 8
  rs := ((word >>> 21) &&& 0x1F).setWidth 8
  rt := ((word >>> 16) &&& 0x1F).setWidth 8
  rd := ((word >>> 11) &&& 0x1F).setWidth 8
  sa := ((word >>> 6) &&& 0x1F).setWidth 8
  funct := (word &&& 0x3F).setWidth 8
  immediate := (word &&& 0xFFFF).setWidth 16
  target := word &&& 0x03FFFFFF

def decodePrimary (decoded : R5900DecodedInstruction) : R5900DecodedInstruction :=
  match decoded.primaryOpcode with
  | 0x00 => decodeSpecial decoded
  | 0x01 => decodeRegimm decoded
  | 0x02 => markJump decoded .j
  | 0x03 => markJump decoded .jal true
  | 0x04 => markBranch decoded .beq
  | 0x05 => markBranch decoded .bne
  | 0x06 => markBranch decoded .blez
  | 0x07 => markBranch decoded .bgtz
  | 0x08 => setInstruction decoded .addi .alu
  | 0x09 => setInstruction decoded .addiu .alu
  | 0x0A => setInstruction decoded .slti .alu
  | 0x0B => setInstruction decoded .sltiu .alu
  | 0x0C => setInstruction decoded .andi .alu
  | 0x0D => setInstruction decoded .ori .alu
  | 0x0E => setInstruction decoded .xori .alu
  | 0x0F => setInstruction decoded .lui .alu
  | 0x11 => decodeCop1 decoded
  | 0x14 => markBranch decoded .beql true
  | 0x15 => markBranch decoded .bnel true
  | 0x16 => markBranch decoded .blezl true
  | 0x17 => markBranch decoded .bgtzl true
  | 0x18 => setInstruction decoded .daddi .alu
  | 0x19 => setInstruction decoded .daddiu .alu
  | 0x1A => setInstruction decoded .ldl .load .doubleword64
  | 0x1B => setInstruction decoded .ldr .load .doubleword64
  | 0x1C => decodeMmi decoded
  | 0x1E => setInstruction decoded .lq .load .quadword128
  | 0x1F => setInstruction decoded .sq .store .quadword128
  | 0x20 => setInstruction decoded .lb .load .byte
  | 0x21 => setInstruction decoded .lh .load .halfword
  | 0x22 => setInstruction decoded .lwl .load .word
  | 0x23 => setInstruction decoded .lw .load .word
  | 0x24 => setInstruction decoded .lbu .load .byte
  | 0x25 => setInstruction decoded .lhu .load .halfword
  | 0x26 => setInstruction decoded .lwr .load .word
  | 0x27 => setInstruction decoded .lwu .load .word
  | 0x28 => setInstruction decoded .sb .store .byte
  | 0x29 => setInstruction decoded .sh .store .halfword
  | 0x2A => setInstruction decoded .swl .store .word
  | 0x2B => setInstruction decoded .sw .store .word
  | 0x2C => setInstruction decoded .sdl .store .doubleword64
  | 0x2D => setInstruction decoded .sdr .store .doubleword64
  | 0x2E => setInstruction decoded .swr .store .word
  | 0x31 => setInstruction decoded .lwc1 .load .word
  | 0x36 => setInstruction decoded .lqc2 .load .quadword128
  | 0x37 => setInstruction decoded .ld .load .doubleword64
  | 0x39 => setInstruction decoded .swc1 .store .word
  | 0x3E => setInstruction decoded .sqc2 .store .quadword128
  | 0x3F => setInstruction decoded .sd .store .doubleword64
  | _ => decoded

def decodeR5900 (word : BitVec 32) : R5900DecodedInstruction :=
  decodePrimary (r5900Fields word)

def r5900InstructionName : R5900Instruction → String
  | .unknown => "UNKNOWN"
  | .nop => "NOP"
  | .sll => "SLL"
  | .srl => "SRL"
  | .sra => "SRA"
  | .sllv => "SLLV"
  | .srlv => "SRLV"
  | .srav => "SRAV"
  | .jr => "JR"
  | .jalr => "JALR"
  | .syscall => "SYSCALL"
  | .break => "BREAK"
  | .sync => "SYNC"
  | .mfhi => "MFHI"
  | .mthi => "MTHI"
  | .mflo => "MFLO"
  | .mtlo => "MTLO"
  | .mthi1 => "MTHI1"
  | .mtlo1 => "MTLO1"
  | .mtsah => "MTSAH"
  | .mult => "MULT"
  | .multu => "MULTU"
  | .div => "DIV"
  | .divu => "DIVU"
  | .add => "ADD"
  | .addu => "ADDU"
  | .sub => "SUB"
  | .subu => "SUBU"
  | .and => "AND"
  | .or => "OR"
  | .xor => "XOR"
  | .nor => "NOR"
  | .slt => "SLT"
  | .sltu => "SLTU"
  | .padduw => "PADDUW"
  | .mtc1 => "MTC1"
  | .ctc1 => "CTC1"
  | .addaS => "ADDA.S"
  | .bltz => "BLTZ"
  | .bgez => "BGEZ"
  | .bltzl => "BLTZL"
  | .bgezl => "BGEZL"
  | .bltzal => "BLTZAL"
  | .bgezal => "BGEZAL"
  | .bltzall => "BLTZALL"
  | .bgezall => "BGEZALL"
  | .j => "J"
  | .jal => "JAL"
  | .beq => "BEQ"
  | .bne => "BNE"
  | .blez => "BLEZ"
  | .bgtz => "BGTZ"
  | .addi => "ADDI"
  | .addiu => "ADDIU"
  | .slti => "SLTI"
  | .sltiu => "SLTIU"
  | .andi => "ANDI"
  | .ori => "ORI"
  | .xori => "XORI"
  | .lui => "LUI"
  | .beql => "BEQL"
  | .bnel => "BNEL"
  | .blezl => "BLEZL"
  | .bgtzl => "BGTZL"
  | .daddi => "DADDI"
  | .daddiu => "DADDIU"
  | .ldl => "LDL"
  | .ldr => "LDR"
  | .lq => "LQ"
  | .sq => "SQ"
  | .lb => "LB"
  | .lh => "LH"
  | .lwl => "LWL"
  | .lw => "LW"
  | .lbu => "LBU"
  | .lhu => "LHU"
  | .lwr => "LWR"
  | .lwu => "LWU"
  | .sb => "SB"
  | .sh => "SH"
  | .swl => "SWL"
  | .sw => "SW"
  | .sdl => "SDL"
  | .sdr => "SDR"
  | .swr => "SWR"
  | .lwc1 => "LWC1"
  | .lqc2 => "LQC2"
  | .ld => "LD"
  | .swc1 => "SWC1"
  | .sqc2 => "SQC2"
  | .sd => "SD"

end Burnout3Recompiled
