import Burnout3Recompiled.LittleEndianMemory

/-!
# A fragment of the x86-64 instruction set

The machine has the sixteen general and the sixteen vector registers, the carry
flag and byte memory.  No other flag is modelled: no instruction of the fragment
reads one.  The decoder follows the Intel encodings (an optional mandatory
prefix, an optional REX prefix, the opcode, ModRM, displacement and immediate)
and rejects every byte sequence outside the fragment, in particular SIB and
RIP-relative addressing.

Code is fetched from a read-only buffer of its own, so stores never change it.
-/

namespace Burnout3Recompiled.X64

open LittleEndianMemory (load store ofBytes bytesOf)

abbrev RegisterIndex := BitVec 4

def rax : RegisterIndex := 0
def rcx : RegisterIndex := 1
def rdx : RegisterIndex := 2
def xmm0 : RegisterIndex := 0
def xmm1 : RegisterIndex := 1

structure Machine where
  gpr : RegisterIndex → BitVec 64
  xmm : RegisterIndex → BitVec 128
  carry : Bool
  memory : LittleEndianMemory 64

/-- A ModRM operand.  Which register file a register names is up to the
instruction. -/
inductive RegisterOrMemory where
  | register (index : RegisterIndex)
  | memory (base : RegisterIndex) (displacement : BitVec 64)
  deriving DecidableEq, Repr

inductive AluOperation where
  | add | or | sbb | and | xor
  deriving DecidableEq, Repr

/-- `bits` is the operand size of the integer instructions, 32 or 64. -/
inductive Instruction where
  | alu (operation : AluOperation) (bits : Nat) (destination : RegisterOrMemory)
      (source : RegisterIndex)
  | aluImmediate (operation : AluOperation) (bits : Nat)
      (destination : RegisterOrMemory) (immediate : BitVec 8)
  | shiftLeftOne (bits : Nat) (destination : RegisterOrMemory)
  | moveToRm (bits : Nat) (destination : RegisterOrMemory) (source : RegisterIndex)
  | moveFromRm (bits : Nat) (destination : RegisterIndex) (source : RegisterOrMemory)
  | moveImmediate32 (destination : RegisterIndex) (immediate : BitVec 32)
  | moveImmediate64 (destination : RegisterIndex) (immediate : BitVec 64)
  | cdqe
  | movd (destination : RegisterOrMemory) (source : RegisterIndex)
  | movdqu (destination : RegisterIndex) (source : RegisterOrMemory)
  | psrldq (destination : RegisterIndex) (count : BitVec 8)
  | movssLoad (destination : RegisterIndex) (source : RegisterOrMemory)
  | movssStore (destination : RegisterOrMemory) (source : RegisterIndex)
  | addss (destination : RegisterIndex) (source : RegisterOrMemory)
  | ret
  deriving DecidableEq, Repr

/-- The four low bits of a REX prefix. -/
structure Rex where
  w : Bool := false
  r : Bool := false
  x : Bool := false
  b : Bool := false
  deriving DecidableEq, Repr

def Rex.ofByte (byte : BitVec 8) : Rex where
  w := byte.getLsbD 3
  r := byte.getLsbD 2
  x := byte.getLsbD 1
  b := byte.getLsbD 0

def isRex (byte : BitVec 8) : Bool :=
  byte.extractLsb' 4 4 = 4

/-- The operand size REX.W selects. -/
def Rex.bits (rex : Rex) : Nat :=
  if rex.w then 64 else 32

/-- Extend a three-bit register field by its REX bit. -/
def extendRegister (extension : Bool) (field : BitVec 3) : RegisterIndex :=
  BitVec.ofBool extension ++ field

def immediate8 : List (BitVec 8) → Option (BitVec 8)
  | byte :: _ => some byte
  | [] => none

def immediate32 : List (BitVec 8) → Option (BitVec 32)
  | b0 :: b1 :: b2 :: b3 :: _ => some (ofBytes 32 [b0, b1, b2, b3])
  | _ => none

def immediate64 : List (BitVec 8) → Option (BitVec 64)
  | b0 :: b1 :: b2 :: b3 :: b4 :: b5 :: b6 :: b7 :: _ =>
      some (ofBytes 64 [b0, b1, b2, b3, b4, b5, b6, b7])
  | _ => none

/-- A decoded ModRM byte with its displacement: the extended register field, the
bare field as an opcode extension, the operand and the number of bytes read. -/
structure ModRm where
  register : RegisterIndex
  extension : BitVec 3
  operand : RegisterOrMemory
  length : Nat
  deriving DecidableEq, Repr

def decodeModRm (rex : Rex) : List (BitVec 8) → Option ModRm
  | [] => none
  | byte :: rest =>
      let mode := byte.extractLsb' 6 2
      let extension := byte.extractLsb' 3 3
      let field := byte.extractLsb' 0 3
      let register := extendRegister rex.r extension
      let base := extendRegister rex.b field
      if mode = 3 then some ⟨register, extension, .register base, 1⟩
      else if field = 4 then none
      else if mode = 0 then
        if field = 5 then none else some ⟨register, extension, .memory base 0, 1⟩
      else if mode = 1 then do
        let displacement ← immediate8 rest
        return ⟨register, extension, .memory base (displacement.signExtend 64), 2⟩
      else do
        let displacement ← immediate32 rest
        return ⟨register, extension, .memory base (displacement.signExtend 64), 5⟩

/-- Opcodes of the form `operation r/m, r`. -/
def aluOpcode (opcode : BitVec 8) : Option AluOperation :=
  if opcode = 0x01 then some .add
  else if opcode = 0x09 then some .or
  else if opcode = 0x19 then some .sbb
  else if opcode = 0x21 then some .and
  else if opcode = 0x31 then some .xor
  else none

/-- The opcode extensions of group 1, as far as the fragment has them. -/
def aluExtension (extension : BitVec 3) : Option AluOperation :=
  if extension = 0 then some .add
  else if extension = 1 then some .or
  else if extension = 3 then some .sbb
  else if extension = 4 then some .and
  else if extension = 6 then some .xor
  else none

/-- One-byte opcodes, after `consumed` prefix bytes. -/
def decodeOneByte (rex : Rex) (consumed : Nat) :
    List (BitVec 8) → Option (Instruction × Nat)
  | [] => none
  | opcode :: rest =>
      match aluOpcode opcode with
      | some operation => do
          let modRm ← decodeModRm rex rest
          return (.alu operation rex.bits modRm.operand modRm.register,
            consumed + 1 + modRm.length)
      | none =>
          if opcode = 0x83 then do
            let modRm ← decodeModRm rex rest
            let operation ← aluExtension modRm.extension
            let immediate ← immediate8 (rest.drop modRm.length)
            return (.aluImmediate operation rex.bits modRm.operand immediate,
              consumed + 2 + modRm.length)
          else if opcode = 0xD1 then do
            let modRm ← decodeModRm rex rest
            if modRm.extension = 4 then
              some (.shiftLeftOne rex.bits modRm.operand, consumed + 1 + modRm.length)
            else none
          else if opcode = 0x89 then do
            let modRm ← decodeModRm rex rest
            return (.moveToRm rex.bits modRm.operand modRm.register,
              consumed + 1 + modRm.length)
          else if opcode = 0x8B then do
            let modRm ← decodeModRm rex rest
            return (.moveFromRm rex.bits modRm.register modRm.operand,
              consumed + 1 + modRm.length)
          else if opcode.extractLsb' 3 5 = 0x17 then
            -- B8+r: the register is the low opcode field
            let destination := extendRegister rex.b (opcode.extractLsb' 0 3)
            if rex.w then do
              let immediate ← immediate64 rest
              return (.moveImmediate64 destination immediate, consumed + 9)
            else do
              let immediate ← immediate32 rest
              return (.moveImmediate32 destination immediate, consumed + 5)
          else if opcode = 0x98 ∧ rex.w then some (.cdqe, consumed + 1)
          else if opcode = 0xC3 then some (.ret, consumed + 1)
          else none

/-- Opcodes after the bytes `66 0F`. -/
def decodeOperandSizePrefixed :
    List (BitVec 8) → Option (Instruction × Nat)
  | [] => none
  | opcode :: rest => do
      let modRm ← decodeModRm {} rest
      if opcode = 0x7E then
        return (.movd modRm.operand modRm.register, 3 + modRm.length)
      else if opcode = 0x73 ∧ modRm.extension = 3 then
        match modRm.operand with
        | .register destination =>
            let count ← immediate8 (rest.drop modRm.length)
            return (.psrldq destination count, 4 + modRm.length)
        | .memory _ _ => none
      else none

/-- Opcodes after the bytes `F3 0F`. -/
def decodeRepeatPrefixed : List (BitVec 8) → Option (Instruction × Nat)
  | [] => none
  | opcode :: rest => do
      let modRm ← decodeModRm {} rest
      let length := 3 + modRm.length
      if opcode = 0x6F then return (.movdqu modRm.register modRm.operand, length)
      else if opcode = 0x10 then
        return (.movssLoad modRm.register modRm.operand, length)
      else if opcode = 0x11 then
        return (.movssStore modRm.operand modRm.register, length)
      else if opcode = 0x58 then return (.addss modRm.register modRm.operand, length)
      else none

/-- The first instruction of a byte sequence and its length. -/
def decode (bytes : List (BitVec 8)) : Option (Instruction × Nat) :=
  match bytes with
  | first :: second :: rest =>
      if first = 0x66 ∧ second = 0x0F then decodeOperandSizePrefixed rest
      else if first = 0xF3 ∧ second = 0x0F then decodeRepeatPrefixed rest
      else if isRex first then decodeOneByte (Rex.ofByte first) 1 (second :: rest)
      else decodeOneByte {} 0 bytes
  | _ => decodeOneByte {} 0 bytes

namespace Machine

def address (machine : Machine) (base : RegisterIndex) (displacement : BitVec 64) :
    BitVec 64 :=
  machine.gpr base + displacement

/-- Writing 32 bits of a general register clears its upper half. -/
def setGpr (machine : Machine) (index : RegisterIndex) {bits : Nat}
    (value : BitVec bits) : Machine :=
  { machine with gpr := Function.update machine.gpr index (value.setWidth 64) }

def setXmm (machine : Machine) (index : RegisterIndex) (value : BitVec 128) :
    Machine :=
  { machine with xmm := Function.update machine.xmm index value }

def storeAt (machine : Machine) (address : BitVec 64) {bits : Nat}
    (value : BitVec bits) : Machine :=
  { machine with memory := store machine.memory address value }

/-- Read a general-register or memory operand of the given size. -/
def readRm (machine : Machine) (bits : Nat) : RegisterOrMemory → BitVec bits
  | .register index => (machine.gpr index).setWidth bits
  | .memory base displacement =>
      load machine.memory (machine.address base displacement) bits

def writeRm (machine : Machine) {bits : Nat} (operand : RegisterOrMemory)
    (value : BitVec bits) : Machine :=
  match operand with
  | .register index => machine.setGpr index value
  | .memory base displacement =>
      machine.storeAt (machine.address base displacement) value

/-- Read a vector-register or memory operand of the given size. -/
def readXmmRm (machine : Machine) (bits : Nat) : RegisterOrMemory → BitVec bits
  | .register index => (machine.xmm index).setWidth bits
  | .memory base displacement =>
      load machine.memory (machine.address base displacement) bits

/-- Replace the low 32 bits of a vector register. -/
def setXmmLow (machine : Machine) (index : RegisterIndex) (value : BitVec 32) :
    Machine :=
  machine.setXmm index ((machine.xmm index).extractLsb' 32 96 ++ value)

section RegisterUpdates

variable (machine : Machine) (index : RegisterIndex) {bits : Nat}
  (value : BitVec bits)

@[simp]
theorem setGpr_gpr_self : (machine.setGpr index value).gpr index = value.setWidth 64 :=
  Function.update_self ..

@[simp]
theorem setGpr_gpr_of_ne {other : RegisterIndex} (different : other ≠ index) :
    (machine.setGpr index value).gpr other = machine.gpr other :=
  Function.update_of_ne different ..

@[simp]
theorem setGpr_xmm : (machine.setGpr index value).xmm = machine.xmm := rfl

@[simp]
theorem setGpr_carry : (machine.setGpr index value).carry = machine.carry := rfl

@[simp]
theorem setGpr_memory : (machine.setGpr index value).memory = machine.memory := rfl

@[simp]
theorem setXmm_gpr (vector : BitVec 128) :
    (machine.setXmm index vector).gpr = machine.gpr := rfl

@[simp]
theorem setXmm_xmm_self (vector : BitVec 128) :
    (machine.setXmm index vector).xmm index = vector :=
  Function.update_self ..

@[simp]
theorem setXmm_xmm_of_ne (vector : BitVec 128) {other : RegisterIndex}
    (different : other ≠ index) :
    (machine.setXmm index vector).xmm other = machine.xmm other :=
  Function.update_of_ne different ..

@[simp]
theorem setXmm_memory (vector : BitVec 128) :
    (machine.setXmm index vector).memory = machine.memory := rfl

@[simp]
theorem setXmmLow_xmm_self (low : BitVec 32) :
    ((machine.setXmmLow index low).xmm index).setWidth 32 = low := by
  rw [setXmmLow, setXmm_xmm_self]
  apply BitVec.eq_of_getLsbD_eq
  intro bit inside
  rw [BitVec.getLsbD_setWidth, BitVec.getLsbD_append]
  simp [inside]

@[simp]
theorem storeAt_gpr (address : BitVec 64) :
    (machine.storeAt address value).gpr = machine.gpr := rfl

@[simp]
theorem storeAt_xmm (address : BitVec 64) :
    (machine.storeAt address value).xmm = machine.xmm := rfl

@[simp]
theorem storeAt_memory (address : BitVec 64) :
    (machine.storeAt address value).memory = store machine.memory address value := rfl

end RegisterUpdates

end Machine

/-- The result of an operation and the carry it leaves. -/
def AluOperation.apply {bits : Nat} (operation : AluOperation)
    (lhs rhs : BitVec bits) (carry : Bool) : BitVec bits × Bool :=
  match operation with
  | .add => (lhs + rhs, decide (2 ^ bits ≤ lhs.toNat + rhs.toNat))
  | .or => (lhs ||| rhs, false)
  | .and => (lhs &&& rhs, false)
  | .xor => (lhs ^^^ rhs, false)
  | .sbb =>
      (lhs - rhs - BitVec.ofNat bits carry.toNat,
        decide (lhs.toNat < rhs.toNat + carry.toNat))

section Execution

-- Single-precision addition on raw bit patterns.
variable (addF32 : BitVec 32 → BitVec 32 → BitVec 32)

def execute (machine : Machine) (instruction : Instruction) : Machine :=
  match instruction with
  | .alu operation bits destination source =>
      let outcome := operation.apply (machine.readRm bits destination)
        ((machine.gpr source).setWidth bits) machine.carry
      { machine.writeRm destination outcome.1 with carry := outcome.2 }
  | .aluImmediate operation bits destination immediate =>
      let outcome := operation.apply (machine.readRm bits destination)
        (immediate.signExtend bits) machine.carry
      { machine.writeRm destination outcome.1 with carry := outcome.2 }
  | .shiftLeftOne bits destination =>
      let value := machine.readRm bits destination
      { machine.writeRm destination (value <<< 1) with carry := value.msb }
  | .moveToRm bits destination source =>
      machine.writeRm destination ((machine.gpr source).setWidth bits)
  | .moveFromRm bits destination source =>
      machine.setGpr destination (machine.readRm bits source)
  | .moveImmediate32 destination immediate => machine.setGpr destination immediate
  | .moveImmediate64 destination immediate => machine.setGpr destination immediate
  | .cdqe =>
      machine.setGpr rax (((machine.gpr rax).setWidth 32).signExtend 64)
  | .movd destination source =>
      machine.writeRm destination ((machine.xmm source).setWidth 32)
  | .movdqu destination source =>
      machine.setXmm destination (machine.readXmmRm 128 source)
  | .psrldq destination count =>
      machine.setXmm destination (machine.xmm destination >>> (8 * count.toNat))
  | .movssLoad destination source =>
      match source with
      | .register _ =>
          machine.setXmmLow destination (machine.readXmmRm 32 source)
      | .memory _ _ =>
          machine.setXmm destination ((machine.readXmmRm 32 source).setWidth 128)
  | .movssStore destination source =>
      match destination with
      | .register index =>
          machine.setXmmLow index ((machine.xmm source).setWidth 32)
      | .memory base displacement =>
          machine.storeAt (machine.address base displacement)
            ((machine.xmm source).setWidth 32)
  | .addss destination source =>
      machine.setXmmLow destination
        (addF32 ((machine.xmm destination).setWidth 32)
          (machine.readXmmRm 32 source))
  | .ret => machine

/-- Run the code from offset `rip` until a `ret`.  The outcome is the offset of
that `ret` and the machine that reaches it; `none` stands for an undecodable
instruction or for running out of `fuel`. -/
def run (code : List (BitVec 8)) : Nat → Nat → Machine → Option (Nat × Machine)
  | 0, _, _ => none
  | fuel + 1, rip, machine =>
      match decode (code.drop rip) with
      | none => none
      | some (.ret, _) => some (rip, machine)
      | some (instruction, length) =>
          run code fuel (rip + length) (execute addF32 machine instruction)

end Execution

end Burnout3Recompiled.X64
