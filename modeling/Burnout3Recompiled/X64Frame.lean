import Burnout3Recompiled.X64StraightLine

/-!
# What machine code reads and writes

Every instruction names the registers it writes and the bytes it loads and stores.
Its execution changes nothing else, and depends on no other memory.  Straight-line
code whose instructions keep a base register therefore stays inside the bytes they
name relative to it.
-/

namespace Burnout3Recompiled.X64

open LittleEndianMemory (load store loadNat)

/-- Bytes that an instruction reads or writes relative to a register. -/
structure MemoryAccess where
  base : RegisterIndex
  displacement : BitVec 64
  bytes : Nat
  deriving DecidableEq, Repr

/-- The address is among the bytes of the access. -/
def MemoryAccess.Touches (access : MemoryAccess) (machine : Machine)
    (address : BitVec 64) : Prop :=
  (address - machine.address access.base access.displacement).toNat < access.bytes

namespace RegisterOrMemory

def accesses (bits : Nat) : RegisterOrMemory → List MemoryAccess
  | .register _ => []
  | .memory base displacement => [⟨base, displacement, bits / 8⟩]

def registers : RegisterOrMemory → List RegisterIndex
  | .register index => [index]
  | .memory _ _ => []

end RegisterOrMemory

namespace Instruction

def loads : Instruction → List MemoryAccess
  | .alu _ bits operand _ | .aluImmediate _ bits operand _ | .shiftLeftOne bits operand
  | .moveFromRm bits _ operand => operand.accesses bits
  | .movdqu _ operand => operand.accesses 128
  | .movssLoad _ operand | .addss _ operand => operand.accesses 32
  | _ => []

def stores : Instruction → List MemoryAccess
  | .alu _ bits operand _ | .aluImmediate _ bits operand _ | .shiftLeftOne bits operand
  | .moveToRm bits operand _ => operand.accesses bits
  | .movd operand _ | .movssStore operand _ => operand.accesses 32
  | _ => []

def gprWrites : Instruction → List RegisterIndex
  | .alu _ _ operand _ | .aluImmediate _ _ operand _ | .shiftLeftOne _ operand
  | .moveToRm _ operand _ | .movd operand _ => operand.registers
  | .moveFromRm _ destination _ | .moveImmediate32 destination _
  | .moveImmediate64 destination _ => [destination]
  | .cdqe => [rax]
  | .movdqu _ _ | .psrldq _ _ | .movssLoad _ _ | .movssStore _ _ | .addss _ _ | .ret => []

def xmmWrites : Instruction → List RegisterIndex
  | .movdqu destination _ | .psrldq destination _ | .movssLoad destination _
  | .addss destination _ => [destination]
  | .movssStore operand _ => operand.registers
  | _ => []

end Instruction

section Writes

variable {machine : Machine} {operand : RegisterOrMemory} {bits : Nat}
  {value : BitVec bits} {index : RegisterIndex} {address : BitVec 64}

theorem storeAt_memory_of_outside {target : BitVec 64}
    (outside : ¬(address - target).toNat < bits / 8) :
    (machine.storeAt target value).memory address = machine.memory address :=
  if_neg outside

theorem writeRm_gpr_of_notMem (untouched : index ∉ operand.registers) :
    (machine.writeRm operand value).gpr index = machine.gpr index := by
  cases operand with
  | register target =>
      have different : index ≠ target := List.ne_of_not_mem_cons untouched
      exact Machine.setGpr_gpr_of_ne machine target value different
  | memory base displacement => rfl

theorem writeRm_xmm : (machine.writeRm operand value).xmm = machine.xmm := by
  cases operand <;> rfl

theorem writeRm_memory_of_outside
    (outside : ∀ access ∈ operand.accesses bits, ¬access.Touches machine address) :
    (machine.writeRm operand value).memory address = machine.memory address := by
  cases operand with
  | register target => rfl
  | memory base displacement =>
      have apart := outside ⟨base, displacement, bits / 8⟩ (.head _)
      exact storeAt_memory_of_outside apart

variable {addF32 : BitVec 32 → BitVec 32 → BitVec 32} {instruction : Instruction}

theorem execute_gpr_of_notMem (untouched : index ∉ instruction.gprWrites) :
    (execute addF32 machine instruction).gpr index = machine.gpr index := by
  cases instruction with
  | alu | aluImmediate | shiftLeftOne | moveToRm | movd =>
      exact writeRm_gpr_of_notMem untouched
  | moveFromRm | moveImmediate32 | moveImmediate64 | cdqe =>
      have different := List.ne_of_not_mem_cons untouched
      exact Machine.setGpr_gpr_of_ne machine _ _ different
  | movdqu | psrldq | addss | ret => rfl
  | movssLoad destination source => cases source <;> rfl
  | movssStore destination source => cases destination <;> rfl

theorem execute_xmm_of_notMem (untouched : index ∉ instruction.xmmWrites) :
    (execute addF32 machine instruction).xmm index = machine.xmm index := by
  cases instruction with
  | alu | aluImmediate | shiftLeftOne | moveToRm | movd =>
      exact congrFun writeRm_xmm index
  | moveFromRm | moveImmediate32 | moveImmediate64 | cdqe | ret => rfl
  | movdqu | psrldq | addss =>
      exact Machine.setXmm_xmm_of_ne _ _ _ (List.ne_of_not_mem_cons untouched)
  | movssLoad destination source =>
      cases source <;>
        exact Machine.setXmm_xmm_of_ne _ _ _ (List.ne_of_not_mem_cons untouched)
  | movssStore destination source =>
      cases destination with
      | register target =>
          exact Machine.setXmm_xmm_of_ne _ _ _ (List.ne_of_not_mem_cons untouched)
      | memory base displacement => rfl

theorem execute_memory_of_outside
    (outside : ∀ access ∈ instruction.stores, ¬access.Touches machine address) :
    (execute addF32 machine instruction).memory address = machine.memory address := by
  cases instruction with
  | alu | aluImmediate | shiftLeftOne | moveToRm | movd =>
      exact writeRm_memory_of_outside outside
  | moveFromRm | moveImmediate32 | moveImmediate64 | cdqe | ret => rfl
  | movdqu | psrldq | addss => rfl
  | movssLoad destination source => cases source <;> rfl
  | movssStore destination source =>
      cases destination with
      | register target => rfl
      | memory base displacement =>
          have apart := outside ⟨base, displacement, 32 / 8⟩ (.head _)
          exact storeAt_memory_of_outside apart

end Writes

/-- Two machines that differ in memory outside the given addresses only. -/
structure AgreeOn (inside : BitVec 64 → Prop) (first second : Machine) : Prop where
  gpr : first.gpr = second.gpr
  xmm : first.xmm = second.xmm
  carry : first.carry = second.carry
  memory : ∀ address, inside address → first.memory address = second.memory address

namespace AgreeOn

variable {inside : BitVec 64 → Prop} {first second : Machine} {operand : RegisterOrMemory}
  {bits : Nat}

theorem address (agree : AgreeOn inside first second) (base : RegisterIndex)
    (displacement : BitVec 64) :
    first.address base displacement = second.address base displacement := by
  rw [Machine.address, Machine.address, agree.gpr]

theorem load (agree : AgreeOn inside first second) {target : BitVec 64}
    (touched : ∀ address, (address - target).toNat < bits / 8 → inside address) :
    load first.memory target bits = load second.memory target bits := by
  apply LittleEndianMemory.load_congr
  intro offset within
  apply agree.memory
  apply touched
  have distance : target + BitVec.ofNat 64 offset - target = BitVec.ofNat 64 offset := by
    rw [BitVec.add_comm, BitVec.add_sub_cancel]
  rw [distance, BitVec.toNat_ofNat]
  exact lt_of_le_of_lt (Nat.mod_le offset _) within

/-- A store of one value to one address keeps the agreement. -/
theorem storeAt (agree : AgreeOn inside first second) (target : BitVec 64)
    (value : BitVec bits) :
    AgreeOn inside (first.storeAt target value) (second.storeAt target value) := by
  refine ⟨agree.gpr, agree.xmm, agree.carry, ?_⟩
  intro address within
  simp only [Machine.storeAt_memory, store, agree.memory address within]

theorem setGpr (agree : AgreeOn inside first second) (index : RegisterIndex)
    (value : BitVec bits) : AgreeOn inside (first.setGpr index value) (second.setGpr index value) := by
  refine ⟨?_, agree.xmm, agree.carry, agree.memory⟩
  rw [Machine.setGpr, Machine.setGpr, agree.gpr]

theorem setXmm (agree : AgreeOn inside first second) (index : RegisterIndex)
    (value : BitVec 128) :
    AgreeOn inside (first.setXmm index value) (second.setXmm index value) := by
  refine ⟨agree.gpr, ?_, agree.carry, agree.memory⟩
  rw [Machine.setXmm, Machine.setXmm, agree.xmm]

theorem setXmmLow (agree : AgreeOn inside first second) (index : RegisterIndex)
    (value : BitVec 32) :
    AgreeOn inside (first.setXmmLow index value) (second.setXmmLow index value) := by
  rw [Machine.setXmmLow, Machine.setXmmLow, agree.xmm]
  exact agree.setXmm index _

theorem setCarry (agree : AgreeOn inside first second) (carry : Bool) :
    AgreeOn inside { first with carry := carry } { second with carry := carry } :=
  ⟨agree.gpr, agree.xmm, rfl, agree.memory⟩

theorem readRm (agree : AgreeOn inside first second)
    (touched : ∀ access ∈ operand.accesses bits, ∀ address, access.Touches first address →
      inside address) :
    first.readRm bits operand = second.readRm bits operand := by
  cases operand with
  | register index => rw [Machine.readRm, Machine.readRm, agree.gpr]
  | memory base displacement =>
      have within := touched ⟨base, displacement, bits / 8⟩ (.head _)
      rw [Machine.readRm, Machine.readRm, ← agree.address]
      exact agree.load within

theorem readXmmRm (agree : AgreeOn inside first second)
    (touched : ∀ access ∈ operand.accesses bits, ∀ address, access.Touches first address →
      inside address) :
    first.readXmmRm bits operand = second.readXmmRm bits operand := by
  cases operand with
  | register index => rw [Machine.readXmmRm, Machine.readXmmRm, agree.xmm]
  | memory base displacement =>
      have within := touched ⟨base, displacement, bits / 8⟩ (.head _)
      rw [Machine.readXmmRm, Machine.readXmmRm, ← agree.address]
      exact agree.load within

theorem writeRm (agree : AgreeOn inside first second) (operand : RegisterOrMemory)
    (value : BitVec bits) :
    AgreeOn inside (first.writeRm operand value) (second.writeRm operand value) := by
  cases operand with
  | register index => exact agree.setGpr index value
  | memory base displacement =>
      rw [Machine.writeRm, Machine.writeRm, ← agree.address]
      exact agree.storeAt _ value

variable {addF32 : BitVec 32 → BitVec 32 → BitVec 32} {instruction : Instruction}

/-- Execution depends on no memory but what the instruction loads. -/
theorem execute (agree : AgreeOn inside first second)
    (touched : ∀ access ∈ instruction.loads, ∀ address, access.Touches first address →
      inside address) :
    AgreeOn inside (execute addF32 first instruction) (execute addF32 second instruction) := by
  cases instruction with
  | alu operation bits operand source =>
      simp only [X64.execute, agree.readRm touched, agree.gpr, agree.carry]
      exact (agree.writeRm operand _).setCarry _
  | aluImmediate operation bits operand immediate =>
      simp only [X64.execute, agree.readRm touched, agree.carry]
      exact (agree.writeRm operand _).setCarry _
  | shiftLeftOne bits operand =>
      simp only [X64.execute, agree.readRm touched]
      exact (agree.writeRm operand _).setCarry _
  | moveToRm bits operand source =>
      simp only [X64.execute, agree.gpr]
      exact agree.writeRm operand _
  | moveFromRm bits target source =>
      simp only [X64.execute, agree.readRm touched]
      exact agree.setGpr target _
  | moveImmediate32 target immediate => exact agree.setGpr target immediate
  | moveImmediate64 target immediate => exact agree.setGpr target immediate
  | cdqe =>
      simp only [X64.execute, agree.gpr]
      exact agree.setGpr rax _
  | movd operand source =>
      simp only [X64.execute, agree.xmm]
      exact agree.writeRm operand _
  | movdqu target source =>
      simp only [X64.execute, agree.readXmmRm touched]
      exact agree.setXmm target _
  | psrldq target count =>
      simp only [X64.execute, agree.xmm]
      exact agree.setXmm target _
  | movssLoad target source =>
      have read := agree.readXmmRm touched
      cases source with
      | register index =>
          simp only [X64.execute, read]
          exact agree.setXmmLow target _
      | memory base displacement =>
          simp only [X64.execute, read]
          exact agree.setXmm target _
  | movssStore operand source =>
      cases operand with
      | register index =>
          simp only [X64.execute, agree.xmm]
          exact agree.setXmmLow index _
      | memory base displacement =>
          simp only [X64.execute, agree.xmm, agree.address]
          exact agree.storeAt _ _
  | addss target source =>
      simp only [X64.execute, agree.readXmmRm touched, agree.xmm]
      exact agree.setXmmLow target _
  | ret => exact agree

end AgreeOn

/-- What code may write and touch: scratch registers, and bytes at displacements from a
base register that is none of them. -/
structure Sandbox where
  base : RegisterIndex
  gprs : List RegisterIndex
  xmms : List RegisterIndex
  readable : BitVec 64 → Prop
  writable : BitVec 64 → Prop
  kept : base ∉ gprs

structure Instruction.StaysIn (sandbox : Sandbox) (instruction : Instruction) : Prop where
  gprs : ∀ index ∈ instruction.gprWrites, index ∈ sandbox.gprs
  xmms : ∀ index ∈ instruction.xmmWrites, index ∈ sandbox.xmms
  loads : ∀ access ∈ instruction.loads, access.base = sandbox.base ∧
    ∀ byte < access.bytes, sandbox.readable (access.displacement + BitVec.ofNat 64 byte)
  stores : ∀ access ∈ instruction.stores, access.base = sandbox.base ∧
    ∀ byte < access.bytes, sandbox.writable (access.displacement + BitVec.ofNat 64 byte)

/-- What the second machine has kept of the first. -/
structure Sandbox.Kept (sandbox : Sandbox) (before after : Machine) : Prop where
  gpr : ∀ index, index ∉ sandbox.gprs → after.gpr index = before.gpr index
  xmm : ∀ index, index ∉ sandbox.xmms → after.xmm index = before.xmm index
  memory : ∀ address, ¬sandbox.writable (address - before.gpr sandbox.base) →
    after.memory address = before.memory address

section Confinement

variable {sandbox : Sandbox} {addF32 : BitVec 32 → BitVec 32 → BitVec 32}
  {instruction : Instruction} {instructions : List Instruction}
  {machine first second : Machine} {access : MemoryAccess} {address : BitVec 64}

/-- The bytes an access touches, seen from its base register. -/
theorem MemoryAccess.Touches.byte (touches : access.Touches machine address) :
    ∃ byte < access.bytes,
      address - machine.gpr access.base = access.displacement + BitVec.ofNat 64 byte := by
  refine ⟨(address - machine.address access.base access.displacement).toNat, touches, ?_⟩
  rw [BitVec.ofNat_toNat, BitVec.setWidth_eq, BitVec.sub_eq_iff_eq_add]
  calc
    address = address - machine.address access.base access.displacement +
        machine.address access.base access.displacement := (BitVec.sub_add_cancel ..).symm
    _ = access.displacement +
          (address - machine.address access.base access.displacement) +
        machine.gpr access.base := by
      rw [Machine.address]
      ac_rfl

theorem Sandbox.Kept.refl (machine : Machine) : sandbox.Kept machine machine :=
  ⟨fun _ _ => rfl, fun _ _ => rfl, fun _ _ => rfl⟩

theorem Sandbox.Kept.trans {before middle after : Machine}
    (early : sandbox.Kept before middle) (late : sandbox.Kept middle after) :
    sandbox.Kept before after where
  gpr index free := (late.gpr index free).trans (early.gpr index free)
  xmm index free := (late.xmm index free).trans (early.xmm index free)
  memory address outside := by
    have laterOutside := outside
    rw [← early.gpr sandbox.base sandbox.kept] at laterOutside
    exact (late.memory address laterOutside).trans (early.memory address outside)

theorem Instruction.StaysIn.kept (stays : instruction.StaysIn sandbox) (machine : Machine) :
    sandbox.Kept machine (execute addF32 machine instruction) where
  gpr index free := execute_gpr_of_notMem fun written => free (stays.gprs index written)
  xmm index free := execute_xmm_of_notMem fun written => free (stays.xmms index written)
  memory address outside := by
    apply execute_memory_of_outside
    intro access stored touches
    obtain ⟨sameBase, writable⟩ := stays.stores access stored
    obtain ⟨byte, inside, displacement⟩ := touches.byte
    rw [← sameBase, displacement] at outside
    exact outside (writable byte inside)

/-- Code that stays in a sandbox keeps what is outside. -/
theorem kept_foldl (stays : ∀ instruction ∈ instructions, instruction.StaysIn sandbox)
    (machine : Machine) :
    sandbox.Kept machine (instructions.foldl (execute addF32) machine) := by
  induction instructions generalizing machine with
  | nil => exact .refl machine
  | cons instruction instructions ih =>
      obtain ⟨here, later⟩ := List.forall_mem_cons.mp stays
      exact (here.kept machine).trans (ih later _)

/-- Code that stays in a sandbox looks at nothing outside. -/
theorem agreeOn_foldl (stays : ∀ instruction ∈ instructions, instruction.StaysIn sandbox)
    {pointer : BitVec 64} (atBase : first.gpr sandbox.base = pointer)
    (agree : AgreeOn (fun address => sandbox.readable (address - pointer)) first second) :
    AgreeOn (fun address => sandbox.readable (address - pointer))
      (instructions.foldl (execute addF32) first)
      (instructions.foldl (execute addF32) second) := by
  induction instructions generalizing first second with
  | nil => exact agree
  | cons instruction instructions ih =>
      obtain ⟨here, later⟩ := List.forall_mem_cons.mp stays
      have kept : (execute addF32 first instruction).gpr sandbox.base = _ :=
        (here.kept first).gpr sandbox.base sandbox.kept
      apply ih later (kept.trans atBase)
      apply agree.execute
      intro access loaded address touches
      obtain ⟨sameBase, readable⟩ := here.loads access loaded
      obtain ⟨byte, inside, displacement⟩ := touches.byte
      rw [sameBase, atBase] at displacement
      rw [displacement]
      exact readable byte inside

end Confinement

end Burnout3Recompiled.X64
