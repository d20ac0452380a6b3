import Burnout3Recompiled.Ps2MemoryMap
import Burnout3Recompiled.R5900Decoder
import Burnout3Recompiled.VectorRoom

/-!
# Basic blocks

Analysis fetches instructions from a start PC on until one of them ends the
block or the instruction limit is reached.  The delay slot of a control transfer
is kept beside the instructions, never among them.  The block reserves room for as
many instructions as the limit allows before the first one is fetched.
-/

namespace Burnout3Recompiled

/-- The failing values of the source enumeration; its `None` is `Except.ok`. -/
inductive R5900ControlFlowError where
  | invalidInstructionLimit | unalignedStart | unmappedInstruction
  | nonExecutableInstruction | missingDelaySlot | nonExecutableDelaySlot
  deriving DecidableEq, Repr

inductive R5900BlockEndKind where
  | instructionLimit | conditionalBranch | directJump | directCall | indirectJump
  | indirectCall | trap | unsupportedInstruction
  deriving DecidableEq, Repr

inductive R5900EdgeKind where
  | branchTaken | branchNotTaken | directJump | directCall | callContinuation
  | indirectJump | indirectCall | fallthrough
  deriving DecidableEq, Repr

structure R5900InstructionSite where
  pc : BitVec 32 := 0
  decoded : R5900DecodedInstruction := {}
  deriving DecidableEq, Repr

structure R5900ControlFlowEdge where
  kind : R5900EdgeKind := .fallthrough
  target : Option (BitVec 32) := none
  deriving DecidableEq, Repr

structure R5900BasicBlock where
  startPc : BitVec 32 := 0
  instructions : List R5900InstructionSite := []
  delaySlot : Option R5900InstructionSite := none
  endKind : R5900BlockEndKind := .instructionLimit
  delaySlotExecutesOnFallthrough : Bool := true
  edges : List R5900ControlFlowEdge := []
  deriving DecidableEq, Repr

structure R5900ControlFlowOptions where
  maxInstructions : Nat := 1024
  requireExecutable : Bool := true
  deriving DecidableEq, Repr

structure R5900ControlFlowFailure where
  error : R5900ControlFlowError
  message : String
  deriving DecidableEq, Repr

abbrev R5900BasicBlockResult := Except R5900ControlFlowFailure R5900BasicBlock

def elfPfExecute : BitVec 32 := 0x1

inductive RangeStatus where
  | unmapped | nonExecutable | executable
  deriving DecidableEq, Repr

/-- The first region that holds the whole range decides. -/
def rangeStatus (memory : Ps2MemoryMap) (address : BitVec 32) (length : Nat) :
    RangeStatus :=
  if length > guestAddressSpaceSize then .unmapped
  else if address.toNat + length > guestAddressSpaceSize then .unmapped
  else
    match memory.regions.find? fun region =>
        decide (regionStart region ≤ address.toNat ∧
          address.toNat + length ≤ regionEnd region) with
    | some region =>
        if region.flags &&& elfPfExecute ≠ 0 then .executable else .nonExecutable
    | none => .unmapped

def fetchSite (memory : Ps2MemoryMap) (pc : BitVec 32) (requireExecutable : Bool) :
    Option R5900InstructionSite :=
  match memory.readU32 pc with
  | none => none
  | some word =>
      if requireExecutable ∧ rangeStatus memory pc 4 ≠ .executable then none
      else some ⟨pc, decodeR5900 word⟩

def fetchInstructionFailure (memory : Ps2MemoryMap) (pc : BitVec 32)
    (requireExecutable : Bool) : R5900ControlFlowFailure :=
  if requireExecutable ∧ rangeStatus memory pc 4 = .nonExecutable then
    ⟨.nonExecutableInstruction, "R5900 instruction fetch is mapped but not executable"⟩
  else
    ⟨.unmappedInstruction, "R5900 instruction fetch is outside mapped guest memory"⟩

def fetchDelaySlotFailure (memory : Ps2MemoryMap) (pc : BitVec 32)
    (requireExecutable : Bool) : R5900ControlFlowFailure :=
  if requireExecutable ∧ rangeStatus memory pc 4 = .nonExecutable then
    ⟨.nonExecutableDelaySlot,
      "R5900 architectural delay slot is mapped but not executable"⟩
  else
    ⟨.missingDelaySlot,
      "R5900 control transfer has no mapped architectural delay slot"⟩

def appendEdge (block : R5900BasicBlock) (kind : R5900EdgeKind)
    (target : Option (BitVec 32) := none) : R5900BasicBlock :=
  { block with edges := block.edges ++ [⟨kind, target⟩] }

/-- The part of `finishControlTransfer` after the delay slot has been fetched. -/
def finishWithDelaySlot (block : R5900BasicBlock) (terminator : R5900InstructionSite)
    (delaySlot : R5900InstructionSite) : R5900BasicBlockResult :=
  let block := { block with
    delaySlot := some delaySlot
    delaySlotExecutesOnFallthrough := !terminator.decoded.likely }
  if terminator.decoded.isBranch then
    match terminator.decoded.directTarget terminator.pc with
    | none =>
        .error ⟨.unmappedInstruction,
          "decoded immediate branch unexpectedly lacks a direct target"⟩
    | some target =>
        let block := { block with endKind := .conditionalBranch }
        .ok (appendEdge (appendEdge block .branchTaken (some target)) .branchNotTaken
          (some (terminator.pc + 8)))
  else
    match terminator.decoded.instruction with
    | .j =>
        match terminator.decoded.directTarget terminator.pc with
        | none =>
            .error ⟨.unmappedInstruction,
              "decoded direct jump unexpectedly lacks a target"⟩
        | some target =>
            .ok (appendEdge { block with endKind := .directJump } .directJump
              (some target))
    | .jal =>
        match terminator.decoded.directTarget terminator.pc with
        | none =>
            .error ⟨.unmappedInstruction,
              "decoded direct call unexpectedly lacks a target"⟩
        | some target =>
            let block := { block with endKind := .directCall }
            .ok (appendEdge (appendEdge block .directCall (some target))
              .callContinuation (some (terminator.pc + 8)))
    | .jr => .ok (appendEdge { block with endKind := .indirectJump } .indirectJump)
    | .jalr =>
        let block := { block with endKind := .indirectCall }
        .ok (appendEdge (appendEdge block .indirectCall) .callContinuation
          (some (terminator.pc + 8)))
    | _ =>
        .ok { block with
          endKind := .unsupportedInstruction
          delaySlot := none
          edges := [] }

def finishControlTransfer (memory : Ps2MemoryMap) (block : R5900BasicBlock)
    (terminator : R5900InstructionSite) (requireExecutable : Bool) :
    R5900BasicBlockResult :=
  match fetchSite memory (terminator.pc + 4) requireExecutable with
  | none =>
      .error (fetchDelaySlotFailure memory (terminator.pc + 4) requireExecutable)
  | some delaySlot => finishWithDelaySlot block terminator delaySlot

/-- The fetch loop with `remaining` iterations left. -/
def analyzeInstructions (memory : Ps2MemoryMap) (requireExecutable : Bool)
    (block : R5900BasicBlock) (pc : BitVec 32) : Nat → R5900BasicBlockResult
  | 0 =>
      .ok (appendEdge { block with endKind := .instructionLimit } .fallthrough
        (some pc))
  | remaining + 1 =>
      match fetchSite memory pc requireExecutable with
      | none => .error (fetchInstructionFailure memory pc requireExecutable)
      | some site =>
          let block := { block with instructions := block.instructions ++ [site] }
          if site.decoded.instruction = .unknown then
            .ok { block with endKind := .unsupportedInstruction }
          else if site.decoded.instructionClass = .system then
            .ok { block with endKind := .trap }
          else if site.decoded.isBranch || site.decoded.isJump then
            finishControlTransfer memory block site requireExecutable
          else
            analyzeInstructions memory requireExecutable block (pc + 4) remaining

/-- What the call returns, for a block that gets its room. -/
def analyzeR5900BasicBlock (memory : Ps2MemoryMap) (startPc : BitVec 32)
    (options : R5900ControlFlowOptions) : R5900BasicBlockResult :=
  if options.maxInstructions = 0 then
    .error ⟨.invalidInstructionLimit,
      "R5900 control-flow instruction limit must be non-zero"⟩
  else if startPc &&& 0x3 ≠ 0 then
    .error ⟨.unalignedStart, "R5900 basic-block start PC must be 4-byte aligned"⟩
  else
    analyzeInstructions memory options.requireExecutable { startPc := startPc } startPc
      options.maxInstructions

/-- The whole call.  It makes its `request` for room behind the two checks and in front of
the loop. -/
def analyzeR5900BasicBlockIn (room : VectorRoom) (request : Nat) (memory : Ps2MemoryMap)
    (startPc : BitVec 32) (options : R5900ControlFlowOptions) :
    Except StdException R5900BasicBlockResult :=
  if options.maxInstructions = 0 ∨ startPc &&& 0x3 ≠ 0 then
    .ok (analyzeR5900BasicBlock memory startPc options)
  else
    match room.reserve request options.maxInstructions with
    | .error exception => .error exception
    | .ok () => .ok (analyzeR5900BasicBlock memory startPc options)

section Room

variable {room : VectorRoom} {request : Nat} {memory : Ps2MemoryMap} {startPc : BitVec 32}
  {options : R5900ControlFlowOptions}

theorem analyzeR5900BasicBlockIn_eq_ok {result : R5900BasicBlockResult}
    (returns : analyzeR5900BasicBlockIn room request memory startPc options = .ok result) :
    result = analyzeR5900BasicBlock memory startPc options := by
  unfold analyzeR5900BasicBlockIn at returns
  split at returns
  · exact (Except.ok.inj returns).symm
  · split at returns
    · cases returns
    · exact (Except.ok.inj returns).symm

/-- The call throws what its request for room throws. -/
theorem analyzeR5900BasicBlockIn_eq_error_iff {exception : StdException} :
    analyzeR5900BasicBlockIn room request memory startPc options = .error exception ↔
      options.maxInstructions ≠ 0 ∧ startPc &&& 0x3 = 0 ∧
        room.reserve request options.maxInstructions = .error exception := by
  unfold analyzeR5900BasicBlockIn
  split
  · next refused =>
      refine iff_of_false (fun same => by cases same) ?_
      rintro ⟨positive, aligned, -⟩
      exact refused.elim positive fun unaligned => unaligned aligned
  · next accepted =>
      obtain ⟨positive, aligned⟩ := not_or.mp accepted
      rw [and_iff_right positive, and_iff_right (not_not.mp aligned)]
      cases room.reserve request options.maxInstructions with
      | error other => simp
      | ok _ => simp

theorem analyzeR5900BasicBlockIn_of_room
    (granted : room.reserve request options.maxInstructions = .ok ()) :
    analyzeR5900BasicBlockIn room request memory startPc options =
      .ok (analyzeR5900BasicBlock memory startPc options) := by
  rw [analyzeR5900BasicBlockIn, granted, ite_self]

end Room

end Burnout3Recompiled
