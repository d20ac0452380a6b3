import Burnout3Recompiled.R5900ControlFlow
import Burnout3Recompiled.R5900DecoderFields

/-!
# The shape of an analysed block

A block is a run of consecutive fetched sites in which only the last one can be
a terminator.  That terminator decides the delay slot and the edges.
-/

namespace Burnout3Recompiled

namespace R5900DecodedInstruction

/-- A control transfer with a delay slot. -/
def transfers (decoded : R5900DecodedInstruction) : Bool :=
  decoded.isBranch || decoded.isJump

/-- The three tests that end a block before the instruction limit. -/
def endsBlock (decoded : R5900DecodedInstruction) : Bool :=
  decide (decoded.instruction = .unknown) ||
    decide (decoded.instructionClass = .system) || decoded.transfers

end R5900DecodedInstruction

section Classes

variable {word : BitVec 32}

theorem decodeR5900_transfers :
    (decodeR5900 word).transfers = true ↔
      (decodeR5900 word).isBranch = true ∨ (decodeR5900 word).instruction = .j ∨
        (decodeR5900 word).instruction = .jal ∨ (decodeR5900 word).instruction = .jr ∨
          (decodeR5900 word).instruction = .jalr := by
  have jumps : (decodeR5900 word).isJump = true ↔
      (decodeR5900 word).instruction = .j ∨ (decodeR5900 word).instruction = .jal ∨
        (decodeR5900 word).instruction = .jr ∨
          (decodeR5900 word).instruction = .jalr := by
    rw [R5900DecodedInstruction.isJump, decide_eq_true_eq, decodeR5900_class]
    cases (decodeR5900 word).instruction <;> simp [r5900ClassOf]
  rw [R5900DecodedInstruction.transfers, Bool.or_eq_true, jumps]

theorem decodeR5900_unknown_not_transfers
    (unknown : (decodeR5900 word).instruction = .unknown) :
    (decodeR5900 word).transfers = false := by
  simp [R5900DecodedInstruction.transfers, R5900DecodedInstruction.isBranch,
    R5900DecodedInstruction.isJump, decodeR5900_class, unknown, r5900ClassOf]

theorem decodeR5900_system_not_transfers
    (system : (decodeR5900 word).instructionClass = .system) :
    (decodeR5900 word).transfers = false := by
  simp [R5900DecodedInstruction.transfers, R5900DecodedInstruction.isBranch,
    R5900DecodedInstruction.isJump, system]

theorem Classified.not_branch {decoded : R5900DecodedInstruction}
    (classified : Classified decoded) {instruction : R5900Instruction}
    (named : decoded.instruction = instruction)
    (other : r5900ClassOf instruction ≠ .branch) : decoded.isBranch = false := by
  rw [R5900DecodedInstruction.isBranch, decide_eq_false_iff_not, classified, named]
  exact other

end Classes

/-- The edges a terminator gives its block.  A last instruction that ends nothing
falls through. -/
def exitEdges (terminator : R5900InstructionSite) : List R5900ControlFlowEdge :=
  let target := terminator.decoded.directTarget terminator.pc
  let continuation := some (terminator.pc + 8)
  if terminator.decoded.isBranch then
    [⟨.branchTaken, target⟩, ⟨.branchNotTaken, continuation⟩]
  else
    match terminator.decoded.instruction with
    | .j => [⟨.directJump, target⟩]
    | .jal => [⟨.directCall, target⟩, ⟨.callContinuation, continuation⟩]
    | .jr => [⟨.indirectJump, none⟩]
    | .jalr => [⟨.indirectCall, none⟩, ⟨.callContinuation, continuation⟩]
    | _ =>
        if terminator.decoded.endsBlock then []
        else [⟨.fallthrough, some (terminator.pc + 4)⟩]

theorem length_exitEdges_le (terminator : R5900InstructionSite) :
    (exitEdges terminator).length ≤ 2 := by
  simp only [exitEdges]
  split
  · exact Nat.le_refl 2
  · split
    case h_5 => split <;> simp
    all_goals simp

section Shape

variable (memory : Ps2MemoryMap) (requireExecutable : Bool)

/-- Consecutive fetched sites from `pc` on, where only the last may end a block. -/
inductive SitesFrom : BitVec 32 → List R5900InstructionSite →
    R5900InstructionSite → Prop
  | last {pc : BitVec 32} {site : R5900InstructionSite}
      (fetched : fetchSite memory pc requireExecutable = some site) :
      SitesFrom pc [site] site
  | next {pc : BitVec 32} {site terminator : R5900InstructionSite}
      {sites : List R5900InstructionSite}
      (fetched : fetchSite memory pc requireExecutable = some site)
      (continues : site.decoded.endsBlock = false)
      (rest : SitesFrom (pc + 4) sites terminator) :
      SitesFrom pc (site :: sites) terminator

/-- What an analysed block looks like. -/
structure BlockShape (startPc : BitVec 32) (terminator : R5900InstructionSite)
    (block : R5900BasicBlock) : Prop where
  start : block.startPc = startPc
  sites : SitesFrom memory requireExecutable startPc block.instructions terminator
  edges : block.edges = exitEdges terminator
  delaySlot : block.delaySlot =
    if terminator.decoded.transfers then
      fetchSite memory (terminator.pc + 4) requireExecutable
    else none
  delaySlotPresent : terminator.decoded.transfers = true → block.delaySlot.isSome

end Shape

section Sites

variable {memory : Ps2MemoryMap} {requireExecutable : Bool} {pc : BitVec 32}
  {site terminator : R5900InstructionSite} {sites : List R5900InstructionSite}

theorem fetchSite_eq_some
    (fetched : fetchSite memory pc requireExecutable = some site) :
    ∃ word, memory.readU32 pc = some word ∧ site = ⟨pc, decodeR5900 word⟩ := by
  unfold fetchSite at fetched
  split at fetched
  · cases fetched
  · next word read =>
      split at fetched
      · cases fetched
      · exact ⟨word, read, (Option.some.inj fetched).symm⟩

theorem fetchSite_pc (fetched : fetchSite memory pc requireExecutable = some site) :
    site.pc = pc := by
  obtain ⟨word, -, rfl⟩ := fetchSite_eq_some fetched
  rfl

namespace SitesFrom

theorem getLast? (run : SitesFrom memory requireExecutable pc sites terminator) :
    sites.getLast? = some terminator := by
  induction run with
  | last fetched => rfl
  | next fetched continues rest ih =>
      rw [List.getLast?_cons, ih]
      rfl

theorem head (run : SitesFrom memory requireExecutable pc sites terminator) :
    ∃ site rest, sites = site :: rest ∧ site.pc = pc := by
  cases run with
  | last fetched => exact ⟨_, _, rfl, fetchSite_pc fetched⟩
  | next fetched continues rest => exact ⟨_, _, rfl, fetchSite_pc fetched⟩

theorem terminator_mem (run : SitesFrom memory requireExecutable pc sites terminator) :
    terminator ∈ sites :=
  List.mem_of_getLast? run.getLast?

theorem fetched_of_mem (run : SitesFrom memory requireExecutable pc sites terminator)
    (member : site ∈ sites) :
    fetchSite memory site.pc requireExecutable = some site := by
  induction run with
  | last fetched =>
      obtain rfl := List.mem_singleton.mp member
      rw [fetchSite_pc fetched, fetched]
  | next fetched continues rest ih =>
      rcases List.mem_cons.mp member with rfl | later
      · rw [fetchSite_pc fetched, fetched]
      · exact ih later

/-- A site in the run is its terminator, or falls through to another one. -/
theorem next_of_mem (run : SitesFrom memory requireExecutable pc sites terminator)
    (member : site ∈ sites) :
    site = terminator ∨
      site.decoded.endsBlock = false ∧ ∃ other ∈ sites, other.pc = site.pc + 4 := by
  induction run with
  | last fetched => exact .inl (List.mem_singleton.mp member)
  | next fetched continues rest ih =>
      rcases List.mem_cons.mp member with rfl | later
      · obtain ⟨other, others, rfl, place⟩ := rest.head
        refine .inr ⟨continues, other, .tail _ (.head _), ?_⟩
        rw [place, fetchSite_pc fetched]
      · rcases ih later with last | ⟨falls, other, inRest, place⟩
        · exact .inl last
        · exact .inr ⟨falls, other, .tail _ inRest, place⟩

end SitesFrom

end Sites

section Analysis

variable {memory : Ps2MemoryMap} {requireExecutable : Bool} {pc : BitVec 32}
  {block result : R5900BasicBlock}

theorem directTarget_of_isBranch {decoded : R5900DecodedInstruction}
    (branch : decoded.isBranch = true) :
    decoded.directTarget pc = some (pc + 4 + decoded.signedImmediate * 4) := by
  rw [R5900DecodedInstruction.directTarget, if_pos branch]

theorem directTarget_of_jump (pc : BitVec 32) {decoded : R5900DecodedInstruction}
    (notBranch : decoded.isBranch = false)
    (jump : decoded.instruction = .j ∨ decoded.instruction = .jal) :
    decoded.directTarget pc =
      some (((pc + 4) &&& 0xF0000000) ||| ((decoded.target &&& 0x03FFFFFF) <<< 2)) := by
  rw [R5900DecodedInstruction.directTarget, notBranch, if_neg Bool.false_ne_true,
    if_pos jump]

/-- `result` is `block` with a terminator's delay slot and edges. -/
structure ClosedBy (memory : Ps2MemoryMap) (requireExecutable : Bool)
    (block : R5900BasicBlock) (sites : List R5900InstructionSite)
    (terminator : R5900InstructionSite) (result : R5900BasicBlock) : Prop where
  startPc : result.startPc = block.startPc
  instructions : result.instructions = block.instructions ++ sites
  edges : result.edges = exitEdges terminator
  delaySlot : result.delaySlot =
    if terminator.decoded.transfers then
      fetchSite memory (terminator.pc + 4) requireExecutable
    else none
  delaySlotPresent : terminator.decoded.transfers = true → result.delaySlot.isSome

theorem finishWithDelaySlot_eq_ok {word : BitVec 32} {slot : R5900InstructionSite}
    (transfers : (decodeR5900 word).transfers = true) (edgeless : block.edges = [])
    (finished : finishWithDelaySlot block ⟨pc, decodeR5900 word⟩ slot = .ok result) :
    result.startPc = block.startPc ∧ result.instructions = block.instructions ∧
      result.edges = exitEdges ⟨pc, decodeR5900 word⟩ ∧ result.delaySlot = some slot := by
  simp only [finishWithDelaySlot] at finished
  by_cases branch : (decodeR5900 word).isBranch = true
  · rw [if_pos branch, directTarget_of_isBranch branch] at finished
    obtain rfl := Except.ok.inj finished
    simp [appendEdge, edgeless, exitEdges, branch, directTarget_of_isBranch branch]
  · have notBranch : (decodeR5900 word).isBranch = false := eq_false_of_ne_true branch
    rw [if_neg branch] at finished
    rcases decodeR5900_transfers.mp transfers with isBranch | named | named | named | named
    · exact absurd isBranch branch
    · have target := directTarget_of_jump pc notBranch (.inl named)
      rw [named, target] at finished
      obtain rfl := Except.ok.inj finished
      simp [appendEdge, edgeless, exitEdges, notBranch, named, target]
    · have target := directTarget_of_jump pc notBranch (.inr named)
      rw [named, target] at finished
      obtain rfl := Except.ok.inj finished
      simp [appendEdge, edgeless, exitEdges, notBranch, named, target]
    · rw [named] at finished
      obtain rfl := Except.ok.inj finished
      simp [appendEdge, edgeless, exitEdges, notBranch, named]
    · rw [named] at finished
      obtain rfl := Except.ok.inj finished
      simp [appendEdge, edgeless, exitEdges, notBranch, named]

theorem finishControlTransfer_eq_ok {site : R5900InstructionSite}
    (fetched : fetchSite memory pc requireExecutable = some site)
    (transfers : site.decoded.transfers = true) (edgeless : block.edges = [])
    (finished : finishControlTransfer memory
      { block with instructions := block.instructions ++ [site] } site
      requireExecutable = .ok result) :
    ClosedBy memory requireExecutable block [site] site result := by
  unfold finishControlTransfer at finished
  obtain ⟨word, -, rfl⟩ := fetchSite_eq_some fetched
  split at finished
  · cases finished
  · next slot slotFetched =>
      obtain ⟨start, instructions, edges, delaySlot⟩ :=
        finishWithDelaySlot_eq_ok transfers (by exact edgeless) finished
      refine ⟨start, instructions, edges, ?_, ?_⟩
      · rw [if_pos transfers, delaySlot]
        exact slotFetched.symm
      · intro _
        rw [delaySlot]
        rfl

/-- The edges of a site that is not a control transfer. -/
theorem exitEdges_of_not_transfers {word : BitVec 32}
    (stays : (decodeR5900 word).transfers = false) :
    exitEdges ⟨pc, decodeR5900 word⟩ =
      if (decodeR5900 word).endsBlock then [] else [⟨.fallthrough, some (pc + 4)⟩] := by
  have none := mt decodeR5900_transfers.mpr (by rw [stays]; exact Bool.false_ne_true)
  push Not at none
  obtain ⟨notBranch, notJ, notJal, notJr, notJalr⟩ := none
  simp only [exitEdges, if_neg notBranch]

/-- Closing a block right after a site that is not a control transfer. -/
theorem closedBy_of_not_transfers {site : R5900InstructionSite}
    (fetched : fetchSite memory pc requireExecutable = some site)
    (stays : site.decoded.transfers = false)
    (startPc : result.startPc = block.startPc)
    (instructions : result.instructions = block.instructions ++ [site])
    (edges : result.edges =
      if site.decoded.endsBlock then [] else [⟨.fallthrough, some (pc + 4)⟩])
    (delaySlot : result.delaySlot = none) :
    ClosedBy memory requireExecutable block [site] site result := by
  obtain ⟨word, -, rfl⟩ := fetchSite_eq_some fetched
  refine ⟨startPc, instructions, ?_, ?_, ?_⟩
  · rw [edges, exitEdges_of_not_transfers stays]
  · rw [delaySlot, stays]
    rfl
  · intro transfers
    rw [stays] at transfers
    cases transfers

/-- A site put in front of the rest of its block. -/
theorem ClosedBy.cons {site terminator : R5900InstructionSite}
    {sites : List R5900InstructionSite}
    (closed : ClosedBy memory requireExecutable
      { block with instructions := block.instructions ++ [site] } sites terminator
      result) :
    ClosedBy memory requireExecutable block (site :: sites) terminator result where
  startPc := closed.startPc
  instructions := by rw [closed.instructions, List.append_assoc]; rfl
  edges := closed.edges
  delaySlot := closed.delaySlot
  delaySlotPresent := closed.delaySlotPresent

theorem endsBlock_eq_false_iff {decoded : R5900DecodedInstruction} :
    decoded.endsBlock = false ↔ decoded.instruction ≠ .unknown ∧
      decoded.instructionClass ≠ .system ∧ decoded.transfers = false := by
  simp [R5900DecodedInstruction.endsBlock, and_assoc]

/-- One iteration of the fetch loop: the site it appends ends the block, or the
loop goes on behind it. -/
theorem analyzeInstructions_step {remaining : Nat}
    (slotless : block.delaySlot = none) (edgeless : block.edges = [])
    (analyzed : analyzeInstructions memory requireExecutable block pc (remaining + 1) =
      .ok result) :
    ∃ site, fetchSite memory pc requireExecutable = some site ∧
      (site.decoded.endsBlock = true ∧
          ClosedBy memory requireExecutable block [site] site result ∨
        site.decoded.endsBlock = false ∧
          analyzeInstructions memory requireExecutable
            { block with instructions := block.instructions ++ [site] } (pc + 4)
            remaining = .ok result) := by
  rw [analyzeInstructions] at analyzed
  split at analyzed
  · cases analyzed
  · next site fetched =>
      obtain ⟨word, read, siteShape⟩ := fetchSite_eq_some fetched
      refine ⟨site, fetched, ?_⟩
      simp only at analyzed
      split at analyzed
      · next unknown =>
          obtain rfl := Except.ok.inj analyzed
          have stays : site.decoded.transfers = false := by
            rw [siteShape] at unknown ⊢
            exact decodeR5900_unknown_not_transfers unknown
          have ends : site.decoded.endsBlock = true := by
            simp [R5900DecodedInstruction.endsBlock, unknown]
          exact .inl ⟨ends, closedBy_of_not_transfers fetched stays rfl rfl
            (by simp [ends, edgeless]) slotless⟩
      · split at analyzed
        · next system =>
            obtain rfl := Except.ok.inj analyzed
            have stays : site.decoded.transfers = false := by
              rw [siteShape] at system ⊢
              exact decodeR5900_system_not_transfers system
            have ends : site.decoded.endsBlock = true := by
              simp [R5900DecodedInstruction.endsBlock, system]
            exact .inl ⟨ends, closedBy_of_not_transfers fetched stays rfl rfl
              (by simp [ends, edgeless]) slotless⟩
        · split at analyzed
          · next transfers =>
              have ends : site.decoded.endsBlock = true := by
                rw [R5900DecodedInstruction.endsBlock, Bool.or_eq_true]
                exact .inr transfers
              exact .inl
                ⟨ends, finishControlTransfer_eq_ok fetched transfers edgeless analyzed⟩
          · next notUnknown notSystem notTransfers =>
              exact .inr ⟨endsBlock_eq_false_iff.mpr
                ⟨notUnknown, notSystem, eq_false_of_ne_true notTransfers⟩, analyzed⟩

/-- The fetch loop, by induction on its iterations: the run it appends uses them
all up unless an instruction ends the block. -/
theorem analyzeInstructions_eq_ok {remaining : Nat}
    (slotless : block.delaySlot = none) (edgeless : block.edges = [])
    (analyzed : analyzeInstructions memory requireExecutable block pc (remaining + 1) =
      .ok result) :
    ∃ sites terminator, SitesFrom memory requireExecutable pc sites terminator ∧
      ClosedBy memory requireExecutable block sites terminator result ∧
      sites.length ≤ remaining + 1 ∧
      (terminator.decoded.endsBlock = false → sites.length = remaining + 1) := by
  induction remaining generalizing block pc with
  | zero =>
      obtain ⟨site, fetched, ⟨ends, closed⟩ | ⟨continues, limit⟩⟩ :=
        analyzeInstructions_step slotless edgeless analyzed
      · exact ⟨[site], site, .last fetched, closed, by simp, by simp⟩
      · -- the limit is reached right after this site
        obtain rfl := Except.ok.inj limit
        refine ⟨[site], site, .last fetched, ?_, by simp, by simp⟩
        exact closedBy_of_not_transfers fetched (endsBlock_eq_false_iff.mp continues).2.2
          rfl rfl (by simp [continues, edgeless, appendEdge]) slotless
  | succ remaining ih =>
      obtain ⟨site, fetched, ⟨ends, closed⟩ | ⟨continues, rest⟩⟩ :=
        analyzeInstructions_step slotless edgeless analyzed
      · exact ⟨[site], site, .last fetched, closed, by simp, by simp [ends]⟩
      · obtain ⟨sites, terminator, run, closed, bound, full⟩ :=
          ih (by exact slotless) (by exact edgeless) rest
        refine ⟨site :: sites, terminator, .next fetched continues run, closed.cons,
          Nat.succ_le_succ bound, ?_⟩
        intro falls
        rw [List.length_cons, full falls]

theorem maxInstructions_ne_zero_of_analyzed {options : R5900ControlFlowOptions}
    (analyzed : analyzeR5900BasicBlock memory pc options = .ok block) :
    options.maxInstructions ≠ 0 := by
  intro zero
  rw [analyzeR5900BasicBlock, if_pos zero] at analyzed
  cases analyzed

theorem aligned_of_analyzed {options : R5900ControlFlowOptions}
    (analyzed : analyzeR5900BasicBlock memory pc options = .ok block) :
    pc &&& 0x3 = 0 := by
  by_contra unaligned
  rw [analyzeR5900BasicBlock, if_neg (maxInstructions_ne_zero_of_analyzed analyzed),
    if_pos unaligned] at analyzed
  cases analyzed

/-- A successful analysis, with the length of its run. -/
theorem analyzeR5900BasicBlock_eq_ok {options : R5900ControlFlowOptions}
    (analyzed : analyzeR5900BasicBlock memory pc options = .ok block) :
    ∃ terminator, BlockShape memory options.requireExecutable pc terminator block ∧
      block.instructions.length ≤ options.maxInstructions ∧
      (terminator.decoded.endsBlock = false →
        block.instructions.length = options.maxInstructions) := by
  have positive := maxInstructions_ne_zero_of_analyzed analyzed
  have aligned := aligned_of_analyzed analyzed
  rw [analyzeR5900BasicBlock, if_neg positive, if_neg (not_not.mpr aligned)] at analyzed
  obtain ⟨remaining, limit⟩ := Nat.exists_eq_succ_of_ne_zero positive
  rw [limit] at analyzed ⊢
  obtain ⟨sites, terminator, run, closed, bound, full⟩ :=
    analyzeInstructions_eq_ok (by rfl) (by rfl) analyzed
  have instructions : block.instructions = sites := closed.instructions
  rw [← instructions] at run bound full
  exact ⟨terminator,
    ⟨closed.startPc, run, closed.edges, closed.delaySlot, closed.delaySlotPresent⟩,
    bound, full⟩

end Analysis

end Burnout3Recompiled
