import Burnout3Recompiled.R5900ReachabilityClosure

/-!
# Reachability, instruction by instruction

A step relation on guest PCs reads the words of guest memory and knows no
blocks.  The instructions of a complete graph are the PCs this relation reaches,
however the code was cut into blocks, and its delay slots follow the reachable
control transfers.
-/

namespace Burnout3Recompiled

/-- One step of guest control, decided by the word at `pc` alone. -/
inductive InstructionStep (memory : Ps2MemoryMap) (followDirectCalls : Bool) :
    BitVec 32 → BitVec 32 → Prop
  | sequential {pc word : BitVec 32} (read : memory.readU32 pc = some word)
      (known : (decodeR5900 word).instruction ≠ .unknown)
      (user : (decodeR5900 word).instructionClass ≠ .system)
      (notBranch : (decodeR5900 word).isBranch = false)
      (notJump : (decodeR5900 word).isJump = false) :
      InstructionStep memory followDirectCalls pc (pc + 4)
  | branchTaken {pc word target : BitVec 32} (read : memory.readU32 pc = some word)
      (branch : (decodeR5900 word).isBranch = true)
      (destination : (decodeR5900 word).directTarget pc = some target) :
      InstructionStep memory followDirectCalls pc target
  | branchNotTaken {pc word : BitVec 32} (read : memory.readU32 pc = some word)
      (branch : (decodeR5900 word).isBranch = true) :
      InstructionStep memory followDirectCalls pc (pc + 8)
  | jump {pc word target : BitVec 32} (read : memory.readU32 pc = some word)
      (named : (decodeR5900 word).instruction = .j)
      (destination : (decodeR5900 word).directTarget pc = some target) :
      InstructionStep memory followDirectCalls pc target
  | call {pc word target : BitVec 32} (read : memory.readU32 pc = some word)
      (follow : followDirectCalls = true)
      (named : (decodeR5900 word).instruction = .jal)
      (destination : (decodeR5900 word).directTarget pc = some target) :
      InstructionStep memory followDirectCalls pc target
  | callContinuation {pc word : BitVec 32} (read : memory.readU32 pc = some word)
      (named : (decodeR5900 word).instruction = .jal ∨
        (decodeR5900 word).instruction = .jalr) :
      InstructionStep memory followDirectCalls pc (pc + 8)

/-- The guest PCs that control can reach from the entry. -/
def ReachedInstruction (memory : Ps2MemoryMap) (followDirectCalls : Bool)
    (entryPc : BitVec 32) : BitVec 32 → Prop :=
  Relation.ReflTransGen (InstructionStep memory followDirectCalls) entryPc

/-- A branch or a jump stands at `pc`. -/
def TransfersAt (memory : Ps2MemoryMap) (pc : BitVec 32) : Prop :=
  ∃ word, memory.readU32 pc = some word ∧
    ((decodeR5900 word).isBranch = true ∨ (decodeR5900 word).isJump = true)

section Steps

variable {memory : Ps2MemoryMap} {options : R5900ReachabilityOptions}
  {pc target : BitVec 32} {word : BitVec 32}

theorem transfers_eq_false_iff {decoded : R5900DecodedInstruction} :
    decoded.transfers = false ↔ decoded.isBranch = false ∧ decoded.isJump = false :=
  Bool.or_eq_false_iff

theorem exitEdges_of_branch (branch : (decodeR5900 word).isBranch = true) :
    exitEdges ⟨pc, decodeR5900 word⟩ =
      [⟨.branchTaken, (decodeR5900 word).directTarget pc⟩,
        ⟨.branchNotTaken, some (pc + 8)⟩] := by
  simp only [exitEdges, if_pos branch]

theorem exitEdges_of_j (named : (decodeR5900 word).instruction = .j) :
    exitEdges ⟨pc, decodeR5900 word⟩ =
      [⟨.directJump, (decodeR5900 word).directTarget pc⟩] := by
  have notBranch := Classified.not_branch (decodeR5900_class word) named (by decide)
  simp [exitEdges, notBranch, named]

theorem exitEdges_of_jal (named : (decodeR5900 word).instruction = .jal) :
    exitEdges ⟨pc, decodeR5900 word⟩ =
      [⟨.directCall, (decodeR5900 word).directTarget pc⟩,
        ⟨.callContinuation, some (pc + 8)⟩] := by
  have notBranch := Classified.not_branch (decodeR5900_class word) named (by decide)
  simp [exitEdges, notBranch, named]

theorem exitEdges_of_jr (named : (decodeR5900 word).instruction = .jr) :
    exitEdges ⟨pc, decodeR5900 word⟩ = [⟨.indirectJump, none⟩] := by
  have notBranch := Classified.not_branch (decodeR5900_class word) named (by decide)
  simp [exitEdges, notBranch, named]

theorem exitEdges_of_jalr (named : (decodeR5900 word).instruction = .jalr) :
    exitEdges ⟨pc, decodeR5900 word⟩ =
      [⟨.indirectCall, none⟩, ⟨.callContinuation, some (pc + 8)⟩] := by
  have notBranch := Classified.not_branch (decodeR5900_class word) named (by decide)
  simp [exitEdges, notBranch, named]

/-- A step is one of the followed edges that the word would give a block. -/
theorem followed_of_instructionStep (read : memory.readU32 pc = some word)
    (step : InstructionStep memory options.followDirectCalls pc target) :
    target ∈ followedTargets options (exitEdges ⟨pc, decodeR5900 word⟩) := by
  have same : ∀ {other}, memory.readU32 pc = some other → other = word :=
    fun readOther => Option.some.inj (readOther.symm.trans read)
  cases step with
  | sequential readStep known user notBranch notJump =>
      obtain rfl := same readStep
      have stays := transfers_eq_false_iff.mpr ⟨notBranch, notJump⟩
      rw [exitEdges_of_not_transfers stays,
        endsBlock_eq_false_iff.mpr ⟨known, user, stays⟩]
      simp [followedTargets, R5900ReachabilityOptions.follows]
  | branchTaken readStep branch destination =>
      obtain rfl := same readStep
      rw [exitEdges_of_branch branch, destination]
      simp [followedTargets, R5900ReachabilityOptions.follows]
  | branchNotTaken readStep branch =>
      obtain rfl := same readStep
      rw [exitEdges_of_branch branch]
      exact mem_followedTargets.mpr ⟨_, .tail _ (.head _), rfl, rfl⟩
  | jump readStep named destination =>
      obtain rfl := same readStep
      rw [exitEdges_of_j named, destination]
      simp [followedTargets, R5900ReachabilityOptions.follows]
  | call readStep follow named destination =>
      obtain rfl := same readStep
      rw [exitEdges_of_jal named, destination]
      exact mem_followedTargets.mpr ⟨_, .head _, follow, rfl⟩
  | callContinuation readStep named =>
      obtain rfl := same readStep
      rcases named with jal | jalr
      · rw [exitEdges_of_jal jal]
        exact mem_followedTargets.mpr ⟨_, .tail _ (.head _), rfl, rfl⟩
      · rw [exitEdges_of_jalr jalr]
        exact mem_followedTargets.mpr ⟨_, .tail _ (.head _), rfl, rfl⟩

theorem instructionStep_of_followed (read : memory.readU32 pc = some word)
    (followed : target ∈ followedTargets options (exitEdges ⟨pc, decodeR5900 word⟩)) :
    InstructionStep memory options.followDirectCalls pc target := by
  obtain ⟨edge, member, follows, isTarget⟩ := mem_followedTargets.mp followed
  cases transfers : (decodeR5900 word).transfers with
  | false =>
      rw [exitEdges_of_not_transfers transfers] at member
      split at member
      · cases member
      · next continues =>
          obtain rfl := List.mem_singleton.mp member
          obtain rfl := Option.some.inj isTarget
          obtain ⟨known, user, -⟩ :=
            endsBlock_eq_false_iff.mp (eq_false_of_ne_true continues)
          obtain ⟨notBranch, notJump⟩ := transfers_eq_false_iff.mp transfers
          exact .sequential read known user notBranch notJump
  | true =>
      rcases decodeR5900_transfers.mp transfers with branch | named | named | named | named
      · rw [exitEdges_of_branch branch] at member
        rcases List.mem_cons.mp member with rfl | member
        · exact .branchTaken read branch isTarget
        · obtain rfl := List.mem_singleton.mp member
          obtain rfl := Option.some.inj isTarget
          exact .branchNotTaken read branch
      · rw [exitEdges_of_j named] at member
        obtain rfl := List.mem_singleton.mp member
        exact .jump read named isTarget
      · rw [exitEdges_of_jal named] at member
        rcases List.mem_cons.mp member with rfl | member
        · exact .call read follows named isTarget
        · obtain rfl := List.mem_singleton.mp member
          obtain rfl := Option.some.inj isTarget
          exact .callContinuation read (.inl named)
      · rw [exitEdges_of_jr named] at member
        obtain rfl := List.mem_singleton.mp member
        cases isTarget
      · rw [exitEdges_of_jalr named] at member
        rcases List.mem_cons.mp member with rfl | member
        · cases isTarget
        · obtain rfl := List.mem_singleton.mp member
          obtain rfl := Option.some.inj isTarget
          exact .callContinuation read (.inr named)

end Steps

section Blocks

variable {memory : Ps2MemoryMap} {options : R5900ReachabilityOptions}
  {requireExecutable : Bool} {pc target : BitVec 32}
  {site terminator : R5900InstructionSite} {sites : List R5900InstructionSite}

theorem instructionStep_iff_followed
    (fetched : fetchSite memory site.pc requireExecutable = some site) :
    InstructionStep memory options.followDirectCalls site.pc target ↔
      target ∈ followedTargets options (exitEdges site) := by
  obtain ⟨word, read, shape⟩ := fetchSite_eq_some fetched
  rw [shape]
  exact ⟨followed_of_instructionStep read, instructionStep_of_followed read⟩

theorem transfersAt_iff
    (fetched : fetchSite memory site.pc requireExecutable = some site) :
    TransfersAt memory site.pc ↔ site.decoded.transfers = true := by
  obtain ⟨word, read, shape⟩ := fetchSite_eq_some fetched
  rw [TransfersAt, read, shape, R5900DecodedInstruction.transfers, Bool.or_eq_true]
  constructor
  · rintro ⟨other, same, transfers⟩
    obtain rfl := Option.some.inj same
    exact transfers
  · exact fun transfers => ⟨word, rfl, transfers⟩

/-- A site that ends no block steps to the next instruction. -/
theorem followedTargets_of_continues
    (fetched : fetchSite memory site.pc requireExecutable = some site)
    (continues : site.decoded.endsBlock = false) :
    followedTargets options (exitEdges site) = [site.pc + 4] := by
  obtain ⟨word, read, shape⟩ := fetchSite_eq_some fetched
  have stays := (endsBlock_eq_false_iff.mp continues).2.2
  rw [shape] at continues stays ⊢
  rw [exitEdges_of_not_transfers stays, continues]
  rfl

/-- From the start of a run every site of it is reached. -/
theorem SitesFrom.reached
    (run : SitesFrom memory requireExecutable pc sites terminator)
    (member : site ∈ sites) :
    ReachedInstruction memory options.followDirectCalls pc site.pc := by
  induction run with
  | last fetched =>
      obtain rfl := List.mem_singleton.mp member
      rw [fetchSite_pc fetched]
      exact .refl
  | @next pc first terminator sites fetched continues rest ih =>
      have place := fetchSite_pc fetched
      rcases List.mem_cons.mp member with rfl | later
      · rw [place]
        exact .refl
      · rw [← place] at fetched
        have step : InstructionStep memory options.followDirectCalls first.pc
            (first.pc + 4) := by
          rw [instructionStep_iff_followed fetched,
            followedTargets_of_continues fetched continues]
          exact .head _
        rw [place] at step
        exact (ih later).head step

end Blocks

section Graph

variable {memory : Ps2MemoryMap} {options : R5900ReachabilityOptions}
  {entryPc pc target : BitVec 32} {graph : R5900ReachabilityGraph}

/-- The PC holds an instruction of some block. -/
def R5900ReachabilityGraph.HasInstruction (graph : R5900ReachabilityGraph)
    (pc : BitVec 32) : Prop :=
  ∃ block ∈ graph.blocks, ∃ site ∈ block.instructions, site.pc = pc

/-- The PC holds the delay slot of some block. -/
def R5900ReachabilityGraph.HasDelaySlot (graph : R5900ReachabilityGraph)
    (pc : BitVec 32) : Prop :=
  ∃ block ∈ graph.blocks, ∃ site, block.delaySlot = some site ∧ site.pc = pc

/-- Every reachable start has been analysed. -/
def Complete (memory : Ps2MemoryMap) (options : R5900ReachabilityOptions)
    (entryPc : BitVec 32) (graph : R5900ReachabilityGraph) : Prop :=
  AccountsForReach memory options entryPc graph ∧
    ∀ issue ∈ graph.issues, issue.kind ≠ .targetAnalysisFailed

/-- A reachable start of a complete graph starts a block. -/
theorem Complete.block_of_start (complete : Complete memory options entryPc graph)
    (reached : ReachedStart memory options entryPc pc) :
    ∃ block ∈ graph.blocks,
      analyzeR5900BasicBlock memory pc options.blockOptions = .ok block := by
  cases analyzed : analyzeR5900BasicBlock memory pc options.blockOptions with
  | ok block =>
      have only := complete.1.blockOfStart pc block reached analyzed
      have member : block ∈ graph.blocks.filter (fun other => other.startPc = pc) := by
        rw [only]
        exact .head _
      exact ⟨block, (List.mem_filter.mp member).1, rfl⟩
  | error failure =>
      obtain ⟨issue, only, -⟩ := complete.1.issueOfFailure pc failure reached analyzed
      have member : issue ∈ graph.issues.filter (reportsFailureAt pc) := by
        rw [only]
        exact .head _
      obtain ⟨inIssues, reports⟩ := List.mem_filter.mp member
      exact absurd (of_decide_eq_true reports).1 (complete.2 issue inIssues)

/-- A followed edge is a step of the last instruction of its block. -/
theorem reachedInstruction_of_start
    (reached : ReachedStart memory options entryPc pc) :
    ReachedInstruction memory options.followDirectCalls entryPc pc := by
  induction reached with
  | refl => exact .refl
  | tail _ follows ih =>
      obtain ⟨block, analyzed, edge, inEdges, followed, isTarget⟩ := follows
      obtain ⟨terminator, shape, -⟩ := analyzeR5900BasicBlock_eq_ok analyzed
      have last := shape.sites.terminator_mem
      rw [shape.edges] at inEdges
      have step := (instructionStep_iff_followed
        (shape.sites.fetched_of_mem last)).mpr
          (mem_followedTargets.mpr ⟨edge, inEdges, followed, isTarget⟩)
      exact ((ih.trans (shape.sites.reached last)).tail step)

/-- The instructions of a complete graph are closed under steps. -/
theorem Complete.hasInstruction_step (complete : Complete memory options entryPc graph)
    (present : graph.HasInstruction pc)
    (step : InstructionStep memory options.followDirectCalls pc target) :
    graph.HasInstruction target := by
  obtain ⟨block, inBlocks, site, inSites, rfl⟩ := present
  obtain ⟨reached, analyzed⟩ := complete.1.startOfBlock block inBlocks
  obtain ⟨terminator, shape, -⟩ := analyzeR5900BasicBlock_eq_ok analyzed
  have fetched := shape.sites.fetched_of_mem inSites
  have followed := (instructionStep_iff_followed fetched).mp step
  rcases shape.sites.next_of_mem inSites with rfl | ⟨continues, other, inBlock, place⟩
  · -- the terminator: its followed edges start blocks of their own
    obtain ⟨edge, inEdges, follows, isTarget⟩ := mem_followedTargets.mp followed
    rw [← shape.edges] at inEdges
    have next : ReachedStart memory options entryPc target :=
      reached.tail ⟨block, analyzed, edge, inEdges, follows, isTarget⟩
    obtain ⟨nextBlock, nextInBlocks, nextAnalyzed⟩ := complete.block_of_start next
    obtain ⟨nextTerminator, nextShape, -⟩ := analyzeR5900BasicBlock_eq_ok nextAnalyzed
    obtain ⟨first, rest, instructions, firstPlace⟩ := nextShape.sites.head
    exact ⟨nextBlock, nextInBlocks, first, instructions ▸ .head _, firstPlace⟩
  · rw [followedTargets_of_continues fetched continues] at followed
    obtain rfl := List.mem_singleton.mp followed
    exact ⟨block, inBlocks, other, inBlock, place⟩

theorem Complete.hasInstruction_iff (complete : Complete memory options entryPc graph) :
    graph.HasInstruction pc ↔
      ReachedInstruction memory options.followDirectCalls entryPc pc := by
  constructor
  · rintro ⟨block, inBlocks, site, inSites, rfl⟩
    obtain ⟨reached, analyzed⟩ := complete.1.startOfBlock block inBlocks
    obtain ⟨terminator, shape, -⟩ := analyzeR5900BasicBlock_eq_ok analyzed
    exact (reachedInstruction_of_start reached).trans (shape.sites.reached inSites)
  · intro reached
    induction reached with
    | refl =>
        obtain ⟨block, inBlocks, analyzed⟩ := complete.block_of_start .refl
        obtain ⟨terminator, shape, -⟩ := analyzeR5900BasicBlock_eq_ok analyzed
        obtain ⟨first, rest, instructions, place⟩ := shape.sites.head
        exact ⟨block, inBlocks, first, instructions ▸ .head _, place⟩
    | tail _ step ih => exact complete.hasInstruction_step ih step

theorem Complete.hasDelaySlot_iff (complete : Complete memory options entryPc graph) :
    graph.HasDelaySlot pc ↔
      ∃ transfer, ReachedInstruction memory options.followDirectCalls entryPc transfer ∧
        TransfersAt memory transfer ∧ pc = transfer + 4 := by
  constructor
  · rintro ⟨block, inBlocks, slot, present, rfl⟩
    obtain ⟨reached, analyzed⟩ := complete.1.startOfBlock block inBlocks
    obtain ⟨terminator, shape, -⟩ := analyzeR5900BasicBlock_eq_ok analyzed
    have delaySlot := shape.delaySlot
    rw [present] at delaySlot
    split at delaySlot
    · next transfers =>
        have last := shape.sites.terminator_mem
        refine ⟨terminator.pc, ?_, ?_, fetchSite_pc delaySlot.symm⟩
        · exact (reachedInstruction_of_start reached).trans (shape.sites.reached last)
        · exact (transfersAt_iff (shape.sites.fetched_of_mem last)).mpr transfers
    · cases delaySlot
  · rintro ⟨transfer, reached, transfers, rfl⟩
    obtain ⟨block, inBlocks, site, inSites, rfl⟩ := complete.hasInstruction_iff.mpr reached
    obtain ⟨-, analyzed⟩ := complete.1.startOfBlock block inBlocks
    obtain ⟨terminator, shape, -⟩ := analyzeR5900BasicBlock_eq_ok analyzed
    have transferring := (transfersAt_iff (shape.sites.fetched_of_mem inSites)).mp transfers
    rcases shape.sites.next_of_mem inSites with rfl | ⟨continues, -⟩
    · obtain ⟨slot, present⟩ :=
        Option.isSome_iff_exists.mp (shape.delaySlotPresent transferring)
      have delaySlot := shape.delaySlot
      rw [present, if_pos transferring] at delaySlot
      exact ⟨block, inBlocks, slot, present, fetchSite_pc delaySlot.symm⟩
    · rw [(endsBlock_eq_false_iff.mp continues).2.2] at transferring
      cases transferring

end Graph

/-- Reachability is exact on instructions: a graph without a block limit issue and
without a failed target holds the reachable PCs and the delay slots behind the
reachable control transfers. -/
theorem analyzeR5900Reachability_instructions (memory : Ps2MemoryMap)
    (entryPc : BitVec 32) (options : R5900ReachabilityOptions)
    (graph : R5900ReachabilityGraph)
    (succeeded : analyzeR5900Reachability memory entryPc options = .ok graph)
    (unlimited : ∀ issue ∈ graph.issues, issue.kind ≠ .blockLimitReached)
    (analyzed : ∀ issue ∈ graph.issues, issue.kind ≠ .targetAnalysisFailed) :
    (∀ pc, graph.HasInstruction pc ↔
      ReachedInstruction memory options.followDirectCalls entryPc pc) ∧
    (∀ pc, graph.HasDelaySlot pc ↔
      ∃ transfer, ReachedInstruction memory options.followDirectCalls entryPc transfer ∧
        TransfersAt memory transfer ∧ pc = transfer + 4) := by
  obtain ⟨count, search⟩ := analyzeR5900Reachability_fromSearch succeeded
  have complete : Complete memory options entryPc graph := by
    refine ⟨?_, analyzed⟩
    rcases search.ended with finished | ⟨-, issue, member, kind⟩
    · exact search.accounts finished
    · exact absurd kind (unlimited issue member)
  exact ⟨fun _ => complete.hasInstruction_iff, fun _ => complete.hasDelaySlot_iff⟩

/-- A call in front of a jump back to it: the jump target is a leader inside the
entry block, and both blocks end in the one call. -/
def loopedCallMemory : Ps2MemoryMap where
  regions := [⟨0x1000, 20, 5⟩]
  backingRegions :=
    [{ metadata := ⟨0x1000, 20, 5⟩
       bytes :=
        [0x00, 0x00, 0x00, 0x00, 0x00, 0x08, 0x00, 0x0C, 0x00, 0x00, 0x00, 0x00] ++
        [0x01, 0x04, 0x00, 0x08, 0x00, 0x00, 0x00, 0x00]
       sized := rfl }]
  mirrored := mirrored_singleton

theorem analyzeR5900Reachability_instructions_loopedCallMemory :
    ∃ graph, analyzeR5900Reachability loopedCallMemory 0x1000 {} = .ok graph ∧
      graph.issues.map (·.kind) = [.leaderInsideBlock] ∧
      (∀ pc, graph.HasInstruction pc ↔
        ReachedInstruction loopedCallMemory false 0x1000 pc) ∧
      (∀ pc, graph.HasDelaySlot pc ↔
        ∃ transfer, ReachedInstruction loopedCallMemory false 0x1000 transfer ∧
          TransfersAt loopedCallMemory transfer ∧ pc = transfer + 4) := by
  have outcome : (analyzeR5900Reachability loopedCallMemory 0x1000 {}).toOption.map
      (fun graph => graph.issues.map (·.kind)) = some [.leaderInsideBlock] := by
    decide +kernel
  obtain ⟨graph, found, kinds⟩ := Option.map_eq_some_iff.mp outcome
  have succeeded := OrderedChecks.toOption_eq_some_iff.mp found
  refine ⟨graph, succeeded, kinds, ?_⟩
  exact analyzeR5900Reachability_instructions loopedCallMemory 0x1000 {} graph succeeded
    (kind_ne_of_kinds kinds (by decide)) (kind_ne_of_kinds kinds (by decide))

end Burnout3Recompiled
