import Burnout3Recompiled.R5900BlockLimit
import Burnout3Recompiled.R5900LeaderOverlap
import Burnout3Recompiled.R5900MaximalBlock

/-!
# Graphs are well formed

Whatever is decoded, a graph names only aligned PCs: branch displacements and jump
fields are counted in words, and a block advances by whole words.  A target can
therefore fail for what is mapped there, and for no other reason.
-/

namespace Burnout3Recompiled

open WorklistSearch (explores_after)

/-- The PC is a multiple of the instruction size. -/
def InstructionAligned (pc : BitVec 32) : Prop :=
  pc.toNat % 4 = 0

section Aligned

variable {first second pc target : BitVec 32}

theorem instructionAligned_add (firstAligned : InstructionAligned first)
    (secondAligned : InstructionAligned second) : InstructionAligned (first + second) := by
  unfold InstructionAligned at *
  rw [BitVec.toNat_add]
  omega

theorem instructionAligned_or (firstAligned : InstructionAligned first)
    (secondAligned : InstructionAligned second) : InstructionAligned (first ||| second) := by
  have firstLow : first.toNat % 2 ^ 2 = 0 := firstAligned
  have secondLow : second.toNat % 2 ^ 2 = 0 := secondAligned
  have low : (first ||| second).toNat % 2 ^ 2 = 0 := by
    rw [BitVec.toNat_or, Nat.or_mod_two_pow, firstLow, secondLow, Nat.or_zero]
  exact low

theorem instructionAligned_and (firstAligned : InstructionAligned first) :
    InstructionAligned (second &&& first) := by
  have firstLow : first.toNat % 2 ^ 2 = 0 := firstAligned
  have low : (second &&& first).toNat % 2 ^ 2 = 0 := by
    rw [BitVec.toNat_and, Nat.and_mod_two_pow, firstLow, Nat.and_zero]
  exact low

theorem instructionAligned_mul_four (pc : BitVec 32) : InstructionAligned (pc * 4) := by
  unfold InstructionAligned
  rw [BitVec.toNat_mul]
  change pc.toNat * 4 % 2 ^ 32 % 4 = 0
  omega

theorem instructionAligned_shiftLeft_two (pc : BitVec 32) :
    InstructionAligned (pc <<< 2) := by
  unfold InstructionAligned
  rw [BitVec.toNat_shiftLeft, Nat.shiftLeft_eq]
  omega

theorem instructionAligned_instructionPc (aligned : InstructionAligned pc) (index : Nat) :
    InstructionAligned (instructionPc pc index) := by
  refine instructionAligned_add aligned ?_
  unfold InstructionAligned
  rw [BitVec.toNat_ofNat]
  omega

theorem toNat_instructionPc (pc : BitVec 32) (index : Nat) :
    (instructionPc pc index).toNat = (pc.toNat + 4 * index) % 2 ^ 32 := by
  rw [instructionPc, BitVec.toNat_add, BitVec.toNat_ofNat, Nat.add_mod_mod]

/-- The target of a branch or jump is as aligned as its own PC. -/
theorem instructionAligned_directTarget {decoded : R5900DecodedInstruction}
    (aligned : InstructionAligned pc) (known : decoded.directTarget pc = some target) :
    InstructionAligned target := by
  have base : InstructionAligned (pc + 4) := instructionAligned_add aligned rfl
  unfold R5900DecodedInstruction.directTarget at known
  split at known
  · obtain rfl := Option.some.inj known
    exact instructionAligned_add base (instructionAligned_mul_four _)
  · split at known
    · obtain rfl := Option.some.inj known
      exact instructionAligned_or (instructionAligned_and rfl)
        (instructionAligned_shiftLeft_two _)
    · cases known

theorem instructionAligned_exitEdges {site : R5900InstructionSite}
    {edge : R5900ControlFlowEdge} (aligned : InstructionAligned site.pc)
    (member : edge ∈ exitEdges site) (known : edge.target = some target) :
    InstructionAligned target := by
  have direct (isDirect : edge.target = site.decoded.directTarget site.pc) :
      InstructionAligned target :=
    instructionAligned_directTarget aligned (isDirect.symm.trans known)
  have behind {offset : BitVec 32} (isBehind : edge.target = some (site.pc + offset))
      (whole : InstructionAligned offset) : InstructionAligned target := by
    obtain rfl := Option.some.inj (isBehind.symm.trans known)
    exact instructionAligned_add aligned whole
  simp only [exitEdges] at member
  split at member
  · simp only [List.mem_cons, List.not_mem_nil, or_false] at member
    rcases member with rfl | rfl
    · exact direct rfl
    · exact behind rfl rfl
  · split at member
    · rw [List.mem_singleton.mp member] at direct
      exact direct rfl
    · simp only [List.mem_cons, List.not_mem_nil, or_false] at member
      rcases member with rfl | rfl
      · exact direct rfl
      · exact behind rfl rfl
    · rw [List.mem_singleton.mp member] at known
      cases known
    · simp only [List.mem_cons, List.not_mem_nil, or_false] at member
      rcases member with rfl | rfl
      · cases known
      · exact behind rfl rfl
    · split at member
      · cases member
      · rw [List.mem_singleton.mp member] at behind
        exact behind rfl rfl

end Aligned

/-- The layout of a block in the address space. -/
structure WellFormedBlock (block : R5900BasicBlock) : Prop where
  start : InstructionAligned block.startPc
  instructions : ∀ index site, block.instructions[index]? = some site →
    site.pc.toNat = (block.startPc.toNat + 4 * index) % 2 ^ 32
  instructionsAligned : ∀ site ∈ block.instructions, InstructionAligned site.pc
  delaySlot : ∀ slot, block.delaySlot = some slot →
    InstructionAligned slot.pc ∧
      ∃ last, block.instructions.getLast? = some last ∧ slot.pc = last.pc + 4
  edges : ∀ edge ∈ block.edges, ∀ target, edge.target = some target →
    InstructionAligned target

section Blocks

variable {memory : Ps2MemoryMap} {pc : BitVec 32} {options : R5900ControlFlowOptions}
  {block : R5900BasicBlock}

theorem instructionAligned_of_analyzed
    (analyzed : analyzeR5900BasicBlock memory pc options = .ok block) :
    InstructionAligned pc :=
  (and_three_eq_zero_iff pc).mp (aligned_of_analyzed analyzed)

theorem wellFormedBlock_of_analyzed
    (analyzed : analyzeR5900BasicBlock memory pc options = .ok block) :
    WellFormedBlock block := by
  have aligned := instructionAligned_of_analyzed analyzed
  have fetched := analyzeR5900BasicBlock_fetched analyzed
  obtain ⟨terminator, shape, -⟩ := analyzeR5900BasicBlock_eq_ok analyzed
  have start := shape.start
  have inBlock : ∀ site ∈ block.instructions, InstructionAligned site.pc := by
    intro site member
    obtain ⟨index, present⟩ := List.mem_iff_getElem?.mp member
    rw [fetched.pc_getElem? present]
    exact instructionAligned_instructionPc aligned index
  have last : InstructionAligned terminator.pc := inBlock _ shape.sites.terminator_mem
  refine ⟨start ▸ aligned, ?_, inBlock, ?_, ?_⟩
  · intro index site present
    rw [fetched.pc_getElem? present, start, toNat_instructionPc]
  · intro slot present
    have delaySlot := shape.delaySlot
    rw [present] at delaySlot
    split at delaySlot
    · have place : slot.pc = terminator.pc + 4 := fetchSite_pc delaySlot.symm
      rw [place]
      exact ⟨instructionAligned_add last rfl, terminator, shape.sites.getLast?, rfl⟩
    · cases delaySlot
  · intro edge member target known
    rw [shape.edges] at member
    exact instructionAligned_exitEdges last member known

end Blocks

/-- The errors of a block analysis that depend on the memory. -/
def R5900ControlFlowError.concernsMemory (error : R5900ControlFlowError) : Prop :=
  error = .unmappedInstruction ∨ error = .nonExecutableInstruction ∨
    error = .missingDelaySlot ∨ error = .nonExecutableDelaySlot

section Failures

variable {memory : Ps2MemoryMap} {pc : BitVec 32} {requireExecutable : Bool}
  {failure : R5900ControlFlowFailure} {block : R5900BasicBlock}
  {site slot : R5900InstructionSite}

theorem fetchInstructionFailure_concernsMemory :
    (fetchInstructionFailure memory pc requireExecutable).error.concernsMemory := by
  unfold fetchInstructionFailure
  split
  · exact .inr (.inl rfl)
  · exact .inl rfl

theorem fetchDelaySlotFailure_concernsMemory :
    (fetchDelaySlotFailure memory pc requireExecutable).error.concernsMemory := by
  unfold fetchDelaySlotFailure
  split
  · exact .inr (.inr (.inr rfl))
  · exact .inr (.inr (.inl rfl))

theorem finishWithDelaySlot_concernsMemory
    (failed : finishWithDelaySlot block site slot = .error failure) :
    failure.error.concernsMemory := by
  simp only [finishWithDelaySlot] at failed
  split at failed
  · split at failed
    · obtain rfl := Except.error.inj failed
      exact .inl rfl
    · cases failed
  · split at failed
    · split at failed
      · obtain rfl := Except.error.inj failed
        exact .inl rfl
      · cases failed
    · split at failed
      · obtain rfl := Except.error.inj failed
        exact .inl rfl
      · cases failed
    all_goals cases failed

theorem finishControlTransfer_concernsMemory
    (failed : finishControlTransfer memory block site requireExecutable = .error failure) :
    failure.error.concernsMemory := by
  unfold finishControlTransfer at failed
  split at failed
  · obtain rfl := Except.error.inj failed
    exact fetchDelaySlotFailure_concernsMemory
  · exact finishWithDelaySlot_concernsMemory failed

theorem analyzeInstructions_concernsMemory {remaining : Nat}
    (failed : analyzeInstructions memory requireExecutable block pc remaining =
      .error failure) :
    failure.error.concernsMemory := by
  induction remaining generalizing block pc with
  | zero => cases failed
  | succ remaining ih =>
      rw [analyzeInstructions] at failed
      split at failed
      · obtain rfl := Except.error.inj failed
        exact fetchInstructionFailure_concernsMemory
      · simp only at failed
        split at failed
        · cases failed
        · split at failed
          · cases failed
          · split at failed
            · exact finishControlTransfer_concernsMemory failed
            · exact ih failed

/-- With a limit and an aligned start only the memory can make an analysis fail. -/
theorem analyzeR5900BasicBlock_concernsMemory {options : R5900ControlFlowOptions}
    (limit : options.maxInstructions ≠ 0) (aligned : InstructionAligned pc)
    (failed : analyzeR5900BasicBlock memory pc options = .error failure) :
    failure.error.concernsMemory := by
  have low : ¬pc &&& 0x3 ≠ 0 := not_not.mpr ((and_three_eq_zero_iff pc).mpr aligned)
  rw [analyzeR5900BasicBlock, if_neg limit, if_neg low] at failed
  exact analyzeInstructions_concernsMemory failed

end Failures

section Loop

variable {memory : Ps2MemoryMap} {options : R5900ReachabilityOptions}
  {entryPc : BitVec 32} {count : Nat} {state : ReachabilityState}
  {graph : R5900ReachabilityGraph} {block : R5900BasicBlock}

theorem recordBlock_entryPc :
    (recordBlock options block state).graph.entryPc = state.graph.entryPc := by
  unfold recordBlock
  induction block.edges using List.reverseRecOn with
  | nil => rfl
  | append_singleton edges edge ih =>
      rw [List.foldl_append, List.foldl_cons, List.foldl_nil,
        (processEdge_keeps edge).1, ih]

theorem exploreWorklist_entryPc
    (explored : exploreWorklist memory options state = .ok graph) :
    graph.entryPc = state.graph.entryPc := by
  induction state using exploreWorklist_induction memory options with
  | empty state empty =>
      rw [exploreWorklist_empty empty] at explored
      rw [← Except.ok.inj explored]
  | full state pending rest taken limit =>
      rw [exploreWorklist_full taken limit] at explored
      rw [← Except.ok.inj explored]
      rfl
  | entryFails state pending rest taken room failure failed isEntry =>
      rw [exploreWorklist_failed taken room failed, if_pos isEntry] at explored
      cases explored
  | targetFails state pending rest taken room failure failed notEntry ih =>
      rw [exploreWorklist_failed taken room failed, if_neg notEntry] at explored
      exact ih explored
  | records state pending rest taken room block analyzed ih =>
      rw [exploreWorklist_record taken room analyzed] at explored
      rw [ih explored, recordBlock_entryPc]

/-- The loop ends in a state of the search that starts at the entry, which could be
analysed, and the graph still has the entry's block in front. -/
theorem analyzeR5900Reachability_explored
    (succeeded : analyzeR5900Reachability memory entryPc options = .ok graph) :
    ∃ explored final count, graph = detectOverlappingLeaders explored ∧
      TracksSearch memory options entryPc count final ∧ EndsAt options final explored ∧
      graph.entryPc = entryPc ∧
      ∃ block rest,
        analyzeR5900BasicBlock memory entryPc options.blockOptions = .ok block ∧
        graph.blocks = block :: rest := by
  have positive : 0 < options.maxBlocks := by
    by_contra zero
    rw [analyzeR5900Reachability, if_pos (Nat.eq_zero_of_not_pos zero)] at succeeded
    cases succeeded
  cases analyzed : analyzeR5900BasicBlock memory entryPc options.blockOptions with
  | error failure =>
      rw [analyzeR5900Reachability_failed positive analyzed] at succeeded
      cases succeeded
  | ok block =>
      have recorded := analyzeR5900Reachability_record positive analyzed
      rw [analyzeR5900Reachability, if_neg (Nat.ne_of_gt positive)] at succeeded recorded
      obtain ⟨explored, run, rfl⟩ := OrderedChecks.map_eq_ok_iff.mp succeeded
      obtain ⟨count, final, tracks, ends⟩ := exploreWorklist_tracks tracksSearch_start run
      refine ⟨explored, final, count, rfl, tracks, ends, exploreWorklist_entryPc run, ?_⟩
      rw [run] at recorded
      obtain ⟨other, appended, front⟩ := exploreWorklist_extends memory options
        (recordEntry options entryPc block) entryTaken_recordEntry
      rw [appended] at recorded
      have same : detectOverlappingLeaders explored = detectOverlappingLeaders other :=
        Except.ok.inj recorded
      obtain ⟨rest, blocks⟩ := front.blocks
      rw [blocks_recordEntry] at blocks
      refine ⟨block, rest, rfl, ?_⟩
      rw [same]
      exact blocks.symm

/-- Everything the search has scheduled is aligned. -/
theorem instructionAligned_of_scheduled (entryAligned : InstructionAligned entryPc)
    {item : BitVec 32 × BitVec 32}
    (member : item ∈ (searchAfter memory options entryPc count).visited ++
      (searchAfter memory options entryPc count).pending) :
    InstructionAligned item.1 := by
  have explores := explores_after (blockSuccessors memory options) entryPc count
  rcases explores.found item member with root | ⟨-, isNext, -⟩
  · rw [root]
    exact entryAligned
  · obtain ⟨block, analyzed, edge, inEdges, -, target⟩ := mem_blockSuccessors.mp isNext
    exact (wellFormedBlock_of_analyzed analyzed).edges edge inEdges item.1 target

/-- What an issue may say about its target. -/
structure WellFormedIssue (issue : R5900ReachabilityIssue) : Prop where
  target : ∀ target, issue.target = some target → InstructionAligned target
  failure : issue.kind = .targetAnalysisFailed →
    ∃ error, issue.analysisError = some error ∧ error.concernsMemory

/-- An issue about a target that has not failed. -/
theorem wellFormedIssue_of_target {issue : R5900ReachabilityIssue} {target : BitVec 32}
    (named : issue.target = some target) (aligned : InstructionAligned target)
    (other : issue.kind ≠ .targetAnalysisFailed) : WellFormedIssue issue where
  target := by
    intro known same
    rw [named] at same
    rwa [← Option.some.inj same]
  failure kind := absurd kind other

theorem wellFormedIssue_of_visited (limit : options.blockOptions.maxInstructions ≠ 0)
    {item : BitVec 32 × BitVec 32} (aligned : InstructionAligned item.1)
    {issue : R5900ReachabilityIssue} (member : issue ∈ visitIssues memory options item) :
    WellFormedIssue issue := by
  cases analyzed : analyzeR5900BasicBlock memory item.1 options.blockOptions with
  | ok block =>
      rw [visitIssues_of_analyzed analyzed] at member
      split at member
      · rw [List.mem_singleton.mp member]
        refine ⟨?_, ?_⟩
        · intro target known
          cases known
        · intro kind
          cases kind
      · cases member
  | error failure =>
      rw [visitIssues, analyzed] at member
      rw [List.mem_singleton.mp member]
      refine ⟨?_, ?_⟩
      · intro target known
        rw [← Option.some.inj known]
        exact aligned
      · intro _
        exact ⟨failure.error, rfl, analyzeR5900BasicBlock_concernsMemory limit aligned analyzed⟩

/-- The issues the loop leaves behind. -/
theorem wellFormedIssue_of_endsAt (limit : options.blockOptions.maxInstructions ≠ 0)
    (entryAligned : InstructionAligned entryPc)
    (tracks : TracksSearch memory options entryPc count state)
    (ends : EndsAt options state graph) :
    ∀ issue ∈ graph.issues, WellFormedIssue issue := by
  have visited : ∀ issue ∈ state.graph.issues, WellFormedIssue issue := by
    intro issue member
    rw [tracks.issues] at member
    obtain ⟨item, inVisited, inIssues⟩ := List.mem_flatMap.mp member
    exact wellFormedIssue_of_visited limit
      (instructionAligned_of_scheduled entryAligned (List.mem_append_left _ inVisited)) inIssues
  rcases ends with ⟨-, rfl⟩ | ⟨pending, rest, taken, -, rfl⟩
  · exact visited
  · have inPending : (pending.pc, pending.sourceBlock) ∈
        (searchAfter memory options entryPc count).pending := by
      rw [tracks.pending_eq, taken]
      exact .head _
    intro issue member
    rcases List.mem_append.mp member with old | new
    · exact visited issue old
    · rw [List.mem_singleton.mp new]
      exact wellFormedIssue_of_target rfl (instructionAligned_of_scheduled entryAligned
        (List.mem_append_right _ inPending)) (by simp)

end Loop

/-- The graph names only aligned PCs, and its records fit its blocks. -/
structure WellFormedGraph (options : R5900ReachabilityOptions) (entryPc : BitVec 32)
    (graph : R5900ReachabilityGraph) : Prop where
  entryAligned : InstructionAligned entryPc
  entry : graph.entryPc = entryPc
  entryBlock : graph.blocks.head?.map (·.startPc) = some entryPc
  distinct : (graph.blocks.map (·.startPc)).Nodup
  bounded : graph.blocks.length ≤ options.maxBlocks
  blocks : ∀ block ∈ graph.blocks, WellFormedBlock block
  callTargets : ∀ call ∈ graph.calls, ∀ target, call.target = some target →
    InstructionAligned target
  callSources : ∀ call ∈ graph.calls, ∃ block ∈ graph.blocks,
    block.startPc = call.sourceBlock ∧
      block.instructions.getLast?.map (·.pc) = some call.callPc
  issues : ∀ issue ∈ graph.issues, WellFormedIssue issue

theorem last_of_analyzed {memory : Ps2MemoryMap} {pc : BitVec 32}
    {options : R5900ControlFlowOptions} {block : R5900BasicBlock}
    (analyzed : analyzeR5900BasicBlock memory pc options = .ok block) :
    block.instructions.getLast?.map (·.pc) = some (terminatorPc block) := by
  obtain ⟨terminator, shape, -⟩ := analyzeR5900BasicBlock_eq_ok analyzed
  rw [terminatorPc, shape.sites.getLast?]
  rfl

theorem mem_edgeCalls {block : R5900BasicBlock} {edge : R5900ControlFlowEdge}
    {call : R5900ReachabilityCall} (member : call ∈ edgeCalls block edge) :
    call.sourceBlock = block.startPc ∧ call.callPc = terminatorPc block ∧
      (call.target = edge.target ∨ call.target = none) := by
  unfold edgeCalls at member
  split at member
  · rw [List.mem_singleton.mp member]
    exact ⟨rfl, rfl, .inl rfl⟩
  · rw [List.mem_singleton.mp member]
    exact ⟨rfl, rfl, .inr rfl⟩
  · cases member

section Graph

variable {memory : Ps2MemoryMap} {options : R5900ReachabilityOptions}
  {entryPc : BitVec 32} {count : Nat} {graph : R5900ReachabilityGraph}

theorem FromSearch.wellFormedBlock (search : FromSearch memory options entryPc count graph)
    {block : R5900BasicBlock} (member : block ∈ graph.blocks) : WellFormedBlock block := by
  obtain ⟨item, -, -, analyzed⟩ := search.start_of_block member
  exact wellFormedBlock_of_analyzed analyzed

/-- A call record comes from an edge of a block. -/
theorem FromSearch.exists_edge_of_call
    (search : FromSearch memory options entryPc count graph) {call : R5900ReachabilityCall}
    (member : call ∈ graph.calls) :
    ∃ block ∈ graph.blocks, ∃ edge ∈ block.edges, call ∈ edgeCalls block edge := by
  rw [search.calls] at member
  obtain ⟨block, inBlocks, inBlock⟩ := List.mem_flatMap.mp member
  obtain ⟨edge, inEdges, recorded⟩ := List.mem_flatMap.mp inBlock
  exact ⟨block, inBlocks, edge, inEdges, recorded⟩

/-- The issues about leaders name the starts of blocks. -/
theorem wellFormedIssue_of_detected {issue : R5900ReachabilityIssue}
    (loop : ∀ issue ∈ graph.issues, WellFormedIssue issue)
    (starts : ∀ block ∈ graph.blocks, InstructionAligned block.startPc)
    (member : issue ∈ (detectOverlappingLeaders graph).issues) : WellFormedIssue issue := by
  obtain ⟨emitted, added, -, keys⟩ := detectOverlappingLeaders_issues graph
  rw [added] at member
  rcases List.mem_append.mp member with old | new
  · exact loop issue old
  · obtain ⟨key, inKeys, rfl⟩ := List.mem_map.mp new
    obtain ⟨leader, inBlocks, containing, -, -, found⟩ := (keys key).mp inKeys
    rcases found with ⟨-, rfl⟩ | ⟨-, rfl⟩
    · exact wellFormedIssue_of_target rfl (starts leader inBlocks) (by simp [leaderIssue])
    · exact wellFormedIssue_of_target rfl (starts leader inBlocks) (by simp [leaderIssue])

end Graph

/-- Every graph the analysis returns is well formed. -/
theorem analyzeR5900Reachability_wellFormed (memory : Ps2MemoryMap) (entryPc : BitVec 32)
    (options : R5900ReachabilityOptions) (graph : R5900ReachabilityGraph)
    (succeeded : analyzeR5900Reachability memory entryPc options = .ok graph) :
    WellFormedGraph options entryPc graph := by
  obtain ⟨explored, final, count, rfl, tracks, ends, sameEntry, entryBlock, rest,
    entryAnalyzed, front⟩ := analyzeR5900Reachability_explored succeeded
  have search := fromSearch_of_endsAt tracks ends
  have entryAligned := instructionAligned_of_analyzed entryAnalyzed
  have limit : options.blockOptions.maxInstructions ≠ 0 :=
    maxInstructions_ne_zero_of_analyzed entryAnalyzed
  refine ⟨entryAligned, sameEntry, ?_, search.starts_nodup, search.bounded,
    fun block => search.wellFormedBlock, ?_, ?_, ?_⟩
  · rw [front, List.head?_cons, Option.map_some, startPc_of_analyzed entryAnalyzed]
  · intro call member target known
    obtain ⟨block, inBlocks, edge, inEdges, recorded⟩ := search.exists_edge_of_call member
    obtain ⟨-, -, same | absent⟩ := mem_edgeCalls recorded
    · exact (search.wellFormedBlock inBlocks).edges edge inEdges target
        (same.symm.trans known)
    · rw [absent] at known
      cases known
  · intro call member
    obtain ⟨block, inBlocks, edge, inEdges, recorded⟩ := search.exists_edge_of_call member
    obtain ⟨source, place, -⟩ := mem_edgeCalls recorded
    obtain ⟨item, -, -, analyzed⟩ := search.start_of_block inBlocks
    refine ⟨block, inBlocks, source.symm, ?_⟩
    rw [place, last_of_analyzed analyzed]
  · intro issue
    exact wellFormedIssue_of_detected
      (wellFormedIssue_of_endsAt limit entryAligned tracks ends)
      fun block member => (search.wellFormedBlock member).start

/-- One of the two targets is not mapped. -/
theorem analyzeR5900Reachability_wellFormed_branchMemory :
    ∃ graph, analyzeR5900Reachability branchMemory 0x1000 {} = .ok graph ∧
      WellFormedGraph {} 0x1000 graph := by
  have outcome : (analyzeR5900Reachability branchMemory 0x1000 {}).toOption.isSome = true := by
    decide +kernel
  obtain ⟨graph, found⟩ := Option.isSome_iff_exists.mp outcome
  have succeeded := OrderedChecks.toOption_eq_some_iff.mp found
  exact ⟨graph, succeeded,
    analyzeR5900Reachability_wellFormed branchMemory 0x1000 {} graph succeeded⟩

end Burnout3Recompiled
