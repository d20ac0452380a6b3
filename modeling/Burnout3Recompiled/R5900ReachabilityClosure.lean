import Burnout3Recompiled.R5900ReachabilitySearch

/-!
# The graph is the closure of its edges

When the search behind a graph has run to its end, the graph holds every
reachable start exactly once: as a block, or as a target that could not be
analysed, reported against a block that leads there.
-/

namespace Burnout3Recompiled

open WorklistSearch (explores_after)

/-- The last instruction of the block is the given one. -/
def R5900BasicBlock.endsIn (block : R5900BasicBlock) (instruction : R5900Instruction) :
    Bool :=
  match block.instructions.getLast? with
  | some site => decide (site.decoded.instruction = instruction)
  | none => false

/-- The call record of a block that ends in JAL or JALR. -/
def callRecord (block : R5900BasicBlock) : R5900ReachabilityCall where
  sourceBlock := block.startPc
  callPc := terminatorPc block
  indirect := block.endsIn .jalr
  target := block.instructions.getLast?.bind fun site =>
    site.decoded.directTarget site.pc

/-- The issue reports that the analysis at `pc` failed. -/
def reportsFailureAt (pc : BitVec 32) (issue : R5900ReachabilityIssue) : Bool :=
  decide (issue.kind = .targetAnalysisFailed ∧ issue.target = some pc)

/-- The graph holds each reachable start exactly once, as a block or as a failed
target, and one record for each call and each unresolved exit. -/
structure AccountsForReach (memory : Ps2MemoryMap) (options : R5900ReachabilityOptions)
    (entryPc : BitVec 32) (graph : R5900ReachabilityGraph) : Prop where
  blockOfStart : ∀ pc block, ReachedStart memory options entryPc pc →
    analyzeR5900BasicBlock memory pc options.blockOptions = .ok block →
      graph.blocks.filter (fun other => other.startPc = pc) = [block]
  startOfBlock : ∀ block ∈ graph.blocks,
    ReachedStart memory options entryPc block.startPc ∧
      analyzeR5900BasicBlock memory block.startPc options.blockOptions = .ok block
  issueOfFailure : ∀ pc failure, ReachedStart memory options entryPc pc →
    analyzeR5900BasicBlock memory pc options.blockOptions = .error failure →
      ∃ issue, graph.issues.filter (reportsFailureAt pc) = [issue] ∧
        issue.analysisError = some failure.error ∧
        ∃ block ∈ graph.blocks, block.startPc = issue.sourceBlock ∧
          ∃ edge ∈ block.edges, options.follows edge.kind = true ∧ edge.target = some pc
  failureOfIssue : ∀ issue ∈ graph.issues, issue.kind = .targetAnalysisFailed →
    ∃ pc failure, issue.target = some pc ∧ ReachedStart memory options entryPc pc ∧
      analyzeR5900BasicBlock memory pc options.blockOptions = .error failure
  indirectExits :
    graph.issues.filter (fun issue => issue.kind = .unresolvedIndirectExit) =
      (graph.blocks.filter fun block => block.endsIn .jr || block.endsIn .jalr).map
        unresolvedIndirectExit
  calls : graph.calls =
    (graph.blocks.filter fun block => block.endsIn .jal || block.endsIn .jalr).map
      callRecord

/-- In a list with distinct keys only one element contributes. -/
theorem flatMap_eq_of_distinct {α β γ : Type*} {items : List α} {key : α → β}
    {values : α → List γ} {item : α} (distinct : (items.map key).Nodup)
    (member : item ∈ items)
    (others : ∀ other ∈ items, key other ≠ key item → values other = []) :
    items.flatMap values = values item := by
  induction items with
  | nil => cases member
  | cons first items ih =>
      rw [List.map_cons, List.nodup_cons] at distinct
      obtain ⟨fresh, distinct⟩ := distinct
      have rest : ∀ other ∈ items, key other ≠ key item → values other = [] :=
        fun other inRest => others other (.tail _ inRest)
      rw [List.flatMap_cons]
      rcases List.mem_cons.mp member with rfl | later
      · have empty : items.flatMap values = [] := by
          rw [List.flatMap_eq_nil_iff]
          intro other inRest
          exact rest other inRest fun same =>
            fresh (same ▸ List.mem_map_of_mem inRest)
        rw [empty, List.append_nil]
      · have different : key first ≠ key item := fun same =>
          fresh (same ▸ List.mem_map_of_mem later)
        rw [others first (.head _) different, ih distinct later rest, List.nil_append]

section Accounts

variable {memory : Ps2MemoryMap} {options : R5900ReachabilityOptions}
  {entryPc : BitVec 32} {graph : R5900ReachabilityGraph} {count : Nat}
  {pc : BitVec 32} {block : R5900BasicBlock}

/-- The evidence of a block, by its last instruction. -/
theorem evidence_of_analyzed {blockOptions : R5900ControlFlowOptions}
    (analyzed : analyzeR5900BasicBlock memory pc blockOptions = .ok block) :
    blockCalls block =
        (if block.endsIn .jal || block.endsIn .jalr then [callRecord block] else []) ∧
      block.edges.flatMap (edgeIssues block) =
        (if block.endsIn .jr || block.endsIn .jalr then [unresolvedIndirectExit block]
        else []) := by
  obtain ⟨terminator, shape, -⟩ := analyzeR5900BasicBlock_eq_ok analyzed
  have last := shape.sites.getLast?
  obtain ⟨word, -, decodes⟩ :=
    fetchSite_eq_some (shape.sites.fetched_of_mem shape.sites.terminator_mem)
  have classified : Classified terminator.decoded := by
    rw [decodes]
    exact decodeR5900_class word
  have named : ∀ instruction, block.endsIn instruction =
      decide (terminator.decoded.instruction = instruction) := by
    intro instruction
    rw [R5900BasicBlock.endsIn, last]
  have place : terminatorPc block = terminator.pc := by
    rw [terminatorPc, last]
  rw [blockCalls, shape.edges, named, named, named]
  by_cases jal : terminator.decoded.instruction = .jal
  · have notBranch := classified.not_branch jal (by decide)
    simp [exitEdges, notBranch, jal, edgeCalls, edgeIssues, callRecord, last, named]
  · by_cases jalr : terminator.decoded.instruction = .jalr
    · have notBranch := classified.not_branch jalr (by decide)
      have unknown : terminator.decoded.directTarget terminator.pc = none := by
        simp [R5900DecodedInstruction.directTarget, notBranch, jalr]
      simp [exitEdges, notBranch, jalr, edgeCalls, edgeIssues, callRecord, last, named,
        unknown]
    · by_cases jr : terminator.decoded.instruction = .jr
      · have notBranch := classified.not_branch jr (by decide)
        simp [exitEdges, notBranch, jr, edgeCalls, edgeIssues]
      · simp only [jal, jalr, jr, decide_false, Bool.or_false, if_false,
          Bool.false_eq_true]
        simp only [exitEdges]
        split
        · simp [edgeCalls, edgeIssues]
        · split
          · simp [edgeCalls, edgeIssues]
          · contradiction
          · contradiction
          · contradiction
          · split <;> simp [edgeCalls, edgeIssues]

theorem flatMap_singleton_if {α β : Type*} {items : List α} {values : α → List β}
    {keep : α → Bool} {value : α → β}
    (one : ∀ item ∈ items, values item = if keep item then [value item] else []) :
    items.flatMap values = (items.filter keep).map value := by
  induction items with
  | nil => rfl
  | cons item items ih =>
      rw [List.flatMap_cons, one item (.head _),
        ih fun other member => one other (.tail _ member), List.filter_cons]
      split <;> rfl

/-- The starts of the blocks are reachable and were analysed. -/
theorem FromSearch.start_of_block (search : FromSearch memory options entryPc count graph)
    (member : block ∈ graph.blocks) :
    ∃ item ∈ (searchAfter memory options entryPc count).visited,
      item.1 = block.startPc ∧
        analyzeR5900BasicBlock memory item.1 options.blockOptions = .ok block := by
  rw [search.blocks] at member
  obtain ⟨item, visited, found⟩ := List.mem_filterMap.mp member
  have analyzed := visitedBlock_eq_some.mp found
  exact ⟨item, visited, (startPc_of_analyzed analyzed).symm, analyzed⟩

theorem FromSearch.calls_eq (search : FromSearch memory options entryPc count graph) :
    graph.calls =
      (graph.blocks.filter fun block => block.endsIn .jal || block.endsIn .jalr).map
        callRecord := by
  rw [search.calls]
  refine flatMap_singleton_if fun block member => ?_
  obtain ⟨item, -, -, analyzed⟩ := search.start_of_block member
  exact (evidence_of_analyzed analyzed).1

/-- The issues of one kind are spread over the visited starts. -/
theorem FromSearch.filter_issues (search : FromSearch memory options entryPc count graph)
    {keep : R5900ReachabilityIssue → Bool}
    (kept : ∀ issue, keep issue = true →
      issue.kind = .targetAnalysisFailed ∨ issue.kind = .unresolvedIndirectExit) :
    graph.issues.filter keep = (searchAfter memory options entryPc count).visited.flatMap
      fun item => (visitIssues memory options item).filter keep := by
  rw [search.issues keep kept, List.filter_flatMap]

theorem visitIssues_of_analyzed {item : BitVec 32 × BitVec 32}
    (analyzed : analyzeR5900BasicBlock memory item.1 options.blockOptions = .ok block) :
    visitIssues memory options item =
      if block.endsIn .jr || block.endsIn .jalr then [unresolvedIndirectExit block]
      else [] := by
  rw [visitIssues, analyzed]
  exact (evidence_of_analyzed analyzed).2

theorem FromSearch.indirectExits_eq
    (search : FromSearch memory options entryPc count graph) :
    graph.issues.filter (fun issue => issue.kind = .unresolvedIndirectExit) =
      (graph.blocks.filter fun block => block.endsIn .jr || block.endsIn .jalr).map
        unresolvedIndirectExit := by
  rw [search.filter_issues fun issue keeps => .inr (of_decide_eq_true keeps),
    search.blocks]
  induction (searchAfter memory options entryPc count).visited with
  | nil => rfl
  | cons item items ih =>
      rw [List.flatMap_cons, ih]
      cases analyzed : analyzeR5900BasicBlock memory item.1 options.blockOptions with
      | error failure => simp [visitIssues, visitedBlock, analyzed, Except.toOption]
      | ok block =>
          rw [visitIssues_of_analyzed analyzed,
            List.filterMap_cons_some (visitedBlock_eq_some.mpr analyzed), List.filter_cons]
          split <;> simp [unresolvedIndirectExit]

/-- The issue a failed start leaves, and the only one that reports it. -/
theorem filter_visitIssues {item : BitVec 32 × BitVec 32} :
    (visitIssues memory options item).filter (reportsFailureAt pc) =
      match analyzeR5900BasicBlock memory item.1 options.blockOptions with
      | .ok _ => []
      | .error failure =>
          if item.1 = pc then
            [{ kind := .targetAnalysisFailed
               sourceBlock := item.2
               target := some item.1
               analysisError := some failure.error }]
          else [] := by
  cases analyzed : analyzeR5900BasicBlock memory item.1 options.blockOptions with
  | error failure =>
      rw [visitIssues, analyzed]
      by_cases same : item.1 = pc <;> simp [reportsFailureAt, same]
  | ok block =>
      rw [visitIssues_of_analyzed analyzed]
      split <;> simp [reportsFailureAt, unresolvedIndirectExit]

/-- The visited start with the address of an item is the item. -/
theorem flatMap_visited {α : Type*} {item : BitVec 32 × BitVec 32}
    {values : BitVec 32 × BitVec 32 → List α}
    (member : item ∈ (searchAfter memory options entryPc count).visited)
    (others : ∀ other, other.1 ≠ item.1 → values other = []) :
    (searchAfter memory options entryPc count).visited.flatMap values = values item :=
  flatMap_eq_of_distinct (visited_nodup memory options entryPc count) member
    fun other _ different => others other different

/-- The block of a visited start is in the graph, once. -/
theorem FromSearch.filter_startPc (search : FromSearch memory options entryPc count graph)
    {item : BitVec 32 × BitVec 32}
    (member : item ∈ (searchAfter memory options entryPc count).visited)
    (analyzed : analyzeR5900BasicBlock memory item.1 options.blockOptions = .ok block) :
    graph.blocks.filter (fun other => other.startPc = item.1) = [block] := by
  rw [search.blocks, List.filterMap_eq_flatMap_toList, List.filter_flatMap]
  refine (flatMap_visited member ?_).trans ?_
  · intro other different
    cases found : visitedBlock memory options other with
    | none => rfl
    | some otherBlock =>
        have place := startPc_of_analyzed (visitedBlock_eq_some.mp found)
        simpa [place] using different
  · rw [visitedBlock_eq_some.mpr analyzed]
    simp [startPc_of_analyzed analyzed]

/-- The failure of a visited start is in the graph, once. -/
theorem FromSearch.filter_reportsFailureAt
    (search : FromSearch memory options entryPc count graph)
    {item : BitVec 32 × BitVec 32} {failure : R5900ControlFlowFailure}
    (member : item ∈ (searchAfter memory options entryPc count).visited)
    (failed : analyzeR5900BasicBlock memory item.1 options.blockOptions =
      .error failure) :
    graph.issues.filter (reportsFailureAt item.1) =
      [{ kind := .targetAnalysisFailed
         sourceBlock := item.2
         target := some item.1
         analysisError := some failure.error }] := by
  rw [search.filter_issues fun issue keeps => .inl (of_decide_eq_true keeps).1]
  refine (flatMap_visited member ?_).trans ?_
  · intro other different
    rw [filter_visitIssues]
    split
    · rfl
    · exact if_neg different
  · rw [filter_visitIssues, failed]
    exact if_pos rfl

/-- A visited start that failed was led to by an edge of a block in the graph. -/
theorem FromSearch.exists_edge_of_failed
    (search : FromSearch memory options entryPc count graph)
    {item : BitVec 32 × BitVec 32} {failure : R5900ControlFlowFailure}
    (member : item ∈ (searchAfter memory options entryPc count).visited)
    (failed : analyzeR5900BasicBlock memory item.1 options.blockOptions =
      .error failure) :
    ∃ block ∈ graph.blocks, block.startPc = item.2 ∧
      ∃ edge ∈ block.edges, options.follows edge.kind = true ∧
        edge.target = some item.1 := by
  have explores := explores_after (blockSuccessors memory options) entryPc count
  rcases explores.found item (List.mem_append_left _ member) with root | led
  · -- the root was analysed, so it is not the one that failed
    have isEntry : item.1 = entryPc := congrArg Prod.fst root
    have analyzed := search.entryAnalyzed item member isEntry
    obtain ⟨block, found⟩ := Option.isSome_iff_exists.mp analyzed
    rw [visitedBlock_eq_some.mp found] at failed
    cases failed
  · obtain ⟨-, isNext, source⟩ := led
    obtain ⟨origin, originVisited, place⟩ := List.mem_map.mp source
    obtain ⟨block, analyzed, edge, inEdges, follows, target⟩ :=
      mem_blockSuccessors.mp isNext
    rw [← place] at analyzed
    have inBlocks : block ∈ graph.blocks := by
      rw [search.blocks]
      exact List.mem_filterMap.mpr
        ⟨origin, originVisited, visitedBlock_eq_some.mpr analyzed⟩
    exact ⟨block, inBlocks, (startPc_of_analyzed analyzed).trans place, edge, inEdges,
      follows, target⟩

/-- A reported failure is the failure of a visited start. -/
theorem FromSearch.exists_visited_of_failure
    (search : FromSearch memory options entryPc count graph)
    {issue : R5900ReachabilityIssue} (member : issue ∈ graph.issues)
    (kind : issue.kind = .targetAnalysisFailed) :
    ∃ item ∈ (searchAfter memory options entryPc count).visited, ∃ failure,
      issue.target = some item.1 ∧
        analyzeR5900BasicBlock memory item.1 options.blockOptions = .error failure := by
  have kept : issue ∈ graph.issues.filter
      (fun other => other.kind = .targetAnalysisFailed) :=
    List.mem_filter.mpr ⟨member, decide_eq_true kind⟩
  rw [search.filter_issues fun other keeps => .inl (of_decide_eq_true keeps)] at kept
  obtain ⟨item, visited, inItem⟩ := List.mem_flatMap.mp kept
  have left := (List.mem_filter.mp inItem).1
  cases analyzed : analyzeR5900BasicBlock memory item.1 options.blockOptions with
  | error failure =>
      rw [visitIssues, analyzed] at left
      obtain rfl := List.mem_singleton.mp left
      exact ⟨item, visited, failure, rfl, analyzed⟩
  | ok block =>
      rw [visitIssues_of_analyzed analyzed] at left
      split at left
      · obtain rfl := List.mem_singleton.mp left
        cases kind
      · cases left

/-- A finished search accounts for the whole reachable set. -/
theorem FromSearch.accounts (search : FromSearch memory options entryPc count graph)
    (finished : (searchAfter memory options entryPc count).pending = []) :
    AccountsForReach memory options entryPc graph := by
  have explores := explores_after (blockSuccessors memory options) entryPc count
  have visited_iff : ∀ start,
      start ∈ (searchAfter memory options entryPc count).visited.map Prod.fst ↔
        ReachedStart memory options entryPc start :=
    fun start => (explores.mem_visited_iff finished).trans reachable_iff_reachedStart
  refine ⟨?_, ?_, ?_, ?_, search.indirectExits_eq, search.calls_eq⟩
  · intro start block reached analyzed
    obtain ⟨item, member, rfl⟩ := List.mem_map.mp ((visited_iff start).mpr reached)
    exact search.filter_startPc member analyzed
  · intro block member
    obtain ⟨item, visited, place, analyzed⟩ := search.start_of_block member
    rw [← place]
    exact ⟨(visited_iff item.1).mp (List.mem_map_of_mem visited), analyzed⟩
  · intro start failure reached failed
    obtain ⟨item, member, rfl⟩ := List.mem_map.mp ((visited_iff start).mpr reached)
    exact ⟨_, search.filter_reportsFailureAt member failed, rfl,
      search.exists_edge_of_failed member failed⟩
  · intro issue member kind
    obtain ⟨item, visited, failure, target, failed⟩ :=
      search.exists_visited_of_failure member kind
    exact ⟨item.1, failure, target, (visited_iff item.1).mp (List.mem_map_of_mem visited),
      failed⟩

end Accounts

/-- A graph without a block limit issue accounts for the closure of its entry. -/
theorem analyzeR5900Reachability_accounts (memory : Ps2MemoryMap) (entryPc : BitVec 32)
    (options : R5900ReachabilityOptions) (graph : R5900ReachabilityGraph)
    (succeeded : analyzeR5900Reachability memory entryPc options = .ok graph)
    (unlimited : ∀ issue ∈ graph.issues, issue.kind ≠ .blockLimitReached) :
    AccountsForReach memory options entryPc graph := by
  obtain ⟨count, search⟩ := analyzeR5900Reachability_fromSearch succeeded
  rcases search.ended with finished | ⟨-, issue, member, kind⟩
  · exact search.accounts finished
  · exact absurd kind (unlimited issue member)

/-- A branch to an unmapped address in front of a return. -/
def branchMemory : Ps2MemoryMap where
  regions := [⟨0x1000, 16, 5⟩]
  backingRegions :=
    [{ metadata := ⟨0x1000, 16, 5⟩
       bytes :=
        [0x00, 0x04, 0x00, 0x10, 0x00, 0x00, 0x00, 0x00] ++
        [0x08, 0x00, 0xE0, 0x03, 0x00, 0x00, 0x00, 0x00]
       sized := rfl }]
  mirrored := mirrored_singleton

theorem kind_ne_of_kinds {graph : R5900ReachabilityGraph}
    {kinds : List R5900ReachabilityIssueKind} {kind : R5900ReachabilityIssueKind}
    (known : graph.issues.map (·.kind) = kinds) (absent : kind ∉ kinds) :
    ∀ issue ∈ graph.issues, issue.kind ≠ kind := by
  rintro issue member rfl
  exact absent (known ▸ List.mem_map_of_mem member)

theorem analyzeR5900Reachability_accounts_branchMemory :
    ∃ graph, analyzeR5900Reachability branchMemory 0x1000 {} = .ok graph ∧
      graph.issues.map (·.kind) = [.targetAnalysisFailed, .unresolvedIndirectExit] ∧
      AccountsForReach branchMemory {} 0x1000 graph := by
  have outcome : (analyzeR5900Reachability branchMemory 0x1000 {}).toOption.map
      (fun graph => graph.issues.map (·.kind)) =
      some [.targetAnalysisFailed, .unresolvedIndirectExit] := by
    decide +kernel
  obtain ⟨graph, found, kinds⟩ := Option.map_eq_some_iff.mp outcome
  have succeeded := OrderedChecks.toOption_eq_some_iff.mp found
  refine ⟨graph, succeeded, kinds, ?_⟩
  exact analyzeR5900Reachability_accounts branchMemory 0x1000 {} graph succeeded
    (kind_ne_of_kinds kinds (by decide))

end Burnout3Recompiled
