import Burnout3Recompiled.R5900GraphWellFormed
import Burnout3Recompiled.R5900ReachabilityClosure
import Burnout3Recompiled.SegmentedReachability

/-!
# Functions and their calls

An analysis that follows direct calls finds what the analyses of the single functions
find: it starts with the entry, goes on with every target of a call record, and takes all
blocks, calls and unresolved exits together.
-/

namespace Burnout3Recompiled

open Relation (ReflTransGen)

/-- The options of an analysis that goes into the called functions. -/
def R5900ReachabilityOptions.acrossCalls (options : R5900ReachabilityOptions) :
    R5900ReachabilityOptions :=
  { options with followDirectCalls := true }

/-- The options of the analysis of one function. -/
def R5900ReachabilityOptions.withinFunction (options : R5900ReachabilityOptions)
    (maxBlocks : Nat) : R5900ReachabilityOptions :=
  R5900ReachabilityOptions.withMaxBlocks { options with followDirectCalls := false } maxBlocks

section Functions

variable (memory : Ps2MemoryMap) (options : R5900ReachabilityOptions) (maxBlocks : Nat)

/-- The graph of one function. -/
def functionGraph (function : BitVec 32) :
    Except R5900ReachabilityFailure R5900ReachabilityGraph :=
  analyzeR5900Reachability memory function (options.withinFunction maxBlocks)

/-- The graph of the caller has a record of a call of the callee. -/
def CallsFunction (caller callee : BitVec 32) : Prop :=
  ∃ graph, functionGraph memory options maxBlocks caller = .ok graph ∧
    ∃ call ∈ graph.calls, call.target = some callee

/-- The functions that are called from the entry on. -/
def IsFunction (entryPc : BitVec 32) : BitVec 32 → Prop :=
  ReflTransGen (CallsFunction memory options maxBlocks) entryPc

/-- The function was analysed to its end, and the graph has the given item. -/
def FunctionHas (entryPc : BitVec 32) (has : R5900ReachabilityGraph → Prop) : Prop :=
  ∃ function graph, IsFunction memory options maxBlocks entryPc function ∧
    functionGraph memory options maxBlocks function = .ok graph ∧ has graph

/-- The graph is put together from the graphs of the functions. -/
structure SplitsIntoFunctions (entryPc : BitVec 32) (whole : R5900ReachabilityGraph) :
    Prop where
  analyzed : ∀ function, IsFunction memory options maxBlocks entryPc function →
    (∃ graph, functionGraph memory options maxBlocks function = .ok graph ∧
      ∀ issue ∈ graph.issues, issue.kind ≠ .blockLimitReached) ∨
    ∃ issue ∈ whole.issues, reportsFailureAt function issue = true
  blocks : ∀ block, block ∈ whole.blocks ↔
    FunctionHas memory options maxBlocks entryPc fun graph => block ∈ graph.blocks
  calls : ∀ call, call ∈ whole.calls ↔
    FunctionHas memory options maxBlocks entryPc fun graph => call ∈ graph.calls
  unresolvedExits : ∀ issue, issue.kind = .unresolvedIndirectExit →
    (issue ∈ whole.issues ↔
      FunctionHas memory options maxBlocks entryPc fun graph => issue ∈ graph.issues)
  failedTargets : ∀ pc, (∃ issue ∈ whole.issues, reportsFailureAt pc issue = true) ↔
    (IsFunction memory options maxBlocks entryPc pc ∧
      ∃ failure, functionGraph memory options maxBlocks pc = .error failure) ∨
    FunctionHas memory options maxBlocks entryPc fun graph =>
      ∃ issue ∈ graph.issues, reportsFailureAt pc issue = true

end Functions

section Edges

variable {memory : Ps2MemoryMap} {options : R5900ReachabilityOptions} {maxBlocks : Nat}

/-- A block starts at `source` and ends with a direct call of `target`. -/
def CallsFrom (memory : Ps2MemoryMap) (options : R5900ReachabilityOptions)
    (source target : BitVec 32) : Prop :=
  ∃ block, analyzeR5900BasicBlock memory source options.blockOptions = .ok block ∧
    ∃ edge ∈ block.edges, edge.kind = .directCall ∧ edge.target = some target

theorem follows_acrossCalls_iff {kind : R5900EdgeKind} :
    options.acrossCalls.follows kind = true ↔
      (options.withinFunction maxBlocks).follows kind = true ∨ kind = .directCall := by
  cases kind with
  | directCall => exact iff_of_true rfl (.inr rfl)
  | indirectJump | indirectCall =>
      exact ⟨.inl, fun follows => follows.elim id fun none => by cases none⟩
  | branchTaken | branchNotTaken | directJump | callContinuation | «fallthrough» =>
      exact iff_of_true rfl (.inl rfl)

theorem followsEdge_acrossCalls :
    FollowsEdge memory options.acrossCalls = fun source target =>
      FollowsEdge memory (options.withinFunction maxBlocks) source target ∨
        CallsFrom memory options source target := by
  funext source target
  refine propext ⟨?_, ?_⟩
  · rintro ⟨block, analyzed, edge, member, follows, isTarget⟩
    rcases (@follows_acrossCalls_iff options maxBlocks _).mp follows with stays | call
    · exact .inl ⟨block, analyzed, edge, member, stays, isTarget⟩
    · exact .inr ⟨block, analyzed, edge, member, call, isTarget⟩
  · rintro (⟨block, analyzed, edge, member, follows, isTarget⟩ |
      ⟨block, analyzed, edge, member, call, isTarget⟩)
    · exact ⟨block, analyzed, edge, member, follows_acrossCalls_iff.mpr (.inl follows),
        isTarget⟩
    · exact ⟨block, analyzed, edge, member,
        (@follows_acrossCalls_iff options maxBlocks _).mpr (.inr call), isTarget⟩

theorem reachedStart_acrossCalls_iff {entryPc pc : BitVec 32} :
    ReachedStart memory options.acrossCalls entryPc pc ↔
      ∃ function, SegmentedReachability.IsSegment
          (FollowsEdge memory (options.withinFunction maxBlocks))
          (CallsFrom memory options) entryPc function ∧
        ReachedStart memory (options.withinFunction maxBlocks) function pc := by
  rw [ReachedStart, @followsEdge_acrossCalls memory options maxBlocks]
  exact SegmentedReachability.reflTransGen_or_iff

end Edges

section Graphs

variable {memory : Ps2MemoryMap} {options : R5900ReachabilityOptions}
  {entryPc : BitVec 32} {graph : R5900ReachabilityGraph} {block : R5900BasicBlock}

/-- Also a graph that was cut off holds only blocks that are reached. -/
theorem reachedStart_of_block
    (succeeded : analyzeR5900Reachability memory entryPc options = .ok graph)
    (member : block ∈ graph.blocks) :
    ReachedStart memory options entryPc block.startPc ∧
      analyzeR5900BasicBlock memory block.startPc options.blockOptions = .ok block := by
  obtain ⟨count, search⟩ := analyzeR5900Reachability_fromSearch succeeded
  obtain ⟨item, visited, place, analyzed⟩ := search.start_of_block member
  have explores := WorklistSearch.explores_after (blockSuccessors memory options) entryPc count
  have scheduled : item.1 ∈ (searchAfter memory options entryPc count).scheduled := by
    rw [searchAfter, explores.scheduled]
    exact List.mem_map_of_mem (List.mem_append_left _ visited)
  rw [← place]
  exact ⟨reachable_iff_reachedStart.mp (explores.reachable item.1 scheduled), analyzed⟩

theorem AccountsForReach.mem_blocks_iff
    (accounts : AccountsForReach memory options entryPc graph) :
    block ∈ graph.blocks ↔ ReachedStart memory options entryPc block.startPc ∧
      analyzeR5900BasicBlock memory block.startPc options.blockOptions = .ok block := by
  refine ⟨accounts.startOfBlock block, fun ⟨reached, analyzed⟩ => ?_⟩
  have only := accounts.blockOfStart block.startPc block reached analyzed
  exact List.mem_of_mem_filter (only ▸ List.mem_singleton_self block)

theorem AccountsForReach.mem_unresolvedExits_iff
    (accounts : AccountsForReach memory options entryPc graph)
    {issue : R5900ReachabilityIssue} (kind : issue.kind = .unresolvedIndirectExit) :
    issue ∈ graph.issues ↔
      ∃ block ∈ graph.blocks, (block.endsIn .jr || block.endsIn .jalr) = true ∧
        unresolvedIndirectExit block = issue := by
  have exits := accounts.indirectExits
  have inFilter : issue ∈ graph.issues ↔
      issue ∈ graph.issues.filter fun issue => issue.kind = .unresolvedIndirectExit := by
    simp [kind]
  rw [inFilter, exits]
  simp [and_assoc]

theorem AccountsForReach.reportsFailure_iff
    (accounts : AccountsForReach memory options entryPc graph) {pc : BitVec 32} :
    (∃ issue ∈ graph.issues, reportsFailureAt pc issue = true) ↔
      ReachedStart memory options entryPc pc ∧
        ∃ failure, analyzeR5900BasicBlock memory pc options.blockOptions =
          .error failure := by
  constructor
  · rintro ⟨issue, member, reports⟩
    obtain ⟨kind, target⟩ := of_decide_eq_true reports
    obtain ⟨failedPc, failure, failedTarget, reached, failed⟩ :=
      accounts.failureOfIssue issue member kind
    obtain rfl := Option.some.inj (failedTarget.symm.trans target)
    exact ⟨reached, failure, failed⟩
  · rintro ⟨reached, failure, failed⟩
    obtain ⟨issue, only, -⟩ := accounts.issueOfFailure pc failure reached failed
    exact ⟨issue, List.mem_filter.mp (only ▸ List.mem_singleton_self issue)⟩

theorem AccountsForReach.mem_calls_iff
    (accounts : AccountsForReach memory options entryPc graph)
    {call : R5900ReachabilityCall} :
    call ∈ graph.calls ↔
      ∃ block ∈ graph.blocks, (block.endsIn .jal || block.endsIn .jalr) = true ∧
        callRecord block = call := by
  rw [accounts.calls]
  simp [and_assoc]

/-- With room for one more block the limit is not reached. -/
theorem unlimited_of_length_lt {maxBlocks : Nat} (positive : 0 < maxBlocks)
    (succeeded : analyzeR5900Reachability memory entryPc
      (options.withMaxBlocks maxBlocks) = .ok graph)
    (room : graph.blocks.length < maxBlocks) :
    ∀ issue ∈ graph.issues, issue.kind ≠ .blockLimitReached := by
  have largerRoom : 0 < (options.withMaxBlocks maxBlocks).maxBlocks := positive
  cases analyzed : analyzeR5900BasicBlock memory entryPc options.blockOptions with
  | error failure =>
      rw [analyzeR5900Reachability_failed largerRoom analyzed] at succeeded
      cases succeeded
  | ok block =>
      have bounded : (recordEntry (options.withMaxBlocks maxBlocks) entryPc
          block).graph.blocks.length ≤ (options.withMaxBlocks maxBlocks).maxBlocks := by
        rw [blocks_recordEntry]
        exact positive
      obtain ⟨small, large, smallRun, -, truncates⟩ :=
        @exploreWorklist_truncates memory _ _ _ (Nat.le_refl _) entryTaken_recordEntry bounded
          blockLimitIssues_recordEntry
      have recorded := analyzeR5900Reachability_record largerRoom analyzed
      rw [succeeded, smallRun] at recorded
      obtain rfl := Except.ok.inj recorded
      intro issue member kind
      have full := truncates.detectOverlappingLeaders.limitFull
        (List.ne_nil_of_mem (List.mem_filter.mpr ⟨member, decide_eq_true kind⟩))
      exact absurd full (Nat.ne_of_lt room)

theorem accounts_of_unlimited
    (succeeded : analyzeR5900Reachability memory entryPc options = .ok graph)
    (unlimited : ∀ issue ∈ graph.issues, issue.kind ≠ .blockLimitReached) :
    AccountsForReach memory options entryPc graph := by
  obtain ⟨count, search⟩ := analyzeR5900Reachability_fromSearch succeeded
  rcases search.ended with finished | ⟨-, issue, member, kind⟩
  · exact search.accounts finished
  · exact absurd kind (unlimited issue member)

/-- The first block of a reached start could be analysed. -/
theorem exists_analyzed_of_reachedStart {pc : BitVec 32}
    (reached : ReachedStart memory options entryPc pc)
    (analyzed : analyzeR5900BasicBlock memory pc options.blockOptions = .ok block) :
    ∃ first, analyzeR5900BasicBlock memory entryPc options.blockOptions = .ok first := by
  rcases reached.cases_head with rfl | ⟨next, ⟨first, firstAnalyzed, -⟩, -⟩
  · exact ⟨block, analyzed⟩
  · exact ⟨first, firstAnalyzed⟩

theorem exists_graph_of_analyzed {maxBlocks : Nat} (positive : 1 ≤ maxBlocks)
    (analyzed : analyzeR5900BasicBlock memory entryPc options.blockOptions = .ok block) :
    ∃ graph, analyzeR5900Reachability memory entryPc (options.withMaxBlocks maxBlocks) =
      .ok graph := by
  have room : 0 < (options.withMaxBlocks maxBlocks).maxBlocks := positive
  obtain ⟨graph, explored, -⟩ := exploreWorklist_extends memory
    (options.withMaxBlocks maxBlocks)
    (recordEntry (options.withMaxBlocks maxBlocks) entryPc block) entryTaken_recordEntry
  rw [analyzeR5900Reachability_record room analyzed, explored]
  exact ⟨_, rfl⟩

end Graphs

section Splitting

variable {memory : Ps2MemoryMap} {options : R5900ReachabilityOptions} {maxBlocks : Nat}
  {entryPc function callee : BitVec 32} {whole graph : R5900ReachabilityGraph}

/-- The starts of functions, by the edges of blocks. -/
def FunctionStart (memory : Ps2MemoryMap) (options : R5900ReachabilityOptions)
    (maxBlocks : Nat) (entryPc : BitVec 32) : BitVec 32 → Prop :=
  SegmentedReachability.IsSegment (FollowsEdge memory (options.withinFunction maxBlocks))
    (CallsFrom memory options) entryPc

theorem enters_of_callsFunction
    (calls : CallsFunction memory options maxBlocks function callee) :
    SegmentedReachability.Enters (FollowsEdge memory (options.withinFunction maxBlocks))
      (CallsFrom memory options) function callee := by
  obtain ⟨graph, succeeded, call, member, target⟩ := calls
  obtain ⟨count, search⟩ := analyzeR5900Reachability_fromSearch succeeded
  obtain ⟨block, inBlocks, edge, inEdges, recorded⟩ := search.exists_edge_of_call member
  obtain ⟨reached, analyzed⟩ := reachedStart_of_block succeeded inBlocks
  refine ⟨block.startPc, reached, block, analyzed, edge, inEdges, ?_⟩
  unfold edgeCalls at recorded
  split at recorded
  · next direct =>
      rw [List.mem_singleton.mp recorded] at target
      exact ⟨direct, target⟩
  · rw [List.mem_singleton.mp recorded] at target
    cases target
  · cases recorded

theorem exists_functionGraph {block : R5900BasicBlock} (positive : 0 < maxBlocks)
    (analyzed : analyzeR5900BasicBlock memory function options.blockOptions = .ok block) :
    ∃ graph, functionGraph memory options maxBlocks function = .ok graph := by
  have withinFunction : analyzeR5900BasicBlock memory function
      (options.withinFunction maxBlocks).blockOptions = .ok block := analyzed
  exact exists_graph_of_analyzed positive withinFunction

section Accounting

variable (accounts : AccountsForReach memory options.acrossCalls entryPc whole)
  (room : whole.blocks.length < maxBlocks)
include accounts room

/-- The graph of a function is a part of the whole, so it is never cut off. -/
theorem functionGraph_accounts
    (isFunction : FunctionStart memory options maxBlocks entryPc function)
    (succeeded : functionGraph memory options maxBlocks function = .ok graph) :
    (∀ issue ∈ graph.issues, issue.kind ≠ .blockLimitReached) ∧
      AccountsForReach memory (options.withinFunction maxBlocks) function graph := by
  have part : ∀ block ∈ graph.blocks, block ∈ whole.blocks := by
    intro block member
    obtain ⟨reached, analyzed⟩ := reachedStart_of_block succeeded member
    exact accounts.mem_blocks_iff.mpr
      ⟨reachedStart_acrossCalls_iff.mpr ⟨function, isFunction, reached⟩, analyzed⟩
  obtain ⟨count, search⟩ := analyzeR5900Reachability_fromSearch succeeded
  have length : graph.blocks.length ≤ whole.blocks.length :=
    (List.Nodup.of_map _ search.starts_nodup).length_le_of_subset part
  have unlimited : ∀ issue ∈ graph.issues, issue.kind ≠ .blockLimitReached :=
    unlimited_of_length_lt (by omega) succeeded (by omega)
  exact ⟨unlimited, accounts_of_unlimited succeeded unlimited⟩

theorem isFunction_iff :
    IsFunction memory options maxBlocks entryPc function ↔
      FunctionStart memory options maxBlocks entryPc function := by
  constructor
  · exact Relation.ReflTransGen.mono (fun _ _ => enters_of_callsFunction) _ _
  · intro isFunction
    induction isFunction with
    | refl => exact .refl
    | @tail caller callee isFunction enters ih =>
        refine ih.tail ?_
        obtain ⟨pc, reached, block, analyzed, edge, inEdges, direct, target⟩ := enters
        obtain ⟨first, firstAnalyzed⟩ := exists_analyzed_of_reachedStart reached analyzed
        obtain ⟨graph, succeeded⟩ := exists_functionGraph
          (Nat.lt_of_le_of_lt (Nat.zero_le _) room) firstAnalyzed
        obtain ⟨-, complete⟩ := functionGraph_accounts accounts room isFunction succeeded
        have start := startPc_of_analyzed analyzed
        have member : block ∈ graph.blocks := by
          rw [complete.mem_blocks_iff, start]
          exact ⟨reached, analyzed⟩
        obtain ⟨count, search⟩ := analyzeR5900Reachability_fromSearch succeeded
        refine ⟨graph, succeeded, ⟨block.startPc, terminatorPc block, false, edge.target⟩,
          ?_, target⟩
        rw [search.calls]
        refine List.mem_flatMap.mpr ⟨block, member, List.mem_flatMap.mpr ⟨edge, inEdges, ?_⟩⟩
        rw [edgeCalls, direct]
        exact List.mem_singleton_self _

/-- The blocks of the whole are those of the functions. -/
theorem mem_blocks_iff_functionHas {block : R5900BasicBlock} :
    block ∈ whole.blocks ↔
      FunctionHas memory options maxBlocks entryPc fun graph => block ∈ graph.blocks := by
  rw [accounts.mem_blocks_iff, @reachedStart_acrossCalls_iff memory options maxBlocks]
  constructor
  · rintro ⟨⟨function, isFunction, reached⟩, analyzed⟩
    obtain ⟨first, firstAnalyzed⟩ := exists_analyzed_of_reachedStart reached analyzed
    obtain ⟨graph, succeeded⟩ := exists_functionGraph
      (Nat.lt_of_le_of_lt (Nat.zero_le _) room) firstAnalyzed
    obtain ⟨-, complete⟩ := functionGraph_accounts accounts room isFunction succeeded
    exact ⟨function, graph, (isFunction_iff accounts room).mpr isFunction, succeeded,
      complete.mem_blocks_iff.mpr ⟨reached, analyzed⟩⟩
  · rintro ⟨function, graph, isFunction, succeeded, member⟩
    obtain ⟨reached, analyzed⟩ := reachedStart_of_block succeeded member
    exact ⟨⟨function, (isFunction_iff accounts room).mp isFunction, reached⟩, analyzed⟩

/-- What a complete graph tells of its blocks, the whole tells of the blocks of the
functions. -/
theorem functionHas_iff {tells : R5900BasicBlock → Prop}
    {has : R5900ReachabilityGraph → Prop}
    (wholeHas : has whole ↔ ∃ block ∈ whole.blocks, tells block)
    (functionHas : ∀ function graph,
      AccountsForReach memory (options.withinFunction maxBlocks) function graph →
        (has graph ↔ ∃ block ∈ graph.blocks, tells block)) :
    has whole ↔ FunctionHas memory options maxBlocks entryPc has := by
  rw [wholeHas]
  constructor
  · rintro ⟨block, member, told⟩
    obtain ⟨function, graph, isFunction, succeeded, inGraph⟩ :=
      (mem_blocks_iff_functionHas accounts room).mp member
    obtain ⟨-, complete⟩ := functionGraph_accounts accounts room
      ((isFunction_iff accounts room).mp isFunction) succeeded
    exact ⟨function, graph, isFunction, succeeded,
      (functionHas function graph complete).mpr ⟨block, inGraph, told⟩⟩
  · rintro ⟨function, graph, isFunction, succeeded, holds⟩
    obtain ⟨-, complete⟩ := functionGraph_accounts accounts room
      ((isFunction_iff accounts room).mp isFunction) succeeded
    obtain ⟨block, inGraph, told⟩ := (functionHas function graph complete).mp holds
    exact ⟨block, (mem_blocks_iff_functionHas accounts room).mpr
      ⟨function, graph, isFunction, succeeded, inGraph⟩, told⟩

/-- A function without a graph is a target that could not be analysed. -/
theorem functionGraph_or_issue
    (isFunction : FunctionStart memory options maxBlocks entryPc function) :
    (∃ graph, functionGraph memory options maxBlocks function = .ok graph) ∨
      ∃ issue ∈ whole.issues, reportsFailureAt function issue = true := by
  cases analyzed : analyzeR5900BasicBlock memory function options.blockOptions with
  | ok block =>
      exact .inl (exists_functionGraph (Nat.lt_of_le_of_lt (Nat.zero_le _) room) analyzed)
  | error failure =>
      exact .inr (accounts.reportsFailure_iff.mpr
        ⟨reachedStart_acrossCalls_iff.mpr ⟨function, isFunction, .refl⟩, failure, analyzed⟩)

/-- A target that could not be analysed starts a function or was found in one. -/
theorem reportsFailure_iff_functions {pc : BitVec 32} :
    (∃ issue ∈ whole.issues, reportsFailureAt pc issue = true) ↔
      (IsFunction memory options maxBlocks entryPc pc ∧
        ∃ failure, functionGraph memory options maxBlocks pc = .error failure) ∨
      FunctionHas memory options maxBlocks entryPc fun graph =>
        ∃ issue ∈ graph.issues, reportsFailureAt pc issue = true := by
  have positive : 0 < maxBlocks := Nat.lt_of_le_of_lt (Nat.zero_le _) room
  rw [accounts.reportsFailure_iff, @reachedStart_acrossCalls_iff memory options maxBlocks]
  constructor
  · rintro ⟨⟨function, start, reached⟩, failure, failed⟩
    have isFunction := (isFunction_iff accounts room).mpr start
    rcases reached.cases_head with rfl | ⟨next, ⟨first, firstAnalyzed, -⟩, -⟩
    · have withinFunction : analyzeR5900BasicBlock memory function
          (options.withinFunction maxBlocks).blockOptions = .error failure := failed
      exact .inl ⟨isFunction, _, analyzeR5900Reachability_failed positive withinFunction⟩
    · obtain ⟨graph, succeeded⟩ := exists_functionGraph positive firstAnalyzed
      obtain ⟨-, complete⟩ := functionGraph_accounts accounts room start succeeded
      exact .inr ⟨function, graph, isFunction, succeeded,
        complete.reportsFailure_iff.mpr ⟨reached, failure, failed⟩⟩
  · rintro (⟨isFunction, failure, failed⟩ | ⟨function, graph, isFunction, succeeded, reports⟩)
    · have start := (isFunction_iff accounts room).mp isFunction
      refine ⟨⟨pc, start, .refl⟩, ?_⟩
      cases analyzed : analyzeR5900BasicBlock memory pc options.blockOptions with
      | ok block =>
          obtain ⟨graph, succeeded⟩ := exists_functionGraph positive analyzed
          rw [succeeded] at failed
          cases failed
      | error blockFailure => exact ⟨blockFailure, analyzed⟩
    · have start := (isFunction_iff accounts room).mp isFunction
      obtain ⟨-, complete⟩ := functionGraph_accounts accounts room start succeeded
      obtain ⟨reached, failed⟩ := complete.reportsFailure_iff.mp reports
      exact ⟨⟨function, start, reached⟩, failed⟩

end Accounting

end Splitting

/-- The analysis that follows direct calls is the analysis of all functions, one by one. -/
theorem analyzeR5900Reachability_splitsIntoFunctions (memory : Ps2MemoryMap)
    (entryPc : BitVec 32) (options : R5900ReachabilityOptions) (maxBlocks : Nat)
    (whole : R5900ReachabilityGraph)
    (succeeded : analyzeR5900Reachability memory entryPc options.acrossCalls = .ok whole)
    (unlimited : ∀ issue ∈ whole.issues, issue.kind ≠ .blockLimitReached)
    (room : whole.blocks.length < maxBlocks) :
    SplitsIntoFunctions memory options maxBlocks entryPc whole := by
  have accounts := accounts_of_unlimited succeeded unlimited
  refine ⟨?_, ?_, ?_, ?_, fun pc => reportsFailure_iff_functions accounts room⟩
  · intro function isFunction
    have start := (isFunction_iff accounts room).mp isFunction
    rcases functionGraph_or_issue accounts room start with ⟨graph, analyzed⟩ | failed
    · exact .inl ⟨graph, analyzed,
        (functionGraph_accounts accounts room start analyzed).1⟩
    · exact .inr failed
  · exact fun block => mem_blocks_iff_functionHas accounts room
  · intro call
    exact functionHas_iff accounts room accounts.mem_calls_iff
      fun function graph complete => complete.mem_calls_iff
  · intro issue kind
    exact functionHas_iff accounts room (accounts.mem_unresolvedExits_iff kind)
      fun function graph complete => complete.mem_unresolvedExits_iff kind

/-- A function that calls another one, and a second call of a target that is not mapped. -/
def callMemory : Ps2MemoryMap where
  regions := [⟨0x1000, 40, 5⟩]
  backingRegions :=
    [{ metadata := ⟨0x1000, 40, 5⟩
       bytes :=
        [0x08, 0x04, 0x00, 0x0C, 0x00, 0x00, 0x00, 0x00] ++
        [0x00, 0x08, 0x00, 0x0C, 0x00, 0x00, 0x00, 0x00] ++
        [0x08, 0x00, 0xE0, 0x03, 0x00, 0x00, 0x00, 0x00] ++
        [0x08, 0x00, 0xE0, 0x03, 0x00, 0x00, 0x00, 0x00] ++
        [0x08, 0x00, 0xE0, 0x03, 0x00, 0x00, 0x00, 0x00]
       sized := rfl }]
  mirrored := mirrored_singleton

theorem analyzeR5900Reachability_splitsIntoFunctions_callMemory :
    ∃ whole, analyzeR5900Reachability callMemory 0x1000
        (R5900ReachabilityOptions.acrossCalls {}) = .ok whole ∧
      whole.blocks.map (·.startPc) = [0x1000, 0x1020, 0x1008, 0x1010] ∧
      SplitsIntoFunctions callMemory {} 5 0x1000 whole := by
  have outcome : (analyzeR5900Reachability callMemory 0x1000
      (R5900ReachabilityOptions.acrossCalls {})).toOption.map
        (fun whole => (whole.blocks.map (·.startPc), whole.issues.map (·.kind))) =
      some ([0x1000, 0x1020, 0x1008, 0x1010],
        [.unresolvedIndirectExit, .targetAnalysisFailed, .unresolvedIndirectExit]) := by
    decide +kernel
  obtain ⟨whole, found, shape⟩ := Option.map_eq_some_iff.mp outcome
  obtain ⟨starts, kinds⟩ := Prod.mk.inj shape
  have succeeded := OrderedChecks.toOption_eq_some_iff.mp found
  have room : whole.blocks.length < 5 := by
    have length := congrArg List.length starts
    rw [List.length_map] at length
    rw [length]
    decide
  exact ⟨whole, succeeded, starts,
    analyzeR5900Reachability_splitsIntoFunctions callMemory 0x1000 {} 5 whole succeeded
      (kind_ne_of_kinds kinds (by decide)) room⟩

end Burnout3Recompiled
