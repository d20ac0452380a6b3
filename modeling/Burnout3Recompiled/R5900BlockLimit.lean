import Burnout3Recompiled.R5900ReachabilitySearch

/-!
# The block limit truncates

Two runs of the worklist loop under different block limits go through the same
states until the smaller limit stops one of them.  The other run only appends to
the graph from there on.
-/

namespace Burnout3Recompiled

/-- The same options under another block limit. -/
def R5900ReachabilityOptions.withMaxBlocks (options : R5900ReachabilityOptions)
    (maxBlocks : Nat) : R5900ReachabilityOptions :=
  { options with maxBlocks := maxBlocks }

/-- The issues that say the block limit was reached. -/
def blockLimitIssues (graph : R5900ReachabilityGraph) : List R5900ReachabilityIssue :=
  graph.issues.filter (·.kind = .blockLimitReached)

/-- A graph under the limit `count` beside the graph under a larger one. -/
structure TruncatesAt (count : Nat) (small large : R5900ReachabilityGraph) : Prop where
  blocks : small.blocks = large.blocks.take (min count large.blocks.length)
  calls : small.calls <+: large.calls
  limitOnce : (blockLimitIssues small).length ≤ 1
  limitFull : blockLimitIssues small ≠ [] → small.blocks.length = count
  identical : blockLimitIssues small = [] → small = large

/-- Everything in a graph stands at the front of a later one. -/
structure GraphExtends (before later : R5900ReachabilityGraph) : Prop where
  blocks : before.blocks <+: later.blocks
  calls : before.calls <+: later.calls

theorem GraphExtends.refl (graph : R5900ReachabilityGraph) : GraphExtends graph graph :=
  ⟨List.prefix_rfl, List.prefix_rfl⟩

theorem GraphExtends.trans {first second third : R5900ReachabilityGraph}
    (one : GraphExtends first second) (two : GraphExtends second third) :
    GraphExtends first third :=
  ⟨one.blocks.trans two.blocks, one.calls.trans two.calls⟩

theorem addIssue_extends (graph : R5900ReachabilityGraph)
    (issue : R5900ReachabilityIssue) : GraphExtends graph (addIssue graph issue) :=
  ⟨List.prefix_rfl, List.prefix_rfl⟩

/-- The entry has left the worklist, so no later failure ends the analysis. -/
def EntryTaken (worklist : List PendingTarget) : Prop :=
  ∀ pending ∈ worklist, pending.isEntry = false

section Run

variable {memory : Ps2MemoryMap} {options : R5900ReachabilityOptions}
  {state : ReachabilityState} {block : R5900BasicBlock}

theorem recordBlock_extends (options : R5900ReachabilityOptions)
    (block : R5900BasicBlock) (state : ReachabilityState) :
    GraphExtends state.graph (recordBlock options block state).graph where
  blocks := by
    rw [recordBlock_blocks]
    exact List.prefix_append _ _
  calls := by
    have effect : EdgeEffect options block block.edges _ (recordBlock options block state) :=
      recordBlock_effect
    rw [effect.calls]
    exact List.prefix_append _ _

theorem EntryTaken.recordBlock (taken : EntryTaken state.worklist) :
    EntryTaken (recordBlock options block state).worklist := by
  intro pending member
  rcases recordBlock_effect.entries pending member with old | ⟨notEntry, -⟩
  · exact taken pending old
  · exact notEntry

theorem EntryTaken.head {worklist rest : List PendingTarget} {pending : PendingTarget}
    (taken : EntryTaken worklist) (pendingTargets : worklist = pending :: rest) :
    pending.isEntry = false :=
  taken pending (pendingTargets ▸ .head _)

theorem EntryTaken.of_cons {worklist rest : List PendingTarget} {pending : PendingTarget}
    (taken : EntryTaken worklist) (pendingTargets : worklist = pending :: rest) :
    EntryTaken rest :=
  fun other member => taken other (pendingTargets ▸ .tail _ member)

/-- A run that has left its entry behind ends with a graph. -/
theorem exploreWorklist_extends (memory : Ps2MemoryMap)
    (options : R5900ReachabilityOptions) (state : ReachabilityState)
    (taken : EntryTaken state.worklist) :
    ∃ graph, exploreWorklist memory options state = .ok graph ∧
      GraphExtends state.graph graph := by
  induction state using exploreWorklist_induction memory options with
  | empty state empty => exact ⟨state.graph, exploreWorklist_empty empty, .refl _⟩
  | full state pending rest pendingTargets limit =>
      exact ⟨_, exploreWorklist_full pendingTargets limit, addIssue_extends _ _⟩
  | entryFails state pending rest pendingTargets room failure failed isEntry =>
      rw [taken.head pendingTargets] at isEntry
      cases isEntry
  | targetFails state pending rest pendingTargets room failure failed notEntry ih =>
      have restTaken : EntryTaken rest := taken.of_cons pendingTargets
      obtain ⟨graph, explored, appends⟩ := ih restTaken
      rw [exploreWorklist_failed pendingTargets room failed, if_neg notEntry]
      exact ⟨graph, explored, (addIssue_extends _ _).trans appends⟩
  | records state pending rest pendingTargets room block analyzed ih =>
      have restTaken : EntryTaken rest := taken.of_cons pendingTargets
      have recordTaken : EntryTaken
          (recordBlock options block { state with worklist := rest }).worklist :=
        EntryTaken.recordBlock restTaken
      obtain ⟨graph, explored, appends⟩ := ih recordTaken
      rw [exploreWorklist_record pendingTargets room analyzed]
      exact ⟨graph, explored,
        (recordBlock_extends options block { state with worklist := rest }).trans appends⟩

theorem blockLimitIssues_addIssue {graph : R5900ReachabilityGraph}
    {issue : R5900ReachabilityIssue} (other : issue.kind ≠ .blockLimitReached) :
    blockLimitIssues (addIssue graph issue) = blockLimitIssues graph := by
  simp [blockLimitIssues, addIssue, List.filter_append, other]

/-- The edge loop reports unresolved exits and nothing about the limit. -/
theorem blockLimitIssues_recordBlock (options : R5900ReachabilityOptions)
    (block : R5900BasicBlock) (state : ReachabilityState) :
    blockLimitIssues (recordBlock options block state).graph =
      blockLimitIssues state.graph := by
  have none : (block.edges.flatMap (edgeIssues block)).filter
      (·.kind = .blockLimitReached) = [] := by
    rw [List.filter_eq_nil_iff]
    intro issue member
    obtain ⟨edge, -, recorded⟩ := List.mem_flatMap.mp member
    simp [kind_of_mem_edgeIssues recorded]
  have effect : EdgeEffect options block block.edges _ (recordBlock options block state) :=
    recordBlock_effect
  rw [blockLimitIssues, effect.issues, List.filter_append, none, List.append_nil,
    blockLimitIssues]

theorem blockLimitIssues_detectOverlappingLeaders (graph : R5900ReachabilityGraph) :
    blockLimitIssues (detectOverlappingLeaders graph) = blockLimitIssues graph := by
  obtain ⟨added, same, kinds⟩ := detectOverlappingLeaders_addsLeaderIssues graph
  have none : added.filter (·.kind = .blockLimitReached) = [] := by
    rw [List.filter_eq_nil_iff]
    intro issue member
    rcases kinds issue member with kind | kind <;> simp [kind]
  rw [blockLimitIssues, same, List.filter_append, none, List.append_nil, blockLimitIssues]

/-- The run under the smaller limit stops here. -/
theorem truncatesAt_addIssue {large : R5900ReachabilityGraph}
    {issue : R5900ReachabilityIssue} {graph : R5900ReachabilityGraph}
    (limit : issue.kind = .blockLimitReached) (unlimited : blockLimitIssues graph = [])
    (later : GraphExtends graph large) :
    TruncatesAt graph.blocks.length (addIssue graph issue) large := by
  have one : blockLimitIssues (addIssue graph issue) = [issue] := by
    rw [blockLimitIssues, addIssue, List.filter_append, ← blockLimitIssues, unlimited]
    simp [limit]
  have short : graph.blocks.length ≤ large.blocks.length := later.blocks.length_le
  refine ⟨?_, later.calls, ?_, fun _ => rfl, ?_⟩
  · rw [Nat.min_eq_left short]
    exact List.prefix_iff_eq_take.mp later.blocks
  · rw [one]
    exact Nat.le_refl 1
  · rw [one]
    intro absent
    cases absent

/-- The run under the smaller limit has ended by itself. -/
theorem truncatesAt_self {count : Nat} {graph : R5900ReachabilityGraph}
    (bounded : graph.blocks.length ≤ count) (unlimited : blockLimitIssues graph = []) :
    TruncatesAt count graph graph where
  blocks := by rw [Nat.min_eq_right bounded, List.take_length]
  calls := List.prefix_rfl
  limitOnce := by
    rw [unlimited]
    exact Nat.zero_le 1
  limitFull reached := absurd unlimited reached
  identical _ := rfl

/-- By induction on the run under the smaller limit, which the other run follows
step by step. -/
theorem exploreWorklist_truncates {maxBlocks : Nat} (ordered : options.maxBlocks ≤ maxBlocks)
    (taken : EntryTaken state.worklist)
    (bounded : state.graph.blocks.length ≤ options.maxBlocks)
    (unlimited : blockLimitIssues state.graph = []) :
    ∃ small large, exploreWorklist memory options state = .ok small ∧
      exploreWorklist memory (options.withMaxBlocks maxBlocks) state = .ok large ∧
      TruncatesAt options.maxBlocks small large := by
  induction state using exploreWorklist_induction memory options with
  | empty state empty =>
      exact ⟨state.graph, state.graph, exploreWorklist_empty empty,
        exploreWorklist_empty empty, truncatesAt_self bounded unlimited⟩
  | full state pending rest pendingTargets limit =>
      obtain ⟨large, explored, later⟩ :=
        exploreWorklist_extends memory (options.withMaxBlocks maxBlocks) state taken
      have full : state.graph.blocks.length = options.maxBlocks :=
        Nat.le_antisymm bounded limit
      have truncates : TruncatesAt state.graph.blocks.length
          (addIssue state.graph
            { kind := .blockLimitReached
              sourceBlock := pending.sourceBlock
              target := some pending.pc }) large :=
        truncatesAt_addIssue rfl unlimited later
      rw [full] at truncates
      exact ⟨_, large, exploreWorklist_full pendingTargets limit, explored, truncates⟩
  | entryFails state pending rest pendingTargets room failure failed isEntry =>
      rw [taken.head pendingTargets] at isEntry
      cases isEntry
  | targetFails state pending rest pendingTargets room failure failed notEntry ih =>
      have restTaken : EntryTaken rest := taken.of_cons pendingTargets
      obtain ⟨small, large, smallRun, largeRun, truncates⟩ := ih restTaken bounded
        ((blockLimitIssues_addIssue (by simp)).trans unlimited)
      have larger : state.graph.blocks.length < (options.withMaxBlocks maxBlocks).maxBlocks :=
        Nat.lt_of_lt_of_le room ordered
      rw [exploreWorklist_failed pendingTargets room failed, if_neg notEntry,
        exploreWorklist_failed pendingTargets larger failed, if_neg notEntry]
      exact ⟨small, large, smallRun, largeRun, truncates⟩
  | records state pending rest pendingTargets room block analyzed ih =>
      have restTaken : EntryTaken rest := taken.of_cons pendingTargets
      have roomLeft : state.graph.blocks.length + 1 ≤ options.maxBlocks := room
      have recordTaken : EntryTaken
          (recordBlock options block { state with worklist := rest }).worklist :=
        EntryTaken.recordBlock restTaken
      obtain ⟨small, large, smallRun, largeRun, truncates⟩ := ih recordTaken
        (by rwa [recordBlock_blocks, List.length_append, List.length_singleton])
        ((blockLimitIssues_recordBlock _ _ _).trans unlimited)
      have larger : state.graph.blocks.length < (options.withMaxBlocks maxBlocks).maxBlocks :=
        Nat.lt_of_lt_of_le room ordered
      rw [exploreWorklist_record pendingTargets room analyzed,
        exploreWorklist_record pendingTargets larger analyzed]
      exact ⟨small, large, smallRun, largeRun, truncates⟩

end Run

/-- Looking for leaders does not change how two graphs compare. -/
theorem TruncatesAt.detectOverlappingLeaders {count : Nat}
    {small large : R5900ReachabilityGraph} (truncates : TruncatesAt count small large) :
    TruncatesAt count (detectOverlappingLeaders small) (detectOverlappingLeaders large) where
  blocks := truncates.blocks
  calls := truncates.calls
  limitOnce := by
    rw [blockLimitIssues_detectOverlappingLeaders]
    exact truncates.limitOnce
  limitFull := by
    rw [blockLimitIssues_detectOverlappingLeaders]
    exact truncates.limitFull
  identical := by
    rw [blockLimitIssues_detectOverlappingLeaders]
    intro absent
    rw [truncates.identical absent]

/-- The loop before its first iteration. -/
def entryState (entryPc : BitVec 32) : ReachabilityState where
  graph := { entryPc := entryPc }
  worklist := [⟨entryPc, entryPc, true⟩]
  scheduled := [entryPc]

/-- A block at the entry is recorded with nothing else in the worklist. -/
def recordEntry (options : R5900ReachabilityOptions) (entryPc : BitVec 32)
    (block : R5900BasicBlock) : ReachabilityState :=
  recordBlock options block { entryState entryPc with worklist := [] }

section Entry

variable {memory : Ps2MemoryMap} {entryPc : BitVec 32}
  {options : R5900ReachabilityOptions} {block : R5900BasicBlock}

theorem analyzeR5900Reachability_failed (positive : 0 < options.maxBlocks)
    {failure : R5900ControlFlowFailure}
    (failed : analyzeR5900BasicBlock memory entryPc options.blockOptions =
      .error failure) :
    analyzeR5900Reachability memory entryPc options =
      .error ⟨.entryAnalysisFailed,
        "R5900 entry basic-block analysis failed: " ++ failure.message⟩ := by
  have taken : (entryState entryPc).worklist = ⟨entryPc, entryPc, true⟩ :: [] := rfl
  rw [analyzeR5900Reachability, if_neg (Nat.ne_of_gt positive), ← entryState,
    exploreWorklist_failed taken positive failed]
  rfl

theorem analyzeR5900Reachability_record (positive : 0 < options.maxBlocks)
    (analyzed : analyzeR5900BasicBlock memory entryPc options.blockOptions = .ok block) :
    analyzeR5900Reachability memory entryPc options =
      (exploreWorklist memory options (recordEntry options entryPc block)).map
        detectOverlappingLeaders := by
  have taken : (entryState entryPc).worklist = ⟨entryPc, entryPc, true⟩ :: [] := rfl
  rw [analyzeR5900Reachability, if_neg (Nat.ne_of_gt positive), ← entryState,
    exploreWorklist_record taken positive analyzed, recordEntry]

theorem entryTaken_recordEntry :
    EntryTaken (recordEntry options entryPc block).worklist := by
  refine EntryTaken.recordBlock ?_
  intro pending member
  cases member

theorem blocks_recordEntry :
    (recordEntry options entryPc block).graph.blocks = [block] :=
  recordBlock_blocks

theorem blockLimitIssues_recordEntry :
    blockLimitIssues (recordEntry options entryPc block).graph = [] :=
  blockLimitIssues_recordBlock options block { entryState entryPc with worklist := [] }

end Entry

/-- Under two limits the analysis fails alike, or it returns two graphs of which the
one under the smaller limit is a truncation of the other. -/
theorem analyzeR5900Reachability_withMaxBlocks (memory : Ps2MemoryMap)
    (entryPc : BitVec 32) (options : R5900ReachabilityOptions) {smaller larger : Nat}
    (positive : 1 ≤ smaller) (ordered : smaller ≤ larger) :
    (∃ failure,
      analyzeR5900Reachability memory entryPc (options.withMaxBlocks smaller) =
          .error failure ∧
        analyzeR5900Reachability memory entryPc (options.withMaxBlocks larger) =
          .error failure) ∨
    ∃ small large,
      analyzeR5900Reachability memory entryPc (options.withMaxBlocks smaller) =
          .ok small ∧
        analyzeR5900Reachability memory entryPc (options.withMaxBlocks larger) =
          .ok large ∧
        TruncatesAt smaller small large := by
  have room : 0 < (options.withMaxBlocks smaller).maxBlocks := positive
  have largerRoom : 0 < (options.withMaxBlocks larger).maxBlocks :=
    Nat.lt_of_lt_of_le positive ordered
  cases analyzed : analyzeR5900BasicBlock memory entryPc options.blockOptions with
  | error failure =>
      left
      exact ⟨_, analyzeR5900Reachability_failed room analyzed,
        analyzeR5900Reachability_failed largerRoom analyzed⟩
  | ok block =>
      right
      rw [analyzeR5900Reachability_record room analyzed,
        analyzeR5900Reachability_record largerRoom analyzed]
      have bounded : (recordEntry (options.withMaxBlocks smaller) entryPc
          block).graph.blocks.length ≤ (options.withMaxBlocks smaller).maxBlocks := by
        rw [blocks_recordEntry]
        exact positive
      obtain ⟨small, large, smallRun, largeRun, truncates⟩ :=
        exploreWorklist_truncates ordered entryTaken_recordEntry bounded
          blockLimitIssues_recordEntry
      exact ⟨_, _, congrArg (Except.map detectOverlappingLeaders) smallRun,
        congrArg (Except.map detectOverlappingLeaders) largeRun,
        truncates.detectOverlappingLeaders⟩

/-- A jump over its delay slot to a system call. -/
def jumpToTrapMemory : Ps2MemoryMap where
  regions := [⟨0x1000, 12, 5⟩]
  backingRegions :=
    [{ metadata := ⟨0x1000, 12, 5⟩
       bytes := [0x02, 0x04, 0x00, 0x08] ++ [0, 0, 0, 0] ++ [0x0C, 0, 0, 0]
       sized := rfl }]
  mirrored := mirrored_singleton

/-- Its second block is cut off by a limit of one. -/
theorem analyzeR5900Reachability_withMaxBlocks_jumpToTrapMemory :
    ∃ small large,
      analyzeR5900Reachability jumpToTrapMemory 0x1000
          (R5900ReachabilityOptions.withMaxBlocks {} 1) = .ok small ∧
        analyzeR5900Reachability jumpToTrapMemory 0x1000
          (R5900ReachabilityOptions.withMaxBlocks {} 2) = .ok large ∧
        small.blocks.length = 1 ∧ large.blocks.length = 2 ∧
        TruncatesAt 1 small large := by
  have sizes : ((analyzeR5900Reachability jumpToTrapMemory 0x1000
          (R5900ReachabilityOptions.withMaxBlocks {} 1)).toOption.map (·.blocks.length),
      (analyzeR5900Reachability jumpToTrapMemory 0x1000
          (R5900ReachabilityOptions.withMaxBlocks {} 2)).toOption.map (·.blocks.length)) =
      (some 1, some 2) := by
    decide +kernel
  rcases analyzeR5900Reachability_withMaxBlocks jumpToTrapMemory 0x1000 {}
      (Nat.le_refl 1) (Nat.le_succ 1) with ⟨failure, failed, -⟩ |
      ⟨small, large, smallRun, largeRun, truncates⟩
  · rw [failed] at sizes
    cases sizes
  · rw [smallRun, largeRun] at sizes
    obtain ⟨smallSize, largeSize⟩ := Prod.mk.inj sizes
    exact ⟨small, large, smallRun, largeRun, Option.some.inj smallSize,
      Option.some.inj largeSize, truncates⟩

end Burnout3Recompiled
