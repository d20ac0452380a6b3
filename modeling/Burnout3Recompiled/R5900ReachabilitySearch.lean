import Burnout3Recompiled.OrderedChecks
import Burnout3Recompiled.R5900Reachability
import Burnout3Recompiled.WorklistSearch

/-!
# The worklist loop is a search

The loop runs a breadth-first search over block starts, whose successors are the
targets of the followed edges.  The blocks, calls and issues of a graph are
functions of the visited starts.
-/

namespace Burnout3Recompiled

open WorklistSearch (Search Explores schedule visit after explores_after after_succ)

/-- The edge kinds whose targets the traversal schedules. -/
def R5900ReachabilityOptions.follows (options : R5900ReachabilityOptions) :
    R5900EdgeKind → Bool
  | .branchTaken | .branchNotTaken | .directJump | .callContinuation | .fallthrough =>
      true
  | .directCall => options.followDirectCalls
  | .indirectJump | .indirectCall => false

def followedTargets (options : R5900ReachabilityOptions)
    (edges : List R5900ControlFlowEdge) : List (BitVec 32) :=
  edges.filterMap fun edge => if options.follows edge.kind then edge.target else none

section Edges

variable (memory : Ps2MemoryMap) (options : R5900ReachabilityOptions)

/-- A block starts at `source` and one of its followed edges goes to `target`. -/
def FollowsEdge (source target : BitVec 32) : Prop :=
  ∃ block, analyzeR5900BasicBlock memory source options.blockOptions = .ok block ∧
    ∃ edge ∈ block.edges, options.follows edge.kind = true ∧ edge.target = some target

/-- The least set with the entry that is closed under followed edges. -/
def ReachedStart (entryPc : BitVec 32) : BitVec 32 → Prop :=
  Relation.ReflTransGen (FollowsEdge memory options) entryPc

def blockSuccessors (source : BitVec 32) : List (BitVec 32) :=
  match analyzeR5900BasicBlock memory source options.blockOptions with
  | .ok block => followedTargets options block.edges
  | .error _ => []

variable {memory options}

theorem mem_followedTargets {edges : List R5900ControlFlowEdge} {target : BitVec 32} :
    target ∈ followedTargets options edges ↔
      ∃ edge ∈ edges, options.follows edge.kind = true ∧ edge.target = some target := by
  simp only [followedTargets, List.mem_filterMap]
  constructor
  · rintro ⟨edge, member, kept⟩
    split at kept
    · next follows => exact ⟨edge, member, follows, kept⟩
    · cases kept
  · rintro ⟨edge, member, follows, isTarget⟩
    exact ⟨edge, member, by rw [if_pos follows, isTarget]⟩

theorem mem_blockSuccessors {source target : BitVec 32} :
    target ∈ blockSuccessors memory options source ↔
      FollowsEdge memory options source target := by
  unfold blockSuccessors FollowsEdge
  cases analyzed : analyzeR5900BasicBlock memory source options.blockOptions with
  | error failure => simp
  | ok block => simp [mem_followedTargets]

theorem reachable_iff_reachedStart {entryPc pc : BitVec 32} :
    WorklistSearch.Reachable (blockSuccessors memory options) entryPc pc ↔
      ReachedStart memory options entryPc pc := by
  have same : (fun source target => target ∈ blockSuccessors memory options source) =
      FollowsEdge memory options := by
    ext source target
    exact mem_blockSuccessors
  rw [WorklistSearch.Reachable, same, ReachedStart]

end Edges

/-- The call an edge records. -/
def edgeCalls (block : R5900BasicBlock) (edge : R5900ControlFlowEdge) :
    List R5900ReachabilityCall :=
  match edge.kind with
  | .directCall => [⟨block.startPc, terminatorPc block, false, edge.target⟩]
  | .indirectCall => [⟨block.startPc, terminatorPc block, true, none⟩]
  | _ => []

/-- The unresolved exit an edge records. -/
def edgeIssues (block : R5900BasicBlock) (edge : R5900ControlFlowEdge) :
    List R5900ReachabilityIssue :=
  match edge.kind with
  | .indirectCall | .indirectJump => [unresolvedIndirectExit block]
  | _ => []

theorem kind_of_mem_edgeIssues {block : R5900BasicBlock} {edge : R5900ControlFlowEdge}
    {issue : R5900ReachabilityIssue} (member : issue ∈ edgeIssues block edge) :
    issue.kind = .unresolvedIndirectExit := by
  unfold edgeIssues at member
  split at member
  · rw [List.mem_singleton.mp member, unresolvedIndirectExit]
  · rw [List.mem_singleton.mp member, unresolvedIndirectExit]
  · cases member

/-- The worklist and the scheduled set, seen as a search. -/
def ReachabilityState.search (visited : List (BitVec 32 × BitVec 32))
    (state : ReachabilityState) : Search (BitVec 32) where
  visited := visited
  pending := state.worklist.map fun pending => (pending.pc, pending.sourceBlock)
  scheduled := state.scheduled

section Recording

variable {options : R5900ReachabilityOptions} {block : R5900BasicBlock}
  {state : ReachabilityState} {visited : List (BitVec 32 × BitVec 32)}

theorem search_scheduleTarget (source target : BitVec 32) :
    (scheduleTarget source state (some target)).search visited =
      schedule source (state.search visited) target := by
  have same : (state.search visited).scheduled = state.scheduled := rfl
  by_cases known : target ∈ state.scheduled
  · rw [scheduleTarget, if_pos known, schedule, same, if_pos known]
  · rw [scheduleTarget, if_neg known, schedule, same, if_neg known]
    simp [ReachabilityState.search]

/-- What walking some edges changes. -/
structure EdgeEffect (options : R5900ReachabilityOptions) (block : R5900BasicBlock)
    (edges : List R5900ControlFlowEdge) (before result : ReachabilityState) : Prop where
  search : ∀ visited, result.search visited =
    (followedTargets options edges).foldl (schedule block.startPc) (before.search visited)
  blocks : result.graph.blocks = before.graph.blocks
  calls : result.graph.calls = before.graph.calls ++ edges.flatMap (edgeCalls block)
  issues : result.graph.issues = before.graph.issues ++ edges.flatMap (edgeIssues block)
  scheduled : before.scheduled ⊆ result.scheduled
  entries : ∀ pending ∈ result.worklist, pending ∈ before.worklist ∨
    pending.isEntry = false ∧ pending.pc ∉ before.scheduled

theorem EdgeEffect.trans {first second : List R5900ControlFlowEdge}
    {before middle result : ReachabilityState}
    (one : EdgeEffect options block first before middle)
    (two : EdgeEffect options block second middle result) :
    EdgeEffect options block (first ++ second) before result where
  search visited := by
    rw [two.search, one.search, followedTargets, followedTargets, followedTargets,
      List.filterMap_append, List.foldl_append]
  blocks := two.blocks.trans one.blocks
  calls := by rw [two.calls, one.calls, List.flatMap_append, List.append_assoc]
  issues := by rw [two.issues, one.issues, List.flatMap_append, List.append_assoc]
  scheduled := fun _ known => two.scheduled (one.scheduled known)
  entries := by
    intro pending member
    rcases two.entries pending member with earlier | ⟨notEntry, fresh⟩
    · exact one.entries pending earlier
    · exact .inr ⟨notEntry, fun known => fresh (one.scheduled known)⟩

/-- A followed edge, after its evidence has been put into the graph. -/
theorem edgeEffect_scheduleTarget {edge : R5900ControlFlowEdge}
    {graph : R5900ReachabilityGraph} (follows : options.follows edge.kind = true)
    (blocks : graph.blocks = state.graph.blocks)
    (calls : graph.calls = state.graph.calls ++ edgeCalls block edge)
    (issues : graph.issues = state.graph.issues ++ edgeIssues block edge) :
    EdgeEffect options block [edge] state
      (scheduleTarget block.startPc { state with graph := graph } edge.target) := by
  cases target : edge.target with
  | none =>
      refine ⟨?_, blocks, ?_, ?_, fun _ => id, fun pending => .inl⟩
      · intro visited
        simp [followedTargets, follows, target, scheduleTarget, ReachabilityState.search]
      · simpa [scheduleTarget] using calls
      · simpa [scheduleTarget] using issues
  | some next =>
      refine ⟨?_, ?_, ?_, ?_, ?_, ?_⟩
      · intro visited
        rw [search_scheduleTarget]
        simp [followedTargets, follows, target, ReachabilityState.search]
      · rw [scheduleTarget_graph, blocks]
      · simpa using calls
      · simpa using issues
      · rw [scheduleTarget]
        split
        · exact fun _ => id
        · exact List.subset_append_left _ _
      · intro pending member
        rw [scheduleTarget] at member
        split at member
        · exact .inl member
        · next fresh =>
            rcases List.mem_append.mp member with old | new
            · exact .inl old
            · obtain rfl := List.mem_singleton.mp new
              exact .inr ⟨rfl, fresh⟩

/-- An edge that is not followed leaves only its evidence. -/
theorem edgeEffect_evidence {edge : R5900ControlFlowEdge}
    {graph : R5900ReachabilityGraph} (ignored : options.follows edge.kind = false)
    (blocks : graph.blocks = state.graph.blocks)
    (calls : graph.calls = state.graph.calls ++ edgeCalls block edge)
    (issues : graph.issues = state.graph.issues ++ edgeIssues block edge) :
    EdgeEffect options block [edge] state { state with graph := graph } where
  search visited := by
    simp [followedTargets, ignored, ReachabilityState.search]
  blocks := blocks
  calls := by simpa using calls
  issues := by simpa using issues
  scheduled := fun _ => id
  entries := fun pending => .inl

theorem processEdge_effect (edge : R5900ControlFlowEdge) :
    EdgeEffect options block [edge] state (processEdge options block state edge) := by
  obtain ⟨kind, target⟩ := edge
  cases kind with
  | branchTaken | branchNotTaken | directJump | callContinuation | fallthrough =>
      exact edgeEffect_scheduleTarget rfl rfl (List.append_nil _).symm
        (List.append_nil _).symm
  | indirectJump =>
      exact edgeEffect_evidence rfl rfl (List.append_nil _).symm rfl
  | indirectCall =>
      exact edgeEffect_evidence rfl rfl rfl rfl
  | directCall =>
      simp only [processEdge]
      by_cases follow : options.followDirectCalls = true
      · rw [if_pos follow]
        exact edgeEffect_scheduleTarget follow rfl rfl (List.append_nil _).symm
      · rw [if_neg follow]
        exact edgeEffect_evidence (eq_false_of_ne_true follow) rfl rfl
          (List.append_nil _).symm

theorem foldl_processEdge_effect (edges : List R5900ControlFlowEdge) :
    EdgeEffect options block edges state
      (edges.foldl (processEdge options block) state) := by
  induction edges generalizing state with
  | nil =>
      refine ⟨fun visited => rfl, rfl, ?_, ?_, fun _ => id, fun pending => .inl⟩
      · simp
      · simp
  | cons edge edges ih => exact (processEdge_effect edge).trans ih

theorem recordBlock_effect :
    EdgeEffect options block block.edges
      { state with graph :=
        { state.graph with blocks := state.graph.blocks ++ [block] } }
      (recordBlock options block state) :=
  foldl_processEdge_effect block.edges

/-- Recording a block schedules the targets of its followed edges. -/
theorem recordBlock_search :
    (recordBlock options block state).search visited =
      (followedTargets options block.edges).foldl (schedule block.startPc)
        (state.search visited) :=
  (foldl_processEdge_effect block.edges).search visited

end Recording

section Loop

variable (memory : Ps2MemoryMap) (options : R5900ReachabilityOptions)

/-- The block of a visited start, when its analysis succeeds. -/
def visitedBlock (item : BitVec 32 × BitVec 32) : Option R5900BasicBlock :=
  (analyzeR5900BasicBlock memory item.1 options.blockOptions).toOption

/-- The issues a visited start leaves: a failed analysis names the block that led
to it. -/
def visitIssues (item : BitVec 32 × BitVec 32) : List R5900ReachabilityIssue :=
  match analyzeR5900BasicBlock memory item.1 options.blockOptions with
  | .ok block => block.edges.flatMap (edgeIssues block)
  | .error failure =>
      [{ kind := .targetAnalysisFailed
         sourceBlock := item.2
         target := some item.1
         analysisError := some failure.error }]

theorem kind_of_mem_visitIssues {item : BitVec 32 × BitVec 32}
    {issue : R5900ReachabilityIssue} (member : issue ∈ visitIssues memory options item) :
    issue.kind = .targetAnalysisFailed ∨ issue.kind = .unresolvedIndirectExit := by
  unfold visitIssues at member
  split at member
  · obtain ⟨edge, -, recorded⟩ := List.mem_flatMap.mp member
    exact .inr (kind_of_mem_edgeIssues recorded)
  · rw [List.mem_singleton.mp member]
    exact .inl rfl

def blockCalls (block : R5900BasicBlock) : List R5900ReachabilityCall :=
  block.edges.flatMap (edgeCalls block)

def searchAfter (entryPc : BitVec 32) (count : Nat) : Search (BitVec 32) :=
  after (blockSuccessors memory options) entryPc count

/-- The state of the loop after `count` iterations. -/
structure TracksSearch (entryPc : BitVec 32) (count : Nat) (state : ReachabilityState) :
    Prop where
  search : state.search (searchAfter memory options entryPc count).visited =
    searchAfter memory options entryPc count
  entries : ∀ pending ∈ state.worklist,
    pending.isEntry = decide (pending.pc = entryPc)
  blocks : state.graph.blocks =
    (searchAfter memory options entryPc count).visited.filterMap
      (visitedBlock memory options)
  calls : state.graph.calls = state.graph.blocks.flatMap blockCalls
  issues : state.graph.issues =
    (searchAfter memory options entryPc count).visited.flatMap
      (visitIssues memory options)
  bounded : state.graph.blocks.length ≤ options.maxBlocks
  entryAnalyzed : ∀ item ∈ (searchAfter memory options entryPc count).visited,
    item.1 = entryPc → (visitedBlock memory options item).isSome

variable {memory options} {entryPc : BitVec 32} {count : Nat} {state : ReachabilityState}
  {pending : PendingTarget} {rest : List PendingTarget}

theorem tracksSearch_start :
    TracksSearch memory options entryPc 0
      { graph := { entryPc := entryPc }
        worklist := [⟨entryPc, entryPc, true⟩]
        scheduled := [entryPc] } where
  search := rfl
  entries := by
    intro pending member
    obtain rfl := List.mem_singleton.mp member
    simp
  blocks := rfl
  calls := rfl
  issues := rfl
  bounded := Nat.zero_le _
  entryAnalyzed := by
    intro item member
    cases member

theorem TracksSearch.pending_eq (tracks : TracksSearch memory options entryPc count state) :
    (searchAfter memory options entryPc count).pending =
      state.worklist.map fun pending => (pending.pc, pending.sourceBlock) := by
  rw [← tracks.search]
  rfl

theorem TracksSearch.entry_scheduled
    (tracks : TracksSearch memory options entryPc count state) :
    entryPc ∈ state.scheduled := by
  have member := (explores_after (blockSuccessors memory options) entryPc
    count).entry_mem
  rw [← searchAfter, ← tracks.search] at member
  exact member

/-- The next state of the search, when the loop takes `pending`. -/
theorem TracksSearch.searchAfter_succ
    (tracks : TracksSearch memory options entryPc count state)
    (taken : state.worklist = pending :: rest) :
    searchAfter memory options entryPc (count + 1) =
      (blockSuccessors memory options pending.pc).foldl (schedule pending.pc)
        (({ state with worklist := rest } : ReachabilityState).search
          ((searchAfter memory options entryPc count).visited ++
            [(pending.pc, pending.sourceBlock)])) := by
  have queue := tracks.pending_eq
  rw [taken, List.map_cons] at queue
  have scheduled : (searchAfter memory options entryPc count).scheduled =
      state.scheduled := by
    rw [← tracks.search]
    rfl
  rw [searchAfter, after_succ, ← searchAfter, visit, queue]
  simp only [ReachabilityState.search, scheduled]

/-- A target that cannot be analysed becomes an issue. -/
theorem TracksSearch.fail (tracks : TracksSearch memory options entryPc count state)
    (taken : state.worklist = pending :: rest) (notEntry : pending.isEntry = false)
    {failure : R5900ControlFlowFailure}
    (failed : analyzeR5900BasicBlock memory pending.pc options.blockOptions =
      .error failure) :
    TracksSearch memory options entryPc (count + 1)
      { state with
        worklist := rest
        graph := addIssue state.graph
          { kind := .targetAnalysisFailed
            sourceBlock := pending.sourceBlock
            target := some pending.pc
            analysisError := some failure.error } } := by
  have next := tracks.searchAfter_succ taken
  have none : blockSuccessors memory options pending.pc = [] := by
    rw [blockSuccessors, failed]
  rw [none, List.foldl_nil] at next
  have visited : (searchAfter memory options entryPc (count + 1)).visited =
      (searchAfter memory options entryPc count).visited ++
        [(pending.pc, pending.sourceBlock)] := by
    rw [next]
    rfl
  have entryFlag := tracks.entries pending (by rw [taken]; exact .head _)
  refine ⟨?_, ?_, ?_, tracks.calls, ?_, tracks.bounded, ?_⟩
  · rw [visited, next]
    rfl
  · intro other member
    exact tracks.entries other (by rw [taken]; exact .tail _ member)
  · rw [visited, List.filterMap_append]
    simp [addIssue, visitedBlock, failed, Except.toOption, tracks.blocks]
  · rw [visited, List.flatMap_append]
    simp [addIssue, visitIssues, failed, tracks.issues]
  · intro item member isEntry
    rw [visited] at member
    rcases List.mem_append.mp member with old | new
    · exact tracks.entryAnalyzed item old isEntry
    · obtain rfl := List.mem_singleton.mp new
      rw [notEntry] at entryFlag
      exact absurd isEntry (of_decide_eq_false entryFlag.symm)

/-- A target that can be analysed becomes a block. -/
theorem TracksSearch.record (tracks : TracksSearch memory options entryPc count state)
    (taken : state.worklist = pending :: rest)
    (room : state.graph.blocks.length < options.maxBlocks) {block : R5900BasicBlock}
    (analyzed : analyzeR5900BasicBlock memory pending.pc options.blockOptions =
      .ok block) :
    TracksSearch memory options entryPc (count + 1)
      (recordBlock options block { state with worklist := rest }) := by
  obtain ⟨terminator, shape, -⟩ := analyzeR5900BasicBlock_eq_ok analyzed
  have next := tracks.searchAfter_succ taken
  have successors : blockSuccessors memory options pending.pc =
      followedTargets options block.edges := by
    rw [blockSuccessors, analyzed]
  have effect : EdgeEffect options block block.edges _
      (recordBlock options block { state with worklist := rest }) := recordBlock_effect
  rw [successors, ← shape.start, ← recordBlock_search, shape.start] at next
  have visited : (searchAfter memory options entryPc (count + 1)).visited =
      (searchAfter memory options entryPc count).visited ++
        [(pending.pc, pending.sourceBlock)] := by
    rw [next]
    rfl
  refine ⟨?_, ?_, ?_, ?_, ?_, ?_, ?_⟩
  · rw [visited, next]
  · intro other member
    rcases effect.entries other member with old | ⟨notEntry, fresh⟩
    · exact tracks.entries other (by rw [taken]; exact .tail _ old)
    · rw [notEntry, eq_comm, decide_eq_false_iff_not]
      rintro rfl
      exact fresh tracks.entry_scheduled
  · rw [recordBlock_blocks, visited, List.filterMap_append, ← tracks.blocks]
    simp [visitedBlock, analyzed, Except.toOption]
  · rw [effect.calls, recordBlock_blocks, List.flatMap_append, tracks.calls]
    simp [blockCalls]
  · rw [effect.issues, visited, List.flatMap_append, ← tracks.issues]
    simp [visitIssues, analyzed]
  · rw [recordBlock_blocks, List.length_append, List.length_singleton]
    exact room
  · intro item member isEntry
    rw [visited] at member
    rcases List.mem_append.mp member with old | new
    · exact tracks.entryAnalyzed item old isEntry
    · obtain rfl := List.mem_singleton.mp new
      rw [visitedBlock, analyzed]
      rfl

/-- Where the loop can end: nothing is pending, or the block limit has been
reached and the next target is reported. -/
def EndsAt (options : R5900ReachabilityOptions) (state : ReachabilityState)
    (graph : R5900ReachabilityGraph) : Prop :=
  (state.worklist = [] ∧ graph = state.graph) ∨
    ∃ pending rest, state.worklist = pending :: rest ∧
      options.maxBlocks ≤ state.graph.blocks.length ∧
      graph = addIssue state.graph
        { kind := .blockLimitReached
          sourceBlock := pending.sourceBlock
          target := some pending.pc }

/-- The loop, by induction on its iterations. -/
theorem exploreWorklist_tracks {graph : R5900ReachabilityGraph}
    (tracks : TracksSearch memory options entryPc count state)
    (explored : exploreWorklist memory options state = .ok graph) :
    ∃ total final, TracksSearch memory options entryPc total final ∧
      EndsAt options final graph := by
  induction state using exploreWorklist_induction memory options generalizing count with
  | empty state empty =>
      rw [exploreWorklist_empty empty] at explored
      exact ⟨count, state, tracks, .inl ⟨empty, (Except.ok.inj explored).symm⟩⟩
  | full state pending rest taken limit =>
      rw [exploreWorklist_full taken limit] at explored
      exact ⟨count, state, tracks,
        .inr ⟨pending, rest, taken, limit, (Except.ok.inj explored).symm⟩⟩
  | entryFails state pending rest taken room failure failed isEntry =>
      rw [exploreWorklist_failed taken room failed, if_pos isEntry] at explored
      cases explored
  | targetFails state pending rest taken room failure failed notEntry ih =>
      rw [exploreWorklist_failed taken room failed, if_neg notEntry] at explored
      exact ih (tracks.fail taken (eq_false_of_ne_true notEntry) failed) explored
  | records state pending rest taken room block analyzed ih =>
      rw [exploreWorklist_record taken room analyzed] at explored
      exact ih (tracks.record taken room analyzed) explored

end Loop

/-- Only issues about leaders have been added. -/
def AddsLeaderIssues (before result : List R5900ReachabilityIssue) : Prop :=
  ∃ added, result = before ++ added ∧ ∀ issue ∈ added,
    issue.kind = .leaderInsideBlock ∨ issue.kind = .leaderInsideDelaySlot

section Leaders

theorem AddsLeaderIssues.refl (issues : List R5900ReachabilityIssue) :
    AddsLeaderIssues issues issues :=
  ⟨[], (List.append_nil _).symm, by simp⟩

theorem AddsLeaderIssues.trans {first second third : List R5900ReachabilityIssue}
    (one : AddsLeaderIssues first second) (two : AddsLeaderIssues second third) :
    AddsLeaderIssues first third := by
  obtain ⟨added, rfl, kinds⟩ := one
  obtain ⟨more, rfl, moreKinds⟩ := two
  refine ⟨added ++ more, List.append_assoc _ _ _, ?_⟩
  intro issue member
  rcases List.mem_append.mp member with old | new
  · exact kinds issue old
  · exact moreKinds issue new

theorem emit_addsLeaderIssues (state : LeaderIssues) {kind : R5900ReachabilityIssueKind}
    (leaderKind : kind = .leaderInsideBlock ∨ kind = .leaderInsideDelaySlot)
    (leader containing : BitVec 32) :
    AddsLeaderIssues state.issues (state.emit kind leader containing).issues := by
  unfold LeaderIssues.emit
  split
  · exact .refl _
  · refine ⟨_, rfl, ?_⟩
    intro issue member
    obtain rfl := List.mem_singleton.mp member
    exact leaderKind

theorem inspectLeader_addsLeaderIssues (leaderBlock : R5900BasicBlock)
    (state : LeaderIssues) (containing : R5900BasicBlock) :
    AddsLeaderIssues state.issues (inspectLeader leaderBlock state containing).issues := by
  simp only [inspectLeader]
  split
  · exact .refl _
  · have inside : AddsLeaderIssues state.issues
        (if leaderInsideInstructions leaderBlock.startPc containing then
          state.emit .leaderInsideBlock leaderBlock.startPc containing.startPc
        else state).issues := by
      split
      · exact emit_addsLeaderIssues state (.inl rfl) _ _
      · exact .refl _
    split
    · exact inside.trans (emit_addsLeaderIssues _ (.inr rfl) _ _)
    · exact inside

theorem foldl_addsLeaderIssues {step : LeaderIssues → R5900BasicBlock → LeaderIssues}
    (adds : ∀ state block, AddsLeaderIssues state.issues (step state block).issues)
    (blocks : List R5900BasicBlock) (state : LeaderIssues) :
    AddsLeaderIssues state.issues (blocks.foldl step state).issues := by
  induction blocks generalizing state with
  | nil => exact .refl _
  | cons block blocks ih => exact (adds state block).trans (ih (step state block))

theorem detectOverlappingLeaders_addsLeaderIssues (graph : R5900ReachabilityGraph) :
    AddsLeaderIssues graph.issues (detectOverlappingLeaders graph).issues :=
  foldl_addsLeaderIssues (fun state leaderBlock =>
    foldl_addsLeaderIssues (inspectLeader_addsLeaderIssues leaderBlock) graph.blocks state)
    graph.blocks { issues := graph.issues }

/-- The issues about targets and exits are not touched. -/
theorem AddsLeaderIssues.filter_eq {before result : List R5900ReachabilityIssue}
    (adds : AddsLeaderIssues before result) {keep : R5900ReachabilityIssue → Bool}
    (kept : ∀ issue, keep issue = true →
      issue.kind = .targetAnalysisFailed ∨ issue.kind = .unresolvedIndirectExit) :
    result.filter keep = before.filter keep := by
  obtain ⟨added, rfl, kinds⟩ := adds
  have none : added.filter keep = [] := by
    rw [List.filter_eq_nil_iff]
    intro issue member keeps
    rcases kinds issue member with kind | kind <;>
      rcases kept issue keeps with other | other <;>
        exact absurd (kind.symm.trans other) (by decide)
  rw [List.filter_append, none, List.append_nil]

end Leaders

/-- A finished graph, in terms of the last state of the search. -/
structure FromSearch (memory : Ps2MemoryMap) (options : R5900ReachabilityOptions)
    (entryPc : BitVec 32) (count : Nat) (graph : R5900ReachabilityGraph) : Prop where
  blocks : graph.blocks = (searchAfter memory options entryPc count).visited.filterMap
    (visitedBlock memory options)
  calls : graph.calls = graph.blocks.flatMap blockCalls
  issues : ∀ keep : R5900ReachabilityIssue → Bool,
    (∀ issue, keep issue = true →
      issue.kind = .targetAnalysisFailed ∨ issue.kind = .unresolvedIndirectExit) →
    graph.issues.filter keep = ((searchAfter memory options entryPc count).visited.flatMap
      (visitIssues memory options)).filter keep
  bounded : graph.blocks.length ≤ options.maxBlocks
  entryAnalyzed : ∀ item ∈ (searchAfter memory options entryPc count).visited,
    item.1 = entryPc → (visitedBlock memory options item).isSome
  ended : (searchAfter memory options entryPc count).pending = [] ∨
    options.maxBlocks ≤ graph.blocks.length ∧
      ∃ issue ∈ graph.issues, issue.kind = .blockLimitReached

section Graph

variable {memory : Ps2MemoryMap} {options : R5900ReachabilityOptions}
  {entryPc : BitVec 32} {graph : R5900ReachabilityGraph} {count : Nat}

theorem fromSearch_of_endsAt {state : ReachabilityState}
    (tracks : TracksSearch memory options entryPc count state)
    (ends : EndsAt options state graph) :
    FromSearch memory options entryPc count (detectOverlappingLeaders graph) := by
  have leaders := detectOverlappingLeaders_addsLeaderIssues graph
  rcases ends with ⟨empty, rfl⟩ | ⟨pending, rest, taken, limit, rfl⟩
  · refine ⟨tracks.blocks, tracks.calls, ?_, tracks.bounded, tracks.entryAnalyzed, .inl ?_⟩
    · intro keep kept
      rw [leaders.filter_eq kept, tracks.issues]
    · rw [tracks.pending_eq, empty]
      rfl
  · refine ⟨tracks.blocks, tracks.calls, ?_, tracks.bounded, tracks.entryAnalyzed,
      .inr ⟨limit, ?_⟩⟩
    · intro keep kept
      rw [leaders.filter_eq kept, addIssue, List.filter_append, tracks.issues]
      have dropped : ¬keep
          { kind := .blockLimitReached
            sourceBlock := pending.sourceBlock
            target := some pending.pc } = true := fun keeps => by
        rcases kept _ keeps with kind | kind <;> cases kind
      rw [List.filter_cons_of_neg dropped, List.filter_nil, List.append_nil]
    · obtain ⟨added, same, -⟩ := leaders
      rw [same]
      exact ⟨_, List.mem_append_left _
        (List.mem_append_right _ (List.mem_singleton_self _)), rfl⟩

/-- Every graph the analysis returns comes from a search. -/
theorem analyzeR5900Reachability_fromSearch
    (succeeded : analyzeR5900Reachability memory entryPc options = .ok graph) :
    ∃ count, FromSearch memory options entryPc count graph := by
  unfold analyzeR5900Reachability at succeeded
  split at succeeded
  · cases succeeded
  · obtain ⟨explored, run, rfl⟩ := OrderedChecks.map_eq_ok_iff.mp succeeded
    obtain ⟨count, state, tracks, ends⟩ := exploreWorklist_tracks tracksSearch_start run
    exact ⟨count, fromSearch_of_endsAt tracks ends⟩

theorem visitedBlock_eq_some {item : BitVec 32 × BitVec 32} {block : R5900BasicBlock} :
    visitedBlock memory options item = some block ↔
      analyzeR5900BasicBlock memory item.1 options.blockOptions = .ok block :=
  OrderedChecks.toOption_eq_some_iff

theorem startPc_of_analyzed {pc : BitVec 32} {block : R5900BasicBlock}
    {blockOptions : R5900ControlFlowOptions}
    (analyzed : analyzeR5900BasicBlock memory pc blockOptions = .ok block) :
    block.startPc = pc := by
  obtain ⟨terminator, shape, -⟩ := analyzeR5900BasicBlock_eq_ok analyzed
  exact shape.start

theorem visited_nodup (memory : Ps2MemoryMap) (options : R5900ReachabilityOptions)
    (entryPc : BitVec 32) (count : Nat) :
    ((searchAfter memory options entryPc count).visited.map Prod.fst).Nodup :=
  (explores_after _ _ count).visited_nodup

/-- The blocks of a graph start at distinct PCs. -/
theorem FromSearch.starts_nodup (search : FromSearch memory options entryPc count graph) :
    (graph.blocks.map (·.startPc)).Nodup := by
  have distinct := visited_nodup memory options entryPc count
  rw [search.blocks, List.Nodup, List.pairwise_map, List.pairwise_filterMap]
  rw [List.Nodup, List.pairwise_map] at distinct
  refine distinct.imp ?_
  intro first second different firstBlock firstFound secondBlock secondFound same
  rw [visitedBlock_eq_some] at firstFound secondFound
  rw [startPc_of_analyzed firstFound, startPc_of_analyzed secondFound] at same
  exact different same

end Graph

end Burnout3Recompiled
