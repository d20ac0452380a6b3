import Burnout3Recompiled.R5900DispatchStops
import Burnout3Recompiled.R5900ReportDeterminism
import Burnout3Recompiled.R5900ReportReader

/-!
# Reading a report back

The lines about the entry, the blocks, the calls and the issues tell everything there is in
the graph of an analysis.  A reader that looks at nothing else rebuilds the graph, up to the
order in which the report prints it.
-/

namespace Burnout3Recompiled

open LineText

/-- The graph behind a line, and the parts of a block whose first line comes before. -/
structure Rebuilt where
  graph : R5900ReachabilityGraph := {}
  parts : R5900BasicBlock := {}

/-- Put an item before what has been rebuilt from the items behind it. -/
def rebuild (item : ReportItem) (rebuilt : Rebuilt) : Rebuilt :=
  match item with
  | .entry pc => { rebuilt with graph.entryPc := pc }
  | .block startPc endKind =>
      let block := { rebuilt.parts with startPc := startPc, endKind := endKind }
      { rebuilt with graph.blocks := block :: rebuilt.graph.blocks, parts := {} }
  | .site site =>
      { rebuilt with parts.instructions := site :: rebuilt.parts.instructions }
  | .delaySlot slot executesOnFallthrough =>
      { rebuilt with
        parts.delaySlot := some slot
        parts.delaySlotExecutesOnFallthrough := executesOnFallthrough }
  | .edge edge => { rebuilt with parts.edges := edge :: rebuilt.parts.edges }
  | .call call => { rebuilt with graph.calls := call :: rebuilt.graph.calls }
  | .issue issue => { rebuilt with graph.issues := issue :: rebuilt.graph.issues }

def rebuildAll (items : List ReportItem) : Rebuilt :=
  items.foldr rebuild {}

def readReport (report : String) : R5900ReachabilityGraph :=
  (rebuildAll ((readRows report).filterMap readItem)).graph

/-- What a report can tell about a graph is all there is in it. -/
structure Printable (graph : R5900ReachabilityGraph) : Prop where
  decoded : ∀ site ∈ graph.sites, site.decoded = decodeR5900 site.decoded.raw
  noSlot : ∀ block ∈ graph.blocks, block.delaySlot = none →
    block.delaySlotExecutesOnFallthrough = true
  unresolved : ∀ call ∈ graph.calls, call.indirect = true → call.target = none

/-- The graph in the order in which it is printed. -/
def R5900ReachabilityGraph.printed (graph : R5900ReachabilityGraph) :
    R5900ReachabilityGraph :=
  { entryPc := graph.entryPc
    blocks := graph.sortedBlocks.map R5900BasicBlock.withSortedEdges
    calls := sortByRanks callRanks graph.calls
    issues := sortByRanks issueRanks graph.issues }

def reportItems (graph : R5900ReachabilityGraph) : List ReportItem :=
  [.entry graph.entryPc] ++ graph.sortedBlocks.flatMap blockItems ++
    (sortByRanks callRanks graph.calls).map .call ++
    (sortByRanks issueRanks graph.issues).map .issue

theorem prints_reportLines {graph : R5900ReachabilityGraph} (printable : Printable graph) :
    Prints readItem (reportLines graph) (reportItems graph) := by
  have blocks : Prints readItem (graph.sortedBlocks.flatMap blockLines)
      (graph.sortedBlocks.flatMap blockItems) := by
    refine .flatMap fun block member => prints_blockLines fun site inBlock => ?_
    have inGraph := (sortByRanks_perm _ _).mem_iff.mp member
    exact printable.decoded site (List.mem_flatMap.mpr ⟨block, inGraph, inBlock⟩)
  have calls : Prints readItem ((sortByRanks callRanks graph.calls).map callLine)
      ((sortByRanks callRanks graph.calls).map .call) := by
    refine .map fun call member => prints_callLine ?_
    exact printable.unresolved call ((sortByRanks_perm _ _).mem_iff.mp member)
  have separator : Prints readItem (if graph.calls.isEmpty then [] else ["\n"]) [] := by
    split
    · exact .nil
    · exact prints_blankLine
  have issues : Prints readItem ((sortByRanks issueRanks graph.issues).map issueLine)
      ((sortByRanks issueRanks graph.issues).map .issue) :=
    .map fun issue _ => prints_issueLine issue
  have head := ((prints_summaryLines graph (isWord_of_mem_histogram graph)).append
    (prints_unknownLines (reportCounters graph))).append (prints_directCallTargetLines graph)
  have printed := (((head.append blocks).append calls).append separator).append issues
  simp only [List.append_nil] at printed
  exact printed

theorem foldr_rebuild_edges (edges : List R5900ControlFlowEdge)
    (graph : R5900ReachabilityGraph) (parts : R5900BasicBlock) :
    (edges.map ReportItem.edge).foldr rebuild { graph := graph, parts := parts } =
      { graph := graph, parts := { parts with edges := edges ++ parts.edges } } := by
  induction edges with
  | nil => rfl
  | cons edge edges ih =>
      rw [List.map_cons, List.foldr_cons, ih]
      rfl

theorem foldr_rebuild_sites (sites : List R5900InstructionSite)
    (graph : R5900ReachabilityGraph) (parts : R5900BasicBlock) :
    (sites.map ReportItem.site).foldr rebuild { graph := graph, parts := parts } =
      { graph := graph
        parts := { parts with instructions := sites ++ parts.instructions } } := by
  induction sites with
  | nil => rfl
  | cons site sites ih =>
      rw [List.map_cons, List.foldr_cons, ih]
      rfl

/-- The parts of a block are printed behind its first line, which uses them up. -/
theorem foldr_rebuild_blockItems {block : R5900BasicBlock} {graph : R5900ReachabilityGraph}
    (noSlot : block.delaySlot = none → block.delaySlotExecutesOnFallthrough = true) :
    (blockItems block).foldr rebuild { graph := graph } =
      { graph := { graph with blocks := block.withSortedEdges :: graph.blocks } } := by
  have slots (edges : List R5900ControlFlowEdge) :
      (block.delaySlot.toList.map
          (ReportItem.delaySlot · block.delaySlotExecutesOnFallthrough)).foldr rebuild
        { graph := graph, parts := { edges := edges } } =
      { graph := graph
        parts :=
          { edges := edges
            delaySlot := block.delaySlot
            delaySlotExecutesOnFallthrough := block.delaySlotExecutesOnFallthrough } } := by
    cases present : block.delaySlot with
    | none => simp [noSlot present]
    | some slot => simp [rebuild]
  rw [blockItems, List.foldr_append, foldr_rebuild_edges, List.foldr_append, slots,
    List.foldr_append, foldr_rebuild_sites]
  simp only [List.append_nil]
  rfl

theorem foldr_rebuild_blocks {blocks : List R5900BasicBlock}
    {graph : R5900ReachabilityGraph}
    (noSlot : ∀ block ∈ blocks, block.delaySlot = none →
      block.delaySlotExecutesOnFallthrough = true) :
    (blocks.flatMap blockItems).foldr rebuild { graph := graph } =
      { graph := { graph with
          blocks := blocks.map R5900BasicBlock.withSortedEdges ++ graph.blocks } } := by
  induction blocks with
  | nil => rfl
  | cons block blocks ih =>
      obtain ⟨noSlotHere, noSlotLater⟩ := List.forall_mem_cons.mp noSlot
      rw [List.flatMap_cons, List.foldr_append, ih noSlotLater,
        foldr_rebuild_blockItems noSlotHere]
      rfl

theorem foldr_rebuild_calls (calls : List R5900ReachabilityCall)
    (graph : R5900ReachabilityGraph) :
    (calls.map ReportItem.call).foldr rebuild { graph := graph } =
      { graph := { graph with calls := calls ++ graph.calls } } := by
  induction calls with
  | nil => rfl
  | cons call calls ih =>
      rw [List.map_cons, List.foldr_cons, ih]
      rfl

theorem foldr_rebuild_issues (issues : List R5900ReachabilityIssue)
    (graph : R5900ReachabilityGraph) :
    (issues.map ReportItem.issue).foldr rebuild { graph := graph } =
      { graph := { graph with issues := issues ++ graph.issues } } := by
  induction issues with
  | nil => rfl
  | cons issue issues ih =>
      rw [List.map_cons, List.foldr_cons, ih]
      rfl

theorem readReport_render {graph : R5900ReachabilityGraph} (printable : Printable graph) :
    readReport (renderR5900AnalysisReport graph) = graph.printed := by
  have noSlot : ∀ block ∈ graph.sortedBlocks, block.delaySlot = none →
      block.delaySlotExecutesOnFallthrough = true := fun block member =>
    printable.noSlot block ((sortByRanks_perm _ _).mem_iff.mp member)
  rw [readReport, renderR5900AnalysisReport, (prints_reportLines printable).readRows rfl,
    rebuildAll, reportItems, List.foldr_append, foldr_rebuild_issues, List.foldr_append,
    foldr_rebuild_calls, List.foldr_append, foldr_rebuild_blocks noSlot]
  simp only [List.append_nil]
  rfl

theorem reordering_printed (graph : R5900ReachabilityGraph) :
    Reordering graph graph.printed where
  entryPc := rfl
  blocks := by
    refine ⟨graph.sortedBlocks, (sortByRanks_perm _ _).symm, ?_⟩
    refine List.forall₂_map_right_iff.mpr (List.forall₂_same.mpr fun block _ => ?_)
    exact ⟨(sortByRanks_perm edgeRanks block.edges).symm, rfl⟩
  calls := (sortByRanks_perm _ _).symm
  issues := (sortByRanks_perm _ _).symm

theorem SameBlock.of_withSortedEdges_eq {first second : R5900BasicBlock}
    (same : first.withSortedEdges = second.withSortedEdges) : SameBlock first second := by
  obtain ⟨startPc, instructions, delaySlot, endKind, executes, edges⟩ := first
  obtain ⟨otherStart, others, otherSlot, otherKind, otherExecutes, otherEdges⟩ := second
  simp only [R5900BasicBlock.withSortedEdges, R5900BasicBlock.mk.injEq] at same
  obtain ⟨rfl, rfl, rfl, rfl, rfl, sorted⟩ := same
  have permuted := sortByRanks_perm edgeRanks edges
  rw [sorted] at permuted
  exact ⟨permuted.symm.trans (sortByRanks_perm edgeRanks otherEdges), rfl⟩

/-- Graphs that print the same are reorderings of each other. -/
theorem Reordering.of_printed_eq {first second : R5900ReachabilityGraph}
    (same : first.printed = second.printed) : Reordering first second := by
  simp only [R5900ReachabilityGraph.printed, R5900ReachabilityGraph.mk.injEq] at same
  obtain ⟨entryPc, blocks, calls, issues⟩ := same
  have perms {α : Type} {ranks : α → List Nat} {items others : List α}
      (sorted : sortByRanks ranks items = sortByRanks ranks others) : items.Perm others := by
    have permuted := sortByRanks_perm ranks items
    rw [sorted] at permuted
    exact permuted.symm.trans (sortByRanks_perm ranks others)
  refine ⟨entryPc, ?_, perms calls, perms issues⟩
  have sameBlocks : List.Forall₂ SameBlock first.sortedBlocks second.sortedBlocks := by
    have maps := List.forall₂_eq_eq_eq ▸ blocks
    rw [List.forall₂_map_left_iff, List.forall₂_map_right_iff] at maps
    exact maps.imp fun _ _ => SameBlock.of_withSortedEdges_eq
  have reached : (Relation.Comp (List.Forall₂ SameBlock) List.Perm) first.sortedBlocks
      second.blocks :=
    ⟨second.sortedBlocks, sameBlocks, sortByRanks_perm _ _⟩
  rw [List.forall₂_comp_perm_eq_perm_comp_forall₂] at reached
  obtain ⟨blocks, permuted, same⟩ := reached
  exact ⟨blocks, (sortByRanks_perm _ _).symm.trans permuted, same⟩

section Analysed

variable {memory : Ps2MemoryMap} {entryPc : BitVec 32} {options : R5900ReachabilityOptions}
  {graph : R5900ReachabilityGraph}

/-- Without a delay slot the flag keeps its initial value. -/
theorem delaySlotExecutesOnFallthrough_of_noSlot {pc : BitVec 32} {block : R5900BasicBlock}
    {blockOptions : R5900ControlFlowOptions}
    (analyzed : analyzeR5900BasicBlock memory pc blockOptions = .ok block)
    (noSlot : block.delaySlot = none) : block.delaySlotExecutesOnFallthrough = true := by
  obtain ⟨terminator, shape, -, -⟩ := analyzeR5900BasicBlock_eq_ok analyzed
  have stays : terminator.decoded.transfers = false := by
    apply eq_false_of_ne_true
    intro transfers
    have present := shape.delaySlotPresent transfers
    rw [noSlot] at present
    cases present
  have ending := analyzeR5900BasicBlock_endsWith analyzed shape.sites.getLast?
  rw [ending.fallthrough, likely_of_not_transfers
    (shape.sites.fetched_of_mem shape.sites.terminator_mem) stays]
  rfl

theorem unresolved_of_mem_blockCalls {block : R5900BasicBlock}
    {call : R5900ReachabilityCall} (member : call ∈ blockCalls block)
    (indirect : call.indirect = true) : call.target = none := by
  obtain ⟨edge, -, recorded⟩ := List.mem_flatMap.mp member
  unfold edgeCalls at recorded
  split at recorded
  · rw [List.mem_singleton.mp recorded] at indirect
    cases indirect
  · rw [List.mem_singleton.mp recorded]
  · cases recorded

/-- Every graph of an analysis is printed as a whole. -/
theorem printable_of_analyzed
    (succeeded : analyzeR5900Reachability memory entryPc options = .ok graph) :
    Printable graph := by
  obtain ⟨count, search⟩ := analyzeR5900Reachability_fromSearch succeeded
  have blockAnalyzed : ∀ block ∈ graph.blocks, ∃ pc,
      analyzeR5900BasicBlock memory pc options.blockOptions = .ok block := by
    intro block member
    rw [search.blocks] at member
    obtain ⟨item, -, found⟩ := List.mem_filterMap.mp member
    exact ⟨item.1, visitedBlock_eq_some.mp found⟩
  refine ⟨?_, ?_, ?_⟩
  · intro site member
    obtain ⟨block, inGraph, inBlock⟩ := List.mem_flatMap.mp member
    obtain ⟨pc, analyzed⟩ := blockAnalyzed block inGraph
    exact (analyzeR5900BasicBlock_fetchedSlot analyzed).decoded_of_mem inBlock
  · intro block member noSlot
    obtain ⟨pc, analyzed⟩ := blockAnalyzed block member
    exact delaySlotExecutesOnFallthrough_of_noSlot analyzed noSlot
  · intro call member
    rw [search.calls] at member
    obtain ⟨block, -, recorded⟩ := List.mem_flatMap.mp member
    exact unresolved_of_mem_blockCalls recorded

theorem starts_nodup_of_analyzed
    (succeeded : analyzeR5900Reachability memory entryPc options = .ok graph) :
    (graph.blocks.map (·.startPc)).Nodup := by
  obtain ⟨count, search⟩ := analyzeR5900Reachability_fromSearch succeeded
  exact search.starts_nodup

end Analysed

/-- The report of an analysis loses nothing: the graph is read back from its text, up to the
order of blocks, edges, calls and issues, what has been read prints the same report, and two
analyses have the same report exactly when their graphs differ in that order only. -/
theorem renderR5900AnalysisReport_isLossless (memory : Ps2MemoryMap) (entryPc : BitVec 32)
    (options : R5900ReachabilityOptions) (graph : R5900ReachabilityGraph)
    (succeeded : analyzeR5900Reachability memory entryPc options = .ok graph) :
    Reordering graph (readReport (renderR5900AnalysisReport graph)) ∧
      renderR5900AnalysisReport (readReport (renderR5900AnalysisReport graph)) =
        renderR5900AnalysisReport graph ∧
      ∀ (otherMemory : Ps2MemoryMap) (otherEntryPc : BitVec 32)
        (otherOptions : R5900ReachabilityOptions) (other : R5900ReachabilityGraph),
        analyzeR5900Reachability otherMemory otherEntryPc otherOptions = .ok other →
          (renderR5900AnalysisReport graph = renderR5900AnalysisReport other ↔
            Reordering graph other) := by
  have reads := readReport_render (printable_of_analyzed succeeded)
  have distinct := starts_nodup_of_analyzed succeeded
  rw [reads]
  refine ⟨reordering_printed graph, ?_, ?_⟩
  · rw [renderR5900AnalysisReport, renderR5900AnalysisReport,
      (reordering_printed graph).reportLines_eq distinct]
  · intro otherMemory otherEntryPc otherOptions other otherSucceeded
    constructor
    · intro same
      have otherReads := readReport_render (printable_of_analyzed otherSucceeded)
      rw [← same, reads] at otherReads
      exact .of_printed_eq otherReads
    · intro reordering
      rw [renderR5900AnalysisReport, renderR5900AnalysisReport,
        reordering.reportLines_eq distinct]

theorem renderR5900AnalysisReport_isLossless_loopedCallMemory :
    ∃ graph, analyzeR5900Reachability loopedCallMemory 0x1000 {} = .ok graph ∧
      graph.blocks.length = 3 ∧
      Reordering graph (readReport (renderR5900AnalysisReport graph)) := by
  have outcome : (analyzeR5900Reachability loopedCallMemory 0x1000 {}).toOption.map
      (fun graph => graph.blocks.length) = some 3 := by
    decide +kernel
  obtain ⟨graph, found, blocks⟩ := Option.map_eq_some_iff.mp outcome
  have succeeded := OrderedChecks.toOption_eq_some_iff.mp found
  exact ⟨graph, succeeded, blocks,
    (renderR5900AnalysisReport_isLossless loopedCallMemory 0x1000 {} graph succeeded).1⟩

end Burnout3Recompiled
