import Burnout3Recompiled.R5900ReachabilitySearch
import Burnout3Recompiled.R5900SiteCounts
import Burnout3Recompiled.SortedByKey

/-!
# The report depends on the content of the graph

The report sorts whatever it prints, by keys that determine what is sorted, and its
histograms do not depend on the order in which they are filled.  Two graphs that
differ in the order of blocks, edges, calls and issues therefore have the same
report, whichever sorting algorithm is used.
-/

namespace Burnout3Recompiled

open SortedByKey

theorem optionalRank_injective : Function.Injective optionalRank := by
  intro first second same
  cases first with
  | none =>
      cases second with
      | none => rfl
      | some value => exact absurd same (Nat.succ_ne_zero value.toNat).symm
  | some value =>
      cases second with
      | none => exact absurd same (Nat.succ_ne_zero value.toNat)
      | some other =>
          exact congrArg some (BitVec.eq_of_toNat_eq (Nat.succ_injective same))

theorem edgeKind_ctorIdx_injective : Function.Injective R5900EdgeKind.ctorIdx := by
  intro first second same
  cases first <;> cases second <;> first | rfl | cases same

theorem issueKind_ctorIdx_injective :
    Function.Injective R5900ReachabilityIssueKind.ctorIdx := by
  intro first second same
  cases first <;> cases second <;> first | rfl | cases same

/-- The rank of an analysis error, zero for none. -/
theorem errorRank_injective : Function.Injective
    fun error : Option R5900ControlFlowError =>
      (error.map fun error => error.ctorIdx + 1).getD 0 := by
  intro first second same
  rcases first with _ | first <;> rcases second with _ | second
  · rfl
  · cases second <;> cases same
  · cases first <;> cases same
  · cases first <;> cases second <;> first | rfl | cases same

theorem edgeRanks_injective : Function.Injective edgeRanks := by
  rintro ⟨kind, target⟩ ⟨otherKind, otherTarget⟩ same
  simp only [edgeRanks, List.cons.injEq, and_true] at same
  obtain ⟨kinds, targets⟩ := same
  rw [edgeKind_ctorIdx_injective kinds, optionalRank_injective targets]

theorem callRanks_injective : Function.Injective callRanks := by
  rintro ⟨source, pc, indirect, target⟩ ⟨otherSource, otherPc, otherIndirect, otherTarget⟩
    same
  simp only [callRanks, List.cons.injEq, and_true] at same
  obtain ⟨sources, pcs, indirects, targets⟩ := same
  have sameIndirect : indirect = otherIndirect := by
    cases indirect <;> cases otherIndirect <;> first | rfl | cases indirects
  rw [BitVec.eq_of_toNat_eq sources, BitVec.eq_of_toNat_eq pcs, sameIndirect,
    optionalRank_injective targets]

theorem issueRanks_injective : Function.Injective issueRanks := by
  rintro ⟨kind, source, target, related, error⟩
    ⟨otherKind, otherSource, otherTarget, otherRelated, otherError⟩ same
  simp only [issueRanks, List.cons.injEq, and_true] at same
  obtain ⟨kinds, sources, targets, relateds, errors⟩ := same
  rw [issueKind_ctorIdx_injective kinds, BitVec.eq_of_toNat_eq sources,
    optionalRank_injective targets, optionalRank_injective relateds,
    errorRank_injective errors]

def unknownSiteRanks (site : UnknownSite) : List Nat :=
  [site.pc.toNat, site.raw.toNat]

theorem unknownSiteRanks_injective : Function.Injective unknownSiteRanks := by
  rintro ⟨pc, raw⟩ ⟨otherPc, otherRaw⟩ same
  simp only [unknownSiteRanks, List.cons.injEq, and_true] at same
  rw [BitVec.eq_of_toNat_eq same.1, BitVec.eq_of_toNat_eq same.2]

def blockRanks (block : R5900BasicBlock) : List Nat :=
  [block.startPc.toNat]

theorem sortByRanks_sortOf {α : Type} (ranks : α → List Nat) (items : List α) :
    SortOf ranks items (sortByRanks ranks items) :=
  sortOf_mergeSort ranks items

/-- Sorting forgets the order in which the items come. -/
theorem sortByRanks_perm_eq {α : Type} {ranks : α → List Nat} {items others : List α}
    (permuted : items.Perm others) (determines : KeyDetermines ranks others) :
    sortByRanks ranks items = sortByRanks ranks others :=
  ((sortByRanks_sortOf ranks items).of_perm permuted).unique (sortByRanks_sortOf ranks others)
    determines

/-- Two blocks that differ in the order of their edges at most. -/
structure SameBlock (first second : R5900BasicBlock) : Prop where
  edges : first.edges.Perm second.edges
  others : second = { first with edges := second.edges }

/-- The second graph arises from the first by permuting the blocks, the edges inside
each block, the calls and the issues. -/
structure Reordering (first second : R5900ReachabilityGraph) : Prop where
  entryPc : first.entryPc = second.entryPc
  blocks : ∃ blocks, first.blocks.Perm blocks ∧
    List.Forall₂ SameBlock blocks second.blocks
  calls : first.calls.Perm second.calls
  issues : first.issues.Perm second.issues

/-- The block with its edges in the order in which they are printed. -/
def R5900BasicBlock.withSortedEdges (block : R5900BasicBlock) : R5900BasicBlock :=
  { block with edges := sortByRanks edgeRanks block.edges }

theorem SameBlock.withSortedEdges_eq {first second : R5900BasicBlock}
    (same : SameBlock first second) : first.withSortedEdges = second.withSortedEdges := by
  have edges : sortByRanks edgeRanks first.edges = sortByRanks edgeRanks second.edges :=
    sortByRanks_perm_eq same.edges (keyDetermines_of_injective edgeRanks_injective _)
  rw [same.others]
  simp only [R5900BasicBlock.withSortedEdges, edges]

theorem map_withSortedEdges_of_sameBlock {blocks others : List R5900BasicBlock}
    (same : List.Forall₂ SameBlock blocks others) :
    blocks.map R5900BasicBlock.withSortedEdges =
      others.map R5900BasicBlock.withSortedEdges := by
  induction same with
  | nil => rfl
  | cons first rest ih =>
      rw [List.map_cons, List.map_cons, first.withSortedEdges_eq, ih]

theorem blockLines_withSortedEdges (block : R5900BasicBlock) :
    blockLines block.withSortedEdges = blockLines block := by
  have sorted : sortByRanks edgeRanks (sortByRanks edgeRanks block.edges) =
      sortByRanks edgeRanks block.edges :=
    sortByRanks_perm_eq (sortByRanks_perm edgeRanks block.edges)
      (keyDetermines_of_injective edgeRanks_injective _)
  unfold blockLines R5900BasicBlock.withSortedEdges
  rw [sorted]

section Parts

variable {first second : R5900ReachabilityGraph}

/-- The blocks in the order in which they are printed. -/
def R5900ReachabilityGraph.sortedBlocks (graph : R5900ReachabilityGraph) :
    List R5900BasicBlock :=
  sortByRanks blockRanks graph.blocks

theorem keyDetermines_blockRanks {blocks : List R5900BasicBlock}
    (distinct : (blocks.map (·.startPc)).Nodup) : KeyDetermines blockRanks blocks := by
  intro first firstMember second secondMember same
  simp only [blockRanks, List.cons.injEq, and_true] at same
  exact List.inj_on_of_nodup_map distinct firstMember secondMember
    (BitVec.eq_of_toNat_eq same)

/-- Reordered graphs print the same blocks in the same order. -/
theorem Reordering.sortedBlocks (reordering : Reordering first second)
    (distinct : (first.blocks.map (·.startPc)).Nodup) :
    first.sortedBlocks.map R5900BasicBlock.withSortedEdges =
      second.sortedBlocks.map R5900BasicBlock.withSortedEdges := by
  obtain ⟨blocks, permuted, same⟩ := reordering.blocks
  have keeps : ∀ block : R5900BasicBlock,
      blockRanks block.withSortedEdges = blockRanks block := fun _ => rfl
  have firstSort : SortOf blockRanks (first.blocks.map _) _ :=
    (sortByRanks_sortOf blockRanks first.blocks).map keeps
  have secondSort : SortOf blockRanks (second.blocks.map _) _ :=
    (sortByRanks_sortOf blockRanks second.blocks).map keeps
  rw [← map_withSortedEdges_of_sameBlock same] at secondSort
  have starts : (first.blocks.map R5900BasicBlock.withSortedEdges).map (·.startPc) =
      first.blocks.map (·.startPc) := by
    rw [List.map_map]
    rfl
  rw [← starts] at distinct
  exact firstSort.unique (secondSort.of_perm (permuted.map _).symm)
    (keyDetermines_blockRanks distinct)

theorem countBlocks_withSortedEdges (blocks : List R5900BasicBlock) :
    countBlocks (blocks.map R5900BasicBlock.withSortedEdges) = countBlocks blocks := by
  rw [countBlocks, List.flatMap_map]
  rfl

theorem flatMap_blockLines_withSortedEdges (blocks : List R5900BasicBlock) :
    (blocks.map R5900BasicBlock.withSortedEdges).flatMap blockLines =
      blocks.flatMap blockLines := by
  simp only [List.flatMap_map, blockLines_withSortedEdges]

theorem Reordering.length_blocks (reordering : Reordering first second) :
    first.blocks.length = second.blocks.length := by
  obtain ⟨blocks, permuted, same⟩ := reordering.blocks
  rw [permuted.length_eq, same.length_eq]

theorem Reordering.directCallTargets (reordering : Reordering first second) :
    Burnout3Recompiled.directCallTargets first.calls =
      Burnout3Recompiled.directCallTargets second.calls :=
  SortedHistogram.histogram_perm (reordering.calls.filterMap _)

theorem Reordering.reportLines_eq (reordering : Reordering first second)
    (distinct : (first.blocks.map (·.startPc)).Nodup) :
    reportLines first = reportLines second := by
  have blocks := reordering.sortedBlocks distinct
  have counters : countBlocks first.sortedBlocks = countBlocks second.sortedBlocks := by
    rw [← countBlocks_withSortedEdges, blocks, countBlocks_withSortedEdges]
  have lines : first.sortedBlocks.flatMap blockLines =
      second.sortedBlocks.flatMap blockLines := by
    rw [← flatMap_blockLines_withSortedEdges, blocks, flatMap_blockLines_withSortedEdges]
  have calls : sortByRanks callRanks first.calls = sortByRanks callRanks second.calls :=
    sortByRanks_perm_eq reordering.calls (keyDetermines_of_injective callRanks_injective _)
  have issues : sortByRanks issueRanks first.issues =
      sortByRanks issueRanks second.issues :=
    sortByRanks_perm_eq reordering.issues
      (keyDetermines_of_injective issueRanks_injective _)
  have noCalls : first.calls.isEmpty = second.calls.isEmpty := reordering.calls.isEmpty_eq
  have exits : indirectExitCount first.issues = indirectExitCount second.issues :=
    reordering.issues.countP_eq _
  have summary (counters : SiteCounters) :
      summaryLines first counters = summaryLines second counters := by
    rw [summaryLines, summaryLines, reordering.entryPc, reordering.length_blocks, exits,
      reordering.calls.length_eq, reordering.issues.length_eq]
  have targets : directCallTargetLines first = directCallTargetLines second := by
    rw [directCallTargetLines, directCallTargetLines, reordering.directCallTargets]
  change summaryLines first (countBlocks first.sortedBlocks) ++
      unknownLines (countBlocks first.sortedBlocks) ++ directCallTargetLines first ++
      first.sortedBlocks.flatMap blockLines ++ _ ++ _ ++ _ = _
  rw [counters, summary, targets, lines, calls, noCalls, issues]
  rfl

end Parts

/-- Whatever sorts by these ranks returns what `sortByRanks` returns. -/
def OneSortedOrder {α : Type} (ranks : α → List Nat) : Prop :=
  ∀ items sorted, SortOf ranks items sorted → sorted = sortByRanks ranks items

theorem oneSortedOrder_of_injective {α : Type} {ranks : α → List Nat}
    (injective : Function.Injective ranks) : OneSortedOrder ranks :=
  fun items _ sort => sort.unique (sortByRanks_sortOf ranks items)
    (keyDetermines_of_injective injective items)

/-- The report of a graph whose blocks start at distinct PCs, as those of an analysis
do, does not depend on the order of its blocks, edges, calls and issues, nor on the
order in which a sort leaves ties. -/
theorem renderR5900AnalysisReport_reordering :
    (∀ first second : R5900ReachabilityGraph,
      (first.blocks.map (·.startPc)).Nodup → Reordering first second →
        renderR5900AnalysisReport first = renderR5900AnalysisReport second) ∧
    (∀ (memory : Ps2MemoryMap) (entryPc : BitVec 32) (options : R5900ReachabilityOptions)
      (graph : R5900ReachabilityGraph),
      analyzeR5900Reachability memory entryPc options = .ok graph →
        (graph.blocks.map (·.startPc)).Nodup) ∧
    OneSortedOrder edgeRanks ∧ OneSortedOrder callRanks ∧ OneSortedOrder issueRanks ∧
    OneSortedOrder unknownSiteRanks ∧
    ∀ blocks sorted : List R5900BasicBlock, (blocks.map (·.startPc)).Nodup →
      SortOf blockRanks blocks sorted → sorted = sortByRanks blockRanks blocks := by
  refine ⟨?_, ?_, oneSortedOrder_of_injective edgeRanks_injective,
    oneSortedOrder_of_injective callRanks_injective,
    oneSortedOrder_of_injective issueRanks_injective,
    oneSortedOrder_of_injective unknownSiteRanks_injective, ?_⟩
  · intro first second distinct reordering
    rw [renderR5900AnalysisReport, renderR5900AnalysisReport,
      reordering.reportLines_eq distinct]
  · intro memory entryPc options graph analyzed
    obtain ⟨count, search⟩ := analyzeR5900Reachability_fromSearch analyzed
    exact search.starts_nodup
  · intro blocks sorted distinct sort
    exact sort.unique (sortByRanks_sortOf blockRanks blocks)
      (keyDetermines_blockRanks distinct)

/-- The graph from back to front, down to the edges of its blocks. -/
def R5900ReachabilityGraph.backwards (graph : R5900ReachabilityGraph) :
    R5900ReachabilityGraph :=
  { graph with
    blocks := graph.blocks.reverse.map fun block => { block with edges := block.edges.reverse }
    calls := graph.calls.reverse
    issues := graph.issues.reverse }

theorem reordering_backwards (graph : R5900ReachabilityGraph) :
    Reordering graph graph.backwards where
  entryPc := rfl
  blocks := by
    refine ⟨graph.blocks.reverse, (List.reverse_perm _).symm, ?_⟩
    exact List.forall₂_map_right_iff.mpr
      (List.forall₂_same.mpr fun block _ => ⟨(List.reverse_perm _).symm, rfl⟩)
  calls := (List.reverse_perm _).symm
  issues := (List.reverse_perm _).symm

/-- Three blocks with two calls, from back to front. -/
theorem renderR5900AnalysisReport_reordering_loopedCallMemory :
    ∃ graph, analyzeR5900Reachability loopedCallMemory 0x1000 {} = .ok graph ∧
      graph.blocks.map (·.startPc) = [0x1000, 0x100C, 0x1004] ∧
      graph.backwards.blocks.map (·.startPc) = [0x1004, 0x100C, 0x1000] ∧
      renderR5900AnalysisReport graph = renderR5900AnalysisReport graph.backwards := by
  have outcome : (analyzeR5900Reachability loopedCallMemory 0x1000 {}).toOption.map
      (fun graph => graph.blocks.map (·.startPc)) = some [0x1000, 0x100C, 0x1004] := by
    decide +kernel
  obtain ⟨graph, found, starts⟩ := Option.map_eq_some_iff.mp outcome
  have analyzed := OrderedChecks.toOption_eq_some_iff.mp found
  obtain ⟨sameReport, distinct, -⟩ := renderR5900AnalysisReport_reordering
  refine ⟨graph, analyzed, starts, ?_, ?_⟩
  · rw [R5900ReachabilityGraph.backwards, List.map_map, List.map_reverse]
    exact congrArg List.reverse starts
  · exact sameReport graph graph.backwards
      (distinct loopedCallMemory 0x1000 {} graph analyzed) (reordering_backwards graph)

end Burnout3Recompiled
