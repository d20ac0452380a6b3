import Burnout3Recompiled.R5900CallSites
import Burnout3Recompiled.R5900FetchedSites

/-!
# What the report counts

The counters run over the sites of all blocks, so a guest PC that several blocks
occupy is counted several times.  Every PC is counted once exactly when no
discovered start lies in the block of another one and no block wraps around the
address space.
-/

namespace Burnout3Recompiled

/-- The counters behind the summary and the diagnostic sections of a report. -/
def reportCounters (graph : R5900ReachabilityGraph) : SiteCounters :=
  countBlocks (sortByRanks (fun block => [block.startPc.toNat]) graph.blocks)

/-- The records of the UNKNOWN_SITES section in printed order. -/
def printedUnknownSites (graph : R5900ReachabilityGraph) : List UnknownSite :=
  sortByRanks (fun site => [site.pc.toNat, site.raw.toNat])
    (reportCounters graph).unknownSites

/-- The block instructions and delay slots of a graph. -/
def R5900ReachabilityGraph.sites (graph : R5900ReachabilityGraph) :
    List R5900InstructionSite :=
  graph.blocks.flatMap countedSites

/-- The report counts every guest PC of the graph once and lists every PC that
decodes to Unknown once. -/
structure CountsSitesOnce (graph : R5900ReachabilityGraph) : Prop where
  unknownSites : ∀ site ∈ graph.sites, isUnknown site = true →
    (printedUnknownSites graph).countP (fun record => record.pc = site.pc) = 1
  unknown : (reportCounters graph).unknown =
    ((graph.sites.filter isUnknown).map (·.pc)).toFinset.card
  instructions : (reportCounters graph).instructions =
    (graph.sites.map (·.pc)).toFinset.card

section Counters

variable {graph : R5900ReachabilityGraph}

theorem sortByRanks_perm {α : Type} (ranks : α → List Nat) (items : List α) :
    (sortByRanks ranks items).Perm items :=
  List.mergeSort_perm items _

/-- Counting adds every site once, and the unknown ones to their record. -/
theorem foldl_countSite (sites : List R5900InstructionSite) (counters : SiteCounters) :
    (sites.foldl countSite counters).instructions =
        counters.instructions + sites.length ∧
      (sites.foldl countSite counters).unknown =
        counters.unknown + (sites.filter isUnknown).length ∧
      (sites.foldl countSite counters).unknownSites =
        counters.unknownSites ++ (sites.filter isUnknown).map
          fun site => ⟨site.pc, site.decoded.raw⟩ := by
  induction sites generalizing counters with
  | nil => simp
  | cons site sites ih =>
      obtain ⟨instructions, unknown, unknownSites⟩ := ih (countSite counters site)
      rw [List.foldl_cons, instructions, unknown, unknownSites]
      cases known : isUnknown site with
      | true => simp [countSite, known, Nat.add_assoc, Nat.add_comm 1]
      | false => simp [countSite, known, Nat.add_assoc, Nat.add_comm 1]

theorem perm_countedSites :
    ((sortByRanks (fun block => [block.startPc.toNat]) graph.blocks).flatMap
      countedSites).Perm graph.sites :=
  (sortByRanks_perm _ _).flatMap_right _

theorem reportCounters_instructions :
    (reportCounters graph).instructions = graph.sites.length := by
  rw [reportCounters, countBlocks, (foldl_countSite _ _).1, Nat.zero_add]
  exact perm_countedSites.length_eq

theorem reportCounters_unknown :
    (reportCounters graph).unknown = (graph.sites.filter isUnknown).length := by
  rw [reportCounters, countBlocks, (foldl_countSite _ _).2.1, Nat.zero_add]
  exact (perm_countedSites.filter _).length_eq

/-- Every unknown site has its record, and there are no others. -/
theorem printedUnknownSites_perm :
    (printedUnknownSites graph).Perm
      ((graph.sites.filter isUnknown).map fun site => ⟨site.pc, site.decoded.raw⟩) := by
  refine (sortByRanks_perm _ _).trans ?_
  rw [reportCounters, countBlocks, (foldl_countSite _ _).2.2, List.nil_append]
  exact (perm_countedSites.filter _).map _

/-- A PC has as many records as there are unknown sites at it. -/
theorem countP_printedUnknownSites (pc : BitVec 32) :
    (printedUnknownSites graph).countP (fun record => record.pc = pc) =
      ((graph.sites.filter isUnknown).map (·.pc)).count pc := by
  rw [printedUnknownSites_perm.countP_eq, List.countP_map, List.count, List.countP_map]
  exact List.countP_congr fun site _ => by simp

/-- Counting once is occupying once. -/
theorem countsSitesOnce_iff_nodup :
    CountsSitesOnce graph ↔ (graph.sites.map (·.pc)).Nodup := by
  constructor
  · intro once
    have instructions := once.instructions
    rw [reportCounters_instructions, ← List.length_map (f := (·.pc))] at instructions
    exact card_toFinset_eq_length_iff.mp instructions
  · intro distinct
    have unknownDistinct : ((graph.sites.filter isUnknown).map (·.pc)).Nodup :=
      distinct.sublist (List.filter_sublist.map _)
    refine ⟨?_, ?_, ?_⟩
    · intro site member unknown
      rw [countP_printedUnknownSites]
      exact List.count_eq_one_of_mem unknownDistinct
        (List.mem_map_of_mem (List.mem_filter.mpr ⟨member, unknown⟩))
    · rw [reportCounters_unknown, ← List.length_map (f := (·.pc))]
      exact card_toFinset_eq_length_iff.mpr unknownDistinct
    · rw [reportCounters_instructions, ← List.length_map (f := (·.pc))]
      exact card_toFinset_eq_length_iff.mpr distinct

end Counters

section Overlaps

variable (memory : Ps2MemoryMap) (options : R5900ReachabilityOptions)

/-- The block at `outer` has an instruction or its delay slot at `inner`. -/
def LiesInBlock (inner outer : BitVec 32) : Prop :=
  ∃ block, analyzeR5900BasicBlock memory outer options.blockOptions = .ok block ∧
    ∃ site ∈ countedSites block, site.pc = inner

variable {memory options} {entryPc : BitVec 32} {count : Nat}
  {graph : R5900ReachabilityGraph} {block first second : R5900BasicBlock}

theorem FromSearch.fetched_of_block
    (search : FromSearch memory options entryPc count graph)
    (member : block ∈ graph.blocks) :
    FetchedFrom memory options.blockOptions.requireExecutable block.startPc
      (countedSites block) := by
  obtain ⟨item, -, place, analyzed⟩ := search.start_of_block member
  rw [← place]
  exact analyzeR5900BasicBlock_fetchedSlot analyzed

/-- Two blocks share no PC exactly when neither starts inside the other. -/
theorem FromSearch.disjoint_iff
    (search : FromSearch memory options entryPc count graph)
    (firstMember : first ∈ graph.blocks) (secondMember : second ∈ graph.blocks) :
    List.Disjoint ((countedSites first).map (·.pc)) ((countedSites second).map (·.pc)) ↔
      first.startPc ∉ (countedSites second).map (·.pc) ∧
        second.startPc ∉ (countedSites first).map (·.pc) := by
  have starts : ∀ other ∈ graph.blocks,
      other.startPc ∈ (countedSites other).map (·.pc) := by
    intro other member
    obtain ⟨item, -, place, analyzed⟩ := search.start_of_block member
    obtain ⟨terminator, shape, -⟩ := analyzeR5900BasicBlock_eq_ok analyzed
    obtain ⟨site, rest, instructions, sitePc⟩ := shape.sites.head
    rw [countedSites, instructions, ← place, ← sitePc]
    exact .head _
  constructor
  · intro disjoint
    exact ⟨fun inside => disjoint (starts first firstMember) inside,
      fun inside => disjoint inside (starts second secondMember)⟩
  · rintro ⟨firstOutside, secondOutside⟩ pc inFirst inSecond
    obtain ⟨site, member, rfl⟩ := List.mem_map.mp inFirst
    obtain ⟨other, otherMember, same⟩ := List.mem_map.mp inSecond
    rcases (search.fetched_of_block firstMember).start_mem_of_meet
        (search.fetched_of_block secondMember) member otherMember same.symm with
      inside | inside
    · exact firstOutside inside
    · exact secondOutside inside

/-- The sites of a graph stand at distinct PCs when no block starts inside
another one and none has more sites than there are PCs for it. -/
theorem FromSearch.nodup_sites_iff
    (search : FromSearch memory options entryPc count graph) :
    (graph.sites.map (·.pc)).Nodup ↔
      (∀ first ∈ graph.blocks, ∀ second ∈ graph.blocks,
        first.startPc ≠ second.startPc →
          first.startPc ∉ (countedSites second).map (·.pc)) ∧
      ∀ block ∈ graph.blocks, (countedSites block).length ≤ 2 ^ 30 := by
  have distinct : graph.blocks.Pairwise fun first second =>
      first.startPc ≠ second.startPc := List.pairwise_map.mp search.starts_nodup
  have symmetric : Std.Symm (Function.onFun List.Disjoint fun block : R5900BasicBlock =>
      (countedSites block).map (·.pc)) := ⟨fun _ _ => List.Disjoint.symm⟩
  rw [R5900ReachabilityGraph.sites, List.map_flatMap, List.nodup_flatMap, and_comm]
  refine and_congr ?_ (forall₂_congr fun block member =>
    (search.fetched_of_block member).nodup_iff)
  constructor
  · intro disjoint first firstMember second secondMember different
    have apart : first ≠ second := fun same => different (congrArg _ same)
    exact ((search.disjoint_iff firstMember secondMember).mp
      (disjoint.forall firstMember secondMember apart)).1
  · intro outside
    refine distinct.imp_of_mem ?_
    intro first second firstMember secondMember different
    exact (search.disjoint_iff firstMember secondMember).mpr
      ⟨outside first firstMember second secondMember different,
        outside second secondMember first firstMember different.symm⟩

end Overlaps

/-- The counters of a report stand at the front of its lines, and they count every
guest PC once if and only if no discovered start lies in the block of another one
and no discovered block wraps around the address space. -/
theorem countsSitesOnce_iff (memory : Ps2MemoryMap) (entryPc : BitVec 32)
    (options : R5900ReachabilityOptions) (graph : R5900ReachabilityGraph)
    (succeeded : analyzeR5900Reachability memory entryPc options = .ok graph) :
    summaryLines graph (reportCounters graph) ++ unknownLines (reportCounters graph) <+:
        reportLines graph ∧
      (CountsSitesOnce graph ↔
        (∀ first second, DiscoveredStart memory options entryPc first →
          DiscoveredStart memory options entryPc second → first ≠ second →
            ¬LiesInBlock memory options first second) ∧
        ∀ start block, DiscoveredStart memory options entryPc start →
          analyzeR5900BasicBlock memory start options.blockOptions = .ok block →
            (countedSites block).length ≤ 2 ^ 30) := by
  obtain ⟨count, search⟩ := analyzeR5900Reachability_fromSearch succeeded
  refine ⟨?_, countsSitesOnce_iff_nodup.trans (search.nodup_sites_iff.trans
    (and_congr ⟨?_, ?_⟩ ⟨?_, ?_⟩))⟩
  · simp only [reportLines, List.append_assoc]
    exact ⟨_, List.append_assoc _ _ _⟩
  · rintro outside first second firstDiscovered secondDiscovered different
      ⟨block, analyzed, site, member, rfl⟩
    obtain ⟨firstBlock, firstAnalyzed⟩ := firstDiscovered.1
    have firstPlace := startPc_of_analyzed firstAnalyzed
    have place := startPc_of_analyzed analyzed
    rw [← firstPlace] at firstDiscovered firstAnalyzed
    subst place
    refine outside firstBlock
      (search.mem_blocks_iff.mpr ⟨firstDiscovered, firstAnalyzed⟩) block
      (search.mem_blocks_iff.mpr ⟨secondDiscovered, analyzed⟩) ?_ ?_
    · rwa [firstPlace]
    · rw [firstPlace]
      exact List.mem_map_of_mem member
  · intro apart first firstMember second secondMember different inside
    obtain ⟨firstDiscovered, -⟩ := search.mem_blocks_iff.mp firstMember
    obtain ⟨secondDiscovered, analyzed⟩ := search.mem_blocks_iff.mp secondMember
    obtain ⟨site, member, place⟩ := List.mem_map.mp inside
    exact apart _ _ firstDiscovered secondDiscovered different
      ⟨second, analyzed, site, member, place⟩
  · intro short start block discovered analyzed
    have place := startPc_of_analyzed analyzed
    subst place
    exact short block (search.mem_blocks_iff.mpr ⟨discovered, analyzed⟩)
  · intro short block member
    obtain ⟨discovered, analyzed⟩ := search.mem_blocks_iff.mp member
    exact short _ block discovered analyzed

/-- The records and PCs of a graph whose sites are known. -/
theorem records_of_sites {graph : R5900ReachabilityGraph}
    {sites : List (BitVec 32 × BitVec 32 × Bool)}
    (known : graph.sites.map (fun site => (site.pc, site.decoded.raw, isUnknown site)) =
      sites) :
    (graph.sites.filter isUnknown).map
        (fun site => (⟨site.pc, site.decoded.raw⟩ : UnknownSite)) =
      (sites.filter (·.2.2)).map (fun site => ⟨site.1, site.2.1⟩) ∧
    graph.sites.map (·.pc) = sites.map (·.1) := by
  subst known
  exact ⟨by simp [List.filter_map, Function.comp_def], by simp [Function.comp_def]⟩

/-- A branch to its own delay slot, which holds an unknown word. -/
def branchToSlotMemory : Ps2MemoryMap where
  regions := [⟨0x1000, 8, 5⟩]
  backingRegions :=
    [{ metadata := ⟨0x1000, 8, 5⟩
       bytes := [0x00, 0x00, 0x00, 0x10] ++ [0x34, 0x12, 0xEF, 0x4B]
       sized := rfl }]
  mirrored := mirrored_singleton

/-- The delay slot is counted and listed twice, once for the block at the branch
and once for the block it starts itself. -/
theorem reportCounters_branchToSlotMemory :
    ∃ graph, analyzeR5900Reachability branchToSlotMemory 0x1000 {} = .ok graph ∧
      printedUnknownSites graph = [⟨0x1004, 0x4BEF1234⟩, ⟨0x1004, 0x4BEF1234⟩] ∧
      (reportCounters graph).instructions = 3 ∧ (reportCounters graph).unknown = 2 ∧
      ¬CountsSitesOnce graph := by
  have outcome : (analyzeR5900Reachability branchToSlotMemory 0x1000 {}).toOption.map
      (fun graph => graph.sites.map fun site => (site.pc, site.decoded.raw, isUnknown site)) =
      some [(0x1000, 0x10000000, false), (0x1004, 0x4BEF1234, true),
        (0x1004, 0x4BEF1234, true)] := by
    decide +kernel
  obtain ⟨graph, found, sites⟩ := Option.map_eq_some_iff.mp outcome
  obtain ⟨records, pcs⟩ := records_of_sites sites
  have listed : (printedUnknownSites graph).Perm (List.replicate 2 ⟨0x1004, 0x4BEF1234⟩) := by
    have printed : (printedUnknownSites graph).Perm _ := printedUnknownSites_perm
    rw [records] at printed
    exact printed
  refine ⟨graph, OrderedChecks.toOption_eq_some_iff.mp found,
    List.perm_replicate.mp listed, ?_, ?_, ?_⟩
  · rw [reportCounters_instructions, ← List.length_map (f := (·.pc)), pcs]
    rfl
  · rw [reportCounters_unknown]
    simpa using congrArg List.length records
  · rw [countsSitesOnce_iff_nodup, pcs]
    decide

/-- Entered at the delay slot, the same memory has one block. -/
theorem countsSitesOnce_iff_branchToSlotMemory :
    ∃ graph, analyzeR5900Reachability branchToSlotMemory 0x1004 {} = .ok graph ∧
      printedUnknownSites graph = [⟨0x1004, 0x4BEF1234⟩] ∧
      (CountsSitesOnce graph ↔
        (∀ first second, DiscoveredStart branchToSlotMemory {} 0x1004 first →
          DiscoveredStart branchToSlotMemory {} 0x1004 second → first ≠ second →
            ¬LiesInBlock branchToSlotMemory {} first second) ∧
        ∀ start block, DiscoveredStart branchToSlotMemory {} 0x1004 start →
          analyzeR5900BasicBlock branchToSlotMemory start {} = .ok block →
            (countedSites block).length ≤ 2 ^ 30) := by
  have outcome : (analyzeR5900Reachability branchToSlotMemory 0x1004 {}).toOption.map
      (fun graph => graph.sites.map fun site => (site.pc, site.decoded.raw, isUnknown site)) =
      some [(0x1004, 0x4BEF1234, true)] := by
    decide +kernel
  obtain ⟨graph, found, sites⟩ := Option.map_eq_some_iff.mp outcome
  have succeeded := OrderedChecks.toOption_eq_some_iff.mp found
  have listed : (printedUnknownSites graph).Perm [⟨0x1004, 0x4BEF1234⟩] := by
    have printed : (printedUnknownSites graph).Perm _ := printedUnknownSites_perm
    rw [(records_of_sites sites).1] at printed
    exact printed
  exact ⟨graph, succeeded, List.perm_singleton.mp listed,
    (countsSitesOnce_iff branchToSlotMemory 0x1004 {} graph succeeded).2⟩

end Burnout3Recompiled
