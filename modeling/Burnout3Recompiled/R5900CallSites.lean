import Burnout3Recompiled.R5900AnalysisReport
import Burnout3Recompiled.R5900InstructionReachability
import Burnout3Recompiled.R5900MaximalBlock
import Mathlib.Data.Finset.Card

/-!
# What CALL_SITES counts

The report counts call records, and a block leaves one record for the call it
ends in.  Blocks that overlap can end in one and the same call, so the count is
the number of distinct call sites exactly when no discovered start lies on the way
of another one to its call.
-/

namespace Burnout3Recompiled

open WorklistSearch (after after_succ visited_visit visited_grows mem_visited_after
  pending_after_of_finished)

/-- The number on the line of a target.  A target without a line has none. -/
def printedCallSites (graph : R5900ReachabilityGraph) (target : BitVec 32) : Nat :=
  SortedHistogram.counter target (directCallTargets graph.calls)

/-- What the report says about a target: the section of the direct call targets has a line
with the number, unless there is nothing to say, and no other number for the target. -/
structure PrintsCallSites (graph : R5900ReachabilityGraph) (target : BitVec 32)
    (number : Nat) : Prop where
  inReport : directCallTargetLines graph <:+: reportLines graph
  line : 0 < number → callTargetLine (target, number) ∈ directCallTargetLines graph
  onlyLine : ∀ entry ∈ directCallTargets graph.calls, entry.1 = target → entry.2 = number

/-- The guest PCs with a JAL to the target among the instructions of the blocks. -/
def callSitePcs (graph : R5900ReachabilityGraph) (target : BitVec 32) :
    List (BitVec 32) :=
  ((graph.blocks.flatMap (·.instructions)).filter fun site =>
    site.decoded.instruction = .jal ∧
      site.decoded.directTarget site.pc = some target).map (·.pc)

def distinctCallSites (graph : R5900ReachabilityGraph) (target : BitVec 32) : Nat :=
  (callSitePcs graph target).toFinset.card

/-- The block ends in a JAL to the target. -/
def R5900BasicBlock.callsTo (block : R5900BasicBlock) (target : BitVec 32) : Bool :=
  block.endsIn .jal && decide ((callRecord block).target = some target)

section Discovery

variable (memory : Ps2MemoryMap) (options : R5900ReachabilityOptions)

/-- The search takes the start before the block limit has been reached, and it
can be analysed. -/
def DiscoveredStart (entryPc pc : BitVec 32) : Prop :=
  (∃ block, analyzeR5900BasicBlock memory pc options.blockOptions = .ok block) ∧
    ∃ turn source, (searchAfter memory options entryPc turn).pending.head? =
        some (pc, source) ∧
      ((searchAfter memory options entryPc turn).visited.filterMap
        (visitedBlock memory options)).length < options.maxBlocks

/-- The block at `outer` has an instruction at `inner` and ends in a JAL to the target. -/
def LiesBeforeCall (target inner outer : BitVec 32) : Prop :=
  ∃ block, analyzeR5900BasicBlock memory outer options.blockOptions = .ok block ∧
    block.callsTo target = true ∧ inner ∈ block.instructions.map (·.pc)

variable {memory options} {entryPc : BitVec 32} {count : Nat}
  {graph : R5900ReachabilityGraph} {block : R5900BasicBlock}

theorem length_visitedBlocks_mono (memory : Ps2MemoryMap)
    (options : R5900ReachabilityOptions) (entryPc : BitVec 32) {first second : Nat}
    (earlier : first ≤ second) :
    ((searchAfter memory options entryPc first).visited.filterMap
        (visitedBlock memory options)).length ≤
      ((searchAfter memory options entryPc second).visited.filterMap
        (visitedBlock memory options)).length :=
  ((visited_grows earlier).filterMap _).length_le

/-- The blocks of a graph stand at the discovered starts. -/
theorem FromSearch.mem_blocks_iff (search : FromSearch memory options entryPc count graph) :
    block ∈ graph.blocks ↔ DiscoveredStart memory options entryPc block.startPc ∧
      analyzeR5900BasicBlock memory block.startPc options.blockOptions = .ok block := by
  have blocks := search.blocks
  constructor
  · intro member
    obtain ⟨item, visited, place, analyzed⟩ := search.start_of_block member
    rw [place] at analyzed
    refine ⟨⟨⟨block, analyzed⟩, ?_⟩, analyzed⟩
    obtain ⟨turn, earlier, taken⟩ := mem_visited_after.mp visited
    refine ⟨turn, item.2, ?_, ?_⟩
    · rw [← place]
      exact taken
    · -- taking this start adds a block, and the limit bounds all of them
      have found : visitedBlock memory options item = some block := by
        rw [visitedBlock_eq_some, place]
        exact analyzed
      have next : (searchAfter memory options entryPc (turn + 1)).visited =
          (searchAfter memory options entryPc turn).visited ++ [item] := by
        rw [searchAfter, after_succ, visited_visit, taken]
        rfl
      have within := length_visitedBlocks_mono memory options entryPc
        (Nat.succ_le_of_lt earlier)
      have bounded := search.bounded
      rw [Nat.succ_eq_add_one, next, List.filterMap_append, List.length_append,
        List.filterMap_cons_some found, List.filterMap_nil, List.length_singleton,
        ← blocks] at within
      omega
  · rintro ⟨⟨-, turn, source, taken, room⟩, analyzed⟩
    have found : visitedBlock memory options (block.startPc, source) = some block :=
      visitedBlock_eq_some.mpr analyzed
    rcases Nat.lt_or_ge turn count with earlier | later
    · rw [blocks]
      exact List.mem_filterMap.mpr
        ⟨_, mem_visited_after.mpr ⟨turn, earlier, taken⟩, found⟩
    · rcases search.ended with finished | ⟨limit, -⟩
      · rw [searchAfter, pending_after_of_finished later finished] at taken
        cases taken
      · have within := length_visitedBlocks_mono memory options entryPc later
        rw [← blocks] at within
        omega

end Discovery

section Counts

variable {memory : Ps2MemoryMap} {options : R5900ReachabilityOptions}
  {entryPc pc target : BitVec 32} {count : Nat} {graph : R5900ReachabilityGraph}
  {block : R5900BasicBlock} {blockOptions : R5900ControlFlowOptions}

/-- A block that ends in JAL does not end in JALR. -/
theorem not_endsIn_jalr (jal : block.endsIn .jal = true) :
    block.endsIn .jalr = false := by
  unfold R5900BasicBlock.endsIn at jal ⊢
  split at jal
  · next site last =>
      rw [of_decide_eq_true jal]
      rfl
  · cases jal

/-- The printed number counts the blocks that end in a call to the target. -/
theorem FromSearch.printedCallSites_eq
    (search : FromSearch memory options entryPc count graph) :
    printedCallSites graph target =
      (graph.blocks.filter (·.callsTo target)).length := by
  rw [printedCallSites, directCallTargets, SortedHistogram.counter_histogram,
    List.count_filterMap, search.calls_eq, List.countP_map, List.countP_filter,
    ← List.countP_eq_length_filter]
  refine List.countP_congr fun block _ => ?_
  cases jal : block.endsIn .jal with
  | true =>
      have notJalr := not_endsIn_jalr jal
      simp [R5900BasicBlock.callsTo, jal, notJalr, callRecord]
  | false =>
      cases jalr : block.endsIn .jalr <;>
        simp [R5900BasicBlock.callsTo, jal, jalr, callRecord]

/-- A JAL ends the run it is in. -/
theorem SitesFrom.terminator_of_jal {requireExecutable : Bool}
    {sites : List R5900InstructionSite} {site terminator : R5900InstructionSite}
    (run : SitesFrom memory requireExecutable pc sites terminator) (member : site ∈ sites)
    (named : site.decoded.instruction = .jal) :
    site = terminator ∧ site.decoded.endsBlock = true := by
  have ends : site.decoded.endsBlock = true := by
    obtain ⟨word, -, decodes⟩ := fetchSite_eq_some (run.fetched_of_mem member)
    by_contra continues
    have transfers : site.decoded.transfers = true := by
      rw [decodes] at named ⊢
      exact decodeR5900_transfers.mpr (.inr (.inr (.inl named)))
    rw [(endsBlock_eq_false_iff.mp (eq_false_of_ne_true continues)).2.2] at transfers
    cases transfers
  rcases run.next_of_mem member with same | ⟨continues, -⟩
  · exact ⟨same, ends⟩
  · rw [ends] at continues
    cases continues

/-- The only JAL of a block is its last instruction. -/
theorem callsTo_iff
    (analyzed : analyzeR5900BasicBlock memory pc blockOptions = .ok block)
    {place : BitVec 32} :
    (∃ site ∈ block.instructions, site.decoded.instruction = .jal ∧
        site.decoded.directTarget site.pc = some target ∧ site.pc = place) ↔
      block.callsTo target = true ∧ terminatorPc block = place := by
  obtain ⟨terminator, shape, -⟩ := analyzeR5900BasicBlock_eq_ok analyzed
  have last := shape.sites.getLast?
  have calls : block.callsTo target = true ↔ terminator.decoded.instruction = .jal ∧
      terminator.decoded.directTarget terminator.pc = some target := by
    simp [R5900BasicBlock.callsTo, R5900BasicBlock.endsIn, callRecord, last]
  have position : terminatorPc block = terminator.pc := by
    rw [terminatorPc, last]
  rw [calls, position]
  constructor
  · rintro ⟨site, member, named, destination, rfl⟩
    obtain ⟨rfl, -⟩ := shape.sites.terminator_of_jal member named
    exact ⟨⟨named, destination⟩, rfl⟩
  · rintro ⟨⟨named, destination⟩, rfl⟩
    exact ⟨terminator, shape.sites.terminator_mem, named, destination, rfl⟩

/-- The distinct call sites are the terminators of those blocks. -/
theorem FromSearch.distinctCallSites_eq
    (search : FromSearch memory options entryPc count graph) :
    distinctCallSites graph target =
      ((graph.blocks.filter (·.callsTo target)).map terminatorPc).toFinset.card := by
  rw [distinctCallSites]
  congr 1
  ext place
  rw [List.mem_toFinset, List.mem_toFinset]
  constructor
  · intro member
    obtain ⟨site, kept, rfl⟩ := List.mem_map.mp member
    obtain ⟨inSites, calls⟩ := List.mem_filter.mp kept
    obtain ⟨block, inBlocks, inBlock⟩ := List.mem_flatMap.mp inSites
    obtain ⟨named, destination⟩ := of_decide_eq_true calls
    obtain ⟨item, -, -, analyzed⟩ := search.start_of_block inBlocks
    obtain ⟨callsTo, same⟩ :=
      (callsTo_iff analyzed).mp ⟨site, inBlock, named, destination, rfl⟩
    exact List.mem_map.mpr ⟨block, List.mem_filter.mpr ⟨inBlocks, callsTo⟩, same⟩
  · intro member
    obtain ⟨block, kept, same⟩ := List.mem_map.mp member
    obtain ⟨inBlocks, callsTo⟩ := List.mem_filter.mp kept
    obtain ⟨item, -, -, analyzed⟩ := search.start_of_block inBlocks
    obtain ⟨site, inBlock, named, destination, place⟩ :=
      (callsTo_iff analyzed).mpr ⟨callsTo, same⟩
    refine List.mem_map.mpr ⟨site, List.mem_filter.mpr ⟨?_, ?_⟩, place⟩
    · exact List.mem_flatMap.mpr ⟨block, inBlocks, inBlock⟩
    · exact decide_eq_true ⟨named, destination⟩

theorem card_toFinset_eq_length_iff {α : Type*} [DecidableEq α] {items : List α} :
    items.length = items.toFinset.card ↔ items.Nodup := by
  rw [eq_comm, ← List.toFinset_coe]
  exact Multiset.toFinset_card_eq_card_iff_nodup

/-- The counts agree when different blocks end in different calls. -/
theorem FromSearch.counts_agree_iff
    (search : FromSearch memory options entryPc count graph) :
    printedCallSites graph target = distinctCallSites graph target ↔
      ∀ first ∈ graph.blocks, ∀ second ∈ graph.blocks,
        first.callsTo target = true → second.callsTo target = true →
          terminatorPc first = terminatorPc second → first = second := by
  have distinct : (graph.blocks.filter (·.callsTo target)).Nodup :=
    (search.starts_nodup.of_map _).filter _
  rw [search.printedCallSites_eq, search.distinctCallSites_eq,
    ← List.length_map (f := terminatorPc), card_toFinset_eq_length_iff,
    List.nodup_map_iff_inj_on distinct]
  simp only [List.mem_filter]
  constructor
  · intro injective first inFirst second inSecond firstCalls secondCalls
    exact injective first ⟨inFirst, firstCalls⟩ second ⟨inSecond, secondCalls⟩
  · rintro separate first ⟨inFirst, firstCalls⟩ second ⟨inSecond, secondCalls⟩
    exact separate first inFirst second inSecond firstCalls secondCalls

/-- The way from a site of a run on is a run to the same terminator. -/
theorem SitesFrom.exists_from_mem {requireExecutable : Bool}
    {sites : List R5900InstructionSite} {site terminator : R5900InstructionSite}
    (run : SitesFrom memory requireExecutable pc sites terminator) (member : site ∈ sites) :
    ∃ rest, SitesFrom memory requireExecutable site.pc rest terminator ∧
      rest.length ≤ sites.length := by
  induction run with
  | last fetched =>
      obtain rfl := List.mem_singleton.mp member
      obtain rfl := fetchSite_pc fetched
      exact ⟨_, .last fetched, Nat.le_refl _⟩
  | next fetched continues rest ih =>
      rcases List.mem_cons.mp member with rfl | later
      · obtain rfl := fetchSite_pc fetched
        exact ⟨_, .next fetched continues rest, Nat.le_refl _⟩
      · obtain ⟨others, run, shorter⟩ := ih later
        exact ⟨others, run, Nat.le_succ_of_le shorter⟩

/-- A block that starts inside a block with a call ends in the same call: neither the
limit nor another terminator stops it before. -/
theorem callsTo_of_startsInside {inner : R5900BasicBlock} {innerPc : BitVec 32}
    (analyzed : analyzeR5900BasicBlock memory pc blockOptions = .ok block)
    (innerAnalyzed : analyzeR5900BasicBlock memory innerPc blockOptions = .ok inner)
    (calls : block.callsTo target = true)
    (inside : innerPc ∈ block.instructions.map (·.pc)) :
    inner.callsTo target = true ∧ terminatorPc inner = terminatorPc block := by
  obtain ⟨site, member, rfl⟩ := List.mem_map.mp inside
  obtain ⟨call, inBlock, named, destination, place⟩ :=
    (callsTo_iff analyzed).mpr ⟨calls, rfl⟩
  obtain ⟨terminator, shape, bounded, -⟩ := analyzeR5900BasicBlock_eq_ok analyzed
  obtain ⟨innerTerminator, innerShape, innerBounded, innerFull⟩ :=
    analyzeR5900BasicBlock_eq_ok innerAnalyzed
  obtain ⟨rfl, ends⟩ := shape.sites.terminator_of_jal inBlock named
  obtain ⟨rest, run, shorter⟩ := shape.sites.exists_from_mem member
  have length := run.length_eq (shorter.trans bounded)
    fun continues => absurd ends (ne_true_of_eq_false continues)
  have innerLength := innerShape.sites.length_eq innerBounded innerFull
  have behind := run.pc_behind
  rw [length, ← innerLength, ← innerShape.sites.pc_behind] at behind
  have samePc : call.pc = innerTerminator.pc := by
    exact add_right_cancel behind
  have fetched := shape.sites.fetched_of_mem inBlock
  rw [samePc, innerShape.sites.fetched_of_mem innerShape.sites.terminator_mem] at fetched
  have same : innerTerminator = call := Option.some.inj fetched
  subst same
  obtain ⟨innerCalls, innerPlace⟩ := (callsTo_iff innerAnalyzed).mp
    ⟨innerTerminator, innerShape.sites.terminator_mem, named, destination, rfl⟩
  exact ⟨innerCalls, innerPlace.trans place⟩

end Counts

theorem printsCallSites (graph : R5900ReachabilityGraph) (target : BitVec 32) :
    PrintsCallSites graph target (printedCallSites graph target) where
  inReport := by
    simp only [reportLines, List.append_assoc]
    exact ((List.prefix_append _ _).isInfix.trans (List.suffix_append _ _).isInfix).trans
      (List.suffix_append _ _).isInfix
  line := by
    intro printed
    have occurs : target ∈ graph.calls.filterMap
        fun call => if call.indirect then none else call.target := by
      rw [printedCallSites, directCallTargets, SortedHistogram.counter_histogram] at printed
      exact List.count_pos_iff.mp printed
    have entry : (target, printedCallSites graph target) ∈ directCallTargets graph.calls := by
      rw [printedCallSites, directCallTargets, SortedHistogram.counter_histogram]
      exact SortedHistogram.mem_histogram_iff.mpr ⟨occurs, rfl⟩
    rw [directCallTargetLines]
    exact List.mem_append_left _ (List.mem_append_right _ (List.mem_map_of_mem entry))
  onlyLine := by
    rintro ⟨other, number⟩ member rfl
    rw [printedCallSites, directCallTargets, SortedHistogram.counter_histogram]
    exact (SortedHistogram.mem_histogram_iff.mp member).2

/-- The report prints one number for every call target, which is the number of its distinct
call sites if and only if no discovered start lies in the block of another one that ends in
a call of the target. -/
theorem printedCallSites_eq_distinctCallSites_iff (memory : Ps2MemoryMap)
    (entryPc : BitVec 32) (options : R5900ReachabilityOptions)
    (graph : R5900ReachabilityGraph)
    (succeeded : analyzeR5900Reachability memory entryPc options = .ok graph)
    (target : BitVec 32) :
    PrintsCallSites graph target (printedCallSites graph target) ∧
      (printedCallSites graph target = distinctCallSites graph target ↔
        ∀ inner outer, DiscoveredStart memory options entryPc inner →
          DiscoveredStart memory options entryPc outer → inner ≠ outer →
            ¬LiesBeforeCall memory options target inner outer) := by
  obtain ⟨count, search⟩ := analyzeR5900Reachability_fromSearch succeeded
  refine ⟨printsCallSites graph target, ?_⟩
  rw [search.counts_agree_iff]
  constructor
  · rintro separate inner outer innerDiscovered outerDiscovered different
      ⟨outerBlock, outerAnalyzed, outerCalls, inside⟩
    obtain ⟨innerBlock, innerAnalyzed⟩ := innerDiscovered.1
    have innerPlace := startPc_of_analyzed innerAnalyzed
    have outerPlace := startPc_of_analyzed outerAnalyzed
    subst innerPlace outerPlace
    obtain ⟨innerCalls, same⟩ :=
      callsTo_of_startsInside outerAnalyzed innerAnalyzed outerCalls inside
    refine different (congrArg _ (separate innerBlock ?_ outerBlock ?_ innerCalls
      outerCalls same))
    · exact search.mem_blocks_iff.mpr ⟨innerDiscovered, innerAnalyzed⟩
    · exact search.mem_blocks_iff.mpr ⟨outerDiscovered, outerAnalyzed⟩
  · intro clear first inFirst second inSecond firstCalls secondCalls same
    obtain ⟨firstDiscovered, firstAnalyzed⟩ := search.mem_blocks_iff.mp inFirst
    obtain ⟨secondDiscovered, secondAnalyzed⟩ := search.mem_blocks_iff.mp inSecond
    by_contra different
    have apart : first.startPc ≠ second.startPc := by
      intro equal
      rw [equal] at firstAnalyzed
      exact different (Except.ok.inj (firstAnalyzed.symm.trans secondAnalyzed))
    -- the two blocks meet at the call
    obtain ⟨firstCall, firstMember, -, -, firstPlace⟩ :=
      (callsTo_iff firstAnalyzed).mpr ⟨firstCalls, rfl⟩
    obtain ⟨secondCall, secondMember, -, -, secondPlace⟩ :=
      (callsTo_iff secondAnalyzed).mpr ⟨secondCalls, rfl⟩
    rcases (analyzeR5900BasicBlock_fetched firstAnalyzed).start_mem_of_meet
        (analyzeR5900BasicBlock_fetched secondAnalyzed) firstMember secondMember
        (firstPlace.trans (same.trans secondPlace.symm)) with inside | inside
    · exact clear _ _ firstDiscovered secondDiscovered apart
        ⟨second, secondAnalyzed, secondCalls, inside⟩
    · exact clear _ _ secondDiscovered firstDiscovered apart.symm
        ⟨first, firstAnalyzed, firstCalls, inside⟩

theorem printedCallSites_loopedCallMemory :
    ∃ graph, analyzeR5900Reachability loopedCallMemory 0x1000 {} = .ok graph ∧
      printedCallSites graph 0x2000 = 2 ∧ distinctCallSites graph 0x2000 = 1 := by
  have outcome : (analyzeR5900Reachability loopedCallMemory 0x1000 {}).toOption.map
      (fun graph => (printedCallSites graph 0x2000, distinctCallSites graph 0x2000)) =
      some (2, 1) := by
    decide +kernel
  obtain ⟨graph, found, counts⟩ := Option.map_eq_some_iff.mp outcome
  obtain ⟨printed, distinct⟩ := Prod.mk.inj counts
  exact ⟨graph, OrderedChecks.toOption_eq_some_iff.mp found, printed, distinct⟩

/-- Entered at the call itself, the loop has one block for it. -/
theorem printedCallSites_eq_distinctCallSites_iff_loopedCallMemory :
    ∃ graph, analyzeR5900Reachability loopedCallMemory 0x1004 {} = .ok graph ∧
      printedCallSites graph 0x2000 = 1 ∧
      (printedCallSites graph 0x2000 = distinctCallSites graph 0x2000 ↔
        ∀ inner outer, DiscoveredStart loopedCallMemory {} 0x1004 inner →
          DiscoveredStart loopedCallMemory {} 0x1004 outer → inner ≠ outer →
            ¬LiesBeforeCall loopedCallMemory {} 0x2000 inner outer) := by
  have outcome : (analyzeR5900Reachability loopedCallMemory 0x1004 {}).toOption.map
      (fun graph => printedCallSites graph 0x2000) = some 1 := by
    decide +kernel
  obtain ⟨graph, found, printed⟩ := Option.map_eq_some_iff.mp outcome
  have succeeded := OrderedChecks.toOption_eq_some_iff.mp found
  exact ⟨graph, succeeded, printed, (printedCallSites_eq_distinctCallSites_iff
    loopedCallMemory 0x1004 {} graph succeeded 0x2000).2⟩

end Burnout3Recompiled
