import Burnout3Recompiled.Ps2MemoryStore
import Burnout3Recompiled.R5900CallGraph
import Burnout3Recompiled.R5900DispatchRun

/-!
# The words that are looked at

The analysis of a block looks at the words it fetches, the last of which may be one that
cannot be fetched.  A graph depends on the words of its instructions and delay slots and
on those of the targets that could not be analysed, and a run on the words of the blocks
that its iterations analyse.  Guest stores that miss these words change neither.
-/

namespace Burnout3Recompiled

/-- A fetch at `pc` finds the same in both memories. -/
structure SameFetch (first second : Ps2MemoryMap) (pc : BitVec 32) : Prop where
  word : second.readU32 pc = first.readU32 pc
  status : rangeStatus second pc 4 = rangeStatus first pc 4

section Blocks

/-- The PCs at which the fetch loop looks, up to the first one that ends it. -/
def fetchedPcs (memory : Ps2MemoryMap) (requireExecutable : Bool) (pc : BitVec 32) :
    Nat → List (BitVec 32)
  | 0 => []
  | remaining + 1 =>
      pc :: match fetchSite memory pc requireExecutable with
        | none => []
        | some site =>
            if site.decoded.transfers then [pc + 4]
            else if site.decoded.endsBlock then []
            else fetchedPcs memory requireExecutable (pc + 4) remaining

/-- The PCs at which the analysis of a block looks: none when it refuses the start. -/
def blockFootprint (memory : Ps2MemoryMap) (startPc : BitVec 32)
    (options : R5900ControlFlowOptions) : List (BitVec 32) :=
  if startPc &&& 0x3 ≠ 0 then []
  else fetchedPcs memory options.requireExecutable startPc options.maxInstructions

variable {first second : Ps2MemoryMap} {requireExecutable : Bool} {pc : BitVec 32}

theorem SameFetch.fetchSite_eq (same : SameFetch first second pc)
    (requireExecutable : Bool) :
    fetchSite second pc requireExecutable = fetchSite first pc requireExecutable := by
  rw [fetchSite, fetchSite, same.word, same.status]

theorem SameFetch.finishControlTransfer_eq {terminator : R5900InstructionSite}
    (same : SameFetch first second (terminator.pc + 4)) (block : R5900BasicBlock) :
    finishControlTransfer second block terminator requireExecutable =
      finishControlTransfer first block terminator requireExecutable := by
  rw [finishControlTransfer, finishControlTransfer, same.fetchSite_eq,
    fetchDelaySlotFailure, fetchDelaySlotFailure, same.status]

/-- By induction on the iterations, each of which looks at one PC, the last one also at
the delay slot. -/
theorem analyzeInstructions_congr (block : R5900BasicBlock) (remaining : Nat)
    (same : ∀ other ∈ fetchedPcs first requireExecutable pc remaining,
      SameFetch first second other) :
    analyzeInstructions second requireExecutable block pc remaining =
      analyzeInstructions first requireExecutable block pc remaining := by
  induction remaining generalizing pc block with
  | zero => rfl
  | succ remaining ih =>
      have here : SameFetch first second pc := same pc (List.mem_cons_self ..)
      rw [analyzeInstructions, analyzeInstructions, here.fetchSite_eq]
      cases fetched : fetchSite first pc requireExecutable with
      | none =>
          simp only [fetchInstructionFailure, here.status]
      | some site =>
          have place := fetchSite_pc fetched
          simp only [fetchedPcs, fetched] at same
          simp only
          split
          · rfl
          · split
            · rfl
            · next known user =>
                by_cases transfers : site.decoded.transfers = true
                · have takes : (site.decoded.isBranch || site.decoded.isJump) = true :=
                    transfers
                  rw [if_pos takes, if_pos takes]
                  apply SameFetch.finishControlTransfer_eq
                  rw [place]
                  exact same (pc + 4) (by simp [transfers])
                · have stays : ¬(site.decoded.isBranch || site.decoded.isJump) = true :=
                    transfers
                  rw [if_neg stays, if_neg stays]
                  have continues : site.decoded.endsBlock = false :=
                    endsBlock_eq_false_iff.mpr ⟨known, user, eq_false_of_ne_true transfers⟩
                  refine ih _ fun other member => same other ?_
                  rw [if_neg transfers, if_neg (ne_true_of_eq_false continues)]
                  exact List.mem_cons_of_mem _ member

theorem analyzeR5900BasicBlock_congr (options : R5900ControlFlowOptions)
    (same : ∀ other ∈ blockFootprint first pc options, SameFetch first second other) :
    analyzeR5900BasicBlock second pc options = analyzeR5900BasicBlock first pc options := by
  rw [analyzeR5900BasicBlock, analyzeR5900BasicBlock]
  by_cases unaligned : pc &&& 0x3 ≠ 0
  · rw [if_pos unaligned, if_pos unaligned]
  · rw [blockFootprint, if_neg unaligned] at same
    rw [analyzeInstructions_congr _ _ same]

theorem fetchedPcs_congr {remaining : Nat}
    (same : ∀ other ∈ fetchedPcs first requireExecutable pc remaining,
      SameFetch first second other) :
    fetchedPcs second requireExecutable pc remaining =
      fetchedPcs first requireExecutable pc remaining := by
  induction remaining generalizing pc with
  | zero => rfl
  | succ remaining ih =>
      have here : SameFetch first second pc := same pc (List.mem_cons_self ..)
      rw [fetchedPcs, fetchedPcs, here.fetchSite_eq]
      cases fetched : fetchSite first pc requireExecutable with
      | none => rfl
      | some site =>
          simp only [fetchedPcs, fetched] at same
          by_cases transfers : site.decoded.transfers = true
          · simp only [if_pos transfers]
          · by_cases ends : site.decoded.endsBlock = true
            · simp only [if_neg transfers, if_pos ends]
            · simp only [if_neg transfers, if_neg ends] at same ⊢
              rw [ih fun other member => same other (List.mem_cons_of_mem _ member)]

theorem blockFootprint_congr {options : R5900ControlFlowOptions}
    (same : ∀ other ∈ blockFootprint first pc options, SameFetch first second other) :
    blockFootprint second pc options = blockFootprint first pc options := by
  unfold blockFootprint at same ⊢
  split
  · rfl
  · next aligned =>
      rw [if_neg aligned] at same
      exact fetchedPcs_congr same

/-- The instructions and the delay slot of a block. -/
def blockPcs (block : R5900BasicBlock) : List (BitVec 32) :=
  (block.instructions ++ block.delaySlot.toList).map (·.pc)

/-- By induction on the sites: the fetch loop stops looking at the terminator or at its
delay slot. -/
theorem SitesFrom.fetchedPcs_eq {sites : List R5900InstructionSite}
    {terminator : R5900InstructionSite} {remaining : Nat}
    (run : SitesFrom first requireExecutable pc sites terminator)
    (bound : sites.length ≤ remaining)
    (full : terminator.decoded.endsBlock = false → sites.length = remaining) :
    fetchedPcs first requireExecutable pc remaining =
      sites.map (·.pc) ++ if terminator.decoded.transfers then [terminator.pc + 4] else [] := by
  induction run generalizing remaining with
  | @last pc site fetched =>
      have place := fetchSite_pc fetched
      subst place
      obtain ⟨remaining, rfl⟩ := Nat.exists_eq_succ_of_ne_zero (Nat.ne_of_gt bound)
      simp only [fetchedPcs, fetched, List.map_cons, List.map_nil, List.singleton_append]
      split
      · rfl
      · cases ends : site.decoded.endsBlock with
        | true => rw [if_pos rfl]
        | false =>
            -- the limit is reached right after this site
            obtain rfl : remaining = 0 := by
              have length := full ends
              simp only [List.length_singleton] at length
              omega
            rfl
  | @next pc site terminator sites fetched continues rest ih =>
      have place := fetchSite_pc fetched
      subst place
      obtain ⟨remaining, rfl⟩ : ∃ fewer, remaining = fewer + 1 :=
        ⟨remaining - 1, by rw [List.length_cons] at bound; omega⟩
      have stays : site.decoded.transfers = false :=
        (endsBlock_eq_false_iff.mp continues).2.2
      rw [fetchedPcs, fetched]
      simp only [stays, continues, List.map_cons, List.cons_append, Bool.false_eq_true,
        if_false]
      rw [ih (Nat.le_of_succ_le_succ bound) fun goesOn => Nat.succ.inj (full goesOn)]

/-- The analysis of a block has looked at the block and at nothing else. -/
theorem blockFootprint_eq {options : R5900ControlFlowOptions} {block : R5900BasicBlock}
    (analyzed : analyzeR5900BasicBlock first pc options = .ok block) :
    blockFootprint first pc options = blockPcs block := by
  obtain ⟨terminator, shape, bound, full⟩ := analyzeR5900BasicBlock_eq_ok analyzed
  rw [blockFootprint, if_neg (not_not.mpr (aligned_of_analyzed analyzed)),
    shape.sites.fetchedPcs_eq bound full, blockPcs, List.map_append]
  congr 1
  rw [shape.delaySlot]
  split
  · next transfers =>
      have present := shape.delaySlotPresent transfers
      rw [shape.delaySlot, if_pos transfers] at present
      obtain ⟨slot, fetched⟩ := Option.isSome_iff_exists.mp present
      rw [fetched, Option.toList_some, List.map_singleton, fetchSite_pc fetched]
  · rfl

end Blocks

section Graphs

/-- The PCs that were looked at for an issue: a target that could not be analysed is not
in any block. -/
def issueFootprint (memory : Ps2MemoryMap) (options : R5900ControlFlowOptions)
    (issue : R5900ReachabilityIssue) : List (BitVec 32) :=
  match issue.kind, issue.target with
  | .targetAnalysisFailed, some target => blockFootprint memory target options
  | _, _ => []

/-- The PCs that were looked at for a graph. -/
def graphFootprint (memory : Ps2MemoryMap) (options : R5900ControlFlowOptions)
    (graph : R5900ReachabilityGraph) : List (BitVec 32) :=
  graph.blocks.flatMap blockPcs ++ graph.issues.flatMap (issueFootprint memory options)

/-- The PCs at which the reachability analysis looks: none when it may not collect any
block. -/
def analysisFootprint (memory : Ps2MemoryMap) (entryPc : BitVec 32)
    (options : R5900ReachabilityOptions) : List (BitVec 32) :=
  match analyzeR5900Reachability memory entryPc options with
  | .error _ =>
      if options.maxBlocks = 0 then []
      else blockFootprint memory entryPc options.blockOptions
  | .ok graph => graphFootprint memory options.blockOptions graph

variable {first second : Ps2MemoryMap} {options : R5900ReachabilityOptions}
  {state : ReachabilityState} {graph : R5900ReachabilityGraph}
  {blockOptions : R5900ControlFlowOptions} {pc other : BitVec 32}

theorem mem_graphFootprint_of_block {block : R5900BasicBlock}
    (inBlocks : block ∈ graph.blocks) (member : pc ∈ blockPcs block) :
    pc ∈ graphFootprint first blockOptions graph :=
  List.mem_append_left _ (List.mem_flatMap.mpr ⟨block, inBlocks, member⟩)

theorem mem_graphFootprint_of_issue {issue : R5900ReachabilityIssue}
    (inIssues : issue ∈ graph.issues)
    (member : pc ∈ issueFootprint first blockOptions issue) :
    pc ∈ graphFootprint first blockOptions graph :=
  List.mem_append_right _ (List.mem_flatMap.mpr ⟨issue, inIssues, member⟩)

/-- Issues are never taken back. -/
theorem exploreWorklist_issues (explored : exploreWorklist first options state = .ok graph) :
    state.graph.issues <+: graph.issues := by
  induction state using exploreWorklist_induction first options with
  | empty state empty =>
      rw [exploreWorklist_empty empty] at explored
      obtain rfl := Except.ok.inj explored
      exact List.prefix_rfl
  | full state pending rest pendingTargets limit =>
      rw [exploreWorklist_full pendingTargets limit] at explored
      obtain rfl := Except.ok.inj explored
      exact List.prefix_append _ _
  | entryFails state pending rest pendingTargets room failure failed isEntry =>
      rw [exploreWorklist_failed pendingTargets room failed, if_pos isEntry] at explored
      cases explored
  | targetFails state pending rest pendingTargets room failure failed notEntry ih =>
      rw [exploreWorklist_failed pendingTargets room failed, if_neg notEntry] at explored
      exact (List.prefix_append _ _).trans (ih explored)
  | records state pending rest pendingTargets room block analyzed ih =>
      rw [exploreWorklist_record pendingTargets room analyzed] at explored
      refine List.IsPrefix.trans ?_ (ih explored)
      rw [recordBlock_effect.issues]
      exact List.prefix_append _ _

/-- By induction on the worklist loop: every block it analyses and every target it gives
up ends in the graph. -/
theorem exploreWorklist_congr (taken : EntryTaken state.worklist)
    (explored : exploreWorklist first options state = .ok graph)
    (same : ∀ pc ∈ graphFootprint first options.blockOptions graph,
      SameFetch first second pc) :
    exploreWorklist second options state = .ok graph := by
  induction state using exploreWorklist_induction first options with
  | empty state empty =>
      rw [exploreWorklist_empty empty] at explored ⊢
      exact explored
  | full state pending rest pendingTargets limit =>
      rw [exploreWorklist_full pendingTargets limit] at explored ⊢
      exact explored
  | entryFails state pending rest pendingTargets room failure failed isEntry =>
      rw [exploreWorklist_failed pendingTargets room failed, if_pos isEntry] at explored
      cases explored
  | targetFails state pending rest pendingTargets room failure failed notEntry ih =>
      rw [exploreWorklist_failed pendingTargets room failed, if_neg notEntry] at explored
      have issues := exploreWorklist_issues explored
      have failedAgain : analyzeR5900BasicBlock second pending.pc options.blockOptions =
          .error failure := by
        rw [analyzeR5900BasicBlock_congr options.blockOptions, failed]
        exact fun pc member => same pc
          (mem_graphFootprint_of_issue (issues.mem (List.mem_append_right _ (.head _)))
            member)
      rw [exploreWorklist_failed pendingTargets room failedAgain, if_neg notEntry]
      exact ih (taken.of_cons pendingTargets) explored
  | records state pending rest pendingTargets room block analyzed ih =>
      rw [exploreWorklist_record pendingTargets room analyzed] at explored
      have recordTaken : EntryTaken
          (recordBlock options block { state with worklist := rest }).worklist :=
        EntryTaken.recordBlock (taken.of_cons pendingTargets)
      obtain ⟨result, sameResult, appends⟩ :=
        exploreWorklist_extends first options _ recordTaken
      obtain rfl := Except.ok.inj (sameResult.symm.trans explored)
      have inBlocks : block ∈ result.blocks := appends.blocks.mem (by simp)
      have analyzedAgain : analyzeR5900BasicBlock second pending.pc options.blockOptions =
          .ok block := by
        rw [analyzeR5900BasicBlock_congr options.blockOptions, analyzed]
        rw [blockFootprint_eq analyzed]
        exact fun pc member => same pc (mem_graphFootprint_of_block inBlocks member)
      rw [exploreWorklist_record pendingTargets room analyzedAgain]
      exact ih recordTaken explored

/-- The leaders inside other blocks are found without looking at memory. -/
theorem graphFootprint_subset_detectOverlappingLeaders :
    graphFootprint first blockOptions graph ⊆
      graphFootprint first blockOptions (detectOverlappingLeaders graph) := by
  obtain ⟨added, issues, -⟩ := detectOverlappingLeaders_addsLeaderIssues graph
  intro pc member
  rcases List.mem_append.mp member with inBlock | inIssue
  · exact List.mem_append_left _ inBlock
  · refine List.mem_append_right _ ?_
    rw [issues, List.flatMap_append]
    exact List.mem_append_left _ inIssue

theorem analyzeR5900Reachability_congr {entryPc : BitVec 32}
    (same : ∀ pc ∈ analysisFootprint first entryPc options, SameFetch first second pc) :
    analyzeR5900Reachability second entryPc options =
      analyzeR5900Reachability first entryPc options := by
  rcases Nat.eq_zero_or_pos options.maxBlocks with noBlocks | positive
  · rw [analyzeR5900Reachability, analyzeR5900Reachability, if_pos noBlocks, if_pos noBlocks]
  · cases analyzed : analyzeR5900BasicBlock first entryPc options.blockOptions with
    | error failure =>
        have failed := analyzeR5900Reachability_failed positive analyzed
        simp only [analysisFootprint, failed] at same
        rw [if_neg (Nat.ne_of_gt positive)] at same
        rw [failed]
        refine analyzeR5900Reachability_failed positive ?_
        rw [analyzeR5900BasicBlock_congr options.blockOptions same, analyzed]
    | ok block =>
        have recorded := analyzeR5900Reachability_record positive analyzed
        obtain ⟨graph, explored, appends⟩ := exploreWorklist_extends first options
          (recordEntry options entryPc block) entryTaken_recordEntry
        rw [explored] at recorded
        rw [analysisFootprint, recorded] at same
        have inBlocks : block ∈ graph.blocks := appends.blocks.mem (by simp [recordEntry])
        have sameGraph : ∀ pc ∈ graphFootprint first options.blockOptions graph,
            SameFetch first second pc :=
          fun pc member => same pc (graphFootprint_subset_detectOverlappingLeaders member)
        have analyzedAgain : analyzeR5900BasicBlock second entryPc options.blockOptions =
            .ok block := by
          rw [analyzeR5900BasicBlock_congr options.blockOptions, analyzed]
          rw [blockFootprint_eq analyzed]
          exact fun pc member => sameGraph pc (mem_graphFootprint_of_block inBlocks member)
        rw [recorded, analyzeR5900Reachability_record positive analyzedAgain,
          exploreWorklist_congr entryTaken_recordEntry explored sameGraph]

theorem issueFootprint_congr {issue : R5900ReachabilityIssue}
    (same : ∀ pc ∈ issueFootprint first blockOptions issue, SameFetch first second pc) :
    issueFootprint second blockOptions issue = issueFootprint first blockOptions issue := by
  unfold issueFootprint at same ⊢
  split
  · next target kind named =>
      simp only [kind, named] at same
      exact blockFootprint_congr same
  · rfl

theorem analysisFootprint_congr {entryPc : BitVec 32}
    (same : ∀ pc ∈ analysisFootprint first entryPc options, SameFetch first second pc) :
    analysisFootprint second entryPc options = analysisFootprint first entryPc options := by
  have analyzed := analyzeR5900Reachability_congr same
  unfold analysisFootprint at same ⊢
  rw [analyzed]
  cases result : analyzeR5900Reachability first entryPc options with
  | error failure =>
      rw [result] at same
      dsimp only at same ⊢
      split
      · rfl
      · next room =>
          rw [if_neg room] at same
          exact blockFootprint_congr same
  | ok graph =>
      rw [result] at same
      simp only [graphFootprint] at same ⊢
      congr 1
      apply List.flatMap_congr
      intro issue member
      exact issueFootprint_congr fun pc inside =>
        same pc (mem_graphFootprint_of_issue member inside)

end Graphs

/-- The PCs at which a run looks: those of the blocks that its iterations analyse. -/
def R5900BlockDispatcher.runFootprint (addF32 : BitVec 32 → BitVec 32 → BitVec 32)
    (dispatcher : R5900BlockDispatcher) (memory : Ps2MemoryMap)
    (os : Nat → ExecutablePageOutcome) (startPc : BitVec 32) (state : R5900IrExecutionState)
    (maxBlocks : Nat) : List (BitVec 32) :=
  (dispatcher.dispatchIterations addF32 memory os startPc state maxBlocks).flatMap fun loop =>
    blockFootprint memory loop.currentPc dispatcher.options.blockOptions

section Runs

variable {first second : Ps2MemoryMap} {addF32 : BitVec 32 → BitVec 32 → BitVec 32}
  {options : R5900BlockDispatcherOptions} {maxBlocks : Nat} {pc : BitVec 32}

theorem readGuestWords_congr {sites : List R5900InstructionSite}
    (same : ∀ site ∈ sites, SameFetch first second site.pc) :
    readGuestWords second sites = readGuestWords first sites := by
  induction sites with
  | nil => rfl
  | cons site sites ih =>
      obtain ⟨here, others⟩ := List.forall_mem_cons.mp same
      rw [readGuestWords, readGuestWords, here.word, ih others]

/-- The words of a candidate are words of its block. -/
theorem selectCandidate_congr
    (same : ∀ other ∈ blockFootprint first pc options.blockOptions,
      SameFetch first second other) :
    selectCandidate second options pc = selectCandidate first options pc := by
  rw [selectCandidate, selectCandidate, analyzeR5900BasicBlock_congr _ same]
  cases analyzed : analyzeR5900BasicBlock first pc options.blockOptions with
  | error failure => rfl
  | ok block =>
      obtain ⟨rest, split, -⟩ := selectSupportedSites_spec block.instructions
      have words : readGuestWords second (selectSupportedSites block.instructions).sites =
          readGuestWords first (selectSupportedSites block.instructions).sites := by
        apply readGuestWords_congr
        intro site member
        apply same
        rw [blockFootprint_eq analyzed]
        refine List.mem_map_of_mem (List.mem_append_left _ ?_)
        rw [split]
        exact List.mem_append_left _ member
      simp only [words]

variable {dispatcher : R5900BlockDispatcher} {os : Nat → ExecutablePageOutcome}
  {startPc : BitVec 32}

/-- A run depends on the words of the blocks that it analyses only. -/
theorem run_congr (valid : dispatcher.cache.Valid) (state : R5900IrExecutionState)
    (same : ∀ pc ∈ dispatcher.runFootprint addF32 first os startPc state maxBlocks,
      SameFetch first second pc) :
    dispatcher.run addF32 second os startPc state maxBlocks =
      dispatcher.run addF32 first os startPc state maxBlocks := by
  rcases Decidable.em (maxBlocks = 0) with noBudget | positive
  · rw [R5900BlockDispatcher.run, R5900BlockDispatcher.run, if_pos noBudget, if_pos noBudget]
  · apply (dispatcher.run_stopsIn addF32 first os startPc state positive).eq_of_agree
      (dispatcher.run_stopsIn addF32 second os startPc state positive)
      (R5900BlockDispatcher.withinBudget_startLoop valid positive)
      (fun _ _ within => within.goesOn)
      (fun loop within => Nat.sub_pos_of_lt within.room) ?_ (Nat.sub_le maxBlocks _)
    · intro loop member
      have selected : selectCandidate second dispatcher.options loop.currentPc =
          selectCandidate first dispatcher.options loop.currentPc := by
        apply selectCandidate_congr
        intro pc inBlock
        exact same pc (List.mem_flatMap.mpr ⟨loop, member, inBlock⟩)
      rw [dispatchStep, dispatchStep, dispatchBlock, dispatchBlock, selected]
    · intro current next within continues
      have progress := dispatchBlock_continues continues
      have room := within.room
      omega

end Runs

namespace MemoryWrite

def address : MemoryWrite → BitVec 32
  | .u8 address _ | .u16 address _ | .u32 address _ => address

/-- How many bytes are stored. -/
def length : MemoryWrite → Nat
  | .u8 .. => 1
  | .u16 .. => 2
  | .u32 .. => 4

/-- The stored bytes are not bytes of the word at `pc`. -/
def Misses (write : MemoryWrite) (pc : BitVec 32) : Prop :=
  pc.toNat + 4 ≤ write.address.toNat ∨ write.address.toNat + write.length ≤ pc.toNat

instance (write : MemoryWrite) (pc : BitVec 32) : Decidable (write.Misses pc) :=
  inferInstanceAs (Decidable (_ ∨ _))

end MemoryWrite

section Stores

variable {memory : Ps2MemoryMap} {pc : BitVec 32}

/-- A store is seen by the words it meets only. -/
theorem WriteOutcome.readU32_eq (separated : memory.Separated) {address : BitVec 32}
    {bits : Nat} {value : BitVec bits} {outcome : Bool × Ps2MemoryMap}
    (done : WriteOutcome memory address value outcome)
    (misses : pc.toNat + 4 ≤ address.toNat ∨ address.toNat + bits / 8 ≤ pc.toNat) :
    outcome.2.readU32 pc = memory.readU32 pc := by
  cases answer : outcome.1 with
  | false => rw [done.failed answer]
  | true =>
      have nextSeparated : outcome.2.Separated := by
        rw [Ps2MemoryMap.Separated, done.regions]
        exact separated
      rw [Ps2MemoryMap.readU32_eq nextSeparated, Ps2MemoryMap.readU32_eq separated,
        Ps2MemoryMap.translate_congr done.regions]
      cases translated : memory.translate pc 4 with
      | none => rfl
      | some span =>
          obtain ⟨region, locates, -⟩ := Ps2MemoryMap.locates_of_translate translated
          have bound := (done.answer.mp answer).1
          have same : LittleEndianMemory.load outcome.2.view pc 32 =
              LittleEndianMemory.load memory.view pc 32 := by
            apply LittleEndianMemory.load_congr
            intro offset inside
            obtain ⟨-, place⟩ := locates.byte inside
            rw [done.done answer, LittleEndianMemory.store, if_neg]
            intro meets
            rw [BitVec.toNat_sub, place] at meets
            have addressBound := address.isLt
            omega
          rw [Option.map_some, Option.map_some, same]

theorem applyWrite_sameFetch (separated : memory.Separated) {write : MemoryWrite}
    (misses : write.Misses pc) : SameFetch memory (applyWrite memory write) pc where
  word := by
    cases write with
    | u8 address value =>
        exact (writeU8_outcome separated address value).readU32_eq separated misses
    | u16 address value =>
        exact (writeU16_outcome separated address value).readU32_eq separated misses
    | u32 address value =>
        exact (writeU32_outcome separated address value).readU32_eq separated misses
  status := by rw [rangeStatus, rangeStatus, applyWrite_regions separated write]

theorem SameFetch.trans {first second third : Ps2MemoryMap} (one : SameFetch first second pc)
    (two : SameFetch second third pc) : SameFetch first third pc :=
  ⟨two.word.trans one.word, two.status.trans one.status⟩

theorem applyWrites_sameFetch (separated : memory.Separated) {writes : List MemoryWrite}
    (misses : ∀ write ∈ writes, write.Misses pc) :
    SameFetch memory (applyWrites memory writes) pc := by
  induction writes generalizing memory with
  | nil => exact ⟨rfl, rfl⟩
  | cons write writes ih =>
      obtain ⟨here, others⟩ := List.forall_mem_cons.mp misses
      have nextSeparated : (applyWrite memory write).Separated := by
        rw [Ps2MemoryMap.Separated, applyWrite_regions separated write]
        exact separated
      exact (applyWrite_sameFetch separated here).trans (ih nextSeparated others)

end Stores

/-- Stores into guest memory that miss the words of the analysis leave its result and
these words as they are. -/
theorem analyzeR5900Reachability_applyWrites (memory : Ps2MemoryMap) (entryPc : BitVec 32)
    (options : R5900ReachabilityOptions) (writes : List MemoryWrite)
    (separated : memory.Separated)
    (misses : ∀ pc ∈ analysisFootprint memory entryPc options,
      ∀ write ∈ writes, write.Misses pc) :
    analyzeR5900Reachability (applyWrites memory writes) entryPc options =
        analyzeR5900Reachability memory entryPc options ∧
      analysisFootprint (applyWrites memory writes) entryPc options =
        analysisFootprint memory entryPc options := by
  have same : ∀ pc ∈ analysisFootprint memory entryPc options,
      SameFetch memory (applyWrites memory writes) pc :=
    fun pc member => applyWrites_sameFetch separated (misses pc member)
  exact ⟨analyzeR5900Reachability_congr same, analysisFootprint_congr same⟩

theorem separated_callMemory : callMemory.Separated :=
  List.pairwise_singleton _ _

/-- The function that nothing calls is overwritten. -/
theorem analyzeR5900Reachability_applyWrites_callMemory :
    let options := R5900ReachabilityOptions.acrossCalls {}
    let writes := [MemoryWrite.u32 0x1018 0xFFFFFFFF, MemoryWrite.u8 0x101F 1]
    analyzeR5900Reachability (applyWrites callMemory writes) 0x1000 options =
        analyzeR5900Reachability callMemory 0x1000 options ∧
      analysisFootprint (applyWrites callMemory writes) 0x1000 options =
        analysisFootprint callMemory 0x1000 options := by
  intro options writes
  have words : analysisFootprint callMemory 0x1000 options =
      [0x1000, 0x1004, 0x1020, 0x1024, 0x1008, 0x100C, 0x1010, 0x1014, 0x2000] := by
    decide +kernel
  refine analyzeR5900Reachability_applyWrites callMemory 0x1000 options writes
    separated_callMemory ?_
  rw [words]
  exact List.forall_iff_forall_mem.mp (by decide)

/-- Stores between two runs that miss the words of the first one cannot be told from no
stores: the second run has the same result, state and cache, whatever the dispatcher was
used for before. -/
theorem run_applyWrites (addF32 : BitVec 32 → BitVec 32 → BitVec 32)
    (options : R5900BlockDispatcherOptions) (history : List DispatcherOperation)
    (memory : Ps2MemoryMap) (os : Nat → ExecutablePageOutcome) (startPc : BitVec 32)
    (state : R5900IrExecutionState) (maxBlocks : Nat) (writes : List MemoryWrite)
    (separated : memory.Separated)
    (misses :
      let dispatcher := R5900BlockDispatcher.afterHistory addF32 options history
      ∀ pc ∈ dispatcher.runFootprint addF32 memory os startPc state maxBlocks,
        ∀ write ∈ writes, write.Misses pc) :
    let dispatcher := R5900BlockDispatcher.afterHistory addF32 options history
    dispatcher.run addF32 (applyWrites memory writes) os startPc state maxBlocks =
      dispatcher.run addF32 memory os startPc state maxBlocks := by
  intro dispatcher
  have valid := (R5900BlockDispatcher.afterHistory_valid addF32 options history).1
  exact run_congr valid state fun pc member =>
    applyWrites_sameFetch separated (misses pc member)

/-- A run from a delay slot to the call behind it. -/
theorem run_applyWrites_callMemory :
    let options : R5900BlockDispatcherOptions := { blockOptions := { maxInstructions := 1 } }
    let dispatcher := R5900BlockDispatcher.afterHistory (fun lhs _ => lhs) options [.clearCache]
    dispatcher.run (fun lhs _ => lhs) (applyWrites callMemory [.u16 0x1010 0xFFFF])
        (fun _ => .success) 0x1004 {} 3 =
      dispatcher.run (fun lhs _ => lhs) callMemory (fun _ => .success) 0x1004 {} 3 := by
  intro options dispatcher
  have words : dispatcher.runFootprint (fun lhs _ => lhs) callMemory (fun _ => .success)
      0x1004 {} 3 = [0x1004, 0x1008, 0x100C] := by
    decide +kernel
  refine run_applyWrites (fun lhs _ => lhs) options [.clearCache] callMemory
    (fun _ => .success) 0x1004 {} 3 [.u16 0x1010 0xFFFF] separated_callMemory ?_
  intro dispatcher
  rw [words]
  exact List.forall_iff_forall_mem.mp (by decide)

end Burnout3Recompiled
