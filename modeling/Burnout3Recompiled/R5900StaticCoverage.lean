import Burnout3Recompiled.R5900CallGraph
import Burnout3Recompiled.R5900CallSites
import Burnout3Recompiled.R5900DispatchChunking
import Burnout3Recompiled.R5900GraphWellFormed
import Burnout3Recompiled.R5900InstructionReachability
import Burnout3Recompiled.R5900StopReasons

/-!
# The analysis covers what is executed

A complete graph has every instruction that the dispatcher executes when it is started at
one of its instructions, and the instruction at which it stops.  A host that takes the
control transfers which the analysis follows, and starts a dispatcher with the same block
options again, never leaves the graph, and the dispatcher never fails to analyse a block.  A
call that is not followed and a transfer through a register may lead out of it.
-/

namespace Burnout3Recompiled

section Graph

variable {memory : Ps2MemoryMap} {options : R5900ReachabilityOptions}
  {entryPc pc target : BitVec 32} {graph : R5900ReachabilityGraph}

namespace Complete

theorem hasInstruction_entry (complete : Complete memory options entryPc graph) :
    graph.HasInstruction entryPc := by
  obtain ⟨block, inBlocks, analyzed⟩ := complete.block_of_start .refl
  obtain ⟨terminator, shape, -⟩ := analyzeR5900BasicBlock_eq_ok analyzed
  obtain ⟨first, rest, instructions, place⟩ := shape.sites.head
  exact ⟨block, inBlocks, first, by rw [instructions]; exact .head _, place⟩

theorem hasInstruction_of_reached (complete : Complete memory options entryPc graph)
    (present : graph.HasInstruction pc)
    (reached : ReachedInstruction memory options.followDirectCalls pc target) :
    graph.HasInstruction target := by
  induction reached with
  | refl => exact present
  | tail _ step ih => exact complete.hasInstruction_step ih step

/-- An instruction of the graph can be fetched, and so can its delay slot. -/
theorem fetches (complete : Complete memory options entryPc graph)
    (present : graph.HasInstruction pc) :
    ∃ site, fetchSite memory pc options.blockOptions.requireExecutable = some site ∧
      (site.decoded.transfers = true → ∃ slot,
        fetchSite memory (pc + 4) options.blockOptions.requireExecutable = some slot) := by
  obtain ⟨block, inBlocks, site, inSites, rfl⟩ := present
  obtain ⟨-, analyzed⟩ := complete.1.startOfBlock block inBlocks
  obtain ⟨terminator, shape, -⟩ := analyzeR5900BasicBlock_eq_ok analyzed
  refine ⟨site, shape.sites.fetched_of_mem inSites, fun transfers => ?_⟩
  rcases shape.sites.next_of_mem inSites with rfl | ⟨continues, -⟩
  · have slot := shape.delaySlotPresent transfers
    rw [shape.delaySlot, if_pos transfers] at slot
    exact Option.isSome_iff_exists.mp slot
  · rw [(endsBlock_eq_false_iff.mp continues).2.2] at transfers
    cases transfers

/-- From an instruction of the graph on every analysis goes through. -/
theorem analyzes_instructions (complete : Complete memory options entryPc graph)
    (present : graph.HasInstruction pc) (block : R5900BasicBlock) (remaining : Nat) :
    ∃ result, analyzeInstructions memory options.blockOptions.requireExecutable block pc
      remaining = .ok result := by
  induction remaining generalizing pc block with
  | zero => exact ⟨_, rfl⟩
  | succ remaining ih =>
      obtain ⟨site, fetched, slot⟩ := complete.fetches present
      cases ends : site.decoded.endsBlock with
      | true => exact (analyzeInstructions_ends fetched ends).mpr slot
      | false =>
          rw [analyzeInstructions_continues fetched ends]
          refine ih (complete.hasInstruction_step present ?_) _
          have place := fetchSite_pc fetched
          subst place
          rw [instructionStep_iff_followed fetched, followedTargets_of_continues fetched ends]
          exact List.mem_singleton_self _

theorem analyzes (complete : Complete memory options entryPc graph)
    (present : graph.HasInstruction pc) :
    ∃ block, analyzeR5900BasicBlock memory pc options.blockOptions = .ok block := by
  have found := present
  obtain ⟨block, inBlocks, site, inSites, place⟩ := found
  obtain ⟨-, analyzed⟩ := complete.1.startOfBlock block inBlocks
  have aligned : pc &&& 0x3 = 0 := (and_three_eq_zero_iff pc).mpr
    (place ▸ (wellFormedBlock_of_analyzed analyzed).instructionsAligned site inSites)
  rw [analyzeR5900BasicBlock, if_neg (maxInstructions_ne_zero_of_analyzed analyzed),
    if_neg (not_not.mpr aligned)]
  exact complete.analyzes_instructions present _ _

/-- The instructions of a block analysed from an instruction of the graph on are
instructions of the graph. -/
theorem hasInstruction_of_mem (complete : Complete memory options entryPc graph)
    (present : graph.HasInstruction pc) {block : R5900BasicBlock}
    {site : R5900InstructionSite}
    (analyzed : analyzeR5900BasicBlock memory pc options.blockOptions = .ok block)
    (member : site ∈ block.instructions) : graph.HasInstruction site.pc := by
  obtain ⟨terminator, shape, -⟩ := analyzeR5900BasicBlock_eq_ok analyzed
  exact complete.hasInstruction_of_reached present (shape.sites.reached member)

/-- Behind an instruction that can be executed stands another one of the graph. -/
theorem hasInstruction_add_four (complete : Complete memory options entryPc graph)
    (present : graph.HasInstruction pc)
    (lowers : LowersAt memory options.blockOptions.requireExecutable pc) :
    graph.HasInstruction (pc + 4) := by
  obtain ⟨site, fetched, -, continues⟩ := lowers.fetches
  have place := fetchSite_pc fetched
  subst place
  refine complete.hasInstruction_step present ?_
  rw [instructionStep_iff_followed fetched, followedTargets_of_continues fetched continues]
  exact List.mem_singleton_self _

theorem hasInstruction_instructionPc (complete : Complete memory options entryPc graph)
    (present : graph.HasInstruction pc) {count : Nat}
    (lowers : ∀ index < count, LowersAt memory options.blockOptions.requireExecutable
      (instructionPc pc index)) :
    ∀ index ≤ count, graph.HasInstruction (instructionPc pc index) := by
  intro index inside
  induction index with
  | zero => rwa [instructionPc_zero]
  | succ index ih =>
      rw [← instructionPc_add, instructionPc_one]
      exact complete.hasInstruction_add_four (ih (by omega)) (lowers index inside)

end Complete

end Graph

/-- The graph has what a run executes and where it stops. -/
structure CoversRun (graph : R5900ReachabilityGraph) (startPc : BitVec 32)
    (final : DispatchLoop) : Prop where
  analyzed : final.result.reason ≠ .analysisFailure
  executed : ∀ index < final.result.instructionsExecuted,
    graph.HasInstruction (instructionPc startPc index)
  nextPc : graph.HasInstruction final.result.nextPc

section Runs

variable {memory : Ps2MemoryMap} {options : R5900ReachabilityOptions}
  {entryPc startPc : BitVec 32} {graph : R5900ReachabilityGraph}
  {dispatcher : R5900BlockDispatcher} {maxBlocks : Nat}

/-- In all five ways in which a run stops. -/
theorem Complete.coversStop (complete : Complete memory options entryPc graph)
    (sameOptions : dispatcher.options.blockOptions = options.blockOptions)
    {os : Nat → ExecutablePageOutcome} {chunk instructions : Nat}
    {reason : R5900DispatchStopReason} {nextPc : BitVec 32}
    (stops : StopsAt memory dispatcher os startPc maxBlocks chunk reason nextPc instructions)
    (covered : ∀ index ≤ instructions, graph.HasInstruction (instructionPc startPc index)) :
    reason ≠ .analysisFailure ∧ graph.HasInstruction nextPc := by
  cases stops with
  | analysisFails failed =>
      obtain ⟨block, analyzed⟩ := complete.analyzes (covered _ (Nat.le_refl _))
      rw [sameOptions, analyzed] at failed
      cases failed
  | boundary analyzed first stops available =>
      refine ⟨?_, covered _ (Nat.le_refl _)⟩
      rintro rfl
      rcases dispatchBoundary_ne_failure stops with other | other | other <;> cases other
  | @loweringFails block before site analyzed first ctc1 =>
      refine ⟨by decide, ?_⟩
      obtain ⟨after, split⟩ := first.split
      have fetched := analyzeR5900BasicBlock_fetched analyzed
      rw [split] at fetched
      rw [← instructionPc_add, ← fetched.pc_middle]
      rw [ChunkBlock, sameOptions] at analyzed
      exact complete.hasInstruction_of_mem (covered _ (Nat.le_refl _)) analyzed
        (by simp [split])
  | compileFails => exact ⟨by decide, covered _ (Nat.le_refl _)⟩
  | budget => exact ⟨by decide, covered _ (Nat.le_refl _)⟩

theorem Complete.coversRun (complete : Complete memory options entryPc graph)
    (present : graph.HasInstruction startPc) (valid : dispatcher.cache.Valid)
    (sameOptions : dispatcher.options.blockOptions = options.blockOptions)
    (addF32 : BitVec 32 → BitVec 32 → BitVec 32) (os : Nat → ExecutablePageOutcome)
    (state : R5900IrExecutionState) (positive : maxBlocks ≠ 0) :
    CoversRun graph startPc (dispatcher.run addF32 memory os startPc state maxBlocks) := by
  have refines := run_refinesInterpreter addF32 dispatcher memory os startPc state maxBlocks
    valid
  have lowers := refines.lower
  rw [sameOptions] at lowers
  have covered := complete.hasInstruction_instructionPc present lowers
  obtain ⟨chunk, -, stops⟩ := @run_stopsAt memory dispatcher os startPc maxBlocks addF32
    valid state positive
  obtain ⟨analyzed, nextPc⟩ := complete.coversStop sameOptions stops covered
  exact ⟨analyzed, fun index inside => covered index inside.le, nextPc⟩

end Runs

section Sessions

variable (addF32 : BitVec 32 → BitVec 32 → BitVec 32) (memory : Ps2MemoryMap)
  (options : R5900ReachabilityOptions)

/-- A run from `startPc` with a budget, by a dispatcher with any history, that stops at
`nextPc`. -/
def RunsTo (startPc nextPc : BitVec 32) : Prop :=
  ∃ history os state maxBlocks, maxBlocks ≠ 0 ∧
    nextPc = ((R5900BlockDispatcher.afterHistory addF32 ⟨options.blockOptions⟩
      history).run addF32 memory os startPc state maxBlocks).result.nextPc

/-- The PCs at which a host starts the dispatcher: the entry, where a run has stopped, and
where the analysis follows the instruction at which it has stopped to. -/
inductive StartsAt (entryPc : BitVec 32) : BitVec 32 → Prop
  | entry : StartsAt entryPc entryPc
  | resumes {startPc nextPc : BitVec 32} (started : StartsAt entryPc startPc)
      (runs : RunsTo addF32 memory options startPc nextPc) : StartsAt entryPc nextPc
  | transfers {startPc nextPc target : BitVec 32} (started : StartsAt entryPc startPc)
      (runs : RunsTo addF32 memory options startPc nextPc)
      (step : InstructionStep memory options.followDirectCalls nextPc target) :
      StartsAt entryPc target

variable {addF32 memory options} {entryPc startPc : BitVec 32}
  {graph : R5900ReachabilityGraph}

theorem Complete.coversRunAfterHistory (complete : Complete memory options entryPc graph)
    (present : graph.HasInstruction startPc) (history : List DispatcherOperation)
    (os : Nat → ExecutablePageOutcome) (state : R5900IrExecutionState) {maxBlocks : Nat}
    (positive : maxBlocks ≠ 0) :
    CoversRun graph startPc ((R5900BlockDispatcher.afterHistory addF32
      ⟨options.blockOptions⟩ history).run addF32 memory os startPc state maxBlocks) := by
  obtain ⟨valid, sameOptions⟩ := R5900BlockDispatcher.afterHistory_valid addF32
    ⟨options.blockOptions⟩ history
  exact complete.coversRun present valid (by rw [sameOptions]) addF32 os state positive

theorem Complete.hasInstruction_of_startsAt
    (complete : Complete memory options entryPc graph)
    (started : StartsAt addF32 memory options entryPc startPc) :
    graph.HasInstruction startPc := by
  induction started with
  | entry => exact complete.hasInstruction_entry
  | resumes _ runs ih =>
      obtain ⟨history, os, state, maxBlocks, positive, rfl⟩ := runs
      exact (complete.coversRunAfterHistory ih history os state positive).nextPc
  | transfers _ runs step ih =>
      obtain ⟨history, os, state, maxBlocks, positive, rfl⟩ := runs
      exact complete.hasInstruction_step
        (complete.coversRunAfterHistory ih history os state positive).nextPc step

end Sessions

/-- Where the analysis has found everything, no session of runs that takes only the transfers
the analysis follows ever leaves the graph. -/
theorem analyzeR5900Reachability_coversRuns (addF32 : BitVec 32 → BitVec 32 → BitVec 32)
    (memory : Ps2MemoryMap) (entryPc : BitVec 32) (options : R5900ReachabilityOptions)
    (graph : R5900ReachabilityGraph)
    (succeeded : analyzeR5900Reachability memory entryPc options = .ok graph)
    (complete : ∀ issue ∈ graph.issues,
      issue.kind ≠ .blockLimitReached ∧ issue.kind ≠ .targetAnalysisFailed)
    (startPc : BitVec 32) (started : StartsAt addF32 memory options entryPc startPc)
    (history : List DispatcherOperation) (os : Nat → ExecutablePageOutcome)
    (state : R5900IrExecutionState) (maxBlocks : Nat) (positive : maxBlocks ≠ 0) :
    CoversRun graph startPc ((R5900BlockDispatcher.afterHistory addF32
      ⟨options.blockOptions⟩ history).run addF32 memory os startPc state maxBlocks) := by
  have accounts : Complete memory options entryPc graph :=
    ⟨accounts_of_unlimited succeeded fun issue member => (complete issue member).1,
      fun issue member => (complete issue member).2⟩
  exact accounts.coversRunAfterHistory (accounts.hasInstruction_of_startsAt started) history
    os state positive

theorem analyzeR5900Reachability_coversRuns_loopedCallMemory :
    ∃ graph, analyzeR5900Reachability loopedCallMemory 0x1000 {} = .ok graph ∧
      CoversRun graph 0x1000 ((R5900BlockDispatcher.afterHistory (fun lhs _ => lhs) {}
        [.clearCache]).run (fun lhs _ => lhs) loopedCallMemory (fun _ => .success) 0x1000
        {} 3) := by
  have outcome : (analyzeR5900Reachability loopedCallMemory 0x1000 {}).toOption.map
      (fun graph => graph.issues.map (·.kind)) = some [.leaderInsideBlock] := by
    decide +kernel
  obtain ⟨graph, found, kinds⟩ := Option.map_eq_some_iff.mp outcome
  have succeeded := OrderedChecks.toOption_eq_some_iff.mp found
  refine ⟨graph, succeeded, ?_⟩
  exact analyzeR5900Reachability_coversRuns (fun lhs _ => lhs) loopedCallMemory 0x1000 {}
    graph succeeded
    (fun issue member => ⟨kind_ne_of_kinds kinds (by decide) issue member,
      kind_ne_of_kinds kinds (by decide) issue member⟩)
    0x1000 .entry [.clearCache] _ {} 3 (by decide)

end Burnout3Recompiled
