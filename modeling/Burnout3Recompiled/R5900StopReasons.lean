import Burnout3Recompiled.R5900DispatcherRefinement
import Burnout3Recompiled.R5900DispatchStops

/-!
# Stop reasons are truthful

Every reason a run reports is a statement about guest memory, the budget or the
analysis at the next PC.  This file proves these statements, and that the two
exits for selections without a result are never taken.
-/

namespace Burnout3Recompiled

/-- What the reasons for a boundary say about the instruction they stop at. -/
def R5900DispatchStopReason.Describes (decoded : R5900DecodedInstruction) :
    R5900DispatchStopReason → Prop
  | .controlFlow => decoded.isBranch = true ∨ decoded.isJump = true
  | .trap => decoded.instructionClass = .system
  | .unsupportedInstruction =>
      ¬(decoded.isBranch = true ∨ decoded.isJump = true) ∧
        decoded.instructionClass ≠ .system ∧
        isDispatcherV0Eligible decoded.instruction = false
  | _ => False

theorem describes_of_dispatchBoundary {decoded : R5900DecodedInstruction}
    {reason : R5900DispatchStopReason} (stops : decoded.dispatchBoundary = some reason) :
    reason.Describes decoded := by
  unfold R5900DecodedInstruction.dispatchBoundary at stops
  split at stops
  · next transfers =>
      obtain rfl := Option.some.inj stops
      exact Bool.or_eq_true_iff.mp transfers
  · next stays =>
      split at stops
      · next system =>
          obtain rfl := Option.some.inj stops
          exact system
      · next user =>
          split at stops
          · cases stops
          · next ineligible =>
              obtain rfl := Option.some.inj stops
              exact ⟨mt Bool.or_eq_true_iff.mpr stays, user, eq_false_of_ne_true ineligible⟩

/-- What an executed instruction is. -/
structure Executable (decoded : R5900DecodedInstruction) : Prop where
  notControl : ¬(decoded.isBranch = true ∨ decoded.isJump = true)
  notSystem : decoded.instructionClass ≠ .system
  eligible : isDispatcherV0Eligible decoded.instruction = true

theorem executable_of_eligible {word : BitVec 32}
    (eligible : isDispatcherV0Eligible (decodeR5900 word).instruction = true) :
    Executable (decodeR5900 word) := by
  have continues := endsBlock_eq_false_iff.mp (endsBlock_of_eligible eligible)
  refine ⟨?_, continues.2.1, eligible⟩
  intro transfers
  have stays := continues.2.2
  rw [R5900DecodedInstruction.transfers, Bool.or_eq_true_iff.mpr transfers] at stays
  cases stays

theorem LowersAt.executable {memory : Ps2MemoryMap} {requireExecutable : Bool}
    {pc : BitVec 32} (lowers : LowersAt memory requireExecutable pc) :
    ∃ word, memory.readU32 pc = some word ∧ Executable (decodeR5900 word) := by
  obtain ⟨word, read, -, succeeds⟩ := lowers
  exact ⟨word, read,
    executable_of_eligible (lowerR5900Instruction_ok_iff_eligible.mp succeeds).1⟩

/-- A selection has a first site or a boundary, and its words can be read. -/
structure SelectionSucceeds (memory : Ps2MemoryMap) (block : R5900BasicBlock) : Prop where
  found : (selectSupportedSites block.instructions).sites ≠ [] ∨
    (selectSupportedSites block.instructions).boundary.isSome
  readable : ∃ words,
    readGuestWords memory (selectSupportedSites block.instructions).sites = .ok words

theorem selectionSucceeds_of_analyzed {memory : Ps2MemoryMap} {pc : BitVec 32}
    {options : R5900ControlFlowOptions} {block : R5900BasicBlock}
    (analyzed : analyzeR5900BasicBlock memory pc options = .ok block) :
    SelectionSucceeds memory block := by
  obtain ⟨terminator, shape, -, -⟩ := analyzeR5900BasicBlock_eq_ok analyzed
  obtain ⟨first, others, nonempty, -⟩ := shape.sites.head
  obtain ⟨rest, split, -, stops⟩ := selectSupportedSites_spec block.instructions
  have fetched := analyzeR5900BasicBlock_fetched analyzed
  constructor
  · by_contra neither
    push Not at neither
    obtain ⟨none, boundaryless⟩ := neither
    rw [none, List.nil_append, nonempty] at split
    rw [← split] at stops
    cases stopped : (selectSupportedSites block.instructions).boundary with
    | none =>
        rw [stopped] at stops
        cases stops
    | some stop =>
        rw [stopped] at boundaryless
        exact boundaryless rfl
  · rw [split] at fetched
    exact ⟨_, fetched.append_left.readGuestWords_eq⟩

section Runs

variable (memory : Ps2MemoryMap) (dispatcher : R5900BlockDispatcher)
  (os : Nat → ExecutablePageOutcome) (startPc : BitVec 32) (maxBlocks : Nat)

/-- The called block number `index` is compiled from a whole chunk. -/
def CallsWholeChunk (called : List (BitVec 32 × R5900X64CompiledBlock)) (index : Nat) :
    Prop :=
  ∃ nativeBlock,
    called[index]? =
      some (instructionPc startPc (chunkStart dispatcher.options index), nativeBlock) ∧
    compileR5900IrX64 .success
      (guestProgram memory (instructionPc startPc (chunkStart dispatcher.options index))
        dispatcher.options.blockOptions.maxInstructions) = .ok nativeBlock

/-- As many blocks are called as the result counts, each with a whole chunk. -/
structure CallsWholeChunks (loop : DispatchLoop) : Prop where
  length : loop.called.length = loop.result.blocksExecuted
  whole : ∀ index < loop.result.blocksExecuted,
    CallsWholeChunk memory dispatcher startPc loop.called index

/-- What the reason of a run says about its next PC, its counts and its message. -/
structure TruthfulStop (final : DispatchLoop) : Prop where
  boundary : final.result.reason = .controlFlow ∨ final.result.reason = .trap ∨
      final.result.reason = .unsupportedInstruction →
    final.result.message = "" ∧ ∃ word,
      memory.readU32 final.result.nextPc = some word ∧
        final.result.reason.Describes (decodeR5900 word)
  budget : final.result.reason = .blockBudgetExhausted →
    final.result.blocksExecuted = maxBlocks ∧
    final.result.instructionsExecuted =
      maxBlocks * dispatcher.options.blockOptions.maxInstructions ∧
    CallsWholeChunks memory dispatcher startPc final ∧
    ∃ block,
      analyzeR5900BasicBlock memory
        (instructionPc startPc (chunkStart dispatcher.options (maxBlocks - 1)))
        dispatcher.options.blockOptions = .ok block ∧
      ∀ site ∈ block.instructions, site.decoded.dispatchBoundary = none
  analysis : final.result.reason = .analysisFailure → ∃ failure,
    analyzeR5900BasicBlock memory final.result.nextPc dispatcher.options.blockOptions =
        .error failure ∧
      final.result.message =
        formatStageError "analysis" final.result.nextPc failure.message
  blocks : final.result.blocksExecuted ≤ maxBlocks

/-- What the iterations of a run keep. -/
structure RunsWhole (loop : DispatchLoop) : Prop where
  atChunk : AtChunk memory dispatcher os startPc maxBlocks loop
  whole : CallsWholeChunks memory dispatcher startPc loop
  unreported : Unreported loop

variable {memory : Ps2MemoryMap} {dispatcher : R5900BlockDispatcher}
  {os : Nat → ExecutablePageOutcome} {startPc : BitVec 32} {maxBlocks : Nat}
  {addF32 : BitVec 32 → BitVec 32 → BitVec 32} {loop next final ran : DispatchLoop}

theorem CallsWholeChunk.append {called : List (BitVec 32 × R5900X64CompiledBlock)}
    {index : Nat} (whole : CallsWholeChunk memory dispatcher startPc called index)
    (last : BitVec 32 × R5900X64CompiledBlock) :
    CallsWholeChunk memory dispatcher startPc (called ++ [last]) index := by
  obtain ⟨nativeBlock, called, compiled⟩ := whole
  obtain ⟨inside, -⟩ := List.getElem?_eq_some_iff.mp called
  refine ⟨nativeBlock, ?_, compiled⟩
  rw [List.getElem?_append_left inside]
  exact called

/-- One more whole chunk behind whole chunks. -/
theorem CallsWholeChunks.executed
    (whole : CallsWholeChunks memory dispatcher startPc loop)
    (currentPc : loop.currentPc =
      instructionPc startPc (chunkStart dispatcher.options loop.result.blocksExecuted))
    (run : Executed addF32 memory dispatcher.options loop
      dispatcher.options.blockOptions.maxInstructions ran) :
    CallsWholeChunks memory dispatcher startPc ran := by
  obtain ⟨nativeBlock, compiled, called⟩ := run.called
  constructor
  · rw [called, List.length_append, List.length_singleton, whole.length,
      run.blocksExecuted]
  · intro index inside
    rw [called]
    rw [run.blocksExecuted] at inside
    rcases Nat.lt_succ_iff_lt_or_eq.mp inside with earlier | rfl
    · exact (whole.whole index earlier).append _
    · rw [currentPc] at compiled ⊢
      refine ⟨nativeBlock, ?_, compiled⟩
      rw [← whole.length, List.getElem?_concat_length]

/-- A candidate without a boundary is a chunk without one. -/
theorem CandidateAt.of_boundaryless {options : R5900BlockDispatcherOptions}
    {pc : BitVec 32} {block : R5900BasicBlock} {rest : List R5900InstructionSite}
    {candidate : DispatchCandidate}
    (found : CandidateAt memory options pc block rest candidate)
    (boundaryless : candidate.boundary = none) :
    candidate.sites.length = options.blockOptions.maxInstructions ∧
      ∀ site ∈ block.instructions, site.decoded.dispatchBoundary = none := by
  have stops := found.stops
  rw [boundaryless] at stops
  cases stops with
  | atEnd =>
      refine ⟨found.full rfl, ?_⟩
      intro site member
      have decoded := decoded_of_analyzed found.analyzed member
      rw [found.instructions_eq] at member
      have eligible := found.eligible site member
      rw [decoded] at eligible ⊢
      exact dispatchBoundary_eq_none_iff.mpr eligible

namespace RunsWhole

theorem start (valid : dispatcher.cache.Valid) (state : R5900IrExecutionState)
    (positive : maxBlocks ≠ 0) :
    RunsWhole memory dispatcher os startPc maxBlocks
      (dispatcher.startLoop startPc state) where
  atChunk := .start valid state positive
  whole := ⟨rfl, fun _ none => absurd none (Nat.not_lt_zero _)⟩
  unreported := ⟨rfl, rfl, rfl⟩

theorem goesOn (runs : RunsWhole memory dispatcher os startPc maxBlocks loop)
    (continues : dispatchStep addF32 memory dispatcher.options maxBlocks os loop =
      .continues next) : RunsWhole memory dispatcher os startPc maxBlocks next := by
  obtain ⟨block, rest, candidate, found, boundaryless, run⟩ :=
    exists_executed_of_continues addF32 memory dispatcher.options maxBlocks
      runs.atChunk.valid continues
  have unreported := run.unreported runs.unreported
  rw [(found.of_boundaryless boundaryless).1] at run
  exact ⟨runs.atChunk.goesOn continues, runs.whole.executed runs.atChunk.currentPc run,
    unreported⟩

/-- A stop in front of an instruction the dispatcher leaves to someone else. -/
theorem stopsInFront {site : R5900InstructionSite} {reason : R5900DispatchStopReason}
    (fetched : fetchSite memory final.result.nextPc
      dispatcher.options.blockOptions.requireExecutable = some site)
    (stops : site.decoded.dispatchBoundary = some reason)
    (same : final.result.reason = reason) (quiet : final.result.message = "")
    (blocks : final.result.blocksExecuted ≤ maxBlocks) :
    TruthfulStop memory dispatcher startPc maxBlocks final := by
  obtain ⟨word, read, rfl⟩ := fetchSite_eq_some fetched
  have described := describes_of_dispatchBoundary stops
  rw [← same] at described
  refine ⟨fun _ => ⟨quiet, word, read, described⟩, ?_, ?_, blocks⟩
  · intro exhausted
    rw [exhausted] at described
    exact described.elim
  · intro failed
    rw [failed] at described
    exact described.elim

/-- A selection that finds no candidate. -/
theorem truthful_rejected (runs : RunsWhole memory dispatcher os startPc maxBlocks loop)
    {stop : DispatchStop}
    (selected : SelectionAt memory dispatcher.options loop.currentPc (.error stop)) :
    TruthfulStop memory dispatcher startPc maxBlocks
      { loop with result := loop.result.stop stop } := by
  have inside := runs.atChunk.comesTo.1.le
  cases selected with
  | analysisFails analyzed =>
      refine ⟨?_, ?_, fun _ => ⟨_, analyzed, rfl⟩, inside⟩
      · rintro (stopped | stopped | stopped) <;> cases stopped
      · intro stopped
        cases stopped
  | stopsAtOnce analyzed first stops =>
      have fetched := analyzeR5900BasicBlock_fetched analyzed
      rw [first] at fetched
      exact stopsInFront fetched.1 stops rfl rfl inside

/-- A candidate for which no native block can be had. -/
theorem truthful_unprepared (runs : RunsWhole memory dispatcher os startPc maxBlocks loop)
    {candidate : DispatchCandidate} {stopped : R5900DispatchResult}
    (preparation : PreparationOf (os loop.result.blocksExecuted) loop.currentPc candidate
      loop.cache loop.result (.error stopped)) :
    TruthfulStop memory dispatcher startPc maxBlocks { loop with result := stopped } := by
  have inside := runs.atChunk.comesTo.1.le
  obtain ⟨reason | reason, blocks, -⟩ := preparation.failure
  · exact ⟨by simp [reason], by simp [reason], by simp [reason], blocks.trans_le inside⟩
  · exact ⟨by simp [reason], by simp [reason], by simp [reason], blocks.trans_le inside⟩

/-- A candidate that is executed and ends the run. -/
theorem truthful_executed (runs : RunsWhole memory dispatcher os startPc maxBlocks loop)
    {block : R5900BasicBlock} {rest : List R5900InstructionSite}
    {candidate : DispatchCandidate}
    (found : CandidateAt memory dispatcher.options loop.currentPc block rest candidate)
    (run : Executed addF32 memory dispatcher.options loop candidate.sites.length ran)
    (stopped : afterBlock maxBlocks candidate.boundary ran = .stopped final) :
    TruthfulStop memory dispatcher startPc maxBlocks final := by
  have inside := runs.atChunk.comesTo.1
  have blocks := run.blocksExecuted
  unfold afterBlock at stopped
  split at stopped
  · next reason boundaryPc boundary =>
      obtain rfl := StepOutcome.stopped.inj stopped
      have stops := found.stops
      have fetched := analyzeR5900BasicBlock_fetched found.analyzed
      rw [found.split] at fetched
      rw [boundary] at stops
      cases stops with
      | atSite stops =>
          have atSite := fetched.fetchSite_middle
          rw [← fetched.pc_middle] at atSite
          exact stopsInFront atSite stops rfl (run.unreported runs.unreported).message
            (by simp only [blocks]; omega)
  · next boundaryless =>
      split at stopped
      · next spent =>
          obtain rfl := StepOutcome.stopped.inj stopped
          obtain ⟨length, all⟩ := found.of_boundaryless boundaryless
          rw [length] at run
          have instructions := run.instructionsExecuted
          have whole := runs.whole.executed runs.atChunk.currentPc run
          have last : maxBlocks - 1 = loop.result.blocksExecuted := by omega
          refine ⟨?_, fun _ => ⟨spent, ?_, ⟨whole.length, whole.whole⟩, block, ?_, all⟩, ?_,
            spent.le⟩
          · rintro (stopped | stopped | stopped) <;> cases stopped
          · simp only [instructions, runs.atChunk.instructions, chunkStart, ← spent, blocks]
            rw [Nat.succ_mul, Nat.mul_comm]
          · rw [last, ← runs.atChunk.currentPc]
            exact found.analyzed
          · intro stopped
            cases stopped
      · cases stopped

theorem truthfulStop (runs : RunsWhole memory dispatcher os startPc maxBlocks loop)
    (stopped : dispatchStep addF32 memory dispatcher.options maxBlocks os loop =
      .stopped final) : TruthfulStop memory dispatcher startPc maxBlocks final := by
  have shape := stepOf_dispatchBlock addF32 memory dispatcher.options maxBlocks
    (os loop.result.blocksExecuted) runs.atChunk.valid
  unfold dispatchStep at stopped
  generalize dispatchBlock addF32 memory dispatcher.options maxBlocks
    (os loop.result.blocksExecuted) loop = outcome at shape stopped
  cases shape with
  | rejected selected =>
      obtain rfl := StepOutcome.stopped.inj stopped
      exact runs.truthful_rejected selected
  | unprepared found preparation =>
      obtain rfl := StepOutcome.stopped.inj stopped
      exact runs.truthful_unprepared preparation
  | executes found preparation =>
      have run := executed_of_ready addF32 memory dispatcher.options found preparation
      exact runs.truthful_executed found run stopped

end RunsWhole

theorem StopsAt.reason_ne_invalidBlockBudget {chunk instructions : Nat}
    {reason : R5900DispatchStopReason} {nextPc : BitVec 32}
    (stops : StopsAt memory dispatcher os startPc maxBlocks chunk reason nextPc
      instructions) : reason ≠ .invalidBlockBudget := by
  cases stops with
  | analysisFails | loweringFails | compileFails | budget => simp
  | boundary analyzed first stops =>
      rcases dispatchBoundary_ne_failure stops with rfl | rfl | rfl <;> simp

end Runs

/-- After any history, a run executes eligible instructions only and stops for a
reason that is true of its next PC, its counts and the code.  Only an empty budget
is reported as invalid, and a selection never comes out empty or unreadable. -/
theorem run_stops_truthfully (addF32 : BitVec 32 → BitVec 32 → BitVec 32)
    (options : R5900BlockDispatcherOptions) (history : List DispatcherOperation)
    (memory : Ps2MemoryMap) (os : Nat → ExecutablePageOutcome) (startPc : BitVec 32)
    (state : R5900IrExecutionState) (maxBlocks : Nat) :
    let dispatcher := R5900BlockDispatcher.afterHistory addF32 options history
    let final := dispatcher.run addF32 memory os startPc state maxBlocks
    (∀ index < final.result.instructionsExecuted, ∃ word,
      memory.readU32 (instructionPc startPc index) = some word ∧
        Executable (decodeR5900 word)) ∧
    TruthfulStop memory dispatcher startPc maxBlocks final ∧
    (final.result.reason = .invalidBlockBudget ↔ maxBlocks = 0) ∧
    ∀ pc block, analyzeR5900BasicBlock memory pc options.blockOptions = .ok block →
      SelectionSucceeds memory block := by
  intro dispatcher final
  have valid : dispatcher.cache.Valid :=
    (R5900BlockDispatcher.afterHistory_valid addF32 options history).1
  have refines := run_refinesInterpreter addF32 dispatcher memory os startPc state maxBlocks
    valid
  refine ⟨fun index inside => (refines.lower index inside).executable, ?_, ?_,
    fun pc block analyzed => selectionSucceeds_of_analyzed analyzed⟩
  · by_cases positive : maxBlocks = 0
    · simp only [final, R5900BlockDispatcher.run, if_pos positive]
      refine ⟨?_, ?_, ?_, Nat.zero_le _⟩
      · rintro (stopped | stopped | stopped) <;> cases stopped
      · intro stopped
        cases stopped
      · intro stopped
        cases stopped
    · have run : StopsIn _ _ final :=
        dispatcher.run_stopsIn addF32 memory os startPc state positive
      obtain ⟨last, runs, stopped⟩ :=
        run.exists_last (RunsWhole memory dispatcher os startPc maxBlocks)
          (.start valid state positive) fun current next runs continues =>
            runs.goesOn continues
      exact runs.truthfulStop stopped
  · constructor
    · intro invalid
      by_contra positive
      obtain ⟨chunk, -, stops⟩ := run_stopsAt addF32 valid state positive
      exact stops.reason_ne_invalidBlockBudget invalid
    · intro empty
      simp only [final, R5900BlockDispatcher.run, if_pos empty]
      rfl

end Burnout3Recompiled
