import Burnout3Recompiled.R5900DispatchRun

/-!
# Where a run stops

A run cuts guest code into chunks of the instruction limit.  The code alone
tells whether a chunk is executed to its end, up to one question to the system:
whether a native block can be had for it.  This file states where a run stops in
these terms and shows that the dispatcher stops there.
-/

namespace Burnout3Recompiled

namespace R5900InstructionSite

/-- The word of the site encodes a startup instruction. -/
def IsStartup (site : R5900InstructionSite) : Prop :=
  ∃ instruction : StartupInstruction, instruction.Encodes site.decoded.raw

end R5900InstructionSite

/-- The first site of a block outside the startup instruction set. -/
structure FirstOutside (block : R5900BasicBlock) (before : List R5900InstructionSite)
    (site : R5900InstructionSite) : Prop where
  split : ∃ after, block.instructions = before ++ site :: after
  startup : ∀ earlier ∈ before, earlier.IsStartup
  outside : ¬site.IsStartup

section Sites

variable {site : R5900InstructionSite} {block : R5900BasicBlock}
  {before otherBefore sites rest : List R5900InstructionSite}
  {other : R5900InstructionSite}

theorem lowers_iff_isStartup (decoded : site.decoded = decodeR5900 site.decoded.raw) :
    site.Lowers ↔ site.IsStartup := by
  unfold R5900InstructionSite.Lowers
  rw [decoded, lowerR5900Instruction_ok_iff]
  rfl

theorem isStartup_iff_eligible (decoded : site.decoded = decodeR5900 site.decoded.raw) :
    site.IsStartup ↔ isDispatcherV0Eligible site.decoded.instruction = true ∧
      ¬IsUnsupportedCtc1 site.decoded.raw := by
  rw [← lowers_iff_isStartup decoded]
  unfold R5900InstructionSite.Lowers
  rw [decoded, lowerR5900Instruction_ok_iff_eligible, decodeR5900_raw]

/-- An unsupported CTC1 is eligible all the same. -/
theorem eligible_of_isUnsupportedCtc1
    (decoded : site.decoded = decodeR5900 site.decoded.raw)
    (ctc1 : IsUnsupportedCtc1 site.decoded.raw) :
    isDispatcherV0Eligible site.decoded.instruction = true ∧ ¬site.IsStartup := by
  have named := (isUnsupportedCtc1_iff.mp ctc1).1
  rw [← decoded] at named
  refine ⟨by rw [named]; rfl, ?_⟩
  intro startup
  exact ((isStartup_iff_eligible decoded).mp startup).2 ctc1

theorem not_isStartup_of_boundary
    (decoded : site.decoded = decodeR5900 site.decoded.raw)
    {reason : R5900DispatchStopReason}
    (stops : site.decoded.dispatchBoundary = some reason) : ¬site.IsStartup := by
  intro startup
  have eligible := ((isStartup_iff_eligible decoded).mp startup).1
  rw [decoded] at eligible stops
  rw [dispatchBoundary_eq_none_iff.mpr eligible] at stops
  cases stops

/-- The elements before the first failure of a property. -/
theorem takeWhile_of_firstFailure {α : Type*} {keeps : α → Prop} [DecidablePred keeps]
    {first last : List α} {failure : α} (kept : ∀ item ∈ first, keeps item)
    (fails : ¬keeps failure) :
    (first ++ failure :: last).takeWhile (fun item => decide (keeps item)) = first := by
  rw [List.takeWhile_append_of_pos (by simpa using kept),
    List.takeWhile_cons_of_neg (by simpa using fails), List.append_nil]

theorem FirstOutside.unique (first : FirstOutside block before site)
    (second : FirstOutside block otherBefore other) :
    before = otherBefore ∧ site = other := by
  classical
  obtain ⟨after, split⟩ := first.split
  obtain ⟨otherAfter, otherSplit⟩ := second.split
  have joined : before ++ site :: after = otherBefore ++ other :: otherAfter :=
    split.symm.trans otherSplit
  have firstRun : (before ++ site :: after).takeWhile _ = before :=
    takeWhile_of_firstFailure first.startup first.outside
  have secondRun : (otherBefore ++ other :: otherAfter).takeWhile _ = otherBefore :=
    takeWhile_of_firstFailure second.startup second.outside
  rw [joined, secondRun] at firstRun
  subst firstRun
  exact ⟨rfl, (List.cons.inj (List.append_cancel_left joined)).1⟩

end Sites

section Chunks

variable (memory : Ps2MemoryMap) (dispatcher : R5900BlockDispatcher)
  (os : Nat → ExecutablePageOutcome) (startPc : BitVec 32) (maxBlocks : Nat)

/-- How many instructions stand before a chunk. -/
def chunkStart (options : R5900BlockDispatcherOptions) (chunk : Nat) : Nat :=
  options.blockOptions.maxInstructions * chunk

/-- The block analysed for a chunk. -/
def ChunkBlock (chunk : Nat) (block : R5900BasicBlock) : Prop :=
  analyzeR5900BasicBlock memory
    (instructionPc startPc (chunkStart dispatcher.options chunk))
    dispatcher.options.blockOptions = .ok block

/-- A native block can be had for the leading sites of a chunk: the system lets
it be made, the dispatcher came with it, or an earlier chunk stood at the same
PC. -/
def NativeAvailable (chunk : Nat) (sites : List R5900InstructionSite) : Prop :=
  os chunk = .success ∨
    dispatcher.cache.Holds (instructionPc startPc (chunkStart dispatcher.options chunk))
      (siteWords sites) ∨
    ∃ earlier < chunk, instructionPc startPc (chunkStart dispatcher.options earlier) =
      instructionPc startPc (chunkStart dispatcher.options chunk)

/-- The whole chunk can be executed. -/
def Completes (chunk : Nat) : Prop :=
  ∃ block, ChunkBlock memory dispatcher startPc chunk block ∧
    (∀ site ∈ block.instructions, site.IsStartup) ∧
    NativeAvailable dispatcher os startPc chunk block.instructions

/-- The run comes to a chunk: there is budget for it and all earlier chunks can
be executed. -/
def ComesTo (chunk : Nat) : Prop :=
  chunk < maxBlocks ∧ ∀ earlier < chunk, Completes memory dispatcher os startPc earlier

/-- How a run stops at a chunk: the reason, the next PC and the number of executed
instructions. -/
inductive StopsAt (chunk : Nat) : R5900DispatchStopReason → BitVec 32 → Nat → Prop
  | analysisFails {failure : R5900ControlFlowFailure}
      (analyzed : analyzeR5900BasicBlock memory
        (instructionPc startPc (chunkStart dispatcher.options chunk))
        dispatcher.options.blockOptions = .error failure) :
      StopsAt chunk .analysisFailure
        (instructionPc startPc (chunkStart dispatcher.options chunk))
        (chunkStart dispatcher.options chunk)
  | boundary {block : R5900BasicBlock} {before : List R5900InstructionSite}
      {site : R5900InstructionSite} {reason : R5900DispatchStopReason}
      (analyzed : ChunkBlock memory dispatcher startPc chunk block)
      (first : FirstOutside block before site)
      (stops : site.decoded.dispatchBoundary = some reason)
      (available : before ≠ [] → NativeAvailable dispatcher os startPc chunk before) :
      StopsAt chunk reason
        (instructionPc startPc (chunkStart dispatcher.options chunk + before.length))
        (chunkStart dispatcher.options chunk + before.length)
  | loweringFails {block : R5900BasicBlock} {before : List R5900InstructionSite}
      {site : R5900InstructionSite}
      (analyzed : ChunkBlock memory dispatcher startPc chunk block)
      (first : FirstOutside block before site)
      (ctc1 : IsUnsupportedCtc1 site.decoded.raw) :
      StopsAt chunk .loweringFailure
        (instructionPc startPc (chunkStart dispatcher.options chunk + before.length))
        (chunkStart dispatcher.options chunk)
  | compileFails {block : R5900BasicBlock} {sites rest : List R5900InstructionSite}
      (analyzed : ChunkBlock memory dispatcher startPc chunk block)
      (nonempty : sites ≠ []) (split : block.instructions = sites ++ rest)
      (startup : ∀ site ∈ sites, site.IsStartup)
      (stops : rest = [] ∨ ∃ site reason, FirstOutside block sites site ∧
        site.decoded.dispatchBoundary = some reason)
      (unavailable : ¬NativeAvailable dispatcher os startPc chunk sites) :
      StopsAt chunk .compileFailure
        (instructionPc startPc (chunkStart dispatcher.options chunk))
        (chunkStart dispatcher.options chunk)
  | budget (completes : Completes memory dispatcher os startPc chunk)
      (last : chunk + 1 = maxBlocks) :
      StopsAt chunk .blockBudgetExhausted
        (instructionPc startPc (chunkStart dispatcher.options (chunk + 1)))
        (chunkStart dispatcher.options (chunk + 1))

end Chunks

section Candidates

variable {memory : Ps2MemoryMap} {options : R5900BlockDispatcherOptions} {pc : BitVec 32}
  {block : R5900BasicBlock} {rest : List R5900InstructionSite}
  {candidate : DispatchCandidate}

theorem decoded_of_analyzed {site : R5900InstructionSite}
    (analyzed : analyzeR5900BasicBlock memory pc options.blockOptions = .ok block)
    (member : site ∈ block.instructions) :
    site.decoded = decodeR5900 site.decoded.raw :=
  (analyzeR5900BasicBlock_fetched analyzed).decoded_of_mem member

/-- The first site that cannot be lowered is the first one outside the set. -/
theorem firstOutside_of_lower {before after : List R5900InstructionSite}
    {site : R5900InstructionSite}
    (analyzed : analyzeR5900BasicBlock memory pc options.blockOptions = .ok block)
    (split : block.instructions = before ++ site :: after)
    (lower : ∀ earlier ∈ before, earlier.Lowers) (fails : ¬site.Lowers) :
    FirstOutside block before site := by
  have decoded : ∀ other ∈ before ++ site :: after,
      other.decoded = decodeR5900 other.decoded.raw := by
    intro other member
    rw [← split] at member
    exact decoded_of_analyzed analyzed member
  refine ⟨⟨after, split⟩, ?_, ?_⟩
  · intro earlier member
    exact (lowers_iff_isStartup (decoded earlier (by simp [member]))).mp
      (lower earlier member)
  · exact mt (lowers_iff_isStartup (decoded site (by simp))).mpr fails

namespace CandidateAt

theorem startup_of_lower (found : CandidateAt memory options pc block rest candidate)
    (lower : ∀ site ∈ candidate.sites, site.Lowers) :
    ∀ site ∈ candidate.sites, site.IsStartup := by
  intro site member
  have decoded := found.fetched.decoded_of_mem member
  exact (lowers_iff_isStartup decoded).mp (lower site member)

/-- A candidate of startup instructions takes the whole block or ends in front of
the first site outside the set. -/
theorem ends (found : CandidateAt memory options pc block rest candidate)
    (startup : ∀ site ∈ candidate.sites, site.IsStartup) :
    (rest = [] ∧ candidate.boundary = none) ∨
      ∃ site reason, FirstOutside block candidate.sites site ∧
        site.decoded.dispatchBoundary = some reason ∧
        candidate.boundary =
          some (reason, instructionPc pc candidate.sites.length) := by
  have stops := found.stops
  have split := found.split
  have fetched := analyzeR5900BasicBlock_fetched found.analyzed
  generalize candidate.boundary = boundary at stops ⊢
  cases stops with
  | atEnd => exact .inl ⟨rfl, rfl⟩
  | @atSite site after reason stops =>
      have member : site ∈ block.instructions := by simp [split]
      have outside :=
        not_isStartup_of_boundary (decoded_of_analyzed found.analyzed member) stops
      rw [split] at fetched
      rw [fetched.pc_middle]
      exact .inr ⟨site, reason, ⟨⟨after, split⟩, startup, outside⟩, stops, rfl⟩

theorem instructions_eq (found : CandidateAt memory options pc block [] candidate) :
    block.instructions = candidate.sites := by
  rw [found.split, List.append_nil]

theorem chunkStart_succ (found : CandidateAt memory options pc block [] candidate)
    (chunk : Nat) :
    chunkStart options (chunk + 1) = chunkStart options chunk + candidate.sites.length := by
  rw [chunkStart, chunkStart, found.full rfl, Nat.mul_succ]

theorem takes_all (found : CandidateAt memory options pc block rest candidate)
    (startup : ∀ site ∈ block.instructions, site.IsStartup) :
    candidate.sites = block.instructions := by
  have candidateStartup : ∀ site ∈ candidate.sites, site.IsStartup := by
    intro site member
    exact startup site (by rw [found.split]; exact List.mem_append_left _ member)
  rcases found.ends candidateStartup with ⟨none, -⟩ | ⟨site, reason, first, -⟩
  · rw [found.split, none, List.append_nil]
  · obtain ⟨after, split⟩ := first.split
    exact absurd (startup site (by simp [split])) first.outside

end CandidateAt

end Candidates

section Chunk

variable (memory : Ps2MemoryMap) (dispatcher : R5900BlockDispatcher)
  (os : Nat → ExecutablePageOutcome) (startPc : BitVec 32) (maxBlocks : Nat)

/-- The loop of a run when it has executed all chunks before the current one.
The cache differs from the dispatcher's at the PCs of those chunks only, and
holds their blocks. -/
structure AtChunk (loop : DispatchLoop) : Prop where
  comesTo : ComesTo memory dispatcher os startPc maxBlocks loop.result.blocksExecuted
  valid : loop.cache.Valid
  instructions : loop.result.instructionsExecuted =
    chunkStart dispatcher.options loop.result.blocksExecuted
  currentPc : loop.currentPc =
    instructionPc startPc (chunkStart dispatcher.options loop.result.blocksExecuted)
  untouched : ∀ pc, (∀ earlier < loop.result.blocksExecuted,
      instructionPc startPc (chunkStart dispatcher.options earlier) ≠ pc) →
    loop.cache.lookup pc = dispatcher.cache.lookup pc
  held : ∀ earlier < loop.result.blocksExecuted, ∀ block,
    ChunkBlock memory dispatcher startPc earlier block →
      loop.cache.Holds (instructionPc startPc (chunkStart dispatcher.options earlier))
        (siteWords block.instructions)

variable {memory dispatcher os startPc maxBlocks}

namespace AtChunk

variable {loop next final : DispatchLoop} {block : R5900BasicBlock}
  {rest : List R5900InstructionSite} {candidate : DispatchCandidate}

theorem start (valid : dispatcher.cache.Valid) (state : R5900IrExecutionState)
    (positive : maxBlocks ≠ 0) :
    AtChunk memory dispatcher os startPc maxBlocks
      (dispatcher.startLoop startPc state) where
  comesTo := ⟨Nat.pos_of_ne_zero positive, fun _ none => absurd none (Nat.not_lt_zero _)⟩
  valid := valid
  instructions := rfl
  currentPc := (instructionPc_zero startPc).symm
  untouched := fun _ _ => rfl
  held := fun _ none => absurd none (Nat.not_lt_zero _)

/-- The cache of the loop serves exactly what the code and the dispatcher's cache
promise. -/
theorem available_iff (atChunk : AtChunk memory dispatcher os startPc maxBlocks loop)
    (found : CandidateAt memory dispatcher.options loop.currentPc block rest candidate) :
    (os loop.result.blocksExecuted = .success ∨
        loop.cache.Holds loop.currentPc candidate.guestWords) ↔
      NativeAvailable dispatcher os startPc loop.result.blocksExecuted
        candidate.sites := by
  have currentPc := atChunk.currentPc
  rw [NativeAvailable, ← currentPc, found.words]
  by_cases revisited : ∃ earlier < loop.result.blocksExecuted,
      instructionPc startPc (chunkStart dispatcher.options earlier) = loop.currentPc
  · obtain ⟨earlier, before, samePc⟩ := revisited
    obtain ⟨earlierBlock, analyzed, startup, -⟩ := atChunk.comesTo.2 earlier before
    have held := atChunk.held earlier before earlierBlock analyzed
    rw [ChunkBlock, samePc, found.analyzed] at analyzed
    obtain rfl := Except.ok.inj analyzed
    rw [samePc, ← found.takes_all startup] at held
    exact ⟨fun _ => .inr (.inr ⟨earlier, before, samePc⟩), fun _ => .inr held⟩
  · have same := atChunk.untouched loop.currentPc
      fun earlier before samePc => revisited ⟨earlier, before, samePc⟩
    rw [or_iff_left revisited]
    constructor
    · exact Or.imp_right (.of_lookup_eq same.symm)
    · exact Or.imp_right (.of_lookup_eq same)

theorem chunkBlock (atChunk : AtChunk memory dispatcher os startPc maxBlocks loop)
    (found : CandidateAt memory dispatcher.options loop.currentPc block rest candidate) :
    ChunkBlock memory dispatcher startPc loop.result.blocksExecuted block := by
  rw [ChunkBlock, ← atChunk.currentPc]
  exact found.analyzed

theorem completes (atChunk : AtChunk memory dispatcher os startPc maxBlocks loop)
    (found : CandidateAt memory dispatcher.options loop.currentPc block [] candidate)
    (startup : ∀ site ∈ candidate.sites, site.IsStartup)
    (available : NativeAvailable dispatcher os startPc loop.result.blocksExecuted
      candidate.sites) :
    Completes memory dispatcher os startPc loop.result.blocksExecuted := by
  refine ⟨block, atChunk.chunkBlock found, ?_, ?_⟩
  · rwa [found.instructions_eq]
  · rwa [found.instructions_eq]

section Cache

variable {cache : BlockCache}

/-- A cache that differs at the current PC only leaves the PCs of no chunk alone. -/
theorem untouched_of_others
    (atChunk : AtChunk memory dispatcher os startPc maxBlocks loop)
    (others : ∀ pc ≠ loop.currentPc, cache.lookup pc = loop.cache.lookup pc) (pc : BitVec 32)
    (elsewhere : ∀ earlier < loop.result.blocksExecuted + 1,
      instructionPc startPc (chunkStart dispatcher.options earlier) ≠ pc) :
    cache.lookup pc = dispatcher.cache.lookup pc := by
  have different : pc ≠ loop.currentPc := by
    rw [atChunk.currentPc]
    exact (elsewhere _ (Nat.lt_succ_self _)).symm
  rw [← atChunk.untouched pc fun earlier before =>
    elsewhere earlier (Nat.lt_succ_of_lt before)]
  exact others pc different

/-- With the block of the current chunk it holds the blocks of all chunks so far. -/
theorem held_of_others (atChunk : AtChunk memory dispatcher os startPc maxBlocks loop)
    (found : CandidateAt memory dispatcher.options loop.currentPc block [] candidate)
    (holds : cache.Holds loop.currentPc candidate.guestWords)
    (others : ∀ pc ≠ loop.currentPc, cache.lookup pc = loop.cache.lookup pc) (earlier : Nat)
    (before : earlier < loop.result.blocksExecuted + 1) (earlierBlock : R5900BasicBlock)
    (analyzed : ChunkBlock memory dispatcher startPc earlier earlierBlock) :
    cache.Holds (instructionPc startPc (chunkStart dispatcher.options earlier))
      (siteWords earlierBlock.instructions) := by
  by_cases samePc : instructionPc startPc (chunkStart dispatcher.options earlier) =
      loop.currentPc
  · rw [ChunkBlock, samePc, found.analyzed] at analyzed
    obtain rfl := Except.ok.inj analyzed
    rw [samePc, found.instructions_eq, ← found.words]
    exact holds
  · have earlierChunk : earlier < loop.result.blocksExecuted := by
      rcases Nat.lt_succ_iff_lt_or_eq.mp before with smaller | rfl
      · exact smaller
      · exact absurd atChunk.currentPc.symm samePc
    exact .of_lookup_eq (others _ samePc)
      (atChunk.held earlier earlierChunk earlierBlock analyzed)

end Cache

/-- Executing the whole chunk leads to the start of the next one. -/
theorem goesOn {addF32 : BitVec 32 → BitVec 32 → BitVec 32}
    (atChunk : AtChunk memory dispatcher os startPc maxBlocks loop)
    (continues : dispatchStep addF32 memory dispatcher.options maxBlocks os loop =
      .continues next) :
    AtChunk memory dispatcher os startPc maxBlocks next := by
  have inside := atChunk.comesTo.1
  have progress := dispatchBlock_continues continues
  have room : next.result.blocksExecuted < maxBlocks := by omega
  obtain ⟨block, rest, candidate, prepared, found, boundaryless, preparation, rfl⟩ :=
    exists_prepared_of_continues addF32 memory dispatcher.options maxBlocks atChunk.valid
      continues
  have run := executed_of_ready addF32 memory dispatcher.options found preparation
  have blocks := run.blocksExecuted
  have instructions := run.instructionsExecuted
  cases preparation with
  | ready lower compiled available valid holds others progress =>
      have startup := found.startup_of_lower lower
      have whole : rest = [] := by
        rcases found.ends startup with ⟨none, -⟩ | ⟨site, reason, -, -, stops⟩
        · exact none
        · rw [boundaryless] at stops
          cases stops
      subst whole
      have completes :=
        atChunk.completes found startup ((atChunk.available_iff found).mp available)
      have behind := found.chunkStart_succ loop.result.blocksExecuted
      refine ⟨⟨room, ?_⟩, valid, ?_, ?_, ?_, ?_⟩
      · rw [blocks]
        intro earlier before
        rcases Nat.lt_succ_iff_lt_or_eq.mp before with earlierChunk | rfl
        · exact atChunk.comesTo.2 earlier earlierChunk
        · exact completes
      · rw [instructions, blocks, behind, atChunk.instructions]
      · rw [run.currentPc, blocks, behind, atChunk.currentPc, instructionPc_add]
      · rw [blocks]
        exact atChunk.untouched_of_others others
      · rw [blocks]
        exact atChunk.held_of_others found holds others

/-- A selection that finds no candidate. -/
theorem stopsAt_rejected {stop : DispatchStop}
    (atChunk : AtChunk memory dispatcher os startPc maxBlocks loop)
    (selected : SelectionAt memory dispatcher.options loop.currentPc (.error stop)) :
    StopsAt memory dispatcher os startPc maxBlocks loop.result.blocksExecuted stop.reason
      stop.nextPc loop.result.instructionsExecuted := by
  have currentPc := atChunk.currentPc
  rw [atChunk.instructions]
  cases selected with
  | analysisFails analyzed =>
      rw [currentPc] at analyzed ⊢
      exact .analysisFails analyzed
  | @stopsAtOnce block site rest reason analyzed first stops =>
      have outside := not_isStartup_of_boundary
        (decoded_of_analyzed analyzed (by simp [first])) stops
      have firstOutside : FirstOutside block [] site :=
        ⟨⟨rest, first⟩, by simp, outside⟩
      rw [currentPc] at analyzed ⊢
      exact .boundary analyzed firstOutside stops (absurd rfl)

/-- A candidate for which no native block can be had. -/
theorem stopsAt_unprepared {stopped : R5900DispatchResult}
    (atChunk : AtChunk memory dispatcher os startPc maxBlocks loop)
    (found : CandidateAt memory dispatcher.options loop.currentPc block rest candidate)
    (preparation : PreparationOf (os loop.result.blocksExecuted) loop.currentPc candidate
      loop.cache loop.result (.error stopped)) :
    StopsAt memory dispatcher os startPc maxBlocks loop.result.blocksExecuted
      stopped.reason stopped.nextPc stopped.instructionsExecuted := by
  have analyzed := atChunk.chunkBlock found
  have currentPc := atChunk.currentPc
  cases preparation with
  | @loweringFails failurePc message _ lowered progress =>
      have reason : stopped.reason = .loweringFailure := congrArg (·.reason) progress
      have nextPc : stopped.nextPc = failurePc := congrArg (·.nextPc) progress
      have instructions : stopped.instructionsExecuted = loop.result.instructionsExecuted :=
        congrArg (·.instructionsExecuted) progress
      rcases lower_or_firstFailure candidate.sites with
        lower | ⟨before, site, after, split, lower, fails⟩
      · rw [lowerSites_eq_ok lower] at lowered
        cases lowered
      · have fetched := found.fetched
        have eligible := found.eligible site (by simp [split])
        have siteDecoded := fetched.decoded_of_mem (by simp [split] : site ∈ candidate.sites)
        have blockSplit : block.instructions = before ++ site :: (after ++ rest) := by
          rw [found.split, split, List.append_assoc, List.cons_append]
        have first := firstOutside_of_lower found.analyzed blockSplit lower fails
        have ctc1 : IsUnsupportedCtc1 site.decoded.raw := by
          by_contra supported
          exact first.outside
            ((isStartup_iff_eligible siteDecoded).mpr ⟨eligible, supported⟩)
        rw [split] at fetched lowered
        rw [lowerSites_eq_error lower fails] at lowered
        obtain ⟨rfl, -⟩ := Prod.mk.inj (Except.error.inj lowered)
        rw [reason, nextPc, instructions, atChunk.instructions, fetched.pc_middle, currentPc,
          instructionPc_add]
        exact .loweringFails analyzed first ctc1
  | compileFails lower unavailable progress =>
      have reason : stopped.reason = .compileFailure := congrArg (·.reason) progress
      have nextPc : stopped.nextPc = loop.currentPc := congrArg (·.nextPc) progress
      have instructions : stopped.instructionsExecuted = loop.result.instructionsExecuted :=
        congrArg (·.instructionsExecuted) progress
      have startup := found.startup_of_lower lower
      rw [atChunk.available_iff found] at unavailable
      rw [reason, nextPc, instructions, atChunk.instructions, currentPc]
      refine .compileFails analyzed found.nonempty found.split startup ?_ unavailable
      rcases found.ends startup with ⟨none, -⟩ | ⟨site, reason, first, stops, -⟩
      · exact .inl none
      · exact .inr ⟨site, reason, first, stops⟩

/-- A candidate that is executed and ends the run. -/
theorem stopsAt_executed {addF32 : BitVec 32 → BitVec 32 → BitVec 32}
    {prepared : PreparedBlock}
    (atChunk : AtChunk memory dispatcher os startPc maxBlocks loop)
    (found : CandidateAt memory dispatcher.options loop.currentPc block rest candidate)
    (preparation : PreparationOf (os loop.result.blocksExecuted) loop.currentPc candidate
      loop.cache loop.result (.ok prepared))
    (stopped : afterBlock maxBlocks candidate.boundary
      (loop.execute addF32 candidate prepared) = .stopped final) :
    StopsAt memory dispatcher os startPc maxBlocks loop.result.blocksExecuted
      final.result.reason final.result.nextPc final.result.instructionsExecuted := by
  have analyzed := atChunk.chunkBlock found
  have run := executed_of_ready addF32 memory dispatcher.options found preparation
  have blocks := run.blocksExecuted
  have instructions := run.instructionsExecuted
  have nextPc := run.nextPc
  cases preparation with
  | ready lower compiled available valid holds others progress =>
      have startup := found.startup_of_lower lower
      have native := (atChunk.available_iff found).mp available
      unfold afterBlock at stopped
      rcases found.ends startup with
        ⟨rfl, boundary⟩ | ⟨site, reason, first, stops, boundary⟩
      · rw [boundary] at stopped
        simp only at stopped
        split at stopped
        · next spent =>
            obtain rfl := StepOutcome.stopped.inj stopped
            have behind := found.chunkStart_succ loop.result.blocksExecuted
            simp only [nextPc, instructions, atChunk.instructions, atChunk.currentPc,
              instructionPc_add, ← behind]
            exact .budget (atChunk.completes found startup native) (blocks ▸ spent)
        · cases stopped
      · rw [boundary] at stopped
        obtain rfl := StepOutcome.stopped.inj stopped
        simp only [instructions, atChunk.instructions, atChunk.currentPc, instructionPc_add]
        exact .boundary analyzed first stops fun _ => native

theorem stopsAt {addF32 : BitVec 32 → BitVec 32 → BitVec 32}
    (atChunk : AtChunk memory dispatcher os startPc maxBlocks loop)
    (stopped : dispatchStep addF32 memory dispatcher.options maxBlocks os loop =
      .stopped final) :
    StopsAt memory dispatcher os startPc maxBlocks loop.result.blocksExecuted
      final.result.reason final.result.nextPc final.result.instructionsExecuted := by
  have shape := stepOf_dispatchBlock addF32 memory dispatcher.options maxBlocks
    (os loop.result.blocksExecuted) atChunk.valid
  unfold dispatchStep at stopped
  generalize dispatchBlock addF32 memory dispatcher.options maxBlocks
    (os loop.result.blocksExecuted) loop = outcome at shape stopped
  cases shape with
  | rejected selected =>
      obtain rfl := StepOutcome.stopped.inj stopped
      exact atChunk.stopsAt_rejected selected
  | unprepared found preparation =>
      obtain rfl := StepOutcome.stopped.inj stopped
      exact atChunk.stopsAt_unprepared found preparation
  | executes found preparation => exact atChunk.stopsAt_executed found preparation stopped

end AtChunk

theorem not_completes_of_firstOutside {chunk : Nat} {block : R5900BasicBlock}
    {before : List R5900InstructionSite} {site : R5900InstructionSite}
    (analyzed : ChunkBlock memory dispatcher startPc chunk block)
    (first : FirstOutside block before site) :
    ¬Completes memory dispatcher os startPc chunk := by
  rintro ⟨other, otherAnalyzed, startup, -⟩
  obtain rfl : block = other := Except.ok.inj (analyzed.symm.trans otherAnalyzed)
  obtain ⟨after, split⟩ := first.split
  exact first.outside (startup site (by simp [split]))

/-- A run stops at a chunk it comes to, in the way the guest code decides. -/
theorem run_stopsAt (addF32 : BitVec 32 → BitVec 32 → BitVec 32)
    (valid : dispatcher.cache.Valid) (state : R5900IrExecutionState)
    (positive : maxBlocks ≠ 0) :
    ∃ chunk, ComesTo memory dispatcher os startPc maxBlocks chunk ∧
      StopsAt memory dispatcher os startPc maxBlocks chunk
        (dispatcher.run addF32 memory os startPc state maxBlocks).result.reason
        (dispatcher.run addF32 memory os startPc state maxBlocks).result.nextPc
        (dispatcher.run addF32 memory os startPc state
          maxBlocks).result.instructionsExecuted := by
  have run : StopsIn _ _ (dispatcher.run addF32 memory os startPc state maxBlocks) :=
    dispatcher.run_stopsIn addF32 memory os startPc state positive
  obtain ⟨last, atChunk, stopped⟩ :=
    run.exists_last (AtChunk memory dispatcher os startPc maxBlocks)
      (.start valid state positive) fun current next atChunk continues =>
        atChunk.goesOn continues
  exact ⟨_, atChunk.comesTo, atChunk.stopsAt stopped⟩

/-- A run does not come past a chunk it can stop at. -/
theorem StopsAt.le_of_comesTo {chunk other instructions : Nat}
    {reason : R5900DispatchStopReason} {nextPc : BitVec 32}
    (stops : StopsAt memory dispatcher os startPc maxBlocks chunk reason nextPc instructions)
    (comes : ComesTo memory dispatcher os startPc maxBlocks other) : other ≤ chunk := by
  by_contra beyond
  have completes := comes.2 chunk (Nat.lt_of_not_le beyond)
  have inside := comes.1
  cases stops with
  | analysisFails failed =>
      obtain ⟨block, analyzed, -⟩ := completes
      rw [ChunkBlock, failed] at analyzed
      cases analyzed
  | boundary analyzed first => exact not_completes_of_firstOutside analyzed first completes
  | loweringFails analyzed first =>
      exact not_completes_of_firstOutside analyzed first completes
  | compileFails analyzed nonempty split startup ends unavailable =>
      rcases ends with rfl | ⟨site, reason, first, -⟩
      · obtain ⟨block, otherAnalyzed, -, native⟩ := completes
        obtain rfl := Except.ok.inj (analyzed.symm.trans otherAnalyzed)
        rw [List.append_nil] at split
        rw [split] at native
        exact unavailable native
      · exact not_completes_of_firstOutside analyzed first completes
  | budget completes last => omega

/-- A run that comes to a chunk with a site outside the set stops there. -/
theorem StopsAt.eq_of_firstOutside {chunk other instructions : Nat}
    {reason : R5900DispatchStopReason} {nextPc : BitVec 32} {block : R5900BasicBlock}
    {before : List R5900InstructionSite} {site : R5900InstructionSite}
    (stops : StopsAt memory dispatcher os startPc maxBlocks chunk reason nextPc instructions)
    (stopComes : ComesTo memory dispatcher os startPc maxBlocks chunk)
    (comes : ComesTo memory dispatcher os startPc maxBlocks other)
    (analyzed : ChunkBlock memory dispatcher startPc other block)
    (first : FirstOutside block before site) : other = chunk := by
  refine Nat.le_antisymm (stops.le_of_comesTo comes) (Nat.le_of_not_lt fun passed => ?_)
  exact not_completes_of_firstOutside analyzed first (stopComes.2 other passed)

end Chunk

end Burnout3Recompiled
