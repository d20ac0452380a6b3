import Burnout3Recompiled.R5900DispatchStops

/-!
# Eligibility, lowering and the next PC

The table of eligible instructions and the lowering agree on every word but a
CTC1 that names another control register than 31.  A run that meets such a word
inside a candidate reports a lowering failure behind instructions it has not
executed.  Every other run reports the first instruction it cannot execute at its
own PC, and its next PC lies behind exactly the executed instructions.
-/

namespace Burnout3Recompiled

section Runs

variable (memory : Ps2MemoryMap) (dispatcher : R5900BlockDispatcher)
  (os : Nat → ExecutablePageOutcome) (startPc : BitVec 32) (maxBlocks : Nat)

/-- A run comes to a chunk that leaves the startup set at an unsupported CTC1,
right behind the sites `before`. -/
def MeetsCtc1 (chunk : Nat) (before : List R5900InstructionSite) : Prop :=
  ComesTo memory dispatcher os startPc maxBlocks chunk ∧
    ∃ block site, ChunkBlock memory dispatcher startPc chunk block ∧
      FirstOutside block before site ∧ IsUnsupportedCtc1 site.decoded.raw

/-- The boundary at which an instruction that cannot be lowered is reported. -/
def R5900DecodedInstruction.boundaryReason (decoded : R5900DecodedInstruction) :
    R5900DispatchStopReason :=
  if decoded.transfers then .controlFlow
  else if decoded.instructionClass = .system then .trap
  else .unsupportedInstruction

/-- No lowering failure is reported.  Where a chunk the run comes to holds an
instruction that cannot be lowered, the instructions before it are executed, given
a native block for them, and the first such instruction is the boundary. -/
def ReportsUnlowerable (result : R5900DispatchResult) : Prop :=
  result.reason ≠ .loweringFailure ∧
    ∀ chunk block before site after,
      ComesTo memory dispatcher os startPc maxBlocks chunk →
      ChunkBlock memory dispatcher startPc chunk block →
      block.instructions = before ++ site :: after →
      (∀ earlier ∈ before, earlier.Lowers) → ¬site.Lowers →
      (before ≠ [] → NativeAvailable dispatcher os startPc chunk before) →
      result.reason = site.decoded.boundaryReason ∧ result.nextPc = site.pc ∧
        result.instructionsExecuted =
          chunkStart dispatcher.options chunk + before.length

variable {memory dispatcher os startPc maxBlocks}

theorem boundaryReason_of_boundary {decoded : R5900DecodedInstruction}
    {reason : R5900DispatchStopReason} (stops : decoded.dispatchBoundary = some reason) :
    reason = decoded.boundaryReason := by
  unfold R5900DecodedInstruction.dispatchBoundary at stops
  unfold R5900DecodedInstruction.boundaryReason
  split at stops
  · next transfers => rw [if_pos transfers, Option.some.inj stops]
  · next stays =>
      rw [if_neg stays]
      split at stops
      · next system => rw [if_pos system, Option.some.inj stops]
      · next user =>
          rw [if_neg user]
          split at stops
          · cases stops
          · exact (Option.some.inj stops).symm

theorem FirstOutside.mem {block : R5900BasicBlock} {before : List R5900InstructionSite}
    {site : R5900InstructionSite} (first : FirstOutside block before site) :
    site ∈ block.instructions := by
  obtain ⟨after, split⟩ := first.split
  simp [split]

theorem FirstOutside.pc {chunk : Nat} {block : R5900BasicBlock}
    {before : List R5900InstructionSite} {site : R5900InstructionSite}
    (analyzed : ChunkBlock memory dispatcher startPc chunk block)
    (first : FirstOutside block before site) :
    site.pc = instructionPc startPc
      (chunkStart dispatcher.options chunk + before.length) := by
  have fetched := analyzeR5900BasicBlock_fetched analyzed
  obtain ⟨after, split⟩ := first.split
  rw [split] at fetched
  rw [fetched.pc_middle, instructionPc_add]

/-- The first site outside the set cannot stand at the PC of its block unless the
block begins with it. -/
theorem FirstOutside.before_eq_nil {chunk : Nat} {block : R5900BasicBlock}
    {before : List R5900InstructionSite} {site : R5900InstructionSite}
    (analyzed : ChunkBlock memory dispatcher startPc chunk block)
    (first : FirstOutside block before site)
    (samePc : instructionPc startPc
        (chunkStart dispatcher.options chunk + before.length) =
      instructionPc startPc (chunkStart dispatcher.options chunk)) : before = [] := by
  have fetched := analyzeR5900BasicBlock_fetched analyzed
  obtain ⟨after, split⟩ := first.split
  rw [split] at fetched
  have atSite := fetched.fetchSite_middle
  rw [instructionPc_add, samePc] at atSite
  cases before with
  | nil => rfl
  | cons head before =>
      have atHead := fetched.1
      rw [atSite] at atHead
      obtain rfl := Option.some.inj atHead
      exact absurd (first.startup site (.head _)) first.outside

/-- A stop that is not at an unsupported CTC1 is no lowering failure. -/
theorem StopsAt.reason_ne {chunk instructions : Nat} {reason : R5900DispatchStopReason}
    {nextPc : BitVec 32}
    (stops : StopsAt memory dispatcher os startPc maxBlocks chunk reason nextPc instructions)
    (comes : ComesTo memory dispatcher os startPc maxBlocks chunk)
    (never : ∀ before, ¬MeetsCtc1 memory dispatcher os startPc maxBlocks chunk before) :
    reason ≠ .loweringFailure := by
  cases stops with
  | analysisFails | compileFails | budget => simp
  | boundary analyzed first stops =>
      rcases dispatchBoundary_ne_failure stops with rfl | rfl | rfl <;> simp
  | loweringFails analyzed first ctc1 =>
      exact absurd ⟨comes, _, _, analyzed, first, ctc1⟩ (never _)

/-- Such a stop reports the first site outside the set. -/
theorem StopsAt.reports {chunk instructions : Nat} {reason : R5900DispatchStopReason}
    {nextPc : BitVec 32} {block : R5900BasicBlock} {before : List R5900InstructionSite}
    {site : R5900InstructionSite}
    (stops : StopsAt memory dispatcher os startPc maxBlocks chunk reason nextPc instructions)
    (comes : ComesTo memory dispatcher os startPc maxBlocks chunk)
    (never : ∀ before, ¬MeetsCtc1 memory dispatcher os startPc maxBlocks chunk before)
    (analyzed : ChunkBlock memory dispatcher startPc chunk block)
    (first : FirstOutside block before site)
    (available : before ≠ [] → NativeAvailable dispatcher os startPc chunk before) :
    reason = site.decoded.boundaryReason ∧ nextPc = site.pc ∧
      instructions = chunkStart dispatcher.options chunk + before.length := by
  have sitePc := first.pc analyzed
  cases stops with
  | analysisFails failed =>
      rw [ChunkBlock, failed] at analyzed
      cases analyzed
  | boundary otherAnalyzed otherFirst stops =>
      obtain rfl := Except.ok.inj (analyzed.symm.trans otherAnalyzed)
      obtain ⟨rfl, rfl⟩ := first.unique otherFirst
      exact ⟨boundaryReason_of_boundary stops, sitePc.symm, rfl⟩
  | loweringFails otherAnalyzed otherFirst ctc1 =>
      exact absurd ⟨comes, _, _, otherAnalyzed, otherFirst, ctc1⟩ (never _)
  | compileFails otherAnalyzed nonempty split startup ends unavailable =>
      obtain rfl := Except.ok.inj (analyzed.symm.trans otherAnalyzed)
      rcases ends with rfl | ⟨otherSite, reason, otherFirst, -⟩
      · have member := first.mem
        rw [split, List.append_nil] at member
        exact absurd (startup site member) first.outside
      · obtain ⟨rfl, -⟩ := first.unique otherFirst
        exact absurd (available nonempty) unavailable
  | budget completes =>
      exact absurd completes (not_completes_of_firstOutside analyzed first)

section Run

variable (addF32 : BitVec 32 → BitVec 32 → BitVec 32) (state : R5900IrExecutionState)

/-- The lowering failure of a run that meets an unsupported CTC1. -/
theorem run_of_meetsCtc1 (valid : dispatcher.cache.Valid) {chunk : Nat}
    {before : List R5900InstructionSite}
    (meets : MeetsCtc1 memory dispatcher os startPc maxBlocks chunk before) :
    let final := dispatcher.run addF32 memory os startPc state maxBlocks
    final.result.reason = .loweringFailure ∧
      final.result.nextPc = instructionPc startPc
        (chunkStart dispatcher.options chunk + before.length) ∧
      final.result.instructionsExecuted = chunkStart dispatcher.options chunk := by
  intro final
  obtain ⟨comes, block, site, analyzed, first, ctc1⟩ := meets
  have positive : maxBlocks ≠ 0 := Nat.ne_zero_of_lt comes.1
  obtain ⟨eligible, -⟩ :=
    eligible_of_isUnsupportedCtc1 (decoded_of_analyzed analyzed first.mem) ctc1
  have noBoundary : site.decoded.dispatchBoundary = none := by
    rw [decoded_of_analyzed analyzed first.mem] at eligible ⊢
    exact dispatchBoundary_eq_none_iff.mpr eligible
  obtain ⟨other, stopComes, stops⟩ := run_stopsAt addF32 valid state positive
  obtain rfl := stops.eq_of_firstOutside stopComes comes analyzed first
  change StopsAt memory dispatcher os startPc maxBlocks chunk final.result.reason
    final.result.nextPc final.result.instructionsExecuted at stops
  generalize final.result.reason = reason at stops ⊢
  generalize final.result.nextPc = nextPc at stops ⊢
  generalize final.result.instructionsExecuted = instructions at stops ⊢
  cases stops with
  | analysisFails failed =>
      rw [ChunkBlock, failed] at analyzed
      cases analyzed
  | boundary otherAnalyzed otherFirst stops =>
      obtain rfl := Except.ok.inj (analyzed.symm.trans otherAnalyzed)
      obtain ⟨-, rfl⟩ := first.unique otherFirst
      rw [noBoundary] at stops
      cases stops
  | loweringFails otherAnalyzed otherFirst =>
      obtain rfl := Except.ok.inj (analyzed.symm.trans otherAnalyzed)
      obtain ⟨rfl, -⟩ := first.unique otherFirst
      exact ⟨rfl, rfl, rfl⟩
  | compileFails otherAnalyzed nonempty split startup ends =>
      obtain rfl := Except.ok.inj (analyzed.symm.trans otherAnalyzed)
      rcases ends with rfl | ⟨otherSite, reason, otherFirst, stops⟩
      · rw [List.append_nil] at split
        have member := first.mem
        rw [split] at member
        exact absurd (startup site member) first.outside
      · obtain ⟨-, rfl⟩ := first.unique otherFirst
        rw [noBoundary] at stops
        cases stops
  | budget completes =>
      exact absurd completes (not_completes_of_firstOutside analyzed first)

/-- When the next PC lies behind the executed instructions. -/
theorem nextPc_iff (valid : dispatcher.cache.Valid) :
    let final := dispatcher.run addF32 memory os startPc state maxBlocks
    final.result.nextPc = instructionPc startPc final.result.instructionsExecuted ↔
      ∀ chunk before, MeetsCtc1 memory dispatcher os startPc maxBlocks chunk before →
        before = [] := by
  intro final
  constructor
  · intro agrees chunk before meets
    obtain ⟨-, nextPc, instructions⟩ := run_of_meetsCtc1 addF32 state valid meets
    obtain ⟨-, block, site, analyzed, first, -⟩ := meets
    rw [nextPc, instructions] at agrees
    exact first.before_eq_nil analyzed agrees
  · intro never
    by_cases positive : maxBlocks = 0
    · simp only [final, R5900BlockDispatcher.run, if_pos positive]
      exact (instructionPc_zero startPc).symm
    · obtain ⟨chunk, comes, stops⟩ := run_stopsAt addF32 valid state positive
      change StopsAt memory dispatcher os startPc maxBlocks chunk final.result.reason
        final.result.nextPc final.result.instructionsExecuted at stops
      generalize final.result.reason = reason at stops
      generalize final.result.nextPc = nextPc at stops ⊢
      generalize final.result.instructionsExecuted = instructions at stops ⊢
      cases stops with
      | analysisFails | boundary | compileFails | budget => rfl
      | loweringFails analyzed first ctc1 =>
          obtain rfl := never chunk _ ⟨comes, _, _, analyzed, first, ctc1⟩
          rfl

/-- When every instruction that cannot be lowered is reported as a boundary. -/
theorem reportsUnlowerable_iff (valid : dispatcher.cache.Valid) :
    ReportsUnlowerable memory dispatcher os startPc maxBlocks
        (dispatcher.run addF32 memory os startPc state maxBlocks).result ↔
      ∀ chunk before,
        ¬MeetsCtc1 memory dispatcher os startPc maxBlocks chunk before := by
  constructor
  · rintro ⟨noFailure, -⟩ chunk before meets
    exact noFailure (run_of_meetsCtc1 addF32 state valid meets).1
  · intro never
    by_cases positive : maxBlocks = 0
    · subst positive
      refine ⟨by simp [R5900BlockDispatcher.run, R5900DispatchResult.stop], ?_⟩
      intro chunk block before site after comes
      exact absurd comes.1 (Nat.not_lt_zero _)
    · obtain ⟨stopChunk, stopComes, stops⟩ := run_stopsAt addF32 valid state positive
      refine ⟨stops.reason_ne stopComes (never stopChunk), ?_⟩
      intro chunk block before site after comes analyzed split lower fails available
      have first := firstOutside_of_lower analyzed split lower fails
      obtain rfl := stops.eq_of_firstOutside stopComes comes analyzed first
      exact stops.reports comes (never chunk) analyzed first available

end Run

end Runs

theorem validated_of_ok {word pc : BitVec 32}
    (succeeds : (lowerR5900Instruction (decodeR5900 word) pc).ok = true) :
    ∀ ir ∈ (lowerR5900Instruction (decodeR5900 word) pc).instructions,
      ∀ index, validateR5900IrInstruction ir index = .ok () :=
  fun ir member _ => validateR5900IrInstruction_eq_ok_iff.mpr
    (lowerR5900Instruction_wellFormed succeeds ir member)

/-- The next PC of a run lies behind exactly the executed instructions, unless the
run comes to a chunk in which an unsupported CTC1 follows executable
instructions. -/
theorem run_nextPc_iff (addF32 : BitVec 32 → BitVec 32 → BitVec 32)
    (options : R5900BlockDispatcherOptions) (history : List DispatcherOperation)
    (memory : Ps2MemoryMap) (os : Nat → ExecutablePageOutcome) (startPc : BitVec 32)
    (state : R5900IrExecutionState) (maxBlocks : Nat) :
    let dispatcher := R5900BlockDispatcher.afterHistory addF32 options history
    let final := dispatcher.run addF32 memory os startPc state maxBlocks
    final.result.nextPc = instructionPc startPc final.result.instructionsExecuted ↔
      ∀ chunk before, MeetsCtc1 memory dispatcher os startPc maxBlocks chunk before →
        before = [] :=
  nextPc_iff addF32 state (R5900BlockDispatcher.afterHistory_valid addF32 options history).1

/-- A CTC1 behind a NOP, and a BREAK that ends their block. -/
def ctc1Memory : Ps2MemoryMap where
  regions := [⟨0x1000, 12, 5⟩]
  backingRegions :=
    [{ metadata := ⟨0x1000, 12, 5⟩
       bytes :=
        [0x00, 0x00, 0x00, 0x00] ++ [0x00, 0x00, 0xC0, 0x44] ++ [0x0D, 0x00, 0x00, 0x00]
       sized := rfl }]
  mirrored := mirrored_singleton

/-- The run stops behind the NOP and has not executed it. -/
theorem run_nextPc_ctc1Memory :
    let final := (R5900BlockDispatcher.afterHistory (fun lhs _ => lhs) {} []).run
      (fun lhs _ => lhs) ctc1Memory (fun _ => .success) 0x1000 {} 1
    final.result.nextPc = 0x1004 ∧ final.result.instructionsExecuted = 0 ∧
      final.result.nextPc ≠ instructionPc 0x1000 final.result.instructionsExecuted := by
  decide +kernel

/-- Eligibility is the success of lowering, with well-formed IR, for exactly the
words that are no unsupported CTC1.  A run reports the instructions it cannot
lower as boundaries, unless it comes to a chunk that leaves the startup set at an
unsupported CTC1. -/
theorem eligible_agrees_lowering_iff (addF32 : BitVec 32 → BitVec 32 → BitVec 32) :
    (∀ word pc : BitVec 32,
      ((isDispatcherV0Eligible (decodeR5900 word).instruction = true ↔
          (lowerR5900Instruction (decodeR5900 word) pc).ok = true) ∧
        ((lowerR5900Instruction (decodeR5900 word) pc).ok = true →
          ∀ ir ∈ (lowerR5900Instruction (decodeR5900 word) pc).instructions,
            ∀ index, validateR5900IrInstruction ir index = .ok ())) ↔
        ¬IsUnsupportedCtc1 word) ∧
    ∀ (options : R5900BlockDispatcherOptions) (history : List DispatcherOperation)
      (memory : Ps2MemoryMap) (os : Nat → ExecutablePageOutcome) (startPc : BitVec 32)
      (state : R5900IrExecutionState) (maxBlocks : Nat),
      let dispatcher := R5900BlockDispatcher.afterHistory addF32 options history
      ReportsUnlowerable memory dispatcher os startPc maxBlocks
          (dispatcher.run addF32 memory os startPc state maxBlocks).result ↔
        ∀ chunk before,
          ¬MeetsCtc1 memory dispatcher os startPc maxBlocks chunk before := by
  constructor
  · intro word pc
    rw [and_iff_left validated_of_ok, lowerR5900Instruction_ok_iff_eligible]
    constructor
    · rintro agrees ctc1
      have named := (isUnsupportedCtc1_iff.mp ctc1).1
      exact (agrees.mp (by rw [named]; rfl)).2 ctc1
    · intro supported
      rw [and_iff_left supported]
  · intro options history memory os startPc state maxBlocks
    exact reportsUnlowerable_iff addF32 state
      (R5900BlockDispatcher.afterHistory_valid addF32 options history).1

/-- The CTC1 is eligible, does not lower, and makes the run fail. -/
theorem eligible_disagrees_ctc1Memory :
    isDispatcherV0Eligible (decodeR5900 0x44C00000).instruction = true ∧
    (lowerR5900Instruction (decodeR5900 0x44C00000) 0x1004).ok = false ∧
    ((R5900BlockDispatcher.afterHistory (fun lhs _ => lhs) {} []).run
      (fun lhs _ => lhs) ctc1Memory (fun _ => .success) 0x1000 {} 1).result.reason =
        .loweringFailure := by
  decide +kernel

end Burnout3Recompiled
