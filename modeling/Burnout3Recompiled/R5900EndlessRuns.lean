import Burnout3Recompiled.R5900DispatchChunking
import Burnout3Recompiled.R5900SlicedRuns

/-!
# Endless runs

There are 2^30 aligned guest PCs, and straight-line code that runs over the end of
the address space goes on at its start.  A run that spends a budget of 2^30 blocks
has therefore seen every instruction it can come to, and no budget ends it; every
other run has stopped for good by then.
-/

namespace Burnout3Recompiled

/-- As many blocks as there are aligned guest PCs. -/
def decisiveBudget : Nat :=
  2 ^ 30

/-- Code in which no run from `startPc` finds an end. -/
structure EndlessCode (memory : Ps2MemoryMap) (options : R5900BlockDispatcherOptions)
    (startPc : BitVec 32) : Prop where
  chunks : options.blockOptions.maxInstructions ≠ 0
  aligned : startPc &&& 0x3 = 0
  lower : ∀ index, LowersAt memory options.blockOptions.requireExecutable
    (instructionPc startPc index)

/-- The PCs of straight-line code repeat. -/
theorem instructionPc_mod (startPc : BitVec 32) (index : Nat) :
    instructionPc startPc (index % decisiveBudget) = instructionPc startPc index := by
  unfold instructionPc
  congr 1
  apply BitVec.eq_of_toNat_eq
  rw [BitVec.toNat_ofNat, BitVec.toNat_ofNat, decisiveBudget]
  omega

section Runs

variable {addF32 : BitVec 32 → BitVec 32 → BitVec 32} {memory : Ps2MemoryMap}
  {dispatcher : R5900BlockDispatcher} {startPc : BitVec 32}
  {state : R5900IrExecutionState} {maxBlocks : Nat}

/-- Endless code leaves no way to stop but the budget. -/
theorem EndlessCode.exhausts (endless : EndlessCode memory dispatcher.options startPc)
    (valid : dispatcher.cache.Valid) (positive : maxBlocks ≠ 0) :
    (dispatcher.run addF32 memory (fun _ => .success) startPc state
      maxBlocks).result.reason = .blockBudgetExhausted := by
  obtain ⟨chunk, -, stops⟩ : ∃ chunk, _ ∧ StopsAt memory dispatcher (fun _ => .success)
      startPc maxBlocks chunk _ _ _ := run_stopsAt addF32 valid state positive
  have noneOutside : ∀ {block : R5900BasicBlock} {before : List R5900InstructionSite}
      {site : R5900InstructionSite}, ChunkBlock memory dispatcher startPc chunk block →
      ¬FirstOutside block before site := by
    intro block before site analyzed first
    have fetched := analyzeR5900BasicBlock_fetched analyzed
    obtain ⟨after, split⟩ := first.split
    rw [split] at fetched
    have atSite := fetched.fetchSite_middle
    rw [instructionPc_add] at atSite
    exact not_lowersAt_of_outside atSite first.outside (endless.lower _)
  generalize (dispatcher.run addF32 memory (fun _ => .success) startPc state
    maxBlocks).result.reason = reason at stops ⊢
  generalize (dispatcher.run addF32 memory (fun _ => .success) startPc state
    maxBlocks).result.nextPc = nextPc at stops
  generalize (dispatcher.run addF32 memory (fun _ => .success) startPc state
    maxBlocks).result.instructionsExecuted = count at stops
  cases stops with
  | analysisFails analyzed =>
      obtain ⟨ahead, -, fails⟩ := exists_not_lowersAt_of_analyzed endless.chunks
        (instructionPc_aligned endless.aligned _) analyzed
      rw [instructionPc_add] at fails
      exact absurd (endless.lower _) fails
  | boundary analyzed first => exact absurd first (noneOutside analyzed)
  | loweringFails analyzed first => exact absurd first (noneOutside analyzed)
  | compileFails analyzed nonempty split startup ends unavailable =>
      exact absurd (.inl rfl) unavailable
  | budget => rfl

/-- A run that spends a decisive budget has executed the instruction at every PC it
can come to. -/
theorem endlessCode_of_exhausted (valid : dispatcher.cache.Valid)
    (large : decisiveBudget ≤ maxBlocks)
    (exhausted : (dispatcher.run addF32 memory (fun _ => .success) startPc state
      maxBlocks).result.reason = .blockBudgetExhausted) :
    EndlessCode memory dispatcher.options startPc := by
  have positive : maxBlocks ≠ 0 := by
    rintro rfl
    exact absurd large (by decide)
  have refines := run_refinesInterpreter addF32 dispatcher memory (fun _ => .success) startPc
    state maxBlocks valid
  have lower := refines.lower
  obtain ⟨chunk, comes, stops⟩ : ∃ chunk, ComesTo memory dispatcher (fun _ => .success)
      startPc maxBlocks chunk ∧ StopsAt memory dispatcher (fun _ => .success) startPc
        maxBlocks chunk _ _ _ := run_stopsAt addF32 valid state positive
  rw [exhausted] at stops
  generalize (dispatcher.run addF32 memory (fun _ => .success) startPc state
    maxBlocks).result.instructionsExecuted = count at stops lower
  generalize (dispatcher.run addF32 memory (fun _ => .success) startPc state
    maxBlocks).result.nextPc = nextPc at stops
  cases stops with
  | boundary analyzed first stops =>
      rcases dispatchBoundary_ne_failure stops with same | same | same <;> cases same
  | budget completes last =>
      obtain ⟨block, analyzed, -⟩ := completes
      have chunks := maxInstructions_ne_zero_of_analyzed analyzed
      have firstAnalyzed : ∃ first, ChunkBlock memory dispatcher startPc 0 first := by
        cases chunk with
        | zero => exact ⟨block, analyzed⟩
        | succ chunk =>
            obtain ⟨first, firstAnalyzed, -⟩ := comes.2 0 (Nat.succ_pos chunk)
            exact ⟨first, firstAnalyzed⟩
      obtain ⟨first, firstAnalyzed⟩ := firstAnalyzed
      rw [ChunkBlock, chunkStart, Nat.mul_zero, instructionPc_zero] at firstAnalyzed
      have aligned := aligned_of_analyzed firstAnalyzed
      refine ⟨chunks, aligned, fun index => ?_⟩
      rw [← instructionPc_mod]
      apply lower
      have wraps : index % decisiveBudget < decisiveBudget :=
        Nat.mod_lt _ (by decide)
      have enough : maxBlocks ≤ chunkStart dispatcher.options (chunk + 1) := by
        rw [chunkStart, last]
        exact Nat.le_mul_of_pos_left _ (Nat.pos_of_ne_zero chunks)
      omega

end Runs

/-- Where a vector has room for the instruction limit, or no block is begun at all, every
run returns.  A run with the decisive budget then spends it exactly in endless code.  There
every budget is spent; everywhere else no larger budget changes anything.  A limit that no
vector holds ends every run from an aligned PC with an exception and no block executed. -/
theorem run_decisiveBudget (addF32 : BitVec 32 → BitVec 32 → BitVec 32)
    (options : R5900BlockDispatcherOptions) (history : List DispatcherOperation)
    (memory : Ps2MemoryMap) (startPc : BitVec 32) (state : R5900IrExecutionState)
    (maxSize : Nat) :
    let dispatcher := R5900BlockDispatcher.afterHistory addF32 options history
    let run := dispatcher.run addF32 memory (fun _ => .success) startPc state
    let call := dispatcher.runIn (.granting maxSize) addF32 memory (fun _ => .success) startPc
      state
    (options.blockOptions.maxInstructions ≤ maxSize ∨ startPc &&& 0x3 ≠ 0 →
      (∀ budget, call budget = .ok (run budget)) ∧
      ((run decisiveBudget).result.reason = .blockBudgetExhausted ↔
        EndlessCode memory options startPc) ∧
      (EndlessCode memory options startPc →
        ∀ budget, 1 ≤ budget → (run budget).result.reason = .blockBudgetExhausted) ∧
      (¬EndlessCode memory options startPc →
        ∀ budget, decisiveBudget ≤ budget → run budget = run decisiveBudget)) ∧
    (maxSize < options.blockOptions.maxInstructions → startPc &&& 0x3 = 0 →
      ∀ budget, 1 ≤ budget →
        call budget = .error ⟨.lengthError, dispatcher.startLoop startPc state⟩) := by
  intro dispatcher run call
  obtain ⟨valid, sameOptions⟩ :=
    R5900BlockDispatcher.afterHistory_valid addF32 options history
  have endless : EndlessCode memory options startPc → ∀ budget, 1 ≤ budget →
      (run budget).result.reason = .blockBudgetExhausted := by
    intro endless budget positive
    rw [← sameOptions] at endless
    exact endless.exhausts valid (Nat.ne_of_gt positive)
  have decides : (run decisiveBudget).result.reason = .blockBudgetExhausted →
      EndlessCode memory options startPc := by
    intro exhausted
    have endless := endlessCode_of_exhausted valid (Nat.le_refl _) exhausted
    rwa [sameOptions] at endless
  refine ⟨fun begins => ⟨fun budget => ?_, ⟨decides, fun code => endless code _ (by decide)⟩,
    endless, ?_⟩, ?_⟩
  · rcases begins with fits | unaligned
    · exact R5900BlockDispatcher.runIn_granting (sameOptions ▸ fits)
    · exact R5900BlockDispatcher.runIn_of_unaligned unaligned
  · intro ends budget large
    rcases Nat.eq_or_lt_of_le large with rfl | larger
    · rfl
    · have cut := run_cut addF32 memory valid startPc state
        (by decide : 1 ≤ decisiveBudget) (Nat.sub_pos_of_lt larger)
      rw [Nat.add_sub_cancel' large] at cut
      rcases cut with ⟨-, same⟩ | ⟨spent, -⟩
      · exact same
      · exact absurd (decides spent) ends
  · intro above aligned budget positive
    exact R5900BlockDispatcher.runIn_lengthError (sameOptions ▸ above) aligned
      (Nat.ne_of_gt positive)

end Burnout3Recompiled
