import Burnout3Recompiled.R5900DispatchRun

/-!
# The cache is transparent

Two runs from valid caches stay in step while the system answers every call:
each iteration selects the same candidate, and whether its block is cached,
stale or missing, both call the block compiled from the current guest words.
-/

namespace Burnout3Recompiled

section Transparency

variable (addF32 : BitVec 32 → BitVec 32 → BitVec 32) (memory : Ps2MemoryMap)
  (options : R5900BlockDispatcherOptions)

/-- A call of a block that was compiled from the words guest memory holds now. -/
def IsCurrent (call : BitVec 32 × R5900X64CompiledBlock) : Prop :=
  ∃ count, 0 < count ∧
    (∀ index < count, LowersAt memory options.blockOptions.requireExecutable
      (instructionPc call.1 index)) ∧
    compileR5900IrX64 .success (guestProgram memory call.1 count) = .ok call.2

/-- Two loops that differ in their caches and cache counters only. -/
structure InStep (warm cold : DispatchLoop) : Prop where
  warmValid : warm.cache.Valid
  coldValid : cold.cache.Valid
  result : warm.result.progress = cold.result.progress
  currentPc : warm.currentPc = cold.currentPc
  state : warm.state = cold.state
  called : warm.called = cold.called
  current : ∀ call ∈ warm.called, IsCurrent memory options call

variable {addF32 memory options} {warm cold warmRan coldRan : DispatchLoop}

namespace InStep

theorem of_result (inStep : InStep memory options warm cold)
    {warmResult coldResult : R5900DispatchResult}
    (same : warmResult.progress = coldResult.progress) :
    InStep memory options { warm with result := warmResult }
      { cold with result := coldResult } :=
  { inStep with result := same }

theorem executed (inStep : InStep memory options warm cold) {count : Nat}
    (warmValid : warmRan.cache.Valid) (coldValid : coldRan.cache.Valid)
    (warmRun : Executed addF32 memory options warm count warmRan)
    (coldRun : Executed addF32 memory options cold count coldRan) :
    InStep memory options warmRan coldRan := by
  obtain ⟨-, -, result, currentPc, state, called, current⟩ := inStep
  have blocks := congrArg (·.blocksExecuted) result
  have instructions := congrArg (·.instructionsExecuted) result
  simp only [R5900DispatchResult.progress] at blocks instructions
  obtain ⟨warmBlock, warmCompiled, warmCalled⟩ := warmRun.called
  obtain ⟨coldBlock, coldCompiled, coldCalled⟩ := coldRun.called
  have sameBlock : warmBlock = coldBlock := by
    rw [currentPc, coldCompiled] at warmCompiled
    exact (Except.ok.inj warmCompiled).symm
  refine ⟨warmValid, coldValid, ?_, ?_, ?_, ?_, ?_⟩
  · rw [warmRun.result, coldRun.result, result, blocks, instructions, currentPc]
  · rw [warmRun.currentPc, coldRun.currentPc, currentPc]
  · have executed := warmRun.state
    rw [currentPc, state, coldRun.state] at executed
    exact (Prod.mk.inj executed).2.symm
  · rw [warmCalled, coldCalled, called, currentPc, sameBlock]
  · intro call member
    rw [warmCalled] at member
    rcases List.mem_append.mp member with earlier | last
    · exact current call earlier
    · obtain rfl := List.mem_singleton.mp last
      exact ⟨count, warmRun.nonempty, warmRun.lower, warmCompiled⟩

end InStep

/-- The accounting after a block looks at nothing the two loops differ in. -/
theorem InStep.afterBlock (inStep : InStep memory options warm cold) (maxBlocks : Nat)
    (boundary : Option (R5900DispatchStopReason × BitVec 32)) :
    (afterBlock maxBlocks boundary warm).Related (InStep memory options)
      (afterBlock maxBlocks boundary cold) := by
  apply related_afterBlock maxBlocks inStep (congrArg (·.blocksExecuted) inStep.result)
  · intro reason nextPc
    exact inStep.of_result (congrArg
      (fun result => { result with reason := reason, nextPc := nextPc }) inStep.result)
  · intro reason
    exact inStep.of_result (congrArg
      (fun result => { result with reason := reason }) inStep.result)

/-- With the same candidate at hand both loops execute it or both stop. -/
theorem related_dispatchCandidate (inStep : InStep memory options warm cold)
    (maxBlocks : Nat) {block : R5900BasicBlock} {rest : List R5900InstructionSite}
    {candidate : DispatchCandidate}
    (found : CandidateAt memory options warm.currentPc block rest candidate) :
    StepOutcome.Related (InStep memory options)
      (dispatchCandidate addF32 maxBlocks .success warm candidate)
      (dispatchCandidate addF32 maxBlocks .success cold candidate) := by
  have coldFound := found
  rw [inStep.currentPc] at coldFound
  have warmPreparation : PreparationOf .success warm.currentPc candidate warm.cache
      warm.result _ := found.preparationOf inStep.warmValid rfl
  have coldPreparation : PreparationOf .success cold.currentPc candidate cold.cache
      cold.result _ := coldFound.preparationOf inStep.coldValid rfl
  unfold dispatchCandidate
  generalize prepareBlock .success warm.currentPc candidate warm.cache warm.result =
    warmOutcome at warmPreparation ⊢
  generalize prepareBlock .success cold.currentPc candidate cold.cache cold.result =
    coldOutcome at coldPreparation ⊢
  cases warmPreparation with
  | compileFails lower unavailable => exact absurd (.inl rfl) unavailable
  | loweringFails lowered progress =>
      cases coldPreparation with
      | compileFails lower unavailable => exact absurd (.inl rfl) unavailable
      | ready lower =>
          rw [lowerSites_eq_ok lower] at lowered
          cases lowered
      | loweringFails coldLowered coldProgress =>
          rw [lowered] at coldLowered
          obtain ⟨rfl, rfl⟩ := Prod.mk.inj (Except.error.inj coldLowered)
          apply StepOutcome.Related.stopped
          apply inStep.of_result
          rw [progress, coldProgress]
          exact progress_stop _ inStep.result
  | ready lower compiled available valid holds others progress =>
      have warmRun := executed_of_ready addF32 memory options found
        (.ready lower compiled available valid holds others progress)
      cases coldPreparation with
      | compileFails lower unavailable => exact absurd (.inl rfl) unavailable
      | loweringFails lowered =>
          rw [lowerSites_eq_ok lower] at lowered
          cases lowered
      | ready coldLower coldCompiled coldAvailable coldValid coldHolds coldOthers
          coldProgress =>
          have coldRun := executed_of_ready addF32 memory options coldFound
            (.ready coldLower coldCompiled coldAvailable coldValid coldHolds coldOthers
              coldProgress)
          exact (inStep.executed valid coldValid warmRun coldRun).afterBlock maxBlocks _

variable (addF32)

theorem related_dispatchBlock (inStep : InStep memory options warm cold) (maxBlocks : Nat) :
    StepOutcome.Related (InStep memory options)
      (dispatchBlock addF32 memory options maxBlocks .success warm)
      (dispatchBlock addF32 memory options maxBlocks .success cold) := by
  have selection : SelectionAt memory options warm.currentPc _ := selectionAt
  unfold dispatchBlock
  rw [← inStep.currentPc]
  cases selected : selectCandidate memory options warm.currentPc with
  | error stop =>
      have stopped := inStep.of_result (progress_stop stop inStep.result)
      rw [← inStep.currentPc] at stopped
      exact .stopped stopped
  | ok candidate =>
      rw [selected] at selection
      cases selection with
      | selects found => exact related_dispatchCandidate inStep maxBlocks found

end Transparency

/-- After any history a run reports what the same run on a fresh dispatcher
reports, leaves the same state and calls the same native blocks, each compiled
from the guest words of the moment. -/
theorem run_eq_fresh_run (addF32 : BitVec 32 → BitVec 32 → BitVec 32)
    (options : R5900BlockDispatcherOptions) (history : List DispatcherOperation)
    (memory : Ps2MemoryMap) (startPc : BitVec 32) (state : R5900IrExecutionState)
    (maxBlocks : Nat) :
    let used := (R5900BlockDispatcher.afterHistory addF32 options history).run addF32 memory
      (fun _ => .success) startPc state maxBlocks
    let fresh := ({ options := options } : R5900BlockDispatcher).run addF32 memory
      (fun _ => .success) startPc state maxBlocks
    used.result.reason = fresh.result.reason ∧ used.result.nextPc = fresh.result.nextPc ∧
    used.result.blocksExecuted = fresh.result.blocksExecuted ∧
    used.result.instructionsExecuted = fresh.result.instructionsExecuted ∧
    used.result.message = fresh.result.message ∧ used.state = fresh.state ∧
    used.called = fresh.called ∧ ∀ call ∈ used.called, IsCurrent memory options call := by
  intro used fresh
  obtain ⟨valid, sameOptions⟩ :=
    R5900BlockDispatcher.afterHistory_valid addF32 options history
  have start : ∀ {dispatcher : R5900BlockDispatcher}, dispatcher.cache.Valid →
      InStep memory options (dispatcher.startLoop startPc state)
        (({ options := options } : R5900BlockDispatcher).startLoop startPc state) := by
    intro dispatcher dispatcherValid
    exact ⟨dispatcherValid, BlockCache.valid_empty, rfl, rfl, rfl, rfl, by simp
      [R5900BlockDispatcher.startLoop]⟩
  have inStep : InStep memory options used fresh := by
    by_cases positive : maxBlocks = 0
    · simp only [used, fresh, R5900BlockDispatcher.run, if_pos positive]
      exact (start valid).of_result rfl
    · have usedRun : StopsIn _ _ used :=
        R5900BlockDispatcher.run_stopsIn addF32 _ memory _ startPc state positive
      have freshRun : StopsIn _ _ fresh :=
        R5900BlockDispatcher.run_stopsIn addF32 _ memory _ startPc state positive
      rw [sameOptions] at usedRun
      exact usedRun.lockstep (InStep memory options) freshRun (start valid)
        fun warm cold inStep => related_dispatchBlock addF32 inStep maxBlocks
  have same := inStep.result
  exact ⟨congrArg (·.reason) same, congrArg (·.nextPc) same,
    congrArg (·.blocksExecuted) same, congrArg (·.instructionsExecuted) same,
    congrArg (·.message) same, inStep.state, inStep.called, inStep.current⟩

end Burnout3Recompiled
