import Burnout3Recompiled.R5900DispatchRun

/-!
# The dispatcher refines the interpreter

Whatever a dispatcher has cached in its history, a run leaves the state the
reference interpreter leaves on the guest instructions it counts as executed,
read from memory as it is during the run.
-/

namespace Burnout3Recompiled

section Refinement

variable (addF32 : BitVec 32 → BitVec 32 → BitVec 32) (memory : Ps2MemoryMap)
  (options : R5900BlockDispatcherOptions) (startPc : BitVec 32)
  (state : R5900IrExecutionState)

/-- The loop stands behind the instructions it counts, in the state the
interpreter reaches on them. -/
structure RefinesInterpreter (loop : DispatchLoop) : Prop where
  valid : loop.cache.Valid
  currentPc : loop.currentPc = instructionPc startPc loop.result.instructionsExecuted
  lower : ∀ index < loop.result.instructionsExecuted,
    LowersAt memory options.blockOptions.requireExecutable (instructionPc startPc index)
  unstarted : loop.result.blocksExecuted = 0 →
    loop.result.instructionsExecuted = 0 ∧ loop.state = state
  started : loop.result.blocksExecuted ≠ 0 →
    executeR5900Ir addF32
      (guestProgram memory startPc loop.result.instructionsExecuted) state =
        (.ok (), loop.state)

variable {addF32 memory options startPc state} {loop ran : DispatchLoop}

namespace RefinesInterpreter

theorem start {dispatcher : R5900BlockDispatcher} (valid : dispatcher.cache.Valid) :
    RefinesInterpreter addF32 memory options startPc state
      (dispatcher.startLoop startPc state) where
  valid := valid
  currentPc := (instructionPc_zero startPc).symm
  lower := fun _ impossible => absurd impossible (Nat.not_lt_zero _)
  unstarted := fun _ => ⟨rfl, rfl⟩
  started := fun started => absurd rfl started

/-- Nothing but the counts is read from the result. -/
theorem of_result (refines : RefinesInterpreter addF32 memory options startPc state loop)
    {result : R5900DispatchResult}
    (blocks : result.blocksExecuted = loop.result.blocksExecuted)
    (instructions : result.instructionsExecuted = loop.result.instructionsExecuted) :
    RefinesInterpreter addF32 memory options startPc state
      { loop with result := result } := by
  obtain ⟨valid, currentPc, lower, unstarted, started⟩ := refines
  rw [← instructions] at currentPc lower unstarted started
  rw [← blocks] at unstarted started
  exact ⟨valid, currentPc, lower, unstarted, started⟩

theorem executed (refines : RefinesInterpreter addF32 memory options startPc state loop)
    (valid : ran.cache.Valid) {count : Nat}
    (run : Executed addF32 memory options loop count ran) :
    RefinesInterpreter addF32 memory options startPc state ran := by
  have blocks := run.blocksExecuted
  have instructions := run.instructionsExecuted
  have lower : ∀ index < loop.result.instructionsExecuted + count,
      LowersAt memory options.blockOptions.requireExecutable
        (instructionPc startPc index) := by
    intro index inside
    by_cases earlier : index < loop.result.instructionsExecuted
    · exact refines.lower index earlier
    · have later := run.lower (index - loop.result.instructionsExecuted) (by omega)
      rw [refines.currentPc, instructionPc_add] at later
      rwa [Nat.add_sub_cancel' (Nat.not_lt.mp earlier)] at later
  have firstLower := refines.lower
  have laterLower := run.lower
  have executed := run.state
  rw [refines.currentPc] at laterLower executed
  refine ⟨valid, ?_, ?_, ?_, ?_⟩
  · rw [run.currentPc, refines.currentPc, instructionPc_add, instructions]
  · rwa [instructions]
  · intro none
    omega
  · intro _
    rw [instructions, guestProgram_add]
    by_cases unstarted : loop.result.blocksExecuted = 0
    · obtain ⟨zero, same⟩ := refines.unstarted unstarted
      rw [same] at executed
      rw [zero, guestProgram_zero, List.nil_append, ← zero]
      exact executed
    · rw [executeR5900Ir_append addF32
        (fun ir member => guestProgram_wellFormed ir firstLower member)
        (fun ir member => guestProgram_wellFormed ir laterLower member),
        refines.started unstarted]
      exact executed

end RefinesInterpreter

/-- One iteration, stopped or not. -/
theorem refinesInterpreter_dispatchBlock
    (refines : RefinesInterpreter addF32 memory options startPc state loop)
    (maxBlocks : Nat) (os : ExecutablePageOutcome) :
    RefinesInterpreter addF32 memory options startPc state
      (dispatchBlock addF32 memory options maxBlocks os loop).state := by
  have step := stepOf_dispatchBlock addF32 memory options maxBlocks os refines.valid
  have valid := dispatchBlock_valid addF32 memory options maxBlocks refines.valid os
  generalize dispatchBlock addF32 memory options maxBlocks os loop =
    outcome at step valid ⊢
  cases step with
  | rejected selected => exact refines.of_result rfl rfl
  | unprepared found preparation =>
      obtain ⟨-, blocks, instructions⟩ := preparation.failure
      exact refines.of_result blocks instructions
  | executes found preparation =>
      have run := executed_of_ready addF32 memory options found preparation
      obtain ⟨reason, nextPc, after⟩ := afterBlock_loop maxBlocks _ _
      rw [after] at valid ⊢
      refine (refines.executed ?_ run).of_result rfl rfl
      exact valid

/-- A whole run, by induction on its iterations. -/
theorem run_refinesInterpreter (addF32 : BitVec 32 → BitVec 32 → BitVec 32)
    (dispatcher : R5900BlockDispatcher) (memory : Ps2MemoryMap)
    (os : Nat → ExecutablePageOutcome) (startPc : BitVec 32)
    (state : R5900IrExecutionState) (maxBlocks : Nat) (valid : dispatcher.cache.Valid) :
    RefinesInterpreter addF32 memory dispatcher.options startPc state
      (dispatcher.run addF32 memory os startPc state maxBlocks) := by
  have start : RefinesInterpreter addF32 memory dispatcher.options startPc state _ :=
    .start valid
  by_cases positive : maxBlocks = 0
  · rw [R5900BlockDispatcher.run, if_pos positive]
    exact start.of_result rfl rfl
  · have run : StopsIn _ _ (dispatcher.run addF32 memory os startPc state maxBlocks) :=
      R5900BlockDispatcher.run_stopsIn addF32 _ memory os startPc state positive
    exact run.preserves (RefinesInterpreter addF32 memory dispatcher.options startPc state)
      start fun current kept => refinesInterpreter_dispatchBlock kept maxBlocks _

end Refinement

/-- A run after any history, on any guest memory and with any answers of the
system, leaves the state untouched if it executes no block.  Otherwise it leaves
the interpreter's state on the instructions it counts, all of which are readable,
executable where required, and lower. -/
theorem run_refines_executeR5900Ir (addF32 : BitVec 32 → BitVec 32 → BitVec 32)
    (options : R5900BlockDispatcherOptions) (history : List DispatcherOperation)
    (memory : Ps2MemoryMap) (os : Nat → ExecutablePageOutcome) (startPc : BitVec 32)
    (state : R5900IrExecutionState) (maxBlocks : Nat) :
    let final := (R5900BlockDispatcher.afterHistory addF32 options history).run addF32 memory
      os startPc state maxBlocks
    let count := final.result.instructionsExecuted
    (∀ index < count, LowersAt memory options.blockOptions.requireExecutable
      (instructionPc startPc index)) ∧
    (final.result.blocksExecuted = 0 → final.state = state) ∧
    (final.result.blocksExecuted ≠ 0 →
      executeR5900Ir addF32 (guestProgram memory startPc count) state =
        (.ok (), final.state)) := by
  intro final count
  obtain ⟨valid, sameOptions⟩ :=
    R5900BlockDispatcher.afterHistory_valid addF32 options history
  have refines := run_refinesInterpreter addF32 _ memory os startPc state maxBlocks valid
  rw [sameOptions] at refines
  exact ⟨refines.lower, fun none => (refines.unstarted none).2, refines.started⟩

end Burnout3Recompiled
