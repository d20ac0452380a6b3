import Burnout3Recompiled.R5900BudgetComposition
import Burnout3Recompiled.R5900CacheTransparency

/-!
# Runs in slices

A program that embeds the dispatcher hands out its budget in slices and does other
things between them: it runs other code, on other guest memory, or clears the cache.
Each slice goes on at the next PC with the state of the one before.  However the
budget is cut, the slices together are the uninterrupted run.
-/

namespace Burnout3Recompiled

/-- What is done with the dispatcher before a slice, and the budget of the slice. -/
structure RunSlice where
  interlude : List DispatcherOperation
  maxBlocks : Nat
  positive : 1 ≤ maxBlocks

/-- The budget of all slices together. -/
def sliceBudget (slice : RunSlice) (rest : List RunSlice) : Nat :=
  slice.maxBlocks + (rest.map RunSlice.maxBlocks).sum

section Slices

variable (addF32 : BitVec 32 → BitVec 32 → BitVec 32) (memory : Ps2MemoryMap)

namespace R5900BlockDispatcher

def performAll (dispatcher : R5900BlockDispatcher) (operations : List DispatcherOperation) :
    R5900BlockDispatcher :=
  operations.foldl (perform addF32) dispatcher

/-- Take slice after slice until one stops for another reason than its budget. -/
def runSlices (dispatcher : R5900BlockDispatcher) (startPc : BitVec 32)
    (state : R5900IrExecutionState) (slice : RunSlice) : List RunSlice → DispatchLoop
  | [] =>
      (dispatcher.performAll addF32 slice.interlude).run addF32 memory (fun _ => .success)
        startPc state slice.maxBlocks
  | next :: rest =>
      let dispatcher := dispatcher.performAll addF32 slice.interlude
      let ran := dispatcher.run addF32 memory (fun _ => .success) startPc state
        slice.maxBlocks
      if ran.result.reason = .blockBudgetExhausted then
        ran.behind (runSlices { dispatcher with cache := ran.cache } ran.result.nextPc
          ran.state next rest)
      else ran

variable {memory} {dispatcher other : R5900BlockDispatcher}

theorem performAll_valid (valid : dispatcher.cache.Valid)
    (operations : List DispatcherOperation) :
    (dispatcher.performAll addF32 operations).cache.Valid ∧
      (dispatcher.performAll addF32 operations).options = dispatcher.options := by
  induction operations generalizing dispatcher with
  | nil => exact ⟨valid, rfl⟩
  | cons operation operations ih =>
      cases operation with
      | run memory os startPc state maxBlocks =>
          have ran : (dispatcher.perform addF32
              (.run memory os startPc state maxBlocks)).cache.Valid :=
            run_valid addF32 memory os startPc state valid
          exact ih ran
      | clearCache =>
          have cleared : (dispatcher.perform addF32 .clearCache).cache.Valid :=
            BlockCache.valid_empty
          exact ih cleared

/-- What two dispatchers have cached does not tell their runs apart. -/
theorem run_inStep (valid : dispatcher.cache.Valid) (otherValid : other.cache.Valid)
    (sameOptions : dispatcher.options = other.options) (startPc : BitVec 32)
    (state : R5900IrExecutionState) (maxBlocks : Nat) :
    InStep memory other.options
      (dispatcher.run addF32 memory (fun _ => .success) startPc state maxBlocks)
      (other.run addF32 memory (fun _ => .success) startPc state maxBlocks) := by
  have start : InStep memory other.options (dispatcher.startLoop startPc state)
      (other.startLoop startPc state) :=
    ⟨valid, otherValid, rfl, rfl, rfl, rfl, fun _ none => by cases none⟩
  by_cases positive : maxBlocks = 0
  · simp only [run, if_pos positive]
    exact start.of_result rfl
  · have ran := run_stopsIn addF32 dispatcher memory (fun _ => .success) startPc state
      positive
    rw [sameOptions] at ran
    exact ran.lockstep (InStep memory other.options)
      (run_stopsIn addF32 other memory _ startPc state positive) start
      fun warm cold inStep => related_dispatchBlock addF32 inStep maxBlocks

end R5900BlockDispatcher

/-- What two runs report and leave alike, besides their cache statistics. -/
structure SameRun (loop other : DispatchLoop) : Prop where
  result : loop.result.progress = other.result.progress
  state : loop.state = other.state
  called : loop.called = other.called

variable {memory} {options : R5900BlockDispatcherOptions}
  {loop other base otherBase : DispatchLoop}

theorem InStep.sameRun (inStep : InStep memory options loop other) : SameRun loop other :=
  ⟨inStep.result, inStep.state, inStep.called⟩

/-- Runs that are alike behind runs that are alike. -/
theorem SameRun.behind (before : SameRun base otherBase) (after : SameRun loop other) :
    SameRun (base.behind loop) (otherBase.behind other) := by
  have blocks := congrArg (·.blocksExecuted) before.result
  have instructions := congrArg (·.instructionsExecuted) before.result
  simp only [R5900DispatchResult.progress] at blocks instructions
  refine ⟨?_, after.state, ?_⟩
  · have later := congrArg (fun result : R5900DispatchResult =>
      { result with
        blocksExecuted := base.result.blocksExecuted + result.blocksExecuted
        instructionsExecuted :=
          base.result.instructionsExecuted + result.instructionsExecuted }) after.result
    simpa only [DispatchLoop.behind, R5900DispatchResult.behind,
      R5900DispatchResult.progress, ← blocks, ← instructions] using later
  · simp only [DispatchLoop.behind, before.called, after.called]

end Slices

/-- A run with two budgets is the run with the first, or that run spends its budget
and the run with the second goes on behind it. -/
theorem run_cut (addF32 : BitVec 32 → BitVec 32 → BitVec 32) (memory : Ps2MemoryMap)
    {dispatcher : R5900BlockDispatcher} (valid : dispatcher.cache.Valid)
    (startPc : BitVec 32) (state : R5900IrExecutionState) {first second : Nat}
    (positive : 1 ≤ first) (more : 1 ≤ second) :
    let whole := dispatcher.run addF32 memory (fun _ => .success) startPc state
      (first + second)
    let cut := dispatcher.run addF32 memory (fun _ => .success) startPc state first
    (cut.result.reason ≠ .blockBudgetExhausted ∧ whole = cut) ∨
      (cut.result.reason = .blockBudgetExhausted ∧
        whole = cut.behind (({ dispatcher with cache := cut.cache } :
          R5900BlockDispatcher).run addF32 memory (fun _ => .success) cut.result.nextPc
            cut.state second)) := by
  intro whole cut
  have runs : (whole = cut ∧ cut.result.reason ≠ .blockBudgetExhausted) ∨
      ∃ base, CutAt first base cut ∧ whole = base.behind _ :=
    run_add valid positive more
  rcases runs with ⟨same, lasts⟩ | ⟨base, ⟨exhausted, -, -⟩, taken⟩
  · exact .inl ⟨lasts, same⟩
  · refine .inr ?_
    rw [taken, exhausted]
    exact ⟨rfl, rfl⟩

/-- By induction on the slices: the first one is the whole run or cuts it, and the
others are the rest of the run behind the cut. -/
theorem runSlices_sameRun (addF32 : BitVec 32 → BitVec 32 → BitVec 32)
    (memory : Ps2MemoryMap) (rest : List RunSlice) {dispatcher other : R5900BlockDispatcher}
    (valid : dispatcher.cache.Valid) (otherValid : other.cache.Valid)
    (sameOptions : dispatcher.options = other.options) (startPc : BitVec 32)
    (state : R5900IrExecutionState) (slice : RunSlice) :
    SameRun (dispatcher.runSlices addF32 memory startPc state slice rest)
      (other.run addF32 memory (fun _ => .success) startPc state
        (sliceBudget slice rest)) := by
  induction rest generalizing dispatcher other startPc state slice with
  | nil =>
      obtain ⟨preparedValid, preparedOptions⟩ :=
        R5900BlockDispatcher.performAll_valid addF32 valid slice.interlude
      exact (R5900BlockDispatcher.run_inStep addF32 preparedValid otherValid
        (preparedOptions.trans sameOptions) startPc state slice.maxBlocks).sameRun
  | cons next rest ih =>
      obtain ⟨preparedValid, preparedOptions⟩ :=
        R5900BlockDispatcher.performAll_valid addF32 valid slice.interlude
      have preparedSame := preparedOptions.trans sameOptions
      have inStep : InStep memory other.options _ _ :=
        R5900BlockDispatcher.run_inStep addF32 preparedValid otherValid preparedSame startPc
          state slice.maxBlocks
      have reason := congrArg (·.reason) inStep.result
      have nextPc := congrArg (·.nextPc) inStep.result
      simp only [R5900DispatchResult.progress] at reason nextPc
      have more : 1 ≤ sliceBudget next rest :=
        Nat.le_trans next.positive (Nat.le_add_right _ _)
      have budget : sliceBudget slice (next :: rest) =
          slice.maxBlocks + sliceBudget next rest := rfl
      have cut := run_cut addF32 memory otherValid startPc state slice.positive more
      rw [R5900BlockDispatcher.runSlices, budget, reason]
      rcases cut with ⟨lasts, whole⟩ | ⟨spent, whole⟩
      · rw [if_neg lasts, whole]
        exact inStep.sameRun
      · rw [if_pos spent, whole, nextPc, inStep.state]
        apply inStep.sameRun.behind
        apply ih inStep.warmValid inStep.coldValid
        exact preparedSame

/-- However a budget is cut into slices, and whatever is done with the dispatcher
before each of them, the slices together report what one run with the whole budget
on a fresh dispatcher reports, besides the cache statistics, leave the same state and
call the same native blocks.  The system grants the pages of all of them. -/
theorem runSlices_eq_run (addF32 : BitVec 32 → BitVec 32 → BitVec 32)
    (options : R5900BlockDispatcherOptions) (history : List DispatcherOperation)
    (memory : Ps2MemoryMap) (startPc : BitVec 32) (state : R5900IrExecutionState)
    (slice : RunSlice) (rest : List RunSlice) :
    SameRun
      ((R5900BlockDispatcher.afterHistory addF32 options history).runSlices addF32 memory
        startPc state slice rest)
      (({ options := options } : R5900BlockDispatcher).run addF32 memory
        (fun _ => .success) startPc state (sliceBudget slice rest)) := by
  obtain ⟨valid, sameOptions⟩ :=
    R5900BlockDispatcher.afterHistory_valid addF32 options history
  exact runSlices_sameRun addF32 memory rest valid BlockCache.valid_empty sameOptions startPc
    state slice

end Burnout3Recompiled
