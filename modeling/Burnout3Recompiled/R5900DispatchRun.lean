import Burnout3Recompiled.R5900BlockCache
import Burnout3Recompiled.R5900X64Refinement

/-!
# Runs of the dispatcher

One iteration either stops the run or executes a candidate and goes on behind
it, and a run is the loop of these iterations.  A dispatcher has a history of
earlier runs and cache clears, after which its cache is valid.
-/

namespace Burnout3Recompiled

section Steps

variable (addF32 : BitVec 32 → BitVec 32 → BitVec 32) (memory : Ps2MemoryMap)
  (options : R5900BlockDispatcherOptions) (maxBlocks : Nat)

section Step

variable (os : ExecutablePageOutcome) (loop : DispatchLoop)

/-- What an iteration does while the cache is valid. -/
inductive StepOf : DispatchOutcome → Prop
  | rejected {stop : DispatchStop}
      (selected : SelectionAt memory options loop.currentPc (.error stop)) :
      StepOf (.stopped { loop with result := loop.result.stop stop })
  | unprepared {block : R5900BasicBlock} {rest : List R5900InstructionSite}
      {candidate : DispatchCandidate} {stopped : R5900DispatchResult}
      (found : CandidateAt memory options loop.currentPc block rest candidate)
      (preparation : PreparationOf os loop.currentPc candidate loop.cache loop.result
        (.error stopped)) :
      StepOf (.stopped { loop with result := stopped })
  | executes {block : R5900BasicBlock} {rest : List R5900InstructionSite}
      {candidate : DispatchCandidate} {prepared : PreparedBlock}
      (found : CandidateAt memory options loop.currentPc block rest candidate)
      (preparation : PreparationOf os loop.currentPc candidate loop.cache loop.result
        (.ok prepared)) :
      StepOf (afterBlock maxBlocks candidate.boundary
        (loop.execute addF32 candidate prepared))

variable {loop}

theorem stepOf_dispatchBlock (valid : loop.cache.Valid) :
    StepOf addF32 memory options maxBlocks os loop
      (dispatchBlock addF32 memory options maxBlocks os loop) := by
  have selection : SelectionAt memory options loop.currentPc _ := selectionAt
  unfold dispatchBlock
  split
  · next stop rejected =>
      rw [rejected] at selection
      exact .rejected selection
  · next candidate selected =>
      rw [selected] at selection
      cases selection with
      | selects found =>
          unfold dispatchCandidate
          split
          · next stopped failed =>
              exact .unprepared found (found.preparationOf valid failed)
          · next prepared ready =>
              exact .executes found (found.preparationOf valid ready)

end Step

/-- What the execution of `count` instructions at the current PC leaves: the
interpreter's state, and a block compiled from those instructions. -/
structure Executed (loop : DispatchLoop) (count : Nat) (ran : DispatchLoop) : Prop where
  nonempty : 0 < count
  lower : ∀ index < count, LowersAt memory options.blockOptions.requireExecutable
    (instructionPc loop.currentPc index)
  result : ran.result.progress =
    { loop.result.progress with
      blocksExecuted := loop.result.blocksExecuted + 1
      instructionsExecuted := loop.result.instructionsExecuted + count
      nextPc := instructionPc loop.currentPc count }
  currentPc : ran.currentPc = instructionPc loop.currentPc count
  state : executeR5900Ir addF32 (guestProgram memory loop.currentPc count) loop.state =
    (.ok (), ran.state)
  called : ∃ nativeBlock,
    compileR5900IrX64 .success (guestProgram memory loop.currentPc count) =
      .ok nativeBlock ∧ ran.called = loop.called ++ [(loop.currentPc, nativeBlock)]

section Counts

variable {addF32 memory options} {loop ran : DispatchLoop} {count : Nat}

theorem Executed.blocksExecuted (run : Executed addF32 memory options loop count ran) :
    ran.result.blocksExecuted = loop.result.blocksExecuted + 1 :=
  congrArg (·.blocksExecuted) run.result

theorem Executed.instructionsExecuted
    (run : Executed addF32 memory options loop count ran) :
    ran.result.instructionsExecuted = loop.result.instructionsExecuted + count :=
  congrArg (·.instructionsExecuted) run.result

theorem Executed.nextPc (run : Executed addF32 memory options loop count ran) :
    ran.result.nextPc = instructionPc loop.currentPc count :=
  congrArg (·.nextPc) run.result

end Counts

theorem executed_of_ready {os : ExecutablePageOutcome} {loop : DispatchLoop}
    {block : R5900BasicBlock} {rest : List R5900InstructionSite}
    {candidate : DispatchCandidate} {prepared : PreparedBlock}
    (found : CandidateAt memory options loop.currentPc block rest candidate)
    (preparation : PreparationOf os loop.currentPc candidate loop.cache loop.result
      (.ok prepared)) :
    Executed addF32 memory options loop candidate.sites.length
      (loop.execute addF32 candidate prepared) := by
  have fetched := found.fetched
  cases preparation with
  | ready lower compiled available valid holds others progress =>
      have behind : loop.currentPc + BitVec.ofNat 32 (candidate.sites.length * 4) =
          instructionPc loop.currentPc candidate.sites.length := by
        rw [instructionPc, Nat.mul_comm]
      have lowersAt := fetched.lowersAt lower
      have wellFormed : ∀ ir ∈ guestProgram memory loop.currentPc candidate.sites.length,
          R5900IrWellFormed ir :=
        fun ir member => guestProgram_wellFormed ir lowersAt member
      rw [fetched.flatMap_lowered] at compiled
      refine ⟨List.length_pos_of_ne_nil found.nonempty, lowersAt, ?_, behind, ?_,
        ⟨_, compiled, rfl⟩⟩
      · have blocks := congrArg (·.blocksExecuted) progress
        have instructions := congrArg (·.instructionsExecuted) progress
        have reason := congrArg (·.reason) progress
        have message := congrArg (·.message) progress
        simp only [R5900DispatchResult.progress] at blocks instructions reason message
        simp only [DispatchLoop.execute, R5900DispatchResult.progress, behind, blocks,
          instructions, reason, message]
      · rw [DispatchLoop.execute, execute_compiled addF32 wellFormed compiled,
          executeR5900Ir_eq_foldl addF32 wellFormed]

/-- After a block only the reason and the next PC are still written. -/
theorem afterBlock_loop (boundary : Option (R5900DispatchStopReason × BitVec 32))
    (loop : DispatchLoop) :
    ∃ reason nextPc, (afterBlock maxBlocks boundary loop).state =
      { loop with result := { loop.result with reason := reason, nextPc := nextPc } } := by
  unfold afterBlock
  split
  · exact ⟨_, _, rfl⟩
  · split
    · exact ⟨_, loop.result.nextPc, rfl⟩
    · exact ⟨loop.result.reason, loop.result.nextPc, rfl⟩

/-- What is made of the boundary and the budget looks at the number of blocks only. -/
theorem related_afterBlock {relation : DispatchLoop → DispatchLoop → Prop}
    {first second : DispatchLoop} (related : relation first second)
    (blocks : first.result.blocksExecuted = second.result.blocksExecuted)
    (stops : ∀ reason nextPc, relation
      { first with result := { first.result with reason := reason, nextPc := nextPc } }
      { second with result := { second.result with reason := reason, nextPc := nextPc } })
    (spends : ∀ reason, relation
      { first with result := { first.result with reason := reason } }
      { second with result := { second.result with reason := reason } })
    (boundary : Option (R5900DispatchStopReason × BitVec 32)) :
    (afterBlock maxBlocks boundary first).Related relation
      (afterBlock maxBlocks boundary second) := by
  unfold afterBlock
  cases boundary with
  | some stop => exact .stopped (stops stop.1 stop.2)
  | none =>
      by_cases spent : first.result.blocksExecuted = maxBlocks
      · simp only [if_pos spent, if_pos (blocks ▸ spent)]
        exact .stopped (spends .blockBudgetExhausted)
      · simp only [if_neg spent, if_neg (blocks ▸ spent)]
        exact .continues related

theorem dispatchBlock_valid {loop : DispatchLoop} (valid : loop.cache.Valid)
    (answer : ExecutablePageOutcome) :
    (dispatchBlock addF32 memory options maxBlocks answer loop).state.cache.Valid := by
  have step := stepOf_dispatchBlock addF32 memory options maxBlocks answer valid
  generalize dispatchBlock addF32 memory options maxBlocks answer loop = outcome at step ⊢
  cases step with
  | rejected selected => exact valid
  | unprepared found preparation => exact valid
  | executes found preparation =>
      cases preparation with
      | ready lower compiled available kept holds others progress =>
          obtain ⟨reason, nextPc, after⟩ := afterBlock_loop maxBlocks _ _
          rw [after]
          exact kept

/-- An iteration that goes on has executed a prepared candidate without a boundary. -/
theorem exists_prepared_of_continues {os : ExecutablePageOutcome}
    {loop next : DispatchLoop} (valid : loop.cache.Valid)
    (continues : dispatchBlock addF32 memory options maxBlocks os loop = .continues next) :
    ∃ block rest candidate prepared,
      CandidateAt memory options loop.currentPc block rest candidate ∧
      candidate.boundary = none ∧
      PreparationOf os loop.currentPc candidate loop.cache loop.result (.ok prepared) ∧
      next = loop.execute addF32 candidate prepared := by
  have step := stepOf_dispatchBlock addF32 memory options maxBlocks os valid
  generalize dispatchBlock addF32 memory options maxBlocks os loop = outcome at step continues
  cases step with
  | rejected selected => cases continues
  | unprepared found preparation => cases continues
  | executes found preparation =>
      obtain ⟨same, boundaryless, -⟩ := afterBlock_continues continues
      exact ⟨_, _, _, _, found, boundaryless, preparation, same⟩

theorem exists_executed_of_continues {os : ExecutablePageOutcome}
    {loop next : DispatchLoop} (valid : loop.cache.Valid)
    (continues : dispatchBlock addF32 memory options maxBlocks os loop = .continues next) :
    ∃ block rest candidate, CandidateAt memory options loop.currentPc block rest candidate ∧
      candidate.boundary = none ∧
      Executed addF32 memory options loop candidate.sites.length next := by
  obtain ⟨block, rest, candidate, prepared, found, boundaryless, preparation, rfl⟩ :=
    exists_prepared_of_continues addF32 memory options maxBlocks valid continues
  exact ⟨block, rest, candidate, found, boundaryless,
    executed_of_ready addF32 memory options found preparation⟩

/-- Between two iterations no stop has been reported yet. -/
structure Unreported (loop : DispatchLoop) : Prop where
  reason : loop.result.reason = .analysisFailure
  message : loop.result.message = ""
  nextPc : loop.result.nextPc = loop.currentPc

variable {addF32 memory options maxBlocks} in
theorem Executed.unreported {loop ran : DispatchLoop} {count : Nat}
    (run : Executed addF32 memory options loop count ran) (unreported : Unreported loop) :
    Unreported ran := by
  have reason : ran.result.reason = loop.result.reason := congrArg (·.reason) run.result
  have message : ran.result.message = loop.result.message := congrArg (·.message) run.result
  refine ⟨reason.trans unreported.reason, message.trans unreported.message, ?_⟩
  rw [run.nextPc, run.currentPc]

variable (os : Nat → ExecutablePageOutcome)

/-- An iteration of a run, with the system's answer in it. -/
def dispatchStep (loop : DispatchLoop) : DispatchOutcome :=
  dispatchBlock addF32 memory options maxBlocks (os loop.result.blocksExecuted) loop

variable {maxBlocks} in
theorem dispatchLoop_stopsIn {loop : DispatchLoop}
    (room : loop.result.blocksExecuted < maxBlocks) :
    StopsIn (dispatchStep addF32 memory options maxBlocks os) loop
      (dispatchLoop addF32 memory options maxBlocks os loop) := by
  fun_induction dispatchLoop addF32 memory options maxBlocks os loop with
  | case1 loop spare final stopped => exact .stopped stopped
  | case2 loop spare next continues ih =>
      have progress := dispatchBlock_continues continues
      exact .continues continues (ih (by omega))
  | case3 loop full => exact absurd room full

/-- What the iterations of a run with a budget keep. -/
structure WithinBudget (loop : DispatchLoop) : Prop where
  valid : loop.cache.Valid
  room : loop.result.blocksExecuted < maxBlocks
  unreported : Unreported loop

variable {addF32 memory options maxBlocks os} in
theorem WithinBudget.goesOn {loop next : DispatchLoop} (within : WithinBudget maxBlocks loop)
    (continues : dispatchStep addF32 memory options maxBlocks os loop = .continues next) :
    WithinBudget maxBlocks next := by
  have progress := dispatchBlock_continues continues
  have valid := dispatchBlock_valid addF32 memory options maxBlocks within.valid
    (os loop.result.blocksExecuted)
  obtain ⟨block, rest, candidate, -, -, run⟩ :=
    exists_executed_of_continues addF32 memory options maxBlocks within.valid continues
  rw [dispatchStep] at continues
  rw [continues] at valid
  have room := within.room
  exact ⟨valid, by omega, run.unreported within.unreported⟩

end Steps

/-- What can be asked of a dispatcher between its construction and a run.  Guest
memory may be any at every run. -/
inductive DispatcherOperation where
  | run (memory : Ps2MemoryMap) (os : Nat → ExecutablePageOutcome) (startPc : BitVec 32)
      (state : R5900IrExecutionState) (maxBlocks : Nat)
  | clearCache

namespace R5900BlockDispatcher

variable (addF32 : BitVec 32 → BitVec 32 → BitVec 32)

def perform (dispatcher : R5900BlockDispatcher) : DispatcherOperation → R5900BlockDispatcher
  | .run memory os startPc state maxBlocks =>
      { dispatcher with
        cache := (dispatcher.run addF32 memory os startPc state maxBlocks).cache }
  | .clearCache => dispatcher.clearCache

/-- A dispatcher with the given options after a sequence of operations. -/
def afterHistory (options : R5900BlockDispatcherOptions)
    (history : List DispatcherOperation) : R5900BlockDispatcher :=
  history.foldl (perform addF32) { options := options }

variable (dispatcher : R5900BlockDispatcher) (memory : Ps2MemoryMap)
  (os : Nat → ExecutablePageOutcome) (startPc : BitVec 32) (state : R5900IrExecutionState)
  {maxBlocks : Nat}

/-- A run with a budget is the loop of its iterations. -/
theorem run_stopsIn (positive : maxBlocks ≠ 0) :
    StopsIn (dispatchStep addF32 memory dispatcher.options maxBlocks os)
      (dispatcher.startLoop startPc state)
      (dispatcher.run addF32 memory os startPc state maxBlocks) := by
  rw [run, if_neg positive]
  exact dispatchLoop_stopsIn addF32 memory dispatcher.options os (Nat.pos_of_ne_zero positive)

variable (maxBlocks) in
/-- The loops in which a run takes its iterations. -/
def dispatchIterations : List DispatchLoop :=
  iterations (dispatchStep addF32 memory dispatcher.options maxBlocks os) maxBlocks
    (dispatcher.startLoop startPc state)

variable {dispatcher}

theorem run_valid (valid : dispatcher.cache.Valid) :
    (dispatcher.run addF32 memory os startPc state maxBlocks).cache.Valid := by
  by_cases positive : maxBlocks = 0
  · rw [run, if_pos positive]
    exact valid
  · exact (run_stopsIn addF32 dispatcher memory os startPc state positive).preserves
      (fun loop => loop.cache.Valid) valid
      fun current kept => dispatchBlock_valid addF32 memory _ maxBlocks kept _

section Iterations

variable {loop final : DispatchLoop} {memory os startPc state}

theorem withinBudget_startLoop (valid : dispatcher.cache.Valid) (positive : maxBlocks ≠ 0) :
    WithinBudget maxBlocks (dispatcher.startLoop startPc state) :=
  ⟨valid, Nat.pos_of_ne_zero positive, ⟨rfl, rfl, rfl⟩⟩

theorem withinBudget_of_mem_dispatchIterations (valid : dispatcher.cache.Valid)
    (member : loop ∈ dispatcher.dispatchIterations addF32 memory os startPc state maxBlocks) :
    WithinBudget maxBlocks loop := by
  have positive : maxBlocks ≠ 0 := by
    rintro rfl
    cases member
  exact invariant_of_mem_iterations (WithinBudget maxBlocks)
    (withinBudget_startLoop valid positive) (fun _ _ within => within.goesOn) member

/-- An iteration that stops has the outcome of the run. -/
theorem run_eq_of_stopped
    (member : loop ∈ dispatcher.dispatchIterations addF32 memory os startPc state maxBlocks)
    (stops : dispatchStep addF32 memory dispatcher.options maxBlocks os loop =
      .stopped final) :
    dispatcher.run addF32 memory os startPc state maxBlocks = final := by
  have positive : maxBlocks ≠ 0 := by
    rintro rfl
    cases member
  exact ((run_stopsIn addF32 dispatcher memory os startPc state
    positive).stopped_of_mem_iterations member stops).symm

/-- The iterations of a run include the one it stops in. -/
theorem exists_last_dispatchIteration (valid : dispatcher.cache.Valid)
    (positive : maxBlocks ≠ 0) :
    ∃ last ∈ dispatcher.dispatchIterations addF32 memory os startPc state maxBlocks,
      dispatchStep addF32 memory dispatcher.options maxBlocks os last =
        .stopped (dispatcher.run addF32 memory os startPc state maxBlocks) := by
  apply (run_stopsIn addF32 dispatcher memory os startPc state positive).exists_last_iteration
    (withinBudget_startLoop valid positive) (fun _ _ within => within.goesOn)
    (fun loop within => Nat.sub_pos_of_lt within.room) ?_ (Nat.sub_le maxBlocks _)
  intro current next within continues
  have progress := dispatchBlock_continues continues
  have room := within.room
  omega

/-- What every iteration adds to a value, the run adds up. -/
theorem run_value_eq_sum (valid : dispatcher.cache.Valid) (positive : maxBlocks ≠ 0)
    (value weight : DispatchLoop → Nat)
    (adds : ∀ loop, WithinBudget maxBlocks loop →
      value (dispatchStep addF32 memory dispatcher.options maxBlocks os loop).state =
        value loop + weight loop) :
    value (dispatcher.run addF32 memory os startPc state maxBlocks) =
      value (dispatcher.startLoop startPc state) +
        ((dispatcher.dispatchIterations addF32 memory os startPc state maxBlocks).map
          weight).sum := by
  apply (run_stopsIn addF32 dispatcher memory os startPc state positive).value_eq_sum
    value weight (withinBudget_startLoop valid positive) (fun _ _ within => within.goesOn)
    (fun loop within => Nat.sub_pos_of_lt within.room) ?_ adds (Nat.sub_le maxBlocks _)
  intro current next within continues
  have progress := dispatchBlock_continues continues
  have room := within.room
  omega

end Iterations

/-- However a dispatcher was used, its cache is valid and its options are the
ones it was made with. -/
theorem afterHistory_valid (options : R5900BlockDispatcherOptions)
    (history : List DispatcherOperation) :
    (afterHistory addF32 options history).cache.Valid ∧
      (afterHistory addF32 options history).options = options := by
  induction history using List.reverseRecOn with
  | nil => exact ⟨BlockCache.valid_empty, rfl⟩
  | append_singleton history operation ih =>
      rw [afterHistory, List.foldl_append, List.foldl_cons, List.foldl_nil, ← afterHistory]
      cases operation with
      | run memory os startPc state maxBlocks => exact ⟨run_valid addF32 memory os startPc state ih.1, ih.2⟩
      | clearCache => exact ⟨BlockCache.valid_empty, ih.2⟩

end R5900BlockDispatcher

end Burnout3Recompiled
