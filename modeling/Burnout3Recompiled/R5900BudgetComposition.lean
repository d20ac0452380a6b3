import Burnout3Recompiled.R5900DispatchRun

/-!
# Budgets compose

The budget is the only thing that cuts a run short, and nothing but the current
PC, the state and the cache is carried from one iteration to the next.  A run with
the sum of two budgets therefore is a run with the first, and a run with the second
taken up where the budget ended the first.
-/

namespace Burnout3Recompiled

section Cut

variable {addF32 : BitVec 32 → BitVec 32 → BitVec 32} {memory : Ps2MemoryMap}
  {options : R5900BlockDispatcherOptions} {os : ExecutablePageOutcome}
  {loop next ran final : DispatchLoop} {maxBlocks more : Nat}

/-- The stop of a spent budget. -/
def DispatchLoop.exhausted (loop : DispatchLoop) : DispatchLoop :=
  { loop with result := { loop.result with reason := .blockBudgetExhausted } }

theorem afterBlock_budget (boundary : Option (R5900DispatchStopReason × BitVec 32))
    (inside : ran.result.blocksExecuted ≤ maxBlocks) (positive : 1 ≤ more) :
    afterBlock maxBlocks boundary ran = afterBlock (maxBlocks + more) boundary ran ∨
      afterBlock maxBlocks boundary ran = .stopped ran.exhausted ∧
        afterBlock (maxBlocks + more) boundary ran = .continues ran ∧
        ran.result.blocksExecuted = maxBlocks := by
  cases boundary with
  | some stop => exact .inl rfl
  | none =>
      have room : ran.result.blocksExecuted ≠ maxBlocks + more := by omega
      by_cases spent : ran.result.blocksExecuted = maxBlocks
      · exact .inr ⟨if_pos spent, if_neg room, spent⟩
      · left
        simp only [afterBlock, if_neg spent, if_neg room]

/-- With more budget an iteration does the same, or goes on where the smaller
budget is spent. -/
theorem dispatchBlock_budget (inside : loop.result.blocksExecuted < maxBlocks)
    (positive : 1 ≤ more) :
    dispatchBlock addF32 memory options maxBlocks os loop =
        dispatchBlock addF32 memory options (maxBlocks + more) os loop ∨
      ∃ ran, dispatchBlock addF32 memory options maxBlocks os loop =
          .stopped ran.exhausted ∧
        dispatchBlock addF32 memory options (maxBlocks + more) os loop = .continues ran ∧
        ran.result.blocksExecuted = maxBlocks := by
  unfold dispatchBlock
  split
  · exact .inl rfl
  · next candidate selected =>
      unfold dispatchCandidate
      split
      · exact .inl rfl
      · next prepared ready =>
          have blocks := prepareBlock_blocksExecuted ready
          have executed : (loop.execute addF32 candidate prepared).result.blocksExecuted ≤
              maxBlocks := by
            simp only [DispatchLoop.execute, blocks]
            omega
          rcases afterBlock_budget candidate.boundary executed positive with
            same | ⟨spent, goesOn, full⟩
          · exact .inl same
          · exact .inr ⟨_, spent, goesOn, full⟩

/-- An iteration with budget left after it does not report a spent budget. -/
theorem reason_ne_exhausted (valid : loop.cache.Valid)
    (room : loop.result.blocksExecuted + 1 ≠ maxBlocks)
    (stopped : dispatchBlock addF32 memory options maxBlocks os loop = .stopped final) :
    final.result.reason ≠ .blockBudgetExhausted := by
  have shape := stepOf_dispatchBlock addF32 memory options maxBlocks os valid
  generalize dispatchBlock addF32 memory options maxBlocks os loop = outcome at shape stopped
  cases shape with
  | rejected selected =>
      obtain rfl := StepOutcome.stopped.inj stopped
      rcases selected.reason with reason | reason | reason | reason <;>
        simp [R5900DispatchResult.stop, reason]
  | unprepared found preparation =>
      obtain rfl := StepOutcome.stopped.inj stopped
      rcases preparation.failure.1 with reason | reason <;> simp [reason]
  | @executes block rest candidate prepared found preparation =>
      have run := executed_of_ready addF32 memory options found preparation
      have stops := found.stops
      generalize candidate.boundary = boundary at stops stopped
      cases stops with
      | atEnd =>
          rw [afterBlock, if_neg (by rwa [run.blocksExecuted])] at stopped
          cases stopped
      | atSite stops =>
          obtain rfl := StepOutcome.stopped.inj stopped
          rcases dispatchBoundary_ne_failure stops with rfl | rfl | rfl <;> simp

end Cut

/-- A result whose counts go on from those of another one. -/
def R5900DispatchResult.behind (base result : R5900DispatchResult) : R5900DispatchResult :=
  { result with
    blocksExecuted := base.blocksExecuted + result.blocksExecuted
    instructionsExecuted := base.instructionsExecuted + result.instructionsExecuted
    cacheHits := base.cacheHits + result.cacheHits
    cacheMisses := base.cacheMisses + result.cacheMisses
    recompilations := base.recompilations + result.recompilations }

/-- A loop whose counts and calls go on from those of another one. -/
def DispatchLoop.behind (base loop : DispatchLoop) : DispatchLoop :=
  { loop with
    result := base.result.behind loop.result
    called := base.called ++ loop.called }

section Behind

variable {addF32 : BitVec 32 → BitVec 32 → BitVec 32} {memory : Ps2MemoryMap}
  {options : R5900BlockDispatcherOptions} {base : DispatchLoop}

/-- The result of a preparation seen through `f`. -/
def mapPreparation (f : R5900DispatchResult → R5900DispatchResult) :
    Except R5900DispatchResult PreparedBlock → Except R5900DispatchResult PreparedBlock
  | .error result => .error (f result)
  | .ok prepared => .ok { prepared with result := f prepared.result }

theorem compileCandidate_behind (base : R5900DispatchResult) (os : ExecutablePageOutcome)
    (pc : BitVec 32) (candidate : DispatchCandidate) (cache : BlockCache)
    (result : R5900DispatchResult) :
    compileCandidate os pc candidate cache (base.behind result) =
      mapPreparation base.behind (compileCandidate os pc candidate cache result) := by
  unfold compileCandidate
  cases lowerSites candidate.sites with
  | error failure => rfl
  | ok ir =>
      simp only
      cases compileR5900IrX64 os ir with
      | error failure => rfl
      | ok nativeBlock => rfl

/-- A preparation only counts on. -/
theorem prepareBlock_behind (base : R5900DispatchResult) (os : ExecutablePageOutcome)
    (pc : BitVec 32) (candidate : DispatchCandidate) (cache : BlockCache)
    (result : R5900DispatchResult) :
    prepareBlock os pc candidate cache (base.behind result) =
      mapPreparation base.behind (prepareBlock os pc candidate cache result) := by
  unfold prepareBlock
  cases cache.lookup pc with
  | none =>
      exact compileCandidate_behind base os pc candidate cache
        { result with cacheMisses := result.cacheMisses + 1 }
  | some cached =>
      simp only
      split
      · rfl
      · exact compileCandidate_behind base os pc candidate cache
          { result with recompilations := result.recompilations + 1 }

theorem execute_behind (loop : DispatchLoop) (candidate : DispatchCandidate)
    (prepared : PreparedBlock) :
    (base.behind loop).execute addF32 candidate
        { prepared with result := base.result.behind prepared.result } =
      base.behind (loop.execute addF32 candidate prepared) := by
  simp only [DispatchLoop.execute, DispatchLoop.behind, R5900DispatchResult.behind,
    List.append_assoc, Nat.add_assoc]

theorem afterBlock_behind (maxBlocks : Nat)
    (boundary : Option (R5900DispatchStopReason × BitVec 32)) (ran : DispatchLoop) :
    afterBlock (base.result.blocksExecuted + maxBlocks) boundary (base.behind ran) =
      (afterBlock maxBlocks boundary ran).map base.behind := by
  cases boundary with
  | some stop => rfl
  | none =>
      have counts : (base.behind ran).result.blocksExecuted =
            base.result.blocksExecuted + maxBlocks ↔
          ran.result.blocksExecuted = maxBlocks := Nat.add_left_cancel_iff
      by_cases spent : ran.result.blocksExecuted = maxBlocks
      · simp only [afterBlock, if_pos spent, if_pos (counts.mpr spent)]
        rfl
      · simp only [afterBlock, if_neg spent, if_neg (mt counts.mp spent)]
        rfl

/-- An iteration reads nothing that another run in front of it has left but the PC,
the state and the cache. -/
theorem dispatchBlock_behind (maxBlocks : Nat) (os : ExecutablePageOutcome)
    (loop : DispatchLoop) :
    dispatchBlock addF32 memory options (base.result.blocksExecuted + maxBlocks) os
        (base.behind loop) =
      (dispatchBlock addF32 memory options maxBlocks os loop).map base.behind := by
  have samePc : (base.behind loop).currentPc = loop.currentPc := rfl
  unfold dispatchBlock
  rw [samePc]
  cases selectCandidate memory options loop.currentPc with
  | error stop => rfl
  | ok candidate =>
      have prepared : prepareBlock os (base.behind loop).currentPc candidate
          (base.behind loop).cache (base.behind loop).result = _ :=
        prepareBlock_behind base.result os loop.currentPc candidate loop.cache loop.result
      simp only [dispatchCandidate, prepared]
      cases prepareBlock os loop.currentPc candidate loop.cache loop.result with
      | error result => rfl
      | ok prepared =>
          simp only [mapPreparation, execute_behind]
          exact afterBlock_behind maxBlocks candidate.boundary _

end Behind

section Runs

variable {addF32 : BitVec 32 → BitVec 32 → BitVec 32} {memory : Ps2MemoryMap}
  {dispatcher : R5900BlockDispatcher} {os : Nat → ExecutablePageOutcome}
  {startPc : BitVec 32} {state : R5900IrExecutionState} {loop base : DispatchLoop}
  {first second : Nat}

/-- `cut` is the stop of a run whose budget is spent after `loop`. -/
structure CutAt (maxBlocks : Nat) (loop cut : DispatchLoop) : Prop where
  exhausted : cut = loop.exhausted
  spent : loop.result.blocksExecuted = maxBlocks
  unreported : Unreported loop

/-- With and without the cut an iteration does the same until the budget is spent. -/
theorem WithinBudget.compare (within : WithinBudget first loop) (positive : 1 ≤ second) :
    dispatchStep addF32 memory dispatcher.options first os loop =
        dispatchStep addF32 memory dispatcher.options (first + second) os loop ∨
      ∃ next cut,
        dispatchStep addF32 memory dispatcher.options first os loop = .stopped cut ∧
        dispatchStep addF32 memory dispatcher.options (first + second) os loop =
          .continues next ∧ CutAt first next cut := by
  have budget : dispatchBlock addF32 memory dispatcher.options first
      (os loop.result.blocksExecuted) loop = _ ∨ _ :=
    dispatchBlock_budget within.room positive
  rcases budget with same | ⟨ran, stops, continues, spent⟩
  · exact .inl same
  · obtain ⟨block, rest, candidate, -, -, run⟩ :=
      exists_executed_of_continues addF32 memory dispatcher.options (first + second)
        within.valid continues
    exact .inr ⟨ran, ran.exhausted, stops, continues,
      ⟨rfl, spent, run.unreported within.unreported⟩⟩

/-- A run that starts where another one was cut. -/
theorem behind_startLoop (unreported : Unreported base) (used : R5900BlockDispatcher) :
    base.behind (({ used with cache := base.cache } : R5900BlockDispatcher).startLoop
      base.result.nextPc base.state) = base := by
  obtain ⟨reason, message, nextPc⟩ := unreported
  obtain ⟨result, currentPc, state, cache, called⟩ := base
  obtain ⟨_, _, blocks, instructions, hits, misses, recompilations, _⟩ := result
  simp only at reason message nextPc
  subst reason message nextPc
  simp only [DispatchLoop.behind, R5900DispatchResult.behind, R5900BlockDispatcher.startLoop,
    Nat.add_zero, List.append_nil]

/-- A run with two budgets ends as the run with the first, or that run spends its
budget and the whole run is a run with the second behind it. -/
theorem run_add (valid : dispatcher.cache.Valid) (positive : 1 ≤ first)
    (more : 1 ≤ second) :
    let whole := dispatcher.run addF32 memory os startPc state (first + second)
    let cut := dispatcher.run addF32 memory os startPc state first
    (whole = cut ∧ cut.result.reason ≠ .blockBudgetExhausted) ∨
      ∃ base, CutAt first base cut ∧
        whole = base.behind
          (({ dispatcher with cache := base.cache } : R5900BlockDispatcher).run addF32 memory
            (fun block => os (first + block)) base.result.nextPc base.state second) := by
  intro whole cut
  have wholeRun : StopsIn _ _ whole :=
    dispatcher.run_stopsIn addF32 memory os startPc state (by omega)
  have cutRun : StopsIn _ _ cut :=
    dispatcher.run_stopsIn addF32 memory os startPc state (by omega)
  rcases cutRun.resume (WithinBudget first) (CutAt first) wholeRun
      ⟨valid, positive, ⟨rfl, rfl, rfl⟩⟩
      (fun loop next within continues => within.goesOn continues)
      (fun loop within => within.compare more) with
    ⟨same, last, within, -, wholeStops⟩ | ⟨base, atCut, rest⟩
  · left
    have room := within.room
    exact ⟨same, reason_ne_exhausted within.valid (by omega) wholeStops⟩
  · right
    have start := behind_startLoop atCut.unreported dispatcher
    obtain ⟨exhausted, rfl, unreported⟩ := atCut
    have secondRun : StopsIn _ _ (({ dispatcher with cache := base.cache } :
        R5900BlockDispatcher).run addF32 memory
          (fun block => os (base.result.blocksExecuted + block)) base.result.nextPc
          base.state second) :=
      R5900BlockDispatcher.run_stopsIn addF32 _ memory _ _ _ (by omega)
    refine ⟨base, ⟨exhausted, rfl, unreported⟩, rest.unique ?_⟩
    have taken : StopsIn (dispatchStep addF32 memory dispatcher.options
        (base.result.blocksExecuted + second) os) (base.behind _) (base.behind _) :=
      secondRun.map fun current => dispatchBlock_behind second _ current
    rwa [start] at taken

end Runs

/-- What two runs leave and report alike, besides their counts. -/
structure SameEnd (run other : DispatchLoop) : Prop where
  state : run.state = other.state
  cache : run.cache = other.cache
  reason : run.result.reason = other.result.reason
  nextPc : run.result.nextPc = other.result.nextPc
  message : run.result.message = other.result.message

/-- The counts of a run are those of two other runs together. -/
structure SumsCounts (run first second : DispatchLoop) : Prop where
  blocksExecuted : run.result.blocksExecuted =
    first.result.blocksExecuted + second.result.blocksExecuted
  instructionsExecuted : run.result.instructionsExecuted =
    first.result.instructionsExecuted + second.result.instructionsExecuted
  cacheHits : run.result.cacheHits = first.result.cacheHits + second.result.cacheHits
  cacheMisses : run.result.cacheMisses =
    first.result.cacheMisses + second.result.cacheMisses
  recompilations : run.result.recompilations =
    first.result.recompilations + second.result.recompilations

/-- A run with the sum of two budgets ends like the run with the first of them, unless
that one spends its budget.  Then it ends like the run with the second budget that
is started at its next PC, and counts what both count. -/
theorem run_budget_sum (addF32 : BitVec 32 → BitVec 32 → BitVec 32)
    (options : R5900BlockDispatcherOptions) (history : List DispatcherOperation)
    (memory : Ps2MemoryMap) (startPc : BitVec 32) (state : R5900IrExecutionState)
    (first second : Nat) (positive : 1 ≤ first) (more : 1 ≤ second) :
    let dispatcher := R5900BlockDispatcher.afterHistory addF32 options history
    let whole := dispatcher.run addF32 memory (fun _ => .success) startPc state
      (first + second)
    let cut := dispatcher.run addF32 memory (fun _ => .success) startPc state first
    let used := dispatcher.perform addF32
      (.run memory (fun _ => .success) startPc state first)
    let rest := used.run addF32 memory (fun _ => .success) cut.result.nextPc cut.state
      second
    (cut.result.reason ≠ .blockBudgetExhausted → SameEnd whole cut) ∧
    (cut.result.reason = .blockBudgetExhausted →
      SameEnd whole rest ∧ SumsCounts whole cut rest) := by
  intro dispatcher whole cut used rest
  have valid : dispatcher.cache.Valid :=
    (R5900BlockDispatcher.afterHistory_valid addF32 options history).1
  have runs : (whole = cut ∧ cut.result.reason ≠ .blockBudgetExhausted) ∨
      ∃ base, CutAt first base cut ∧ whole = base.behind _ :=
    run_add valid positive more
  rcases runs with ⟨same, lasts⟩ | ⟨base, ⟨exhausted, -, -⟩, taken⟩
  · refine ⟨fun _ => ?_, fun spent => absurd spent lasts⟩
    rw [same]
    exact ⟨rfl, rfl, rfl, rfl, rfl⟩
  · have restRun : rest = ({ dispatcher with cache := base.cache } :
        R5900BlockDispatcher).run addF32 memory (fun _ => .success) base.result.nextPc
          base.state second := by
      simp only [rest, used, R5900BlockDispatcher.perform]
      change ({ dispatcher with cache := cut.cache } : R5900BlockDispatcher).run addF32
        memory _ cut.result.nextPc cut.state second = _
      rw [exhausted]
      rfl
    rw [← restRun] at taken
    refine ⟨fun lasts => absurd ?_ lasts, fun _ => ?_⟩
    · rw [exhausted]
      rfl
    · rw [taken, exhausted]
      exact ⟨⟨rfl, rfl, rfl, rfl, rfl⟩, ⟨rfl, rfl, rfl, rfl, rfl⟩⟩

/-- Two NOPs with nothing behind them. -/
def twoNopsMemory : Ps2MemoryMap where
  regions := [⟨0x1000, 8, 5⟩]
  backingRegions :=
    [{ metadata := ⟨0x1000, 8, 5⟩
       bytes := List.replicate 8 0
       sized := rfl }]
  mirrored := mirrored_singleton

/-- With one instruction to a chunk, a budget of two is twice a budget of one. -/
theorem run_budget_sum_twoNopsMemory :
    let dispatcher := R5900BlockDispatcher.afterHistory (fun lhs _ => lhs)
      { blockOptions := { maxInstructions := 1 } } []
    let whole := dispatcher.run (fun lhs _ => lhs) twoNopsMemory (fun _ => .success)
      0x1000 {} 2
    let cut := dispatcher.run (fun lhs _ => lhs) twoNopsMemory (fun _ => .success)
      0x1000 {} 1
    let used := dispatcher.perform (fun lhs _ => lhs)
      (.run twoNopsMemory (fun _ => .success) 0x1000 {} 1)
    let rest := used.run (fun lhs _ => lhs) twoNopsMemory (fun _ => .success)
      cut.result.nextPc cut.state 1
    SameEnd whole rest ∧ SumsCounts whole cut rest :=
  (run_budget_sum (fun lhs _ => lhs) { blockOptions := { maxInstructions := 1 } } []
    twoNopsMemory 0x1000 {} 1 1 (by decide) (by decide)).2 (by decide +kernel)

end Burnout3Recompiled
