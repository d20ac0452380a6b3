import Burnout3Recompiled.R5900CacheInvariant

/-!
# The accounting of the cache

Every candidate is counted once, as a hit, a miss or a recompilation, before it is
lowered and compiled.  Only a compiled miss makes the cache larger.  A run that
prepares all its candidates leaves an entry for each of them, which no later run on
the same memory takes away, so that a repetition finds them all.
-/

namespace Burnout3Recompiled

/-- The candidates a result has counted. -/
def R5900DispatchResult.lookups (result : R5900DispatchResult) : Nat :=
  result.cacheHits + result.cacheMisses + result.recompilations

/-- A run that ended because a candidate could not be prepared. -/
def R5900DispatchStopReason.isFailure (reason : R5900DispatchStopReason) : Bool :=
  reason = .loweringFailure || reason = .compileFailure

theorem isFailure_iff {reason : R5900DispatchStopReason} :
    reason.isFailure = true ↔ reason = .loweringFailure ∨ reason = .compileFailure := by
  simp [R5900DispatchStopReason.isFailure]

/-- The candidate can be lowered, and its code published. -/
def compiles (os : ExecutablePageOutcome) (candidate : DispatchCandidate) : Bool :=
  match lowerSites candidate.sites with
  | .error _ => false
  | .ok ir => (compileR5900IrX64 os ir).isOk

namespace BlockCache

theorem length_insert_absent {cache : BlockCache} {pc : BitVec 32} {cached : CachedBlock}
    (absent : cache.lookup pc = none) :
    (AList.insert pc cached cache).entries.length = cache.entries.length + 1 := by
  rw [AList.entries_insert_of_notMem (AList.lookup_eq_none.mp absent), List.length_cons]

theorem length_insert_present {cache : BlockCache} {pc : BitVec 32} {old new : CachedBlock}
    (present : cache.lookup pc = some old) :
    (AList.insert pc new cache).entries.length = cache.entries.length := by
  have lengthKeys : ∀ other : BlockCache, other.entries.length = other.keys.length :=
    fun other => (List.length_map _).symm
  have member : pc ∈ cache.keys := by
    rw [← AList.mem_keys, ← AList.lookup_isSome, present]
    rfl
  have occupied := List.length_pos_of_mem member
  rw [lengthKeys, lengthKeys, AList.keys_insert, List.length_cons,
    List.length_erase_of_mem member]
  omega

end BlockCache

section Preparation

variable {os : ExecutablePageOutcome} {pc : BitVec 32} {candidate : DispatchCandidate}
  {cache : BlockCache} {result : R5900DispatchResult}

/-- The counters and the cache after a preparation, whether it succeeded or not. -/
structure CountsCandidate (os : ExecutablePageOutcome) (pc : BitVec 32)
    (candidate : DispatchCandidate) (cache : BlockCache) (result : R5900DispatchResult)
    (newCache : BlockCache) (newResult : R5900DispatchResult) : Prop where
  lookups : newResult.lookups = result.lookups + 1
  cacheMisses : newResult.cacheMisses =
    result.cacheMisses + if (cache.lookup pc).isNone then 1 else 0
  cacheSize : newCache.entries.length =
    cache.entries.length + if (cache.lookup pc).isNone && compiles os candidate then 1 else 0

theorem compiles_eq_false {stopped : R5900DispatchResult}
    (failed : compileCandidate os pc candidate cache result = .error stopped) :
    compiles os candidate = false := by
  have fails := failsToCompile_of_compileCandidate failed
  generalize stopped.reason = reason at fails
  cases fails with
  | lowering failed => rw [compiles, failed]
  | compile lowered failed =>
      rw [compiles, lowered]
      simp only [failed]
      rfl

theorem compileCandidate_error {stopped : R5900DispatchResult}
    (failed : compileCandidate os pc candidate cache result = .error stopped) :
    stopped.lookups = result.lookups ∧ stopped.cacheMisses = result.cacheMisses := by
  unfold compileCandidate at failed
  split at failed
  · obtain rfl := Except.error.inj failed
    exact ⟨rfl, rfl⟩
  · split at failed
    · obtain rfl := Except.error.inj failed
      exact ⟨rfl, rfl⟩
    · cases failed

theorem compileCandidate_ok {prepared : PreparedBlock}
    (compiled : compileCandidate os pc candidate cache result = .ok prepared) :
    compiles os candidate = true ∧ prepared.result = result ∧
      ∃ cached, prepared.cache = AList.insert pc cached cache := by
  have same := compileCandidate_result compiled
  unfold compileCandidate at compiled
  split at compiled
  · cases compiled
  · next ir lowered =>
      split at compiled
      · cases compiled
      · next nativeBlock succeeded =>
          obtain rfl := Except.ok.inj compiled
          refine ⟨?_, same, _, rfl⟩
          rw [compiles, lowered]
          simp only [succeeded]
          rfl

theorem countsCandidate_error {stopped : R5900DispatchResult}
    (failed : prepareBlock os pc candidate cache result = .error stopped) :
    CountsCandidate os pc candidate cache result cache stopped := by
  unfold prepareBlock at failed
  split at failed
  · next absent =>
      obtain ⟨lookups, misses⟩ := compileCandidate_error failed
      refine ⟨?_, ?_, ?_⟩
      · rw [lookups]
        simp only [R5900DispatchResult.lookups]
        omega
      · simp [misses, absent]
      · simp [absent, compiles_eq_false failed]
  · next cached found =>
      split at failed
      · cases failed
      · obtain ⟨lookups, misses⟩ := compileCandidate_error failed
        refine ⟨lookups, ?_, ?_⟩
        · simp [misses, found]
        · simp [found]

theorem countsCandidate_ok {prepared : PreparedBlock}
    (ready : prepareBlock os pc candidate cache result = .ok prepared) :
    CountsCandidate os pc candidate cache result prepared.cache prepared.result := by
  unfold prepareBlock at ready
  split at ready
  · next absent =>
      obtain ⟨compiled, counted, cached, installed⟩ := compileCandidate_ok ready
      refine ⟨?_, ?_, ?_⟩
      · rw [counted]
        simp only [R5900DispatchResult.lookups]
        omega
      · simp [counted, absent]
      · rw [installed, BlockCache.length_insert_absent absent]
        simp [absent, compiled]
  · next cached found =>
      split at ready
      · obtain rfl := Except.ok.inj ready
        refine ⟨?_, ?_, ?_⟩
        · simp only [R5900DispatchResult.lookups]
          omega
        · simp [found]
        · simp [found]
      · obtain ⟨-, counted, new, installed⟩ := compileCandidate_ok ready
        refine ⟨?_, ?_, ?_⟩
        · rw [counted]
          rfl
        · simp [counted, found]
        · rw [installed, BlockCache.length_insert_present found]
          simp [found]

end Preparation

section Iterations

variable (memory : Ps2MemoryMap) (options : R5900BlockDispatcherOptions)

/-- The iteration selects a candidate at a PC without an entry. -/
def missesCache (loop : DispatchLoop) : Bool :=
  match selectCandidate memory options loop.currentPc with
  | .error _ => false
  | .ok _ => (loop.cache.lookup loop.currentPc).isNone

/-- The iteration compiles a candidate at a PC without an entry. -/
def compilesMiss (os : Nat → ExecutablePageOutcome) (loop : DispatchLoop) : Bool :=
  match selectCandidate memory options loop.currentPc with
  | .error _ => false
  | .ok candidate =>
      (loop.cache.lookup loop.currentPc).isNone &&
        compiles (os loop.result.blocksExecuted) candidate

variable {memory options} {addF32 : BitVec 32 → BitVec 32 → BitVec 32} {maxBlocks : Nat}
  {os : Nat → ExecutablePageOutcome} {loop next final : DispatchLoop}

/-- What an iteration counts and caches, whether it stops the run or goes on. -/
theorem dispatchStep_counts :
    let after := (dispatchStep addF32 memory options maxBlocks os loop).state
    after.result.cacheMisses =
        loop.result.cacheMisses + (if missesCache memory options loop then 1 else 0) ∧
      after.cache.entries.length =
        loop.cache.entries.length +
          (if compilesMiss memory options os loop then 1 else 0) := by
  cases selected : selectCandidate memory options loop.currentPc with
  | error stop =>
      have misses : missesCache memory options loop = false := by
        rw [missesCache, selected]
      have compiled : compilesMiss memory options os loop = false := by
        rw [compilesMiss, selected]
      rw [misses, compiled, dispatchStep, dispatchBlock, selected]
      exact ⟨rfl, rfl⟩
  | ok candidate =>
      have misses : missesCache memory options loop =
          (loop.cache.lookup loop.currentPc).isNone := by
        rw [missesCache, selected]
      have compiled : compilesMiss memory options os loop =
          ((loop.cache.lookup loop.currentPc).isNone &&
            compiles (os loop.result.blocksExecuted) candidate) := by
        rw [compilesMiss, selected]
      rw [misses, compiled, dispatchStep, dispatchBlock, selected]
      simp only [dispatchCandidate]
      split
      · next stopped failed =>
          have counts := countsCandidate_error failed
          exact ⟨counts.cacheMisses, counts.cacheSize⟩
      · next prepared ready =>
          have counts := countsCandidate_ok ready
          obtain ⟨reason, nextPc, after⟩ := afterBlock_loop maxBlocks candidate.boundary
            (loop.execute addF32 candidate prepared)
          rw [after]
          exact ⟨counts.cacheMisses, counts.cacheSize⟩

/-- Before an iteration every counted candidate was executed. -/
def Balanced (loop : DispatchLoop) : Prop :=
  loop.result.lookups = loop.result.blocksExecuted

theorem balanced_execute {candidate : DispatchCandidate} {prepared : PreparedBlock}
    (balanced : Balanced loop)
    (ready : prepareBlock (os loop.result.blocksExecuted) loop.currentPc candidate loop.cache
      loop.result = .ok prepared) :
    Balanced (loop.execute addF32 candidate prepared) := by
  have lookups := (countsCandidate_ok ready).lookups
  have blocks := prepareBlock_blocksExecuted ready
  rw [balanced, ← blocks] at lookups
  exact lookups

theorem Balanced.goesOn (balanced : Balanced loop)
    (continues : dispatchStep addF32 memory options maxBlocks os loop = .continues next) :
    Balanced next := by
  unfold dispatchStep dispatchBlock dispatchCandidate at continues
  split at continues
  · cases continues
  · split at continues
    · cases continues
    · next ready =>
        obtain ⟨rfl, -, -⟩ := afterBlock_continues continues
        exact balanced_execute balanced ready

/-- The last candidate is counted without being executed exactly if it failed. -/
theorem Balanced.stopped (balanced : Balanced loop) (valid : loop.cache.Valid)
    (stops : dispatchStep addF32 memory options maxBlocks os loop = .stopped final) :
    final.result.lookups =
      final.result.blocksExecuted + if final.result.reason.isFailure then 1 else 0 := by
  have selection : SelectionAt memory options loop.currentPc _ := selectionAt
  unfold dispatchStep dispatchBlock at stops
  cases selected : selectCandidate memory options loop.currentPc with
  | error stop =>
      rw [selected] at selection stops
      obtain rfl := StepOutcome.stopped.inj stops
      have kept : (loop.result.stop stop).reason.isFailure = false := by
        rcases selection.reason with reason | reason | reason | reason <;>
          simp [R5900DispatchResult.stop, reason, R5900DispatchStopReason.isFailure]
      rw [kept]
      exact balanced
  | ok candidate =>
      rw [selected] at selection stops
      cases selection with
      | selects found =>
          simp only [dispatchCandidate] at stops
          split at stops
          · next result failed =>
              obtain rfl := StepOutcome.stopped.inj stops
              obtain ⟨failure, blocks, -⟩ := (found.preparationOf valid failed).failure
              rw [if_pos (isFailure_iff.mpr failure), blocks, ← balanced]
              exact (countsCandidate_error failed).lookups
          · next prepared ready =>
              have notFailed := reason_ne_failure_of_afterBlock found.stops stops
              rw [← isFailure_iff] at notFailed
              rw [if_neg notFailed]
              obtain ⟨reason, nextPc, after⟩ := afterBlock_loop maxBlocks
                candidate.boundary (loop.execute addF32 candidate prepared)
              have executed : Balanced (loop.execute addF32 candidate prepared) :=
                balanced_execute balanced ready
              rw [stops] at after
              obtain rfl := after
              exact executed

end Iterations

section Serving

variable (memory : Ps2MemoryMap) (options : R5900BlockDispatcherOptions)

/-- The candidate selected at the PC, if there is one, is cached. -/
def BlockCache.Serves (cache : BlockCache) (pc : BitVec 32) : Prop :=
  ∀ candidate, selectCandidate memory options pc = .ok candidate →
    cache.Holds pc candidate.guestWords

variable {memory options} {addF32 : BitVec 32 → BitVec 32 → BitVec 32} {maxBlocks : Nat}
  {os : Nat → ExecutablePageOutcome} {pc : BitVec 32} {loop final : DispatchLoop}

/-- An iteration on the same memory takes no entry away that still serves. -/
theorem serves_dispatchBlock (valid : loop.cache.Valid) (answer : ExecutablePageOutcome)
    (serves : loop.cache.Serves memory options pc) :
    (dispatchBlock addF32 memory options maxBlocks answer loop).state.cache.Serves
      memory options pc := by
  unfold dispatchBlock
  cases selected : selectCandidate memory options loop.currentPc with
  | error stop => exact serves
  | ok candidate =>
      obtain ⟨block, rest, found⟩ := exists_candidateAt selected
      simp only [dispatchCandidate]
      split
      · exact serves
      · next prepared ready =>
          obtain ⟨reason, nextPc, after⟩ := afterBlock_loop maxBlocks
            candidate.boundary (loop.execute addF32 candidate prepared)
          rw [after]
          intro other otherSelected
          cases found.preparationOf valid ready with
          | ready lower compiled available kept holds others progress =>
              by_cases same : pc = loop.currentPc
              · subst same
                rw [selected] at otherSelected
                obtain rfl := Except.ok.inj otherSelected
                exact holds
              · exact (serves other otherSelected).of_lookup_eq (others pc same)

/-- The block an iteration executes is cached behind it. -/
theorem serves_of_prepared (valid : loop.cache.Valid) {candidate : DispatchCandidate}
    {prepared : PreparedBlock} {answer : ExecutablePageOutcome}
    (selected : selectCandidate memory options loop.currentPc = .ok candidate)
    (ready : prepareBlock answer loop.currentPc candidate loop.cache loop.result =
      .ok prepared) :
    prepared.cache.Serves memory options loop.currentPc := by
  obtain ⟨block, rest, found⟩ := exists_candidateAt selected
  intro other otherSelected
  rw [selected] at otherSelected
  obtain rfl := Except.ok.inj otherSelected
  cases found.preparationOf valid ready with
  | ready lower compiled available kept holds others progress => exact holds

/-- What serves in the middle of a run serves at its end. -/
theorem serves_of_stopsIn
    (run : StopsIn (dispatchStep addF32 memory options maxBlocks os) loop final)
    (valid : loop.cache.Valid) (serves : loop.cache.Serves memory options pc) :
    final.cache.Serves memory options pc := by
  have kept : final.cache.Valid ∧ final.cache.Serves memory options pc := by
    apply run.preserves (fun current => current.cache.Valid ∧
      current.cache.Serves memory options pc) ⟨valid, serves⟩
    rintro current ⟨currentValid, currentServes⟩
    exact ⟨dispatchBlock_valid addF32 memory options maxBlocks currentValid _,
      serves_dispatchBlock currentValid _ currentServes⟩
  exact kept.2

/-- An iteration of a run that fails in no preparation has prepared its candidate. -/
theorem exists_prepared_of_stopsIn
    (run : StopsIn (dispatchStep addF32 memory options maxBlocks os) loop final)
    (valid : loop.cache.Valid) (succeeded : final.result.reason.isFailure = false)
    {candidate : DispatchCandidate}
    (selected : selectCandidate memory options loop.currentPc = .ok candidate) :
    ∃ prepared, prepareBlock (os loop.result.blocksExecuted) loop.currentPc candidate
      loop.cache loop.result = .ok prepared := by
  obtain ⟨block, rest, found⟩ := exists_candidateAt selected
  cases outcome : prepareBlock (os loop.result.blocksExecuted) loop.currentPc candidate
      loop.cache loop.result with
  | ok prepared => exact ⟨prepared, rfl⟩
  | error stopped =>
      have stops : dispatchStep addF32 memory options maxBlocks os loop =
          .stopped { loop with result := stopped } := by
        rw [dispatchStep, dispatchBlock, selected]
        simp only [dispatchCandidate, outcome]
      obtain rfl := run.unique (.stopped stops)
      have failed := isFailure_iff.mpr (found.preparationOf valid outcome).failure.1
      rw [failed] at succeeded
      cases succeeded

/-- The cache a run leaves serves the PC of each of its iterations. -/
theorem serves_currentPc_of_stopsIn
    (run : StopsIn (dispatchStep addF32 memory options maxBlocks os) loop final)
    (valid : loop.cache.Valid) (succeeded : final.result.reason.isFailure = false) :
    final.cache.Serves memory options loop.currentPc := by
  intro candidate selected
  obtain ⟨prepared, ready⟩ := exists_prepared_of_stopsIn run valid succeeded selected
  have servesNext := serves_of_prepared valid selected ready
  have step : dispatchStep addF32 memory options maxBlocks os loop =
      afterBlock maxBlocks candidate.boundary (loop.execute addF32 candidate prepared) := by
    rw [dispatchStep, dispatchBlock, selected]
    simp only [dispatchCandidate, ready]
  obtain ⟨reason, nextPc, after⟩ := afterBlock_loop maxBlocks candidate.boundary
    (loop.execute addF32 candidate prepared)
  rw [← step] at after
  have cached : (dispatchStep addF32 memory options maxBlocks os loop).state.cache =
      prepared.cache := by
    rw [after]
    rfl
  cases run with
  | stopped stops =>
      rw [stops] at cached
      rw [← cached] at servesNext
      exact servesNext candidate selected
  | continues continues rest =>
      have validNext := dispatchBlock_valid addF32 memory options maxBlocks valid
        (os loop.result.blocksExecuted)
      rw [dispatchStep] at continues cached
      rw [continues] at cached validNext
      rw [← cached] at servesNext
      exact serves_of_stopsIn rest validNext servesNext candidate selected

end Serving

section Repetition

variable {memory : Ps2MemoryMap} {options : R5900BlockDispatcherOptions}
  {addF32 : BitVec 32 → BitVec 32 → BitVec 32} {maxBlocks : Nat}
  {os otherOs : Nat → ExecutablePageOutcome} {kept : BlockCache}
  {first second final : DispatchLoop}

/-- A result whose candidates were all hits. -/
structure OnlyHits (result : R5900DispatchResult) : Prop where
  hits : result.cacheHits = result.blocksExecuted
  misses : result.cacheMisses = 0
  recompilations : result.recompilations = 0

/-- The second loop repeats the first on a cache that it finds filled. -/
structure Repeats (kept : BlockCache) (first second : DispatchLoop) : Prop where
  valid : first.cache.Valid
  cache : second.cache = kept
  progress : second.result.progress = first.result.progress
  currentPc : second.currentPc = first.currentPc
  onlyHits : OnlyHits second.result

theorem Repeats.blocksExecuted (repeats : Repeats kept first second) :
    second.result.blocksExecuted = first.result.blocksExecuted :=
  congrArg (·.blocksExecuted) repeats.progress

theorem prepareBlock_of_holds {answer : ExecutablePageOutcome} {pc : BitVec 32}
    {candidate : DispatchCandidate} {result : R5900DispatchResult}
    (holds : kept.Holds pc candidate.guestWords) :
    ∃ nativeBlock, prepareBlock answer pc candidate kept result =
      .ok ⟨nativeBlock, kept, { result with cacheHits := result.cacheHits + 1 }⟩ := by
  obtain ⟨cached, found, hit⟩ := holds
  refine ⟨cached.nativeBlock, ?_⟩
  unfold prepareBlock
  rw [found]
  simp only [hit, if_true]

/-- Both loops make the same of the boundary and the budget. -/
theorem Repeats.afterBlock (repeats : Repeats kept first second)
    (boundary : Option (R5900DispatchStopReason × BitVec 32)) :
    (afterBlock maxBlocks boundary first).Related (Repeats kept)
      (afterBlock maxBlocks boundary second) := by
  have blocks := repeats.blocksExecuted.symm
  apply related_afterBlock maxBlocks repeats blocks
  all_goals obtain ⟨valid, cache, progress, currentPc, hits, misses, recompilations⟩ := repeats
  · intro reason nextPc
    refine ⟨valid, cache, ?_, currentPc, hits, misses, recompilations⟩
    exact congrArg (fun result => { result with reason := reason, nextPc := nextPc }) progress
  · intro reason
    refine ⟨valid, cache, ?_, currentPc, hits, misses, recompilations⟩
    exact congrArg (fun result => { result with reason := reason }) progress

/-- The second loop calls the block it finds where the first prepared one. -/
theorem Repeats.execute (repeats : Repeats kept first second)
    {candidate : DispatchCandidate} {prepared : PreparedBlock}
    {nativeBlock : R5900X64CompiledBlock} (valid : prepared.cache.Valid)
    (progress : prepared.result.progress = first.result.progress) :
    Repeats kept (first.execute addF32 candidate prepared)
      (second.execute addF32 candidate ⟨nativeBlock, kept,
        { second.result with cacheHits := second.result.cacheHits + 1 }⟩) := by
  have counted := congrArg (fun result : R5900DispatchResult =>
    { result with
      blocksExecuted := result.blocksExecuted + 1
      instructionsExecuted := result.instructionsExecuted + candidate.sites.length
      nextPc := first.currentPc + BitVec.ofNat 32 (candidate.sites.length * 4) })
    (repeats.progress.trans progress.symm)
  refine ⟨valid, rfl, ?_, ?_, ?_, repeats.onlyHits.misses, repeats.onlyHits.recompilations⟩
  · rw [← repeats.currentPc] at counted
    simp only [DispatchLoop.execute, ← repeats.currentPc]
    exact counted
  · simp only [DispatchLoop.execute, repeats.currentPc]
  · exact congrArg (· + 1) repeats.onlyHits.hits

/-- One iteration of the repetition against one of a run that failed nowhere. -/
theorem Repeats.dispatchStep
    (run : StopsIn (dispatchStep addF32 memory options maxBlocks os) first final)
    (succeeded : final.result.reason.isFailure = false)
    (keeps : ∀ pc, final.cache.Serves memory options pc → kept.Serves memory options pc)
    (repeats : Repeats kept first second) :
    (dispatchStep addF32 memory options maxBlocks os first).Related (Repeats kept)
      (dispatchStep addF32 memory options maxBlocks otherOs second) := by
  have served := keeps _ (serves_currentPc_of_stopsIn run repeats.valid succeeded)
  have samePc := repeats.currentPc
  cases selected : selectCandidate memory options first.currentPc with
  | error stop =>
      have otherSelected := selected
      rw [← samePc] at otherSelected
      rw [Burnout3Recompiled.dispatchStep, Burnout3Recompiled.dispatchStep, dispatchBlock,
        dispatchBlock, selected, otherSelected]
      exact .stopped ⟨repeats.valid, repeats.cache, progress_stop stop repeats.progress, samePc,
        repeats.onlyHits.hits, repeats.onlyHits.misses, repeats.onlyHits.recompilations⟩
  | ok candidate =>
      obtain ⟨prepared, ready⟩ :=
        exists_prepared_of_stopsIn run repeats.valid succeeded selected
      obtain ⟨nativeBlock, hit⟩ : ∃ nativeBlock,
          prepareBlock (otherOs second.result.blocksExecuted) first.currentPc candidate kept
            second.result = .ok ⟨nativeBlock, kept, _⟩ :=
        prepareBlock_of_holds (served candidate selected)
      obtain ⟨block, rest, found⟩ := exists_candidateAt selected
      have otherSelected := selected
      rw [← samePc] at otherSelected hit
      rw [← repeats.cache] at hit
      rw [Burnout3Recompiled.dispatchStep, Burnout3Recompiled.dispatchStep, dispatchBlock,
        dispatchBlock, selected, otherSelected]
      simp only [dispatchCandidate, ready, hit]
      rw [repeats.cache]
      cases found.preparationOf repeats.valid ready with
      | ready lower compiled available valid holds others progress =>
          exact (repeats.execute valid progress).afterBlock candidate.boundary

end Repetition

/-- The operation runs the dispatcher on the given memory and leaves its cache. -/
def DispatcherOperation.RunsOn (memory : Ps2MemoryMap) : DispatcherOperation → Prop
  | .run ran _ _ _ _ => ran = memory
  | .clearCache => False

namespace R5900BlockDispatcher

variable {addF32 : BitVec 32 → BitVec 32 → BitVec 32} {dispatcher warmed : R5900BlockDispatcher}
  {memory : Ps2MemoryMap} {os otherOs : Nat → ExecutablePageOutcome} {startPc : BitVec 32}
  {state otherState : R5900IrExecutionState} {maxBlocks : Nat}

theorem run_lookups (valid : dispatcher.cache.Valid) :
    let result := (dispatcher.run addF32 memory os startPc state maxBlocks).result
    result.lookups = result.blocksExecuted + if result.reason.isFailure then 1 else 0 := by
  by_cases positive : maxBlocks = 0
  · rw [run, if_pos positive]
    rfl
  · obtain ⟨last, ⟨balanced, within⟩, stops⟩ :=
      (run_stopsIn addF32 dispatcher memory os startPc state positive).exists_last
        (fun loop => Balanced loop ∧ WithinBudget maxBlocks loop)
        ⟨rfl, withinBudget_startLoop valid positive⟩
        fun _ _ holds continues => ⟨holds.1.goesOn continues, holds.2.goesOn continues⟩
    exact balanced.stopped within.valid stops

theorem run_cacheMisses (valid : dispatcher.cache.Valid) :
    (dispatcher.run addF32 memory os startPc state maxBlocks).result.cacheMisses =
      (dispatcher.dispatchIterations addF32 memory os startPc state maxBlocks).countP
        (missesCache memory dispatcher.options) := by
  by_cases positive : maxBlocks = 0
  · subst positive
    rfl
  · rw [run_value_eq_sum addF32 valid positive (fun loop => loop.result.cacheMisses) _
      fun loop _ => dispatchStep_counts.1, sum_map_ite_eq_countP]
    exact Nat.zero_add _

theorem run_cacheSize (valid : dispatcher.cache.Valid) :
    (dispatcher.run addF32 memory os startPc state maxBlocks).cache.entries.length =
      dispatcher.cacheSize +
        (dispatcher.dispatchIterations addF32 memory os startPc state maxBlocks).countP
          (compilesMiss memory dispatcher.options os) := by
  by_cases positive : maxBlocks = 0
  · subst positive
    rfl
  · rw [run_value_eq_sum addF32 valid positive (fun loop => loop.cache.entries.length) _
      fun loop _ => dispatchStep_counts.2, sum_map_ite_eq_countP]
    rfl

theorem foldl_perform_options (operations : List DispatcherOperation) :
    (operations.foldl (perform addF32) dispatcher).options = dispatcher.options := by
  induction operations generalizing dispatcher with
  | nil => rfl
  | cons operation operations ih =>
      rw [List.foldl_cons, ih]
      cases operation <;> rfl

/-- Runs on the same memory keep every entry that serves. -/
theorem serves_foldl {between : List DispatcherOperation} {pc : BitVec 32}
    (sameMemory : ∀ operation ∈ between, operation.RunsOn memory)
    (valid : dispatcher.cache.Valid)
    (serves : dispatcher.cache.Serves memory dispatcher.options pc) :
    (between.foldl (perform addF32) dispatcher).cache.Serves memory dispatcher.options pc := by
  induction between generalizing dispatcher with
  | nil => exact serves
  | cons operation between ih =>
      obtain ⟨here, later⟩ := List.forall_mem_cons.mp sameMemory
      cases operation with
      | clearCache => exact here.elim
      | run ran os startPc state maxBlocks =>
          obtain rfl : ran = memory := here
          have ranValid : (perform addF32 dispatcher
              (.run ran os startPc state maxBlocks)).cache.Valid :=
            run_valid addF32 ran os startPc state valid
          have ranServes : (perform addF32 dispatcher
              (.run ran os startPc state maxBlocks)).cache.Serves ran dispatcher.options pc := by
            simp only [perform]
            by_cases positive : maxBlocks = 0
            · rw [run, if_pos positive]
              exact serves
            · exact serves_of_stopsIn
                (run_stopsIn addF32 dispatcher ran os startPc state positive) valid serves
          exact ih later ranValid ranServes

/-- A run that failed nowhere, repeated on a cache that keeps what it served. -/
theorem repeats_run (valid : dispatcher.cache.Valid)
    (sameOptions : warmed.options = dispatcher.options)
    (succeeded :
      (dispatcher.run addF32 memory os startPc state maxBlocks).result.reason.isFailure = false)
    (keeps : ∀ pc,
      (dispatcher.run addF32 memory os startPc state maxBlocks).cache.Serves memory
        dispatcher.options pc →
      warmed.cache.Serves memory dispatcher.options pc) :
    Repeats warmed.cache (dispatcher.run addF32 memory os startPc state maxBlocks)
      (warmed.run addF32 memory otherOs startPc otherState maxBlocks) := by
  by_cases positive : maxBlocks = 0
  · rw [run, run, if_pos positive, if_pos positive]
    exact ⟨valid, rfl, rfl, rfl, ⟨rfl, rfl, rfl⟩⟩
  · have firstRun := run_stopsIn addF32 dispatcher memory os startPc state positive
    have secondRun := run_stopsIn addF32 warmed memory otherOs startPc otherState positive
    rw [sameOptions] at secondRun
    exact firstRun.lockstepAlong (Repeats warmed.cache) secondRun
      ⟨valid, rfl, rfl, rfl, ⟨rfl, rfl, rfl⟩⟩
      fun first second rest repeats => repeats.dispatchStep rest succeeded keeps

end R5900BlockDispatcher

/-- Every candidate of a run is counted once, and only one that fails is not executed.
The cache grows by the misses that are compiled, among the misses counted.  After a run
without such a failure, and any further runs on the same memory, the run repeated with
any state and any answers of the system finds all its blocks, does the same and leaves
the cache as it was. -/
theorem run_accounts_for_cache (addF32 : BitVec 32 → BitVec 32 → BitVec 32)
    (options : R5900BlockDispatcherOptions) (history : List DispatcherOperation)
    (memory : Ps2MemoryMap) (os : Nat → ExecutablePageOutcome) (startPc : BitVec 32)
    (state : R5900IrExecutionState) (maxBlocks : Nat) :
    let dispatcher := R5900BlockDispatcher.afterHistory addF32 options history
    let final := dispatcher.run addF32 memory os startPc state maxBlocks
    let used := dispatcher.perform addF32 (.run memory os startPc state maxBlocks)
    let iterations := dispatcher.dispatchIterations addF32 memory os startPc state maxBlocks
    final.result.cacheHits + final.result.cacheMisses + final.result.recompilations =
      final.result.blocksExecuted +
        (if final.result.reason = .loweringFailure ∨ final.result.reason = .compileFailure
          then 1 else 0) ∧
    used.cacheSize = dispatcher.cacheSize + iterations.countP (compilesMiss memory options os) ∧
    final.result.cacheMisses = iterations.countP (missesCache memory options) ∧
    (¬(final.result.reason = .loweringFailure ∨ final.result.reason = .compileFailure) →
      ∀ between : List DispatcherOperation, (∀ operation ∈ between, operation.RunsOn memory) →
      ∀ (otherOs : Nat → ExecutablePageOutcome) (otherState : R5900IrExecutionState),
        let warmed := between.foldl (R5900BlockDispatcher.perform addF32) used
        let repetition := warmed.run addF32 memory otherOs startPc otherState maxBlocks
        OnlyHits repetition.result ∧
        repetition.result.reason = final.result.reason ∧
        repetition.result.nextPc = final.result.nextPc ∧
        repetition.result.blocksExecuted = final.result.blocksExecuted ∧
        repetition.result.instructionsExecuted = final.result.instructionsExecuted ∧
        repetition.result.message = final.result.message ∧
        repetition.cache = warmed.cache ∧
        (warmed.perform addF32 (.run memory otherOs startPc otherState maxBlocks)).cacheSize =
          warmed.cacheSize) := by
  intro dispatcher final used iterations
  obtain ⟨valid, sameOptions⟩ : dispatcher.cache.Valid ∧ dispatcher.options = options :=
    R5900BlockDispatcher.afterHistory_valid addF32 options history
  have lookups : final.result.lookups = _ := R5900BlockDispatcher.run_lookups valid
  have misses : final.result.cacheMisses = _ := R5900BlockDispatcher.run_cacheMisses valid
  have size : used.cacheSize = _ := R5900BlockDispatcher.run_cacheSize valid
  rw [sameOptions] at misses size
  simp only [isFailure_iff] at lookups
  refine ⟨lookups, size, misses, ?_⟩
  intro notFailed between sameMemory otherOs otherState warmed repetition
  have succeeded : final.result.reason.isFailure = false := by
    rwa [← isFailure_iff, Bool.not_eq_true] at notFailed
  have usedValid : used.cache.Valid :=
    R5900BlockDispatcher.run_valid addF32 memory os startPc state valid
  have repeats : Repeats warmed.cache final repetition := by
    apply R5900BlockDispatcher.repeats_run valid _ succeeded
    · intro pc serves
      exact R5900BlockDispatcher.serves_foldl sameMemory usedValid serves
    · exact R5900BlockDispatcher.foldl_perform_options between
  have same := repeats.progress
  refine ⟨repeats.onlyHits, congrArg (·.reason) same, congrArg (·.nextPc) same,
    congrArg (·.blocksExecuted) same, congrArg (·.instructionsExecuted) same,
    congrArg (·.message) same, repeats.cache, ?_⟩
  exact congrArg (fun cache : BlockCache => cache.entries.length) repeats.cache

end Burnout3Recompiled
