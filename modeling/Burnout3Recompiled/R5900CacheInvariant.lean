import Burnout3Recompiled.R5900DispatchRun

/-!
# What the block cache holds

In every state of a dispatcher an entry is the compilation of the words it stores,
with a fingerprint of exactly these words.  A candidate that cannot be lowered or
compiled ends its run and leaves the cache, the execution state and the counts of
executed code as they were.
-/

namespace Burnout3Recompiled

open LittleEndianMemory (bytesOf)

/-- The 64-bit FNV-1a hash of a sequence of bytes. -/
def fnv1a (bytes : List (BitVec 8)) : BitVec 64 :=
  bytes.foldl (fun hash byte => (hash ^^^ byte.setWidth 64) * 1099511628211)
    14695981039346656037

theorem fnvU32Le_eq_foldl (hash : BitVec 64) (value : BitVec 32) :
    fnvU32Le hash value = (bytesOf value 4).foldl fnvByte hash := by
  simp only [fnvU32Le, List.foldl_cons, List.foldl_nil, maskedByte value 0xFF _ rfl]
  rfl

theorem fnvU64Le_eq_foldl (hash : BitVec 64) (value : BitVec 64) :
    fnvU64Le hash value = (bytesOf value 8).foldl fnvByte hash := by
  simp only [fnvU64Le, List.foldl_cons, List.foldl_nil, maskedByte value 0xFF _ rfl]
  rfl

/-- The fingerprint hashes the PC, the number of words and the words, each in little
endian. -/
theorem fingerprintGuestWords_eq_fnv1a (pc : BitVec 32) (words : List (BitVec 32)) :
    fingerprintGuestWords pc words =
      fnv1a (bytesOf pc 4 ++ bytesOf (BitVec.ofNat 64 words.length) 8 ++
        words.flatMap (bytesOf · 4)) := by
  have hashed : ∀ hash, words.foldl fnvU32Le hash =
      (words.flatMap (bytesOf · 4)).foldl fnvByte hash := by
    induction words with
    | nil => exact fun _ => rfl
    | cons word words ih =>
        intro hash
        rw [List.foldl_cons, List.flatMap_cons, List.foldl_append, ih, fnvU32Le_eq_foldl]
  rw [fingerprintGuestWords, hashed, fnvU32Le_eq_foldl, fnvU64Le_eq_foldl,
    ← List.foldl_append, ← List.foldl_append]
  rfl

/-- An entry filed under `pc` describes its own words and owns the code compiled
from them. -/
structure CachedBlock.CompiledFromWords (pc : BitVec 32) (cached : CachedBlock) : Prop where
  startPc : cached.startPc = pc
  nonempty : cached.guestWords ≠ []
  count : cached.guestInstructionCount = cached.guestWords.length
  endPc : cached.endPcExclusive = pc + BitVec.ofNat 32 (4 * cached.guestWords.length)
  fingerprint : cached.fingerprint =
    fnv1a (bytesOf pc 4 ++ bytesOf (BitVec.ofNat 64 cached.guestWords.length) 8 ++
      cached.guestWords.flatMap (bytesOf · 4))
  native : cached.nativeBlock.code ≠ []
  compiled : ∃ ir, lowerSites (sitesFrom pc cached.guestWords) = .ok ir ∧
    compileR5900IrX64 .success ir = .ok cached.nativeBlock

theorem CachedBlock.Valid.compiledFromWords {pc : BitVec 32} {cached : CachedBlock}
    (valid : cached.Valid pc) : cached.CompiledFromWords pc where
  startPc := valid.startPc
  nonempty := valid.nonempty
  count := valid.count
  endPc := valid.endPc
  fingerprint := valid.fingerprint.trans (fingerprintGuestWords_eq_fnv1a pc _)
  native := cached.nativeBlock.nonempty
  compiled := ⟨_, lowerSites_eq_ok valid.lower, valid.compiled⟩

section Failures

variable {os : ExecutablePageOutcome} {pc : BitVec 32} {candidate : DispatchCandidate}
  {cache : BlockCache} {result : R5900DispatchResult}

/-- No code can be made for the candidate. -/
inductive FailsToCompile (os : ExecutablePageOutcome) (candidate : DispatchCandidate) :
    R5900DispatchStopReason → Prop
  | lowering {failure : BitVec 32 × String}
      (failed : lowerSites candidate.sites = .error failure) :
      FailsToCompile os candidate .loweringFailure
  | compile {ir : List R5900IrInstruction} {failure : R5900X64CompileFailure}
      (lowered : lowerSites candidate.sites = .ok ir)
      (failed : compileR5900IrX64 os ir = .error failure) :
      FailsToCompile os candidate .compileFailure

theorem FailsToCompile.compileCandidate {reason : R5900DispatchStopReason}
    (fails : FailsToCompile os candidate reason) :
    ∃ stopped, compileCandidate os pc candidate cache result = .error stopped ∧
      stopped.reason = reason := by
  unfold Burnout3Recompiled.compileCandidate
  cases fails with
  | lowering failed =>
      rw [failed]
      exact ⟨_, rfl, rfl⟩
  | compile lowered failed =>
      rw [lowered]
      simp only [failed]
      exact ⟨_, rfl, rfl⟩

/-- Without a hit the failure is the outcome of the preparation. -/
theorem FailsToCompile.prepareBlock {reason : R5900DispatchStopReason}
    (fails : FailsToCompile os candidate reason)
    (missing : ¬cache.Holds pc candidate.guestWords) :
    ∃ stopped, prepareBlock os pc candidate cache result = .error stopped ∧
      stopped.reason = reason := by
  unfold Burnout3Recompiled.prepareBlock
  split
  · exact fails.compileCandidate
  · next cached found =>
      rw [if_neg fun hit => missing ⟨cached, found, hit⟩]
      exact fails.compileCandidate

theorem failsToCompile_of_compileCandidate {stopped : R5900DispatchResult}
    (failed : compileCandidate os pc candidate cache result = .error stopped) :
    FailsToCompile os candidate stopped.reason := by
  unfold compileCandidate at failed
  split at failed
  · next lowered =>
      obtain rfl := Except.error.inj failed
      exact .lowering lowered
  · next ir lowered =>
      split at failed
      · next refused =>
          obtain rfl := Except.error.inj failed
          exact .compile lowered refused
      · cases failed

/-- A preparation that fails had no hit and no code to install. -/
theorem failsToCompile_of_prepareBlock {stopped : R5900DispatchResult}
    (failed : prepareBlock os pc candidate cache result = .error stopped) :
    ¬cache.Holds pc candidate.guestWords ∧
      FailsToCompile os candidate stopped.reason := by
  unfold prepareBlock at failed
  split at failed
  · next absent =>
      refine ⟨?_, failsToCompile_of_compileCandidate failed⟩
      rintro ⟨cached, found, -⟩
      rw [absent] at found
      cases found
  · next cached found =>
      split at failed
      · cases failed
      · next stale =>
          refine ⟨?_, failsToCompile_of_compileCandidate failed⟩
          rintro ⟨other, held, hit⟩
          rw [found] at held
          obtain rfl := Option.some.inj held
          exact stale hit

end Failures

section Runs

variable (memory : Ps2MemoryMap) (dispatcher : R5900BlockDispatcher)
  (os : Nat → ExecutablePageOutcome)

/-- The iteration selects a candidate that is not cached and cannot be compiled. -/
def FailsAt (loop : DispatchLoop) (reason : R5900DispatchStopReason) : Prop :=
  ∃ candidate,
    selectCandidate memory dispatcher.options loop.currentPc = .ok candidate ∧
      ¬loop.cache.Holds loop.currentPc candidate.guestWords ∧
      FailsToCompile (os loop.result.blocksExecuted) candidate reason

/-- A run stopped at `loop` with the given reason and none of its work done. -/
structure LeavesUntouched (loop final : DispatchLoop) (reason : R5900DispatchStopReason) :
    Prop where
  reason : final.result.reason = reason
  cache : final.cache = loop.cache
  state : final.state = loop.state
  blocksExecuted : final.result.blocksExecuted = loop.result.blocksExecuted
  instructionsExecuted : final.result.instructionsExecuted =
    loop.result.instructionsExecuted

variable {memory dispatcher os} {addF32 : BitVec 32 → BitVec 32 → BitVec 32}
  {maxBlocks : Nat} {loop final : DispatchLoop} {reason : R5900DispatchStopReason}

/-- An iteration whose candidate fails stops the run as it was. -/
theorem FailsAt.stops (fails : FailsAt memory dispatcher os loop reason)
    (valid : loop.cache.Valid) :
    ∃ final, dispatchStep addF32 memory dispatcher.options maxBlocks os loop =
        .stopped final ∧ LeavesUntouched loop final reason := by
  obtain ⟨candidate, selected, missing, failed⟩ := fails
  obtain ⟨stopped, prepared, same⟩ : ∃ stopped, prepareBlock
      (os loop.result.blocksExecuted) loop.currentPc candidate loop.cache loop.result =
        .error stopped ∧ stopped.reason = reason := failed.prepareBlock missing
  refine ⟨{ loop with result := stopped }, ?_, ?_⟩
  · rw [dispatchStep, dispatchBlock, selected]
    simp only [dispatchCandidate, prepared]
  · obtain ⟨block, rest, found⟩ := exists_candidateAt selected
    obtain ⟨-, blocks, instructions⟩ := (found.preparationOf valid prepared).failure
    exact ⟨same, rfl, rfl, blocks, instructions⟩

theorem reason_ne_failure_of_afterBlock {boundary : Option (R5900DispatchStopReason × BitVec 32)}
    {rest : List R5900InstructionSite} {ran : DispatchLoop}
    (stops : StopsBefore rest boundary)
    (stopped : afterBlock maxBlocks boundary ran = .stopped final) :
    ¬(final.result.reason = .loweringFailure ∨ final.result.reason = .compileFailure) := by
  cases stops with
  | atEnd =>
      simp only [afterBlock] at stopped
      split at stopped
      · obtain rfl := StepOutcome.stopped.inj stopped
        simp
      · cases stopped
  | atSite stops =>
      obtain rfl := StepOutcome.stopped.inj stopped
      rcases dispatchBoundary_ne_failure stops with rfl | rfl | rfl <;> simp

/-- An iteration that stops with one of the two failures has such a candidate. -/
theorem failsAt_of_stopped
    (stopped : dispatchStep addF32 memory dispatcher.options maxBlocks os loop =
      .stopped final)
    (failure : final.result.reason = .loweringFailure ∨
      final.result.reason = .compileFailure) :
    FailsAt memory dispatcher os loop final.result.reason := by
  have selection : SelectionAt memory dispatcher.options loop.currentPc _ := selectionAt
  unfold dispatchStep dispatchBlock at stopped
  cases selected : selectCandidate memory dispatcher.options loop.currentPc with
  | error stop =>
      rw [selected] at selection stopped
      obtain rfl := StepOutcome.stopped.inj stopped
      rcases selection.reason with reason | reason | reason | reason <;>
        simp [R5900DispatchResult.stop, reason] at failure
  | ok candidate =>
      rw [selected] at selection stopped
      cases selection with
      | selects found =>
          simp only [dispatchCandidate] at stopped
          split at stopped
          · next result failed =>
              obtain rfl := StepOutcome.stopped.inj stopped
              exact ⟨candidate, selected, failsToCompile_of_prepareBlock failed⟩
          · exact absurd failure (reason_ne_failure_of_afterBlock found.stops stopped)

end Runs

/-- Whatever a dispatcher was used for, its entries are compilations of the words they
store, between its runs and between the iterations of a run.  A candidate that
cannot be lowered or compiled ends its run with the cache, the state and the counts
of executed code as they were, and a run that reports such a failure met such a
candidate. -/
theorem cache_invariant (addF32 : BitVec 32 → BitVec 32 → BitVec 32)
    (options : R5900BlockDispatcherOptions) (history : List DispatcherOperation)
    (memory : Ps2MemoryMap) (os : Nat → ExecutablePageOutcome) (startPc : BitVec 32)
    (state : R5900IrExecutionState) (maxBlocks : Nat) :
    let dispatcher := R5900BlockDispatcher.afterHistory addF32 options history
    let final := dispatcher.run addF32 memory os startPc state maxBlocks
    let iterations := dispatcher.dispatchIterations addF32 memory os startPc state maxBlocks
    (∀ pc cached, dispatcher.cache.lookup pc = some cached → cached.CompiledFromWords pc) ∧
    (∀ loop ∈ iterations, ∀ pc cached, loop.cache.lookup pc = some cached →
      cached.CompiledFromWords pc) ∧
    (∀ loop ∈ iterations, ∀ reason, FailsAt memory dispatcher os loop reason →
      LeavesUntouched loop final reason) ∧
    (final.result.reason = .loweringFailure ∨ final.result.reason = .compileFailure →
      ∃ loop ∈ iterations, FailsAt memory dispatcher os loop final.result.reason) := by
  intro dispatcher final iterations
  have valid : dispatcher.cache.Valid :=
    (R5900BlockDispatcher.afterHistory_valid addF32 options history).1
  have validAt : ∀ loop ∈ iterations, loop.cache.Valid := fun loop member =>
    (R5900BlockDispatcher.withinBudget_of_mem_dispatchIterations addF32 valid member).valid
  refine ⟨fun pc cached found => (valid pc cached found).compiledFromWords,
    fun loop member pc cached found => (validAt loop member pc cached found).compiledFromWords,
    ?_, ?_⟩
  · intro loop member reason fails
    obtain ⟨stop, stopped, untouched⟩ := fails.stops (validAt loop member)
    have reached : final = stop :=
      R5900BlockDispatcher.run_eq_of_stopped addF32 member stopped
    rwa [← reached] at untouched
  · intro failure
    have positive : maxBlocks ≠ 0 := by
      intro empty
      simp only [final, R5900BlockDispatcher.run, if_pos empty] at failure
      rcases failure with failure | failure <;> cases failure
    obtain ⟨last, member, stopped⟩ :=
      R5900BlockDispatcher.exists_last_dispatchIteration addF32 valid positive
    exact ⟨last, member, failsAt_of_stopped stopped failure⟩

end Burnout3Recompiled
