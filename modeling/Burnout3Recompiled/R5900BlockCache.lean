import Burnout3Recompiled.R5900DispatchCandidate
import Burnout3Recompiled.R5900X64NativeCode

/-!
# The block cache

Every entry is the compilation of the words it stores, at the PC it is filed
under.  A hit therefore hands out the block that lowering and compiling the
candidate would give, whatever guest memory held when the entry was made.
-/

namespace Burnout3Recompiled

structure CachedBlock.Valid (pc : BitVec 32) (cached : CachedBlock) : Prop where
  startPc : cached.startPc = pc
  endPc : cached.endPcExclusive = instructionPc pc cached.guestWords.length
  fingerprint : cached.fingerprint = fingerprintGuestWords pc cached.guestWords
  count : cached.guestInstructionCount = cached.guestWords.length
  nonempty : cached.guestWords ≠ []
  lower : ∀ site ∈ sitesFrom pc cached.guestWords, site.Lowers
  compiled : compileR5900IrX64 .success
    ((sitesFrom pc cached.guestWords).flatMap R5900InstructionSite.lowered) =
      .ok cached.nativeBlock

namespace BlockCache

def Valid (cache : BlockCache) : Prop :=
  ∀ pc cached, cache.lookup pc = some cached → cached.Valid pc

/-- The words are cached at the PC. -/
def Holds (cache : BlockCache) (pc : BitVec 32) (words : List (BitVec 32)) : Prop :=
  ∃ cached, cache.lookup pc = some cached ∧ exactCacheHit pc words cached = true

theorem valid_empty : Valid ∅ := by
  intro pc cached found
  rw [AList.lookup_empty] at found
  cases found

theorem Valid.insert {cache : BlockCache} {pc : BitVec 32} {cached : CachedBlock}
    (valid : cache.Valid) (entry : cached.Valid pc) :
    Valid (AList.insert pc cached cache) := by
  intro other stored found
  by_cases same : other = pc
  · subst same
    rw [AList.lookup_insert] at found
    obtain rfl := Option.some.inj found
    exact entry
  · rw [AList.lookup_insert_ne same] at found
    exact valid other stored found

theorem holds_insert {cache : BlockCache} {pc : BitVec 32} {cached : CachedBlock}
    (entry : cached.Valid pc) :
    Holds (AList.insert pc cached cache) pc cached.guestWords := by
  refine ⟨cached, AList.lookup_insert cache, ?_⟩
  exact decide_eq_true ⟨entry.startPc, entry.count, entry.fingerprint, rfl⟩

theorem Holds.of_lookup_eq {cache other : BlockCache} {pc : BitVec 32}
    {words : List (BitVec 32)} (same : other.lookup pc = cache.lookup pc)
    (holds : cache.Holds pc words) : other.Holds pc words := by
  obtain ⟨cached, found, hit⟩ := holds
  exact ⟨cached, same.trans found, hit⟩

end BlockCache

theorem guestWords_of_exactCacheHit {pc : BitVec 32} {words : List (BitVec 32)}
    {cached : CachedBlock} (hit : exactCacheHit pc words cached = true) :
    cached.guestWords = words :=
  (of_decide_eq_true hit).2.2.2

/-- What a result reports besides the cache statistics. -/
def R5900DispatchResult.progress (result : R5900DispatchResult) : R5900DispatchResult :=
  { result with
    cacheHits := 0
    cacheMisses := 0
    recompilations := 0 }

theorem progress_stop {first second : R5900DispatchResult} (stop : DispatchStop)
    (same : first.progress = second.progress) :
    (first.stop stop).progress = (second.stop stop).progress :=
  congrArg (·.stop stop) same

theorem compileR5900IrX64_success {os : ExecutablePageOutcome}
    {ir : List R5900IrInstruction} {block : R5900X64CompiledBlock}
    (compiled : compileR5900IrX64 os ir = .ok block) :
    os = .success := by
  unfold compileR5900IrX64 at compiled
  obtain ⟨-, -, emitted⟩ := OrderedChecks.bind_eq_ok_iff.mp compiled
  obtain ⟨body, -, published⟩ := OrderedChecks.bind_eq_ok_iff.mp emitted
  cases os with
  | success => rfl
  | _ => cases published

section Preparation

variable (os : ExecutablePageOutcome) (pc : BitVec 32) (candidate : DispatchCandidate)
  (cache : BlockCache) (result : R5900DispatchResult)

/-- The ways a preparation ends.  Only a system call can make the compilation
fail, and only where the cache does not hold the words. -/
inductive PreparationOf : Except R5900DispatchResult PreparedBlock → Prop
  | loweringFails {failurePc : BitVec 32} {message : String} {stopped : R5900DispatchResult}
      (lowered : lowerSites candidate.sites = .error (failurePc, message))
      (progress : stopped.progress = (result.stop ⟨.loweringFailure, failurePc,
        formatStageError "lowering" failurePc message⟩).progress) :
      PreparationOf (.error stopped)
  | compileFails {failure : R5900X64CompileFailure} {stopped : R5900DispatchResult}
      (lower : ∀ site ∈ candidate.sites, site.Lowers)
      (unavailable : ¬(os = .success ∨ cache.Holds pc candidate.guestWords))
      (progress : stopped.progress = (result.stop ⟨.compileFailure, pc,
        formatStageError "x64 compile" pc failure.message⟩).progress) :
      PreparationOf (.error stopped)
  | ready {prepared : PreparedBlock}
      (lower : ∀ site ∈ candidate.sites, site.Lowers)
      (compiled : compileR5900IrX64 .success
        (candidate.sites.flatMap R5900InstructionSite.lowered) = .ok prepared.nativeBlock)
      (available : os = .success ∨ cache.Holds pc candidate.guestWords)
      (valid : prepared.cache.Valid)
      (holds : prepared.cache.Holds pc candidate.guestWords)
      (others : ∀ other, other ≠ pc → prepared.cache.lookup other = cache.lookup other)
      (progress : prepared.result.progress = result.progress) :
      PreparationOf (.ok prepared)

variable {os pc candidate cache result}

/-- A preparation that fails counts nothing as executed. -/
theorem PreparationOf.failure {stopped : R5900DispatchResult}
    (preparation : PreparationOf os pc candidate cache result (.error stopped)) :
    (stopped.reason = .loweringFailure ∨ stopped.reason = .compileFailure) ∧
      stopped.blocksExecuted = result.blocksExecuted ∧
      stopped.instructionsExecuted = result.instructionsExecuted := by
  cases preparation with
  | loweringFails lowered progress =>
      exact ⟨.inl (congrArg (·.reason) progress), congrArg (·.blocksExecuted) progress,
        congrArg (·.instructionsExecuted) progress⟩
  | compileFails lower unavailable progress =>
      exact ⟨.inr (congrArg (·.reason) progress), congrArg (·.blocksExecuted) progress,
        congrArg (·.instructionsExecuted) progress⟩

/-- A hit needs neither lowering nor compilation. -/
theorem preparationOf_hit {cached : CachedBlock} (valid : cache.Valid)
    (sites : candidate.sites = sitesFrom pc candidate.guestWords)
    (found : cache.lookup pc = some cached)
    (hit : exactCacheHit pc candidate.guestWords cached = true) :
    PreparationOf os pc candidate cache result
      (.ok ⟨cached.nativeBlock, cache,
        { result with cacheHits := result.cacheHits + 1 }⟩) := by
  have entry := valid pc cached found
  have words := guestWords_of_exactCacheHit hit
  have lower := entry.lower
  have compiled := entry.compiled
  rw [words, ← sites] at lower compiled
  exact .ready lower compiled (.inr ⟨cached, found, hit⟩) valid ⟨cached, found, hit⟩
    (fun _ _ => rfl) rfl

/-- Without a hit the candidate is lowered and compiled. -/
theorem preparationOf_compileCandidate {counted : R5900DispatchResult}
    (valid : cache.Valid) (nonempty : candidate.sites ≠ [])
    (sites : candidate.sites = sitesFrom pc candidate.guestWords)
    (missing : ¬cache.Holds pc candidate.guestWords)
    (progress : counted.progress = result.progress) :
    PreparationOf os pc candidate cache result
      (compileCandidate os pc candidate cache counted) := by
  unfold compileCandidate
  rcases lower_or_firstFailure candidate.sites with
    lower | ⟨before, site, after, split, earlier, fails⟩
  · have lowerWords := lower
    rw [sites] at lowerWords
    obtain ⟨block, -, compiled, -, -⟩ :=
      compileR5900IrX64_encodes (wellFormed_of_lower lowerWords)
    rw [← sites] at compiled
    rw [lowerSites_eq_ok lower]
    simp only
    split
    · next failure failed =>
        refine .compileFails lower ?_ (progress_stop _ progress)
        rintro (rfl | held)
        · rw [compiled] at failed
          cases failed
        · exact missing held
    · next made succeeded =>
        obtain rfl := compileR5900IrX64_success succeeded
        have entry : CachedBlock.Valid pc
            { startPc := pc
              endPcExclusive := pc + BitVec.ofNat 32 (candidate.sites.length * 4)
              fingerprint := fingerprintGuestWords pc candidate.guestWords
              guestWords := candidate.guestWords
              guestInstructionCount := candidate.guestWords.length
              nativeBlock := made } := by
          refine ⟨rfl, ?_, rfl, rfl, ?_, lowerWords, by simp only [← sites, succeeded]⟩
          · simp only [instructionPc, sites, length_sitesFrom, Nat.mul_comm]
          · rintro (wordless : candidate.guestWords = [])
            rw [wordless] at sites
            exact nonempty sites
        exact .ready lower succeeded (.inl rfl) (valid.insert entry)
          (BlockCache.holds_insert entry)
          (fun other different => AList.lookup_insert_ne different) progress
  · have lowered : lowerSites candidate.sites = .error (site.pc,
        (lowerR5900Instruction site.decoded site.pc).message) := by
      rw [split, lowerSites_eq_error earlier fails]
    rw [lowered]
    exact .loweringFails lowered (progress_stop _ progress)

theorem preparationOf_prepareBlock (valid : cache.Valid) (nonempty : candidate.sites ≠ [])
    (sites : candidate.sites = sitesFrom pc candidate.guestWords) :
    PreparationOf os pc candidate cache result
      (prepareBlock os pc candidate cache result) := by
  unfold prepareBlock
  split
  · next absent =>
      refine preparationOf_compileCandidate valid nonempty sites ?_ rfl
      rintro ⟨cached, held, -⟩
      rw [absent] at held
      cases held
  · next cached found =>
      split
      · next hit => exact preparationOf_hit valid sites found hit
      · next stale =>
          refine preparationOf_compileCandidate valid nonempty sites ?_ rfl
          rintro ⟨other, held, hit⟩
          rw [found] at held
          obtain rfl := Option.some.inj held
          exact stale hit

theorem CandidateAt.preparationOf {memory : Ps2MemoryMap}
    {options : R5900BlockDispatcherOptions} {block : R5900BasicBlock}
    {rest : List R5900InstructionSite} {outcome : Except R5900DispatchResult PreparedBlock}
    (found : CandidateAt memory options pc block rest candidate) (valid : cache.Valid)
    (prepared : prepareBlock os pc candidate cache result = outcome) :
    PreparationOf os pc candidate cache result outcome := by
  rw [← prepared]
  exact preparationOf_prepareBlock valid found.nonempty found.sites

end Preparation

end Burnout3Recompiled
