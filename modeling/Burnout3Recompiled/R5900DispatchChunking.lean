import Burnout3Recompiled.R5900DispatchRoom
import Burnout3Recompiled.R5900DispatcherProgress
import Burnout3Recompiled.R5900DispatcherRefinement
import Burnout3Recompiled.R5900MaximalBlock

/-!
# The chunk limit

The instruction limit cuts a run into chunks, and a chunk is analysed as a whole
before any of it is executed.  Where every such look-ahead succeeds the limit does
not matter: the run stops at the first instruction it cannot execute, behind the
instructions in front of it.  A look-ahead that fails ends the run at the start of
its chunk, less than a chunk in front of that instruction.  All this is about limits for
which a vector has room.
-/

namespace Burnout3Recompiled

section Analysis

variable {memory : Ps2MemoryMap} {requireExecutable : Bool} {pc : BitVec 32}

theorem LowersAt.fetches (lowers : LowersAt memory requireExecutable pc) :
    ∃ site, fetchSite memory pc requireExecutable = some site ∧ site.IsStartup ∧
      site.decoded.endsBlock = false := by
  obtain ⟨word, read, executable, succeeds⟩ := lowers
  have eligible := (lowerR5900Instruction_ok_iff_eligible.mp succeeds).1
  refine ⟨⟨pc, decodeR5900 word⟩, fetchSite_eq_some_iff.mpr ⟨word, read, executable, rfl⟩,
    ?_, endsBlock_of_eligible eligible⟩
  rw [R5900InstructionSite.IsStartup, decodeR5900_raw]
  exact lowerR5900Instruction_ok_iff.mp succeeds

/-- No startup instruction ends the fetch loop, so it runs to its limit. -/
theorem analyzeInstructions_of_lowersAt (block : R5900BasicBlock) (remaining : Nat)
    (lowers : ∀ index < remaining,
      LowersAt memory requireExecutable (instructionPc pc index)) :
    ∃ result, analyzeInstructions memory requireExecutable block pc remaining =
      .ok result := by
  induction remaining generalizing block pc with
  | zero => exact ⟨_, rfl⟩
  | succ remaining ih =>
      have first := lowers 0 (Nat.zero_lt_succ remaining)
      rw [instructionPc_zero] at first
      obtain ⟨site, fetched, -, continues⟩ := first.fetches
      rw [analyzeInstructions_continues fetched continues]
      apply ih
      intro index inside
      rw [← instructionPc_succ]
      exact lowers (index + 1) (Nat.succ_lt_succ inside)

theorem instructionPc_aligned (aligned : pc &&& 0x3 = 0) (index : Nat) :
    instructionPc pc index &&& 0x3 = 0 := by
  rw [and_three_eq_zero_iff] at aligned ⊢
  rw [instructionPc, BitVec.toNat_add, BitVec.toNat_ofNat]
  omega

/-- An analysis with a limit fails only at an instruction that cannot be executed. -/
theorem exists_not_lowersAt_of_analyzed {options : R5900ControlFlowOptions}
    {failure : R5900ControlFlowFailure} (positive : options.maxInstructions ≠ 0)
    (aligned : pc &&& 0x3 = 0)
    (analyzed : analyzeR5900BasicBlock memory pc options = .error failure) :
    ∃ ahead < options.maxInstructions,
      ¬LowersAt memory options.requireExecutable (instructionPc pc ahead) := by
  by_contra none
  push Not at none
  obtain ⟨block, succeeds⟩ :=
    analyzeInstructions_of_lowersAt { startPc := pc } options.maxInstructions none
  rw [analyzeR5900BasicBlock, if_neg positive, if_neg (not_not.mpr aligned), succeeds]
    at analyzed
  cases analyzed

end Analysis

section Counts

variable {addF32 : BitVec 32 → BitVec 32 → BitVec 32} {memory : Ps2MemoryMap}

/-- Every native block holds an instruction. -/
theorem dispatchBlock_blocksExecuted_le {options : R5900BlockDispatcherOptions}
    {loop : DispatchLoop} (valid : loop.cache.Valid)
    (counted : loop.result.blocksExecuted ≤ loop.result.instructionsExecuted)
    (maxBlocks : Nat) (os : ExecutablePageOutcome) :
    (dispatchBlock addF32 memory options maxBlocks os loop).state.result.blocksExecuted ≤
      (dispatchBlock addF32 memory options maxBlocks os
        loop).state.result.instructionsExecuted := by
  have step := stepOf_dispatchBlock addF32 memory options maxBlocks os valid
  generalize dispatchBlock addF32 memory options maxBlocks os loop = outcome at step ⊢
  cases step with
  | rejected selected => exact counted
  | unprepared found preparation =>
      obtain ⟨-, blocks, instructions⟩ := preparation.failure
      exact blocks.trans_le (counted.trans_eq instructions.symm)
  | executes found preparation =>
      have run := executed_of_ready addF32 memory options found preparation
      have blocks := run.blocksExecuted
      have instructions := run.instructionsExecuted
      have nonempty := run.nonempty
      obtain ⟨reason, nextPc, after⟩ := afterBlock_loop maxBlocks _ _
      rw [after]
      simp only [blocks, instructions]
      omega

theorem run_blocksExecuted_le (dispatcher : R5900BlockDispatcher)
    (os : Nat → ExecutablePageOutcome) (startPc : BitVec 32)
    (state : R5900IrExecutionState) (maxBlocks : Nat) (valid : dispatcher.cache.Valid) :
    (dispatcher.run addF32 memory os startPc state maxBlocks).result.blocksExecuted ≤
      (dispatcher.run addF32 memory os startPc state
        maxBlocks).result.instructionsExecuted := by
  by_cases positive : maxBlocks = 0
  · rw [R5900BlockDispatcher.run, if_pos positive]
    exact le_refl 0
  · have run : StopsIn _ _ (dispatcher.run addF32 memory os startPc state maxBlocks) :=
      R5900BlockDispatcher.run_stopsIn addF32 _ memory os startPc state positive
    refine (run.preserves (fun loop => loop.cache.Valid ∧
      loop.result.blocksExecuted ≤ loop.result.instructionsExecuted)
      ⟨valid, le_refl 0⟩ ?_).2
    rintro loop ⟨kept, counted⟩
    exact ⟨dispatchBlock_valid addF32 memory dispatcher.options maxBlocks kept _,
      dispatchBlock_blocksExecuted_le kept counted maxBlocks _⟩

variable {options : R5900BlockDispatcherOptions} {startPc : BitVec 32}
  {state : R5900IrExecutionState} {first second : DispatchLoop}

/-- The number of executed instructions determines the state. -/
theorem RefinesInterpreter.state_eq {otherOptions : R5900BlockDispatcherOptions}
    (refines : RefinesInterpreter addF32 memory options startPc state first)
    (otherRefines : RefinesInterpreter addF32 memory otherOptions startPc state second)
    (counted : first.result.blocksExecuted ≤ first.result.instructionsExecuted)
    (otherCounted : second.result.blocksExecuted ≤ second.result.instructionsExecuted)
    (same : first.result.instructionsExecuted = second.result.instructionsExecuted) :
    first.state = second.state := by
  by_cases unstarted : first.result.blocksExecuted = 0
  · have none := (refines.unstarted unstarted).1
    have otherUnstarted : second.result.blocksExecuted = 0 := by omega
    rw [(refines.unstarted unstarted).2, (otherRefines.unstarted otherUnstarted).2]
  · have otherStarted : second.result.blocksExecuted ≠ 0 := by
      intro otherUnstarted
      have none := (otherRefines.unstarted otherUnstarted).1
      omega
    have execution := refines.started unstarted
    rw [same, otherRefines.started otherStarted] at execution
    exact (congrArg Prod.snd execution).symm

end Counts

/-- The same options with another limit for the analyser. -/
def R5900BlockDispatcherOptions.withLimit (options : R5900BlockDispatcherOptions)
    (limit : Nat) : R5900BlockDispatcherOptions :=
  { options with blockOptions := { options.blockOptions with maxInstructions := limit } }

/-- A fresh dispatcher with the given limit. -/
def R5900BlockDispatcherOptions.limitedDispatcher (options : R5900BlockDispatcherOptions)
    (limit : Nat) : R5900BlockDispatcher where
  options := options.withLimit limit

section Limits

variable (addF32 : BitVec 32 → BitVec 32 → BitVec 32) (memory : Ps2MemoryMap)
  (options : R5900BlockDispatcherOptions) (startPc : BitVec 32)
  (state : R5900IrExecutionState)

/-- The run of a fresh dispatcher for which the system makes every native block. -/
def limitedRun (limit maxBlocks : Nat) : DispatchLoop :=
  (options.limitedDispatcher limit).run addF32 memory (fun _ => .success) startPc state
    maxBlocks

/-- The call behind it, when no vector holds more than `maxSize` instructions. -/
def limitedCall (maxSize limit maxBlocks : Nat) : Except ThrownRun DispatchLoop :=
  (options.limitedDispatcher limit).runIn (.granting maxSize) addF32 memory
    (fun _ => .success) startPc state maxBlocks

/-- The run has a limit and a budget, the budget lasts, and everything the
dispatcher selects lowers. -/
structure Settles (limit maxBlocks : Nat) : Prop where
  limitPositive : 1 ≤ limit
  budgetPositive : 1 ≤ maxBlocks
  lasts : (limitedRun addF32 memory options startPc state limit maxBlocks).result.reason ≠
    .blockBudgetExhausted
  lowers : (limitedRun addF32 memory options startPc state limit maxBlocks).result.reason ≠
    .loweringFailure

/-- The two ways a settled run stops: in front of an instruction it cannot execute,
or in front of a chunk whose look-ahead meets one. -/
inductive LimitedStop (limit : Nat) : R5900DispatchStopReason → Nat → Prop
  | boundary {index : Nat} {site : R5900InstructionSite}
      (fetched : fetchSite memory (instructionPc startPc index)
        options.blockOptions.requireExecutable = some site)
      (outside : ¬site.IsStartup) :
      LimitedStop limit site.decoded.boundaryReason index
  | lookahead {index ahead : Nat} (whole : limit ∣ index) (near : ahead < limit)
      (fails : ¬LowersAt memory options.blockOptions.requireExecutable
        (instructionPc startPc (index + ahead))) :
      LimitedStop limit .analysisFailure index

/-- What two runs are compared by. -/
structure SameStop (first second : DispatchLoop) : Prop where
  state : first.state = second.state
  reason : first.result.reason = second.result.reason
  nextPc : first.result.nextPc = second.result.nextPc
  instructionsExecuted : first.result.instructionsExecuted =
    second.result.instructionsExecuted

variable {addF32 memory options startPc state}

theorem boundaryReason_ne_analysisFailure (decoded : R5900DecodedInstruction) :
    decoded.boundaryReason ≠ .analysisFailure := by
  unfold R5900DecodedInstruction.boundaryReason
  split
  · simp
  · split <;> simp

theorem limitedRun_refines (limit maxBlocks : Nat) :
    RefinesInterpreter addF32 memory (options.withLimit limit) startPc state
      (limitedRun addF32 memory options startPc state limit maxBlocks) :=
  run_refinesInterpreter addF32 (options.limitedDispatcher limit) memory _ startPc state
    maxBlocks BlockCache.valid_empty

theorem limitedRun_blocksExecuted_le (limit maxBlocks : Nat) :
    (limitedRun addF32 memory options startPc state limit
        maxBlocks).result.blocksExecuted ≤
      (limitedRun addF32 memory options startPc state limit
        maxBlocks).result.instructionsExecuted :=
  run_blocksExecuted_le (options.limitedDispatcher limit) _ startPc state maxBlocks
    BlockCache.valid_empty

theorem not_lowersAt_of_outside {pc : BitVec 32} {requireExecutable : Bool}
    {site : R5900InstructionSite}
    (fetched : fetchSite memory pc requireExecutable = some site)
    (outside : ¬site.IsStartup) : ¬LowersAt memory requireExecutable pc := by
  intro lowers
  obtain ⟨other, otherFetched, startup, -⟩ := lowers.fetches
  obtain rfl := Option.some.inj (fetched.symm.trans otherFetched)
  exact outside startup

/-- Less than a chunk behind a stop lies an instruction that cannot be executed. -/
theorem LimitedStop.exists_fails {limit index : Nat} {reason : R5900DispatchStopReason}
    (stop : LimitedStop memory options startPc limit reason index)
    (positive : 1 ≤ limit) :
    ∃ ahead < limit, ¬LowersAt memory options.blockOptions.requireExecutable
      (instructionPc startPc (index + ahead)) := by
  cases stop with
  | boundary fetched outside =>
      exact ⟨0, positive, not_lowersAt_of_outside fetched outside⟩
  | lookahead whole near fails => exact ⟨_, near, fails⟩

namespace LimitedStop

variable {limit index : Nat} {reason : R5900DispatchStopReason}

theorem site (stop : LimitedStop memory options startPc limit reason index)
    (looks : reason ≠ .analysisFailure) :
    ∃ site, fetchSite memory (instructionPc startPc index)
        options.blockOptions.requireExecutable = some site ∧
      ¬site.IsStartup ∧ reason = site.decoded.boundaryReason := by
  cases stop with
  | boundary fetched outside => exact ⟨_, fetched, outside, rfl⟩
  | lookahead => exact absurd rfl looks

theorem whole (stop : LimitedStop memory options startPc limit reason index)
    (failed : reason = .analysisFailure) : limit ∣ index := by
  cases stop with
  | boundary fetched outside =>
      exact absurd failed (boundaryReason_ne_analysisFailure _)
  | lookahead whole near fails => exact whole

end LimitedStop

namespace Settles

variable {limit otherLimit maxBlocks otherMaxBlocks : Nat}

theorem stops (settles : Settles addF32 memory options startPc state limit maxBlocks)
    (aligned : startPc &&& 0x3 = 0) :
    let final := limitedRun addF32 memory options startPc state limit maxBlocks
    final.result.nextPc = instructionPc startPc final.result.instructionsExecuted ∧
      LimitedStop memory options startPc limit final.result.reason
        final.result.instructionsExecuted := by
  intro final
  obtain ⟨chunk, -, stops⟩ : ∃ chunk, _ ∧ StopsAt memory
      (options.limitedDispatcher limit) (fun _ => .success) startPc maxBlocks chunk
      final.result.reason final.result.nextPc final.result.instructionsExecuted :=
    run_stopsAt addF32 BlockCache.valid_empty state (Nat.ne_of_gt settles.budgetPositive)
  have lasts : final.result.reason ≠ .blockBudgetExhausted := settles.lasts
  have lowers : final.result.reason ≠ .loweringFailure := settles.lowers
  generalize final.result.reason = reason at stops lasts lowers ⊢
  generalize final.result.nextPc = nextPc at stops ⊢
  generalize final.result.instructionsExecuted = instructions at stops ⊢
  cases stops with
  | analysisFails analyzed =>
      have positive : limit ≠ 0 := Nat.ne_of_gt settles.limitPositive
      obtain ⟨ahead, near, fails⟩ := exists_not_lowersAt_of_analyzed positive
        (instructionPc_aligned aligned _) analyzed
      rw [instructionPc_add] at fails
      exact ⟨rfl, .lookahead (Nat.dvd_mul_right limit chunk) near fails⟩
  | boundary analyzed first stops =>
      have fetched := analyzeR5900BasicBlock_fetched analyzed
      obtain ⟨after, split⟩ := first.split
      rw [split] at fetched
      have atSite := fetched.fetchSite_middle
      rw [instructionPc_add] at atSite
      rw [boundaryReason_of_boundary stops]
      exact ⟨rfl, .boundary atSite first.outside⟩
  | loweringFails => exact absurd rfl lowers
  | compileFails analyzed nonempty split startup ends unavailable =>
      exact absurd (.inl rfl) unavailable
  | budget => exact absurd rfl lasts

/-- What one run executes tells how far another can come. -/
theorem instructionsExecuted_lt
    (settles : Settles addF32 memory options startPc state limit maxBlocks)
    (aligned : startPc &&& 0x3 = 0) :
    (limitedRun addF32 memory options startPc state otherLimit
        otherMaxBlocks).result.instructionsExecuted <
      (limitedRun addF32 memory options startPc state limit
        maxBlocks).result.instructionsExecuted + limit := by
  have otherRefines : RefinesInterpreter addF32 memory (options.withLimit otherLimit)
      startPc state _ := limitedRun_refines otherLimit otherMaxBlocks
  obtain ⟨ahead, near, fails⟩ :=
    (settles.stops aligned).2.exists_fails settles.limitPositive
  by_contra beyond
  exact fails (otherRefines.lower _ (by omega))

/-- Two runs that stop in front of an instruction they cannot execute. -/
theorem sameStop (settles : Settles addF32 memory options startPc state limit maxBlocks)
    (otherSettles : Settles addF32 memory options startPc state otherLimit otherMaxBlocks)
    (aligned : startPc &&& 0x3 = 0)
    (looks : (limitedRun addF32 memory options startPc state limit
      maxBlocks).result.reason ≠ .analysisFailure)
    (otherLooks : (limitedRun addF32 memory options startPc state otherLimit
      otherMaxBlocks).result.reason ≠ .analysisFailure) :
    SameStop (limitedRun addF32 memory options startPc state limit maxBlocks)
      (limitedRun addF32 memory options startPc state otherLimit otherMaxBlocks) := by
  have refines : RefinesInterpreter addF32 memory (options.withLimit limit) startPc state
      (limitedRun addF32 memory options startPc state limit maxBlocks) :=
    limitedRun_refines limit maxBlocks
  have otherRefines : RefinesInterpreter addF32 memory (options.withLimit otherLimit)
      startPc state
      (limitedRun addF32 memory options startPc state otherLimit otherMaxBlocks) :=
    limitedRun_refines otherLimit otherMaxBlocks
  have state := refines.state_eq otherRefines (limitedRun_blocksExecuted_le limit maxBlocks)
    (limitedRun_blocksExecuted_le otherLimit otherMaxBlocks)
  obtain ⟨nextPc, stop⟩ := settles.stops aligned
  obtain ⟨otherNextPc, otherStop⟩ := otherSettles.stops aligned
  have lower := refines.lower
  have otherLower := otherRefines.lower
  generalize limitedRun addF32 memory options startPc _ limit maxBlocks = first at *
  generalize limitedRun addF32 memory options startPc _ otherLimit otherMaxBlocks =
    second at *
  obtain ⟨site, fetched, outside, reason⟩ := stop.site looks
  obtain ⟨otherSite, otherFetched, otherOutside, otherReason⟩ := otherStop.site otherLooks
  have fails := not_lowersAt_of_outside fetched outside
  have otherFails := not_lowersAt_of_outside otherFetched otherOutside
  have counts : first.result.instructionsExecuted =
      second.result.instructionsExecuted := by
    rcases Nat.lt_trichotomy first.result.instructionsExecuted
      second.result.instructionsExecuted with before | same | behind
    · exact absurd (otherLower _ before) fails
    · exact same
    · exact absurd (lower _ behind) otherFails
  rw [counts, otherFetched] at fetched
  obtain rfl := Option.some.inj fetched
  exact ⟨state counts, reason.trans otherReason.symm,
    nextPc.trans ((congrArg _ counts).trans otherNextPc.symm), counts⟩

end Settles

theorem limitedCall_eq_limitedRun {maxSize limit maxBlocks : Nat} (fits : limit ≤ maxSize) :
    limitedCall addF32 memory options startPc state maxSize limit maxBlocks =
      .ok (limitedRun addF32 memory options startPc state limit maxBlocks) :=
  R5900BlockDispatcher.runIn_granting fits

end Limits

/-- With two limits that a vector has room for, a fresh dispatcher returns both times and
ends in the same state, for the same reason, at the same PC and after as many
instructions, unless a look-ahead fails.  A run with a failing look-ahead stands behind a
whole number of chunks, and two runs are never as much as a chunk apart. -/
theorem limitedRun_agree (addF32 : BitVec 32 → BitVec 32 → BitVec 32)
    (memory : Ps2MemoryMap) (options : R5900BlockDispatcherOptions) (startPc : BitVec 32)
    (aligned : startPc &&& 0x3 = 0) (state : R5900IrExecutionState)
    (maxSize limit otherLimit maxBlocks otherMaxBlocks : Nat)
    (fits : limit ≤ maxSize) (otherFits : otherLimit ≤ maxSize)
    (settles : Settles addF32 memory options startPc state limit maxBlocks)
    (otherSettles :
      Settles addF32 memory options startPc state otherLimit otherMaxBlocks) :
    let first := limitedRun addF32 memory options startPc state limit maxBlocks
    let second := limitedRun addF32 memory options startPc state otherLimit otherMaxBlocks
    (limitedCall addF32 memory options startPc state maxSize limit maxBlocks = .ok first ∧
      limitedCall addF32 memory options startPc state maxSize otherLimit otherMaxBlocks =
        .ok second) ∧
    (first.result.reason ≠ .analysisFailure → second.result.reason ≠ .analysisFailure →
      SameStop first second) ∧
    (first.result.reason = .analysisFailure →
      limit ∣ first.result.instructionsExecuted ∧
        first.result.nextPc = instructionPc startPc first.result.instructionsExecuted) ∧
    (second.result.reason = .analysisFailure →
      otherLimit ∣ second.result.instructionsExecuted ∧
        second.result.nextPc =
          instructionPc startPc second.result.instructionsExecuted) ∧
    first.result.instructionsExecuted <
      second.result.instructionsExecuted + otherLimit ∧
    second.result.instructionsExecuted < first.result.instructionsExecuted + limit := by
  intro first second
  have stops := settles.stops aligned
  have otherStops := otherSettles.stops aligned
  refine ⟨⟨limitedCall_eq_limitedRun fits, limitedCall_eq_limitedRun otherFits⟩,
    settles.sameStop otherSettles aligned, ?_, ?_,
    otherSettles.instructionsExecuted_lt aligned,
    settles.instructionsExecuted_lt aligned⟩
  · intro failed
    exact ⟨stops.2.whole failed, stops.1⟩
  · intro failed
    exact ⟨otherStops.2.whole failed, otherStops.1⟩

/-- An ADDIU and an LW, with nothing mapped behind them. -/
def lookaheadMemory : Ps2MemoryMap where
  regions := [⟨0x1000, 8, 5⟩]
  backingRegions :=
    [{ metadata := ⟨0x1000, 8, 5⟩
       bytes := [0x01, 0x00, 0x01, 0x24] ++ [0x00, 0x00, 0x22, 0x8C]
       sized := rfl }]
  mirrored := mirrored_singleton

/-- Limits of one and of two end alike in front of the LW. -/
theorem limitedRun_agree_lookaheadMemory :
    ∃ first second,
      limitedCall (fun lhs _ => lhs) lookaheadMemory {} 0x1000 {} 1024 1 2 = .ok first ∧
      limitedCall (fun lhs _ => lhs) lookaheadMemory {} 0x1000 {} 1024 2 2 = .ok second ∧
      SameStop first second := by
  have reason : (limitedRun (fun lhs _ => lhs) lookaheadMemory {} 0x1000 {} 1
      2).result.reason = .unsupportedInstruction := by decide +kernel
  have otherReason : (limitedRun (fun lhs _ => lhs) lookaheadMemory {} 0x1000 {} 2
      2).result.reason = .unsupportedInstruction := by decide +kernel
  have settles : Settles (fun lhs _ => lhs) lookaheadMemory {} 0x1000 {} 1 2 :=
    ⟨by decide, by decide, ne_of_eq_of_ne reason (by decide),
      ne_of_eq_of_ne reason (by decide)⟩
  have otherSettles : Settles (fun lhs _ => lhs) lookaheadMemory {} 0x1000 {} 2 2 :=
    ⟨by decide, by decide, ne_of_eq_of_ne otherReason (by decide),
      ne_of_eq_of_ne otherReason (by decide)⟩
  obtain ⟨⟨returns, otherReturns⟩, agree, -⟩ := limitedRun_agree (fun lhs _ => lhs)
    lookaheadMemory {} 0x1000 (by decide) {} 1024 1 2 2 2 (by decide) (by decide) settles
    otherSettles
  exact ⟨_, _, returns, otherReturns, agree (ne_of_eq_of_ne reason (by decide))
    (ne_of_eq_of_ne otherReason (by decide))⟩

/-- With the default limit the analyser looks past the LW and out of the region. -/
theorem limitedRun_disagree_lookaheadMemory :
    let first := limitedRun (fun lhs _ => lhs) lookaheadMemory {} 0x1000 {} 1 2
    let second := limitedRun (fun lhs _ => lhs) lookaheadMemory {} 0x1000 {} 1024 2
    (first.result.reason = .unsupportedInstruction ∧ first.result.nextPc = 0x1004 ∧
      first.result.instructionsExecuted = 1) ∧
    (second.result.reason = .analysisFailure ∧ second.result.nextPc = 0x1000 ∧
      second.result.instructionsExecuted = 0) ∧
    (first.state.gprValue 1).low64 = 1 ∧ (second.state.gprValue 1).low64 = 0 := by
  decide +kernel

end Burnout3Recompiled
