import Burnout3Recompiled.R5900GuestProgram

/-!
# What the dispatcher selects

A candidate is the longest run of eligible sites at the front of an analysed
block.  It ends where the block ends or at the first site that has to be left to
someone else, and that site tells why.
-/

namespace Burnout3Recompiled

/-- Why the dispatcher does not put an instruction into a candidate. -/
def R5900DecodedInstruction.dispatchBoundary (decoded : R5900DecodedInstruction) :
    Option R5900DispatchStopReason :=
  if decoded.transfers then some .controlFlow
  else if decoded.instructionClass = .system then some .trap
  else if isDispatcherV0Eligible decoded.instruction then none
  else some .unsupportedInstruction

/-- Eligible instructions are neither control transfers nor system instructions. -/
theorem dispatchBoundary_eq_none_iff {word : BitVec 32} :
    (decodeR5900 word).dispatchBoundary = none ↔
      isDispatcherV0Eligible (decodeR5900 word).instruction = true := by
  unfold R5900DecodedInstruction.dispatchBoundary R5900DecodedInstruction.transfers
    R5900DecodedInstruction.isBranch R5900DecodedInstruction.isJump
  rw [decodeR5900_class]
  constructor
  · intro supported
    split at supported
    · cases supported
    · split at supported
      · cases supported
      · split at supported
        · assumption
        · cases supported
  · intro eligible
    obtain ⟨instruction, named⟩ :=
      StartupInstruction.exists_name (isDispatcherV0Eligible_iff.mp eligible)
    rw [← named] at eligible ⊢
    cases instruction <;> rfl

theorem endsBlock_of_eligible {word : BitVec 32}
    (eligible : isDispatcherV0Eligible (decodeR5900 word).instruction = true) :
    (decodeR5900 word).endsBlock = false := by
  unfold R5900DecodedInstruction.endsBlock R5900DecodedInstruction.transfers
    R5900DecodedInstruction.isBranch R5900DecodedInstruction.isJump
  rw [decodeR5900_class]
  obtain ⟨instruction, named⟩ :=
    StartupInstruction.exists_name (isDispatcherV0Eligible_iff.mp eligible)
  rw [← named]
  cases instruction <;> rfl

theorem dispatchBoundary_ne_failure {decoded : R5900DecodedInstruction}
    {reason : R5900DispatchStopReason} (stops : decoded.dispatchBoundary = some reason) :
    reason = .controlFlow ∨ reason = .trap ∨ reason = .unsupportedInstruction := by
  unfold R5900DecodedInstruction.dispatchBoundary at stops
  split at stops
  · exact .inl (Option.some.inj stops).symm
  · split at stops
    · exact .inr (.inl (Option.some.inj stops).symm)
    · split at stops
      · cases stops
      · exact .inr (.inr (Option.some.inj stops).symm)

/-- What stops a selection, given the sites it leaves. -/
inductive StopsBefore : List R5900InstructionSite →
    Option (R5900DispatchStopReason × BitVec 32) → Prop
  | atEnd : StopsBefore [] none
  | atSite {site : R5900InstructionSite} {rest : List R5900InstructionSite}
      {reason : R5900DispatchStopReason}
      (stops : site.decoded.dispatchBoundary = some reason) :
      StopsBefore (site :: rest) (some (reason, site.pc))

theorem selectSupportedSites_cons (site : R5900InstructionSite)
    (sites : List R5900InstructionSite) :
    selectSupportedSites (site :: sites) =
      match site.decoded.dispatchBoundary with
      | some reason => { boundary := some (reason, site.pc) }
      | none =>
          { selectSupportedSites sites with
            sites := site :: (selectSupportedSites sites).sites } := by
  simp only [selectSupportedSites, R5900DecodedInstruction.dispatchBoundary,
    R5900DecodedInstruction.transfers]
  by_cases transfers : (site.decoded.isBranch || site.decoded.isJump) = true
  · simp [transfers]
  · by_cases system : site.decoded.instructionClass = .system
    · simp [transfers, system]
    · cases isDispatcherV0Eligible site.decoded.instruction <;> simp [transfers, system]

theorem selectSupportedSites_spec (sites : List R5900InstructionSite) :
    ∃ rest, sites = (selectSupportedSites sites).sites ++ rest ∧
      (∀ site ∈ (selectSupportedSites sites).sites,
        site.decoded.dispatchBoundary = none) ∧
      StopsBefore rest (selectSupportedSites sites).boundary := by
  induction sites with
  | nil => exact ⟨[], rfl, by simp [selectSupportedSites], .atEnd⟩
  | cons site sites ih =>
      rw [selectSupportedSites_cons]
      cases decision : site.decoded.dispatchBoundary with
      | some reason => exact ⟨site :: sites, rfl, by simp, .atSite decision⟩
      | none =>
          obtain ⟨rest, split, supported, stops⟩ := ih
          exact ⟨rest, congrArg (site :: ·) split,
            List.forall_mem_cons.mpr ⟨decision, supported⟩, stops⟩

section Selection

variable (memory : Ps2MemoryMap) (options : R5900BlockDispatcherOptions)
  (pc : BitVec 32)

/-- What a candidate has to do with the block at `pc`. -/
structure CandidateAt (block : R5900BasicBlock) (rest : List R5900InstructionSite)
    (candidate : DispatchCandidate) : Prop where
  analyzed : analyzeR5900BasicBlock memory pc options.blockOptions = .ok block
  split : block.instructions = candidate.sites ++ rest
  nonempty : candidate.sites ≠ []
  eligible : ∀ site ∈ candidate.sites,
    isDispatcherV0Eligible site.decoded.instruction = true
  words : candidate.guestWords = siteWords candidate.sites
  stops : StopsBefore rest candidate.boundary
  full : rest = [] → candidate.sites.length = options.blockOptions.maxInstructions

/-- The ways a selection ends. -/
inductive SelectionAt : Except DispatchStop DispatchCandidate → Prop
  | analysisFails {failure : R5900ControlFlowFailure}
      (analyzed : analyzeR5900BasicBlock memory pc options.blockOptions = .error failure) :
      SelectionAt (.error ⟨.analysisFailure, pc,
        formatStageError "analysis" pc failure.message⟩)
  | stopsAtOnce {block : R5900BasicBlock} {site : R5900InstructionSite}
      {rest : List R5900InstructionSite} {reason : R5900DispatchStopReason}
      (analyzed : analyzeR5900BasicBlock memory pc options.blockOptions = .ok block)
      (first : block.instructions = site :: rest)
      (stops : site.decoded.dispatchBoundary = some reason) :
      SelectionAt (.error { reason := reason, nextPc := pc })
  | selects {block : R5900BasicBlock} {rest : List R5900InstructionSite}
      {candidate : DispatchCandidate}
      (found : CandidateAt memory options pc block rest candidate) :
      SelectionAt (.ok candidate)

variable {memory options pc}

/-- The reasons for which a selection finds no candidate. -/
theorem SelectionAt.reason {stop : DispatchStop}
    (selected : SelectionAt memory options pc (.error stop)) :
    stop.reason = .analysisFailure ∨ stop.reason = .controlFlow ∨ stop.reason = .trap ∨
      stop.reason = .unsupportedInstruction := by
  cases selected with
  | analysisFails => exact .inl rfl
  | stopsAtOnce analyzed first stops => exact .inr (dispatchBoundary_ne_failure stops)

theorem selectionAt : SelectionAt memory options pc (selectCandidate memory options pc) := by
  unfold selectCandidate
  split
  · next failure analyzed => exact .analysisFails analyzed
  · next block analyzed =>
      obtain ⟨terminator, shape, bound, full⟩ := analyzeR5900BasicBlock_eq_ok analyzed
      obtain ⟨first, others, nonempty, firstPc⟩ := shape.sites.head
      have fetched := analyzeR5900BasicBlock_fetched analyzed
      obtain ⟨rest, split, supported, stops⟩ := selectSupportedSites_spec block.instructions
      generalize selectSupportedSites block.instructions = selected at split supported stops ⊢
      obtain ⟨sites, boundary⟩ := selected
      simp only at split supported stops ⊢
      cases sites with
      | nil =>
          rw [List.nil_append] at split
          rw [split] at nonempty
          rw [nonempty] at stops split
          cases stops with
          | atSite stopsFirst =>
              simp only [List.isEmpty_nil, if_true, firstPc]
              exact .stopsAtOnce analyzed split stopsFirst
      | cons site sites =>
          have selectedFetched : FetchedFrom memory options.blockOptions.requireExecutable
              pc (site :: sites) := (split ▸ fetched).append_left
          simp only [List.isEmpty_cons, Bool.false_eq_true, if_false,
            selectedFetched.readGuestWords_eq]
          have eligible : ∀ other ∈ site :: sites,
              isDispatcherV0Eligible other.decoded.instruction = true := by
            intro other member
            have boundaryless := supported other member
            rw [selectedFetched.decoded_of_mem member] at boundaryless ⊢
            exact dispatchBoundary_eq_none_iff.mp boundaryless
          refine .selects ⟨analyzed, split, by simp, eligible, rfl, stops, ?_⟩
          rintro rfl
          rw [List.append_nil] at split
          have last : terminator ∈ site :: sites := split ▸ shape.sites.terminator_mem
          have eligibleLast := eligible terminator last
          rw [← split]
          apply full
          rw [selectedFetched.decoded_of_mem last] at eligibleLast ⊢
          exact endsBlock_of_eligible eligibleLast

/-- A selected candidate is one of the block at the PC. -/
theorem exists_candidateAt {candidate : DispatchCandidate}
    (selected : selectCandidate memory options pc = .ok candidate) :
    ∃ block rest, CandidateAt memory options pc block rest candidate := by
  have selection : SelectionAt memory options pc _ := selectionAt
  rw [selected] at selection
  cases selection with
  | selects found => exact ⟨_, _, found⟩

theorem CandidateAt.fetched {block : R5900BasicBlock} {rest : List R5900InstructionSite}
    {candidate : DispatchCandidate}
    (found : CandidateAt memory options pc block rest candidate) :
    FetchedFrom memory options.blockOptions.requireExecutable pc candidate.sites := by
  have fetched := analyzeR5900BasicBlock_fetched found.analyzed
  rw [found.split] at fetched
  exact fetched.append_left

theorem CandidateAt.sites {block : R5900BasicBlock} {rest : List R5900InstructionSite}
    {candidate : DispatchCandidate}
    (found : CandidateAt memory options pc block rest candidate) :
    candidate.sites = sitesFrom pc candidate.guestWords := by
  rw [found.words]
  exact found.fetched.eq_sitesFrom

end Selection

end Burnout3Recompiled
