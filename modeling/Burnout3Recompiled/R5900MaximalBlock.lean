import Burnout3Recompiled.R5900FetchedSites

/-!
# The maximal block

Block analysis takes instructions from consecutive fetchable PCs up to the first
one that ends a block or up to the instruction limit.  Both the length of the
block and the PCs that have to be fetchable are functions of the guest words.
-/

namespace Burnout3Recompiled

/-- The region an access goes to. -/
def Ps2MemoryMap.containingRegion (memory : Ps2MemoryMap) (address : BitVec 32)
    (length : Nat) : Option Ps2MemoryRegion :=
  (memory.translate address length).bind fun span => memory.regions[span.region]?

/-- A word can be read at `pc`, from an executable region when that is required. -/
def Fetchable (memory : Ps2MemoryMap) (requireExecutable : Bool) (pc : BitVec 32) :
    Prop :=
  ∃ word region, memory.readU32 pc = some word ∧
    memory.containingRegion pc 4 = some region ∧
      (requireExecutable = true → region.flags &&& elfPfExecute ≠ 0)

/-- The lookup over the metadata finds the region of the lookup over the bytes. -/
theorem find?_eq_translateFrom (address length index : Nat)
    (regions : List BackingRegion) :
    (regions.map (·.metadata)).find? (fun region =>
        decide (regionStart region ≤ address ∧ address + length ≤ regionEnd region)) =
      (translateFrom address length index regions).bind fun span =>
        (regions.map (·.metadata))[span.region - index]? := by
  induction regions generalizing index with
  | nil => rfl
  | cons region regions ih =>
      rw [List.map_cons, List.find?_cons, translateFrom]
      split
      · next spans => simp [of_decide_eq_true spans]
      · next apart =>
          rw [if_neg (of_decide_eq_false apart), ih (index + 1)]
          cases found : translateFrom address length (index + 1) regions with
          | none => rfl
          | some span =>
              obtain ⟨position, other, -, -, rfl⟩ := translateFrom_eq_some found
              have place : index + 1 + position - index = position + 1 := by omega
              simp [place]

section Fetching

variable {memory : Ps2MemoryMap} {requireExecutable : Bool} {pc : BitVec 32}
  {site : R5900InstructionSite}

/-- The status of a range is the one of the region an access goes to. -/
theorem rangeStatus_eq (address : BitVec 32) (length : Nat) :
    rangeStatus memory address length =
      match memory.containingRegion address length with
      | some region =>
          if region.flags &&& elfPfExecute ≠ 0 then .executable else .nonExecutable
      | none => .unmapped := by
  unfold rangeStatus Ps2MemoryMap.containingRegion Ps2MemoryMap.translate
  by_cases fits : accessRangeFits address length
  · rw [if_neg (Nat.not_lt_of_le fits.1), if_neg (Nat.not_lt_of_le fits.2), if_pos fits,
      memory.mirrored, find?_eq_translateFrom address.toNat length 0]
    rfl
  · rw [if_neg fits, Option.bind_none]
    split
    · rfl
    · next short =>
        rw [accessRangeFits, not_and_or] at fits
        rw [if_pos (Nat.lt_of_not_le (fits.resolve_left (not_not.mpr
          (Nat.le_of_not_gt short))))]

theorem fetchable_iff :
    Fetchable memory requireExecutable pc ↔
      ∃ site, fetchSite memory pc requireExecutable = some site := by
  simp only [fetchSite_eq_some_iff, rangeStatus_eq, Fetchable]
  constructor
  · rintro ⟨word, region, read, found, executable⟩
    refine ⟨_, word, read, ?_, rfl⟩
    intro required
    rw [found]
    exact if_pos (executable required)
  · rintro ⟨site, word, read, executable, -⟩
    obtain ⟨span, translated⟩ : ∃ span, memory.translate pc 4 = some span := by
      obtain ⟨span, translated, -⟩ := Option.bind_eq_some_iff.mp read
      exact ⟨span, translated⟩
    obtain ⟨region, found⟩ : ∃ region, memory.containingRegion pc 4 = some region := by
      rw [Ps2MemoryMap.containingRegion, translated, Option.bind_some, memory.mirrored]
      unfold Ps2MemoryMap.translate at translated
      split at translated
      · obtain ⟨position, region, present, -, rfl⟩ := translateFrom_eq_some translated
        exact ⟨region.metadata, by simp [present]⟩
      · cases translated
    refine ⟨word, region, read, found, ?_⟩
    intro required
    have status := executable required
    rw [found] at status
    by_contra flagless
    simp [flagless] at status

end Fetching

/-- The instruction at `pc`, whatever may execute there. -/
def decodedAt (memory : Ps2MemoryMap) (pc : BitVec 32) : Option R5900DecodedInstruction :=
  (memory.readU32 pc).map decodeR5900

/-- An instruction that ends a block stands at `pc`. -/
def terminatesAt (memory : Ps2MemoryMap) (pc : BitVec 32) : Bool :=
  (decodedAt memory pc).any (·.endsBlock)

/-- One more than the index of the first terminator, cut at the instruction limit. -/
def blockLength (memory : Ps2MemoryMap) (startPc : BitVec 32) (maxInstructions : Nat) :
    Nat :=
  min maxInstructions (1 + (List.range maxInstructions).findIdx
    fun index => terminatesAt memory (instructionPc startPc index))

section Length

variable {memory : Ps2MemoryMap} {pc : BitVec 32} {remaining : Nat}

theorem blockLength_zero : blockLength memory pc 0 = 0 :=
  Nat.zero_min _

theorem blockLength_pos : 0 < blockLength memory pc (remaining + 1) :=
  Nat.lt_min.mpr ⟨Nat.succ_pos _, Nat.lt_add_right _ Nat.one_pos⟩

theorem blockLength_of_terminatesAt (ends : terminatesAt memory pc = true) :
    blockLength memory pc (remaining + 1) = 1 := by
  rw [blockLength, List.range_succ_eq_map, List.findIdx_cons, instructionPc_zero, ends]
  exact Nat.min_eq_right (Nat.succ_pos remaining)

theorem blockLength_of_continues (continues : terminatesAt memory pc = false) :
    blockLength memory pc (remaining + 1) =
      blockLength memory (pc + 4) remaining + 1 := by
  have shifted : (fun index => terminatesAt memory (instructionPc pc index)) ∘ Nat.succ =
      fun index => terminatesAt memory (instructionPc (pc + 4) index) := by
    ext index
    rw [Function.comp_apply, Nat.succ_eq_add_one, instructionPc_succ]
  rw [blockLength, blockLength, List.range_succ_eq_map, List.findIdx_cons,
    instructionPc_zero, continues, cond_false, List.findIdx_map, shifted]
  omega

end Length

section Success

variable {memory : Ps2MemoryMap} {requireExecutable : Bool} {pc : BitVec 32}
  {site : R5900InstructionSite}

/-- The delay slot behind the last of `length` instructions can be fetched when that
instruction is a branch or a jump. -/
def SlotFetchable (memory : Ps2MemoryMap) (requireExecutable : Bool)
    (startPc : BitVec 32) (length : Nat) : Prop :=
  ∀ index decoded, index + 1 = length →
    decodedAt memory (instructionPc startPc index) = some decoded →
      decoded.transfers = true →
        Fetchable memory requireExecutable (instructionPc startPc length)

/-- What a block of `length` instructions fetches can be fetched. -/
def BlockFetchable (memory : Ps2MemoryMap) (requireExecutable : Bool)
    (startPc : BitVec 32) (length : Nat) : Prop :=
  (∀ index < length,
      Fetchable memory requireExecutable (instructionPc startPc index)) ∧
    SlotFetchable memory requireExecutable startPc length

theorem decodedAt_of_fetchSite
    (fetched : fetchSite memory pc requireExecutable = some site) :
    decodedAt memory pc = some site.decoded := by
  obtain ⟨word, read, rfl⟩ := fetchSite_eq_some fetched
  rw [decodedAt, read, Option.map_some]

theorem terminatesAt_of_fetchSite
    (fetched : fetchSite memory pc requireExecutable = some site) :
    terminatesAt memory pc = site.decoded.endsBlock := by
  rw [terminatesAt, decodedAt_of_fetchSite fetched]
  rfl

theorem blockFetchable_one
    (fetched : fetchSite memory pc requireExecutable = some site) :
    BlockFetchable memory requireExecutable pc 1 ↔
      (site.decoded.transfers = true →
        ∃ slot, fetchSite memory (pc + 4) requireExecutable = some slot) := by
  rw [← fetchable_iff, ← instructionPc_one]
  constructor
  · rintro ⟨-, slot⟩ transfers
    refine slot 0 site.decoded rfl ?_ transfers
    rw [instructionPc_zero]
    exact decodedAt_of_fetchSite fetched
  · intro slot
    refine ⟨?_, ?_⟩
    · intro index inside
      rw [Nat.lt_one_iff.mp inside, instructionPc_zero]
      exact fetchable_iff.mpr ⟨site, fetched⟩
    · intro index decoded last present transfers
      obtain rfl := Nat.succ.inj last
      rw [instructionPc_zero, decodedAt_of_fetchSite fetched] at present
      obtain rfl := Option.some.inj present
      exact slot transfers

/-- The first instruction of a longer block, and the rest behind it. -/
theorem blockFetchable_succ {length : Nat} (positive : 0 < length)
    (fetched : fetchSite memory pc requireExecutable = some site) :
    BlockFetchable memory requireExecutable pc (length + 1) ↔
      BlockFetchable memory requireExecutable (pc + 4) length := by
  have first : Fetchable memory requireExecutable pc := fetchable_iff.mpr ⟨site, fetched⟩
  constructor
  · rintro ⟨instructions, slot⟩
    refine ⟨?_, ?_⟩
    · intro index inside
      rw [← instructionPc_succ]
      exact instructions (index + 1) (Nat.succ_lt_succ inside)
    · intro index decoded last present transfers
      rw [← instructionPc_succ] at present ⊢
      exact slot (index + 1) decoded (congrArg _ last) present transfers
  · rintro ⟨instructions, slot⟩
    refine ⟨?_, ?_⟩
    · intro index inside
      cases index with
      | zero => rwa [instructionPc_zero]
      | succ index =>
          rw [instructionPc_succ]
          exact instructions index (Nat.lt_of_succ_lt_succ inside)
    · intro index decoded last present transfers
      cases index with
      | zero => omega
      | succ index =>
          rw [instructionPc_succ] at present ⊢
          exact slot index decoded (Nat.succ.inj last) present transfers

/-- The end kind a last instruction gives its block. -/
def endKindOf (decoded : R5900DecodedInstruction) : R5900BlockEndKind :=
  if decoded.instruction = .unknown then .unsupportedInstruction
  else if decoded.instructionClass = .system then .trap
  else if decoded.isBranch then .conditionalBranch
  else
    match decoded.instruction with
    | .j => .directJump
    | .jal => .directCall
    | .jr => .indirectJump
    | .jalr => .indirectCall
    | _ => .instructionLimit

/-- What the last instruction decides beside the delay slot and the edges. -/
structure EndsWith (decoded : R5900DecodedInstruction) (block : R5900BasicBlock) : Prop where
  endKind : block.endKind = endKindOf decoded
  fallthrough : block.delaySlotExecutesOnFallthrough = !decoded.likely

theorem transfers_not_other {word : BitVec 32}
    (transfers : (decodeR5900 word).transfers = true) :
    (decodeR5900 word).instruction ≠ .unknown ∧
      (decodeR5900 word).instructionClass ≠ .system := by
  refine ⟨?_, ?_⟩
  · intro unknown
    rw [decodeR5900_unknown_not_transfers unknown] at transfers
    cases transfers
  · intro system
    rw [decodeR5900_system_not_transfers system] at transfers
    cases transfers

/-- A decoded control transfer never reaches the fallback branches. -/
theorem finishWithDelaySlot_spec (pc : BitVec 32) {word : BitVec 32}
    (block : R5900BasicBlock) (slot : R5900InstructionSite)
    (transfers : (decodeR5900 word).transfers = true) :
    ∃ result, finishWithDelaySlot block ⟨pc, decodeR5900 word⟩ slot = .ok result ∧
      result.instructions = block.instructions ∧ EndsWith (decodeR5900 word) result := by
  obtain ⟨notUnknown, notSystem⟩ := transfers_not_other transfers
  simp only [finishWithDelaySlot]
  by_cases branch : (decodeR5900 word).isBranch = true
  · rw [if_pos branch, directTarget_of_isBranch branch]
    refine ⟨_, rfl, rfl, ?_, rfl⟩
    simp [appendEdge, endKindOf, notUnknown, notSystem, branch]
  · have notBranch : (decodeR5900 word).isBranch = false := eq_false_of_ne_true branch
    rw [if_neg branch]
    rcases decodeR5900_transfers.mp transfers with isBranch | named | named | named | named
    · exact absurd isBranch branch
    · rw [named, directTarget_of_jump pc notBranch (.inl named)]
      refine ⟨_, rfl, rfl, ?_, rfl⟩
      simp [appendEdge, endKindOf, notSystem, notBranch, named]
    · rw [named, directTarget_of_jump pc notBranch (.inr named)]
      refine ⟨_, rfl, rfl, ?_, rfl⟩
      simp [appendEdge, endKindOf, notSystem, notBranch, named]
    · rw [named]
      refine ⟨_, rfl, rfl, ?_, rfl⟩
      simp [appendEdge, endKindOf, notSystem, notBranch, named]
    · rw [named]
      refine ⟨_, rfl, rfl, ?_, rfl⟩
      simp [appendEdge, endKindOf, notSystem, notBranch, named]

/-- Control transfers end with their delay slot. -/
theorem finishControlTransfer_isOk_iff {block : R5900BasicBlock}
    (fetched : fetchSite memory pc requireExecutable = some site)
    (transfers : site.decoded.transfers = true) :
    (∃ result, finishControlTransfer memory block site requireExecutable = .ok result) ↔
      ∃ slot, fetchSite memory (pc + 4) requireExecutable = some slot := by
  obtain ⟨word, -, rfl⟩ := fetchSite_eq_some fetched
  unfold finishControlTransfer
  cases fetchSite memory (pc + 4) requireExecutable with
  | none => simp
  | some slot =>
      obtain ⟨result, finished, -⟩ := finishWithDelaySlot_spec pc block slot transfers
      simp [finished]

/-- The three ways in which a terminator ends the loop. -/
theorem analyzeInstructions_of_endsBlock (block : R5900BasicBlock) (remaining : Nat)
    (fetched : fetchSite memory pc requireExecutable = some site)
    (ends : site.decoded.endsBlock = true) :
    let taken := { block with instructions := block.instructions ++ [site] }
    (site.decoded.instruction = .unknown ∧
      analyzeInstructions memory requireExecutable block pc (remaining + 1) =
        .ok { taken with endKind := .unsupportedInstruction }) ∨
    (site.decoded.instruction ≠ .unknown ∧ site.decoded.instructionClass = .system ∧
      analyzeInstructions memory requireExecutable block pc (remaining + 1) =
        .ok { taken with endKind := .trap }) ∨
    (site.decoded.transfers = true ∧
      analyzeInstructions memory requireExecutable block pc (remaining + 1) =
        finishControlTransfer memory taken site requireExecutable) := by
  intro taken
  rw [analyzeInstructions, fetched]
  simp only
  split
  · next unknown => exact .inl ⟨unknown, rfl⟩
  · next notUnknown =>
      split
      · next system => exact .inr (.inl ⟨notUnknown, system, rfl⟩)
      · next notSystem =>
          have transfers : site.decoded.transfers = true := by
            simpa [R5900DecodedInstruction.endsBlock, notUnknown, notSystem] using ends
          have takes : site.decoded.isBranch || site.decoded.isJump := transfers
          rw [if_pos takes]
          exact .inr (.inr ⟨transfers, rfl⟩)

/-- A terminator ends the loop at once, and only a missing delay slot makes it fail. -/
theorem analyzeInstructions_ends {block : R5900BasicBlock} {remaining : Nat}
    (fetched : fetchSite memory pc requireExecutable = some site)
    (ends : site.decoded.endsBlock = true) :
    (∃ result, analyzeInstructions memory requireExecutable block pc (remaining + 1) =
        .ok result) ↔
      (site.decoded.transfers = true →
        ∃ slot, fetchSite memory (pc + 4) requireExecutable = some slot) := by
  obtain ⟨word, read, decoded⟩ := fetchSite_eq_some fetched
  rcases analyzeInstructions_of_endsBlock block remaining fetched ends with
    ⟨unknown, ended⟩ | ⟨-, system, ended⟩ | ⟨transfers, ended⟩
  · rw [decoded] at unknown
    simp [ended, decoded, decodeR5900_unknown_not_transfers unknown]
  · rw [decoded] at system
    simp [ended, decoded, decodeR5900_system_not_transfers system]
  · rw [ended, finishControlTransfer_isOk_iff fetched transfers]
    simp [transfers]

theorem analyzeInstructions_continues {block : R5900BasicBlock} {remaining : Nat}
    (fetched : fetchSite memory pc requireExecutable = some site)
    (continues : site.decoded.endsBlock = false) :
    analyzeInstructions memory requireExecutable block pc (remaining + 1) =
      analyzeInstructions memory requireExecutable
        { block with instructions := block.instructions ++ [site] } (pc + 4) remaining := by
  obtain ⟨notUnknown, notSystem, stays⟩ := endsBlock_eq_false_iff.mp continues
  have goesOn : ¬(site.decoded.isBranch || site.decoded.isJump) = true := by
    rw [← R5900DecodedInstruction.transfers, stays]
    exact Bool.false_ne_true
  rw [analyzeInstructions, fetched]
  simp only [if_neg notUnknown, if_neg notSystem, if_neg goesOn]

/-- The fetch loop, by induction on its iterations. -/
theorem analyzeInstructions_isOk_iff (block : R5900BasicBlock) (remaining : Nat) :
    (∃ result, analyzeInstructions memory requireExecutable block pc remaining =
        .ok result) ↔
      BlockFetchable memory requireExecutable pc (blockLength memory pc remaining) := by
  induction remaining generalizing block pc with
  | zero =>
      rw [blockLength_zero]
      refine iff_of_true ⟨_, rfl⟩ ⟨fun index inside => absurd inside (Nat.not_lt_zero _), ?_⟩
      intro index decoded last
      cases last
  | succ remaining ih =>
      cases fetched : fetchSite memory pc requireExecutable with
      | none =>
          refine iff_of_false ?_ ?_
          · rintro ⟨result, analyzed⟩
            rw [analyzeInstructions, fetched] at analyzed
            cases analyzed
          · rintro ⟨instructions, -⟩
            have first := instructions 0 blockLength_pos
            rw [instructionPc_zero, fetchable_iff, fetched] at first
            simp at first
      | some site =>
          have terminates := terminatesAt_of_fetchSite fetched
          cases ends : site.decoded.endsBlock with
          | true =>
              rw [blockLength_of_terminatesAt (terminates.trans ends),
                blockFetchable_one fetched, analyzeInstructions_ends fetched ends]
          | false =>
              rw [blockLength_of_continues (terminates.trans ends),
                analyzeInstructions_continues fetched ends, ih]
              cases remaining with
              | zero =>
                  have stays := (endsBlock_eq_false_iff.mp ends).2.2
                  rw [blockLength_zero, Nat.zero_add, blockFetchable_one fetched, stays]
                  refine iff_of_true ((ih block).mp ⟨_, rfl⟩) ?_
                  intro transfers
                  cases transfers
              | succ remaining =>
                  exact (blockFetchable_succ blockLength_pos fetched).symm

end Success

/-- The instruction at `pc` with its place. -/
def siteAt (memory : Ps2MemoryMap) (pc : BitVec 32) : Option R5900InstructionSite :=
  (decodedAt memory pc).map fun decoded => ⟨pc, decoded⟩

/-- The block of the `length` instructions from `startPc` on. -/
structure IsMaximalBlock (memory : Ps2MemoryMap) (startPc : BitVec 32) (length : Nat)
    (terminator : R5900InstructionSite) (block : R5900BasicBlock) : Prop where
  start : block.startPc = startPc
  instructions : block.instructions.map some =
    (List.range length).map fun index => siteAt memory (instructionPc startPc index)
  last : block.instructions.getLast? = some terminator
  onlyLast : ∀ site ∈ block.instructions.dropLast, site.decoded.endsBlock = false
  endKind : block.endKind = endKindOf terminator.decoded
  delaySlot : block.delaySlot =
    if terminator.decoded.transfers then siteAt memory (instructionPc startPc length)
    else none
  delaySlotPresent : block.delaySlot.isSome = terminator.decoded.transfers
  fallthrough : block.delaySlotExecutesOnFallthrough = false ↔
    isLikelyBranch terminator.decoded.instruction = true
  edges : block.edges = exitEdges terminator
  targets : ∀ edge ∈ block.edges,
    edge.target = none ↔ edge.kind = .indirectJump ∨ edge.kind = .indirectCall
  behind : terminator.pc + 4 = instructionPc startPc length

section Shape

variable {memory : Ps2MemoryMap} {requireExecutable : Bool} {pc : BitVec 32}
  {site terminator : R5900InstructionSite} {sites : List R5900InstructionSite}

theorem siteAt_of_fetchSite
    (fetched : fetchSite memory pc requireExecutable = some site) :
    siteAt memory pc = some site := by
  obtain ⟨word, read, rfl⟩ := fetchSite_eq_some fetched
  rw [siteAt, decodedAt, read, Option.map_some, Option.map_some]

theorem FetchedFrom.map_some (fetched : FetchedFrom memory requireExecutable pc sites) :
    sites.map some = (List.range sites.length).map
      fun index => siteAt memory (instructionPc pc index) := by
  apply map_eq_map_range
  intro index site present
  exact (siteAt_of_fetchSite (fetched.fetchSite_getElem? present)).symm

/-- A run up to a terminator or up to the limit has the length of the block. -/
theorem SitesFrom.length_eq (run : SitesFrom memory requireExecutable pc sites terminator)
    {maxInstructions : Nat} (bounded : sites.length ≤ maxInstructions)
    (full : terminator.decoded.endsBlock = false → sites.length = maxInstructions) :
    sites.length = blockLength memory pc maxInstructions := by
  induction run generalizing maxInstructions with
  | @last pc site fetched =>
      obtain ⟨remaining, rfl⟩ := Nat.exists_eq_add_of_le' bounded
      rw [List.length_singleton] at full ⊢
      have terminates := terminatesAt_of_fetchSite fetched
      cases ends : site.decoded.endsBlock with
      | true => rw [blockLength_of_terminatesAt (terminates.trans ends)]
      | false =>
          have limit := full ends
          obtain rfl : remaining = 0 := by omega
          rw [blockLength_of_continues (terminates.trans ends), blockLength_zero]
  | @next pc site terminator sites fetched continues rest ih =>
      rw [List.length_cons] at bounded full ⊢
      obtain ⟨remaining, rfl⟩ := Nat.exists_eq_add_of_le'
        (Nat.le_trans (Nat.le_add_left 1 _) bounded)
      rw [blockLength_of_continues ((terminatesAt_of_fetchSite fetched).trans continues)]
      refine congrArg (· + 1) (ih (Nat.le_of_succ_le_succ bounded) ?_)
      exact fun ends => Nat.succ.inj (full ends)

theorem SitesFrom.continues_of_mem_dropLast
    (run : SitesFrom memory requireExecutable pc sites terminator)
    (member : site ∈ sites.dropLast) : site.decoded.endsBlock = false := by
  induction run with
  | last fetched => cases member
  | next fetched continues rest ih =>
      obtain ⟨second, others, rfl, -⟩ := rest.head
      rw [List.dropLast_cons_cons] at member
      rcases List.mem_cons.mp member with rfl | later
      · exact continues
      · exact ih later

theorem likely_of_not_transfers
    (fetched : fetchSite memory pc requireExecutable = some site)
    (stays : site.decoded.transfers = false) : site.decoded.likely = false := by
  obtain ⟨word, -, rfl⟩ := fetchSite_eq_some fetched
  have notBranch : (decodeR5900 word).isBranch = false := (Bool.or_eq_false_iff.mp stays).1
  rw [R5900DecodedInstruction.isBranch, decide_eq_false_iff_not, decodeR5900_class]
    at notBranch
  rw [decodeR5900_likely]
  cases named : (decodeR5900 word).instruction <;>
    first
    | rfl
    | exact absurd (congrArg r5900ClassOf named) notBranch

theorem endKindOf_of_continues
    (fetched : fetchSite memory pc requireExecutable = some site)
    (continues : site.decoded.endsBlock = false) :
    endKindOf site.decoded = .instructionLimit := by
  obtain ⟨word, -, rfl⟩ := fetchSite_eq_some fetched
  obtain ⟨notUnknown, notSystem, stays⟩ := endsBlock_eq_false_iff.mp continues
  have none := mt decodeR5900_transfers.mpr (by rw [stays]; exact Bool.false_ne_true)
  push Not at none
  obtain ⟨notBranch, notJ, notJal, notJr, notJalr⟩ := none
  simp only [endKindOf, if_neg notUnknown, if_neg notSystem, if_neg notBranch]

/-- A last instruction that transfers no control leaves the flag alone. -/
theorem endsWith_of_not_transfers {block : R5900BasicBlock}
    (fetched : fetchSite memory pc requireExecutable = some site)
    (stays : site.decoded.transfers = false)
    (endKind : block.endKind = endKindOf site.decoded)
    (fresh : block.delaySlotExecutesOnFallthrough = true) :
    EndsWith site.decoded block := by
  refine ⟨endKind, ?_⟩
  rw [fresh, likely_of_not_transfers fetched stays]
  rfl

theorem finishControlTransfer_endsWith {block result : R5900BasicBlock}
    (fetched : fetchSite memory pc requireExecutable = some site)
    (transfers : site.decoded.transfers = true)
    (finished : finishControlTransfer memory block site requireExecutable = .ok result) :
    result.instructions = block.instructions ∧ EndsWith site.decoded result := by
  obtain ⟨word, -, rfl⟩ := fetchSite_eq_some fetched
  unfold finishControlTransfer at finished
  split at finished
  · cases finished
  · next slot slotFetched =>
      obtain ⟨other, closed, ending⟩ := finishWithDelaySlot_spec pc block slot transfers
      obtain rfl := Except.ok.inj (closed.symm.trans finished)
      exact ending

/-- A terminator is the last site and decides how its block ends. -/
theorem analyzeInstructions_endsWith_terminator {block result : R5900BasicBlock}
    {remaining : Nat} (fresh : block.delaySlotExecutesOnFallthrough = true)
    (fetched : fetchSite memory pc requireExecutable = some site)
    (ends : site.decoded.endsBlock = true)
    (analyzed : analyzeInstructions memory requireExecutable block pc (remaining + 1) =
      .ok result) :
    result.instructions.getLast? = some site ∧ EndsWith site.decoded result := by
  obtain ⟨word, -, decoded⟩ := fetchSite_eq_some fetched
  rcases analyzeInstructions_of_endsBlock block remaining fetched ends with
    ⟨unknown, ended⟩ | ⟨notUnknown, system, ended⟩ | ⟨transfers, ended⟩
  · obtain rfl := Except.ok.inj (ended.symm.trans analyzed)
    have stays : site.decoded.transfers = false := by
      rw [decoded] at unknown ⊢
      exact decodeR5900_unknown_not_transfers unknown
    refine ⟨by simp, endsWith_of_not_transfers fetched stays ?_ fresh⟩
    simp [endKindOf, unknown]
  · obtain rfl := Except.ok.inj (ended.symm.trans analyzed)
    have stays : site.decoded.transfers = false := by
      rw [decoded] at system ⊢
      exact decodeR5900_system_not_transfers system
    refine ⟨by simp, endsWith_of_not_transfers fetched stays ?_ fresh⟩
    simp [endKindOf, notUnknown, system]
  · obtain ⟨instructions, ending⟩ :=
      finishControlTransfer_endsWith fetched transfers (ended.symm.trans analyzed)
    exact ⟨by simp [instructions], ending⟩

theorem exists_fetchSite_of_analyzed {block result : R5900BasicBlock} {remaining : Nat}
    (analyzed : analyzeInstructions memory requireExecutable block pc (remaining + 1) =
      .ok result) :
    ∃ site, fetchSite memory pc requireExecutable = some site := by
  cases fetched : fetchSite memory pc requireExecutable with
  | none =>
      rw [analyzeInstructions, fetched] at analyzed
      cases analyzed
  | some site => exact ⟨site, rfl⟩

/-- The loop leaves the end kind and the flag of the last instruction it took. -/
theorem analyzeInstructions_endsWith {block result : R5900BasicBlock} {remaining : Nat}
    (fresh : block.delaySlotExecutesOnFallthrough = true)
    (analyzed : analyzeInstructions memory requireExecutable block pc (remaining + 1) =
      .ok result) :
    ∃ terminator, result.instructions.getLast? = some terminator ∧
      EndsWith terminator.decoded result := by
  induction remaining generalizing block pc with
  | zero =>
      obtain ⟨site, fetched⟩ := exists_fetchSite_of_analyzed analyzed
      cases ends : site.decoded.endsBlock with
      | true =>
          exact ⟨site, analyzeInstructions_endsWith_terminator fresh fetched ends analyzed⟩
      | false =>
          rw [analyzeInstructions_continues fetched ends] at analyzed
          obtain rfl := Except.ok.inj analyzed
          refine ⟨site, by simp [appendEdge], endsWith_of_not_transfers fetched
            (endsBlock_eq_false_iff.mp ends).2.2 ?_ fresh⟩
          exact (endKindOf_of_continues fetched ends).symm
  | succ remaining ih =>
      obtain ⟨site, fetched⟩ := exists_fetchSite_of_analyzed analyzed
      cases ends : site.decoded.endsBlock with
      | true =>
          exact ⟨site, analyzeInstructions_endsWith_terminator fresh fetched ends analyzed⟩
      | false =>
          rw [analyzeInstructions_continues fetched ends] at analyzed
          exact ih (by exact fresh) analyzed

/-- Only the edges of register jumps have no target. -/
theorem target_eq_none_iff {edge : R5900ControlFlowEdge}
    (fetched : fetchSite memory pc requireExecutable = some site)
    (member : edge ∈ exitEdges site) :
    edge.target = none ↔ edge.kind = .indirectJump ∨ edge.kind = .indirectCall := by
  obtain ⟨word, -, rfl⟩ := fetchSite_eq_some fetched
  by_cases branch : (decodeR5900 word).isBranch = true
  · rw [exitEdges, if_pos branch, directTarget_of_isBranch branch] at member
    simp only [List.mem_cons, List.not_mem_nil, or_false] at member
    rcases member with rfl | rfl <;> simp
  · have notBranch : (decodeR5900 word).isBranch = false := eq_false_of_ne_true branch
    by_cases transfers : (decodeR5900 word).transfers = true
    · rcases decodeR5900_transfers.mp transfers with
        isBranch | named | named | named | named
      · exact absurd isBranch branch
      · simp only [exitEdges, if_neg branch, named,
          directTarget_of_jump pc notBranch (.inl named), List.mem_singleton] at member
        simp [member]
      · simp only [exitEdges, if_neg branch, named,
          directTarget_of_jump pc notBranch (.inr named), List.mem_cons,
          List.not_mem_nil, or_false] at member
        rcases member with rfl | rfl <;> simp
      · simp only [exitEdges, if_neg branch, named, List.mem_singleton] at member
        simp [member]
      · simp only [exitEdges, if_neg branch, named, List.mem_cons, List.not_mem_nil,
          or_false] at member
        rcases member with rfl | rfl <;> simp
    · rw [exitEdges_of_not_transfers (eq_false_of_ne_true transfers)] at member
      split at member
      · cases member
      · simp [List.mem_singleton.mp member]

end Shape

theorem analyzeR5900BasicBlock_endsWith {memory : Ps2MemoryMap} {pc : BitVec 32}
    {options : R5900ControlFlowOptions} {block : R5900BasicBlock}
    {terminator : R5900InstructionSite}
    (analyzed : analyzeR5900BasicBlock memory pc options = .ok block)
    (last : block.instructions.getLast? = some terminator) :
    EndsWith terminator.decoded block := by
  have positive := maxInstructions_ne_zero_of_analyzed analyzed
  have aligned := aligned_of_analyzed analyzed
  rw [analyzeR5900BasicBlock, if_neg positive, if_neg (not_not.mpr aligned)] at analyzed
  obtain ⟨remaining, limit⟩ := Nat.exists_eq_succ_of_ne_zero positive
  rw [limit] at analyzed
  obtain ⟨other, same, ending⟩ := analyzeInstructions_endsWith rfl analyzed
  obtain rfl := Option.some.inj (same.symm.trans last)
  exact ending

theorem and_three_eq_zero_iff (pc : BitVec 32) : pc &&& 0x3 = 0 ↔ pc.toNat % 4 = 0 := by
  rw [← BitVec.toNat_inj, BitVec.toNat_and]
  exact Iff.of_eq (congrArg (· = 0) (Nat.and_two_pow_sub_one_eq_mod pc.toNat 2))

section Maximal

variable {memory : Ps2MemoryMap} {startPc : BitVec 32} {options : R5900ControlFlowOptions}

theorem analyzeR5900BasicBlock_isOk_iff :
    (∃ block, analyzeR5900BasicBlock memory startPc options = .ok block) ↔
      1 ≤ options.maxInstructions ∧ startPc.toNat % 4 = 0 ∧
        BlockFetchable memory options.requireExecutable startPc
          (blockLength memory startPc options.maxInstructions) := by
  rw [analyzeR5900BasicBlock]
  split
  · next zero => simp [zero]
  · next nonzero =>
      split
      · next unaligned =>
          rw [ne_eq, and_three_eq_zero_iff] at unaligned
          simp [unaligned]
      · next aligned =>
          rw [ne_eq, not_not, and_three_eq_zero_iff] at aligned
          have positive : 1 ≤ options.maxInstructions := Nat.pos_of_ne_zero nonzero
          rw [analyzeInstructions_isOk_iff, and_iff_right positive, and_iff_right aligned]

theorem isMaximalBlock_of_analyzed {block : R5900BasicBlock}
    (analyzed : analyzeR5900BasicBlock memory startPc options = .ok block) :
    ∃ terminator, IsMaximalBlock memory startPc
      (blockLength memory startPc options.maxInstructions) terminator block := by
  obtain ⟨terminator, shape, bounded, full⟩ := analyzeR5900BasicBlock_eq_ok analyzed
  have fetched := shape.sites.fetched_of_mem shape.sites.terminator_mem
  have behind := shape.sites.pc_behind
  have delaySlot := shape.delaySlot
  rw [behind] at delaySlot
  obtain ⟨endKind, fallthrough⟩ := analyzeR5900BasicBlock_endsWith analyzed
    shape.sites.getLast?
  rw [← shape.sites.length_eq bounded full]
  refine ⟨terminator, shape.start, shape.sites.fetchedFrom.map_some, shape.sites.getLast?,
    fun site => shape.sites.continues_of_mem_dropLast, endKind, ?_, ?_, ?_, shape.edges,
    ?_, behind⟩
  · rw [delaySlot]
    split
    · next transfers =>
        obtain ⟨slot, present⟩ := Option.isSome_iff_exists.mp
          (shape.delaySlotPresent transfers)
        rw [delaySlot, if_pos transfers] at present
        rw [present, siteAt_of_fetchSite present]
    · rfl
  · cases transfers : terminator.decoded.transfers with
    | true => exact shape.delaySlotPresent transfers
    | false =>
        rw [delaySlot, transfers]
        rfl
  · obtain ⟨word, -, decoded⟩ := fetchSite_eq_some fetched
    rw [fallthrough, decoded, decodeR5900_likely, Bool.not_eq_false']
  · intro edge member
    rw [shape.edges] at member
    exact target_eq_none_iff fetched member

end Maximal

/-- A BREAK and nothing else. -/
def breakMemory : Ps2MemoryMap where
  regions := [⟨0x1000, 4, 5⟩]
  backingRegions :=
    [{ metadata := ⟨0x1000, 4, 5⟩
       bytes := [0x0D, 0x00, 0x00, 0x00]
       sized := rfl }]
  mirrored := mirrored_singleton

end Burnout3Recompiled
