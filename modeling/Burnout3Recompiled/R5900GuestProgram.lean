import Burnout3Recompiled.R5900BlockDispatcher
import Burnout3Recompiled.R5900FetchedSites
import Burnout3Recompiled.R5900StartupSemantics

/-!
# Guest programs

The dispatcher works on sites fetched one after another, so their words alone
give the sites back.  Every eligible instruction lowers except a CTC1 that names
another control register than 31, and lowering a run of sites yields the program
that guest memory holds there.
-/

namespace Burnout3Recompiled

/-- The sites of words that stand one after another. -/
def sitesFrom (pc : BitVec 32) : List (BitVec 32) → List R5900InstructionSite
  | [] => []
  | word :: words => ⟨pc, decodeR5900 word⟩ :: sitesFrom (pc + 4) words

@[simp]
theorem length_sitesFrom (pc : BitVec 32) (words : List (BitVec 32)) :
    (sitesFrom pc words).length = words.length := by
  induction words generalizing pc with
  | nil => rfl
  | cons word words ih => rw [sitesFrom, List.length_cons, ih, List.length_cons]

theorem decoded_of_mem_sitesFrom {pc : BitVec 32} {words : List (BitVec 32)}
    {site : R5900InstructionSite} (member : site ∈ sitesFrom pc words) :
    site.decoded = decodeR5900 site.decoded.raw := by
  induction words generalizing pc with
  | nil => cases member
  | cons word words ih =>
      rcases List.mem_cons.mp member with rfl | later
      · rw [decodeR5900_raw]
      · exact ih later

def siteWords (sites : List R5900InstructionSite) : List (BitVec 32) :=
  sites.map fun site => site.decoded.raw

section Fetched

variable {memory : Ps2MemoryMap} {requireExecutable : Bool} {pc : BitVec 32}
  {sites : List R5900InstructionSite} {site : R5900InstructionSite}

namespace FetchedFrom

/-- Fetched sites are determined by their words. -/
theorem eq_sitesFrom (fetched : FetchedFrom memory requireExecutable pc sites) :
    sites = sitesFrom pc (siteWords sites) := by
  induction sites generalizing pc with
  | nil => rfl
  | cons first sites ih =>
      obtain ⟨word, -, rfl⟩ := fetchSite_eq_some fetched.1
      have rest : sites = sitesFrom (pc + 4) (siteWords sites) := ih fetched.2
      rw [siteWords, List.map_cons, sitesFrom, decodeR5900_raw, ← siteWords, ← rest]

theorem decoded_of_mem (fetched : FetchedFrom memory requireExecutable pc sites)
    (member : site ∈ sites) : site.decoded = decodeR5900 site.decoded.raw := by
  rw [fetched.eq_sitesFrom] at member
  exact decoded_of_mem_sitesFrom member

theorem readGuestWords_eq (fetched : FetchedFrom memory requireExecutable pc sites) :
    readGuestWords memory sites = .ok (siteWords sites) := by
  induction sites generalizing pc with
  | nil => rfl
  | cons first sites ih =>
      obtain ⟨word, read, rfl⟩ := fetchSite_eq_some fetched.1
      simp only [readGuestWords, read, ih fetched.2, siteWords, List.map_cons,
        decodeR5900_raw]
      rfl

end FetchedFrom

end Fetched

namespace R5900InstructionSite

def Lowers (site : R5900InstructionSite) : Prop :=
  (lowerR5900Instruction site.decoded site.pc).ok = true

instance (site : R5900InstructionSite) : Decidable site.Lowers :=
  inferInstanceAs (Decidable (_ = true))

def lowered (site : R5900InstructionSite) : List R5900IrInstruction :=
  (lowerR5900Instruction site.decoded site.pc).instructions

end R5900InstructionSite

/-- A CTC1 that names another control register than 31. -/
def IsUnsupportedCtc1 (word : BitVec 32) : Prop :=
  R5900Word.opcode word = 0x11 ∧ R5900Word.rs word = 0x06 ∧ R5900Word.rd word ≠ 31

section Eligibility

variable {word pc : BitVec 32}

theorem isDispatcherV0Eligible_iff {instruction : R5900Instruction} :
    isDispatcherV0Eligible instruction = true ↔ IsStartupInstruction instruction := by
  cases instruction <;> simp [isDispatcherV0Eligible, IsStartupInstruction]

theorem isUnsupportedCtc1_iff :
    IsUnsupportedCtc1 word ↔
      (decodeR5900 word).instruction = .ctc1 ∧ (decodeR5900 word).rd ≠ 31 := by
  have opcode : (r5900Fields word).primaryOpcode = 0x11 ↔ R5900Word.opcode word = 0x11 := by
    rw [r5900Fields_opcode]
    exact StartupInstruction.wideField_eq_iff (by decide) (by decide)
  have rs : (r5900Fields word).rs = 0x06 ↔ R5900Word.rs word = 0x06 := by
    rw [r5900Fields_rs]
    exact StartupInstruction.wideField_eq_iff (by decide) (by decide)
  have rd : (decodeR5900 word).rd ≠ 31 ↔ R5900Word.rd word ≠ 31 := by
    rw [decodeR5900_rd, ne_eq, ne_eq]
    exact not_congr (StartupInstruction.wideField_eq_iff (by decide) (by decide))
  have named : (decodeR5900 word).instruction = .ctc1 ↔
      StartupFields (r5900Fields word) .ctc1 := decodeR5900_startup_iff trivial
  rw [IsUnsupportedCtc1, named, StartupFields, opcode, rs, rd, and_assoc]

theorem lowerR5900Instruction_ok_iff :
    (lowerR5900Instruction (decodeR5900 word) pc).ok = true ↔
      ∃ instruction : StartupInstruction, instruction.Encodes word := by
  constructor
  · intro succeeds
    by_contra outside
    push Not at outside
    have unsupported : (lowerR5900Instruction (decodeR5900 word) pc).error =
        .unsupportedInstruction :=
      (lowerR5900Instruction_unsupported (not_encodes_iff.mp outside)).1
    simp [R5900IrLoweringResult.ok, unsupported] at succeeds
  · rintro ⟨instruction, encodes⟩
    exact (implements_effect (fun lhs _ => lhs) pc encodes).succeeds

theorem lowerR5900Instruction_wellFormed
    (succeeds : (lowerR5900Instruction (decodeR5900 word) pc).ok = true) :
    ∀ ir ∈ (lowerR5900Instruction (decodeR5900 word) pc).instructions,
      R5900IrWellFormed ir := by
  obtain ⟨instruction, encodes⟩ := lowerR5900Instruction_ok_iff.mp succeeds
  exact (implements_effect (fun lhs _ => lhs) pc encodes).wellFormed

/-- The eligible words that do not lower. -/
theorem lowerR5900Instruction_ok_iff_eligible :
    (lowerR5900Instruction (decodeR5900 word) pc).ok = true ↔
      isDispatcherV0Eligible (decodeR5900 word).instruction = true ∧
        ¬IsUnsupportedCtc1 word := by
  rw [lowerR5900Instruction_ok_iff, isDispatcherV0Eligible_iff, isUnsupportedCtc1_iff,
    ← not_iff_not, not_exists, not_encodes_iff, not_and_or, not_not]

end Eligibility

section Lowering

variable {sites before after : List R5900InstructionSite} {site : R5900InstructionSite}
  {pc : BitVec 32}

theorem lowerSites_cons_of_lowers (lowers : site.Lowers) :
    lowerSites (site :: sites) = (lowerSites sites).map (site.lowered ++ ·) := by
  rw [lowerSites]
  exact if_pos lowers

theorem lowerSites_cons_of_not_lowers (fails : ¬site.Lowers) :
    lowerSites (site :: sites) =
      .error (site.pc, (lowerR5900Instruction site.decoded site.pc).message) := by
  rw [lowerSites]
  exact if_neg fails

theorem lowerSites_eq_ok (lower : ∀ site ∈ sites, site.Lowers) :
    lowerSites sites = .ok (sites.flatMap R5900InstructionSite.lowered) := by
  induction sites with
  | nil => rfl
  | cons site sites ih =>
      obtain ⟨first, others⟩ := List.forall_mem_cons.mp lower
      rw [lowerSites_cons_of_lowers first, ih others]
      rfl

/-- The first site that does not lower is the one reported. -/
theorem lowerSites_eq_error (lower : ∀ site ∈ before, site.Lowers)
    (fails : ¬site.Lowers) :
    lowerSites (before ++ site :: after) =
      .error (site.pc, (lowerR5900Instruction site.decoded site.pc).message) := by
  induction before with
  | nil => exact lowerSites_cons_of_not_lowers fails
  | cons first before ih =>
      obtain ⟨firstLowers, others⟩ := List.forall_mem_cons.mp lower
      rw [List.cons_append, lowerSites_cons_of_lowers firstLowers, ih others]
      rfl

/-- Either all sites lower or there is a first one that does not. -/
theorem lower_or_firstFailure (sites : List R5900InstructionSite) :
    (∀ site ∈ sites, site.Lowers) ∨
      ∃ before site after, sites = before ++ site :: after ∧
        (∀ site ∈ before, site.Lowers) ∧ ¬site.Lowers := by
  induction sites with
  | nil => exact .inl (by simp)
  | cons first sites ih =>
      by_cases lowers : first.Lowers
      · rcases ih with all | ⟨before, site, after, rfl, earlier, fails⟩
        · exact .inl (List.forall_mem_cons.mpr ⟨lowers, all⟩)
        · exact .inr ⟨first :: before, site, after, rfl,
            List.forall_mem_cons.mpr ⟨lowers, earlier⟩, fails⟩
      · exact .inr ⟨[], first, sites, rfl, by simp, lowers⟩

theorem wellFormed_of_lower {words : List (BitVec 32)}
    (lower : ∀ site ∈ sitesFrom pc words, site.Lowers) :
    ∀ ir ∈ (sitesFrom pc words).flatMap R5900InstructionSite.lowered,
      R5900IrWellFormed ir := by
  intro ir member
  obtain ⟨site, inside, fromSite⟩ := List.mem_flatMap.mp member
  have lowers := lower site inside
  unfold R5900InstructionSite.Lowers at lowers
  unfold R5900InstructionSite.lowered at fromSite
  rw [decoded_of_mem_sitesFrom inside] at lowers fromSite
  exact lowerR5900Instruction_wellFormed lowers ir fromSite

end Lowering

section GuestProgram

variable (memory : Ps2MemoryMap) (requireExecutable : Bool)

/-- The instruction at `pc` is readable, executable where that is required, and
lowers. -/
def LowersAt (pc : BitVec 32) : Prop :=
  ∃ word, memory.readU32 pc = some word ∧
    (requireExecutable = true → rangeStatus memory pc 4 = .executable) ∧
    (lowerR5900Instruction (decodeR5900 word) pc).ok = true

/-- The IR of the instruction at `pc`. -/
def loweredAt (pc : BitVec 32) : List R5900IrInstruction :=
  match memory.readU32 pc with
  | none => []
  | some word => (lowerR5900Instruction (decodeR5900 word) pc).instructions

/-- The IR of `count` instructions from `startPc` on. -/
def guestProgram (startPc : BitVec 32) (count : Nat) : List R5900IrInstruction :=
  (List.range count).flatMap fun index => loweredAt memory (instructionPc startPc index)

variable {memory requireExecutable} {pc startPc : BitVec 32}
  {sites : List R5900InstructionSite} {site : R5900InstructionSite}

theorem guestProgram_zero : guestProgram memory startPc 0 = [] :=
  rfl

theorem guestProgram_add (first second : Nat) :
    guestProgram memory startPc (first + second) =
      guestProgram memory startPc first ++
        guestProgram memory (instructionPc startPc first) second := by
  simp only [guestProgram, List.range_add, List.flatMap_append, List.flatMap_map,
    instructionPc_add]

theorem guestProgram_wellFormed (ir : R5900IrInstruction) {count : Nat}
    (lower : ∀ index < count, LowersAt memory requireExecutable (instructionPc startPc index))
    (member : ir ∈ guestProgram memory startPc count) : R5900IrWellFormed ir := by
  obtain ⟨index, inside, fromIndex⟩ := List.mem_flatMap.mp member
  obtain ⟨word, read, -, succeeds⟩ := lower index (List.mem_range.mp inside)
  rw [loweredAt, read] at fromIndex
  exact lowerR5900Instruction_wellFormed succeeds ir fromIndex

theorem lowersAt_of_fetchSite
    (fetched : fetchSite memory pc requireExecutable = some site) (lowers : site.Lowers) :
    LowersAt memory requireExecutable pc := by
  obtain ⟨word, read, executable, rfl⟩ := fetchSite_eq_some_iff.mp fetched
  exact ⟨word, read, executable, lowers⟩

theorem loweredAt_of_fetchSite
    (fetched : fetchSite memory pc requireExecutable = some site) :
    loweredAt memory pc = site.lowered := by
  obtain ⟨word, read, rfl⟩ := fetchSite_eq_some fetched
  rw [loweredAt, read]
  rfl

namespace FetchedFrom

theorem lowersAt (fetched : FetchedFrom memory requireExecutable pc sites)
    (lower : ∀ site ∈ sites, site.Lowers) (index : Nat) (inside : index < sites.length) :
    LowersAt memory requireExecutable (instructionPc pc index) := by
  have split : sites = sites.take index ++ sites[index] :: sites.drop (index + 1) := by
    rw [← List.drop_eq_getElem_cons inside, List.take_append_drop]
  rw [split] at fetched
  have middle := fetched.fetchSite_middle
  rw [List.length_take_of_le inside.le] at middle
  exact lowersAt_of_fetchSite middle (lower _ (List.getElem_mem inside))

theorem flatMap_lowered (fetched : FetchedFrom memory requireExecutable pc sites) :
    sites.flatMap R5900InstructionSite.lowered = guestProgram memory pc sites.length := by
  induction sites generalizing pc with
  | nil => rfl
  | cons site sites ih =>
      have first : guestProgram memory pc 1 = site.lowered := by
        rw [guestProgram, List.range_one, List.flatMap_singleton, instructionPc_zero,
          loweredAt_of_fetchSite fetched.1]
      rw [List.flatMap_cons, List.length_cons, Nat.add_comm, guestProgram_add, first,
        instructionPc_one, ih fetched.2]

end FetchedFrom

end GuestProgram

end Burnout3Recompiled
