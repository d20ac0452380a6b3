import Burnout3Recompiled.R5900BlockStructure

/-!
# Sites fetched one after another

The instructions of an analysed block and the delay slot behind them stand at
consecutive PCs, counted from the start of the block.  PCs wrap around, so a run
of more than 2^30 sites comes back to its start.
-/

namespace Burnout3Recompiled

/-- The PC of an instruction, counted from `startPc`. -/
def instructionPc (startPc : BitVec 32) (index : Nat) : BitVec 32 :=
  startPc + BitVec.ofNat 32 (4 * index)

@[simp]
theorem instructionPc_zero (startPc : BitVec 32) : instructionPc startPc 0 = startPc := by
  rw [instructionPc, Nat.mul_zero, BitVec.add_zero]

theorem instructionPc_add (startPc : BitVec 32) (first second : Nat) :
    instructionPc (instructionPc startPc first) second =
      instructionPc startPc (first + second) := by
  rw [instructionPc, instructionPc, instructionPc, Nat.mul_add, BitVec.ofNat_add,
    BitVec.add_assoc]

theorem instructionPc_one (startPc : BitVec 32) :
    instructionPc startPc 1 = startPc + 4 :=
  rfl

theorem instructionPc_succ (startPc : BitVec 32) (index : Nat) :
    instructionPc startPc (index + 1) = instructionPc (startPc + 4) index := by
  rw [← instructionPc_one, instructionPc_add, Nat.add_comm]

/-- Two runs that meet, followed back to the start of the one that meets first. -/
theorem eq_instructionPc_sub {first second : BitVec 32} {i j : Nat} (ordered : i ≤ j)
    (meet : instructionPc first i = instructionPc second j) :
    first = instructionPc second (j - i) := by
  rw [← Nat.sub_add_cancel ordered, ← instructionPc_add] at meet
  exact add_right_cancel meet

/-- The PCs of a run repeat after 2^30 instructions and not before. -/
theorem instructionPc_eq_self_iff {startPc : BitVec 32} {index : Nat} :
    instructionPc startPc index = startPc ↔ 2 ^ 30 ∣ index := by
  have wraps : BitVec.ofNat 32 (4 * index) = 0 ↔ 4 * index % 2 ^ 32 = 0 := by
    rw [← BitVec.toNat_inj, BitVec.toNat_ofNat]
    rfl
  rw [instructionPc, add_eq_left, wraps]
  omega

/-- Two maps agree when they do at every index. -/
theorem map_eq_map_range {α β : Type*} {items : List α} {value : α → β} {place : Nat → β}
    (agree : ∀ index item, items[index]? = some item → value item = place index) :
    items.map value = (List.range items.length).map place := by
  apply List.ext_getElem?
  intro index
  rw [List.getElem?_map, List.getElem?_map]
  cases present : items[index]? with
  | none =>
      have beyond := List.getElem?_eq_none_iff.mp present
      rw [List.getElem?_eq_none (by simpa using beyond)]
      rfl
  | some item =>
      obtain ⟨inside, -⟩ := List.getElem?_eq_some_iff.mp present
      rw [List.getElem?_range inside, Option.map_some, Option.map_some, agree index item present]

section Fetched

variable (memory : Ps2MemoryMap) (requireExecutable : Bool)

/-- Sites fetched one after another from `pc` on. -/
def FetchedFrom (pc : BitVec 32) : List R5900InstructionSite → Prop
  | [] => True
  | site :: sites =>
      fetchSite memory pc requireExecutable = some site ∧ FetchedFrom (pc + 4) sites

variable {memory requireExecutable} {pc : BitVec 32}
  {sites before after : List R5900InstructionSite} {site terminator : R5900InstructionSite}

theorem fetchSite_eq_some_iff :
    fetchSite memory pc requireExecutable = some site ↔
      ∃ word, memory.readU32 pc = some word ∧
        (requireExecutable = true → rangeStatus memory pc 4 = .executable) ∧
        site = ⟨pc, decodeR5900 word⟩ := by
  unfold fetchSite
  cases memory.readU32 pc with
  | none => simp
  | some word =>
      by_cases refused : requireExecutable = true ∧ rangeStatus memory pc 4 ≠ .executable
      · simp [refused]
      · have allowed : requireExecutable = true → rangeStatus memory pc 4 = .executable := by
          rwa [not_and, not_not] at refused
        simp only [if_neg refused, Option.some.injEq, exists_eq_left', and_iff_right allowed]
        exact eq_comm

theorem SitesFrom.fetchedFrom
    (run : SitesFrom memory requireExecutable pc sites terminator) :
    FetchedFrom memory requireExecutable pc sites := by
  induction run with
  | last fetched => exact ⟨fetched, trivial⟩
  | next fetched continues rest ih => exact ⟨fetched, ih⟩

namespace FetchedFrom

theorem append_left
    (fetched : FetchedFrom memory requireExecutable pc (before ++ after)) :
    FetchedFrom memory requireExecutable pc before := by
  induction before generalizing pc with
  | nil => trivial
  | cons first before ih => exact ⟨fetched.1, ih fetched.2⟩

theorem append_iff :
    FetchedFrom memory requireExecutable pc (before ++ after) ↔
      FetchedFrom memory requireExecutable pc before ∧
        FetchedFrom memory requireExecutable (instructionPc pc before.length) after := by
  induction before generalizing pc with
  | nil => simp [FetchedFrom]
  | cons first before ih =>
      rw [List.cons_append, FetchedFrom, FetchedFrom, ih, List.length_cons,
        instructionPc_succ, and_assoc]

theorem fetchSite_getElem? (fetched : FetchedFrom memory requireExecutable pc sites)
    {index : Nat} (present : sites[index]? = some site) :
    fetchSite memory (instructionPc pc index) requireExecutable = some site := by
  induction sites generalizing pc index with
  | nil => cases present
  | cons first sites ih =>
      cases index with
      | zero =>
          obtain rfl := Option.some.inj present
          rw [instructionPc_zero]
          exact fetched.1
      | succ index =>
          rw [instructionPc_succ]
          exact ih fetched.2 present

theorem pc_getElem? (fetched : FetchedFrom memory requireExecutable pc sites)
    {index : Nat} (present : sites[index]? = some site) :
    site.pc = instructionPc pc index :=
  fetchSite_pc (fetched.fetchSite_getElem? present)

/-- The site behind `before` stands behind its instructions. -/
theorem fetchSite_middle
    (fetched : FetchedFrom memory requireExecutable pc (before ++ site :: after)) :
    fetchSite memory (instructionPc pc before.length) requireExecutable = some site :=
  fetched.fetchSite_getElem? (by simp)

theorem pc_middle
    (fetched : FetchedFrom memory requireExecutable pc (before ++ site :: after)) :
    site.pc = instructionPc pc before.length :=
  fetchSite_pc fetched.fetchSite_middle

/-- The PCs of a run are counted from its start. -/
theorem map_pc (fetched : FetchedFrom memory requireExecutable pc sites) :
    sites.map (·.pc) = (List.range sites.length).map (instructionPc pc) := by
  apply map_eq_map_range
  intro index site present
  exact fetched.pc_getElem? present

/-- A PC is met twice when the run has more sites than there are PCs for it. -/
theorem nodup_iff (fetched : FetchedFrom memory requireExecutable pc sites) :
    (sites.map (·.pc)).Nodup ↔ sites.length ≤ 2 ^ 30 := by
  rw [fetched.map_pc]
  constructor
  · intro distinct
    by_contra long
    have first : (0 : Nat) ∈ List.range sites.length := List.mem_range.mpr (by omega)
    have again : 2 ^ 30 ∈ List.range sites.length := List.mem_range.mpr (by omega)
    have same : instructionPc pc 0 = instructionPc pc (2 ^ 30) := by
      rw [instructionPc_zero, eq_comm, instructionPc_eq_self_iff]
    exact absurd (List.inj_on_of_nodup_map distinct first again same) (by decide)
  · intro short
    refine List.Nodup.map_on ?_ List.nodup_range
    intro i iInside j jInside same
    rw [List.mem_range] at iInside jInside
    rcases Nat.le_total i j with ordered | ordered
    · have back := eq_instructionPc_sub ordered same
      have multiple := instructionPc_eq_self_iff.mp back.symm
      omega
    · have back := eq_instructionPc_sub ordered same.symm
      have multiple := instructionPc_eq_self_iff.mp back.symm
      omega

/-- Where two runs meet, the start of one of them lies in the other. -/
theorem start_mem_of_meet {start otherStart : BitVec 32}
    {others : List R5900InstructionSite} {other : R5900InstructionSite}
    (run : FetchedFrom memory requireExecutable start sites)
    (otherRun : FetchedFrom memory requireExecutable otherStart others)
    (member : site ∈ sites) (otherMember : other ∈ others) (meet : site.pc = other.pc) :
    start ∈ others.map (·.pc) ∨ otherStart ∈ sites.map (·.pc) := by
  obtain ⟨i, present⟩ := List.mem_iff_getElem?.mp member
  obtain ⟨j, otherPresent⟩ := List.mem_iff_getElem?.mp otherMember
  obtain ⟨inside, -⟩ := List.getElem?_eq_some_iff.mp present
  obtain ⟨otherInside, -⟩ := List.getElem?_eq_some_iff.mp otherPresent
  rw [run.pc_getElem? present, otherRun.pc_getElem? otherPresent] at meet
  rcases Nat.le_total i j with ordered | ordered
  · left
    rw [otherRun.map_pc, eq_instructionPc_sub ordered meet]
    exact List.mem_map_of_mem (List.mem_range.mpr (by omega))
  · right
    rw [run.map_pc, eq_instructionPc_sub ordered meet.symm]
    exact List.mem_map_of_mem (List.mem_range.mpr (by omega))

end FetchedFrom

/-- The PC behind the last instruction of a run. -/
theorem SitesFrom.pc_behind
    (run : SitesFrom memory requireExecutable pc sites terminator) :
    terminator.pc + 4 = instructionPc pc sites.length := by
  obtain ⟨before, split⟩ := List.getLast?_eq_some_iff.mp run.getLast?
  have fetched := run.fetchedFrom
  rw [split] at fetched ⊢
  rw [fetched.pc_middle, ← instructionPc_one, instructionPc_add, List.length_append,
    List.length_singleton]

end Fetched

section Blocks

variable {memory : Ps2MemoryMap} {pc : BitVec 32} {options : R5900ControlFlowOptions}
  {block : R5900BasicBlock}

theorem analyzeR5900BasicBlock_fetched
    (analyzed : analyzeR5900BasicBlock memory pc options = .ok block) :
    FetchedFrom memory options.requireExecutable pc block.instructions := by
  obtain ⟨terminator, shape, -, -⟩ := analyzeR5900BasicBlock_eq_ok analyzed
  exact shape.sites.fetchedFrom

/-- The delay slot stands right behind the instructions. -/
theorem analyzeR5900BasicBlock_fetchedSlot
    (analyzed : analyzeR5900BasicBlock memory pc options = .ok block) :
    FetchedFrom memory options.requireExecutable pc
      (block.instructions ++ block.delaySlot.toList) := by
  obtain ⟨terminator, shape, -, -⟩ := analyzeR5900BasicBlock_eq_ok analyzed
  refine FetchedFrom.append_iff.mpr ⟨shape.sites.fetchedFrom, ?_⟩
  cases present : block.delaySlot with
  | none => trivial
  | some slot =>
      have delaySlot := shape.delaySlot
      rw [present] at delaySlot
      split at delaySlot
      · rw [shape.sites.pc_behind] at delaySlot
        exact ⟨delaySlot.symm, trivial⟩
      · cases delaySlot

end Blocks

end Burnout3Recompiled
