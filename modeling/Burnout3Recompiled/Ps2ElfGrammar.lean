import Burnout3Recompiled.Ps2ImageMapping

/-!
# What the ELF parser accepts

The accepted files are described here by the fields that stand in their bytes.
The parser runs one list of checks in order, so the first violated one decides
the error, and no byte outside the file is read on the way.
-/

namespace Burnout3Recompiled

open OrderedChecks (runChecks runChecks_append runChecks_eq_ok_iff runChecks_eq_error_iff)

section Grammar

variable (bytes : List (BitVec 8))

/-- Where a program header stands in the file. -/
def programHeaderBase (index : Nat) : Nat :=
  (fileWord bytes 28).toNat + 32 * index

/-- A load segment whose file range lies in the file and fits its memory. -/
def LoadEntryFits (base : Nat) : Prop :=
  fileWord bytes base = 1 →
    (fileWord bytes (base + 16)).toNat ≤ (fileWord bytes (base + 20)).toNat ∧
      (fileWord bytes (base + 4)).toNat + (fileWord bytes (base + 16)).toNat ≤
        bytes.length

/-- The files the parser accepts. -/
structure IsPs2Elf : Prop where
  size : 52 ≤ bytes.length
  magic : bytes.take 4 = [0x7F, 0x45, 0x4C, 0x46]
  identClass : bytes[4]? = some 1
  identData : bytes[5]? = some 1
  identVersion : bytes[6]? = some 1
  type : fileHalf bytes 16 = 2
  machine : fileHalf bytes 18 = 8
  version : fileWord bytes 20 = 1
  headerSize : fileHalf bytes 40 = 52
  programHeaderSize : fileHalf bytes 42 = 32
  table : (fileWord bytes 28).toNat + 32 * (fileHalf bytes 44).toNat ≤ bytes.length
  entries : ∀ index < (fileHalf bytes 44).toNat,
    LoadEntryFits bytes (programHeaderBase bytes index)

/-- The image of a file. -/
structure IsImageOf (image : Ps2ElfImage) : Prop where
  entryPoint : image.entryPoint = fileWord bytes 24
  programHeaderCount : image.programHeaderCount = fileHalf bytes 44
  loadSegments : image.loadSegments = ptLoads bytes
  fileBytes : ∀ index segment, image.loadSegments[index]? = some segment →
    image.segmentFileBytes index =
        (bytes.drop segment.fileOffset.toNat).take segment.fileSize.toNat ∧
      (image.segmentFileBytes index).length = segment.fileSize.toNat
  noFileBytes : ∀ index, image.loadSegments.length ≤ index →
    image.segmentFileBytes index = []

def identificationChecks : List (Bool × Ps2ElfFailure) :=
  [(decide (bytes.take 4 = [0x7F, 0x45, 0x4C, 0x46]),
      ⟨.badMagic, "ELF magic is invalid"⟩),
    (decide (bytes[4]? = some 1),
      ⟨.unsupportedClass, "Only ELFCLASS32 is supported"⟩),
    (decide (bytes[5]? = some 1),
      ⟨.unsupportedEndian, "Only little-endian ELF is supported"⟩),
    (decide (bytes[6]? = some 1),
      ⟨.unsupportedIdentVersion, "ELF ident version is unsupported"⟩)]

def headerChecks : List (Bool × Ps2ElfFailure) :=
  [(decide (fileHalf bytes 16 = 2),
      ⟨.unsupportedType, "Only ET_EXEC ELF files are supported"⟩),
    (decide (fileHalf bytes 18 = 8),
      ⟨.unsupportedMachine, "Only EM_MIPS ELF files are supported"⟩),
    (decide (fileWord bytes 20 = 1),
      ⟨.unsupportedVersion, "ELF version is unsupported"⟩),
    (decide (fileHalf bytes 40 = 52),
      ⟨.invalidHeaderSize, "Unexpected ELF32 header size"⟩),
    (decide (fileHalf bytes 42 = 32),
      ⟨.invalidProgramHeaderSize, "Unexpected ELF32 program-header size"⟩)]

/-- The two checks of one program header; other entries than PT_LOAD pass them. -/
def entryChecks (base : Nat) : List (Bool × Ps2ElfFailure) :=
  [(decide (fileWord bytes base = 1 →
        (fileWord bytes (base + 16)).toNat ≤ (fileWord bytes (base + 20)).toNat),
      ⟨.segmentMemoryTooSmall, "PT_LOAD p_memsz is smaller than p_filesz"⟩),
    (decide (fileWord bytes base = 1 →
        (fileWord bytes (base + 4)).toNat + (fileWord bytes (base + 16)).toNat ≤
          bytes.length),
      ⟨.segmentOutOfBounds, "PT_LOAD file range is outside the ELF file"⟩)]

def tableChecks (base count : Nat) : List (Bool × Ps2ElfFailure) :=
  (List.range count).flatMap fun index => entryChecks bytes (base + 32 * index)

/-- Every check of the parser, front to back. -/
def ps2ElfChecks : List (Bool × Ps2ElfFailure) :=
  (decide (52 ≤ bytes.length),
      ⟨.tooSmall, "ELF file is smaller than an ELF32 header"⟩) ::
    (identificationChecks bytes ++ (headerChecks bytes ++
      (decide ((fileWord bytes 28).toNat + 32 * (fileHalf bytes 44).toNat ≤ bytes.length),
          ⟨.programHeaderTableOutOfBounds,
            "Program-header table is outside the ELF file"⟩) ::
        tableChecks bytes (fileWord bytes 28).toNat (fileHalf bytes 44).toNat))

end Grammar

section Checks

variable {bytes : List (BitVec 8)}

/-- All checks together are the grammar. -/
theorem runChecks_ps2ElfChecks_eq_ok_iff :
    runChecks (ps2ElfChecks bytes) = .ok () ↔ IsPs2Elf bytes := by
  have entries : (∀ check ∈ tableChecks bytes (fileWord bytes 28).toNat
        (fileHalf bytes 44).toNat, check.1 = true) ↔
      ∀ index < (fileHalf bytes 44).toNat,
        LoadEntryFits bytes (programHeaderBase bytes index) := by
    simp only [tableChecks, List.forall_mem_flatMap, List.mem_range]
    refine forall₂_congr fun index inside => ?_
    simp only [entryChecks, LoadEntryFits, programHeaderBase, imp_and,
      List.forall_mem_cons, decide_eq_true_eq, List.not_mem_nil, false_implies,
      implies_true, and_true]
  rw [runChecks_eq_ok_iff]
  simp only [ps2ElfChecks, identificationChecks, headerChecks, List.cons_append,
    List.nil_append, List.forall_mem_cons, decide_eq_true_eq, entries]
  constructor
  · rintro ⟨size, magic, identClass, identData, identVersion, type, machine, version,
      headerSize, programHeaderSize, table, fits⟩
    exact ⟨size, magic, identClass, identData, identVersion, type, machine, version,
      headerSize, programHeaderSize, table, fits⟩
  · rintro ⟨size, magic, identClass, identData, identVersion, type, machine, version,
      headerSize, programHeaderSize, table, fits⟩
    exact ⟨size, magic, identClass, identData, identVersion, type, machine, version,
      headerSize, programHeaderSize, table, fits⟩

theorem checkElfIdentification_eq (large : elf32HeaderSize ≤ bytes.length) :
    checkElfIdentification bytes large = runChecks (identificationChecks bytes) := by
  have bound : 52 ≤ bytes.length := large
  have front : bytes.take 4 = [bytes[0], bytes[1], bytes[2], bytes[3]] :=
    (congrArg (List.take 4) List.drop_zero.symm).trans
      (take_drop_four (by omega) (by omega) (by omega) (by omega))
  have magic : (bytes[0] ≠ 0x7F ∨ bytes[1] ≠ 0x45 ∨ bytes[2] ≠ 0x4C ∨ bytes[3] ≠ 0x46) ↔
      ¬bytes.take 4 = [0x7F, 0x45, 0x4C, 0x46] := by
    rw [front]
    simp only [List.cons.injEq, and_true]
    tauto
  simp only [checkElfIdentification, identificationChecks, runChecks, magic,
    decide_eq_true_eq, ite_not, ne_eq,
    List.getElem?_eq_getElem (show 4 < bytes.length by omega),
    List.getElem?_eq_getElem (show 5 < bytes.length by omega),
    List.getElem?_eq_getElem (show 6 < bytes.length by omega), Option.some.injEq]

theorem checkElfHeader_eq (large : elf32HeaderSize ≤ bytes.length) :
    checkElfHeader (readElfHeader bytes large) = runChecks (headerChecks bytes) := by
  have bound : 52 ≤ bytes.length := large
  simp only [checkElfHeader, readElfHeader, readElfU16_eq, readElfU32_eq, headerChecks,
    runChecks, decide_eq_true_eq, ite_not, ne_eq, elf32HeaderSize, elf32ProgramHeaderSize]
  rfl

theorem fits_iff {offset length total : Nat} :
    rangeFits offset length total ↔ offset + length ≤ total := by
  unfold rangeFits
  omega

/-- The loop over the table checks one entry after another. -/
theorem parseLoadSegments_eq (base count : Nat)
    (inside : base + count * elf32ProgramHeaderSize ≤ bytes.length) :
    (parseLoadSegments bytes base count inside).map (fun _ => ()) =
      runChecks (tableChecks bytes base count) := by
  induction count generalizing base with
  | zero => rfl
  | succ count ih =>
      have shifted : tableChecks bytes base (count + 1) =
          entryChecks bytes base ++ tableChecks bytes (base + 32) count := by
        have place : ∀ index, base + 32 * (index + 1) = base + 32 + 32 * index := by
          intro index
          omega
        rw [tableChecks, List.range_succ_eq_map, List.flatMap_cons, List.flatMap_map]
        simp only [Nat.mul_zero, Nat.add_zero, Nat.succ_eq_add_one, place]
        rfl
      have others : base + elf32ProgramHeaderSize + count * elf32ProgramHeaderSize ≤
          bytes.length := by
        rw [elf32ProgramHeaderSize] at inside ⊢
        omega
      have rest : (parseLoadSegments bytes (base + elf32ProgramHeaderSize) count others).map
          (fun _ => ()) = runChecks (tableChecks bytes (base + 32) count) := ih _ others
      rw [shifted, runChecks_append, ← rest]
      simp only [parseLoadSegments, readElfU32_eq, readLoadSegment_eq, ptLoad]
      by_cases load : fileWord bytes base = 1
      · rw [if_neg (not_not.mpr load)]
        split
        · next small =>
            have violated : ¬(fileWord bytes (base + 16)).toNat ≤
                (fileWord bytes (base + 20)).toNat := Nat.not_le_of_lt small
            simp [entryChecks, runChecks, load, violated, Except.map, bind, Except.bind]
        · next large =>
            have holds : (fileWord bytes (base + 16)).toNat ≤
                (fileWord bytes (base + 20)).toNat := Nat.le_of_not_lt large
            split
            · next fits =>
                have inFile : (fileWord bytes (base + 4)).toNat +
                    (fileWord bytes (base + 16)).toNat ≤ bytes.length := fits_iff.mp fits
                simp only [entryChecks, runChecks, load, holds, inFile, forall_const,
                  decide_true, if_true]
                cases parseLoadSegments bytes (base + elf32ProgramHeaderSize) count _ <;> rfl
            · next outside =>
                have violated : ¬(fileWord bytes (base + 4)).toNat +
                    (fileWord bytes (base + 16)).toNat ≤ bytes.length :=
                  mt fits_iff.mpr outside
                simp [entryChecks, runChecks, load, holds, violated, Except.map, bind,
                  Except.bind]
      · rw [if_pos load]
        simp only [entryChecks, runChecks, load, false_implies, decide_true, if_true]
        rfl

/-- The parser runs its checks in order and does nothing else that can fail. -/
theorem parsePs2Elf_checks :
    (parsePs2Elf bytes).map (fun _ => ()) = runChecks (ps2ElfChecks bytes) := by
  unfold parsePs2Elf ps2ElfChecks
  by_cases large : elf32HeaderSize ≤ bytes.length
  · have bound : 52 ≤ bytes.length := large
    rw [dif_pos large, runChecks]
    simp only [bound, decide_true, if_true, runChecks_append, checkElfIdentification_eq,
      checkElfHeader_eq]
    cases runChecks (identificationChecks bytes) with
    | error failure => rfl
    | ok _ =>
        cases runChecks (headerChecks bytes) with
        | error failure => rfl
        | ok _ =>
            have offset : (readElfHeader bytes large).programHeaderOffset =
                fileWord bytes 28 := readElfU32_eq _
            have count : (readElfHeader bytes large).programHeaderCount =
                fileHalf bytes 44 := readElfU16_eq _
            rw [← offset, ← count]
            simp only [bind, Except.bind, runChecks]
            split
            · next table =>
                have holds : (readElfHeader bytes large).programHeaderOffset.toNat +
                    32 * (readElfHeader bytes large).programHeaderCount.toNat ≤
                      bytes.length := by
                  rw [Nat.mul_comm]
                  exact fits_iff.mp table
                rw [if_pos (decide_eq_true holds),
                  ← parseLoadSegments_eq _ _ (fits_iff.mp table)]
                cases parseLoadSegments bytes _ _ _ <;> rfl
            · next outside =>
                have violated : ¬(readElfHeader bytes large).programHeaderOffset.toNat +
                    32 * (readElfHeader bytes large).programHeaderCount.toNat ≤
                      bytes.length := by
                  rw [Nat.mul_comm]
                  exact mt fits_iff.mpr outside
                rw [decide_eq_false violated]
                rfl
  · have short : ¬52 ≤ bytes.length := large
    rw [dif_neg large, runChecks]
    simp [short, Except.map]

end Checks

section Images

variable {bytes : List (BitVec 8)} {image : Ps2ElfImage}

theorem header_of_accepted (accepted : parsePs2Elf bytes = .ok image) :
    image.entryPoint = fileWord bytes 24 ∧ image.programHeaderCount = fileHalf bytes 44 := by
  unfold parsePs2Elf at accepted
  split at accepted
  · simp only at accepted
    split at accepted
    · cases accepted
    · cases accepted
    · split at accepted
      · obtain ⟨segments, -, rfl⟩ := OrderedChecks.map_eq_ok_iff.mp accepted
        exact ⟨readElfU32_eq _, readElfU16_eq _⟩
      · cases accepted
  · cases accepted

theorem isImageOf_of_accepted (accepted : parsePs2Elf bytes = .ok image) :
    IsImageOf bytes image := by
  obtain ⟨sameBytes, sameSegments⟩ := parsePs2Elf_eq_ok accepted
  obtain ⟨entryPoint, programHeaderCount⟩ := header_of_accepted accepted
  refine ⟨entryPoint, programHeaderCount, sameSegments, ?_, ?_⟩
  · intro index segment present
    have fileBytes : image.segmentFileBytes index = segmentBytes image.bytes segment := by
      rw [Ps2ElfImage.segmentFileBytes, present]
    have fits := image.segmentsFit segment (List.mem_of_getElem? present)
    rw [fileBytes]
    refine ⟨?_, length_segmentBytes fits⟩
    rw [segmentBytes, sameBytes]
  · intro index beyond
    rw [Ps2ElfImage.segmentFileBytes, List.getElem?_eq_none beyond]

end Images

/-- A parser whose reads can leave the file: `none` is a read outside of it. -/
abbrev ElfReader := ExceptT Ps2ElfFailure Option

namespace ElfReader

section Reading

variable (bytes : List (BitVec 8))

def byte (offset : Nat) : ElfReader (BitVec 8) :=
  ExceptT.lift bytes[offset]?

def half (offset : Nat) : ElfReader (BitVec 16) := do
  let first ← byte bytes offset
  let second ← byte bytes (offset + 1)
  return first.setWidth 16 ||| (second.setWidth 16 <<< 8)

def word (offset : Nat) : ElfReader (BitVec 32) := do
  let first ← byte bytes offset
  let second ← byte bytes (offset + 1)
  let third ← byte bytes (offset + 2)
  let fourth ← byte bytes (offset + 3)
  return first.setWidth 32 ||| (second.setWidth 32 <<< 8) |||
    (third.setWidth 32 <<< 16) ||| (fourth.setWidth 32 <<< 24)

/-- An answer that needs no read. -/
def answer {α : Type} (result : Except Ps2ElfFailure α) : ElfReader α :=
  ExceptT.mk (some result)

def refuse (violated : Prop) [Decidable violated] (failure : Ps2ElfFailure) :
    ElfReader Unit :=
  if violated then throw failure else pure ()

/-- The four magic bytes are read together, also when the first of them differ. -/
def checkIdentification : ElfReader Unit := do
  refuse ((← byte bytes 0) ≠ 0x7F ∨ (← byte bytes 1) ≠ 0x45 ∨ (← byte bytes 2) ≠ 0x4C ∨
    (← byte bytes 3) ≠ 0x46) ⟨.badMagic, "ELF magic is invalid"⟩
  refuse ((← byte bytes 4) ≠ 1) ⟨.unsupportedClass, "Only ELFCLASS32 is supported"⟩
  refuse ((← byte bytes 5) ≠ 1) ⟨.unsupportedEndian, "Only little-endian ELF is supported"⟩
  refuse ((← byte bytes 6) ≠ 1)
    ⟨.unsupportedIdentVersion, "ELF ident version is unsupported"⟩

def header : ElfReader Ps2ElfHeader := do
  return {
    type := ← half bytes 16
    machine := ← half bytes 18
    version := ← word bytes 20
    entryPoint := ← word bytes 24
    programHeaderOffset := ← word bytes 28
    headerSize := ← half bytes 40
    programHeaderSize := ← half bytes 42
    programHeaderCount := ← half bytes 44 }

def loadSegment (base : Nat) : ElfReader Ps2ElfLoadSegment := do
  return {
    fileOffset := ← word bytes (base + 4)
    virtualAddress := ← word bytes (base + 8)
    physicalAddress := ← word bytes (base + 12)
    fileSize := ← word bytes (base + 16)
    memorySize := ← word bytes (base + 20)
    flags := ← word bytes (base + 24)
    alignment := ← word bytes (base + 28) }

def loadSegments (base : Nat) : Nat → ElfReader (List Ps2ElfLoadSegment)
  | 0 => pure []
  | remaining + 1 => do
      let programType ← word bytes base
      if programType ≠ ptLoad then
        loadSegments (base + elf32ProgramHeaderSize) remaining
      else
        let segment ← loadSegment bytes base
        refuse (segment.memorySize < segment.fileSize)
          ⟨.segmentMemoryTooSmall, "PT_LOAD p_memsz is smaller than p_filesz"⟩
        refuse (¬rangeFits segment.fileOffset.toNat segment.fileSize.toNat bytes.length)
          ⟨.segmentOutOfBounds, "PT_LOAD file range is outside the ELF file"⟩
        return segment :: (← loadSegments (base + elf32ProgramHeaderSize) remaining)

/-- The parser again, with reads that nothing keeps inside the file. -/
def parse : ElfReader (BitVec 32 × BitVec 16 × List Ps2ElfLoadSegment) := do
  refuse (bytes.length < elf32HeaderSize)
    ⟨.tooSmall, "ELF file is smaller than an ELF32 header"⟩
  checkIdentification bytes
  let header ← header bytes
  answer (checkElfHeader header)
  let count := header.programHeaderCount.toNat
  refuse (¬rangeFits header.programHeaderOffset.toNat (count * elf32ProgramHeaderSize)
      bytes.length)
    ⟨.programHeaderTableOutOfBounds, "Program-header table is outside the ELF file"⟩
  let segments ← loadSegments bytes header.programHeaderOffset.toNat count
  return (header.entryPoint, header.programHeaderCount, segments)

end Reading

variable {bytes : List (BitVec 8)}

theorem byte_eq {offset : Nat} (inside : offset < bytes.length) :
    byte bytes offset = pure bytes[offset] := by
  rw [byte, List.getElem?_eq_getElem inside]
  rfl

theorem half_eq {offset : Nat} (inside : offset + 2 ≤ bytes.length) :
    half bytes offset = pure (readElfU16 bytes offset inside) := by
  rw [half, byte_eq (by omega), byte_eq (by omega)]
  rfl

theorem word_eq {offset : Nat} (inside : offset + 4 ≤ bytes.length) :
    word bytes offset = pure (readElfU32 bytes offset inside) := by
  rw [word, byte_eq (by omega), byte_eq (by omega), byte_eq (by omega),
    byte_eq (by omega)]
  rfl

theorem checkIdentification_eq (large : elf32HeaderSize ≤ bytes.length) :
    checkIdentification bytes = answer (checkElfIdentification bytes large) := by
  have bound : 52 ≤ bytes.length := large
  rw [checkIdentification, byte_eq (show 0 < bytes.length by omega),
    byte_eq (show 1 < bytes.length by omega), byte_eq (show 2 < bytes.length by omega),
    byte_eq (show 3 < bytes.length by omega), byte_eq (show 4 < bytes.length by omega),
    byte_eq (show 5 < bytes.length by omega), byte_eq (show 6 < bytes.length by omega)]
  simp only [pure_bind, refuse, checkElfIdentification]
  split
  · rfl
  · split
    · rfl
    · split
      · rfl
      · split <;> rfl

theorem header_eq (large : elf32HeaderSize ≤ bytes.length) :
    header bytes = pure (readElfHeader bytes large) := by
  have bound : 52 ≤ bytes.length := large
  rw [header, half_eq (show 16 + 2 ≤ bytes.length by omega),
    half_eq (show 18 + 2 ≤ bytes.length by omega),
    word_eq (show 20 + 4 ≤ bytes.length by omega),
    word_eq (show 24 + 4 ≤ bytes.length by omega),
    word_eq (show 28 + 4 ≤ bytes.length by omega),
    half_eq (show 40 + 2 ≤ bytes.length by omega),
    half_eq (show 42 + 2 ≤ bytes.length by omega),
    half_eq (show 44 + 2 ≤ bytes.length by omega)]
  rfl

theorem loadSegment_eq {base : Nat}
    (inside : base + elf32ProgramHeaderSize ≤ bytes.length) :
    loadSegment bytes base = pure (readLoadSegment bytes base inside) := by
  have bound : base + 32 ≤ bytes.length := inside
  rw [loadSegment, word_eq (show base + 4 + 4 ≤ bytes.length by omega),
    word_eq (show base + 8 + 4 ≤ bytes.length by omega),
    word_eq (show base + 12 + 4 ≤ bytes.length by omega),
    word_eq (show base + 16 + 4 ≤ bytes.length by omega),
    word_eq (show base + 20 + 4 ≤ bytes.length by omega),
    word_eq (show base + 24 + 4 ≤ bytes.length by omega),
    word_eq (show base + 28 + 4 ≤ bytes.length by omega)]
  rfl

theorem loadSegments_eq {base count : Nat}
    (inside : base + count * elf32ProgramHeaderSize ≤ bytes.length) :
    loadSegments bytes base count =
      answer ((parseLoadSegments bytes base count inside).map (·.map Subtype.val)) := by
  induction count generalizing base with
  | zero => rfl
  | succ count ih =>
      have entry : base + elf32ProgramHeaderSize ≤ bytes.length := by
        rw [elf32ProgramHeaderSize] at inside ⊢
        omega
      have first : base + 4 ≤ bytes.length := by
        rw [elf32ProgramHeaderSize] at entry
        omega
      have others : base + elf32ProgramHeaderSize + count * elf32ProgramHeaderSize ≤
          bytes.length := by
        rw [elf32ProgramHeaderSize] at inside ⊢
        omega
      rw [loadSegments, word_eq first, loadSegment_eq entry, ih others]
      simp only [pure_bind, refuse, parseLoadSegments]
      split
      · rfl
      · split
        · rfl
        · by_cases fits : rangeFits (readLoadSegment bytes base entry).fileOffset.toNat
              (readLoadSegment bytes base entry).fileSize.toNat bytes.length
          · rw [if_neg (not_not.mpr fits), dif_pos fits]
            cases parseLoadSegments bytes (base + elf32ProgramHeaderSize) count others <;>
              rfl
          · rw [if_pos fits, dif_neg fits]
            rfl

/-- No read leaves the file, and the answer is the one of the parser. -/
theorem parse_eq (bytes : List (BitVec 8)) :
    (parse bytes).run = some ((parsePs2Elf bytes).map fun image =>
      (image.entryPoint, image.programHeaderCount, image.loadSegments)) := by
  unfold parse parsePs2Elf
  by_cases large : elf32HeaderSize ≤ bytes.length
  · rw [dif_pos large, checkIdentification_eq large, header_eq large, refuse,
      if_neg (Nat.not_lt_of_le large)]
    simp only [pure_bind]
    cases checkElfIdentification bytes large with
    | error failure => rfl
    | ok _ =>
        cases checkElfHeader (readElfHeader bytes large) with
        | error failure => rfl
        | ok _ =>
            by_cases table : rangeFits (readElfHeader bytes large).programHeaderOffset.toNat
                ((readElfHeader bytes large).programHeaderCount.toNat *
                  elf32ProgramHeaderSize) bytes.length
            · rw [refuse, if_neg (not_not.mpr table), dif_pos table,
                loadSegments_eq (fits_iff.mp table)]
              cases parseLoadSegments bytes _ _ (fits_iff.mp table) <;> rfl
            · rw [refuse, if_pos table, dif_neg table]
              rfl
  · rw [dif_neg large, refuse, if_pos (Nat.lt_of_not_le large)]
    rfl

end ElfReader

/-- The parser accepts exactly its grammar and keeps what stands in the file.  It
reads no byte outside of it, and reports the first violated check. -/
theorem parsePs2Elf_grammar (bytes : List (BitVec 8)) :
    ((∃ image, parsePs2Elf bytes = .ok image) ↔ IsPs2Elf bytes) ∧
    (∀ image, parsePs2Elf bytes = .ok image → IsImageOf bytes image) ∧
    (ElfReader.parse bytes).run = some ((parsePs2Elf bytes).map fun image =>
      (image.entryPoint, image.programHeaderCount, image.loadSegments)) ∧
    ∀ failure, parsePs2Elf bytes = .error failure ↔
      ∃ before after, ps2ElfChecks bytes = before ++ (false, failure) :: after ∧
        ∀ check ∈ before, check.1 = true := by
  refine ⟨?_, ?_, ElfReader.parse_eq bytes, ?_⟩
  · rw [← runChecks_ps2ElfChecks_eq_ok_iff, ← parsePs2Elf_checks]
    cases parsePs2Elf bytes <;> simp [Except.map]
  · intro image accepted
    exact isImageOf_of_accepted accepted
  · intro failure
    rw [← runChecks_eq_error_iff, ← parsePs2Elf_checks]
    cases parsePs2Elf bytes <;> simp [Except.map]

end Burnout3Recompiled
