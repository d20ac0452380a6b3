import Mathlib.Data.List.Basic
import Mathlib.Tactic.Common

/-!
# The ELF parser

The parser reads a byte string front to back and stops at the first violated
check.  Every read carries the proof that it stays inside the bytes, and every
accepted load segment the proof that its file range does.
-/

namespace Burnout3Recompiled

/-- The failing values of the source enumeration; its `None` is `Except.ok`. -/
inductive Ps2ElfError where
  | tooSmall | badMagic | unsupportedClass | unsupportedEndian
  | unsupportedIdentVersion | unsupportedType | unsupportedMachine
  | unsupportedVersion | invalidHeaderSize | invalidProgramHeaderSize
  | programHeaderTableOutOfBounds | segmentOutOfBounds | segmentMemoryTooSmall
  deriving DecidableEq, Repr

structure Ps2ElfFailure where
  error : Ps2ElfError
  message : String
  deriving DecidableEq, Repr

structure Ps2ElfLoadSegment where
  fileOffset : BitVec 32 := 0
  virtualAddress : BitVec 32 := 0
  physicalAddress : BitVec 32 := 0
  fileSize : BitVec 32 := 0
  memorySize : BitVec 32 := 0
  flags : BitVec 32 := 0
  alignment : BitVec 32 := 0
  deriving DecidableEq, Repr

def elf32HeaderSize : Nat := 52

def elf32ProgramHeaderSize : Nat := 32

def ptLoad : BitVec 32 := 1

def rangeFits (offset length total : Nat) : Prop :=
  offset ≤ total ∧ length ≤ total - offset

instance (offset length total : Nat) : Decidable (rangeFits offset length total) :=
  inferInstanceAs (Decidable (_ ∧ _))

/-- What the parser promises of a load segment of a file of `total` bytes. -/
def Ps2ElfLoadSegment.Fits (segment : Ps2ElfLoadSegment) (total : Nat) : Prop :=
  segment.fileSize.toNat ≤ segment.memorySize.toNat ∧
    rangeFits segment.fileOffset.toNat segment.fileSize.toNat total

/-- A parsed file.  Its segments refer to its own bytes. -/
structure Ps2ElfImage where
  entryPoint : BitVec 32
  programHeaderCount : BitVec 16
  loadSegments : List Ps2ElfLoadSegment
  bytes : List (BitVec 8)
  segmentsFit : ∀ segment ∈ loadSegments, segment.Fits bytes.length
  deriving DecidableEq

/-- The `subspan` of one segment. -/
def segmentBytes (bytes : List (BitVec 8)) (segment : Ps2ElfLoadSegment) :
    List (BitVec 8) :=
  (bytes.drop segment.fileOffset.toNat).take segment.fileSize.toNat

def Ps2ElfImage.segmentFileBytes (image : Ps2ElfImage) (index : Nat) :
    List (BitVec 8) :=
  match image.loadSegments[index]? with
  | none => []
  | some segment => segmentBytes image.bytes segment

section Reading

variable (bytes : List (BitVec 8))

def readElfU16 (offset : Nat) (inside : offset + 2 ≤ bytes.length) : BitVec 16 :=
  (bytes[offset]).setWidth 16 ||| ((bytes[offset + 1]).setWidth 16 <<< 8)

def readElfU32 (offset : Nat) (inside : offset + 4 ≤ bytes.length) : BitVec 32 :=
  (bytes[offset]).setWidth 32 ||| ((bytes[offset + 1]).setWidth 32 <<< 8) |||
    ((bytes[offset + 2]).setWidth 32 <<< 16) |||
    ((bytes[offset + 3]).setWidth 32 <<< 24)

/-- The seven fields after `p_type` of the program header at `base`. -/
def readLoadSegment (base : Nat)
    (inside : base + elf32ProgramHeaderSize ≤ bytes.length) : Ps2ElfLoadSegment :=
  have bound : base + 32 ≤ bytes.length := inside
  { fileOffset := readElfU32 bytes (base + 4) (by omega)
    virtualAddress := readElfU32 bytes (base + 8) (by omega)
    physicalAddress := readElfU32 bytes (base + 12) (by omega)
    fileSize := readElfU32 bytes (base + 16) (by omega)
    memorySize := readElfU32 bytes (base + 20) (by omega)
    flags := readElfU32 bytes (base + 24) (by omega)
    alignment := readElfU32 bytes (base + 28) (by omega) }

abbrev FittingSegment :=
  { segment : Ps2ElfLoadSegment // segment.Fits bytes.length }

/-- The loop over the `remaining` program headers from `base` on. -/
def parseLoadSegments (base : Nat) : (remaining : Nat) →
    base + remaining * elf32ProgramHeaderSize ≤ bytes.length →
      Except Ps2ElfFailure (List (FittingSegment bytes))
  | 0, _ => .ok []
  | remaining + 1, inside =>
      have entry : base + elf32ProgramHeaderSize ≤ bytes.length := by
        rw [elf32ProgramHeaderSize] at inside ⊢
        omega
      have others : base + elf32ProgramHeaderSize +
          remaining * elf32ProgramHeaderSize ≤ bytes.length := by
        rw [elf32ProgramHeaderSize] at inside ⊢
        omega
      let programType := readElfU32 bytes base (by
        rw [elf32ProgramHeaderSize] at entry
        omega)
      if programType ≠ ptLoad then
        parseLoadSegments (base + elf32ProgramHeaderSize) remaining others
      else
        let segment := readLoadSegment bytes base entry
        if small : segment.memorySize < segment.fileSize then
          .error ⟨.segmentMemoryTooSmall,
            "PT_LOAD p_memsz is smaller than p_filesz"⟩
        else if fits : rangeFits segment.fileOffset.toNat segment.fileSize.toNat
            bytes.length then
          (parseLoadSegments (base + elf32ProgramHeaderSize) remaining others).map
            fun segments => ⟨segment, BitVec.not_lt.mp small, fits⟩ :: segments
        else
          .error ⟨.segmentOutOfBounds, "PT_LOAD file range is outside the ELF file"⟩

end Reading

/-- The identification bytes at the front of the file. -/
def checkElfIdentification (bytes : List (BitVec 8))
    (large : elf32HeaderSize ≤ bytes.length) : Except Ps2ElfFailure Unit :=
  have bound : 52 ≤ bytes.length := large
  if bytes[0] ≠ 0x7F ∨ bytes[1] ≠ 0x45 ∨ bytes[2] ≠ 0x4C ∨ bytes[3] ≠ 0x46 then
    .error ⟨.badMagic, "ELF magic is invalid"⟩
  else if bytes[4] ≠ 1 then
    .error ⟨.unsupportedClass, "Only ELFCLASS32 is supported"⟩
  else if bytes[5] ≠ 1 then
    .error ⟨.unsupportedEndian, "Only little-endian ELF is supported"⟩
  else if bytes[6] ≠ 1 then
    .error ⟨.unsupportedIdentVersion, "ELF ident version is unsupported"⟩
  else .ok ()

/-- The header fields the parser uses. -/
structure Ps2ElfHeader where
  type : BitVec 16
  machine : BitVec 16
  version : BitVec 32
  entryPoint : BitVec 32
  programHeaderOffset : BitVec 32
  headerSize : BitVec 16
  programHeaderSize : BitVec 16
  programHeaderCount : BitVec 16
  deriving DecidableEq, Repr

def readElfHeader (bytes : List (BitVec 8)) (large : elf32HeaderSize ≤ bytes.length) :
    Ps2ElfHeader :=
  have bound : 52 ≤ bytes.length := large
  { type := readElfU16 bytes 16 (by omega)
    machine := readElfU16 bytes 18 (by omega)
    version := readElfU32 bytes 20 (by omega)
    entryPoint := readElfU32 bytes 24 (by omega)
    programHeaderOffset := readElfU32 bytes 28 (by omega)
    headerSize := readElfU16 bytes 40 (by omega)
    programHeaderSize := readElfU16 bytes 42 (by omega)
    programHeaderCount := readElfU16 bytes 44 (by omega) }

def checkElfHeader (header : Ps2ElfHeader) : Except Ps2ElfFailure Unit :=
  if header.type ≠ 2 then
    .error ⟨.unsupportedType, "Only ET_EXEC ELF files are supported"⟩
  else if header.machine ≠ 8 then
    .error ⟨.unsupportedMachine, "Only EM_MIPS ELF files are supported"⟩
  else if header.version ≠ 1 then
    .error ⟨.unsupportedVersion, "ELF version is unsupported"⟩
  else if header.headerSize ≠ BitVec.ofNat 16 elf32HeaderSize then
    .error ⟨.invalidHeaderSize, "Unexpected ELF32 header size"⟩
  else if header.programHeaderSize ≠ BitVec.ofNat 16 elf32ProgramHeaderSize then
    .error ⟨.invalidProgramHeaderSize, "Unexpected ELF32 program-header size"⟩
  else .ok ()

/-- A sixteen-bit count times 32 never overflows a `size_t`, so the overflow
check of the table size has no branch here. -/
def parsePs2Elf (bytes : List (BitVec 8)) : Except Ps2ElfFailure Ps2ElfImage :=
  if large : elf32HeaderSize ≤ bytes.length then
    let header := readElfHeader bytes large
    let offset := header.programHeaderOffset.toNat
    let count := header.programHeaderCount.toNat
    match checkElfIdentification bytes large, checkElfHeader header with
    | .error failure, _ => .error failure
    | .ok (), .error failure => .error failure
    | .ok (), .ok () =>
        if table : rangeFits offset (count * elf32ProgramHeaderSize) bytes.length then
          (parseLoadSegments bytes offset count (by
            obtain ⟨start, length⟩ := table
            omega)).map fun segments =>
              { entryPoint := header.entryPoint
                programHeaderCount := header.programHeaderCount
                loadSegments := segments.map Subtype.val
                bytes := bytes
                segmentsFit := by
                  intro segment member
                  obtain ⟨fitting, -, rfl⟩ := List.mem_map.mp member
                  exact fitting.property }
        else
          .error ⟨.programHeaderTableOutOfBounds,
            "Program-header table is outside the ELF file"⟩
  else
    .error ⟨.tooSmall, "ELF file is smaller than an ELF32 header"⟩

end Burnout3Recompiled
