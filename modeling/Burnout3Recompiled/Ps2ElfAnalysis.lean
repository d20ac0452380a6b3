import Burnout3Recompiled.Ps2ElfGrammar
import Burnout3Recompiled.R5900AnalysisReport

/-!
# Analysis of a file

A file is parsed, mapped, searched for code from its entry point on and reported.
Only the entry point and what the load segments put into guest memory reach the
report; the order of the program headers, the other headers and the layout of the
file do not.
-/

namespace Burnout3Recompiled

/-- The failing values of the source enumeration; its `None` is `Except.ok`. -/
inductive Ps2ElfAnalysisError where
  | elfParseFailed | memoryMapFailed | reachabilityFailed
  deriving DecidableEq, Repr

/-- A failure with the error of the stage that failed; the sub-errors of the other
stages are the source's `None`. -/
structure Ps2ElfAnalysisFailure where
  error : Ps2ElfAnalysisError
  message : String
  elfError : Option Ps2ElfError := none
  memoryError : Option Ps2MemoryMapBuildError := none
  reachabilityError : Option R5900ReachabilityError := none
  deriving DecidableEq, Repr

/-- The report of a successful analysis. -/
abbrev Ps2ElfAnalysisResult := Except Ps2ElfAnalysisFailure String

def failElf (parsed : Ps2ElfFailure) : Ps2ElfAnalysisFailure where
  error := .elfParseFailed
  message := parsed.message
  elfError := some parsed.error

def failMemory (mapped : Ps2MemoryMapBuildFailure) : Ps2ElfAnalysisFailure where
  error := .memoryMapFailed
  message := mapped.message
  memoryError := some mapped.error

def failReachability (analyzed : R5900ReachabilityFailure) : Ps2ElfAnalysisFailure where
  error := .reachabilityFailed
  message := analyzed.message
  reachabilityError := some analyzed.error

/-- From the mapped image on. -/
def analyzeMapped (memory : Ps2MemoryMap) (entryPoint : BitVec 32)
    (options : R5900ReachabilityOptions) : Ps2ElfAnalysisResult :=
  match analyzeR5900Reachability memory entryPoint options with
  | .error analyzed => .error (failReachability analyzed)
  | .ok graph => .ok (renderR5900AnalysisReport graph)

def analyzePs2Elf (allocation : BackingAllocation) (bytes : List (BitVec 8))
    (options : R5900ReachabilityOptions) : Ps2ElfAnalysisResult :=
  match parsePs2Elf bytes with
  | .error parsed => .error (failElf parsed)
  | .ok image =>
      match fromElf allocation image with
      | .error mapped => .error (failMemory mapped)
      | .ok memory => analyzeMapped memory image.entryPoint options

/-- The address range, the flags and the payload of every load segment that
occupies memory, in table order. -/
def loadedContents (bytes : List (BitVec 8)) : List (Ps2MemoryRegion × List (BitVec 8)) :=
  (occupying (ptLoads bytes)).map (Ps2ElfLoadSegment.contents bytes)

theorem PendingRegion.contents_injective : Function.Injective PendingRegion.contents := by
  rintro ⟨metadata, fileBytes, fits⟩ ⟨otherMetadata, otherFileBytes, otherFits⟩ same
  obtain ⟨rfl, rfl⟩ := Prod.mk.inj same
  rfl

/-- Whether a segment overflows stands in what it asks to be mapped. -/
theorem exists_overflow_iff (bytes : List (BitVec 8))
    (segments : List Ps2ElfLoadSegment) :
    (∃ segment ∈ segments, segment.Overflows) ↔
      ∃ content ∈ segments.map (Ps2ElfLoadSegment.contents bytes),
        regionEnd content.1 > guestAddressSpaceSize := by
  simp only [List.mem_map, exists_exists_and_eq_and]
  rfl

section Images

variable {first second : Ps2ElfImage}

/-- Images that ask for the same regions are mapped alike. -/
theorem fromElf_eq_of_perm (allocation : BackingAllocation)
    (permuted :
      ((occupying first.loadSegments).map (Ps2ElfLoadSegment.contents first.bytes)).Perm
        ((occupying second.loadSegments).map (Ps2ElfLoadSegment.contents second.bytes))) :
    fromElf allocation first = fromElf allocation second := by
  have overflows : (∃ segment ∈ occupying first.loadSegments, segment.Overflows) ↔
      ∃ segment ∈ occupying second.loadSegments, segment.Overflows := by
    rw [exists_overflow_iff first.bytes, exists_overflow_iff second.bytes]
    simp only [permuted.mem_iff]
  by_cases overflow : ∃ segment ∈ occupying first.loadSegments, segment.Overflows
  · rw [fromElf_overflow allocation overflow,
      fromElf_overflow allocation (overflows.mp overflow)]
  · have bounded : ∀ segment ∈ occupying first.loadSegments, ¬segment.Overflows :=
      fun segment member leaves => overflow ⟨segment, member, leaves⟩
    have otherBounded : ∀ segment ∈ occupying second.loadSegments, ¬segment.Overflows :=
      fun segment member leaves => overflow (overflows.mpr ⟨segment, member, leaves⟩)
    obtain ⟨pending, contents, built, -⟩ := fromElf_bounded allocation bounded
    obtain ⟨otherPending, otherContents, otherBuilt, -⟩ :=
      fromElf_bounded allocation otherBounded
    have samePending : pending.Perm otherPending := by
      apply (List.map_perm_map_iff PendingRegion.contents_injective).mp
      rwa [contents, otherContents]
    have nonempty : ∀ item ∈ pending, item.start < item.stop :=
      pending_nonempty contents fun segment member => (mem_occupying.mp member).2
    have arrangement := sortedArrangement_mergeSort pending
    have otherArrangement : SortedArrangement pending (otherPending.mergeSort startsNoLater) :=
      ⟨(List.mergeSort_perm otherPending startsNoLater).trans samePending.symm,
        (sortedArrangement_mergeSort otherPending).ordered⟩
    rw [built, otherBuilt]
    exact buildSorted_independent nonempty arrangement otherArrangement allocation

end Images

/-- Two accepted files with the same entry point and the same load segments, as a
multiset of address ranges, flags and payloads, have the same analysis: the same
report, or the same failure with the same message. -/
theorem analyzePs2Elf_eq_of_perm (allocation : BackingAllocation)
    (first second : List (BitVec 8)) (firstImage secondImage : Ps2ElfImage)
    (firstAccepted : parsePs2Elf first = .ok firstImage)
    (secondAccepted : parsePs2Elf second = .ok secondImage)
    (entryPoint : firstImage.entryPoint = secondImage.entryPoint)
    (segments : (loadedContents first).Perm (loadedContents second))
    (options : R5900ReachabilityOptions) :
    analyzePs2Elf allocation first options = analyzePs2Elf allocation second options := by
  obtain ⟨firstBytes, firstSegments⟩ := parsePs2Elf_eq_ok firstAccepted
  obtain ⟨secondBytes, secondSegments⟩ := parsePs2Elf_eq_ok secondAccepted
  have mapped : fromElf allocation firstImage = fromElf allocation secondImage := by
    apply fromElf_eq_of_perm
    rw [firstBytes, firstSegments, secondBytes, secondSegments]
    exact segments
  rw [analyzePs2Elf, analyzePs2Elf, firstAccepted, secondAccepted]
  simp only [mapped, entryPoint]

/-- The segments of `twoSegmentElf` in the order of their addresses, with another program
header between them, at other places of the file and with other physical addresses and
alignments. -/
def rearrangedElf : List (BitVec 8) :=
  [0x7F, 0x45, 0x4C, 0x46, 1, 1, 1, 0, 0, 0, 0, 0, 0, 0, 0, 0] ++
  [2, 0, 8, 0, 1, 0, 0, 0, 0, 0, 0x10, 0, 52, 0, 0, 0] ++
  [0, 0, 0, 0, 0, 0, 0, 0, 52, 0, 32, 0, 3, 0, 0, 0, 0, 0, 0, 0] ++
  [1, 0, 0, 0, 149, 0, 0, 0, 0, 0, 0x10, 0, 0, 0, 0, 0] ++
  [4, 0, 0, 0, 8, 0, 0, 0, 5, 0, 0, 0, 1, 0, 0, 0] ++
  [4, 0, 0, 0, 0, 0, 0, 0, 0, 0, 0, 0, 0, 0, 0, 0] ++
  [0, 0, 0, 0, 0, 0, 0, 0, 0, 0, 0, 0, 0, 0, 0, 0] ++
  [1, 0, 0, 0, 153, 0, 0, 0, 0, 0, 0x20, 0, 0, 0, 0, 0] ++
  [4, 0, 0, 0, 8, 0, 0, 0, 6, 0, 0, 0, 1, 0, 0, 0] ++
  [0xEE] ++ [0x0C, 0, 0, 0] ++ [0xAA, 0xBB, 0xCC, 0xDD]

theorem analyzePs2Elf_eq_of_perm_rearrangedElf :
    analyzePs2Elf .success twoSegmentElf {} = analyzePs2Elf .success rearrangedElf {} := by
  have parses : (parsePs2Elf twoSegmentElf).toOption.isSome = true := by decide +kernel
  have otherParses : (parsePs2Elf rearrangedElf).toOption.isSome = true := by decide +kernel
  obtain ⟨image, parsed⟩ := Option.isSome_iff_exists.mp parses
  obtain ⟨otherImage, otherParsed⟩ := Option.isSome_iff_exists.mp otherParses
  have accepted := OrderedChecks.toOption_eq_some_iff.mp parsed
  have otherAccepted := OrderedChecks.toOption_eq_some_iff.mp otherParsed
  have entryPoint : image.entryPoint = otherImage.entryPoint := by
    rw [(header_of_accepted accepted).1, (header_of_accepted otherAccepted).1]
    decide
  have segments : loadedContents rearrangedElf = (loadedContents twoSegmentElf).reverse := by
    decide +kernel
  exact analyzePs2Elf_eq_of_perm .success twoSegmentElf rearrangedElf image otherImage
    accepted otherAccepted entryPoint (segments ▸ (List.reverse_perm _).symm) {}

end Burnout3Recompiled
