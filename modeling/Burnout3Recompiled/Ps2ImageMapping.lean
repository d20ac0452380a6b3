import Burnout3Recompiled.LittleEndianMemory
import Burnout3Recompiled.OrderedChecks
import Burnout3Recompiled.Ps2MemoryMap
import Burnout3Recompiled.SortedByKey

/-!
# From file bytes to guest memory

The load segments of a file are read here straight from its bytes, without the
parser.  Parsing keeps exactly those segments, and mapping a parsed image fails
exactly when a segment leaves the address space or two segments meet; otherwise
every guest byte is the file's or zero.
-/

namespace Burnout3Recompiled

open LittleEndianMemory (ofBytes)
open OrderedChecks (map_eq_ok_iff toOption_eq_some_iff)

section FileLayout

variable (bytes : List (BitVec 8))

def fileHalf (offset : Nat) : BitVec 16 :=
  ofBytes 16 ((bytes.drop offset).take 2)

def fileWord (offset : Nat) : BitVec 32 :=
  ofBytes 32 ((bytes.drop offset).take 4)

/-- The program header at `base`. -/
def programHeaderAt (base : Nat) : Ps2ElfLoadSegment where
  fileOffset := fileWord bytes (base + 4)
  virtualAddress := fileWord bytes (base + 8)
  physicalAddress := fileWord bytes (base + 12)
  fileSize := fileWord bytes (base + 16)
  memorySize := fileWord bytes (base + 20)
  flags := fileWord bytes (base + 24)
  alignment := fileWord bytes (base + 28)

/-- The PT_LOAD entries among the `count` program headers from `base` on. -/
def ptLoadsFrom (base count : Nat) : List Ps2ElfLoadSegment :=
  (List.range count).filterMap fun index =>
    if fileWord bytes (base + 32 * index) = 1 then
      some (programHeaderAt bytes (base + 32 * index))
    else none

/-- The PT_LOAD entries in table order. -/
def ptLoads : List Ps2ElfLoadSegment :=
  ptLoadsFrom bytes (fileWord bytes 28).toNat (fileHalf bytes 44).toNat

end FileLayout

namespace Ps2ElfLoadSegment

def Covers (segment : Ps2ElfLoadSegment) (address : BitVec 32) : Prop :=
  segment.virtualAddress.toNat ≤ address.toNat ∧
    address.toNat < segment.virtualAddress.toNat + segment.memorySize.toNat

/-- The byte a segment puts at an address it covers. -/
def byteAt (bytes : List (BitVec 8)) (segment : Ps2ElfLoadSegment)
    (address : BitVec 32) : BitVec 8 :=
  let distance := address.toNat - segment.virtualAddress.toNat
  if distance < segment.fileSize.toNat then
    bytes.getD (segment.fileOffset.toNat + distance) 0
  else 0

end Ps2ElfLoadSegment

section Parsing

variable {bytes : List (BitVec 8)}

theorem take_drop_two {offset : Nat} (first : offset < bytes.length)
    (second : offset + 1 < bytes.length) :
    (bytes.drop offset).take 2 = [bytes[offset], bytes[offset + 1]] := by
  rw [List.drop_eq_getElem_cons first, List.drop_eq_getElem_cons second]
  rfl

theorem take_drop_four {offset : Nat} (first : offset < bytes.length)
    (second : offset + 1 < bytes.length) (third : offset + 2 < bytes.length)
    (fourth : offset + 3 < bytes.length) :
    (bytes.drop offset).take 4 =
      [bytes[offset], bytes[offset + 1], bytes[offset + 2], bytes[offset + 3]] := by
  rw [List.drop_eq_getElem_cons first, List.drop_eq_getElem_cons second,
    List.drop_eq_getElem_cons third, List.drop_eq_getElem_cons fourth]
  rfl

theorem readElfU16_eq {offset : Nat} (inside : offset + 2 ≤ bytes.length) :
    readElfU16 bytes offset inside = fileHalf bytes offset := by
  rw [readElfU16, fileHalf, take_drop_two (by omega) (by omega)]
  simp [ofBytes]

theorem readElfU32_eq {offset : Nat} (inside : offset + 4 ≤ bytes.length) :
    readElfU32 bytes offset inside = fileWord bytes offset := by
  rw [readElfU32, fileWord, take_drop_four (by omega) (by omega) (by omega) (by omega)]
  simp [ofBytes, BitVec.shiftLeft_or_distrib, ← BitVec.shiftLeft_add, BitVec.or_assoc]

theorem readLoadSegment_eq {base : Nat}
    (inside : base + elf32ProgramHeaderSize ≤ bytes.length) :
    readLoadSegment bytes base inside = programHeaderAt bytes base := by
  have alignment := readElfU32_eq (show base + 28 + 4 ≤ bytes.length from inside)
  simp only [readLoadSegment, programHeaderAt, readElfU32_eq, alignment]

theorem ptLoadsFrom_succ (base count : Nat) :
    ptLoadsFrom bytes base (count + 1) =
      if fileWord bytes base = 1 then
        programHeaderAt bytes base :: ptLoadsFrom bytes (base + 32) count
      else ptLoadsFrom bytes (base + 32) count := by
  have shifted : ∀ index, base + 32 * (index + 1) = base + 32 + 32 * index := by
    intro index
    omega
  rw [ptLoadsFrom, List.range_succ_eq_map, List.filterMap_cons, List.filterMap_map]
  simp only [Nat.mul_zero, Nat.add_zero, Function.comp_def, shifted]
  split <;> simp_all [ptLoadsFrom]

theorem parseLoadSegments_eq_ok {base count : Nat}
    {inside : base + count * elf32ProgramHeaderSize ≤ bytes.length}
    {segments : List (FittingSegment bytes)}
    (parsed : parseLoadSegments bytes base count inside = .ok segments) :
    segments.map Subtype.val = ptLoadsFrom bytes base count := by
  induction count generalizing base segments with
  | zero =>
      obtain rfl := Except.ok.inj parsed
      rfl
  | succ count ih =>
      rw [ptLoadsFrom_succ]
      simp only [parseLoadSegments, readElfU32_eq, readLoadSegment_eq] at parsed
      split at parsed
      · next other =>
          have notLoad : ¬fileWord bytes base = 1 := other
          rw [if_neg notLoad]
          exact ih parsed
      · next load =>
          have isLoad : fileWord bytes base = 1 := not_not.mp load
          rw [if_pos isLoad]
          split at parsed
          · cases parsed
          · split at parsed
            · obtain ⟨rest, restParsed, rfl⟩ := map_eq_ok_iff.mp parsed
              rw [List.map_cons, ih restParsed]
              rfl
            · cases parsed

/-- An accepted file keeps its bytes and its load segments. -/
theorem parsePs2Elf_eq_ok {image : Ps2ElfImage}
    (accepted : parsePs2Elf bytes = .ok image) :
    image.bytes = bytes ∧ image.loadSegments = ptLoads bytes := by
  unfold parsePs2Elf at accepted
  split at accepted
  · next large =>
      simp only at accepted
      split at accepted
      · cases accepted
      · cases accepted
      · split at accepted
        · obtain ⟨segments, parsed, rfl⟩ := map_eq_ok_iff.mp accepted
          have header : 52 ≤ bytes.length := large
          refine ⟨rfl, ?_⟩
          rw [ptLoads, ← readElfU32_eq (by omega), ← readElfU16_eq (by omega)]
          exact parseLoadSegments_eq_ok parsed
        · cases accepted
  · cases accepted

end Parsing

theorem length_segmentBytes {bytes : List (BitVec 8)} {segment : Ps2ElfLoadSegment}
    (fits : segment.Fits bytes.length) :
    (segmentBytes bytes segment).length = segment.fileSize.toNat := by
  obtain ⟨-, start, length⟩ := fits
  rw [segmentBytes, List.length_take, List.length_drop]
  omega

/-- A segment leaves the 32-bit address space. -/
def Ps2ElfLoadSegment.Overflows (segment : Ps2ElfLoadSegment) : Prop :=
  segment.virtualAddress.toNat + segment.memorySize.toNat > guestAddressSpaceSize

instance (segment : Ps2ElfLoadSegment) : Decidable segment.Overflows :=
  inferInstanceAs (Decidable (_ > _))

/-- What a pending region will hold. -/
def PendingRegion.contents (pending : PendingRegion) :
    Ps2MemoryRegion × List (BitVec 8) :=
  (pending.metadata, pending.fileBytes)

/-- What a segment asks to be mapped. -/
def Ps2ElfLoadSegment.contents (bytes : List (BitVec 8)) (segment : Ps2ElfLoadSegment) :
    Ps2MemoryRegion × List (BitVec 8) :=
  (segment.region, segmentBytes bytes segment)

/-- The segments that occupy memory. -/
def occupying (segments : List Ps2ElfLoadSegment) : List Ps2ElfLoadSegment :=
  segments.filter (·.memorySize ≠ 0)

theorem mem_occupying {segment : Ps2ElfLoadSegment}
    {segments : List Ps2ElfLoadSegment} :
    segment ∈ occupying segments ↔ segment ∈ segments ∧ segment.memorySize ≠ 0 := by
  simp [occupying]

section Collecting

variable {image : Ps2ElfImage} {index : Nat} {segment : Ps2ElfLoadSegment}
  {segments : List Ps2ElfLoadSegment}

def addressOverflowFailure : Ps2MemoryMapBuildFailure where
  error := .addressOverflow
  message := "ELF PT_LOAD guest range exceeds the 32-bit PS2 address space"

/-- One iteration on a parsed image, whose payloads always match. -/
theorem collectPending_cons
    (suffix : segment :: segments = image.loadSegments.drop index)
    (fit : ∀ other ∈ segment :: segments, other.Fits image.bytes.length) :
    ∃ pending : PendingRegion, pending.contents = segment.contents image.bytes ∧
      collectPending image index (segment :: segments) fit =
        if segment.memorySize = 0 then
          collectPending image (index + 1) segments fun other member =>
            fit other (.tail _ member)
        else if segment.virtualAddress.toNat + segment.memorySize.toNat >
            guestAddressSpaceSize then .error addressOverflowFailure
        else
          (collectPending image (index + 1) segments fun other member =>
            fit other (.tail _ member)).map (pending :: ·) := by
  have current : image.loadSegments[index]? = some segment := by
    rw [← List.head?_drop, ← suffix]
    rfl
  have fileBytes : image.segmentFileBytes index = segmentBytes image.bytes segment := by
    rw [Ps2ElfImage.segmentFileBytes, current]
  have payload : (image.segmentFileBytes index).length = segment.fileSize.toNat := by
    rw [fileBytes]
    exact length_segmentBytes (fit segment (.head _))
  refine ⟨⟨segment.region, image.segmentFileBytes index,
    payload ▸ (fit segment (.head _)).1⟩, ?_, ?_⟩
  · exact congrArg (Prod.mk segment.region) fileBytes
  · rw [collectPending]
    simp only [dif_pos payload]
    rfl

theorem drop_succ_of_cons (suffix : segment :: segments = image.loadSegments.drop index) :
    segments = image.loadSegments.drop (index + 1) := by
  rw [← List.tail_drop, ← suffix]
  rfl

/-- An overflowing segment is reported, whatever stands around it. -/
theorem collectPending_error (suffix : segments = image.loadSegments.drop index)
    (fit : ∀ other ∈ segments, other.Fits image.bytes.length)
    (overflow : ∃ other ∈ occupying segments, other.Overflows) :
    collectPending image index segments fit = .error addressOverflowFailure := by
  induction segments generalizing index with
  | nil => simp [occupying] at overflow
  | cons segment segments ih =>
      obtain ⟨pending, -, iteration⟩ := collectPending_cons suffix fit
      have rest := ih (drop_succ_of_cons suffix) fun other member =>
        fit other (.tail _ member)
      rw [iteration]
      obtain ⟨culprit, member, overflows⟩ := overflow
      obtain ⟨inSegments, occupies⟩ := mem_occupying.mp member
      rcases List.mem_cons.mp inSegments with rfl | later
      · exact (if_neg occupies).trans (if_pos overflows)
      · have reported := rest ⟨culprit, mem_occupying.mpr ⟨later, occupies⟩, overflows⟩
        rw [reported]
        split
        · rfl
        · split <;> rfl

/-- Without overflow every occupying segment is collected, in order. -/
theorem collectPending_ok (suffix : segments = image.loadSegments.drop index)
    (fit : ∀ other ∈ segments, other.Fits image.bytes.length)
    (bounded : ∀ other ∈ occupying segments, ¬other.Overflows) :
    ∃ pending, collectPending image index segments fit = .ok pending ∧
      pending.map PendingRegion.contents =
        (occupying segments).map (Ps2ElfLoadSegment.contents image.bytes) := by
  induction segments generalizing index with
  | nil => exact ⟨[], rfl, rfl⟩
  | cons segment segments ih =>
      obtain ⟨first, contents, iteration⟩ := collectPending_cons suffix fit
      obtain ⟨pending, collected, restContents⟩ := ih (drop_succ_of_cons suffix)
        (fun other member => fit other (.tail _ member)) fun other member => by
          obtain ⟨inSegments, occupies⟩ := mem_occupying.mp member
          exact bounded other (mem_occupying.mpr ⟨.tail _ inSegments, occupies⟩)
      rw [iteration, collected]
      by_cases empty : segment.memorySize = 0
      · refine ⟨pending, if_pos empty, ?_⟩
        simpa [occupying, empty] using restContents
      · have fits := bounded segment (mem_occupying.mpr ⟨.head _, empty⟩)
        refine ⟨first :: pending, ?_, ?_⟩
        · exact (if_neg empty).trans (if_neg fits)
        · have kept : occupying (segment :: segments) = segment :: occupying segments :=
            List.filter_cons_of_pos (by simpa using empty)
          rw [List.map_cons, contents, restContents, kept, List.map_cons]

end Collecting

/-- Two segments occupy a common guest address. -/
def Ps2ElfLoadSegment.Meets (first second : Ps2ElfLoadSegment) : Prop :=
  ∃ address : BitVec 32, first.Covers address ∧ second.Covers address

def regionsApart : Ps2MemoryRegion → Ps2MemoryRegion → Prop :=
  SortedIntervals.Apart regionStart regionEnd

section Checking

variable {bytes : List (BitVec 8)} {segments : List Ps2ElfLoadSegment}
  {pending : List PendingRegion}

theorem regionStart_lt_regionEnd {segment : Ps2ElfLoadSegment}
    (occupies : segment.memorySize ≠ 0) :
    regionStart segment.region < regionEnd segment.region := by
  have positive : segment.memorySize.toNat ≠ 0 := fun zero =>
    occupies (BitVec.eq_of_toNat_eq zero)
  simp only [regionStart, regionEnd, Ps2ElfLoadSegment.region]
  omega

/-- Segments inside the address space are apart when they share no address. -/
theorem regionsApart_iff {first second : Ps2ElfLoadSegment}
    (firstOccupies : first.memorySize ≠ 0) (secondOccupies : second.memorySize ≠ 0)
    (bounded : ¬first.Overflows) :
    regionsApart first.region second.region ↔ ¬first.Meets second := by
  rw [regionsApart, SortedIntervals.apart_iff_no_common_point
    (regionStart_lt_regionEnd firstOccupies) (regionStart_lt_regionEnd secondOccupies)]
  apply not_congr
  constructor
  · rintro ⟨point, inFirst, inSecond⟩
    have inSpace : point < 2 ^ 32 := by
      simp only [Ps2ElfLoadSegment.Overflows, guestAddressSpaceSize] at bounded
      have below : point < first.virtualAddress.toNat + first.memorySize.toNat :=
        inFirst.2
      omega
    have number : (BitVec.ofNat 32 point).toNat = point := by
      rw [BitVec.toNat_ofNat, Nat.mod_eq_of_lt inSpace]
    refine ⟨BitVec.ofNat 32 point, ?_, ?_⟩
    · rw [Ps2ElfLoadSegment.Covers, number]
      exact inFirst
    · rw [Ps2ElfLoadSegment.Covers, number]
      exact inSecond
  · rintro ⟨address, inFirst, inSecond⟩
    exact ⟨address.toNat, inFirst, inSecond⟩

theorem map_metadata
    (contents : pending.map PendingRegion.contents =
      segments.map (Ps2ElfLoadSegment.contents bytes)) :
    pending.map (·.metadata) = segments.map (·.region) := by
  have regions := congrArg (List.map Prod.fst) contents
  rw [List.map_map, List.map_map] at regions
  exact regions

/-- The regions to map are apart when no two segments meet. -/
theorem pairwise_apart_pending
    (contents : pending.map PendingRegion.contents =
      segments.map (Ps2ElfLoadSegment.contents bytes))
    (occupy : ∀ segment ∈ segments, segment.memorySize ≠ 0)
    (bounded : ∀ segment ∈ segments, ¬segment.Overflows) :
    pending.Pairwise (SortedIntervals.Apart PendingRegion.start PendingRegion.stop) ↔
      segments.Pairwise fun first second => ¬first.Meets second := by
  have onRegions : pending.Pairwise
      (SortedIntervals.Apart PendingRegion.start PendingRegion.stop) ↔
      (pending.map (·.metadata)).Pairwise regionsApart := by
    rw [List.pairwise_map]
    rfl
  rw [onRegions, map_metadata contents, List.pairwise_map]
  constructor
  · refine List.Pairwise.imp_of_mem ?_
    intro first second firstMember secondMember
    exact (regionsApart_iff (occupy first firstMember) (occupy second secondMember)
      (bounded first firstMember)).mp
  · refine List.Pairwise.imp_of_mem ?_
    intro first second firstMember secondMember
    exact (regionsApart_iff (occupy first firstMember) (occupy second secondMember)
      (bounded first firstMember)).mpr

theorem pending_nonempty
    (contents : pending.map PendingRegion.contents =
      segments.map (Ps2ElfLoadSegment.contents bytes))
    (occupy : ∀ segment ∈ segments, segment.memorySize ≠ 0) :
    ∀ item ∈ pending, item.start < item.stop := by
  intro item member
  have region : item.metadata ∈ pending.map (·.metadata) :=
    List.mem_map_of_mem member
  rw [map_metadata contents] at region
  obtain ⟨segment, inSegments, same⟩ := List.mem_map.mp region
  rw [PendingRegion.start, PendingRegion.stop, ← same]
  exact regionStart_lt_regionEnd (occupy segment inSegments)

/-- The result of `std::sort`: some arrangement by base. -/
structure SortedArrangement (pending sorted : List PendingRegion) : Prop where
  permuted : sorted.Perm pending
  ordered : sorted.Pairwise fun first second => first.start ≤ second.start

theorem sortedArrangement_mergeSort (pending : List PendingRegion) :
    SortedArrangement pending (pending.mergeSort startsNoLater) := by
  have sort : SortedByKey.SortOf PendingRegion.start pending
      (pending.mergeSort startsNoLater) :=
    SortedByKey.sortOf_mergeSort PendingRegion.start pending
  exact ⟨sort.permuted, sort.ordered⟩

/-- The neighbour check on the sorted list decides whether any two meet. -/
theorem neighboursOverlap_sorted {sorted : List PendingRegion}
    (arrangement : SortedArrangement pending sorted)
    (nonempty : ∀ item ∈ pending, item.start < item.stop) :
    SortedIntervals.neighboursOverlap PendingRegion.start PendingRegion.stop sorted =
        false ↔
      pending.Pairwise
        (SortedIntervals.Apart PendingRegion.start PendingRegion.stop) := by
  have sortedNonempty : ∀ item ∈ sorted, item.start < item.stop :=
    fun item member => nonempty item (arrangement.permuted.mem_iff.mp member)
  rw [SortedIntervals.neighboursOverlap_eq_false_iff arrangement.ordered sortedNonempty]
  exact SortedIntervals.pairwise_apart_perm arrangement.permuted

/-- The order `std::sort` picks among equal bases is never seen. -/
theorem buildSorted_independent {first second : List PendingRegion}
    (nonempty : ∀ item ∈ pending, item.start < item.stop)
    (firstArrangement : SortedArrangement pending first)
    (secondArrangement : SortedArrangement pending second)
    (allocation : BackingAllocation) :
    buildSorted allocation first = buildSorted allocation second := by
  have firstCheck := neighboursOverlap_sorted firstArrangement nonempty
  have secondCheck := neighboursOverlap_sorted secondArrangement nonempty
  by_cases apart : pending.Pairwise
      (SortedIntervals.Apart PendingRegion.start PendingRegion.stop)
  · have same : first = second := by
      refine SortedIntervals.eq_of_sorted_perm
        (firstArrangement.permuted.trans secondArrangement.permuted.symm)
        firstArrangement.ordered secondArrangement.ordered ?_
        ((SortedIntervals.pairwise_apart_perm firstArrangement.permuted).mpr apart)
      exact fun item member => nonempty item
        (firstArrangement.permuted.mem_iff.mp member)
    rw [same]
  · have firstOverlap : SortedIntervals.neighboursOverlap PendingRegion.start
        PendingRegion.stop first = true :=
      eq_true_of_ne_false (mt firstCheck.mp apart)
    have secondOverlap : SortedIntervals.neighboursOverlap PendingRegion.start
        PendingRegion.stop second = true :=
      eq_true_of_ne_false (mt secondCheck.mp apart)
    simp only [buildSorted, firstOverlap, secondOverlap, if_true]

end Checking

/-- Two distinct entries of a list of segments occupy a common guest address. -/
def SomeSegmentsMeet (segments : List Ps2ElfLoadSegment) : Prop :=
  ∃ (i j : Nat) (first second : Ps2ElfLoadSegment), i < j ∧
    segments[i]? = some first ∧ segments[j]? = some second ∧ first.Meets second

theorem not_someSegmentsMeet_iff {segments : List Ps2ElfLoadSegment} :
    ¬SomeSegmentsMeet segments ↔
      segments.Pairwise fun first second : Ps2ElfLoadSegment =>
        ¬first.Meets second := by
  rw [List.pairwise_iff_getElem]
  constructor
  · intro none i j iInside jInside ordered meets
    exact none ⟨i, j, _, _, ordered, List.getElem?_eq_getElem iInside,
      List.getElem?_eq_getElem jInside, meets⟩
  · rintro apart ⟨i, j, first, second, ordered, firstPresent, secondPresent, meets⟩
    obtain ⟨iInside, rfl⟩ := List.getElem?_eq_some_iff.mp firstPresent
    obtain ⟨jInside, rfl⟩ := List.getElem?_eq_some_iff.mp secondPresent
    exact apart i j iInside jInside ordered meets

/-- The map holds the segments of a file: every covered byte and no other, and
one region for each segment, sorted and disjoint. -/
structure MapsSegments (bytes : List (BitVec 8)) (segments : List Ps2ElfLoadSegment)
    (memory : Ps2MemoryMap) : Prop where
  covered : ∀ address, (memory.readU8 address).isSome ↔
    ∃ segment ∈ segments, segment.Covers address
  contents : ∀ segment ∈ segments, ∀ address, segment.Covers address →
    memory.readU8 address = some (segment.byteAt bytes address)
  sorted : memory.regions.Pairwise fun first second =>
    first.guestBase ≤ second.guestBase
  disjoint : memory.regions.Pairwise regionsApart
  exact : memory.regions.Perm (segments.map (·.region))

section Mapping

variable {bytes : List (BitVec 8)} {segments : List Ps2ElfLoadSegment}
  {pending sorted : List PendingRegion}

/-- A copied payload with its zero tail, read at a distance into the region. -/
theorem backing_getD {item : PendingRegion} {segment : Ps2ElfLoadSegment}
    (contents : item.contents = segment.contents bytes)
    (fits : segment.Fits bytes.length) (address : BitVec 32) :
    item.backing.bytes.getD (address.toNat - regionStart item.backing.metadata) 0 =
      segment.byteAt bytes address := by
  have region : item.metadata = segment.region := congrArg Prod.fst contents
  have payload : item.fileBytes = segmentBytes bytes segment :=
    congrArg Prod.snd contents
  have size := length_segmentBytes fits
  obtain ⟨sizes, start, range⟩ := fits
  have base : regionStart item.backing.metadata = segment.virtualAddress.toNat :=
    congrArg regionStart region
  rw [base]
  unfold Ps2ElfLoadSegment.byteAt
  simp only [PendingRegion.backing, payload, List.getD_eq_getElem?_getD]
  by_cases inPayload : address.toNat - segment.virtualAddress.toNat <
      segment.fileSize.toNat
  · rw [if_pos inPayload, List.getElem?_append_left (by omega), segmentBytes,
      List.getElem?_take_of_lt inPayload, List.getElem?_drop]
  · rw [if_neg inPayload, List.getElem?_append_right (by omega), List.getElem?_drop,
      List.getElem?_replicate]
    split <;> rfl

/-- The backing regions of a sorted arrangement hold the segments. -/
theorem mapsSegments_of_sorted
    (contents : pending.map PendingRegion.contents =
      segments.map (Ps2ElfLoadSegment.contents bytes))
    (fit : ∀ segment ∈ segments, segment.Fits bytes.length)
    (arrangement : SortedArrangement pending sorted)
    (apart : pending.Pairwise
      (SortedIntervals.Apart PendingRegion.start PendingRegion.stop))
    {memory : Ps2MemoryMap} (regions : memory.regions = sorted.map (·.metadata))
    (backing : memory.backingRegions = sorted.map PendingRegion.backing) :
    MapsSegments bytes segments memory := by
  have ofSegment : ∀ segment ∈ segments, ∃ item ∈ sorted,
      item.contents = segment.contents bytes := by
    intro segment member
    have wanted : segment.contents bytes ∈ pending.map PendingRegion.contents := by
      rw [contents]
      exact List.mem_map_of_mem member
    obtain ⟨item, inPending, same⟩ := List.mem_map.mp wanted
    exact ⟨item, arrangement.permuted.mem_iff.mpr inPending, same⟩
  have ofItem : ∀ item ∈ sorted, ∃ segment ∈ segments,
      item.contents = segment.contents bytes := by
    intro item member
    have held : item.contents ∈ segments.map (Ps2ElfLoadSegment.contents bytes) := by
      rw [← contents]
      exact List.mem_map_of_mem (arrangement.permuted.mem_iff.mp member)
    obtain ⟨segment, inSegments, same⟩ := List.mem_map.mp held
    exact ⟨segment, inSegments, same.symm⟩
  have spans_iff : ∀ {item : PendingRegion} {segment : Ps2ElfLoadSegment}
      {address : BitVec 32}, item.contents = segment.contents bytes →
      (item.backing.Spans address.toNat 1 ↔ segment.Covers address) := by
    intro item segment address same
    have region : item.metadata = segment.region := congrArg Prod.fst same
    change regionStart item.metadata ≤ _ ∧ _ ≤ regionEnd item.metadata ↔ _
    rw [region]
    exact Iff.rfl
  have covered : ∀ address, (memory.readU8 address).isSome ↔
      ∃ segment ∈ segments, segment.Covers address := by
    intro address
    rw [Option.isSome_iff_ne_none, Ne, Ps2MemoryMap.readU8_eq_none_iff, backing]
    push Not
    constructor
    · rintro ⟨region, member, spans⟩
      obtain ⟨item, inSorted, rfl⟩ := List.mem_map.mp member
      obtain ⟨segment, inSegments, same⟩ := ofItem item inSorted
      exact ⟨segment, inSegments, (spans_iff same).mp spans⟩
    · rintro ⟨segment, inSegments, covers⟩
      obtain ⟨item, inSorted, same⟩ := ofSegment segment inSegments
      exact ⟨item.backing, List.mem_map_of_mem inSorted, (spans_iff same).mpr covers⟩
  have sortedApart := (SortedIntervals.pairwise_apart_perm arrangement.permuted).mpr apart
  refine ⟨covered, ?_, ?_, ?_, ?_⟩
  · intro segment inSegments address covers
    obtain ⟨value, read⟩ := Option.isSome_iff_exists.mp
      ((covered address).mpr ⟨segment, inSegments, covers⟩)
    obtain ⟨region, member, spans, byte⟩ := Ps2MemoryMap.readU8_eq_some read
    rw [backing] at member
    obtain ⟨found, foundInSorted, rfl⟩ := List.mem_map.mp member
    obtain ⟨item, inSorted, same⟩ := ofSegment segment inSegments
    -- both regions contain the address, and distinct regions are apart
    have sameItem : found = item := by
      by_contra different
      have separated := sortedApart.forall foundInSorted inSorted different
      have itemSpans := (spans_iff same).mpr covers
      simp only [BackingRegion.Spans, PendingRegion.backing] at spans itemSpans
      simp only [SortedIntervals.Apart, PendingRegion.start, PendingRegion.stop]
        at separated
      omega
    rw [read, byte, sameItem, backing_getD same (fit segment inSegments)]
  · rw [regions, List.pairwise_map]
    exact arrangement.ordered
  · rw [regions, List.pairwise_map]
    exact sortedApart
  · rw [regions, ← map_metadata contents]
    exact arrangement.permuted.map _

end Mapping

section Images

variable {image : Ps2ElfImage}

theorem fromElf_overflow (allocation : BackingAllocation)
    (overflow : ∃ segment ∈ occupying image.loadSegments, segment.Overflows) :
    fromElf allocation image = .error addressOverflowFailure := by
  rw [fromElf, collectPending_error List.drop_zero.symm image.segmentsFit overflow]
  rfl

/-- Without overflow the result depends on whether two segments meet. -/
theorem fromElf_bounded (allocation : BackingAllocation)
    (bounded : ∀ segment ∈ occupying image.loadSegments, ¬segment.Overflows) :
    ∃ pending : List PendingRegion, pending.map PendingRegion.contents =
        (occupying image.loadSegments).map (Ps2ElfLoadSegment.contents image.bytes) ∧
      fromElf allocation image =
        buildSorted allocation (pending.mergeSort startsNoLater) ∧
      (SortedIntervals.neighboursOverlap PendingRegion.start PendingRegion.stop
          (pending.mergeSort startsNoLater) = true ↔
        SomeSegmentsMeet (occupying image.loadSegments)) := by
  obtain ⟨pending, collected, contents⟩ :=
    collectPending_ok List.drop_zero.symm image.segmentsFit bounded
  have occupy : ∀ segment ∈ occupying image.loadSegments, segment.memorySize ≠ 0 :=
    fun segment member => (mem_occupying.mp member).2
  have check := neighboursOverlap_sorted (sortedArrangement_mergeSort pending)
    (pending_nonempty contents occupy)
  refine ⟨pending, contents, ?_, ?_⟩
  · rw [fromElf, collected]
    rfl
  · rw [← not_iff_not, Bool.not_eq_true, check,
      pairwise_apart_pending contents occupy bounded, not_someSegmentsMeet_iff]

end Images

/-- Mapping a parsed file: the outcome is decided by the load segments that stand
in the file's own bytes, and a finished map holds exactly their bytes. -/
theorem parsePs2Elf_fromElf (bytes : List (BitVec 8)) (image : Ps2ElfImage)
    (accepted : parsePs2Elf bytes = .ok image) :
    (∀ allocation failure, fromElf allocation image = .error failure →
      failure.error ≠ .segmentPayloadMismatch) ∧
    ((∃ failure, fromElf .success image = .error failure ∧
        failure.error = .addressOverflow) ↔
      ∃ segment ∈ occupying (ptLoads bytes), segment.Overflows) ∧
    ((∀ segment ∈ occupying (ptLoads bytes), ¬segment.Overflows) →
      ((∃ failure, fromElf .success image = .error failure ∧
          failure.error = .overlappingRegions) ↔
        SomeSegmentsMeet (occupying (ptLoads bytes))) ∧
      (¬SomeSegmentsMeet (occupying (ptLoads bytes)) →
        ∃ memory, fromElf .success image = .ok memory ∧
          MapsSegments bytes (occupying (ptLoads bytes)) memory)) := by
  obtain ⟨sameBytes, sameSegments⟩ := parsePs2Elf_eq_ok accepted
  have fit : ∀ segment ∈ occupying image.loadSegments, segment.Fits bytes.length := by
    intro segment member
    rw [← sameBytes]
    exact image.segmentsFit segment (mem_occupying.mp member).1
  rw [← sameSegments]
  by_cases overflow : ∃ segment ∈ occupying image.loadSegments, segment.Overflows
  · have failed := fun allocation => fromElf_overflow allocation overflow
    refine ⟨?_, iff_of_true ⟨_, failed _, rfl⟩ overflow, ?_⟩
    · intro allocation failure result
      rw [failed] at result
      obtain rfl := Except.error.inj result
      decide
    · intro bounded
      obtain ⟨segment, member, overflows⟩ := overflow
      exact absurd overflows (bounded segment member)
  · have bounded : ∀ segment ∈ occupying image.loadSegments, ¬segment.Overflows :=
      fun segment member overflows => overflow ⟨segment, member, overflows⟩
    have outcome : ∀ allocation failure, fromElf allocation image = .error failure →
        failure.error = .overlappingRegions ∨ failure.error = .allocationFailed := by
      intro allocation failure result
      obtain ⟨pending, -, built, -⟩ := fromElf_bounded allocation bounded
      rw [built] at result
      unfold buildSorted at result
      split at result
      · obtain rfl := Except.error.inj result
        exact .inl rfl
      · cases allocation with
        | success => cases result
        | badAlloc | lengthError =>
            obtain rfl := Except.error.inj result
            exact .inr rfl
    obtain ⟨pending, contents, built, overlap⟩ := fromElf_bounded .success bounded
    refine ⟨?_, iff_of_false ?_ overflow, fun _ => ⟨?_, ?_⟩⟩
    · intro allocation failure result
      rcases outcome allocation failure result with kind | kind <;> rw [kind] <;> decide
    · rintro ⟨failure, result, kind⟩
      rcases outcome _ failure result with other | other <;>
        exact absurd (kind.symm.trans other) (by decide)
    · rw [← overlap, built]
      cases check : SortedIntervals.neighboursOverlap PendingRegion.start
          PendingRegion.stop (pending.mergeSort startsNoLater) with
      | true => simp [buildSorted, check]
      | false => simp [buildSorted, check]
    · intro apart
      have clear : SortedIntervals.neighboursOverlap PendingRegion.start
          PendingRegion.stop (pending.mergeSort startsNoLater) = false :=
        eq_false_of_ne_true (mt overlap.mp apart)
      have occupy : ∀ segment ∈ occupying image.loadSegments, segment.memorySize ≠ 0 :=
        fun segment member => (mem_occupying.mp member).2
      have arrangement := sortedArrangement_mergeSort pending
      have pendingApart := (neighboursOverlap_sorted arrangement
        (pending_nonempty contents occupy)).mp clear
      rw [sameBytes] at contents
      refine ⟨_, built.trans (by simp only [buildSorted, clear]; rfl), ?_⟩
      exact mapsSegments_of_sorted contents fit arrangement pendingApart rfl rfl

/-- A file with two load segments, the one at the higher address in front.  Each has four
payload bytes and four zero bytes. -/
def twoSegmentElf : List (BitVec 8) :=
  [0x7F, 0x45, 0x4C, 0x46, 1, 1, 1, 0, 0, 0, 0, 0, 0, 0, 0, 0] ++
  [2, 0, 8, 0, 1, 0, 0, 0, 0, 0, 0x10, 0, 52, 0, 0, 0] ++
  [0, 0, 0, 0, 0, 0, 0, 0, 52, 0, 32, 0, 2, 0, 0, 0, 0, 0, 0, 0] ++
  [1, 0, 0, 0, 116, 0, 0, 0, 0, 0, 0x20, 0, 0, 0, 0x20, 0] ++
  [4, 0, 0, 0, 8, 0, 0, 0, 6, 0, 0, 0, 0x10, 0, 0, 0] ++
  [1, 0, 0, 0, 120, 0, 0, 0, 0, 0, 0x10, 0, 0, 0, 0x10, 0] ++
  [4, 0, 0, 0, 8, 0, 0, 0, 5, 0, 0, 0, 0x10, 0, 0, 0] ++
  [0xAA, 0xBB, 0xCC, 0xDD] ++ [0x0C, 0, 0, 0]

theorem occupying_twoSegmentElf :
    occupying (ptLoads twoSegmentElf) =
      [⟨116, 0x00200000, 0x00200000, 4, 8, 6, 16⟩,
        ⟨120, 0x00100000, 0x00100000, 4, 8, 5, 16⟩] := by
  decide +kernel

/-- The map has the segments in the order of their addresses. -/
theorem parsePs2Elf_fromElf_twoSegmentElf :
    ∃ image, parsePs2Elf twoSegmentElf = .ok image ∧
      ∃ memory, fromElf .success image = .ok memory ∧
        MapsSegments twoSegmentElf (occupying (ptLoads twoSegmentElf)) memory := by
  have parses : (parsePs2Elf twoSegmentElf).toOption.isSome = true := by decide +kernel
  obtain ⟨image, parsed⟩ := Option.isSome_iff_exists.mp parses
  have accepted := toOption_eq_some_iff.mp parsed
  refine ⟨image, accepted, ?_⟩
  refine ((parsePs2Elf_fromElf twoSegmentElf image accepted).2.2 ?_).2 ?_
  · rw [occupying_twoSegmentElf]
    exact List.forall_iff_forall_mem.mp (by decide)
  · rw [occupying_twoSegmentElf, not_someSegmentsMeet_iff, List.pairwise_pair,
      ← regionsApart_iff (by decide) (by decide) (by decide)]
    exact .inr (by decide)

end Burnout3Recompiled
