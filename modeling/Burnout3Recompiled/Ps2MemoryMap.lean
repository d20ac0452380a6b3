import Burnout3Recompiled.Ps2Elf
import Burnout3Recompiled.SortedIntervals
import Mathlib.Algebra.Group.Nat.Defs

/-!
# Guest memory

A memory map owns one byte vector for each nonempty load segment.  A backing
region carries the proof that its vector has the size its metadata states, and
the map the proof that the public region list mirrors the backing regions.
-/

namespace Burnout3Recompiled

/-- The failing values of the source enumeration; its `None` is `Except.ok`. -/
inductive Ps2MemoryMapBuildError where
  | addressOverflow | overlappingRegions | segmentPayloadMismatch | allocationFailed
  deriving DecidableEq, Repr

structure Ps2MemoryMapBuildFailure where
  error : Ps2MemoryMapBuildError
  message : String
  deriving DecidableEq, Repr

structure Ps2MemoryRegion where
  guestBase : BitVec 32 := 0
  size : BitVec 32 := 0
  flags : BitVec 32 := 0
  deriving DecidableEq, Repr

def guestAddressSpaceSize : Nat := 2 ^ 32

def regionStart (region : Ps2MemoryRegion) : Nat :=
  region.guestBase.toNat

def regionEnd (region : Ps2MemoryRegion) : Nat :=
  region.guestBase.toNat + region.size.toNat

def accessRangeFits (address : BitVec 32) (length : Nat) : Prop :=
  length ≤ guestAddressSpaceSize ∧ address.toNat + length ≤ guestAddressSpaceSize

instance (address : BitVec 32) (length : Nat) :
    Decidable (accessRangeFits address length) :=
  inferInstanceAs (Decidable (_ ∧ _))

structure BackingRegion where
  metadata : Ps2MemoryRegion
  bytes : List (BitVec 8)
  sized : bytes.length = metadata.size.toNat
  deriving DecidableEq

structure Ps2MemoryMap where
  regions : List Ps2MemoryRegion
  backingRegions : List BackingRegion
  mirrored : regions = backingRegions.map (·.metadata)
  deriving DecidableEq

theorem mirrored_singleton {metadata : Ps2MemoryRegion} {bytes : List (BitVec 8)}
    {sized : bytes.length = metadata.size.toNat} :
    [metadata] = [BackingRegion.mk metadata bytes sized].map (·.metadata) :=
  rfl

/-- A segment to be mapped.  Its file bytes fit the region they are copied into. -/
structure PendingRegion where
  metadata : Ps2MemoryRegion
  fileBytes : List (BitVec 8)
  fits : fileBytes.length ≤ metadata.size.toNat

def Ps2ElfLoadSegment.region (segment : Ps2ElfLoadSegment) : Ps2MemoryRegion where
  guestBase := segment.virtualAddress
  size := segment.memorySize
  flags := segment.flags

/-- The loop over the load segments from `index` on. -/
def collectPending (image : Ps2ElfImage) (index : Nat) :
    (segments : List Ps2ElfLoadSegment) →
      (∀ segment ∈ segments, segment.Fits image.bytes.length) →
        Except Ps2MemoryMapBuildFailure (List PendingRegion)
  | [], _ => .ok []
  | segment :: segments, fit =>
      have others : ∀ other ∈ segments, other.Fits image.bytes.length :=
        fun other member => fit other (.tail _ member)
      if segment.memorySize = 0 then collectPending image (index + 1) segments others
      else if segment.virtualAddress.toNat + segment.memorySize.toNat >
          guestAddressSpaceSize then
        .error ⟨.addressOverflow,
          "ELF PT_LOAD guest range exceeds the 32-bit PS2 address space"⟩
      else
        let fileBytes := image.segmentFileBytes index
        if payload : fileBytes.length = segment.fileSize.toNat then
          (collectPending image (index + 1) segments others).map fun pending =>
            { metadata := segment.region
              fileBytes := fileBytes
              fits := payload ▸ (fit segment (.head _)).1 } :: pending
        else
          .error ⟨.segmentPayloadMismatch,
            "ELF PT_LOAD payload does not match p_filesz"⟩

namespace PendingRegion

def start (pending : PendingRegion) : Nat := regionStart pending.metadata

def stop (pending : PendingRegion) : Nat := regionEnd pending.metadata

/-- `bytes.resize(size, 0)` followed by the copy of the file bytes to its front. -/
def backing (pending : PendingRegion) : BackingRegion where
  metadata := pending.metadata
  bytes := pending.fileBytes ++
    (List.replicate pending.metadata.size.toNat 0).drop pending.fileBytes.length
  sized := by
    have fits := pending.fits
    rw [List.length_append, List.length_drop, List.length_replicate]
    omega

end PendingRegion

/-- The comparison of `std::sort`, as a total relation. -/
def startsNoLater (lhs rhs : PendingRegion) : Bool :=
  decide (lhs.start ≤ rhs.start)

/-- What the allocator answers while the backing vectors are made. -/
inductive BackingAllocation where
  | success | badAlloc | lengthError
  deriving DecidableEq, Repr

/-- From the sorted segments on. -/
def buildSorted (allocation : BackingAllocation) (pending : List PendingRegion) :
    Except Ps2MemoryMapBuildFailure Ps2MemoryMap :=
  if SortedIntervals.neighboursOverlap PendingRegion.start PendingRegion.stop pending
  then
    .error ⟨.overlappingRegions, "ELF PT_LOAD guest ranges overlap"⟩
  else
    match allocation with
    | .success =>
        .ok
          { regions := pending.map (·.metadata)
            backingRegions := pending.map PendingRegion.backing
            mirrored := by
              rw [List.map_map]
              rfl }
    | .badAlloc =>
        .error ⟨.allocationFailed,
          "Unable to allocate native backing storage for ELF PT_LOAD regions"⟩
    | .lengthError =>
        .error ⟨.allocationFailed,
          "ELF PT_LOAD backing size exceeds native container limits"⟩

/-- `std::sort` leaves the order of equal bases open; regions with equal bases
overlap, so the order is never seen. -/
def fromElf (allocation : BackingAllocation) (elf : Ps2ElfImage) :
    Except Ps2MemoryMapBuildFailure Ps2MemoryMap := do
  let pending ← collectPending elf 0 elf.loadSegments elf.segmentsFit
  buildSorted allocation (pending.mergeSort startsNoLater)

/-- A bounded view into one backing region. -/
structure Ps2Span where
  region : Nat
  offset : Nat
  length : Nat
  deriving DecidableEq, Repr

/-- The region loop from `index` on. -/
def translateFrom (address length index : Nat) : List BackingRegion → Option Ps2Span
  | [] => none
  | region :: regions =>
      if regionStart region.metadata ≤ address ∧
          address + length ≤ regionEnd region.metadata then
        some ⟨index, address - regionStart region.metadata, length⟩
      else translateFrom address length (index + 1) regions

namespace BackingRegion

def setByte (region : BackingRegion) (offset : Nat) (value : BitVec 8) :
    BackingRegion where
  metadata := region.metadata
  bytes := region.bytes.set offset value
  sized := (List.length_set ..).trans region.sized

end BackingRegion

namespace Ps2MemoryMap

def translate (memory : Ps2MemoryMap) (address : BitVec 32) (length : Nat) :
    Option Ps2Span :=
  if accessRangeFits address length then
    translateFrom address.toNat length 0 memory.backingRegions
  else none

/-- The byte `position` of a view.  `getD` never falls back on a view of this
map. -/
def spanByte (memory : Ps2MemoryMap) (span : Ps2Span) (position : Nat) : BitVec 8 :=
  ((memory.backingRegions[span.region]?.map (·.bytes)).getD []).getD
    (span.offset + position) 0

def setSpanByte (memory : Ps2MemoryMap) (span : Ps2Span) (position : Nat)
    (value : BitVec 8) : Ps2MemoryMap where
  regions := memory.regions
  backingRegions := memory.backingRegions.modify span.region
    (·.setByte (span.offset + position) value)
  mirrored := by
    have unchanged : memory.backingRegions.map (·.metadata) =
        (memory.backingRegions.modify span.region
          (·.setByte (span.offset + position) value)).map (·.metadata) := by
      apply List.ext_getElem?
      intro index
      rw [List.getElem?_map, List.getElem?_map, List.getElem?_modify]
      cases memory.backingRegions[index]? with
      | none => rfl
      | some region =>
          simp only [Option.map_some]
          split <;> rfl
    rw [memory.mirrored, unchanged]

def readU8 (memory : Ps2MemoryMap) (address : BitVec 32) : Option (BitVec 8) := do
  let bytes ← memory.translate address 1
  return memory.spanByte bytes 0

def readU16 (memory : Ps2MemoryMap) (address : BitVec 32) : Option (BitVec 16) := do
  let bytes ← memory.translate address 2
  return (memory.spanByte bytes 0).setWidth 16 |||
    ((memory.spanByte bytes 1).setWidth 16 <<< 8)

def readU32 (memory : Ps2MemoryMap) (address : BitVec 32) : Option (BitVec 32) := do
  let bytes ← memory.translate address 4
  return (memory.spanByte bytes 0).setWidth 32 |||
    ((memory.spanByte bytes 1).setWidth 32 <<< 8) |||
    ((memory.spanByte bytes 2).setWidth 32 <<< 16) |||
    ((memory.spanByte bytes 3).setWidth 32 <<< 24)

/-- The answer of a write and the memory it leaves. -/
def writeU8 (memory : Ps2MemoryMap) (address : BitVec 32) (value : BitVec 8) :
    Bool × Ps2MemoryMap :=
  match memory.translate address 1 with
  | none => (false, memory)
  | some bytes => (true, memory.setSpanByte bytes 0 value)

def writeU16 (memory : Ps2MemoryMap) (address : BitVec 32) (value : BitVec 16) :
    Bool × Ps2MemoryMap :=
  match memory.translate address 2 with
  | none => (false, memory)
  | some bytes =>
      (true,
        (memory.setSpanByte bytes 0 ((value &&& 0xFF).setWidth 8)).setSpanByte bytes 1
          (((value >>> 8) &&& 0xFF).setWidth 8))

def writeU32 (memory : Ps2MemoryMap) (address : BitVec 32) (value : BitVec 32) :
    Bool × Ps2MemoryMap :=
  match memory.translate address 4 with
  | none => (false, memory)
  | some bytes =>
      let first := memory.setSpanByte bytes 0 ((value &&& 0xFF).setWidth 8)
      let second := first.setSpanByte bytes 1 (((value >>> 8) &&& 0xFF).setWidth 8)
      let third := second.setSpanByte bytes 2 (((value >>> 16) &&& 0xFF).setWidth 8)
      (true, third.setSpanByte bytes 3 (((value >>> 24) &&& 0xFF).setWidth 8))

end Ps2MemoryMap

/-- A whole access lies inside one region. -/
def BackingRegion.Spans (region : BackingRegion) (address length : Nat) : Prop :=
  regionStart region.metadata ≤ address ∧ address + length ≤ regionEnd region.metadata

section Translation

variable {address length index : Nat} {regions : List BackingRegion}

theorem translateFrom_eq_none_iff :
    translateFrom address length index regions = none ↔
      ∀ region ∈ regions, ¬region.Spans address length := by
  induction regions generalizing index with
  | nil => simp [translateFrom]
  | cons region regions ih =>
      have others : translateFrom address length (index + 1) regions = none ↔ _ := ih
      rw [translateFrom, List.forall_mem_cons, ← others]
      split
      · next spans => simp [BackingRegion.Spans, spans]
      · next apart => simp [BackingRegion.Spans, apart]

theorem translateFrom_eq_some {span : Ps2Span}
    (found : translateFrom address length index regions = some span) :
    ∃ position region, regions[position]? = some region ∧
      region.Spans address length ∧
      span = ⟨index + position, address - regionStart region.metadata, length⟩ := by
  induction regions generalizing index with
  | nil => cases found
  | cons region regions ih =>
      rw [translateFrom] at found
      split at found
      · next spans =>
          obtain rfl := Option.some.inj found
          exact ⟨0, region, rfl, spans, rfl⟩
      · obtain ⟨position, other, present, spans, rfl⟩ := ih found
        refine ⟨position + 1, other, present, spans, ?_⟩
        rw [Nat.add_right_comm, Nat.add_assoc index position 1]

end Translation

namespace Ps2MemoryMap

variable {memory : Ps2MemoryMap} {address : BitVec 32}

theorem accessRangeFits_one (address : BitVec 32) : accessRangeFits address 1 := by
  have bounded := address.isLt
  simp only [accessRangeFits, guestAddressSpaceSize]
  omega

theorem readU8_eq_none_iff :
    memory.readU8 address = none ↔
      ∀ region ∈ memory.backingRegions, ¬region.Spans address.toNat 1 := by
  have missing : translateFrom address.toNat 1 0 memory.backingRegions = none ↔ _ :=
    translateFrom_eq_none_iff
  rw [← missing, readU8, translate, if_pos (accessRangeFits_one address)]
  cases translateFrom address.toNat 1 0 memory.backingRegions <;> simp

/-- A byte that is read stands in a region that spans its address. -/
theorem readU8_eq_some {value : BitVec 8} (read : memory.readU8 address = some value) :
    ∃ region ∈ memory.backingRegions, region.Spans address.toNat 1 ∧
      value = region.bytes.getD (address.toNat - regionStart region.metadata) 0 := by
  rw [readU8, translate, if_pos (accessRangeFits_one address)] at read
  obtain ⟨span, found, byte⟩ := Option.bind_eq_some_iff.mp read
  obtain ⟨position, region, present, spans, rfl⟩ := translateFrom_eq_some found
  refine ⟨region, List.mem_of_getElem? present, spans, ?_⟩
  rw [← Option.some.inj byte, spanByte, Nat.zero_add, present]
  rfl

end Ps2MemoryMap

end Burnout3Recompiled
