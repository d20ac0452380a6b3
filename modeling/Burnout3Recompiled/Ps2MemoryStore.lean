import Burnout3Recompiled.Ps2ImageMapping

/-!
# Guest memory is a byte store

The regions of a map built from an image are apart, so every guest address has at
most one byte behind it.  Reads are little-endian loads from that view, and a
write stores into it or changes nothing.
-/

namespace Burnout3Recompiled

open LittleEndianMemory (load store ofBytes bytesOf storeBytes load_eq_ofBytes load_congr
  load_store_self store_eq_storeBytes storeBytes_concat)

open OrderedChecks (toOption_eq_some_iff)

/-- The regions of a map share no address. -/
def Ps2MemoryMap.Separated (memory : Ps2MemoryMap) : Prop :=
  memory.regions.Pairwise regionsApart

/-- One region holds the whole access, which ends inside the address space. -/
def Ps2MemoryMap.Maps (memory : Ps2MemoryMap) (address : BitVec 32) (length : Nat) :
    Prop :=
  address.toNat + length ≤ 2 ^ 32 ∧
    ∃ region ∈ memory.regions,
      regionStart region ≤ address.toNat ∧ address.toNat + length ≤ regionEnd region

/-- Guest memory as a total byte memory; addresses outside the regions read zero. -/
def Ps2MemoryMap.view (memory : Ps2MemoryMap) : LittleEndianMemory 32 :=
  fun address => (memory.readU8 address).getD 0

/-- An access of `length` bytes lies inside the region of this index. -/
structure Locates (memory : Ps2MemoryMap) (address : BitVec 32) (length index : Nat)
    (region : BackingRegion) : Prop where
  fits : address.toNat + length ≤ 2 ^ 32
  present : memory.backingRegions[index]? = some region
  spans : region.Spans address.toNat length

namespace Locates

variable {memory : Ps2MemoryMap} {address other : BitVec 32} {length index otherIndex : Nat}
  {region otherRegion : BackingRegion}

/-- Two accesses that share a byte go to the same region. -/
theorem index_unique (separated : memory.Separated)
    (first : Locates memory address length index region)
    (second : Locates memory other 1 otherIndex otherRegion)
    (inside : address.toNat ≤ other.toNat)
    (below : other.toNat < address.toNat + length) :
    otherIndex = index ∧ otherRegion = region := by
  obtain ⟨start, stop⟩ := first.spans
  obtain ⟨otherStart, otherStop⟩ := second.spans
  have apart : memory.backingRegions.Pairwise fun first second =>
      regionsApart first.metadata second.metadata := by
    have mirrored := separated
    rw [Ps2MemoryMap.Separated, memory.mirrored, List.pairwise_map] at mirrored
    exact mirrored
  have meet : ∀ {i j : Nat} {left right : BackingRegion},
      memory.backingRegions[i]? = some left → memory.backingRegions[j]? = some right →
        i < j → regionsApart left.metadata right.metadata := by
    intro i j left right leftPresent rightPresent ordered
    obtain ⟨iInside, rfl⟩ := List.getElem?_eq_some_iff.mp leftPresent
    obtain ⟨jInside, rfl⟩ := List.getElem?_eq_some_iff.mp rightPresent
    exact List.pairwise_iff_getElem.mp apart i j iInside jInside ordered
  have same : otherIndex = index := by
    rcases Nat.lt_trichotomy otherIndex index with before | equal | after
    · have separation := meet second.present first.present before
      simp only [regionsApart, SortedIntervals.Apart] at separation
      omega
    · exact equal
    · have separation := meet first.present second.present after
      simp only [regionsApart, SortedIntervals.Apart] at separation
      omega
  subst same
  exact ⟨rfl, Option.some.inj (second.present.symm.trans first.present)⟩

/-- The bytes of an access are accesses themselves. -/
theorem byte (locates : Locates memory address length index region) {position : Nat}
    (inside : position < length) :
    Locates memory (address + BitVec.ofNat 32 position) 1 index region ∧
      (address + BitVec.ofNat 32 position).toNat = address.toNat + position := by
  obtain ⟨fits, present, start, stop⟩ := locates
  have place : (address + BitVec.ofNat 32 position).toNat = address.toNat + position := by
    rw [BitVec.toNat_add, BitVec.toNat_ofNat]
    omega
  refine ⟨⟨?_, present, ?_, ?_⟩, place⟩
  · omega
  · omega
  · omega

theorem maps (locates : Locates memory address length index region) :
    memory.Maps address length := by
  rw [Ps2MemoryMap.Maps, memory.mirrored]
  exact ⟨locates.fits, region.metadata,
    List.mem_map_of_mem (List.mem_of_getElem? locates.present), locates.spans⟩

end Locates

namespace Ps2MemoryMap

variable {memory : Ps2MemoryMap} {address : BitVec 32} {length : Nat}

theorem locates_of_translate {span : Ps2Span}
    (translated : memory.translate address length = some span) :
    ∃ region, Locates memory address length span.region region ∧
      span.offset = address.toNat - regionStart region.metadata ∧ span.length = length := by
  unfold translate at translated
  split at translated
  · next fits =>
      obtain ⟨position, region, present, spans, rfl⟩ := translateFrom_eq_some translated
      rw [Nat.zero_add]
      exact ⟨region, ⟨fits.2, present, spans⟩, rfl, rfl⟩
  · cases translated

theorem translate_isSome_iff :
    (memory.translate address length).isSome ↔ memory.Maps address length := by
  have spansIff : (∃ region ∈ memory.backingRegions, region.Spans address.toNat length) ↔
      ∃ region ∈ memory.regions, regionStart region ≤ address.toNat ∧
        address.toNat + length ≤ regionEnd region := by
    rw [memory.mirrored]
    simp [BackingRegion.Spans]
  rw [Maps, ← spansIff, translate]
  split
  · next fits =>
      rw [Option.isSome_iff_ne_none, ne_eq, translateFrom_eq_none_iff]
      push Not
      exact (and_iff_right fits.2).symm
  · next outside =>
      have wraps : ¬address.toNat + length ≤ 2 ^ 32 := by
        intro fits
        refine outside ⟨?_, fits⟩
        rw [guestAddressSpaceSize]
        omega
      exact iff_of_false (by simp) fun maps => wraps maps.1

section Reads

variable (separated : memory.Separated)

include separated

theorem readU8_of_locates {index : Nat} {region : BackingRegion}
    (locates : Locates memory address length index region) {position : Nat}
    (inside : position < length) :
    memory.readU8 (address + BitVec.ofNat 32 position) =
      some (region.bytes.getD
        (address.toNat - regionStart region.metadata + position) 0) := by
  obtain ⟨byteLocates, place⟩ := locates.byte inside
  have mapped : (memory.translate (address + BitVec.ofNat 32 position) 1).isSome :=
    translate_isSome_iff.mpr byteLocates.maps
  obtain ⟨span, translated⟩ := Option.isSome_iff_exists.mp mapped
  obtain ⟨found, foundLocates, offset, -⟩ := locates_of_translate translated
  obtain ⟨-, rfl⟩ := locates.index_unique separated foundLocates (by omega) (by omega)
  have start := locates.spans.1
  have distance : span.offset + 0 =
      address.toNat - regionStart found.metadata + position := by omega
  have read : memory.readU8 (address + BitVec.ofNat 32 position) =
      some (memory.spanByte span 0) := by
    rw [readU8, translated]
    rfl
  rw [read, spanByte, foundLocates.present, distance]
  rfl

/-- The bytes of a view are the bytes of the store. -/
theorem spanByte_eq_view {span : Ps2Span}
    (translated : memory.translate address length = some span) {position : Nat}
    (inside : position < length) :
    memory.spanByte span position = memory.view (address + BitVec.ofNat 32 position) := by
  obtain ⟨region, locates, offset, -⟩ := locates_of_translate translated
  rw [view, readU8_of_locates separated locates inside, Option.getD_some, spanByte,
    locates.present, offset]
  rfl

theorem readU8_eq_some_view {span : Ps2Span}
    (translated : memory.translate address length = some span) {position : Nat}
    (inside : position < length) :
    memory.readU8 (address + BitVec.ofNat 32 position) =
      some (memory.view (address + BitVec.ofNat 32 position)) := by
  obtain ⟨region, locates, -, -⟩ := locates_of_translate translated
  rw [view, readU8_of_locates separated locates inside, Option.getD_some]

theorem readU8_eq (address : BitVec 32) :
    memory.readU8 address =
      (memory.translate address 1).map fun _ => load memory.view address 8 := by
  cases translated : memory.translate address 1 with
  | none => simp [readU8, translated]
  | some span =>
      have first := spanByte_eq_view separated translated (show 0 < 1 by decide)
      rw [load_eq_ofBytes _ _ rfl]
      simp [readU8, translated, first, ofBytes]

theorem readU16_eq (address : BitVec 32) :
    memory.readU16 address =
      (memory.translate address 2).map fun _ => load memory.view address 16 := by
  cases translated : memory.translate address 2 with
  | none => simp [readU16, translated]
  | some span =>
      have first := spanByte_eq_view separated translated (show 0 < 2 by decide)
      have second := spanByte_eq_view separated translated (show 1 < 2 by decide)
      rw [load_eq_ofBytes _ _ rfl]
      simp [readU16, translated, first, second, ofBytes, List.range_succ]

theorem readU32_eq (address : BitVec 32) :
    memory.readU32 address =
      (memory.translate address 4).map fun _ => load memory.view address 32 := by
  cases translated : memory.translate address 4 with
  | none => simp [readU32, translated]
  | some span =>
      have first := spanByte_eq_view separated translated (show 0 < 4 by decide)
      have second := spanByte_eq_view separated translated (show 1 < 4 by decide)
      have third := spanByte_eq_view separated translated (show 2 < 4 by decide)
      have fourth := spanByte_eq_view separated translated (show 3 < 4 by decide)
      rw [load_eq_ofBytes _ _ rfl]
      simp [readU32, translated, first, second, third, fourth, ofBytes, List.range_succ,
        BitVec.shiftLeft_or_distrib, ← BitVec.shiftLeft_add, BitVec.or_assoc]

end Reads

/-- The lookup sees the metadata only. -/
theorem translateFrom_congr {address length index : Nat} {first second : List BackingRegion}
    (same : first.map (·.metadata) = second.map (·.metadata)) :
    translateFrom address length index first = translateFrom address length index second := by
  induction first generalizing second index with
  | nil =>
      have empty : second = [] := List.map_eq_nil_iff.mp same.symm
      rw [empty]
  | cons region regions ih =>
      obtain ⟨other, others, rfl, head, tail⟩ := List.map_eq_cons_iff.mp same.symm
      rw [translateFrom, translateFrom, head, ih tail.symm]

@[simp]
theorem setSpanByte_regions (memory : Ps2MemoryMap) (span : Ps2Span) (position : Nat)
    (value : BitVec 8) :
    (memory.setSpanByte span position value).regions = memory.regions :=
  rfl

@[simp]
theorem setSpanByte_translate (memory : Ps2MemoryMap) (span : Ps2Span) (position : Nat)
    (value : BitVec 8) (address : BitVec 32) (length : Nat) :
    (memory.setSpanByte span position value).translate address length =
      memory.translate address length := by
  unfold translate
  rw [translateFrom_congr ((memory.setSpanByte span position value).mirrored.symm.trans
    memory.mirrored)]

/-- A byte of one view after setting a byte of another. -/
theorem spanByte_setSpanByte {span other : Ps2Span} {region : BackingRegion}
    {position otherPosition : Nat} {value : BitVec 8}
    (present : memory.backingRegions[other.region]? = some region)
    (inBytes : other.offset + otherPosition < region.bytes.length) :
    (memory.setSpanByte span position value).spanByte other otherPosition =
      if span.region = other.region ∧
          span.offset + position = other.offset + otherPosition then value
      else memory.spanByte other otherPosition := by
  rw [spanByte, spanByte, setSpanByte, List.getElem?_modify, present]
  by_cases sameRegion : span.region = other.region
  · by_cases samePlace : span.offset + position = other.offset + otherPosition
    · rw [if_pos ⟨sameRegion, samePlace⟩]
      simp [sameRegion, BackingRegion.setByte, samePlace,
        List.getElem?_set_self inBytes]
    · rw [if_neg (fun both => samePlace both.2)]
      simp [sameRegion, BackingRegion.setByte, List.getElem?_set_ne samePlace]
  · rw [if_neg (fun both => sameRegion both.1)]
    simp [sameRegion]

theorem readU8_eq_some_spanByte {span : Ps2Span}
    (translated : memory.translate address 1 = some span) :
    memory.readU8 address = some (memory.spanByte span 0) := by
  rw [readU8, translated]
  rfl

/-- Setting one byte of a view changes that byte of the store and no other. -/
theorem setSpanByte_view (separated : memory.Separated) {span : Ps2Span}
    (translated : memory.translate address length = some span) {position : Nat}
    (inside : position < length) (value : BitVec 8) :
    (memory.setSpanByte span position value).view =
      Function.update memory.view (address + BitVec.ofNat 32 position) value := by
  obtain ⟨region, locates, offset, -⟩ := locates_of_translate translated
  obtain ⟨byteLocates, place⟩ := locates.byte inside
  have start := locates.spans.1
  ext1 other
  rw [Function.update_apply, view, view]
  cases found : memory.translate other 1 with
  | none =>
      have unmapped : other ≠ address + BitVec.ofNat 32 position := by
        rintro rfl
        have mapped := translate_isSome_iff.mpr byteLocates.maps
        rw [found] at mapped
        cases mapped
      have missing : ∀ {map : Ps2MemoryMap}, map.translate other 1 = none →
          map.readU8 other = none := by
        intro map absent
        rw [readU8, absent]
        rfl
      rw [if_neg unmapped, missing found, missing (by rw [setSpanByte_translate, found])]
  | some otherSpan =>
      obtain ⟨otherRegion, otherLocates, otherOffset, -⟩ := locates_of_translate found
      have otherStart := otherLocates.spans.1
      have otherStop := otherLocates.spans.2
      have inBytes : otherSpan.offset + 0 < otherRegion.bytes.length := by
        rw [otherRegion.sized]
        simp only [regionStart, regionEnd] at otherStart otherStop otherOffset
        omega
      rw [readU8_eq_some_spanByte found,
        readU8_eq_some_spanByte (by rw [setSpanByte_translate, found]), Option.getD_some,
        Option.getD_some, spanByte_setSpanByte otherLocates.present inBytes]
      refine if_congr ⟨?_, ?_⟩ rfl rfl
      · rintro ⟨sameIndex, samePlace⟩
        have sameRegion : otherRegion = region := by
          have present := otherLocates.present
          rw [← sameIndex, locates.present] at present
          exact (Option.some.inj present).symm
        subst sameRegion
        apply BitVec.eq_of_toNat_eq
        omega
      · rintro rfl
        obtain ⟨sameIndex, rfl⟩ := locates.index_unique separated otherLocates
          (by omega) (by omega)
        exact ⟨sameIndex.symm, by omega⟩

/-- Some bytes of a view, one after another. -/
def setSpanBytes (memory : Ps2MemoryMap) (span : Ps2Span) (position : Nat) :
    List (BitVec 8) → Ps2MemoryMap
  | [] => memory
  | byte :: bytes => (memory.setSpanByte span position byte).setSpanBytes span (position + 1) bytes

@[simp]
theorem setSpanBytes_regions (span : Ps2Span) (position : Nat) (bytes : List (BitVec 8)) :
    (memory.setSpanBytes span position bytes).regions = memory.regions := by
  induction bytes generalizing memory position with
  | nil => rfl
  | cons byte bytes ih => exact ih _

/-- By induction on the bytes, behind those that have been stored already. -/
theorem setSpanBytes_view {current : Ps2MemoryMap} (separated : current.Separated)
    {span : Ps2Span} (translated : current.translate address length = some span)
    {before bytes : List (BitVec 8)} (inside : before.length + bytes.length ≤ length)
    (stored : current.view = storeBytes memory.view address before) :
    (current.setSpanBytes span before.length bytes).view =
      storeBytes memory.view address (before ++ bytes) := by
  induction bytes generalizing current before with
  | nil => rwa [List.append_nil]
  | cons byte bytes ih =>
      rw [List.length_cons] at inside
      obtain ⟨region, locates, -, -⟩ := locates_of_translate translated
      have fits := locates.fits
      have one : (current.setSpanByte span before.length byte).view =
          storeBytes memory.view address (before ++ [byte]) := by
        rw [setSpanByte_view separated translated (by omega), stored, storeBytes_concat]
        omega
      have grown : (before ++ [byte]).length = before.length + 1 := by simp
      have nextSeparated : (current.setSpanByte span before.length byte).Separated :=
        separated
      have nextInside : (before ++ [byte]).length + bytes.length ≤ length := by omega
      have rest := ih nextSeparated (by rw [setSpanByte_translate, translated]) nextInside one
      rwa [grown, List.append_assoc] at rest

end Ps2MemoryMap

/-- What one write answers and leaves behind. -/
structure WriteOutcome (memory : Ps2MemoryMap) (address : BitVec 32) {bits : Nat}
    (value : BitVec bits) (outcome : Bool × Ps2MemoryMap) : Prop where
  answer : outcome.1 = true ↔ memory.Maps address (bits / 8)
  regions : outcome.2.regions = memory.regions
  failed : outcome.1 = false → outcome.2 = memory
  done : outcome.1 = true → outcome.2.view = store memory.view address value

theorem byte_of_shift {bits : Nat} (wide : 8 ≤ bits) (value : BitVec bits) (shift : Nat) :
    ((value >>> shift) &&& 0xFF).setWidth 8 = value.extractLsb' shift 8 := by
  apply BitVec.eq_of_getLsbD_eq
  intro bit inside
  have mask : (0xFF : BitVec bits).getLsbD bit = true := by
    have ones : (2 ^ 8 - 1).testBit bit = decide (bit < 8) := Nat.testBit_two_pow_sub_one 8 bit
    have number : (0xFF : BitVec bits) = BitVec.ofNat bits (2 ^ 8 - 1) := rfl
    have small : bit < bits := Nat.lt_of_lt_of_le inside wide
    rw [number, BitVec.getLsbD_ofNat, ones, decide_eq_true small, decide_eq_true inside]
    rfl
  rw [BitVec.getLsbD_setWidth, BitVec.getLsbD_and, mask, BitVec.getLsbD_ushiftRight,
    BitVec.getLsbD_extractLsb', Bool.and_true]

section Writes

variable {memory : Ps2MemoryMap} {address : BitVec 32}

/-- A write into the view of its own bytes. -/
theorem writeOutcome_of_setSpanBytes (separated : memory.Separated) {bits : Nat}
    {value : BitVec bits} {outcome : Bool × Ps2MemoryMap}
    (writes : outcome =
      match memory.translate address (bits / 8) with
      | none => (false, memory)
      | some span => (true, memory.setSpanBytes span 0 (bytesOf value (bits / 8)))) :
    WriteOutcome memory address value outcome := by
  have mapped : (memory.translate address (bits / 8)).isSome ↔
      memory.Maps address (bits / 8) := Ps2MemoryMap.translate_isSome_iff
  subst writes
  cases translated : memory.translate address (bits / 8) with
  | none =>
      rw [translated] at mapped
      exact ⟨mapped, rfl, fun _ => rfl, fun wrong => by cases wrong⟩
  | some span =>
      rw [translated] at mapped
      refine ⟨mapped, Ps2MemoryMap.setSpanBytes_regions span 0 _,
        fun wrong => (by cases wrong), fun _ => ?_⟩
      have size : (bytesOf value (bits / 8)).length = bits / 8 := by
        rw [bytesOf, List.length_map, List.length_range]
      have inside : ([] : List (BitVec 8)).length + (bytesOf value (bits / 8)).length ≤
          bits / 8 := by
        rw [size]
        exact Nat.le_of_eq (Nat.zero_add _)
      rw [store_eq_storeBytes]
      exact Ps2MemoryMap.setSpanBytes_view separated translated inside rfl

theorem writeU8_outcome (separated : memory.Separated) (address : BitVec 32)
    (value : BitVec 8) : WriteOutcome memory address value (memory.writeU8 address value) := by
  apply writeOutcome_of_setSpanBytes separated
  have bytes : bytesOf value 1 = [value] := by
    simp [bytesOf, List.range_succ, BitVec.extractLsb'_eq_self]
  rw [bytes]
  rfl

theorem writeU16_outcome (separated : memory.Separated) (address : BitVec 32)
    (value : BitVec 16) :
    WriteOutcome memory address value (memory.writeU16 address value) := by
  apply writeOutcome_of_setSpanBytes separated
  have low : (value &&& 0xFF).setWidth 8 = value.extractLsb' 0 8 :=
    byte_of_shift (by decide) value 0
  simp only [Ps2MemoryMap.writeU16, low, byte_of_shift (show 8 ≤ 16 by decide)]
  rfl

theorem writeU32_outcome (separated : memory.Separated) (address : BitVec 32)
    (value : BitVec 32) :
    WriteOutcome memory address value (memory.writeU32 address value) := by
  apply writeOutcome_of_setSpanBytes separated
  have low : (value &&& 0xFF).setWidth 8 = value.extractLsb' 0 8 :=
    byte_of_shift (by decide) value 0
  simp only [Ps2MemoryMap.writeU32, low, byte_of_shift (show 8 ≤ 32 by decide)]
  rfl

end Writes

inductive MemoryWrite where
  | u8 (address : BitVec 32) (value : BitVec 8)
  | u16 (address : BitVec 32) (value : BitVec 16)
  | u32 (address : BitVec 32) (value : BitVec 32)
  deriving DecidableEq, Repr

def applyWrite (memory : Ps2MemoryMap) : MemoryWrite → Ps2MemoryMap
  | .u8 address value => (memory.writeU8 address value).2
  | .u16 address value => (memory.writeU16 address value).2
  | .u32 address value => (memory.writeU32 address value).2

/-- A sequence of writes, whatever each of them answers. -/
def applyWrites (memory : Ps2MemoryMap) (writes : List MemoryWrite) : Ps2MemoryMap :=
  writes.foldl applyWrite memory

/-- What a write of one width does, in terms of the read of that width. -/
structure WriteContract (memory : Ps2MemoryMap) (address : BitVec 32) {bits : Nat}
    (read : Ps2MemoryMap → Option (BitVec bits)) (value : BitVec bits)
    (outcome : Bool × Ps2MemoryMap) : Prop where
  mapped : outcome.1 = true ↔ memory.Maps address (bits / 8)
  readable : outcome.1 = true ↔ (read memory).isSome
  readBack : outcome.1 = true → read outcome.2 = some value
  frame : outcome.1 = true → ∀ other : BitVec 32,
    (other.toNat < address.toNat ∨ address.toNat + bits / 8 ≤ other.toNat) →
      outcome.2.readU8 other = memory.readU8 other
  failed : outcome.1 = false → outcome.2 = memory

/-- Guest memory as its callers see it. -/
structure IsByteStore (memory : Ps2MemoryMap) : Prop where
  mirrored : memory.regions = memory.backingRegions.map (·.metadata)
  sized : ∀ region ∈ memory.backingRegions,
    region.bytes.length = region.metadata.size.toNat
  spans : ∀ address length span, memory.translate address length = some span →
    ∃ region, memory.backingRegions[span.region]? = some region ∧
      span.length = length ∧ span.offset + length ≤ region.bytes.length
  half : ∀ address value, memory.readU16 address = some value →
    ∃ low high, memory.readU8 address = some low ∧
      memory.readU8 (address + 1) = some high ∧ value = ofBytes 16 [low, high]
  word : ∀ address value, memory.readU32 address = some value →
    ∃ first second third fourth, memory.readU8 address = some first ∧
      memory.readU8 (address + 1) = some second ∧
      memory.readU8 (address + 2) = some third ∧
      memory.readU8 (address + 3) = some fourth ∧
      value = ofBytes 32 [first, second, third, fourth]
  writeU8 : ∀ address value, WriteContract memory address (·.readU8 address) value
    (memory.writeU8 address value)
  writeU16 : ∀ address value, WriteContract memory address (·.readU16 address) value
    (memory.writeU16 address value)
  writeU32 : ∀ address value, WriteContract memory address (·.readU32 address) value
    (memory.writeU32 address value)

section Contracts

variable {memory : Ps2MemoryMap}

theorem Ps2MemoryMap.translate_congr {other : Ps2MemoryMap}
    (same : other.regions = memory.regions) (address : BitVec 32) (length : Nat) :
    other.translate address length = memory.translate address length := by
  unfold Ps2MemoryMap.translate
  rw [Ps2MemoryMap.translateFrom_congr
    ((other.mirrored.symm.trans same).trans memory.mirrored)]

/-- A write that stores its value satisfies the contract of its width. -/
theorem WriteOutcome.contract (separated : memory.Separated) {address : BitVec 32}
    {bits : Nat} {value : BitVec bits} {outcome : Bool × Ps2MemoryMap}
    (done : WriteOutcome memory address value outcome)
    {read : Ps2MemoryMap → Option (BitVec bits)} (whole : 8 * (bits / 8) = bits)
    (narrow : bits / 8 < 2 ^ 32)
    (loads : ∀ map : Ps2MemoryMap, map.Separated →
      read map = (map.translate address (bits / 8)).map fun _ => load map.view address bits) :
    WriteContract memory address read value outcome := by
  have mapped : (memory.translate address (bits / 8)).isSome ↔
      memory.Maps address (bits / 8) := Ps2MemoryMap.translate_isSome_iff
  have nextSeparated : outcome.2.Separated := by
    rw [Ps2MemoryMap.Separated, done.regions]
    exact separated
  refine ⟨done.answer, ?_, ?_, ?_, done.failed⟩
  · rw [done.answer, ← mapped, loads memory separated, Option.isSome_map]
  · intro succeeded
    obtain ⟨span, translated⟩ :=
      Option.isSome_iff_exists.mp (mapped.mpr (done.answer.mp succeeded))
    rw [loads _ nextSeparated, Ps2MemoryMap.translate_congr done.regions, translated,
      Option.map_some, done.done succeeded, load_store_self whole narrow]
  · intro succeeded other outside
    have fits := (done.answer.mp succeeded).1
    have untouched : outcome.2.view other = memory.view other := by
      rw [done.done succeeded, store, if_neg]
      intro inside
      rw [BitVec.toNat_sub] at inside
      have bound := address.isLt
      have otherBound := other.isLt
      omega
    rw [Ps2MemoryMap.readU8_eq nextSeparated, Ps2MemoryMap.readU8_eq separated,
      Ps2MemoryMap.translate_congr done.regions]
    have same : load outcome.2.view other 8 = load memory.view other 8 := by
      apply load_congr
      intro offset inside
      obtain rfl : offset = 0 := by omega
      rwa [BitVec.add_zero]
    rw [same]

theorem isByteStore_of_separated (separated : memory.Separated) : IsByteStore memory where
  mirrored := memory.mirrored
  sized region _ := region.sized
  spans address length span translated := by
    obtain ⟨region, locates, offset, same⟩ := Ps2MemoryMap.locates_of_translate translated
    refine ⟨region, locates.present, same, ?_⟩
    obtain ⟨start, stop⟩ := locates.spans
    rw [region.sized, offset]
    simp only [regionStart, regionEnd] at start stop ⊢
    omega
  half address value read := by
    rw [Ps2MemoryMap.readU16_eq separated] at read
    obtain ⟨span, translated, rfl⟩ := Option.map_eq_some_iff.mp read
    have byteAt : ∀ position < 2, memory.readU8 (address + BitVec.ofNat 32 position) =
        some (memory.view (address + BitVec.ofNat 32 position)) :=
      fun _ => Ps2MemoryMap.readU8_eq_some_view separated translated
    have first := byteAt 0 (by decide)
    rw [BitVec.add_zero] at first
    refine ⟨_, _, first, byteAt 1 (by decide), ?_⟩
    rw [load_eq_ofBytes _ _ rfl]
    simp [List.range_succ]
  word address value read := by
    rw [Ps2MemoryMap.readU32_eq separated] at read
    obtain ⟨span, translated, rfl⟩ := Option.map_eq_some_iff.mp read
    have byteAt : ∀ position < 4, memory.readU8 (address + BitVec.ofNat 32 position) =
        some (memory.view (address + BitVec.ofNat 32 position)) :=
      fun _ => Ps2MemoryMap.readU8_eq_some_view separated translated
    have first := byteAt 0 (by decide)
    rw [BitVec.add_zero] at first
    refine ⟨_, _, _, _, first, byteAt 1 (by decide), byteAt 2 (by decide),
      byteAt 3 (by decide), ?_⟩
    rw [load_eq_ofBytes _ _ rfl]
    simp [List.range_succ]
  writeU8 address value :=
    (writeU8_outcome separated address value).contract separated rfl (by decide)
      fun _ mapSeparated => Ps2MemoryMap.readU8_eq mapSeparated address
  writeU16 address value :=
    (writeU16_outcome separated address value).contract separated rfl (by decide)
      fun _ mapSeparated => Ps2MemoryMap.readU16_eq mapSeparated address
  writeU32 address value :=
    (writeU32_outcome separated address value).contract separated rfl (by decide)
      fun _ mapSeparated => Ps2MemoryMap.readU32_eq mapSeparated address

/-- A step keeps the regions, and a run keeps them by induction. -/
theorem applyWrite_regions (separated : memory.Separated) (write : MemoryWrite) :
    (applyWrite memory write).regions = memory.regions := by
  cases write with
  | u8 address value => exact (writeU8_outcome separated address value).regions
  | u16 address value => exact (writeU16_outcome separated address value).regions
  | u32 address value => exact (writeU32_outcome separated address value).regions

theorem applyWrites_regions (separated : memory.Separated) (writes : List MemoryWrite) :
    (applyWrites memory writes).regions = memory.regions := by
  induction writes generalizing memory with
  | nil => rfl
  | cons write writes ih =>
      have step := applyWrite_regions separated write
      have nextSeparated : (applyWrite memory write).Separated := by
        rw [Ps2MemoryMap.Separated, step]
        exact separated
      exact (ih nextSeparated).trans step

end Contracts

/-- The regions of a map built from an image are apart. -/
theorem separated_of_fromElf {allocation : BackingAllocation} {image : Ps2ElfImage}
    {memory : Ps2MemoryMap} (built : fromElf allocation image = .ok memory) :
    memory.Separated := by
  by_cases overflow : ∃ segment ∈ occupying image.loadSegments, segment.Overflows
  · rw [fromElf_overflow allocation overflow] at built
    cases built
  · have bounded : ∀ segment ∈ occupying image.loadSegments, ¬segment.Overflows :=
      fun segment member overflows => overflow ⟨segment, member, overflows⟩
    have occupy : ∀ segment ∈ occupying image.loadSegments, segment.memorySize ≠ 0 :=
      fun segment member => (mem_occupying.mp member).2
    obtain ⟨pending, contents, result, -⟩ := fromElf_bounded allocation bounded
    have arrangement := sortedArrangement_mergeSort pending
    rw [result] at built
    unfold buildSorted at built
    split at built
    · cases built
    · next clear =>
        have apart := (neighboursOverlap_sorted arrangement
          (pending_nonempty contents occupy)).mp (eq_false_of_ne_true clear)
        cases allocation with
        | success =>
            obtain rfl := Except.ok.inj built
            rw [Ps2MemoryMap.Separated, List.pairwise_map]
            exact (SortedIntervals.pairwise_apart_perm arrangement.permuted).mpr apart
        | badAlloc | lengthError => cases built

/-- A map built from an image stays a byte store over the same regions under every
sequence of writes. -/
theorem applyWrites_isByteStore (allocation : BackingAllocation) (image : Ps2ElfImage)
    (memory : Ps2MemoryMap) (built : fromElf allocation image = .ok memory)
    (writes : List MemoryWrite) :
    (applyWrites memory writes).regions = memory.regions ∧
      IsByteStore (applyWrites memory writes) := by
  have separated := separated_of_fromElf built
  have regions := applyWrites_regions separated writes
  refine ⟨regions, isByteStore_of_separated ?_⟩
  rw [Ps2MemoryMap.Separated, regions]
  exact separated

/-- A file with one load segment: four payload bytes and four zero bytes at
0x00100000. -/
def oneSegmentElf : List (BitVec 8) :=
  [0x7F, 0x45, 0x4C, 0x46, 1, 1, 1, 0, 0, 0, 0, 0, 0, 0, 0, 0] ++
  [2, 0, 8, 0, 1, 0, 0, 0, 0, 0, 0x10, 0, 52, 0, 0, 0] ++
  [0, 0, 0, 0, 0, 0, 0, 0, 52, 0, 32, 0, 1, 0, 0, 0, 0, 0, 0, 0] ++
  [1, 0, 0, 0, 84, 0, 0, 0, 0, 0, 0x10, 0, 0, 0, 0x10, 0] ++
  [4, 0, 0, 0, 8, 0, 0, 0, 5, 0, 0, 0, 0x10, 0, 0, 0] ++
  [0x0C, 0, 0, 0]

/-- A word across the end of the payload, and a byte right behind the region. -/
theorem applyWrites_isByteStore_oneSegmentElf :
    ∃ image memory, parsePs2Elf oneSegmentElf = .ok image ∧
      fromElf .success image = .ok memory ∧
      (applyWrites memory
          [.u32 0x00100002 0xAABBCCDD, .u8 0x00100008 1]).regions = memory.regions ∧
      IsByteStore (applyWrites memory [.u32 0x00100002 0xAABBCCDD, .u8 0x00100008 1]) := by
  have parses : (parsePs2Elf oneSegmentElf).toOption.map (fun image =>
      (collectPending image 0 image.loadSegments image.segmentsFit).toOption.map
        List.length) = some (some 1) := by
    decide +kernel
  obtain ⟨image, parsed, collects⟩ := Option.map_eq_some_iff.mp parses
  obtain ⟨pending, collected, single⟩ := Option.map_eq_some_iff.mp collects
  obtain ⟨region, rfl⟩ := List.length_eq_one_iff.mp single
  have built : fromElf .success image =
      .ok
        { regions := [region.metadata]
          backingRegions := [region.backing]
          mirrored := rfl } := by
    rw [fromElf, toOption_eq_some_iff.mp collected]
    change buildSorted .success ([region].mergeSort startsNoLater) = _
    rw [List.mergeSort_singleton]
    rfl
  exact ⟨image, _, toOption_eq_some_iff.mp parsed, built,
    applyWrites_isByteStore .success image _ built _⟩

end Burnout3Recompiled
