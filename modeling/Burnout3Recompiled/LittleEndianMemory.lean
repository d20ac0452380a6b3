import Mathlib.Data.Nat.Bitwise
import Mathlib.Tactic.Common

/-!
# Little-endian byte memory

A total memory maps every address of a fixed width to a byte.  Words of any
whole number of bytes are loaded and stored little-endian, and addresses wrap.
The rules below describe a load after a store when the two agree, when they are
apart, and when the store covers one half of the load.
-/

namespace Burnout3Recompiled

/-- Byte memory over addresses of `width` bits. -/
abbrev LittleEndianMemory (width : Nat) :=
  BitVec width → BitVec 8

namespace LittleEndianMemory

variable {width : Nat}

/-- The number spelled by `count` bytes from `address` on. -/
def loadNat (memory : LittleEndianMemory width) (address : BitVec width) :
    Nat → Nat
  | 0 => 0
  | count + 1 => 2 ^ 8 * loadNat memory (address + 1) count + (memory address).toNat

def load (memory : LittleEndianMemory width) (address : BitVec width)
    (bits : Nat) : BitVec bits :=
  BitVec.ofNat bits (loadNat memory address (bits / 8))

def store (memory : LittleEndianMemory width) (address : BitVec width)
    {bits : Nat} (value : BitVec bits) : LittleEndianMemory width :=
  fun other =>
    if (other - address).toNat < bits / 8 then
      value.extractLsb' (8 * (other - address).toNat) 8
    else memory other

theorem testBit_loadNat (memory : LittleEndianMemory width)
    (address : BitVec width) (count bit : Nat) :
    (loadNat memory address count).testBit bit =
      (decide (bit < 8 * count) &&
        (memory (address + BitVec.ofNat width (bit / 8))).getLsbD (bit % 8)) := by
  induction count generalizing address bit with
  | zero => simp [loadNat]
  | succ count ih =>
      rw [loadNat, Nat.testBit_two_pow_mul_add _ (memory address).isLt]
      by_cases low : bit < 8
      · have bounded : bit < 8 * (count + 1) := by omega
        rw [if_pos low, BitVec.testBit_toNat, Nat.div_eq_of_lt low,
          Nat.mod_eq_of_lt low]
        simp [bounded]
      · have nextByte : address + 1 + BitVec.ofNat width ((bit - 8) / 8) =
            address + BitVec.ofNat width (bit / 8) := by
          have quotient : bit / 8 = 1 + (bit - 8) / 8 := by omega
          rw [quotient, BitVec.ofNat_add, ← BitVec.add_assoc]
          rfl
        have sameBit : (bit - 8) % 8 = bit % 8 := by omega
        have sameBound : bit - 8 < 8 * count ↔ bit < 8 * (count + 1) := by omega
        rw [if_neg low, ih, nextByte, sameBit]
        simp only [sameBound]

theorem getLsbD_load {memory : LittleEndianMemory width}
    {address : BitVec width} {bits bit : Nat} (whole : 8 * (bits / 8) = bits)
    (inside : bit < bits) :
    (load memory address bits).getLsbD bit =
      (memory (address + BitVec.ofNat width (bit / 8))).getLsbD (bit % 8) := by
  rw [load, BitVec.getLsbD_ofNat, testBit_loadNat, whole]
  simp [inside]

theorem loadNat_congr {first second : LittleEndianMemory width}
    {address : BitVec width} {count : Nat}
    (same : ∀ offset < count,
      first (address + BitVec.ofNat width offset) =
        second (address + BitVec.ofNat width offset)) :
    loadNat first address count = loadNat second address count := by
  induction count generalizing address with
  | zero => rfl
  | succ count ih =>
      have head := same 0 (Nat.zero_lt_succ count)
      have tail : loadNat first (address + 1) count = loadNat second (address + 1) count := by
        apply ih
        intro offset inside
        have next : address + 1 + BitVec.ofNat width offset =
            address + BitVec.ofNat width (offset + 1) := by
          rw [Nat.add_comm offset 1, BitVec.ofNat_add, ← BitVec.add_assoc]
          rfl
        rw [next]
        exact same (offset + 1) (Nat.succ_lt_succ inside)
      rw [BitVec.add_zero] at head
      rw [loadNat, loadNat, tail, head]

/-- A load depends on its own bytes only. -/
theorem load_congr {first second : LittleEndianMemory width}
    {address : BitVec width} {bits : Nat}
    (same : ∀ offset < bits / 8,
      first (address + BitVec.ofNat width offset) =
        second (address + BitVec.ofNat width offset)) :
    load first address bits = load second address bits :=
  congrArg (BitVec.ofNat bits) (loadNat_congr same)

/-- The low part of a load is the shorter load at the same address. -/
theorem extractLsb'_load_low (memory : LittleEndianMemory width)
    (address : BitVec width) (bits part : Nat) (whole : 8 * (bits / 8) = bits)
    (partWhole : 8 * (part / 8) = part) (shorter : part ≤ bits) :
    (load memory address bits).extractLsb' 0 part = load memory address part := by
  apply BitVec.eq_of_getLsbD_eq
  intro bit inside
  rw [BitVec.getLsbD_extractLsb', getLsbD_load partWhole inside, Nat.zero_add,
    getLsbD_load whole (by omega)]
  simp [inside]

/-- A later part of a load is the load of its bytes. -/
theorem extractLsb'_load (memory : LittleEndianMemory width)
    (address : BitVec width) (bits skipped part : Nat)
    (whole : 8 * (bits / 8) = bits) (partWhole : 8 * (part / 8) = part)
    (fits : 8 * skipped + part ≤ bits) :
    (load memory address bits).extractLsb' (8 * skipped) part =
      load memory (address + BitVec.ofNat width skipped) part := by
  apply BitVec.eq_of_getLsbD_eq
  intro bit inside
  have laterByte : address + BitVec.ofNat width ((8 * skipped + bit) / 8) =
      address + BitVec.ofNat width skipped + BitVec.ofNat width (bit / 8) := by
    have quotient : (8 * skipped + bit) / 8 = skipped + bit / 8 := by omega
    rw [quotient, BitVec.ofNat_add, BitVec.add_assoc]
  have sameBit : (8 * skipped + bit) % 8 = bit % 8 := by omega
  rw [BitVec.getLsbD_extractLsb', getLsbD_load partWhole inside,
    getLsbD_load whole (by omega), laterByte, sameBit]
  simp [inside]

/-- The address `offset` bytes past `base`: the fields of one object are addressed from a
common base. -/
def displaced (base : BitVec width) (offset : Nat) : BitVec width :=
  base + BitVec.ofNat width offset

theorem displaced_add (base : BitVec width) (first second : Nat) :
    displaced base (first + second) = displaced (displaced base first) second := by
  simp only [displaced, BitVec.ofNat_add, BitVec.add_assoc]

theorem toNat_displaced_sub (base : BitVec width) (offset byte : Nat)
    (offsetFits : offset < 2 ^ width) (byteFits : byte < 2 ^ width) :
    (displaced base byte - displaced base offset).toNat =
      if offset ≤ byte then byte - offset else byte + 2 ^ width - offset := by
  have cancelled : displaced base byte - displaced base offset =
      BitVec.ofNat width byte - BitVec.ofNat width offset := by
    simp only [displaced]
    rw [BitVec.sub_eq_add_neg, BitVec.neg_add, BitVec.sub_eq_add_neg,
      BitVec.sub_eq_add_neg]
    calc
      base + BitVec.ofNat width byte + (-base + -BitVec.ofNat width offset) =
          (base + -base) + (BitVec.ofNat width byte + -BitVec.ofNat width offset) := by
        ac_rfl
      _ = BitVec.ofNat width byte + -BitVec.ofNat width offset := by
        rw [BitVec.add_neg_eq_sub, BitVec.sub_self, BitVec.zero_add]
  rw [cancelled, BitVec.toNat_sub, BitVec.toNat_ofNat, BitVec.toNat_ofNat,
    Nat.mod_eq_of_lt offsetFits, Nat.mod_eq_of_lt byteFits]
  split
  · next ordered =>
      have wrapped : 2 ^ width - offset + byte = (byte - offset) + 2 ^ width := by
        omega
      rw [wrapped, Nat.add_mod_right, Nat.mod_eq_of_lt (by omega)]
  · next reversed =>
      rw [Nat.mod_eq_of_lt (by omega)]
      omega

section Offsets

variable {memory : LittleEndianMemory width} {base : BitVec width}

/-- The byte at an offset after a store to a range of offsets. -/
theorem store_displaced {bits offset byte : Nat} {value : BitVec bits}
    (offsetFits : offset + bits / 8 < 2 ^ width) (byteFits : byte < 2 ^ width) :
    store memory (displaced base offset) value (displaced base byte) =
      if offset ≤ byte ∧ byte < offset + bits / 8 then
        value.extractLsb' (8 * (byte - offset)) 8
      else memory (displaced base byte) := by
  have distance := toNat_displaced_sub base offset byte (by omega) byteFits
  unfold store
  by_cases ordered : offset ≤ byte
  · rw [if_pos ordered] at distance
    rw [distance]
    by_cases inside : byte - offset < bits / 8
    · rw [if_pos inside, if_pos ⟨ordered, by omega⟩]
    · rw [if_neg inside, if_neg (by omega)]
  · rw [if_neg ordered] at distance
    rw [if_neg (by omega), if_neg (fun range => ordered range.1)]

/-- A load of a range the store does not meet. -/
theorem load_store_disjoint {bits offset loadBits loadOffset : Nat}
    {value : BitVec bits} (offsetFits : offset + bits / 8 < 2 ^ width)
    (loadFits : loadOffset + loadBits / 8 < 2 ^ width)
    (apart : loadOffset + loadBits / 8 ≤ offset ∨
      offset + bits / 8 ≤ loadOffset) :
    load (store memory (displaced base offset) value)
        (displaced base loadOffset) loadBits =
      load memory (displaced base loadOffset) loadBits := by
  apply load_congr
  intro byte inside
  have address : displaced base loadOffset + BitVec.ofNat width byte =
      displaced base (loadOffset + byte) := (displaced_add base loadOffset byte).symm
  rw [address, store_displaced offsetFits (by omega), if_neg (by omega)]

/-- The bits of a load after a store to a part of its range. -/
theorem getLsbD_load_store {bits loadBits offset skipped bit : Nat}
    {value : BitVec bits} (whole : 8 * (bits / 8) = bits)
    (loadWhole : 8 * (loadBits / 8) = loadBits)
    (part : 8 * skipped + bits ≤ loadBits)
    (offsetFits : offset + loadBits / 8 < 2 ^ width) (inside : bit < loadBits) :
    (load (store memory (displaced base (offset + skipped)) value)
        (displaced base offset) loadBits).getLsbD bit =
      if 8 * skipped ≤ bit ∧ bit < 8 * skipped + bits then
        value.getLsbD (bit - 8 * skipped)
      else (load memory (displaced base offset) loadBits).getLsbD bit := by
  have address : displaced base offset + BitVec.ofNat width (bit / 8) =
      displaced base (offset + bit / 8) := (displaced_add base offset _).symm
  rw [getLsbD_load loadWhole inside, getLsbD_load loadWhole inside, address,
    store_displaced (by omega) (by omega)]
  by_cases covered : 8 * skipped ≤ bit ∧ bit < 8 * skipped + bits
  · have split : 8 * (offset + bit / 8 - (offset + skipped)) + bit % 8 =
        bit - 8 * skipped := by omega
    have small : bit % 8 < 8 := by omega
    rw [if_pos covered, if_pos (by omega), BitVec.getLsbD_extractLsb', split]
    simp only [small, decide_true, Bool.true_and]
  · rw [if_neg covered, if_neg (by omega)]

/-- A load of exactly the stored range. -/
theorem load_store_same {bits offset : Nat} {value : BitVec bits}
    (whole : 8 * (bits / 8) = bits)
    (offsetFits : offset + bits / 8 < 2 ^ width) :
    load (store memory (displaced base offset) value) (displaced base offset) bits =
      value := by
  apply BitVec.eq_of_getLsbD_eq
  intro bit inside
  have covered : (load (store memory (displaced base (offset + 0)) value)
      (displaced base offset) bits).getLsbD bit = _ :=
    getLsbD_load_store whole whole (by omega) offsetFits inside
  simpa [inside] using covered

/-- Loading back what has just been stored. -/
theorem load_store_self {bits : Nat} {address : BitVec width} {value : BitVec bits}
    (whole : 8 * (bits / 8) = bits) (fits : bits / 8 < 2 ^ width) :
    load (store memory address value) address bits = value := by
  have same : load (store memory (displaced address 0) value) (displaced address 0) bits =
      value := load_store_same whole (by omega)
  rwa [displaced, BitVec.add_zero] at same

end Offsets

/-- The bytes of a word in memory order. -/
def bytesOf {bits : Nat} (value : BitVec bits) (count : Nat) : List (BitVec 8) :=
  (List.range count).map fun byte => value.extractLsb' (8 * byte) 8

/-- The word a byte sequence spells. -/
def ofBytes (bits : Nat) : List (BitVec 8) → BitVec bits
  | [] => 0
  | byte :: bytes => byte.setWidth bits ||| (ofBytes bits bytes <<< 8)

theorem getLsbD_ofBytes {bits bit : Nat} {bytes : List (BitVec 8)}
    (inside : bit < bits) :
    (ofBytes bits bytes).getLsbD bit =
      (bytes[bit / 8]?.getD 0).getLsbD (bit % 8) := by
  induction bytes generalizing bit with
  | nil => simp [ofBytes]
  | cons byte bytes ih =>
      rw [ofBytes, BitVec.getLsbD_or, BitVec.getLsbD_setWidth,
        BitVec.getLsbD_shiftLeft]
      by_cases low : bit < 8
      · simp [low, inside, Nat.div_eq_of_lt low, Nat.mod_eq_of_lt low]
      · have quotient : bit / 8 = (bit - 8) / 8 + 1 := by omega
        have sameBit : (bit - 8) % 8 = bit % 8 := by omega
        have noLowBit : byte.getLsbD bit = false :=
          BitVec.getLsbD_of_ge _ _ (by omega)
        rw [ih (by omega), quotient, List.getElem?_cons_succ, sameBit, noLowBit]
        simp [low, inside]

theorem ofBytes_bytesOf {bits count : Nat} (value : BitVec bits)
    (whole : 8 * count = bits) : ofBytes bits (bytesOf value count) = value := by
  apply BitVec.eq_of_getLsbD_eq
  intro bit inside
  have byteInside : bit / 8 < count := by omega
  have split : 8 * (bit / 8) + bit % 8 = bit := by omega
  have small : bit % 8 < 8 := by omega
  rw [getLsbD_ofBytes inside]
  simp only [bytesOf, List.getElem?_map, List.getElem?_range byteInside,
    Option.map_some, Option.getD_some, BitVec.getLsbD_extractLsb', small,
    decide_true, Bool.true_and, split]

/-- A load spells the bytes it finds. -/
theorem load_eq_ofBytes (memory : LittleEndianMemory width) (address : BitVec width)
    {bits : Nat} (whole : 8 * (bits / 8) = bits) :
    load memory address bits =
      ofBytes bits ((List.range (bits / 8)).map fun offset =>
        memory (address + BitVec.ofNat width offset)) := by
  apply BitVec.eq_of_getLsbD_eq
  intro bit inside
  have byteInside : bit / 8 < bits / 8 := by omega
  rw [getLsbD_load whole inside, getLsbD_ofBytes inside, List.getElem?_map,
    List.getElem?_range byteInside, Option.map_some, Option.getD_some]

/-- The bytes of a list from `address` on. -/
def storeBytes (memory : LittleEndianMemory width) (address : BitVec width)
    (bytes : List (BitVec 8)) : LittleEndianMemory width :=
  fun other => bytes[(other - address).toNat]?.getD (memory other)

@[simp]
theorem storeBytes_nil (memory : LittleEndianMemory width) (address : BitVec width) :
    storeBytes memory address [] = memory :=
  rfl

/-- A word is stored byte by byte. -/
theorem store_eq_storeBytes (memory : LittleEndianMemory width) (address : BitVec width)
    {bits : Nat} (value : BitVec bits) :
    store memory address value = storeBytes memory address (bytesOf value (bits / 8)) := by
  ext1 other
  rw [store, storeBytes, bytesOf, List.getElem?_map]
  split
  · next inside => rw [List.getElem?_range inside]; rfl
  · next outside =>
      rw [List.getElem?_eq_none (by rw [List.length_range]; omega)]
      rfl

theorem storeBytes_concat (memory : LittleEndianMemory width) (address : BitVec width)
    {bytes : List (BitVec 8)} (byte : BitVec 8) (fits : bytes.length < 2 ^ width) :
    storeBytes memory address (bytes ++ [byte]) =
      Function.update (storeBytes memory address bytes)
        (address + BitVec.ofNat width bytes.length) byte := by
  ext1 other
  have place : other = address + BitVec.ofNat width bytes.length ↔
      (other - address).toNat = bytes.length := by
    rw [BitVec.add_comm, ← BitVec.sub_eq_iff_eq_add, ← BitVec.toNat_inj,
      BitVec.toNat_ofNat, Nat.mod_eq_of_lt fits]
  rw [storeBytes, Function.update_apply, storeBytes]
  split
  · next last =>
      rw [place.mp last, List.getElem?_concat_length]
      rfl
  · next different =>
      rcases Nat.lt_or_gt_of_ne (mt place.mpr different) with before | after
      · rw [List.getElem?_append_left before]
      · rw [List.getElem?_eq_none (by rw [List.length_append, List.length_singleton]; omega),
          List.getElem?_eq_none (Nat.le_of_lt after)]

end LittleEndianMemory

end Burnout3Recompiled
