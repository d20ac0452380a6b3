import Mathlib.Data.BitVec

/-!
# Patterns of bits

A pattern fixes some bits of a word and leaves the others free.  A word is brought into a
pattern by filling in the fixed bits, which is how the words of a pattern are made and how
they are told.
-/

namespace Burnout3Recompiled

structure BitPattern (width : Nat) where
  mask : BitVec width
  value : BitVec width
  inside : value &&& mask = value

namespace BitPattern

variable {width : Nat}

def Matches (pattern : BitPattern width) (word : BitVec width) : Prop :=
  word &&& pattern.mask = pattern.value

instance (pattern : BitPattern width) (word : BitVec width) :
    Decidable (pattern.Matches word) :=
  inferInstanceAs (Decidable (_ = _))

/-- The word with the bits of the pattern filled in. -/
def fill (pattern : BitPattern width) (word : BitVec width) : BitVec width :=
  word &&& ~~~pattern.mask ||| pattern.value

/-- The bits at a place. -/
def field (low value : BitVec width) (shift : Nat) (inside : value &&& low = value) :
    BitPattern width where
  mask := low <<< shift
  value := value <<< shift
  inside := by rw [← BitVec.shiftLeft_and_distrib, inside]

/-- Both patterns, for patterns of different bits. -/
def both (first second : BitPattern width) : BitPattern width where
  mask := first.mask ||| second.mask
  value := first.value ||| second.value
  inside := by
    ext index inside
    have firstInside := congrArg (·[index]) first.inside
    have secondInside := congrArg (·[index]) second.inside
    simp only [BitVec.getElem_and, BitVec.getElem_or] at firstInside secondInside ⊢
    revert firstInside secondInside
    cases first.value[index] <;> cases second.value[index] <;> simp_all

section Words

variable {pattern first second : BitPattern width} {word : BitVec width}

/-- What is filled in matches. -/
theorem matches_fill (pattern : BitPattern width) (word : BitVec width) :
    pattern.Matches (pattern.fill word) := by
  rw [Matches, fill]
  ext index inside
  have fixed := congrArg (·[index]) pattern.inside
  simp only [BitVec.getElem_and, BitVec.getElem_or, BitVec.getElem_not] at fixed ⊢
  revert fixed
  cases pattern.mask[index] <;> cases pattern.value[index] <;> simp

/-- The free bits stay. -/
theorem fill_and_not_mask (pattern : BitPattern width) (word : BitVec width) :
    pattern.fill word &&& ~~~pattern.mask = word &&& ~~~pattern.mask := by
  rw [fill]
  ext index inside
  have fixed := congrArg (·[index]) pattern.inside
  simp only [BitVec.getElem_and, BitVec.getElem_or, BitVec.getElem_not] at fixed ⊢
  revert fixed
  cases pattern.mask[index] <;> cases pattern.value[index] <;> simp

/-- Nothing changes in a word that matches. -/
theorem Matches.fill_eq (matched : pattern.Matches word) : pattern.fill word = word := by
  rw [fill, ← matched]
  ext index inside
  simp only [BitVec.getElem_and, BitVec.getElem_or, BitVec.getElem_not]
  cases pattern.mask[index] <;> simp

theorem matches_both (apart : first.mask &&& second.mask = 0) :
    (first.both second).Matches word ↔ first.Matches word ∧ second.Matches word := by
  simp only [Matches, both, BitVec.eq_of_getElem_eq_iff, BitVec.getElem_and,
    BitVec.getElem_or]
  rw [← forall_and]
  refine forall_congr' fun index => ?_
  rw [← forall_and]
  refine forall_congr' fun inside => ?_
  have different := congrArg (·[index]) apart
  have firstInside := congrArg (·[index]) first.inside
  have secondInside := congrArg (·[index]) second.inside
  simp only [BitVec.getElem_and] at different firstInside secondInside
  revert different firstInside secondInside
  cases first.mask[index] <;> cases second.mask[index] <;> cases first.value[index] <;>
    cases second.value[index] <;> simp

/-- A field of a word has its value exactly when the word matches. -/
theorem matches_field {low value : BitVec width} {shift : Nat} {inside : value &&& low = value}
    (fits : low <<< shift >>> shift = low) :
    (field low value shift inside).Matches word ↔ word >>> shift &&& low = value := by
  have lifted : (word >>> shift &&& low) <<< shift = word &&& low <<< shift := by
    apply BitVec.eq_of_getLsbD_eq
    intro index bound
    simp only [BitVec.getLsbD_and, BitVec.getLsbD_shiftLeft, BitVec.getLsbD_ushiftRight]
    by_cases before : index < shift
    · simp [before]
    · simp [before, bound, show shift + (index - shift) = index by omega]
  have restored (bits : BitVec width) :
      (bits &&& low) <<< shift >>> shift = bits &&& low := by
    apply BitVec.eq_of_getLsbD_eq
    intro index bound
    have kept := congrArg (·.getLsbD index) fits
    simp only [BitVec.getLsbD_and, BitVec.getLsbD_ushiftRight, BitVec.getLsbD_shiftLeft,
      Nat.add_sub_cancel_left] at kept ⊢
    rw [← kept]
    cases bits.getLsbD index <;> simp
  change word &&& low <<< shift = value <<< shift ↔ _
  rw [← lifted, ← inside]
  refine ⟨fun same => ?_, fun same => by rw [same]⟩
  have shifted := congrArg (fun bits : BitVec width => bits >>> shift) same
  simpa only [restored] using shifted

end Words

end BitPattern

end Burnout3Recompiled
