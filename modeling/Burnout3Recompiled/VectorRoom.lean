import Mathlib.Tactic.Common

/-!
# Room for vectors

A vector holds no more elements than its type allows, and the allocator may refuse the
memory for fewer.  A refused request throws and leaves nothing behind.
-/

namespace Burnout3Recompiled

inductive StdException where
  | lengthError | badAlloc
  deriving DecidableEq, Repr

/-- How many elements a vector may hold, and what the allocator answers to each request. -/
structure VectorRoom where
  maxSize : Nat
  allocates : Nat → Bool

namespace VectorRoom

/-- The allocator grants all that a vector may ask for. -/
def granting (maxSize : Nat) : VectorRoom where
  maxSize := maxSize
  allocates _ := true

/-- An empty vector makes room for `count` elements. -/
def reserve (room : VectorRoom) (request count : Nat) : Except StdException Unit :=
  if room.maxSize < count then .error .lengthError
  else if count = 0 ∨ room.allocates request then .ok ()
  else .error .badAlloc

variable {room : VectorRoom} {request count maxSize : Nat}

theorem reserve_eq_lengthError_iff :
    room.reserve request count = .error .lengthError ↔ room.maxSize < count := by
  unfold reserve
  split
  · next above => exact iff_of_true rfl above
  · next fits =>
      refine iff_of_false ?_ fits
      split <;> exact fun same => by cases same

theorem reserve_eq_badAlloc_iff (positive : count ≠ 0) :
    room.reserve request count = .error .badAlloc ↔
      count ≤ room.maxSize ∧ room.allocates request = false := by
  unfold reserve
  split
  · next above =>
      refine iff_of_false (fun same => by cases same) ?_
      exact fun fits => absurd fits.1 (Nat.not_le_of_lt above)
  · next fits => simp [positive, Nat.le_of_not_lt fits]

theorem reserve_eq_ok_iff (positive : count ≠ 0) :
    room.reserve request count = .ok () ↔
      count ≤ room.maxSize ∧ room.allocates request = true := by
  unfold reserve
  split
  · next above =>
      refine iff_of_false (fun same => by cases same) ?_
      exact fun fits => absurd fits.1 (Nat.not_le_of_lt above)
  · next fits => simp [positive, Nat.le_of_not_lt fits]

/-- Whether such a request is answered with room. -/
def grants (room : VectorRoom) (request count : Nat) : Bool :=
  (room.reserve request count).isOk

theorem reserve_granting (fits : count ≤ maxSize) :
    (granting maxSize).reserve request count = .ok () := by
  simp [reserve, granting, Nat.not_lt_of_le fits]

end VectorRoom

end Burnout3Recompiled
