import Mathlib.Algebra.Order.Field.Basic
import Mathlib.Algebra.Order.Floor.Semiring
import Mathlib.Tactic.Linarith
import Mathlib.Tactic.Ring

/-!
# Slots at equal distances

The slots of a timeline stand at equal distances from its origin, in both directions.
From a slot on, the first one that also lies after a given time is found by counting how
many whole periods fit in between.
-/

namespace Burnout3Recompiled

namespace SlotGrid

variable {α : Type*} [Field α]

def slot (origin period : α) (index : ℤ) : α :=
  origin + index * period

def slots (origin period : α) : Set α :=
  Set.range (slot origin period)

theorem slot_add (origin period : α) (index count : ℤ) :
    slot origin period (index + count) = slot origin period index + count * period := by
  simp only [slot, Int.cast_add]
  ring

section Order

variable [LinearOrder α]

/-- The first slot that lies after both times. -/
def IsNextSlot (origin period previous now next : α) : Prop :=
  IsLeast {time | time ∈ slots origin period ∧ previous < time ∧ now < time} next

variable [IsStrictOrderedRing α] {origin period : α} {index : ℤ}

theorem slot_lt_slot_iff (positive : 0 < period) {first second : ℤ} :
    slot origin period first < slot origin period second ↔ first < second := by
  rw [slot, slot, add_lt_add_iff_left, mul_lt_mul_iff_left₀ positive, Int.cast_lt]

/-- Later slots are whole periods away. -/
theorem exists_nat_of_lt_slot (positive : 0 < period) {later : ℤ}
    (after : slot origin period index < slot origin period later) :
    ∃ count : ℕ, 0 < count ∧
      slot origin period later = slot origin period index + count * period := by
  have before : index < later := (slot_lt_slot_iff positive).mp after
  obtain ⟨count, apart⟩ := Int.eq_ofNat_of_zero_le (Int.sub_nonneg.mpr before.le)
  refine ⟨count, by omega, ?_⟩
  have sum : later = index + count := by omega
  rw [sum, slot_add, Int.cast_natCast]

end Order

section Floor

variable [LinearOrder α] [FloorSemiring α]

/-- The whole periods from `previous` to `now`, none when `now` is not later. -/
def periodsLate (period previous now : α) : ℕ :=
  ⌊(now - previous) / period⌋₊

/-- The time a whole number of periods after `previous` that is the first one past
`now`. -/
def slotAfter (period previous now : α) : α :=
  previous + (periodsLate period previous now + 1 : ℕ) * period

variable {origin period previous now : α} {index : ℤ}

theorem slotAfter_slot :
    slotAfter period (slot origin period index) now =
      slot origin period
        (index + (periodsLate period (slot origin period index) now + 1 : ℕ)) := by
  rw [slot_add, slotAfter, Int.cast_natCast]

variable [IsStrictOrderedRing α]

theorem periodsLate_eq_zero_iff (positive : 0 < period) :
    periodsLate period previous now = 0 ↔ now < previous + period := by
  rw [periodsLate, Nat.floor_eq_zero, div_lt_one positive, sub_lt_iff_lt_add']

theorem periodsLate_of_late (positive : 0 < period) (late : previous + period ≤ now) :
    periodsLate period previous now = periodsLate period (previous + period) now + 1 := by
  have missed : periodsLate period previous now ≠ 0 :=
    mt (periodsLate_eq_zero_iff positive).mp late.not_gt
  have quotient : (now - (previous + period)) / period = (now - previous) / period - 1 := by
    rw [← sub_sub, sub_div, div_self positive.ne']
  have one : periodsLate period (previous + period) now =
      periodsLate period previous now - 1 := by
    rw [periodsLate, quotient, Nat.floor_sub_one, periodsLate]
  omega

theorem slotAfter_of_late (positive : 0 < period) (late : previous + period ≤ now) :
    slotAfter period previous now = slotAfter period (previous + period) now := by
  rw [slotAfter, slotAfter, periodsLate_of_late positive late]
  push_cast
  ring

/-- Exactly when `now` lies before the next period, no more than one is needed. -/
theorem slotAfter_eq_add_iff (positive : 0 < period) :
    slotAfter period previous now = previous + period ↔ now < previous + period := by
  rw [← periodsLate_eq_zero_iff positive, slotAfter, add_right_inj]
  constructor
  · intro one
    have count := (mul_eq_right₀ positive.ne').mp one
    have exact : periodsLate period previous now + 1 = 1 := Nat.cast_eq_one.mp count
    omega
  · intro none
    rw [none, Nat.zero_add, Nat.cast_one, one_mul]

theorem lt_slotAfter (positive : 0 < period) : now < slotAfter period previous now := by
  have bound := Nat.lt_floor_add_one ((now - previous) / period)
  rw [div_lt_iff₀ positive] at bound
  rw [slotAfter, periodsLate]
  push_cast
  linarith

theorem slotAfter_le {count : ℕ} (positive : 0 < period) (moves : 0 < count)
    (later : now < previous + count * period) :
    slotAfter period previous now ≤ previous + count * period := by
  have quotient : (now - previous) / period < count := by
    rw [div_lt_iff₀ positive]
    linarith
  have floor : periodsLate period previous now < count :=
    (Nat.floor_lt' moves.ne').mpr quotient
  have casts : ((periodsLate period previous now + 1 : ℕ) : α) ≤ count :=
    Nat.cast_le.mpr floor
  have scaled := mul_le_mul_of_nonneg_right casts positive.le
  exact add_le_add_right scaled previous

/-- Counting periods from a slot finds the next slot. -/
theorem isNextSlot_slotAfter (positive : 0 < period) :
    IsNextSlot origin period (slot origin period index) now
      (slotAfter period (slot origin period index) now) := by
  constructor
  · refine ⟨⟨_, slotAfter_slot.symm⟩, ?_, lt_slotAfter positive⟩
    rw [slotAfter_slot]
    apply (slot_lt_slot_iff positive).mpr
    omega
  · rintro time ⟨⟨later, rfl⟩, after, past⟩
    obtain ⟨count, moves, place⟩ := exists_nat_of_lt_slot positive after
    rw [place] at past ⊢
    exact slotAfter_le positive moves past

end Floor

end SlotGrid

end Burnout3Recompiled
