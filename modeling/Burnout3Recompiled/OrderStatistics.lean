import Mathlib.Algebra.BigOperators.Group.List.Basic
import Mathlib.Algebra.Order.BigOperators.Group.List
import Mathlib.Algebra.Order.Field.Basic
import Mathlib.Data.List.Sort
import Mathlib.Tactic.Linarith
import Mathlib.Tactic.Ring

/-!
# Order statistics

The value at a place of a sorted list is known by how many values lie above a bound, and
so it does not depend on the order in which the values have come.  The sum of the squared
distances from the mean is bounded by the distances of the mean from the extremes.
-/

namespace Burnout3Recompiled

namespace OrderStatistics

section Order

variable {α : Type*} [LinearOrder α] {values others : List α} {bound other : α}

def countAbove (bound : α) (values : List α) : Nat :=
  values.countP (bound < ·)

theorem countAbove_cons (bound value : α) (values : List α) :
    countAbove bound (value :: values) =
      countAbove bound values + if bound < value then 1 else 0 := by
  simp [countAbove, List.countP_cons]

theorem countAbove_le_length (bound : α) (values : List α) :
    countAbove bound values ≤ values.length :=
  List.countP_le_length

theorem countAbove_perm (permuted : values.Perm others) (bound : α) :
    countAbove bound values = countAbove bound others :=
  permuted.countP_eq _

/-- Fewer values lie above a larger bound. -/
theorem countAbove_antitone (values : List α) : Antitone (countAbove · values) := by
  intro first second ordered
  apply List.countP_mono_left
  intro value _ above
  rw [decide_eq_true_eq] at above ⊢
  exact lt_of_le_of_lt ordered above

theorem countAbove_eq_length (above : ∀ value ∈ values, bound < value) :
    countAbove bound values = values.length :=
  List.countP_eq_length.mpr fun value member => decide_eq_true (above value member)

theorem countAbove_eq_zero_iff :
    countAbove bound values = 0 ↔ ∀ value ∈ values, value ≤ bound := by
  simp [countAbove, List.countP_eq_zero]

/-- The value at a place lies above a bound exactly when enough values do. -/
theorem lt_getElem_iff (sorted : values.Pairwise (· ≤ ·)) {index : Nat}
    (inside : index < values.length) :
    bound < values[index] ↔ values.length ≤ index + countAbove bound values := by
  induction values generalizing index with
  | nil => cases inside
  | cons value values ih =>
      obtain ⟨least, sortedRest⟩ := List.pairwise_cons.mp sorted
      have few := countAbove_le_length bound values
      rw [countAbove_cons, List.length_cons]
      by_cases above : bound < value
      · -- all values lie above the bound
        have all : ∀ later ∈ value :: values, bound < later := by
          rw [List.forall_mem_cons]
          exact ⟨above, fun later member => lt_of_lt_of_le above (least later member)⟩
        rw [if_pos above,
          countAbove_eq_length fun later member => all later (List.mem_cons_of_mem _ member)]
        exact iff_of_true (all _ (List.getElem_mem inside)) (Nat.le_add_left _ _)
      · rw [if_neg above]
        cases index with
        | zero => exact iff_of_false above (by omega)
        | succ index =>
            rw [List.getElem_cons_succ, ih sortedRest (Nat.lt_of_succ_lt_succ inside)]
            omega

theorem getElem_le_iff (sorted : values.Pairwise (· ≤ ·)) {index : Nat}
    (inside : index < values.length) :
    values[index] ≤ bound ↔ index + countAbove bound values < values.length := by
  rw [← not_lt, lt_getElem_iff sorted inside, Nat.not_le]

/-- A loop that keeps the smaller value. -/
theorem isLeast_foldl (first : α) (rest : List α) :
    IsLeast {value | value ∈ first :: rest}
      (rest.foldl (fun smallest value => if value < smallest then value else smallest)
        first) := by
  induction rest generalizing first with
  | nil =>
      refine ⟨List.mem_singleton_self _, ?_⟩
      exact fun value member => le_of_eq (List.mem_singleton.mp member).symm
  | cons second rest ih =>
      obtain ⟨member, least⟩ := ih (if second < first then second else first)
      have both : (if second < first then second else first) ≤ first ∧
          (if second < first then second else first) ≤ second := by
        split
        · next smaller => exact ⟨smaller.le, le_refl _⟩
        · next larger => exact ⟨le_refl _, not_lt.mp larger⟩
      have head := least (List.mem_cons_self ..)
      constructor
      · rcases List.mem_cons.mp member with same | later
        · rw [List.foldl_cons, same]
          split <;> simp
        · exact List.mem_cons_of_mem _ (List.mem_cons_of_mem _ later)
      · intro value inValues
        rcases List.mem_cons.mp inValues with rfl | inRest
        · exact head.trans both.1
        · rcases List.mem_cons.mp inRest with rfl | later
          · exact head.trans both.2
          · exact least (List.mem_cons_of_mem _ later)

theorem isGreatest_foldl (first : α) (rest : List α) :
    IsGreatest {value | value ∈ first :: rest}
      (rest.foldl (fun largest value => if largest < value then value else largest)
        first) :=
  @isLeast_foldl αᵒᵈ _ first rest

end Order

section Mean

variable {α : Type*} [Field α] [LinearOrder α] [IsStrictOrderedRing α]
  {values : List α} {low high mean : α}

theorem sum_mem_range (below : ∀ value ∈ values, low ≤ value)
    (above : ∀ value ∈ values, value ≤ high) :
    low * values.length ≤ values.sum ∧ values.sum ≤ high * values.length := by
  have lower := List.card_nsmul_le_sum values low below
  have upper := List.sum_le_card_nsmul values high above
  rw [nsmul_eq_mul, mul_comm] at lower upper
  exact ⟨lower, upper⟩

/-- No value is farther away than the extremes, and the deviations of the values add up
to nothing. -/
theorem sum_sq_le (below : ∀ value ∈ values, low ≤ value)
    (above : ∀ value ∈ values, value ≤ high) :
    (values.map fun value => (value - mean) ^ 2).sum ≤
      (low + high - 2 * mean) * values.sum + (mean ^ 2 - low * high) * values.length := by
  induction values with
  | nil => simp
  | cons value values ih =>
      obtain ⟨belowHere, belowRest⟩ := List.forall_mem_cons.mp below
      obtain ⟨aboveHere, aboveRest⟩ := List.forall_mem_cons.mp above
      have rest := ih belowRest aboveRest
      have here : 0 ≤ (value - low) * (high - value) :=
        mul_nonneg (sub_nonneg.mpr belowHere) (sub_nonneg.mpr aboveHere)
      rw [List.map_cons, List.sum_cons, List.sum_cons, List.length_cons]
      push_cast
      linarith

end Mean

end OrderStatistics

end Burnout3Recompiled
