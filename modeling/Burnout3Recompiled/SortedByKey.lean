import Mathlib.Data.List.Sort

/-!
# Sorting by a key

A sort by a key may leave items of equal keys in any order.  Where equal keys mean
equal items there is only one sorted order, whatever order the items come in and
whichever algorithm sorts them.
-/

namespace Burnout3Recompiled.SortedByKey

variable {α β κ : Type*} [LE κ] {key : α → κ} {items others sorted otherSorted : List α}

/-- What a sort by a key may return. -/
structure SortOf (key : α → κ) (items sorted : List α) : Prop where
  permuted : sorted.Perm items
  ordered : sorted.Pairwise fun first second => key first ≤ key second

/-- Equal keys mean equal items. -/
def KeyDetermines (key : α → κ) (items : List α) : Prop :=
  ∀ first ∈ items, ∀ second ∈ items, key first = key second → first = second

omit [LE κ] in
theorem keyDetermines_of_injective (injective : Function.Injective key)
    (items : List α) : KeyDetermines key items :=
  fun _ _ _ _ same => injective same

namespace SortOf

theorem of_perm (sort : SortOf key items sorted) (permuted : items.Perm others) :
    SortOf key others sorted :=
  ⟨sort.permuted.trans permuted, sort.ordered⟩

/-- A function that keeps the keys takes sorts to sorts. -/
theorem map (sort : SortOf key items sorted) {otherKey : β → κ} {function : α → β}
    (keeps : ∀ item, otherKey (function item) = key item) :
    SortOf otherKey (items.map function) (sorted.map function) := by
  refine ⟨sort.permuted.map function, List.pairwise_map.mpr (sort.ordered.imp ?_)⟩
  intro first second ordered
  rwa [keeps, keeps]

end SortOf

variable [Std.IsLinearOrder κ]

theorem sortOf_mergeSort [DecidableLE κ] (key : α → κ) (items : List α) :
    SortOf key items
      (items.mergeSort fun first second => decide (key first ≤ key second)) := by
  have transitive : ∀ first second third : α, decide (key first ≤ key second) →
      decide (key second ≤ key third) → decide (key first ≤ key third) := by
    intro first second third
    simp only [decide_eq_true_eq]
    exact Std.le_trans
  have total : ∀ first second : α,
      decide (key first ≤ key second) || decide (key second ≤ key first) := by
    intro first second
    simp only [Bool.or_eq_true, decide_eq_true_eq]
    exact Std.le_total
  refine ⟨List.mergeSort_perm _ _, ?_⟩
  exact (List.pairwise_mergeSort transitive total items).imp fun ordered =>
    of_decide_eq_true ordered

/-- There is one sorted order. -/
theorem SortOf.unique (sort : SortOf key items sorted)
    (otherSort : SortOf key items otherSorted) (determines : KeyDetermines key items) :
    sorted = otherSorted := by
  refine List.Perm.eq_of_pairwise ?_ sort.ordered otherSort.ordered
    (sort.permuted.trans otherSort.permuted.symm)
  intro first second firstMember secondMember below above
  exact determines first (sort.permuted.mem_iff.mp firstMember) second
    (otherSort.permuted.mem_iff.mp secondMember) (Std.le_antisymm below above)

end Burnout3Recompiled.SortedByKey
