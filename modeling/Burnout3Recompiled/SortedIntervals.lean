import Burnout3Recompiled.SortedByKey
import Mathlib.Data.List.Pairwise
import Mathlib.Tactic.Common

/-!
# Intervals sorted by their start

Half-open intervals of natural numbers, given by two functions on an arbitrary
type.  When every interval is nonempty and the list is sorted by start, looking
at neighbours finds every overlap, and the sorted order of a list without
overlaps is unique.
-/

namespace Burnout3Recompiled.SortedIntervals

variable {α : Type*} (start stop : α → Nat)

def Contains (interval : α) (point : Nat) : Prop :=
  start interval ≤ point ∧ point < stop interval

/-- One interval ends before the other begins. -/
def Apart (first second : α) : Prop :=
  stop first ≤ start second ∨ stop second ≤ start first

/-- Some element starts before the element in front of it has ended. -/
def neighboursOverlap : List α → Bool
  | previous :: item :: items =>
      decide (start item < stop previous) || neighboursOverlap (item :: items)
  | _ => false

variable {start stop}

theorem Apart.symm {first second : α} (apart : Apart start stop first second) :
    Apart start stop second first :=
  Or.symm apart

instance : Std.Symm (Apart start stop) :=
  ⟨fun _ _ => Apart.symm⟩

/-- Nonempty intervals are apart when they share no point. -/
theorem apart_iff_no_common_point {first second : α}
    (firstNonempty : start first < stop first)
    (secondNonempty : start second < stop second) :
    Apart start stop first second ↔
      ¬∃ point, Contains start stop first point ∧ Contains start stop second point := by
  unfold Apart Contains
  constructor
  · rintro (before | after) ⟨point, inFirst, inSecond⟩ <;> omega
  · intro disjoint
    by_contra overlap
    refine disjoint ⟨max (start first) (start second), ?_, ?_⟩ <;> omega

/-- Pairwise apart does not depend on the order of the list. -/
theorem pairwise_apart_perm {first second : List α} (permuted : first.Perm second) :
    first.Pairwise (Apart start stop) ↔ second.Pairwise (Apart start stop) :=
  permuted.pairwise_iff Apart.symm

section Sorted

variable {intervals : List α}

/-- No overlap between neighbours orders the whole list. -/
theorem pairwise_before_of_neighbours
    (nonempty : ∀ interval ∈ intervals, start interval < stop interval)
    (clear : neighboursOverlap start stop intervals = false) :
    intervals.Pairwise fun first second => stop first ≤ start second := by
  induction intervals with
  | nil => exact .nil
  | cons previous items ih =>
      cases items with
      | nil => exact List.pairwise_singleton _ _
      | cons item items =>
          rw [neighboursOverlap, Bool.or_eq_false_iff, decide_eq_false_iff_not,
            Nat.not_lt] at clear
          have rest := ih (fun other member => nonempty other (.tail _ member)) clear.2
          have itemNonempty := nonempty item (.tail _ (.head _))
          refine List.Pairwise.cons (fun other member => ?_) rest
          rcases List.mem_cons.mp member with rfl | later
          · exact clear.1
          · have ordered := List.rel_of_pairwise_cons rest later
            omega

theorem neighbours_of_pairwise_before
    (ordered : intervals.Pairwise fun first second => stop first ≤ start second) :
    neighboursOverlap start stop intervals = false := by
  induction intervals with
  | nil => rfl
  | cons previous items ih =>
      cases items with
      | nil => rfl
      | cons item items =>
          have before := List.rel_of_pairwise_cons ordered (.head _)
          rw [neighboursOverlap, ih ordered.of_cons, Bool.or_false,
            decide_eq_false_iff_not]
          omega

/-- Looking at neighbours of a sorted list finds every overlap. -/
theorem neighboursOverlap_eq_false_iff
    (sorted : intervals.Pairwise fun first second => start first ≤ start second)
    (nonempty : ∀ interval ∈ intervals, start interval < stop interval) :
    neighboursOverlap start stop intervals = false ↔
      intervals.Pairwise (Apart start stop) := by
  constructor
  · intro clear
    exact (pairwise_before_of_neighbours nonempty clear).imp .inl
  · intro apart
    apply neighbours_of_pairwise_before
    have both := sorted.and apart
    refine both.imp_of_mem ?_
    rintro first second firstMember secondMember ⟨ordered, before | after⟩
    · exact before
    · have firstNonempty := nonempty first firstMember
      have secondNonempty := nonempty second secondMember
      omega

/-- Without overlaps there is only one sorted order. -/
theorem eq_of_sorted_perm {other : List α} (permuted : intervals.Perm other)
    (sorted : intervals.Pairwise fun first second => start first ≤ start second)
    (otherSorted : other.Pairwise fun first second => start first ≤ start second)
    (nonempty : ∀ interval ∈ intervals, start interval < stop interval)
    (apart : intervals.Pairwise (Apart start stop)) : intervals = other := by
  have distinctStarts : ∀ first ∈ intervals, ∀ second ∈ intervals,
      start first = start second → first = second := by
    intro first firstMember second secondMember sameStart
    by_contra different
    have separated := apart.forall firstMember secondMember different
    have firstNonempty := nonempty first firstMember
    have secondNonempty := nonempty second secondMember
    rcases separated with before | after <;> omega
  have sort : SortedByKey.SortOf start intervals intervals := ⟨.refl _, sorted⟩
  have otherSort : SortedByKey.SortOf start intervals other :=
    ⟨permuted.symm, otherSorted⟩
  exact sort.unique otherSort distinctStarts

end Sorted

end Burnout3Recompiled.SortedIntervals
