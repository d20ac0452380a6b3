import Mathlib.Algebra.GroupWithZero.Nat
import Mathlib.Data.Finset.Card
import Mathlib.Data.List.Count
import Mathlib.Data.List.Induction
import Mathlib.Tactic.Common

/-!
# Histograms in key order

A finite map from keys to counters, kept as an association list in strictly
increasing key order.  Counting a list of keys leaves one entry for every key
that occurs, with the number of its occurrences.
-/

namespace Burnout3Recompiled.SortedHistogram

variable {κ : Type*} [LT κ] [DecidableEq κ] [DecidableLT κ]

/-- Add one to the counter of a key, which starts at zero. -/
def increment (key : κ) : List (κ × Nat) → List (κ × Nat)
  | [] => [(key, 1)]
  | (other, number) :: rest =>
      if key = other then (other, number + 1) :: rest
      else if key < other then (key, 1) :: (other, number) :: rest
      else (other, number) :: increment key rest

def histogram (keys : List κ) : List (κ × Nat) :=
  keys.foldl (fun counters key => increment key counters) []

/-- The counter of a key; keys without an entry have not been counted. -/
def counter (key : κ) (counters : List (κ × Nat)) : Nat :=
  (counters.lookup key).getD 0

def Ordered (counters : List (κ × Nat)) : Prop :=
  counters.Pairwise fun first second => first.1 < second.1

/-- The sum of all counters. -/
def total (counters : List (κ × Nat)) : Nat :=
  (counters.map Prod.snd).sum

section Increment

variable {key other : κ} {counters : List (κ × Nat)}

theorem key_mem_increment {entry : κ × Nat} (member : entry ∈ increment key counters) :
    entry.1 = key ∨ ∃ old ∈ counters, old.1 = entry.1 := by
  induction counters with
  | nil =>
      obtain rfl := List.mem_singleton.mp member
      exact .inl rfl
  | cons first rest ih =>
      obtain ⟨firstKey, number⟩ := first
      rw [increment] at member
      split at member
      · rcases List.mem_cons.mp member with rfl | later
        · exact .inr ⟨_, .head _, rfl⟩
        · exact .inr ⟨entry, .tail _ later, rfl⟩
      · split at member
        · rcases List.mem_cons.mp member with rfl | later
          · exact .inl rfl
          · exact .inr ⟨entry, later, rfl⟩
        · rcases List.mem_cons.mp member with rfl | later
          · exact .inr ⟨_, .head _, rfl⟩
          · rcases ih later with same | ⟨old, inRest, same⟩
            · exact .inl same
            · exact .inr ⟨old, .tail _ inRest, same⟩

theorem mem_keys_increment : other ∈ (increment key counters).map Prod.fst ↔
    other = key ∨ other ∈ counters.map Prod.fst := by
  induction counters with
  | nil => simp [increment]
  | cons first rest ih =>
      obtain ⟨firstKey, number⟩ := first
      rw [increment]
      split
      · next same => simp [same]
      · split
        · simp
        · rw [List.map_cons, List.map_cons, List.mem_cons, List.mem_cons, ih, or_left_comm]

/-- Counting a key adds one to the sum. -/
theorem total_increment : total (increment key counters) = total counters + 1 := by
  induction counters with
  | nil => rfl
  | cons first rest ih =>
      obtain ⟨firstKey, number⟩ := first
      rw [increment]
      split
      · simp [total, Nat.add_right_comm]
      · split
        · simp [total, Nat.add_comm 1]
        · rw [total, List.map_cons, List.sum_cons, ← total, ih, ← Nat.add_assoc]
          rfl

omit [LT κ] [DecidableLT κ] in
theorem counter_cons (number : Nat) :
    counter key ((other, number) :: counters) =
      if key = other then number else counter key counters := by
  by_cases same : key = other
  · simp [counter, same]
  · have differs : (key == other) = false := beq_eq_false_iff_ne.mpr same
    simp [counter, List.lookup_cons, same, differs]

theorem histogram_append_singleton {keys : List κ} :
    histogram (keys ++ [key]) = increment key (histogram keys) := by
  simp [histogram]

variable [LE κ] [Std.IsLinearOrder κ] [Std.LawfulOrderLT κ]

theorem ordered_increment (ordered : Ordered counters) :
    Ordered (increment key counters) := by
  induction counters with
  | nil => exact List.pairwise_singleton _ _
  | cons first rest ih =>
      obtain ⟨firstKey, number⟩ := first
      obtain ⟨before, restOrdered⟩ := List.pairwise_cons.mp ordered
      rw [increment]
      split
      · exact List.pairwise_cons.mpr ⟨before, restOrdered⟩
      · split
        · next smaller =>
            refine List.pairwise_cons.mpr ⟨?_, ordered⟩
            intro entry member
            rcases List.mem_cons.mp member with rfl | later
            · exact smaller
            · exact Std.lt_trans smaller (before entry later)
        · next different notSmaller =>
            refine List.pairwise_cons.mpr ⟨?_, ih restOrdered⟩
            intro entry member
            rcases key_mem_increment member with same | ⟨old, inRest, same⟩
            · rw [same]
              exact Std.lt_of_le_of_ne (Std.not_lt.mp notSmaller) (Ne.symm different)
            · rw [← same]
              exact before old inRest

omit [DecidableLT κ] [Std.IsLinearOrder κ] in
/-- A key in front of every entry has no counter. -/
theorem counter_of_before (before : ∀ entry ∈ counters, key < entry.1) :
    counter key counters = 0 := by
  have missing : counters.lookup key = none := by
    rw [List.lookup_eq_none_iff]
    intro entry member
    exact bne_iff_ne.mpr (Std.ne_of_lt (before entry member))
  rw [counter, missing]
  rfl

omit [DecidableEq κ] [DecidableLT κ] [Std.IsLinearOrder κ] in
theorem Ordered.nodup_keys (ordered : Ordered counters) :
    (counters.map Prod.fst).Nodup :=
  List.pairwise_map.mpr (ordered.imp Std.ne_of_lt)

omit [DecidableLT κ] [Std.IsLinearOrder κ] in
/-- The entry of a key holds its counter. -/
theorem counter_eq_of_mem {number : Nat} (ordered : Ordered counters)
    (member : (key, number) ∈ counters) : counter key counters = number := by
  induction counters with
  | nil => cases member
  | cons first rest ih =>
      obtain ⟨firstKey, firstNumber⟩ := first
      obtain ⟨before, restOrdered⟩ := List.pairwise_cons.mp ordered
      rw [counter_cons]
      rcases List.mem_cons.mp member with same | later
      · obtain ⟨rfl, rfl⟩ := Prod.mk.inj same
        exact if_pos rfl
      · rw [if_neg (Ne.symm (Std.ne_of_lt (before _ later))), ih restOrdered later]

theorem counter_increment (ordered : Ordered counters) :
    counter other (increment key counters) =
      counter other counters + if other = key then 1 else 0 := by
  induction counters with
  | nil =>
      rw [increment, counter_cons]
      split <;> simp [counter]
  | cons first rest ih =>
      obtain ⟨firstKey, number⟩ := first
      obtain ⟨before, restOrdered⟩ := List.pairwise_cons.mp ordered
      rw [increment]
      split
      · next same =>
          rw [counter_cons, counter_cons, same]
          split <;> rfl
      · next different =>
          split
          · next smaller =>
              rw [counter_cons]
              by_cases isKey : other = key
              · have fresh : counter other ((firstKey, number) :: rest) = 0 := by
                  refine counter_of_before fun entry member => ?_
                  rw [isKey]
                  rcases List.mem_cons.mp member with rfl | later
                  · exact smaller
                  · exact Std.lt_trans smaller (before entry later)
                rw [if_pos isKey, if_pos isKey, fresh]
              · rw [if_neg isKey, if_neg isKey, Nat.add_zero]
          · rw [counter_cons, counter_cons, ih restOrdered]
            by_cases isFirst : other = firstKey
            · have notKey : other ≠ key := fun isKey =>
                different (isKey.symm.trans isFirst)
              rw [if_pos isFirst, if_pos isFirst, if_neg notKey, Nat.add_zero]
            · rw [if_neg isFirst, if_neg isFirst]

theorem increment_comm_of_lt {first second : κ} (before : first < second)
    (counters : List (κ × Nat)) :
    increment first (increment second counters) =
      increment second (increment first counters) := by
  have differs : second ≠ first := Ne.symm (Std.ne_of_lt before)
  have notAfter : ¬second < first := fun after =>
    Std.lt_irrefl (Std.lt_trans before after)
  induction counters with
  | nil => simp [increment, before, differs, Ne.symm differs, notAfter]
  | cons entry rest ih =>
      obtain ⟨key, number⟩ := entry
      by_cases isSecond : second = key
      · subst isSecond
        simp [increment, before, differs, Ne.symm differs, notAfter]
      · by_cases inFront : second < key
        · have firstInFront : first < key := Std.lt_trans before inFront
          have firstDiffers : first ≠ key := Std.ne_of_lt firstInFront
          simp [increment, before, differs, Ne.symm differs, notAfter, isSecond,
            inFront, firstInFront, firstDiffers]
        · by_cases isFirst : first = key
          · subst isFirst
            simp [increment, isSecond, inFront]
          · by_cases firstInFront : first < key
            · simp [increment, differs, notAfter, isSecond, inFront, isFirst,
                firstInFront]
            · simp [increment, isSecond, inFront, isFirst, firstInFront, ih]

/-- The order of two increments does not matter. -/
theorem increment_comm (first second : κ) (counters : List (κ × Nat)) :
    increment first (increment second counters) =
      increment second (increment first counters) := by
  rcases Std.lt_trichotomy first second with before | rfl | after
  · exact increment_comm_of_lt before counters
  · rfl
  · exact (increment_comm_of_lt after counters).symm

end Increment

section Histogram

variable {key : κ} {keys : List κ}

theorem mem_keys_histogram : key ∈ (histogram keys).map Prod.fst ↔ key ∈ keys := by
  induction keys using List.reverseRecOn with
  | nil => rfl
  | append_singleton keys last ih =>
      rw [histogram_append_singleton, mem_keys_increment, ih, List.mem_append,
        List.mem_singleton, or_comm]

/-- The counters add up to the length of the list. -/
theorem total_histogram : total (histogram keys) = keys.length := by
  induction keys using List.reverseRecOn with
  | nil => rfl
  | append_singleton keys last ih =>
      rw [histogram_append_singleton, total_increment, ih, List.length_append,
        List.length_singleton]

variable [LE κ] [Std.IsLinearOrder κ] [Std.LawfulOrderLT κ]

theorem ordered_histogram : Ordered (histogram keys) := by
  induction keys using List.reverseRecOn with
  | nil => exact .nil
  | append_singleton keys key ih =>
      rw [histogram_append_singleton]
      exact ordered_increment ih

/-- The counter of a key is the number of its occurrences. -/
theorem counter_histogram : counter key (histogram keys) = keys.count key := by
  induction keys using List.reverseRecOn with
  | nil => rfl
  | append_singleton keys last ih =>
      rw [histogram_append_singleton, counter_increment ordered_histogram, ih,
        List.count_append, List.count_singleton]
      by_cases same : key = last
      · simp [same]
      · simp [same, Ne.symm same]

/-- The entries are the occurring keys with the numbers of their occurrences. -/
theorem mem_histogram_iff {number : Nat} :
    (key, number) ∈ histogram keys ↔ key ∈ keys ∧ number = keys.count key := by
  constructor
  · intro member
    refine ⟨mem_keys_histogram.mp (List.mem_map_of_mem member), ?_⟩
    rw [← counter_histogram, counter_eq_of_mem ordered_histogram member]
  · rintro ⟨occurs, rfl⟩
    obtain ⟨⟨other, number⟩, member, rfl⟩ :=
      List.mem_map.mp (mem_keys_histogram.mpr occurs)
    rw [← counter_histogram, counter_eq_of_mem ordered_histogram member]
    exact member

/-- There is one entry for every key that occurs. -/
theorem length_histogram : (histogram keys).length = keys.toFinset.card := by
  have same : ((histogram keys).map Prod.fst).toFinset = keys.toFinset := by
    ext key
    rw [List.mem_toFinset, List.mem_toFinset, mem_keys_histogram]
  rw [← same, List.toFinset_card_of_nodup ordered_histogram.nodup_keys, List.length_map]

/-- Counting does not depend on the order of the keys. -/
theorem histogram_perm {others : List κ} (permuted : keys.Perm others) :
    histogram keys = histogram others :=
  permuted.foldl_eq' (fun first _ second _ counters =>
    increment_comm second first counters) []

end Histogram

end Burnout3Recompiled.SortedHistogram
