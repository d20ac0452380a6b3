import Mathlib.Data.List.DropRight
import Mathlib.Data.List.Rotate
import Mathlib.Tactic.Common

/-!
# Windows over the most recent values

An array of a fixed size that is written cyclically holds the most recent values of a
sequence.  Every value stands at its index modulo the size, so that a full array is a
rotation of them.
-/

namespace Burnout3Recompiled

/-- The array holds the most recent `values`, the next one goes to the slot `next`, and
`count` slots are in use. -/
structure RecentWindow {α : Type*} {size : Nat} (slots : Vector α size) (next count : Nat)
    (values : List α) : Prop where
  next : next = values.length % size
  count : count = min values.length size
  slot : ∀ index value, values[index]? = some value → values.length ≤ index + size →
    slots[index % size]? = some value

namespace RecentWindow

variable {α : Type*} {size next count : Nat} {slots : Vector α size} {values : List α}

theorem empty (slots : Vector α size) : RecentWindow slots 0 0 [] where
  next := (Nat.zero_mod size).symm
  count := (Nat.zero_min size).symm
  slot := by
    intro index value present
    cases present

theorem next_lt (window : RecentWindow slots next count values) (positive : 0 < size) :
    next < size := by
  rw [window.next]
  exact Nat.mod_lt _ positive

theorem count_le (window : RecentWindow slots next count values) : count ≤ size := by
  rw [window.count]
  exact Nat.min_le_right _ _

/-- Two indices less than the size apart have different slots. -/
theorem mod_ne_mod {first second : Nat} (before : first < second)
    (near : second < first + size) : second % size ≠ first % size := by
  intro same
  have divides : size ∣ second - first :=
    Nat.dvd_of_mod_eq_zero (Nat.sub_mod_eq_zero_of_mod_eq same)
  have bound := Nat.le_of_dvd (Nat.sub_pos_of_lt before) divides
  omega

/-- A new value takes the place of the oldest one, when there is no free slot. -/
theorem push (window : RecentWindow slots next count values) (inside : next < size)
    (value : α) :
    RecentWindow (slots.set next value inside) ((next + 1) % size)
      (if count < size then count + 1 else count) (values ++ [value]) where
  next := by
    rw [window.next, Nat.mod_add_mod, List.length_append, List.length_singleton]
  count := by
    rw [window.count, List.length_append, List.length_singleton]
    split <;> omega
  slot := by
    intro index other present recent
    rw [List.length_append, List.length_singleton] at recent
    rw [Vector.getElem?_set, window.next]
    rcases Nat.lt_trichotomy index values.length with old | rfl | beyond
    · rw [List.getElem?_append_left old] at present
      rw [if_neg (mod_ne_mod old recent)]
      exact window.slot index other present (Nat.le_of_succ_le recent)
    · rw [List.getElem?_concat_length] at present
      rw [if_pos rfl, present]
    · have outside : (values ++ [value]).length ≤ index := by
        rw [List.length_append, List.length_singleton]
        exact beyond
      rw [List.getElem?_eq_none outside] at present
      cases present

/-- The latest value stands one slot in front of the next one, around the end of the
array where that is necessary. -/
theorem latest (window : RecentWindow slots next count values) (positive : 0 < size)
    {value : α} (last : values.getLast? = some value) :
    slots[(next + size - 1) % size]? = some value := by
  have occupied : 0 < values.length := by
    rw [List.length_pos_iff]
    rintro rfl
    cases last
  rw [List.getLast?_eq_getElem?] at last
  have place : (next + size - 1) % size = (values.length - 1) % size := by
    rw [window.next, Nat.add_sub_assoc positive, Nat.mod_add_mod,
      ← Nat.add_mod_right (values.length - 1) size]
    congr 1
    omega
  rw [place]
  exact window.slot _ value last (by omega)

/-- The slots in use hold the most recent values, each as often as it occurs. -/
theorem take_perm (window : RecentWindow slots next count values) :
    (slots.toList.take count).Perm (values.rtake size) := by
  have slot : ∀ index, index < values.length → values.length ≤ index + size →
      slots.toList[index % size]? = values[index]? := by
    intro index inside recent
    rw [Vector.getElem?_toList, List.getElem?_eq_getElem inside]
    exact window.slot index _ (List.getElem?_eq_getElem inside) recent
  have length : slots.toList.length = size := Vector.length_toList
  rcases Nat.lt_or_ge size values.length with full | partlyFilled
  · -- the array is the window, rotated by the slot of the next value
    have whole : slots.toList.take count = slots.toList := by
      rw [window.count, Nat.min_eq_right (Nat.le_of_lt full)]
      exact List.take_of_length_le (Nat.le_of_eq length)
    have rotated : slots.toList.rotate next = values.rtake size := by
      apply List.ext_getElem?
      intro index
      rw [List.rtake, List.getElem?_drop]
      rcases Nat.lt_or_ge index size with inside | outside
      · rw [List.getElem?_rotate (by rwa [length]), length, window.next, Nat.add_mod_mod,
          ← slot (values.length - size + index) (by omega) (by omega),
          ← Nat.add_mod_right (values.length - size + index) size]
        congr 2
        omega
      · rw [List.getElem?_eq_none (by rwa [List.length_rotate, length]),
          List.getElem?_eq_none (by omega)]
    rw [whole, ← rotated]
    exact (List.rotate_perm _ _).symm
  · have same : slots.toList.take count = values.rtake size := by
      apply List.ext_getElem?
      intro index
      rw [List.rtake, Nat.sub_eq_zero_of_le partlyFilled, List.drop_zero, window.count,
        Nat.min_eq_left partlyFilled, List.getElem?_take]
      split
      · next inside =>
          rw [← slot index inside (by omega), Nat.mod_eq_of_lt (by omega)]
      · next outside => rw [List.getElem?_eq_none (Nat.le_of_not_lt outside)]
    rw [same]

/-- The slots in use, read one by one. -/
theorem mapM_range_getElem? (slots : Vector α size) (bounded : count ≤ size) :
    (List.range count).mapM (fun index => slots[index]?) =
      some (slots.toList.take count) := by
  induction count with
  | zero => rfl
  | succ count ih =>
      have inside : slots[count]? = some slots[count] := Vector.getElem?_eq_getElem bounded
      rw [List.range_succ, List.mapM_append, ih (Nat.le_of_succ_le bounded),
        List.take_add_one, Vector.getElem?_toList, inside]
      simp [inside]

end RecentWindow

end Burnout3Recompiled
