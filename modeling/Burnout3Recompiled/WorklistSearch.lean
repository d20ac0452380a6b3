import Mathlib.Data.List.Nodup
import Mathlib.Logic.Function.Iterate
import Mathlib.Logic.Relation
import Mathlib.Tactic.Common

/-!
# Breadth-first search with a scheduled set

A first-in first-out worklist over a successor function on an arbitrary type.
Every item remembers the node it was found from.  A node is scheduled once, so
the visited nodes are distinct, and when the worklist runs empty they are exactly
the reachable ones.
-/

namespace Burnout3Recompiled.WorklistSearch

/-- Items are a node and the node it was found from. -/
structure Search (α : Type*) where
  visited : List (α × α)
  pending : List (α × α)
  scheduled : List α

variable {α : Type*}

/-- The root counts as found from itself. -/
def start (entry : α) : Search α where
  visited := []
  pending := [(entry, entry)]
  scheduled := [entry]

def Reachable (successors : α → List α) : α → α → Prop :=
  Relation.ReflTransGen fun node next => next ∈ successors node

/-- What holds in every state of a search from `entry`. -/
structure Explores (successors : α → List α) (entry : α) (search : Search α) :
    Prop where
  scheduled : search.scheduled = (search.visited ++ search.pending).map Prod.fst
  nodup : search.scheduled.Nodup
  entry_mem : entry ∈ search.scheduled
  reachable : ∀ node ∈ search.scheduled, Reachable successors entry node
  closed : ∀ item ∈ search.visited, ∀ next ∈ successors item.1,
    next ∈ search.scheduled
  found : ∀ item ∈ search.visited ++ search.pending, item = (entry, entry) ∨
    item.1 ≠ entry ∧ item.1 ∈ successors item.2 ∧
      item.2 ∈ search.visited.map Prod.fst

section Invariant

variable {successors : α → List α} {entry : α} {search : Search α}

theorem explores_start : Explores successors entry (start entry) where
  scheduled := rfl
  nodup := List.nodup_singleton entry
  entry_mem := List.mem_singleton_self entry
  reachable := by
    intro node member
    obtain rfl := List.mem_singleton.mp member
    exact .refl
  closed := by
    intro item member
    cases member
  found := fun item member => .inl (List.mem_singleton.mp member)

theorem Explores.visited_nodup (explores : Explores successors entry search) :
    (search.visited.map Prod.fst).Nodup := by
  have nodup := explores.nodup
  rw [explores.scheduled, List.map_append] at nodup
  exact (List.nodup_append.mp nodup).1

/-- When nothing is pending the visited nodes are the reachable ones. -/
theorem Explores.mem_visited_iff (explores : Explores successors entry search)
    (finished : search.pending = []) {node : α} :
    node ∈ search.visited.map Prod.fst ↔ Reachable successors entry node := by
  have scheduled := explores.scheduled
  rw [finished, List.append_nil] at scheduled
  rw [← scheduled]
  constructor
  · exact explores.reachable node
  · intro reaches
    induction reaches with
    | refl => exact explores.entry_mem
    | tail _ step ih =>
        rw [scheduled] at ih
        obtain ⟨item, visited, rfl⟩ := List.mem_map.mp ih
        exact explores.closed item visited _ step

end Invariant

variable [DecidableEq α]

def schedule (source : α) (search : Search α) (node : α) : Search α :=
  if node ∈ search.scheduled then search
  else
    { search with
      pending := search.pending ++ [(node, source)]
      scheduled := search.scheduled ++ [node] }

/-- Take the oldest item and schedule its successors. -/
def visit (successors : α → List α) (search : Search α) : Search α :=
  match search.pending with
  | [] => search
  | item :: rest =>
      (successors item.1).foldl (schedule item.1)
        { search with visited := search.visited ++ [item], pending := rest }

section Scheduling

@[simp]
theorem schedule_visited (source node : α) (search : Search α) :
    (schedule source search node).visited = search.visited := by
  unfold schedule
  split <;> rfl

@[simp]
theorem foldl_schedule_visited (source : α) (nodes : List α) (search : Search α) :
    (nodes.foldl (schedule source) search).visited = search.visited := by
  induction nodes generalizing search with
  | nil => rfl
  | cons node nodes ih => rw [List.foldl_cons, ih, schedule_visited]

/-- What scheduling some nodes adds: fresh distinct ones, and in the end all of
them are scheduled. -/
structure Adds (source : α) (nodes : List α) (before after : Search α)
    (added : List α) : Prop where
  pending : after.pending = before.pending ++ added.map fun node => (node, source)
  scheduled : after.scheduled = before.scheduled ++ added
  subset : ∀ node ∈ added, node ∈ nodes
  fresh : ∀ node ∈ added, node ∉ before.scheduled
  nodup : added.Nodup
  complete : ∀ node ∈ nodes, node ∈ after.scheduled

omit [DecidableEq α] in
/-- Each node is added once at most. -/
theorem Adds.length_le {source : α} {nodes added : List α} {before after : Search α}
    (adds : Adds source nodes before after added) : added.length ≤ nodes.length :=
  adds.nodup.length_le_of_subset adds.subset

theorem foldl_schedule_adds (source : α) (nodes : List α) (search : Search α) :
    ∃ added, Adds source nodes search (nodes.foldl (schedule source) search) added := by
  induction nodes generalizing search with
  | nil => exact ⟨[], by simp, by simp, by simp, by simp, .nil, by simp⟩
  | cons node nodes ih =>
      rw [List.foldl_cons]
      obtain ⟨added, adds⟩ := ih (schedule source search node)
      by_cases known : node ∈ search.scheduled
      · have same : schedule source search node = search := if_pos known
        rw [same] at adds ⊢
        refine ⟨added, adds.pending, adds.scheduled, ?_, adds.fresh, adds.nodup, ?_⟩
        · exact fun other member => .tail _ (adds.subset other member)
        · intro other member
          rcases List.mem_cons.mp member with rfl | later
          · rw [adds.scheduled]
            exact List.mem_append_left _ known
          · exact adds.complete other later
      · have pushed : schedule source search node =
            { search with
              pending := search.pending ++ [(node, source)]
              scheduled := search.scheduled ++ [node] } := if_neg known
        obtain ⟨pending, scheduled, subset, fresh, nodup, complete⟩ := adds
        rw [pushed] at pending scheduled fresh complete ⊢
        refine ⟨node :: added, ?_, ?_, ?_, ?_, ?_, ?_⟩
        · simpa using pending
        · simpa using scheduled
        · intro other member
          rcases List.mem_cons.mp member with rfl | later
          · exact .head _
          · exact .tail _ (subset other later)
        · intro other member
          rcases List.mem_cons.mp member with rfl | later
          · exact known
          · exact fun present => fresh other later (List.mem_append_left _ present)
        · refine List.nodup_cons.mpr ⟨fun member => ?_, nodup⟩
          exact fresh node member (List.mem_append_right _ (List.mem_singleton_self node))
        · intro other member
          rcases List.mem_cons.mp member with rfl | later
          · rw [scheduled]
            exact List.mem_append_left _
              (List.mem_append_right _ (List.mem_singleton_self _))
          · exact complete other later

end Scheduling

/-- A visit keeps the invariant. -/
theorem explores_visit {successors : α → List α} {entry : α} {search : Search α}
    (explores : Explores successors entry search) :
    Explores successors entry (visit successors search) := by
  unfold visit
  split
  · exact explores
  · next item rest split =>
      obtain ⟨added, adds⟩ := foldl_schedule_adds item.1 (successors item.1)
        { search with visited := search.visited ++ [item], pending := rest }
      have visited := foldl_schedule_visited item.1 (successors item.1)
        { search with visited := search.visited ++ [item], pending := rest }
      obtain ⟨scheduled, nodup, entryMem, reachable, closed, found⟩ := explores
      rw [split] at scheduled found
      have itemScheduled : item.1 ∈ search.scheduled := by
        rw [scheduled]
        exact List.mem_map_of_mem (List.mem_append_right _ (.head _))
      refine ⟨?_, ?_, ?_, ?_, ?_, ?_⟩
      · rw [adds.scheduled, visited, adds.pending, scheduled]
        simp [Function.comp_def]
      · rw [adds.scheduled]
        refine List.nodup_append.mpr ⟨nodup, adds.nodup, ?_⟩
        rintro node old other new rfl
        exact adds.fresh node new old
      · rw [adds.scheduled]
        exact List.mem_append_left _ entryMem
      · intro node member
        rw [adds.scheduled] at member
        rcases List.mem_append.mp member with old | new
        · exact reachable node old
        · exact (reachable item.1 itemScheduled).tail (adds.subset node new)
      · intro other member next isNext
        rw [visited] at member
        rcases List.mem_append.mp member with old | new
        · rw [adds.scheduled]
          exact List.mem_append_left _ (closed other old next isNext)
        · obtain rfl := List.mem_singleton.mp new
          exact adds.complete next isNext
      · intro other member
        rw [visited, adds.pending] at member
        rw [visited]
        have cases : other ∈ search.visited ++ item :: rest ∨
            other ∈ added.map fun node => (node, item.1) := by
          simpa [or_assoc] using member
        rcases cases with old | new
        · rcases found other old with root | ⟨notEntry, isNext, source⟩
          · exact .inl root
          · refine .inr ⟨notEntry, isNext, ?_⟩
            rw [List.map_append]
            exact List.mem_append_left _ source
        · obtain ⟨node, isAdded, rfl⟩ := List.mem_map.mp new
          refine .inr ⟨?_, adds.subset node isAdded, ?_⟩
          · rintro rfl
            exact adds.fresh _ isAdded entryMem
          · simp

/-- The state after `count` visits. -/
def after (successors : α → List α) (entry : α) (count : Nat) : Search α :=
  (visit successors)^[count] (start entry)

section Sequence

variable (successors : α → List α) (entry : α)

theorem after_succ (count : Nat) :
    after successors entry (count + 1) = visit successors (after successors entry count) :=
  Function.iterate_succ_apply' _ _ _

theorem explores_after (count : Nat) :
    Explores successors entry (after successors entry count) := by
  induction count with
  | zero => exact explores_start
  | succ count ih =>
      rw [after_succ]
      exact explores_visit ih

variable {successors entry}

/-- A visit appends the item it takes. -/
theorem visited_visit (search : Search α) :
    (visit successors search).visited = search.visited ++ search.pending.head?.toList := by
  unfold visit
  split
  · next empty => simp [empty]
  · next item rest split => simp [split]

/-- Visited items stay visited. -/
theorem visited_grows {first second : Nat} (earlier : first ≤ second) :
    (after successors entry first).visited <+: (after successors entry second).visited := by
  induction earlier with
  | refl => exact List.prefix_rfl
  | step _ ih =>
      refine ih.trans ?_
      rw [Nat.succ_eq_add_one, after_succ, visited_visit]
      exact List.prefix_append _ _

/-- The items visited so far were taken one by one. -/
theorem mem_visited_after {item : α × α} {count : Nat} :
    item ∈ (after successors entry count).visited ↔
      ∃ turn < count, (after successors entry turn).pending.head? = some item := by
  induction count with
  | zero => simp [after, start]
  | succ count ih =>
      rw [after_succ, visited_visit, List.mem_append, ih, Option.mem_toList]
      constructor
      · rintro (⟨turn, earlier, taken⟩ | taken)
        · exact ⟨turn, Nat.lt_succ_of_lt earlier, taken⟩
        · exact ⟨count, Nat.lt_succ_self count, taken⟩
      · rintro ⟨turn, earlier, taken⟩
        rcases Nat.lt_succ_iff_lt_or_eq.mp earlier with before | rfl
        · exact .inl ⟨turn, before, taken⟩
        · exact .inr taken

/-- A search that has nothing to do stays where it is. -/
theorem pending_after_of_finished {first second : Nat} (earlier : first ≤ second)
    (finished : (after successors entry first).pending = []) :
    (after successors entry second).pending = [] := by
  induction earlier with
  | refl => exact finished
  | step _ ih =>
      rw [Nat.succ_eq_add_one, after_succ, visit, ih]
      exact ih

end Sequence

end Burnout3Recompiled.WorklistSearch
