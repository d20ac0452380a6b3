import Mathlib.Logic.Relation

/-!
# Reachability in segments

Steps are of two kinds: those inside a segment and those that enter a new one.  What is
reached with both kinds is reached inside some segment, and the segments are those that
are entered one from another.
-/

namespace Burnout3Recompiled.SegmentedReachability

open Relation (ReflTransGen)

variable {α : Type*} (inside across : α → α → Prop)

/-- From the segment that starts at `segment` the one that starts at `next` is entered. -/
def Enters (segment next : α) : Prop :=
  ∃ node, ReflTransGen inside segment node ∧ across node next

/-- The starts of the segments that are entered from `entry` on. -/
def IsSegment (entry : α) : α → Prop :=
  ReflTransGen (Enters inside across) entry

variable {inside across} {entry node segment : α}

theorem reflTransGen_of_isSegment (isSegment : IsSegment inside across entry segment) :
    ReflTransGen (fun source target => inside source target ∨ across source target)
      entry segment := by
  induction isSegment with
  | refl => exact .refl
  | tail _ enters ih =>
      obtain ⟨node, reached, entering⟩ := enters
      exact (ih.trans (ReflTransGen.mono (fun _ _ => Or.inl) _ _ reached)).tail (.inr entering)

theorem reflTransGen_or_iff :
    ReflTransGen (fun source target => inside source target ∨ across source target)
        entry node ↔
      ∃ segment, IsSegment inside across entry segment ∧
        ReflTransGen inside segment node := by
  constructor
  · intro reached
    induction reached with
    | refl => exact ⟨entry, .refl, .refl⟩
    | @tail source target _ step ih =>
        obtain ⟨segment, isSegment, within⟩ := ih
        rcases step with stays | enters
        · exact ⟨segment, isSegment, within.tail stays⟩
        · exact ⟨target, isSegment.tail ⟨source, within, enters⟩, .refl⟩
  · rintro ⟨segment, isSegment, within⟩
    exact (reflTransGen_of_isSegment isSegment).trans
      (ReflTransGen.mono (fun _ _ => Or.inl) _ _ within)

end Burnout3Recompiled.SegmentedReachability
