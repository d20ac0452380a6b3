import Burnout3Recompiled.RecentWindow
import Mathlib.Algebra.BigOperators.Group.List.Basic
import Mathlib.Algebra.Field.Rat
import Mathlib.Data.BitVec

/-!
# Frame statistics

The durations of the most recent frames are kept in a cyclic array and averaged on
demand.  A duration is an exact rational number here.  Reading or writing outside the
array has no defined result, so every access is checked and a failed one leaves nothing.
-/

namespace Burnout3Recompiled

structure FrameStatsSnapshot where
  fps : ℚ := 0
  frameTimeMs : ℚ := 0
  simulationTimeMs : ℚ := 0
  renderTimeMs : ℚ := 0
  simulationSteps : BitVec 32 := 0
  sampleCount : BitVec 32 := 0

structure FrameSample where
  frameSeconds : ℚ := 0
  simulationSeconds : ℚ := 0
  renderSeconds : ℚ := 0
  simulationSteps : BitVec 32 := 0

def kWindowSize : Nat := 120

structure FrameStats where
  samples : Vector FrameSample kWindowSize := Vector.replicate kWindowSize {}
  nextIndex : Nat := 0
  count : Nat := 0

/-- The accumulators of the loop over the samples. -/
structure FrameTotals where
  frame : ℚ := 0
  simulation : ℚ := 0
  render : ℚ := 0

def FrameTotals.add (totals : FrameTotals) (sample : FrameSample) : FrameTotals where
  frame := totals.frame + sample.frameSeconds
  simulation := totals.simulation + sample.simulationSeconds
  render := totals.render + sample.renderSeconds

namespace FrameStats

def addFrame (stats : FrameStats) (frameSeconds simulationSeconds renderSeconds : ℚ)
    (simulationSteps : BitVec 32) : Option FrameStats :=
  if inside : stats.nextIndex < kWindowSize then
    some
      { samples := stats.samples.set stats.nextIndex
          ⟨frameSeconds, simulationSeconds, renderSeconds, simulationSteps⟩ inside
        nextIndex := (stats.nextIndex + 1) % kWindowSize
        count := if stats.count < kWindowSize then stats.count + 1 else stats.count }
  else none

/-- The loop over the samples in use. -/
def totals (stats : FrameStats) : Option FrameTotals :=
  (List.range stats.count).foldlM
    (fun totals index => stats.samples[index]?.map totals.add) {}

def snapshot (stats : FrameStats) : Option FrameStatsSnapshot :=
  if stats.count = 0 then some {}
  else do
    let totals ← stats.totals
    let count : ℚ := stats.count
    let averageFrameSeconds := totals.frame / count
    let latestIndex := (stats.nextIndex + kWindowSize - 1) % kWindowSize
    let latest ← stats.samples[latestIndex]?
    some
      { fps := if averageFrameSeconds > 0 then 1 / averageFrameSeconds else 0
        frameTimeMs := averageFrameSeconds * 1000
        simulationTimeMs := totals.simulation / count * 1000
        renderTimeMs := totals.render / count * 1000
        simulationSteps := latest.simulationSteps
        sampleCount := BitVec.ofNat 32 stats.count }

def reset (_stats : FrameStats) : FrameStats where

end FrameStats

/-- A call that changes the statistics. -/
inductive FrameStatsCall where
  | addFrame (sample : FrameSample)
  | reset

namespace FrameStats

def perform (stats : FrameStats) : FrameStatsCall → Option FrameStats
  | .addFrame sample => stats.addFrame sample.frameSeconds sample.simulationSeconds
      sample.renderSeconds sample.simulationSteps
  | .reset => some stats.reset

/-- The calls in their order, on statistics that have just been constructed. -/
def run (calls : List FrameStatsCall) : Option FrameStats :=
  calls.foldlM perform {}

/-- The samples the loop of a snapshot reads. -/
def summedSamples (stats : FrameStats) : Option (List FrameSample) :=
  (List.range stats.count).mapM fun index => stats.samples[index]?

end FrameStats

/-- The frames added so far, forgotten at a reset. -/
def recordCall (frames : List FrameSample) : FrameStatsCall → List FrameSample
  | .addFrame sample => frames ++ [sample]
  | .reset => []

def framesSinceReset (calls : List FrameStatsCall) : List FrameSample :=
  calls.foldl recordCall []

/-- The mean, which is zero for no values. -/
def average (values : List ℚ) : ℚ :=
  values.sum / values.length

/-- The snapshot describes the most recent of the frames. -/
structure Summarizes (snapshot : FrameStatsSnapshot) (frames : List FrameSample) : Prop where
  sampleCount : snapshot.sampleCount.toNat = min frames.length kWindowSize
  simulationSteps : snapshot.simulationSteps = (frames.getLast?.getD {}).simulationSteps
  frameTime : snapshot.frameTimeMs =
    1000 * average ((frames.rtake kWindowSize).map (·.frameSeconds))
  simulationTime : snapshot.simulationTimeMs =
    1000 * average ((frames.rtake kWindowSize).map (·.simulationSeconds))
  renderTime : snapshot.renderTimeMs =
    1000 * average ((frames.rtake kWindowSize).map (·.renderSeconds))
  fps : snapshot.fps =
    if 0 < average ((frames.rtake kWindowSize).map (·.frameSeconds)) then
      1 / average ((frames.rtake kWindowSize).map (·.frameSeconds))
    else 0

namespace FrameStats

/-- The statistics hold the most recent of the frames. -/
def Holds (stats : FrameStats) (frames : List FrameSample) : Prop :=
  RecentWindow stats.samples stats.nextIndex stats.count frames

section Window

variable {stats : FrameStats} {frames : List FrameSample}

theorem holds_initial : Holds {} [] :=
  .empty _

theorem Holds.perform (holds : stats.Holds frames) (call : FrameStatsCall) :
    ∃ next, stats.perform call = some next ∧ next.Holds (recordCall frames call) := by
  cases call with
  | addFrame sample =>
      have inside : stats.nextIndex < kWindowSize := holds.next_lt (by decide)
      exact ⟨_, dif_pos inside, holds.push inside sample⟩
  | reset => exact ⟨_, rfl, holds_initial⟩

/-- No call accesses the array outside its bounds, by induction on the calls. -/
theorem Holds.foldlM_perform (holds : stats.Holds frames) (calls : List FrameStatsCall) :
    ∃ final, calls.foldlM FrameStats.perform stats = some final ∧
      final.Holds (calls.foldl recordCall frames) := by
  induction calls generalizing stats frames with
  | nil => exact ⟨stats, rfl, holds⟩
  | cons call calls ih =>
      obtain ⟨next, performed, nextHolds⟩ := holds.perform call
      obtain ⟨final, rest, finalHolds⟩ := ih nextHolds
      refine ⟨final, ?_, finalHolds⟩
      rw [List.foldlM_cons, performed]
      exact rest

theorem Holds.summedSamples (holds : stats.Holds frames) :
    stats.summedSamples = some (stats.samples.toList.take stats.count) :=
  RecentWindow.mapM_range_getElem? stats.samples holds.count_le

/-- A loop that adds what it reads adds up everything it has read. -/
theorem foldlM_add (read : Nat → Option FrameSample) (indices : List Nat)
    (totals : FrameTotals) :
    indices.foldlM (fun totals index => (read index).map totals.add) totals =
      (indices.mapM read).map fun samples => samples.foldl FrameTotals.add totals := by
  induction indices generalizing totals with
  | nil => rfl
  | cons index indices ih =>
      rw [List.foldlM_cons, List.mapM_cons]
      cases read index with
      | none => rfl
      | some sample =>
          simp only [Option.map_some, Option.bind_eq_bind, Option.bind_some, ih]
          cases indices.mapM read <;> rfl

theorem totals_eq (stats : FrameStats) :
    stats.totals = stats.summedSamples.map fun samples =>
      samples.foldl FrameTotals.add {} :=
  foldlM_add _ _ _

theorem foldl_add (samples : List FrameSample) (totals : FrameTotals) :
    samples.foldl FrameTotals.add totals =
      ⟨totals.frame + (samples.map (·.frameSeconds)).sum,
        totals.simulation + (samples.map (·.simulationSeconds)).sum,
        totals.render + (samples.map (·.renderSeconds)).sum⟩ := by
  induction samples generalizing totals with
  | nil => simp
  | cons sample samples ih => simp [ih, FrameTotals.add, add_assoc]

/-- The sums the snapshot divides by the number of samples. -/
theorem Holds.totals (holds : stats.Holds frames) :
    stats.totals = some
      ⟨((stats.samples.toList.take stats.count).map (·.frameSeconds)).sum,
        ((stats.samples.toList.take stats.count).map (·.simulationSeconds)).sum,
        ((stats.samples.toList.take stats.count).map (·.renderSeconds)).sum⟩ := by
  rw [totals_eq, holds.summedSamples, Option.map_some, foldl_add, zero_add, zero_add,
    zero_add]

theorem average_perm {values others : List ℚ} (permuted : values.Perm others) :
    average values = average others := by
  rw [average, average, permuted.sum_eq, permuted.length_eq]

theorem Holds.length_summed (holds : stats.Holds frames) :
    (stats.samples.toList.take stats.count).length = stats.count := by
  rw [List.length_take, Vector.length_toList, Nat.min_eq_left holds.count_le]

/-- The average the snapshot computes of a field is the one over the most recent frames. -/
theorem Holds.average_eq (holds : stats.Holds frames) (field : FrameSample → ℚ) :
    ((stats.samples.toList.take stats.count).map field).sum / stats.count =
      average ((frames.rtake kWindowSize).map field) := by
  rw [← average_perm (holds.take_perm.map field), average, List.length_map,
    holds.length_summed]

theorem Holds.snapshot (holds : stats.Holds frames) :
    ∃ snapshot, stats.snapshot = some snapshot ∧ Summarizes snapshot frames := by
  cases last : frames.getLast? with
  | none =>
      obtain rfl := List.getLast?_eq_none_iff.mp last
      have empty : stats.count = 0 := holds.count
      refine ⟨{}, by rw [FrameStats.snapshot, if_pos empty], rfl, rfl, ?_, ?_, ?_, ?_⟩
      all_goals simp [average]
  | some latest =>
      have used : stats.count ≠ 0 := by
        have frame := List.length_pos_of_mem (List.mem_of_getLast? last)
        rw [holds.count, kWindowSize]
        omega
      have small : stats.count < 2 ^ 32 :=
        Nat.lt_of_le_of_lt holds.count_le (by decide)
      have steps := holds.latest (by decide) last
      simp only [FrameStats.snapshot, if_neg used, holds.totals, steps, Option.bind_eq_bind,
        Option.bind_some, holds.average_eq]
      refine ⟨_, rfl, ?_, ?_, mul_comm _ _, mul_comm _ _, mul_comm _ _, rfl⟩
      · dsimp only
        rw [BitVec.toNat_ofNat, Nat.mod_eq_of_lt small, holds.count]
      · rw [last]
        rfl

end Window

/-- A reset leaves the statistics as they have been constructed. -/
theorem run_append_reset (before calls : List FrameStatsCall) :
    run (before ++ .reset :: calls) = run calls := by
  obtain ⟨stats, performed, -⟩ := holds_initial.foldlM_perform before
  rw [run, List.foldlM_append, performed, Option.bind_eq_bind, Option.bind_some,
    List.foldlM_cons]
  rfl

/-- After any calls a snapshot can be taken without leaving the array.  It sums over the
last frames added since the last reset, the whole window at most, and nothing from
before that reset is left. -/
theorem run_summarizes (calls : List FrameStatsCall) :
    ∃ stats window snapshot, run calls = some stats ∧
      stats.nextIndex < kWindowSize ∧ stats.count ≤ kWindowSize ∧
      stats.summedSamples = some window ∧
      window.Perm ((framesSinceReset calls).rtake kWindowSize) ∧
      window.length = min (framesSinceReset calls).length kWindowSize ∧
      stats.totals = some (window.foldl FrameTotals.add {}) ∧
      stats.snapshot = some snapshot ∧ Summarizes snapshot (framesSinceReset calls) ∧
      ∀ before, run (before ++ .reset :: calls) = some stats := by
  obtain ⟨stats, performed, holds⟩ := holds_initial.foldlM_perform calls
  obtain ⟨snapshot, taken, summarizes⟩ := holds.snapshot
  refine ⟨stats, stats.samples.toList.take stats.count, snapshot, performed,
    holds.next_lt (by decide), holds.count_le, holds.summedSamples, holds.take_perm, ?_, ?_,
    taken, summarizes, fun before => (run_append_reset before calls).trans performed⟩
  · rw [holds.length_summed]
    exact holds.count
  · rw [totals_eq, holds.summedSamples]
    rfl

end FrameStats

end Burnout3Recompiled
