import Burnout3Recompiled.LineText
import Burnout3Recompiled.OrderStatistics
import Mathlib.Algebra.Order.Floor.Ring
import Mathlib.Data.Rat.Floor
import Mathlib.Tactic.NormNum

/-!
# Frame pacing telemetry

A summary of frame durations: the extremes, the mean, the standard deviation, three
percentiles by the nearest rank, and how many frames took longer than four bounds.  A
duration is an exact rational number here, and the square root is any function.
-/

namespace Burnout3Recompiled

open LineText OrderStatistics

structure FramePacingTelemetrySummary where
  sampleCount : Nat := 0
  meanMs : ℚ := 0
  minMs : ℚ := 0
  maxMs : ℚ := 0
  stddevMs : ℚ := 0
  p50Ms : ℚ := 0
  p95Ms : ℚ := 0
  p99Ms : ℚ := 0
  over8333Ms : Nat := 0
  over9Ms : Nat := 0
  over10Ms : Nat := 0
  over12Ms : Nat := 0
  deriving DecidableEq

def kMillisecondsPerSecond : ℚ := 1000

def kTarget120HzMs : ℚ := kMillisecondsPerSecond / 120

def nearestRankPercentile (sortedMs : List ℚ) (percentile : ℚ) : ℚ :=
  if sortedMs.isEmpty then 0
  else
    let rank := ⌈percentile * sortedMs.length⌉
    let oneBasedRank := (max 1 rank).toNat
    let index := min (oneBasedRank - 1) (sortedMs.length - 1)
    sortedMs.getD index 0

/-- `*std::min_element`, zero for no samples. -/
def minElement : List ℚ → ℚ
  | [] => 0
  | first :: rest =>
      rest.foldl (fun smallest sample => if sample < smallest then sample else smallest) first

/-- `*std::max_element`, zero for no samples. -/
def maxElement : List ℚ → ℚ
  | [] => 0
  | first :: rest =>
      rest.foldl (fun largest sample => if largest < sample then sample else largest) first

/-- The accumulator and the counters of the loop over the samples. -/
structure DeviationTotals where
  squaredDeviationTotal : ℚ := 0
  over8333Ms : Nat := 0
  over9Ms : Nat := 0
  over10Ms : Nat := 0
  over12Ms : Nat := 0

def DeviationTotals.add (meanMs : ℚ) (totals : DeviationTotals) (sampleMs : ℚ) :
    DeviationTotals :=
  let deviation := sampleMs - meanMs
  { squaredDeviationTotal := totals.squaredDeviationTotal + deviation * deviation
    over8333Ms := if sampleMs > kTarget120HzMs then totals.over8333Ms + 1 else totals.over8333Ms
    over9Ms := if sampleMs > 9 then totals.over9Ms + 1 else totals.over9Ms
    over10Ms := if sampleMs > 10 then totals.over10Ms + 1 else totals.over10Ms
    over12Ms := if sampleMs > 12 then totals.over12Ms + 1 else totals.over12Ms }

def summarizeFramePacing (sqrt : ℚ → ℚ) (frameSeconds : List ℚ) :
    FramePacingTelemetrySummary :=
  if frameSeconds.isEmpty then {}
  else
    let samplesMs := frameSeconds.map (· * kMillisecondsPerSecond)
    let totalMs := samplesMs.foldl (fun total sampleMs => total + sampleMs) (0 : ℚ)
    let meanMs := totalMs / samplesMs.length
    let totals := samplesMs.foldl (DeviationTotals.add meanMs) {}
    let sortedMs := samplesMs.mergeSort
    { sampleCount := samplesMs.length
      meanMs := meanMs
      minMs := minElement samplesMs
      maxMs := maxElement samplesMs
      stddevMs := sqrt (totals.squaredDeviationTotal / samplesMs.length)
      p50Ms := nearestRankPercentile sortedMs (50 / 100)
      p95Ms := nearestRankPercentile sortedMs (95 / 100)
      p99Ms := nearestRankPercentile sortedMs (99 / 100)
      over8333Ms := totals.over8333Ms
      over9Ms := totals.over9Ms
      over10Ms := totals.over10Ms
      over12Ms := totals.over12Ms }

/-- The lines of a report.  The text of a duration, which has three places, is any function
here. -/
def framePacingLines (fixed : ℚ → String) (summary : FramePacingTelemetrySummary) :
    List (String × String) :=
  [("B3R_FRAME_PACING_TELEMETRY", "1"),
    ("SAMPLES", toString summary.sampleCount),
    ("MEAN_MS", fixed summary.meanMs),
    ("MIN_MS", fixed summary.minMs),
    ("MAX_MS", fixed summary.maxMs),
    ("STDDEV_MS", fixed summary.stddevMs),
    ("P50_MS", fixed summary.p50Ms),
    ("P95_MS", fixed summary.p95Ms),
    ("P99_MS", fixed summary.p99Ms),
    ("OVER_8_333MS", toString summary.over8333Ms),
    ("OVER_9MS", toString summary.over9Ms),
    ("OVER_10MS", toString summary.over10Ms),
    ("OVER_12MS", toString summary.over12Ms)]

def renderFramePacingReport (fixed : ℚ → String) (summary : FramePacingTelemetrySummary) :
    String :=
  String.join ((framePacingLines fixed summary).map labelledLine)

/-- How many samples a percentile leaves behind: all but the nearest rank. -/
def samplesBehind (percent count : Nat) : Nat :=
  count - (percent * count + 99) / 100

/-- The value is the smallest bound that leaves no more samples above it. -/
def IsPercentile (samplesMs : List ℚ) (percent : Nat) (value : ℚ) : Prop :=
  value ∈ samplesMs ∧ ∀ bound, value ≤ bound ↔
    countAbove bound samplesMs ≤ samplesBehind percent samplesMs.length

/-- The values of a summary in terms of the samples, whatever their order. -/
structure IsSummaryOf (sqrt : ℚ → ℚ) (samplesMs : List ℚ)
    (summary : FramePacingTelemetrySummary) : Prop where
  sampleCount : summary.sampleCount = samplesMs.length
  least : IsLeast {sample | sample ∈ samplesMs} summary.minMs
  greatest : IsGreatest {sample | sample ∈ samplesMs} summary.maxMs
  mean : summary.meanMs * samplesMs.length = samplesMs.sum
  deviation : ∃ variance, summary.stddevMs = sqrt variance ∧
    variance * samplesMs.length =
      (samplesMs.map fun sample => (sample - summary.meanMs) ^ 2).sum ∧
    0 ≤ variance ∧
    variance ≤ (summary.maxMs - summary.meanMs) * (summary.meanMs - summary.minMs)
  p50 : IsPercentile samplesMs 50 summary.p50Ms
  p95 : IsPercentile samplesMs 95 summary.p95Ms
  p99 : IsPercentile samplesMs 99 summary.p99Ms
  over8333 : summary.over8333Ms = countAbove kTarget120HzMs samplesMs
  over9 : summary.over9Ms = countAbove 9 samplesMs
  over10 : summary.over10Ms = countAbove 10 samplesMs
  over12 : summary.over12Ms = countAbove 12 samplesMs

namespace FramePacingTelemetrySummary

def percentiles (summary : FramePacingTelemetrySummary) : List (Nat × ℚ) :=
  [(50, summary.p50Ms), (95, summary.p95Ms), (99, summary.p99Ms)]

/-- The counters with their bounds. -/
def counters (summary : FramePacingTelemetrySummary) : List (ℚ × Nat) :=
  [(kTarget120HzMs, summary.over8333Ms), (9, summary.over9Ms), (10, summary.over10Ms),
    (12, summary.over12Ms)]

end FramePacingTelemetrySummary

/-- How the values of a summary are ordered, and that its percentiles and extremes tell the
same as its counters. -/
structure IsConsistent (summary : FramePacingTelemetrySummary) : Prop where
  percentiles : summary.minMs ≤ summary.p50Ms ∧ summary.p50Ms ≤ summary.p95Ms ∧
    summary.p95Ms ≤ summary.p99Ms ∧ summary.p99Ms ≤ summary.maxMs
  mean : summary.minMs ≤ summary.meanMs ∧ summary.meanMs ≤ summary.maxMs
  counters : summary.over12Ms ≤ summary.over10Ms ∧ summary.over10Ms ≤ summary.over9Ms ∧
    summary.over9Ms ≤ summary.over8333Ms ∧ summary.over8333Ms ≤ summary.sampleCount
  agrees : ∀ percentile ∈ summary.percentiles, ∀ counter ∈ summary.counters,
    (counter.1 < percentile.2 ↔
      samplesBehind percentile.1 summary.sampleCount < counter.2)
  none : ∀ counter ∈ summary.counters, counter.2 = 0 ↔ summary.maxMs ≤ counter.1 ∨
    summary.sampleCount = 0

section Percentiles

variable {samplesMs sortedMs : List ℚ} {percent : Nat} {value other : ℚ}

/-- The rank as the code computes it, for a percentage of a number of samples. -/
theorem ceil_rank (percent count : Nat) :
    ⌈(percent / 100 : ℚ) * count⌉ = ((percent * count + 99) / 100 : Nat) := by
  have division := Nat.div_add_mod (percent * count + 99) 100
  have small := Nat.mod_lt (percent * count + 99) (show 0 < 100 by decide)
  generalize (percent * count + 99) / 100 = rank at division ⊢
  have lower : (percent * count : ℚ) ≤ 100 * rank := by
    have bound : percent * count ≤ 100 * rank := by omega
    exact_mod_cast bound
  have upper : (100 * rank : ℚ) < percent * count + 100 := by
    have bound : 100 * rank < percent * count + 100 := by omega
    exact_mod_cast bound
  rw [Int.ceil_eq_iff, Int.cast_natCast]
  constructor <;> linarith

/-- The nearest rank is a place of the sorted samples. -/
theorem isPercentile_nearestRankPercentile (permuted : sortedMs.Perm samplesMs)
    (sorted : sortedMs.Pairwise (· ≤ ·)) (nonempty : samplesMs ≠ [])
    (positive : 0 < percent) (whole : percent ≤ 100) :
    IsPercentile samplesMs percent (nearestRankPercentile sortedMs (percent / 100)) := by
  have length := permuted.length_eq
  have some : 0 < samplesMs.length := List.length_pos_of_ne_nil nonempty
  have filled : sortedMs.isEmpty = false := by
    rw [List.isEmpty_eq_false_iff, ← List.length_pos_iff_ne_nil, length]
    exact some
  have product : percent * sortedMs.length ≤ 100 * sortedMs.length :=
    Nat.mul_le_mul_right _ whole
  have atLeast : 1 * 1 ≤ percent * sortedMs.length :=
    Nat.mul_le_mul positive (length ▸ some)
  have place : min ((max (1 : ℤ) ⌈(percent / 100 : ℚ) * sortedMs.length⌉).toNat - 1)
      (sortedMs.length - 1) = (percent * sortedMs.length + 99) / 100 - 1 := by
    rw [ceil_rank]
    omega
  have inside : (percent * sortedMs.length + 99) / 100 - 1 < sortedMs.length := by omega
  rw [nearestRankPercentile, filled]
  simp only [Bool.false_eq_true, if_false, place]
  rw [List.getD_eq_getElem?_getD, List.getElem?_eq_getElem inside, Option.getD_some]
  refine ⟨permuted.mem_iff.mp (List.getElem_mem inside), fun bound => ?_⟩
  rw [getElem_le_iff sorted inside, countAbove_perm permuted, samplesBehind, ← length]
  omega

theorem IsPercentile.le_of_le {more : Nat} (first : IsPercentile samplesMs percent value)
    (second : IsPercentile samplesMs more other) (ordered : percent ≤ more) :
    value ≤ other := by
  have fewer := (second.2 other).mp (le_refl _)
  have product : percent * samplesMs.length ≤ more * samplesMs.length :=
    Nat.mul_le_mul_right _ ordered
  rw [first.2, samplesBehind]
  rw [samplesBehind] at fewer
  omega

theorem IsPercentile.unique (first : IsPercentile samplesMs percent value)
    (second : IsPercentile samplesMs percent other) : value = other :=
  le_antisymm (first.le_of_le second (le_refl _)) (second.le_of_le first (le_refl _))

end Percentiles

section Summaries

variable {sqrt : ℚ → ℚ} {samplesMs others : List ℚ}
  {summary second : FramePacingTelemetrySummary}

theorem foldl_deviationTotals (meanMs : ℚ) (samplesMs : List ℚ) (totals : DeviationTotals) :
    samplesMs.foldl (DeviationTotals.add meanMs) totals =
      ⟨totals.squaredDeviationTotal + (samplesMs.map fun sample => (sample - meanMs) ^ 2).sum,
        totals.over8333Ms + countAbove kTarget120HzMs samplesMs,
        totals.over9Ms + countAbove 9 samplesMs, totals.over10Ms + countAbove 10 samplesMs,
        totals.over12Ms + countAbove 12 samplesMs⟩ := by
  have counts (total : Nat) (bound sample : ℚ) (samples : List ℚ) :
      (if sample > bound then total + 1 else total) + countAbove bound samples =
        total + countAbove bound (sample :: samples) := by
    rw [countAbove_cons]
    by_cases above : bound < sample
    · rw [if_pos above, if_pos above]
      omega
    · rw [if_neg above, if_neg above]
      omega
  induction samplesMs generalizing totals with
  | nil => simp [countAbove]
  | cons sample samples ih =>
      rw [List.foldl_cons, ih, DeviationTotals.add]
      simp only [counts, List.map_cons, List.sum_cons, sq, add_assoc]

theorem foldl_add_eq_sum (samplesMs : List ℚ) (total : ℚ) :
    samplesMs.foldl (fun total sampleMs => total + sampleMs) total =
      total + samplesMs.sum := by
  induction samplesMs generalizing total with
  | nil => simp
  | cons sample samples ih => rw [List.foldl_cons, ih, List.sum_cons, add_assoc]

theorem isLeast_minElement (nonempty : samplesMs ≠ []) :
    IsLeast {sample | sample ∈ samplesMs} (minElement samplesMs) := by
  obtain ⟨first, rest, rfl⟩ := List.exists_cons_of_ne_nil nonempty
  exact isLeast_foldl first rest

theorem isGreatest_maxElement (nonempty : samplesMs ≠ []) :
    IsGreatest {sample | sample ∈ samplesMs} (maxElement samplesMs) := by
  obtain ⟨first, rest, rfl⟩ := List.exists_cons_of_ne_nil nonempty
  exact isGreatest_foldl first rest

/-- The mean of the squared deviations lies between zero and what the extremes allow. -/
theorem deviation_bounds {low high mean : ℚ} (nonempty : samplesMs ≠ [])
    (least : IsLeast {sample | sample ∈ samplesMs} low)
    (greatest : IsGreatest {sample | sample ∈ samplesMs} high)
    (average : mean * samplesMs.length = samplesMs.sum) :
    let variance : ℚ :=
      (samplesMs.map fun sample => (sample - mean) ^ 2).sum / samplesMs.length
    0 ≤ variance ∧ variance ≤ (high - mean) * (mean - low) := by
  have positive : (0 : ℚ) < samplesMs.length :=
    Nat.cast_pos.mpr (List.length_pos_of_ne_nil nonempty)
  have squares : 0 ≤ (samplesMs.map fun sample => (sample - mean) ^ 2).sum := by
    apply List.sum_nonneg
    rintro square member
    obtain ⟨sample, -, rfl⟩ := List.mem_map.mp member
    exact sq_nonneg _
  have bound := @sum_sq_le ℚ _ _ _ samplesMs low high mean
    (fun sample member => least.2 member) fun sample member => greatest.2 member
  refine ⟨div_nonneg squares positive.le, (div_le_iff₀ positive).mpr (bound.trans_eq ?_)⟩
  rw [← average]
  ring

/-- What the loops compute, for samples in any order. -/
theorem summarizeFramePacing_isSummaryOf_map (sqrt : ℚ → ℚ) {frameSeconds : List ℚ}
    (nonempty : frameSeconds ≠ []) :
    IsSummaryOf sqrt (frameSeconds.map (· * kMillisecondsPerSecond))
      (summarizeFramePacing sqrt frameSeconds) := by
  have filled : frameSeconds.isEmpty = false := List.isEmpty_eq_false_iff.mpr nonempty
  have samples : frameSeconds.map (· * kMillisecondsPerSecond) ≠ [] :=
    fun none => nonempty (List.map_eq_nil_iff.mp none)
  rw [summarizeFramePacing, filled]
  simp only [Bool.false_eq_true, if_false]
  generalize frameSeconds.map (· * kMillisecondsPerSecond) = samplesMs at samples
  have positive : (samplesMs.length : ℚ) ≠ 0 :=
    Nat.cast_ne_zero.mpr (List.length_pos_of_ne_nil samples).ne'
  have average : (samplesMs.foldl (fun total sampleMs => total + sampleMs) 0 /
      samplesMs.length) * samplesMs.length = samplesMs.sum := by
    rw [foldl_add_eq_sum, zero_add, div_mul_cancel₀ _ positive]
  generalize samplesMs.foldl (fun total sampleMs => total + sampleMs) 0 /
    (samplesMs.length : ℚ) = meanMs at average
  have least := isLeast_minElement samples
  have greatest := isGreatest_maxElement samples
  have sorted : samplesMs.mergeSort.Pairwise (· ≤ ·) := List.pairwise_mergeSort' _ _
  have percentile (percent : Nat) (positive : 0 < percent) (whole : percent ≤ 100) :=
    isPercentile_nearestRankPercentile (List.mergeSort_perm samplesMs _) sorted samples
      positive whole
  simp only [foldl_deviationTotals, zero_add]
  exact
    { sampleCount := rfl
      least := least
      greatest := greatest
      mean := average
      deviation := ⟨_, rfl, div_mul_cancel₀ _ positive,
        deviation_bounds samples least greatest average⟩
      p50 := percentile 50 (by decide) (by decide)
      p95 := percentile 95 (by decide) (by decide)
      p99 := percentile 99 (by decide) (by decide)
      over8333 := rfl
      over9 := rfl
      over10 := rfl
      over12 := rfl }

namespace IsSummaryOf

theorem of_perm (isSummary : IsSummaryOf sqrt samplesMs summary)
    (permuted : samplesMs.Perm others) : IsSummaryOf sqrt others summary := by
  have members : {sample | sample ∈ samplesMs} = {sample | sample ∈ others} :=
    Set.ext fun sample => permuted.mem_iff
  have length := permuted.length_eq
  have percentile {percent : Nat} {value : ℚ} (isPercentile :
      IsPercentile samplesMs percent value) : IsPercentile others percent value := by
    refine ⟨permuted.mem_iff.mp isPercentile.1, fun bound => ?_⟩
    rw [isPercentile.2, countAbove_perm permuted, length]
  obtain ⟨variance, stddev, squares, bounds⟩ := isSummary.deviation
  exact
    { sampleCount := isSummary.sampleCount.trans length
      least := members ▸ isSummary.least
      greatest := members ▸ isSummary.greatest
      mean := by rw [← length, isSummary.mean, permuted.sum_eq]
      deviation := ⟨variance, stddev, by
        rw [← length, squares, (permuted.map _).sum_eq], bounds⟩
      p50 := percentile isSummary.p50
      p95 := percentile isSummary.p95
      p99 := percentile isSummary.p99
      over8333 := isSummary.over8333.trans (countAbove_perm permuted _)
      over9 := isSummary.over9.trans (countAbove_perm permuted _)
      over10 := isSummary.over10.trans (countAbove_perm permuted _)
      over12 := isSummary.over12.trans (countAbove_perm permuted _) }

/-- The samples leave no choice. -/
theorem unique (first : IsSummaryOf sqrt samplesMs summary)
    (other : IsSummaryOf sqrt samplesMs second) (nonempty : samplesMs ≠ []) :
    summary = second := by
  have positive : (samplesMs.length : ℚ) ≠ 0 :=
    Nat.cast_ne_zero.mpr (List.length_pos_of_ne_nil nonempty).ne'
  have mean : summary.meanMs = second.meanMs :=
    mul_right_cancel₀ positive (first.mean.trans other.mean.symm)
  have stddev : summary.stddevMs = second.stddevMs := by
    obtain ⟨variance, root, squares, -⟩ := first.deviation
    obtain ⟨otherVariance, otherRoot, otherSquares, -⟩ := other.deviation
    rw [← mean, ← squares] at otherSquares
    rw [root, otherRoot, mul_right_cancel₀ positive otherSquares]
  have least := first.least.unique other.least
  have greatest := first.greatest.unique other.greatest
  have p50 := first.p50.unique other.p50
  have p95 := first.p95.unique other.p95
  have p99 := first.p99.unique other.p99
  have sampleCount := first.sampleCount.trans other.sampleCount.symm
  have over8333 := first.over8333.trans other.over8333.symm
  have over9 := first.over9.trans other.over9.symm
  have over10 := first.over10.trans other.over10.symm
  have over12 := first.over12.trans other.over12.symm
  cases summary
  cases second
  simp only at *
  subst sampleCount mean least greatest stddev p50 p95 p99 over8333 over9 over10 over12
  rfl

theorem isConsistent (isSummary : IsSummaryOf sqrt samplesMs summary)
    (nonempty : samplesMs ≠ []) : IsConsistent summary := by
  have positive : (0 : ℚ) < samplesMs.length :=
    Nat.cast_pos.mpr (List.length_pos_of_ne_nil nonempty)
  obtain ⟨lowest, highest⟩ := @sum_mem_range ℚ _ _ _ samplesMs summary.minMs summary.maxMs
    (fun sample member => isSummary.least.2 member)
    fun sample member => isSummary.greatest.2 member
  rw [← isSummary.mean] at lowest highest
  have fewer := countAbove_antitone samplesMs
  refine ⟨⟨isSummary.least.2 isSummary.p50.1,
    isSummary.p50.le_of_le isSummary.p95 (by decide),
    isSummary.p95.le_of_le isSummary.p99 (by decide), isSummary.greatest.2 isSummary.p99.1⟩,
    ⟨le_of_mul_le_mul_right lowest positive, le_of_mul_le_mul_right highest positive⟩,
    ?_, ?_, ?_⟩
  · rw [isSummary.over12, isSummary.over10, isSummary.over9, isSummary.over8333,
      isSummary.sampleCount]
    refine ⟨fewer (by norm_num), fewer (by norm_num), fewer ?_, countAbove_le_length _ _⟩
    norm_num [kTarget120HzMs, kMillisecondsPerSecond]
  · have agrees {percent : Nat} {value : ℚ} (isPercentile :
        IsPercentile samplesMs percent value) : ∀ counter ∈ summary.counters,
        counter.1 < value ↔ samplesBehind percent summary.sampleCount < counter.2 := by
      simp only [FramePacingTelemetrySummary.counters, List.forall_mem_cons,
        List.not_mem_nil, false_imp_iff, implies_true, and_true, ← not_le, isPercentile.2,
        isSummary.sampleCount, isSummary.over8333, isSummary.over9, isSummary.over10,
        isSummary.over12]
    simp only [FramePacingTelemetrySummary.percentiles, List.forall_mem_cons]
    exact ⟨agrees isSummary.p50, agrees isSummary.p95, agrees isSummary.p99, by simp⟩
  · have counted : summary.sampleCount ≠ 0 :=
      isSummary.sampleCount.trans_ne (List.length_pos_of_ne_nil nonempty).ne'
    have none (bound : ℚ) : countAbove bound samplesMs = 0 ↔
        summary.maxMs ≤ bound ∨ summary.sampleCount = 0 := by
      rw [or_iff_left counted, countAbove_eq_zero_iff]
      exact ⟨fun all => all _ isSummary.greatest.1,
        fun most sample member => (isSummary.greatest.2 member).trans most⟩
    simp only [FramePacingTelemetrySummary.counters, List.forall_mem_cons,
      List.not_mem_nil, false_imp_iff, implies_true, and_true, ← none, isSummary.over8333,
      isSummary.over9, isSummary.over10, isSummary.over12]

end IsSummaryOf

theorem isConsistent_empty : IsConsistent {} := by
  refine ⟨by simp, by simp, by simp, ?_, ?_⟩ <;>
    simp [FramePacingTelemetrySummary.percentiles, FramePacingTelemetrySummary.counters,
      kTarget120HzMs, kMillisecondsPerSecond, samplesBehind]
  norm_num

end Summaries

/-- A summary does not depend on the order of the frames, tells what they are, and never
contradicts itself. -/
theorem summarizeFramePacing_isSummaryOf (sqrt : ℚ → ℚ) (frameSeconds : List ℚ) :
    (frameSeconds ≠ [] →
      IsSummaryOf sqrt (frameSeconds.map (· * kMillisecondsPerSecond))
        (summarizeFramePacing sqrt frameSeconds)) ∧
    (∀ reordered, frameSeconds.Perm reordered →
      summarizeFramePacing sqrt reordered = summarizeFramePacing sqrt frameSeconds) ∧
    IsConsistent (summarizeFramePacing sqrt frameSeconds) := by
  rcases Decidable.em (frameSeconds = []) with rfl | nonempty
  · refine ⟨fun filled => absurd rfl filled, ?_, isConsistent_empty⟩
    intro reordered permuted
    rw [permuted.nil_eq]
  · have isSummary := summarizeFramePacing_isSummaryOf_map sqrt nonempty
    have samples : frameSeconds.map (· * kMillisecondsPerSecond) ≠ [] :=
      fun none => nonempty (List.map_eq_nil_iff.mp none)
    refine ⟨fun _ => isSummary, ?_, isSummary.isConsistent samples⟩
    intro reordered permuted
    have others : reordered ≠ [] := fun none => nonempty (List.Perm.eq_nil (none ▸ permuted))
    have otherSummary := summarizeFramePacing_isSummaryOf_map sqrt others
    exact (otherSummary.of_perm (permuted.map _).symm).unique isSummary samples

/-- Three frames, one of which is late. -/
theorem summarizeFramePacing_isSummaryOf_lateFrame :
    IsSummaryOf id (List.map (· * kMillisecondsPerSecond) [1 / 120, 1 / 60, 1 / 120])
        (summarizeFramePacing id [1 / 120, 1 / 60, 1 / 120]) ∧
      summarizeFramePacing id [1 / 60, 1 / 120, 1 / 120] =
        summarizeFramePacing id [1 / 120, 1 / 60, 1 / 120] := by
  obtain ⟨isSummary, reorders, -⟩ :=
    summarizeFramePacing_isSummaryOf id [1 / 120, 1 / 60, 1 / 120]
  exact ⟨isSummary (by simp), reorders _ (.swap _ _ _)⟩

end Burnout3Recompiled
