import Burnout3Recompiled.ToolHost
import Burnout3Recompiled.ToolOptions
import Burnout3Recompiled.WindowsFramePacer
import Mathlib.Algebra.BigOperators.Ring.List

/-!
# The pacing probe

The program waits for the frames of a number of seconds and reports how long they have
taken.  Its output is opened before the first frame, so that a probe that is stopped leaves
an empty file behind.  Times and durations are exact rational numbers here.
-/

namespace Burnout3Recompiled

open CommandLine LineText OrderStatistics SlotGrid

def kTargetHz : Nat := 120

/-- What is answered while a probe runs.  The clock shows its readings one after the other.
The square root and the text of a duration are any functions. -/
structure ProbeSystem where
  timers : TimerSystem
  /-- The durations take the first request for room, their milliseconds the second. -/
  durationRoom : VectorRoom
  readings : List ℚ
  sqrt : ℚ → ℚ
  fixed : ℚ → String

/-- The frames that have been waited for.  The reading at the start of the pacer is kept to
talk about its slots. -/
structure ProbeMeasurement where
  startSeconds : ℚ
  previousSeconds : ℚ
  waits : List FrameWait
  highResolutionTimer : Bool

inductive ProbeEnd where
  | refused (message : String)
  | threw
  | hangs
  | measured (measurement : ProbeMeasurement)

/-- The pacer is made, memory is taken, the frames are waited for, and then the summary takes
memory too. -/
def measureFrames (system : ProbeSystem) (frameCount : Nat) : ProbeEnd :=
  match system.readings with
  | [] => .hangs
  | startSeconds :: readings =>
      match WindowsFramePacer.construct system.timers kTargetHz startSeconds with
      | .error _ => .threw
      | .ok pacer =>
          if !system.durationRoom.grants 0 frameCount then .threw
          else
            match readings with
            | [] => .hangs
            | previousSeconds :: readings =>
                match pacer.waitForFrames frameCount readings with
                | none => .hangs
                | some waits =>
                    if !system.durationRoom.grants 1 frameCount then .threw
                    else
                      .measured
                        ⟨startSeconds, previousSeconds, waits, pacer.highResolutionTimer⟩

def runBurnout3PacingProbe (system : ProbeSystem) (options : Burnout3PacingProbeOptions) :
    ProbeEnd :=
  if options.seconds > (2 ^ 64 - 1) / kTargetHz then
    .refused "requested duration is too large"
  else measureFrames system (options.seconds * kTargetHz)

/-- Every duration ends where the next one begins. -/
def frameDurations (previousSeconds : ℚ) : List ℚ → List ℚ
  | [] => []
  | nowSeconds :: later => (nowSeconds - previousSeconds) :: frameDurations nowSeconds later

namespace ProbeMeasurement

def frameTimes (measurement : ProbeMeasurement) : List ℚ :=
  measurement.waits.map (·.nowSeconds)

def telemetry (system : ProbeSystem) (measurement : ProbeMeasurement) :
    FramePacingTelemetrySummary :=
  summarizeFramePacing system.sqrt
    (frameDurations measurement.previousSeconds measurement.frameTimes)

def timerText (measurement : ProbeMeasurement) : String :=
  if measurement.highResolutionTimer then "YES" else "NO"

def openingLines (seconds : Nat) : List (String × String) :=
  [("B3R_PACING_PROBE", "1"),
    ("TARGET_HZ", "120"),
    ("REQUESTED_SECONDS", toString seconds),
    ("FRAMES", toString (seconds * kTargetHz))]

/-- The report of the frames stands in the report of the probe as it is. -/
def report (system : ProbeSystem) (seconds : Nat) (measurement : ProbeMeasurement) : String :=
  String.join ((openingLines seconds).map labelledLine) ++
    renderFramePacingReport system.fixed (measurement.telemetry system) ++
    labelledLine ("HIGH_RESOLUTION_TIMER", measurement.timerText)

end ProbeMeasurement

def burnout3PacingProbeUsage : String :=
  "Usage: Burnout3PacingProbe [--seconds <count>] [--output <path>]\n" ++
    "       Burnout3PacingProbe --help\n\n" ++
    "Captures 120 Hz Windows frame-pacing telemetry using the production pacer.\n" ++
    "Default --seconds: 60. If --output is omitted, the report is written to stdout.\n"

def probeErrorText (message : String) : String :=
  "Burnout3PacingProbe: " ++ message

/-- The end of `main` behind an output that is open.  Only a file is flushed and asked
whether it has taken all of the report. -/
def finishPacingProbe (host : ToolHost) (system : ProbeSystem)
    (options : Burnout3PacingProbeOptions) : ToolRun :=
  let opened := options.outputPath.toList.map .truncateOutput
  match runBurnout3PacingProbe system options with
  | .refused message =>
      ⟨.exits 4, opened ++ [.standardError (probeErrorText message ++ "\n")]⟩
  | .threw => ⟨.terminates, opened⟩
  | .hangs => ⟨.hangs, opened⟩
  | .measured measurement =>
      let report := measurement.report system options.seconds
      match options.outputPath with
      | none => ⟨.exits 0, reportEffects none report (host.completesStandardOutput report)⟩
      | some path =>
          if host.completesOutput path report then
            ⟨.exits 0, reportEffects (some path) report true⟩
          else
            ⟨.exits 3, reportEffects (some path) report false ++
              [.standardError (probeErrorText ("failed to write output file: " ++ path) ++
                "\n")]⟩

/-- `main`, whose first argument is the program. -/
def burnout3PacingProbeMain (host : ToolHost) (system : ProbeSystem) (argv : List String) :
    ToolRun :=
  match parseBurnout3PacingProbeOptions (argv.drop 1) with
  | .error failure =>
      ⟨.exits 2, [.standardError (probeErrorText failure.message ++ "\n\n" ++
        burnout3PacingProbeUsage)]⟩
  | .ok options =>
      if options.showHelp then
        ⟨.exits 0, [.standardOutput burnout3PacingProbeUsage
          (host.completesStandardOutput burnout3PacingProbeUsage)]⟩
      else
        match options.outputPath.filter (!host.opensOutput ·) with
        | some path =>
            ⟨.exits 3, [.standardError
              (probeErrorText ("failed to open output file: " ++ path) ++ "\n")]⟩
        | none => finishPacingProbe host system options

/-- How many frames come later than in the slot behind the one of the frame before. -/
def framesBehindGaps (slotAt : ℚ → ℤ) (previousSeconds : ℚ) : List ℚ → Nat
  | [] => 0
  | nowSeconds :: later => framesBehindGaps slotAt nowSeconds later +
      if slotAt previousSeconds + 1 < slotAt nowSeconds then 1 else 0

section Durations

variable {startSeconds periodSeconds previousSeconds : ℚ} {frameTimes : List ℚ}

@[simp] theorem length_frameDurations :
    (frameDurations previousSeconds frameTimes).length = frameTimes.length := by
  induction frameTimes generalizing previousSeconds with
  | nil => rfl
  | cons nowSeconds later ih => rw [frameDurations, List.length_cons, ih, List.length_cons]

/-- The durations leave out nothing between the first reading and the last. -/
theorem sum_frameDurations :
    (frameDurations previousSeconds frameTimes).sum =
      frameTimes.getLastD previousSeconds - previousSeconds := by
  induction frameTimes generalizing previousSeconds with
  | nil => simp [frameDurations]
  | cons nowSeconds later ih =>
      rw [frameDurations, List.sum_cons, ih, List.getLastD_cons]
      ring

/-- Between two times that are more than a slot apart lies more than a period. -/
theorem period_lt_of_gap (positive : 0 < periodSeconds) {nowSeconds : ℚ}
    (gap : slotOf startSeconds periodSeconds previousSeconds + 1 <
      slotOf startSeconds periodSeconds nowSeconds) :
    periodSeconds < nowSeconds - previousSeconds := by
  have before := (slotOf_lt_iff positive).mp
    (lt_add_one (slotOf startSeconds periodSeconds previousSeconds))
  have reached := (le_slotOf_iff positive).mp (Int.add_one_le_iff.mpr gap)
  rw [slot_add, Int.cast_one, one_mul] at reached
  linarith

theorem framesBehindGaps_le (positive : 0 < periodSeconds) :
    framesBehindGaps (slotOf startSeconds periodSeconds) previousSeconds frameTimes ≤
      countAbove periodSeconds (frameDurations previousSeconds frameTimes) := by
  induction frameTimes generalizing previousSeconds with
  | nil => exact Nat.zero_le _
  | cons nowSeconds later ih =>
      rw [framesBehindGaps, frameDurations, countAbove_cons]
      refine Nat.add_le_add ih ?_
      split
      · next gap => rw [if_pos (period_lt_of_gap positive gap)]
      · exact Nat.zero_le _

/-- Frames whose slots grow, and which leave no gaps, have one slot after the other. -/
theorem isChain_of_noGaps {slotAt : ℚ → ℤ}
    (none : framesBehindGaps slotAt previousSeconds frameTimes = 0)
    (grows : (frameTimes.map slotAt).Pairwise (· < ·)) :
    (frameTimes.map slotAt).IsChain fun before after => after = before + 1 := by
  induction frameTimes generalizing previousSeconds with
  | nil => exact .nil
  | cons nowSeconds later ih =>
      rw [framesBehindGaps] at none
      obtain ⟨noneLater, -⟩ := Nat.add_eq_zero_iff.mp none
      rw [List.map_cons, List.pairwise_cons] at grows
      have chain := ih noneLater grows.2
      cases later with
      | nil => exact .singleton _
      | cons next later =>
          rw [framesBehindGaps] at noneLater
          obtain ⟨-, noGap⟩ := Nat.add_eq_zero_iff.mp noneLater
          have ordered := grows.1 (slotAt next) (by simp)
          refine .cons_cons ?_ chain
          split at noGap
          · cases noGap
          · omega

theorem countAbove_map_mul (bound factor : ℚ) (positive : 0 < factor) (values : List ℚ) :
    countAbove (bound * factor) (values.map (· * factor)) = countAbove bound values := by
  rw [countAbove, List.countP_map, countAbove]
  congr 1
  funext value
  simp [mul_lt_mul_iff_left₀ positive]

end Durations

namespace ProbeMeasurement

def lastSeconds (measurement : ProbeMeasurement) : ℚ :=
  measurement.frameTimes.getLastD measurement.previousSeconds

/-- The slot of a time, from the start of the pacer on. -/
def slotAt (measurement : ProbeMeasurement) : ℚ → ℤ :=
  slotOf measurement.startSeconds (1 / kTargetHz)

end ProbeMeasurement

/-- What the telemetry of a probe says about the clock and the pacer. -/
structure MeasuresSeconds (system : ProbeSystem) (seconds : Nat)
    (measurement : ProbeMeasurement) : Prop where
  frames : (measurement.telemetry system).sampleCount = seconds * kTargetHz
  paces : PacesFrames measurement.startSeconds (1 / kTargetHz) measurement.waits
  isSummary : IsSummaryOf system.sqrt
    ((frameDurations measurement.previousSeconds measurement.frameTimes).map
      (· * kMillisecondsPerSecond)) (measurement.telemetry system)
  isConsistent : IsConsistent (measurement.telemetry system)
  notShort : measurement.startSeconds + seconds ≤ measurement.lastSeconds
  mean : (measurement.telemetry system).meanMs * (seconds * kTargetHz : Nat) =
    (measurement.lastSeconds - measurement.previousSeconds) * kMillisecondsPerSecond
  gaps : framesBehindGaps measurement.slotAt measurement.previousSeconds
    measurement.frameTimes ≤ (measurement.telemetry system).over8333Ms
  onTime : (measurement.telemetry system).over8333Ms = 0 →
    (measurement.frameTimes.map measurement.slotAt).IsChain
      fun before after => after = before + 1

section Measuring

variable {system : ProbeSystem} {seconds frameCount : Nat}
  {measurement : ProbeMeasurement}

theorem measureFrames_eq_measured_iff :
    measureFrames system frameCount = .measured measurement ↔
      ∃ pacer readings,
        system.readings =
          measurement.startSeconds :: measurement.previousSeconds :: readings ∧
        WindowsFramePacer.construct system.timers kTargetHz measurement.startSeconds =
          .ok pacer ∧
        system.durationRoom.grants 0 frameCount = true ∧
        pacer.waitForFrames frameCount readings = some measurement.waits ∧
        system.durationRoom.grants 1 frameCount = true ∧
        pacer.highResolutionTimer = measurement.highResolutionTimer := by
  rw [measureFrames]
  constructor
  · intro measured
    split at measured
    · cases measured
    · next startSeconds readings shown =>
        split at measured
        · cases measured
        · next pacer constructed =>
            split at measured
            · cases measured
            · next reserved =>
                rw [Bool.not_eq_true, Bool.not_eq_false'] at reserved
                split at measured
                · cases measured
                · next previousSeconds readings =>
                    split at measured
                    · cases measured
                    · next waits waited =>
                        split at measured
                        · cases measured
                        · next summarized =>
                            rw [Bool.not_eq_true, Bool.not_eq_false'] at summarized
                            obtain rfl := ProbeEnd.measured.inj measured
                            exact ⟨pacer, readings, shown, constructed, reserved, waited,
                              summarized, rfl⟩
  · rintro ⟨pacer, readings, shown, constructed, reserved, waited, summarized, timer⟩
    simp only [shown, constructed, reserved, waited, summarized, timer]
    rfl

theorem measureFrames_ne_refused (message : String) :
    measureFrames system frameCount ≠ .refused message := by
  unfold measureFrames
  repeat' split
  all_goals simp

/-- The last frame of some seconds comes at their end or later. -/
theorem startSeconds_add_le {startSeconds previousSeconds : ℚ} {waits : List FrameWait}
    (paces : PacesFrames startSeconds (1 / kTargetHz) waits)
    (length : waits.length = seconds * kTargetHz) (positive : 0 < seconds) :
    startSeconds + seconds ≤
      (waits.map (·.nowSeconds)).getLastD previousSeconds := by
  rw [kTargetHz] at length
  have inside : seconds * 120 - 1 < waits.length := by omega
  have last : (waits.map (·.nowSeconds)).getLastD previousSeconds =
      waits[seconds * 120 - 1].nowSeconds := by
    rw [List.getLastD_eq_getLast?, List.getLast?_eq_getElem?, List.length_map, length,
      List.getElem?_map, List.getElem?_eq_getElem inside]
    rfl
  have reached := paces.notEarly _ _ (List.getElem?_eq_getElem inside)
  have whole : ((seconds * 120 - 1 : Nat) + 1 : ℚ) * (1 / kTargetHz) = seconds := by
    rw [kTargetHz, Nat.cast_sub (by omega)]
    push_cast
    ring
  rw [whole] at reached
  rw [last]
  exact reached

theorem measuresSeconds_of_measured (positive : 0 < seconds)
    (measured : measureFrames system (seconds * kTargetHz) = .measured measurement) :
    MeasuresSeconds system seconds measurement := by
  obtain ⟨pacer, readings, -, constructed, -, waited, -, -⟩ :=
    measureFrames_eq_measured_iff.mp measured
  have endsSlot := endsSlot_construct constructed
  have length := (endsSlot.waitForFrames waited).1
  have paces := endsSlot.pacesFrames waited
  have durations : (frameDurations measurement.previousSeconds measurement.frameTimes).length =
      seconds * kTargetHz := by
    rw [length_frameDurations, ProbeMeasurement.frameTimes, List.length_map, length]
  have nonempty : frameDurations measurement.previousSeconds measurement.frameTimes ≠ [] := by
    apply List.ne_nil_of_length_pos
    rw [durations]
    exact Nat.mul_pos positive (by decide)
  have isSummary := summarizeFramePacing_isSummaryOf_map system.sqrt nonempty
  have late : (measurement.telemetry system).over8333Ms = countAbove (1 / kTargetHz : ℚ)
      (frameDurations measurement.previousSeconds measurement.frameTimes) := by
    have bound : kTarget120HzMs = 1 / kTargetHz * kMillisecondsPerSecond := by
      norm_num [kTarget120HzMs, kTargetHz, kMillisecondsPerSecond]
    rw [ProbeMeasurement.telemetry, isSummary.over8333, bound,
      countAbove_map_mul _ _ (by norm_num [kMillisecondsPerSecond])]
  have gaps : framesBehindGaps measurement.slotAt measurement.previousSeconds
      measurement.frameTimes ≤ (measurement.telemetry system).over8333Ms := by
    rw [late]
    exact framesBehindGaps_le (by norm_num [kTargetHz])
  exact
    { frames := by
        rw [ProbeMeasurement.telemetry, isSummary.sampleCount, List.length_map, durations]
      paces := paces
      isSummary := isSummary
      isConsistent := isSummary.isConsistent (by simpa using nonempty)
      notShort := startSeconds_add_le paces length positive
      mean := by
        have mean := isSummary.mean
        rw [List.length_map, durations, List.sum_map_mul_right, List.map_id',
          sum_frameDurations] at mean
        exact mean
      gaps := gaps
      onTime := by
        intro none
        refine isChain_of_noGaps (Nat.le_zero.mp (none ▸ gaps)) ?_
        rw [ProbeMeasurement.frameTimes, List.map_map]
        exact paces.slots }

end Measuring

/-- The probe is asked for and its output is open. -/
structure Probes (host : ToolHost) (args : List String)
    (options : Burnout3PacingProbeOptions) : Prop where
  accepts : parseBurnout3PacingProbeOptions args = .ok options
  noHelp : options.showHelp = false
  opens : ∀ path ∈ options.outputPath, host.opensOutput path = true
  fits : options.seconds * kTargetHz < 2 ^ 64

/-- The frames can be waited for, and all of them come. -/
def FramesCome (system : ProbeSystem) (frameCount : Nat) (startSeconds : ℚ)
    (readings : List ℚ) : Prop :=
  ∃ pacer previousSeconds later,
    WindowsFramePacer.construct system.timers kTargetHz startSeconds = .ok pacer ∧
    readings = previousSeconds :: later ∧ ¬Hangs pacer frameCount later

/-- There is no timer, no memory for the durations, or, when all frames have come, none for
their milliseconds. -/
def Throws (system : ProbeSystem) (frameCount : Nat) : Prop :=
  ∃ startSeconds readings, system.readings = startSeconds :: readings ∧
    (system.timers.highResolutionTimer = false ∧ system.timers.waitableTimer = false ∨
      system.durationRoom.grants 0 frameCount = false ∨
      FramesCome system frameCount startSeconds readings ∧
        system.durationRoom.grants 1 frameCount = false)

/-- The clock does not show what is waited for. -/
def Stalls (system : ProbeSystem) (frameCount : Nat) : Prop :=
  system.readings = [] ∨ ∃ startSeconds readings pacer,
    system.readings = startSeconds :: readings ∧
    WindowsFramePacer.construct system.timers kTargetHz startSeconds = .ok pacer ∧
    system.durationRoom.grants 0 frameCount = true ∧
    ∀ previousSeconds later, readings = previousSeconds :: later →
      Hangs pacer frameCount later

section Ends

variable {system : ProbeSystem} {frameCount : Nat}

theorem measureFrames_eq_threw_iff :
    measureFrames system frameCount = .threw ↔ Throws system frameCount := by
  have positive : (0 : ℚ) < kTargetHz := by norm_num [kTargetHz]
  rw [measureFrames]
  cases shown : system.readings with
  | nil => simp [Throws, shown]
  | cons startSeconds readings =>
      have refused := @construct_eq_error_iff system.timers _ startSeconds positive
      cases made : WindowsFramePacer.construct system.timers kTargetHz startSeconds with
      | error message =>
          rw [made] at refused
          refine iff_of_true ?_ ⟨_, _, shown, .inl (refused.mp ⟨message, rfl⟩)⟩
          simp only [made]
      | ok pacer =>
          rw [made] at refused
          have timers := refused.not.mp (by simp)
          have memory : Throws system frameCount ↔
              system.durationRoom.grants 0 frameCount = false ∨
                FramesCome system frameCount startSeconds readings ∧
                  system.durationRoom.grants 1 frameCount = false := by
            simp [Throws, shown, timers]
          rw [memory, FramesCome]
          cases system.durationRoom.grants 0 frameCount with
          | false => simp [made]
          | true =>
              cases readings with
              | nil => simp [made]
              | cons previousSeconds later =>
                  cases waited : pacer.waitForFrames frameCount later with
                  | none => simp [made, ← waitForFrames_eq_none_iff, waited]
                  | some waits =>
                      cases system.durationRoom.grants 1 frameCount <;>
                        simp [made, ← waitForFrames_eq_none_iff, waited]

theorem measureFrames_eq_hangs_iff :
    measureFrames system frameCount = .hangs ↔ Stalls system frameCount := by
  rw [measureFrames, Stalls]
  cases system.readings with
  | nil => simp
  | cons startSeconds readings =>
      cases made : WindowsFramePacer.construct system.timers kTargetHz startSeconds with
      | error message => simp [made]
      | ok pacer =>
          cases reserved : system.durationRoom.grants 0 frameCount with
          | false => simp [made]
          | true =>
              cases readings with
              | nil => simp [made]
              | cons previousSeconds later =>
                  cases waited : pacer.waitForFrames frameCount later with
                  | none => simp [made, ← waitForFrames_eq_none_iff, waited]
                  | some waits =>
                      cases system.durationRoom.grants 1 frameCount <;>
                        simp [made, ← waitForFrames_eq_none_iff, waited]

end Ends

/-- All the ways in which a probe can end. -/
inductive PacingProbeOutcome (host : ToolHost) (system : ProbeSystem) (args : List String) :
    ToolRun → Prop where
  | refused {failure : Burnout3PacingProbeOptionsFailure} {text : String}
      (refuses : parseBurnout3PacingProbeOptions args = .error failure) :
      PacingProbeOutcome host system args ⟨.exits 2, [.standardError text]⟩
  | help {options : Burnout3PacingProbeOptions} {complete : Bool}
      (accepts : parseBurnout3PacingProbeOptions args = .ok options)
      (help : options.showHelp = true) :
      PacingProbeOutcome host system args
        ⟨.exits 0, [.standardOutput burnout3PacingProbeUsage complete]⟩
  | closed {options : Burnout3PacingProbeOptions} {path text : String}
      (accepts : parseBurnout3PacingProbeOptions args = .ok options)
      (noHelp : options.showHelp = false) (output : options.outputPath = some path)
      (closed : host.opensOutput path = false) :
      PacingProbeOutcome host system args ⟨.exits 3, [.standardError text]⟩
  | tooLong {options : Burnout3PacingProbeOptions} {text : String}
      (accepts : parseBurnout3PacingProbeOptions args = .ok options)
      (noHelp : options.showHelp = false)
      (opens : ∀ path ∈ options.outputPath, host.opensOutput path = true)
      (long : 2 ^ 64 ≤ options.seconds * kTargetHz) :
      PacingProbeOutcome host system args
        ⟨.exits 4, options.outputPath.toList.map .truncateOutput ++ [.standardError text]⟩
  | threw {options : Burnout3PacingProbeOptions} (probes : Probes host args options)
      (throws : Throws system (options.seconds * kTargetHz)) :
      PacingProbeOutcome host system args
        ⟨.terminates, options.outputPath.toList.map .truncateOutput⟩
  | hangs {options : Burnout3PacingProbeOptions} (probes : Probes host args options)
      (stalls : Stalls system (options.seconds * kTargetHz)) :
      PacingProbeOutcome host system args
        ⟨.hangs, options.outputPath.toList.map .truncateOutput⟩
  | incomplete {options : Burnout3PacingProbeOptions} {measurement : ProbeMeasurement}
      {path text : String} (probes : Probes host args options)
      (measured : measureFrames system (options.seconds * kTargetHz) = .measured measurement)
      (output : options.outputPath = some path)
      (incomplete : host.completesOutput path (measurement.report system options.seconds) =
        false) :
      PacingProbeOutcome host system args
        ⟨.exits 3, reportEffects options.outputPath (measurement.report system options.seconds)
          false ++ [.standardError text]⟩
  | reported {options : Burnout3PacingProbeOptions} {measurement : ProbeMeasurement}
      {complete : Bool} (probes : Probes host args options)
      (measured : measureFrames system (options.seconds * kTargetHz) = .measured measurement)
      (complete_of_output : options.outputPath ≠ none → complete = true) :
      PacingProbeOutcome host system args
        ⟨.exits 0, reportEffects options.outputPath (measurement.report system options.seconds)
          complete⟩

section Outcomes

variable {host : ToolHost} {system : ProbeSystem} {args : List String}
  {options : Burnout3PacingProbeOptions} {run : ToolRun}

theorem tooLong_iff {seconds : Nat} :
    seconds > (2 ^ 64 - 1) / kTargetHz ↔ 2 ^ 64 ≤ seconds * kTargetHz := by
  rw [kTargetHz]
  omega

theorem finishPacingProbe_outcome
    (accepts : parseBurnout3PacingProbeOptions args = .ok options)
    (noHelp : options.showHelp = false)
    (opens : ∀ path ∈ options.outputPath, host.opensOutput path = true) :
    PacingProbeOutcome host system args (finishPacingProbe host system options) := by
  rw [finishPacingProbe, runBurnout3PacingProbe]
  rcases Nat.lt_or_ge (options.seconds * kTargetHz) (2 ^ 64) with fits | long
  · rw [if_neg (tooLong_iff.not.mpr (not_le.mpr fits))]
    have probes : Probes host args options := ⟨accepts, noHelp, opens, fits⟩
    cases measured : measureFrames system (options.seconds * kTargetHz) with
    | refused message => exact absurd measured (measureFrames_ne_refused _)
    | threw => exact .threw probes (measureFrames_eq_threw_iff.mp measured)
    | hangs => exact .hangs probes (measureFrames_eq_hangs_iff.mp measured)
    | measured measurement =>
        have reported (complete : Bool) :=
          @PacingProbeOutcome.reported host system args options measurement complete probes
            measured
        cases output : options.outputPath with
        | none =>
            simp only
            rw [← output]
            exact reported _ fun some => absurd output some
        | some path =>
            simp only
            split
            · rw [← output]
              exact reported true fun _ => rfl
            · next incomplete =>
                rw [← output]
                exact .incomplete probes measured output (eq_false_of_ne_true incomplete)
  · rw [if_pos (tooLong_iff.mpr long)]
    exact .tooLong accepts noHelp opens long

theorem burnout3PacingProbeMain_outcome (host : ToolHost) (system : ProbeSystem)
    (program : String) (args : List String) :
    PacingProbeOutcome host system args
      (burnout3PacingProbeMain host system (program :: args)) := by
  rw [burnout3PacingProbeMain, List.drop_succ_cons, List.drop_zero]
  split
  · next failure refuses => exact .refused refuses
  · next options accepts =>
      split
      · next help => exact .help accepts help
      · next noHelp =>
          have noHelp := eq_false_of_ne_true noHelp
          split
          · next path unopened =>
              obtain ⟨output, closed⟩ := Option.filter_eq_some_iff.mp unopened
              exact .closed accepts noHelp output (by simpa using closed)
          · next opened =>
              refine finishPacingProbe_outcome accepts noHelp fun path output => ?_
              have opens := Option.filter_eq_none_iff.mp opened path output
              simpa using opens

theorem burnout3PacingProbeMain_of_opens {program : String}
    (accepts : parseBurnout3PacingProbeOptions args = .ok options)
    (noHelp : options.showHelp = false)
    (opens : ∀ path ∈ options.outputPath, host.opensOutput path = true) :
    burnout3PacingProbeMain host system (program :: args) =
      finishPacingProbe host system options := by
  have opened : options.outputPath.filter (!host.opensOutput ·) = none := by
    rw [Option.filter_eq_none_iff]
    intro path output
    simp [opens path output]
  rw [burnout3PacingProbeMain, List.drop_succ_cons, List.drop_zero, accepts]
  simp only [noHelp, opened, Bool.false_eq_true, if_false]

theorem finishPacingProbe_of_fits (fits : options.seconds * kTargetHz < 2 ^ 64) :
    runBurnout3PacingProbe system options =
      measureFrames system (options.seconds * kTargetHz) :=
  if_neg (tooLong_iff.not.mpr (not_le.mpr fits))

/-- The frames that have been asked for, which have come. -/
def Measures (host : ToolHost) (system : ProbeSystem) (args : List String)
    (options : Burnout3PacingProbeOptions) (measurement : ProbeMeasurement) : Prop :=
  Probes host args options ∧
    measureFrames system (options.seconds * kTargetHz) = .measured measurement

/-- How a probe ends and what it leaves behind, whatever the clock, the timer and the
streams do. -/
structure ProbesAsAsked (host : ToolHost) (system : ProbeSystem) (args : List String)
    (run : ToolRun) : Prop where
  refused : run.ending = .exits 2 ↔ ∀ groups, pacingProbeGrammar.IsLine groups →
    args ≠ groups.flatMap (words pacingProbeGrammar)
  tooLong : run.ending = .exits 4 ↔ ∃ options,
    parseBurnout3PacingProbeOptions args = .ok options ∧ options.showHelp = false ∧
      (∀ path ∈ options.outputPath, host.opensOutput path = true) ∧
      2 ^ 64 ≤ options.seconds * kTargetHz
  terminates : run.ending = .terminates ↔
    ∃ options, Probes host args options ∧ Throws system (options.seconds * kTargetHz)
  hangs : run.ending = .hangs ↔
    ∃ options, Probes host args options ∧ Stalls system (options.seconds * kTargetHz)
  truncated : ∀ path, .truncateOutput path ∈ run.effects → ∃ options,
    parseBurnout3PacingProbeOptions args = .ok options ∧ options.showHelp = false ∧
      options.outputPath = some path
  written : ∀ path text complete, .writeOutput path text complete ∈ run.effects →
    ∃ options measurement, Measures host system args options measurement ∧
      options.outputPath = some path ∧ text = measurement.report system options.seconds
  printed : ∀ text complete, .standardOutput text complete ∈ run.effects →
    (∃ options, parseBurnout3PacingProbeOptions args = .ok options ∧
      options.showHelp = true ∧ text = burnout3PacingProbeUsage) ∨
    ∃ options measurement, Measures host system args options measurement ∧
      options.outputPath = none ∧ text = measurement.report system options.seconds
  succeeded : run.ending = .exits 0 →
    (∃ options, parseBurnout3PacingProbeOptions args = .ok options ∧
      options.showHelp = true) ∨
    ∃ options measurement complete, Measures host system args options measurement ∧
      run.effects = reportEffects options.outputPath
        (measurement.report system options.seconds) complete ∧
      (options.outputPath ≠ none → complete = true)

namespace PacingProbeOutcome

/-- Where an effect comes from. -/
theorem effect_cases (outcome : PacingProbeOutcome host system args run) {effect : ToolEffect}
    (member : effect ∈ run.effects) :
    (∃ text, effect = .standardError text) ∨
      (∃ options complete, parseBurnout3PacingProbeOptions args = .ok options ∧
        options.showHelp = true ∧ effect = .standardOutput burnout3PacingProbeUsage complete) ∨
      (∃ options path, parseBurnout3PacingProbeOptions args = .ok options ∧
        options.showHelp = false ∧ options.outputPath = some path ∧
        effect = .truncateOutput path) ∨
      ∃ options measurement complete, Measures host system args options measurement ∧
        effect ∈ reportEffects options.outputPath
          (measurement.report system options.seconds) complete := by
  have opened {options : Burnout3PacingProbeOptions}
      (member : effect ∈ options.outputPath.toList.map ToolEffect.truncateOutput) :
      ∃ path, options.outputPath = some path ∧ effect = .truncateOutput path := by
    obtain ⟨path, output, rfl⟩ := List.mem_map.mp member
    exact ⟨path, Option.mem_toList.mp output, rfl⟩
  cases outcome with
  | refused | closed => exact .inl ⟨_, List.mem_singleton.mp member⟩
  | help accepts help => exact .inr (.inl ⟨_, _, accepts, help, List.mem_singleton.mp member⟩)
  | tooLong accepts noHelp =>
      rcases List.mem_append.mp member with truncated | error
      · obtain ⟨path, output, same⟩ := opened truncated
        exact .inr (.inr (.inl ⟨_, path, accepts, noHelp, output, same⟩))
      · exact .inl ⟨_, List.mem_singleton.mp error⟩
  | threw probes | hangs probes =>
      obtain ⟨path, output, same⟩ := opened member
      exact .inr (.inr (.inl ⟨_, path, probes.accepts, probes.noHelp, output, same⟩))
  | incomplete probes measured =>
      rcases List.mem_append.mp member with report | error
      · exact .inr (.inr (.inr ⟨_, _, false, ⟨probes, measured⟩, report⟩))
      · exact .inl ⟨_, List.mem_singleton.mp error⟩
  | reported probes measured =>
      exact .inr (.inr (.inr ⟨_, _, _, ⟨probes, measured⟩, member⟩))

theorem ending_eq_two_iff (outcome : PacingProbeOutcome host system args run) :
    run.ending = .exits 2 ↔ ∃ failure, parseBurnout3PacingProbeOptions args = .error failure := by
  cases outcome with
  | refused refuses => exact iff_of_true rfl ⟨_, refuses⟩
  | help accepts | closed accepts | tooLong accepts => simp [accepts]
  | threw probes | hangs probes | incomplete probes | reported probes =>
      simp [probes.accepts]

end PacingProbeOutcome

theorem probesAsAsked (program : String) :
    ProbesAsAsked host system args
      (burnout3PacingProbeMain host system (program :: args)) := by
  have outcome := burnout3PacingProbeMain_outcome host system program args
  refine ⟨?_, ⟨?_, ?_⟩, ⟨?_, ?_⟩, ⟨?_, ?_⟩, ?_, ?_, ?_, ?_⟩
  · rw [outcome.ending_eq_two_iff,
      (parses_pacingProbeOptions ⟨.missingValue, ""⟩).refuses_iff]
    simp
  · intro ending
    generalize burnout3PacingProbeMain host system (program :: args) = run at outcome ending
    cases outcome with
    | tooLong accepts noHelp opens long => exact ⟨_, accepts, noHelp, opens, long⟩
    | _ => cases ending
  · rintro ⟨options, accepts, noHelp, opens, long⟩
    rw [burnout3PacingProbeMain_of_opens accepts noHelp opens, finishPacingProbe,
      runBurnout3PacingProbe, if_pos (tooLong_iff.mpr long)]
  · intro ending
    generalize burnout3PacingProbeMain host system (program :: args) = run at outcome ending
    cases outcome with
    | threw probes throws => exact ⟨_, probes, throws⟩
    | _ => cases ending
  · rintro ⟨options, probes, throws⟩
    rw [burnout3PacingProbeMain_of_opens probes.accepts probes.noHelp probes.opens,
      finishPacingProbe, finishPacingProbe_of_fits probes.fits,
      measureFrames_eq_threw_iff.mpr throws]
  · intro ending
    generalize burnout3PacingProbeMain host system (program :: args) = run at outcome ending
    cases outcome with
    | hangs probes stalls => exact ⟨_, probes, stalls⟩
    | _ => cases ending
  · rintro ⟨options, probes, stalls⟩
    rw [burnout3PacingProbeMain_of_opens probes.accepts probes.noHelp probes.opens,
      finishPacingProbe, finishPacingProbe_of_fits probes.fits,
      measureFrames_eq_hangs_iff.mpr stalls]
  · intro path touched
    obtain ⟨text, same⟩ | ⟨options, complete, -, -, same⟩ |
      ⟨options, _, accepts, noHelp, output, same⟩ |
      ⟨options, measurement, complete, ⟨probes, -⟩, member⟩ := outcome.effect_cases touched
    · cases same
    · cases same
    · obtain rfl := ToolEffect.truncateOutput.inj same
      exact ⟨options, accepts, noHelp, output⟩
    · exact ⟨options, probes.accepts, probes.noHelp,
        truncateOutput_mem_reportEffects.mp member⟩
  · intro path text complete touched
    obtain ⟨text, same⟩ | ⟨options, complete, -, -, same⟩ | ⟨options, path, -, -, -, same⟩ |
      ⟨options, measurement, complete, measures, member⟩ := outcome.effect_cases touched
    · cases same
    · cases same
    · cases same
    · obtain ⟨output, rfl, -⟩ := writeOutput_mem_reportEffects.mp member
      exact ⟨options, measurement, measures, output, rfl⟩
  · intro text complete touched
    obtain ⟨text, same⟩ | ⟨options, complete, accepts, help, same⟩ |
      ⟨options, path, -, -, -, same⟩ | ⟨options, measurement, complete, measures, member⟩ :=
        outcome.effect_cases touched
    · cases same
    · obtain ⟨rfl, rfl⟩ := ToolEffect.standardOutput.inj same
      exact .inl ⟨options, accepts, help, rfl⟩
    · cases same
    · obtain ⟨output, rfl, -⟩ := standardOutput_mem_reportEffects.mp member
      exact .inr ⟨options, measurement, measures, output, rfl⟩
  · intro ending
    generalize burnout3PacingProbeMain host system (program :: args) = run at outcome ending ⊢
    cases outcome with
    | help accepts help => exact .inl ⟨_, accepts, help⟩
    | reported probes measured complete =>
        exact .inr ⟨_, _, _, ⟨probes, measured⟩, rfl, complete⟩
    | _ => cases ending

end Outcomes

theorem isWord_framePacingLines {fixed : ℚ → String} {summary : FramePacingTelemetrySummary}
    (words : ∀ value, IsWord (fixed value)) :
    ∀ entry ∈ framePacingLines fixed summary, IsWord entry.1 ∧ IsWord entry.2 := by
  simp +decide [framePacingLines, words]

/-- All lines of a report. -/
def ProbeMeasurement.lines (system : ProbeSystem) (seconds : Nat)
    (measurement : ProbeMeasurement) : List (String × String) :=
  openingLines seconds ++ framePacingLines system.fixed (measurement.telemetry system) ++
    [("HIGH_RESOLUTION_TIMER", measurement.timerText)]

/-- A report of the probe is read back line by line. -/
theorem readRows_report {system : ProbeSystem} (seconds : Nat)
    (measurement : ProbeMeasurement) (words : ∀ value, IsWord (system.fixed value)) :
    readRows (measurement.report system seconds) =
      ((measurement.lines system seconds).map fun entry => [entry.1, entry.2]) ++ [[""]] := by
  have joined : measurement.report system seconds =
      String.join ((measurement.lines system seconds).map labelledLine) := by
    simp [ProbeMeasurement.report, ProbeMeasurement.lines, renderFramePacingReport,
      String.append_assoc]
  rw [joined]
  apply readRows_labelledLines
  rw [ProbeMeasurement.lines, List.forall_mem_append, List.forall_mem_append]
  refine ⟨⟨?_, isWord_framePacingLines words⟩, List.forall_mem_singleton.mpr ⟨?_, ?_⟩⟩
  · simp +decide [ProbeMeasurement.openingLines]
  · exact (by decide : IsWord "HIGH_RESOLUTION_TIMER")
  · rw [ProbeMeasurement.timerText]
    split <;> decide

end Burnout3Recompiled
