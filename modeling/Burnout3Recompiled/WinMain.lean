import Burnout3Recompiled.FrameStats
import Burnout3Recompiled.RuntimeOptions
import Burnout3Recompiled.WindowsFramePacer

/-!
# The runtime

The program makes a window and then waits for one frame after the other until the window
is closed.  When it is asked to, it logs the statistics of the frames every second.  Times
and durations are exact rational numbers here.
-/

namespace Burnout3Recompiled

open SlotGrid

/-- What the system answers to the runtime.  The messages of the window are pumped once for
every frame, and then once more for the message to quit.  The clock shows its readings one
after the other.  The texts of numbers and of wide strings are any functions. -/
structure RuntimeSystem where
  /-- Absent when the command line cannot be taken apart. -/
  commandLine : Option (List String)
  createsWindow : Bool → Bool
  timers : TimerSystem
  frequencyHz : String
  framesUntilQuit : Nat
  readings : List ℚ
  fixed : ℚ → String
  utf8FromWide : String → String

structure LogLine where
  tag : String
  message : String
  deriving DecidableEq, Repr

/-- A frame that has been run, with the statistics that have been logged behind it. -/
structure RuntimeFrame where
  sample : FrameSample
  wait : FrameWait
  report : Option FrameStatsSnapshot

structure RuntimeLoop where
  pacer : WindowsFramePacer
  frameStats : FrameStats := {}
  lastReport : ℚ
  readings : List ℚ

inductive RuntimeLoopStop where
  | stalls
  /-- An access outside the array of the statistics. -/
  | outOfBounds
  deriving DecidableEq

/-- The body of the loop.  The simulation and the rendering are empty, but the clock is
read around them. -/
def runFrame (showsStats : Bool) (loop : RuntimeLoop) :
    Except RuntimeLoopStop (RuntimeFrame × RuntimeLoop) :=
  match loop.readings with
  | frameBegin :: simulationBegin :: simulationEnd :: renderBegin :: renderEnd :: readings =>
      match loop.pacer.waitForNextFrame readings with
      | none => .error .stalls
      | some wait =>
          let sample : FrameSample :=
            { frameSeconds := wait.nowSeconds - frameBegin
              simulationSeconds := simulationEnd - simulationBegin
              renderSeconds := renderEnd - renderBegin
              simulationSteps := 0 }
          match loop.frameStats.addFrame sample.frameSeconds sample.simulationSeconds
              sample.renderSeconds sample.simulationSteps with
          | none => .error .outOfBounds
          | some frameStats =>
              if showsStats ∧ wait.nowSeconds - loop.lastReport ≥ 1 then
                match frameStats.snapshot with
                | none => .error .outOfBounds
                | some snapshot =>
                    .ok (⟨sample, wait, some snapshot⟩,
                      ⟨wait.pacer, frameStats, wait.nowSeconds, wait.readings⟩)
              else
                .ok (⟨sample, wait, none⟩,
                  ⟨wait.pacer, frameStats, loop.lastReport, wait.readings⟩)
  | _ => .error .stalls

/-- The frames of a number of turns, with what is left of the loop and what has stopped it
before its end. -/
def runFrames (showsStats : Bool) (loop : RuntimeLoop) :
    Nat → List RuntimeFrame × RuntimeLoop × Option RuntimeLoopStop
  | 0 => ([], loop, none)
  | turns + 1 =>
      match runFrame showsStats loop with
      | .error stop => ([], loop, some stop)
      | .ok (frame, next) =>
          let (frames, final, stop) := runFrames showsStats next turns
          (frame :: frames, final, stop)

inductive RuntimeEnd where
  | exits (exitCode : Nat)
  | stops (stop : RuntimeLoopStop)
  deriving DecidableEq

structure RuntimeRun where
  ending : RuntimeEnd
  frames : List RuntimeFrame := []
  log : List LogLine
  messageBox : Option String := none

def bootLines : List LogLine :=
  [⟨"BOOT", "Burnout 3 Recompiled - Test Build 0.1"⟩,
    ⟨"BOOT", "Target runtime: Windows x86-64, 120.000 FPS"⟩]

def gameDataLine (system : RuntimeSystem) (options : RuntimeOptions) : LogLine :=
  if options.gameData.isEmpty then
    ⟨"GAME", "No --game-data path supplied; bootstrap will run without proprietary assets."⟩
  else ⟨"GAME", "External game-data path: " ++ system.utf8FromWide options.gameData⟩

def timerLine (system : RuntimeSystem) (pacer : WindowsFramePacer) : LogLine :=
  ⟨"BOOT", "QPC frequency=" ++ system.frequencyHz ++ " Hz, high-resolution waitable timer=" ++
    (if pacer.highResolutionTimer then "yes" else "fallback")⟩

def statsLine (fixed : ℚ → String) (stats : FrameStatsSnapshot) : LogLine :=
  ⟨"GAME", "FPS=" ++ fixed stats.fps ++ " frame=" ++ fixed stats.frameTimeMs ++ "ms" ++
    " sim=" ++ fixed stats.simulationTimeMs ++ "ms" ++ " render=" ++
    fixed stats.renderTimeMs ++ "ms" ++ " steps=" ++ toString stats.simulationSteps.toNat⟩

def parseCommandLine (system : RuntimeSystem) : RuntimeOptions.ParseResult :=
  match system.commandLine with
  | none => { ok := false, error := "CommandLineToArgvW failed" }
  | some arguments => RuntimeOptions.parse arguments

/-- The runtime behind a window that has been created. -/
def runWindow (system : RuntimeSystem) (options : RuntimeOptions) (log : List LogLine) :
    RuntimeRun :=
  match system.readings with
  | [] => { ending := .stops .stalls, log := log }
  | startSeconds :: readings =>
      match WindowsFramePacer.construct system.timers 120 startSeconds with
      | .error message => { ending := .exits 4, log := log ++ [⟨"ERROR", message⟩] }
      | .ok pacer =>
          let log := log ++ [timerLine system pacer]
          match readings with
          | [] => { ending := .stops .stalls, log := log }
          | lastReport :: readings =>
              let (frames, _, stop) := runFrames options.frameStats
                { pacer := pacer, lastReport := lastReport, readings := readings }
                system.framesUntilQuit
              let log := log ++ (frames.filterMap (·.report)).map (statsLine system.fixed)
              match stop with
              | some stop => { ending := .stops stop, frames := frames, log := log }
              | none =>
                  { ending := .exits 0
                    frames := frames
                    log := log ++ [⟨"BOOT", "Clean shutdown"⟩] }

def wWinMain (system : RuntimeSystem) : RuntimeRun :=
  let parsed := parseCommandLine system
  if !parsed.ok then
    { ending := .exits 2
      log := bootLines ++ [⟨"ERROR", system.utf8FromWide parsed.error⟩]
      messageBox := some parsed.error }
  else
    let log := bootLines ++ [gameDataLine system parsed.options]
    if !system.createsWindow parsed.options.fullscreen then
      { ending := .exits 3
        log := log ++ [⟨"ERROR", "Failed to create Win32 window"⟩] }
    else runWindow system parsed.options (log ++ [⟨"BOOT", "Win32 window created"⟩])

/-- Frames from a point of the loop on: the slot of the frame before, when the statistics
have been logged last, and the samples so far. -/
inductive FramesFrom (startSeconds periodSeconds : ℚ) (showsStats : Bool) :
    ℤ → ℚ → List FrameSample → List RuntimeFrame → Prop where
  | nil (last : ℤ) (lastReport : ℚ) (before : List FrameSample) :
      FramesFrom startSeconds periodSeconds showsStats last lastReport before []
  | quiet {last : ℤ} {lastReport : ℚ} {before : List FrameSample} {frame : RuntimeFrame}
      {later : List RuntimeFrame}
      (behind : FrameBehind startSeconds periodSeconds last frame.wait)
      (silent : frame.report = none)
      (early : showsStats = true → frame.wait.nowSeconds - lastReport < 1)
      (rest : FramesFrom startSeconds periodSeconds showsStats
        (slotOf startSeconds periodSeconds frame.wait.nowSeconds) lastReport
        (before ++ [frame.sample]) later) :
      FramesFrom startSeconds periodSeconds showsStats last lastReport before (frame :: later)
  | reports {last : ℤ} {lastReport : ℚ} {before : List FrameSample} {frame : RuntimeFrame}
      {later : List RuntimeFrame} {snapshot : FrameStatsSnapshot}
      (behind : FrameBehind startSeconds periodSeconds last frame.wait)
      (shown : frame.report = some snapshot) (shows : showsStats = true)
      (due : 1 ≤ frame.wait.nowSeconds - lastReport)
      (summarizes : Summarizes snapshot (before ++ [frame.sample]))
      (rest : FramesFrom startSeconds periodSeconds showsStats
        (slotOf startSeconds periodSeconds frame.wait.nowSeconds) frame.wait.nowSeconds
        (before ++ [frame.sample]) later) :
      FramesFrom startSeconds periodSeconds showsStats last lastReport before (frame :: later)

/-- The clock does not show what the next frame waits for. -/
def RuntimeLoop.Stalls (loop : RuntimeLoop) : Prop :=
  ∀ frameBegin simulationBegin simulationEnd renderBegin renderEnd readings,
    loop.readings =
      frameBegin :: simulationBegin :: simulationEnd :: renderBegin :: renderEnd :: readings →
    ∀ reading ∈ readings, reading < loop.pacer.schedule.deadlineSeconds

/-- The loop is between two frames. -/
structure RuntimeLoop.Behind (startSeconds periodSeconds : ℚ) (last : ℤ)
    (before : List FrameSample) (loop : RuntimeLoop) : Prop where
  endsSlot : EndsSlot startSeconds periodSeconds last loop.pacer
  holds : loop.frameStats.Holds before

/-- What one turn of the loop can do. -/
inductive FrameOutcome (startSeconds periodSeconds : ℚ) (showsStats : Bool) (last : ℤ)
    (before : List FrameSample) (loop : RuntimeLoop) :
    Except RuntimeLoopStop (RuntimeFrame × RuntimeLoop) → Prop where
  | stalls (stalls : loop.Stalls) :
      FrameOutcome startSeconds periodSeconds showsStats last before loop (.error .stalls)
  | quiet {frame : RuntimeFrame} {next : RuntimeLoop}
      (behind : FrameBehind startSeconds periodSeconds last frame.wait)
      (nextBehind : next.Behind startSeconds periodSeconds
        (slotOf startSeconds periodSeconds frame.wait.nowSeconds) (before ++ [frame.sample]))
      (silent : frame.report = none)
      (early : showsStats = true → frame.wait.nowSeconds - loop.lastReport < 1)
      (same : next.lastReport = loop.lastReport) :
      FrameOutcome startSeconds periodSeconds showsStats last before loop (.ok (frame, next))
  | reports {frame : RuntimeFrame} {next : RuntimeLoop} {snapshot : FrameStatsSnapshot}
      (behind : FrameBehind startSeconds periodSeconds last frame.wait)
      (nextBehind : next.Behind startSeconds periodSeconds
        (slotOf startSeconds periodSeconds frame.wait.nowSeconds) (before ++ [frame.sample]))
      (shown : frame.report = some snapshot) (shows : showsStats = true)
      (due : 1 ≤ frame.wait.nowSeconds - loop.lastReport)
      (summarizes : Summarizes snapshot (before ++ [frame.sample]))
      (renewed : next.lastReport = frame.wait.nowSeconds) :
      FrameOutcome startSeconds periodSeconds showsStats last before loop (.ok (frame, next))

section Loop

variable {startSeconds periodSeconds : ℚ} {showsStats : Bool} {last : ℤ}
  {before : List FrameSample} {loop : RuntimeLoop}

theorem runFrame_outcome (behind : loop.Behind startSeconds periodSeconds last before) :
    FrameOutcome startSeconds periodSeconds showsStats last before loop
      (runFrame showsStats loop) := by
  rw [runFrame]
  split
  · next frameBegin simulationBegin simulationEnd renderBegin renderEnd readings shown =>
      split
      · next none =>
          refine .stalls fun _ _ _ _ _ others same => ?_
          rw [shown] at same
          obtain ⟨-, -, -, -, -, rfl⟩ : _ ∧ _ ∧ _ ∧ _ ∧ _ ∧ readings = others := by
            simpa using same
          exact waitForNextFrame_eq_none_iff.mp none
      · next wait waited =>
          have frameBehind := behind.endsSlot.frameBehind waited
          obtain ⟨frameStats, added, holds⟩ := behind.holds.perform (.addFrame
            ⟨wait.nowSeconds - frameBegin, simulationEnd - simulationBegin,
              renderEnd - renderBegin, 0⟩)
          rw [FrameStats.perform] at added
          simp only [added]
          split
          · next shows =>
              obtain ⟨snapshot, taken, summarizes⟩ := holds.snapshot
              simp only [taken]
              exact .reports frameBehind ⟨frameBehind.endsSlot, holds⟩ rfl shows.1 shows.2
                summarizes rfl
          · next silent =>
              refine .quiet frameBehind ⟨frameBehind.endsSlot, holds⟩ rfl ?_ rfl
              exact fun shows => not_le.mp fun due => silent ⟨shows, due⟩
  · next short =>
      refine .stalls fun _ _ _ _ _ _ same => ?_
      exact absurd same (short _ _ _ _ _ _)

/-- By induction on the turns, each of which starts where the one before has ended. -/
theorem runFrames_framesFrom {turns : Nat} {frames : List RuntimeFrame} {final : RuntimeLoop}
    {stop : Option RuntimeLoopStop}
    (behind : loop.Behind startSeconds periodSeconds last before)
    (run : runFrames showsStats loop turns = (frames, final, stop)) :
    FramesFrom startSeconds periodSeconds showsStats last loop.lastReport before frames ∧
      (stop = none ∧ frames.length = turns ∨
        stop = some .stalls ∧ frames.length < turns ∧ final.Stalls) := by
  induction turns generalizing last before loop frames with
  | zero =>
      obtain ⟨rfl, rfl, rfl⟩ : [] = frames ∧ loop = final ∧ none = stop := by
        simpa [runFrames] using run
      exact ⟨.nil _ _ _, .inl ⟨rfl, rfl⟩⟩
  | succ turns ih =>
      rw [runFrames] at run
      have outcome := @runFrame_outcome _ _ showsStats _ _ _ behind
      cases turn : runFrame showsStats loop with
      | error stopped =>
          rw [turn] at run outcome
          obtain ⟨rfl, rfl, rfl⟩ : [] = frames ∧ loop = final ∧ some stopped = stop := by
            simpa using run
          cases outcome with
          | stalls stalls => exact ⟨.nil _ _ _, .inr ⟨rfl, Nat.succ_pos _, stalls⟩⟩
      | ok result =>
          obtain ⟨frame, next⟩ := result
          rw [turn] at run outcome
          obtain ⟨later, rest⟩ : ∃ later, runFrames showsStats next turns =
              (later, final, stop) ∧ frame :: later = frames := by
            refine ⟨(runFrames showsStats next turns).1, ?_, ?_⟩
            · exact Prod.ext rfl (Prod.mk.inj run).2
            · exact (Prod.mk.inj run).1
          obtain ⟨rest, rfl⟩ := rest
          have counted (ends : stop = none ∧ later.length = turns ∨
              stop = some .stalls ∧ later.length < turns ∧ final.Stalls) :
              stop = none ∧ (frame :: later).length = turns + 1 ∨
                stop = some .stalls ∧ (frame :: later).length < turns + 1 ∧ final.Stalls := by
            rw [List.length_cons, Nat.add_right_cancel_iff, Nat.add_lt_add_iff_right]
            exact ends
          cases outcome with
          | quiet frameBehind nextBehind silent early same =>
              obtain ⟨frames, ends⟩ := ih nextBehind rest
              exact ⟨.quiet frameBehind silent early (same ▸ frames), counted ends⟩
          | reports frameBehind nextBehind shown shows due summarizes renewed =>
              obtain ⟨frames, ends⟩ := ih nextBehind rest
              exact ⟨.reports frameBehind shown shows due summarizes (renewed ▸ frames),
                counted ends⟩

end Loop

namespace FramesFrom

variable {startSeconds periodSeconds : ℚ} {showsStats : Bool} {last : ℤ} {lastReport : ℚ}
  {before : List FrameSample} {frames earlier rest between later : List RuntimeFrame}
  {frame first : RuntimeFrame}

theorem grows
    (run : FramesFrom startSeconds periodSeconds showsStats last lastReport before frames) :
    (last :: frames.map fun frame =>
        slotOf startSeconds periodSeconds frame.wait.nowSeconds).Pairwise (· < ·) ∧
      ∀ frame ∈ frames, ∃ last, FrameBehind startSeconds periodSeconds last frame.wait := by
  induction run with
  | nil => simp
  | quiet behind _ _ _ ih | reports behind _ _ _ _ _ ih =>
      obtain ⟨grows, frames⟩ := ih
      rw [List.map_cons, List.pairwise_cons]
      refine ⟨⟨?_, grows⟩, List.forall_mem_cons.mpr ⟨⟨_, behind⟩, frames⟩⟩
      rw [List.forall_mem_cons]
      exact ⟨behind.behind,
        fun slot member => behind.behind.trans ((List.pairwise_cons.mp grows).1 slot member)⟩

/-- The frames behind some others. -/
theorem split (run : FramesFrom startSeconds periodSeconds showsStats last lastReport before
      (earlier ++ rest)) :
    ∃ last lastReport, FramesFrom startSeconds periodSeconds showsStats last lastReport
      (before ++ earlier.map (·.sample)) rest := by
  induction earlier generalizing last lastReport before with
  | nil => exact ⟨last, lastReport, by simpa using run⟩
  | cons frame earlier ih =>
      have shift : before ++ (frame :: earlier).map (·.sample) =
          before ++ [frame.sample] ++ earlier.map (·.sample) := by simp
      rw [shift]
      cases run with
      | quiet _ _ _ rest | reports _ _ _ _ _ rest => exact ih rest

theorem summarizes {snapshot : FrameStatsSnapshot}
    (run : FramesFrom startSeconds periodSeconds showsStats last lastReport before
      (earlier ++ frame :: later)) (shown : frame.report = some snapshot) :
    Summarizes snapshot (before ++ (earlier ++ [frame]).map (·.sample)) := by
  obtain ⟨_, _, here⟩ := run.split
  rw [List.map_append, ← List.append_assoc]
  cases here with
  | quiet _ silent => cases silent.symm.trans shown
  | reports _ other _ _ summarizes =>
      obtain rfl := Option.some.inj (other.symm.trans shown)
      exact summarizes

theorem silent
    (run : FramesFrom startSeconds periodSeconds showsStats last lastReport before frames)
    (hides : showsStats = false) : ∀ frame ∈ frames, frame.report = none := by
  induction run with
  | nil => simp
  | quiet _ silent _ _ ih => exact List.forall_mem_cons.mpr ⟨silent, ih⟩
  | reports _ _ shows => cases hides.symm.trans shows

/-- Reports are a second apart at least. -/
theorem apart
    (run : FramesFrom startSeconds periodSeconds showsStats last lastReport before frames) :
    (lastReport :: (frames.filter (·.report.isSome)).map (·.wait.nowSeconds)).Pairwise
      fun first second => first + 1 ≤ second := by
  induction run with
  | nil => simp
  | quiet _ silent _ _ ih => rwa [List.filter_cons_of_neg (by simp [silent])]
  | reports _ shown _ due _ _ ih =>
      rw [List.filter_cons_of_pos (by simp [shown]), List.map_cons, List.pairwise_cons]
      refine ⟨List.forall_mem_cons.mpr ⟨by linarith, fun time member => ?_⟩, ih⟩
      have later := (List.pairwise_cons.mp ih).1 time member
      linarith

/-- Until a report is made, no second has passed since the last one. -/
theorem early (run : FramesFrom startSeconds periodSeconds true last lastReport before
      (between ++ rest)) (silent : ∀ frame ∈ between, frame.report = none) :
    ∀ frame ∈ between, frame.wait.nowSeconds < lastReport + 1 := by
  induction between generalizing last before with
  | nil => simp
  | cons frame between ih =>
      obtain ⟨here, others⟩ := List.forall_mem_cons.mp silent
      cases run with
      | quiet _ _ early rest =>
          have soon := early rfl
          exact List.forall_mem_cons.mpr ⟨by linarith, ih rest others⟩
      | reports _ shown => cases here.symm.trans shown

/-- Frames without a report fit in the slots of the second behind the last report. -/
theorem length_le (positive : 0 < periodSeconds)
    (run : FramesFrom startSeconds periodSeconds true last lastReport before
      (between ++ rest)) (silent : ∀ frame ∈ between, frame.report = none)
    (latest : last ≤ slotOf startSeconds periodSeconds (lastReport + 1)) :
    between.length ≤ slotOf startSeconds periodSeconds (lastReport + 1) - last := by
  cases filled : between.getLast? with
  | none =>
      obtain rfl := List.getLast?_eq_none_iff.mp filled
      simpa using latest
  | some frame =>
      have early := run.early silent frame (List.mem_of_getLast? filled)
      have slots := run.grows.1
      rw [List.map_append, ← List.cons_append, List.pairwise_append] at slots
      have inside : between.length < (last :: between.map fun frame =>
          slotOf startSeconds periodSeconds frame.wait.nowSeconds).length := by simp
      have steps := sub_le_sub_of_pairwise_lt slots.1 (Nat.zero_le _) inside
      have frameSlot : (last :: between.map fun frame =>
          slotOf startSeconds periodSeconds frame.wait.nowSeconds)[between.length] =
          slotOf startSeconds periodSeconds frame.wait.nowSeconds := by
        obtain ⟨others, rfl⟩ := List.getLast?_eq_some_iff.mp filled
        simp
      have before : slotOf startSeconds periodSeconds frame.wait.nowSeconds ≤
          slotOf startSeconds periodSeconds (lastReport + 1) := by
        refine (le_slotOf_iff positive).mpr ?_
        exact ((le_slotOf_iff positive).mp (le_refl _)).trans early.le
      rw [frameSlot, List.getElem_cons_zero] at steps
      push_cast at steps
      linarith

/-- Between a report and the next one there are as many frames as the statistics hold, at
most. -/
theorem length_le_kWindowSize
    (run : FramesFrom startSeconds (1 / 120) true last lastReport before
      (earlier ++ first :: (between ++ later))) (shown : first.report.isSome)
    (silent : ∀ frame ∈ between, frame.report = none) :
    (∀ frame ∈ between, frame.wait.nowSeconds < first.wait.nowSeconds + 1) ∧
      between.length ≤ kWindowSize := by
  have positive : (0 : ℚ) < 1 / 120 := by norm_num
  obtain ⟨_, _, here⟩ := run.split
  cases here with
  | quiet _ none => simp [none] at shown
  | reports _ _ _ _ _ rest =>
      refine ⟨rest.early silent, ?_⟩
      have second : slotOf startSeconds (1 / 120) (first.wait.nowSeconds + 1) =
          slotOf startSeconds (1 / 120) first.wait.nowSeconds + 120 := by
        rw [← slotOf_add_mul positive]
        norm_num
      have fits := rest.length_le positive silent (by omega)
      rw [kWindowSize]
      omega

end FramesFrom

/-- What is known about the frames of the runtime, and about what it logs of them. -/
structure LoopRuns (startSeconds lastReport : ℚ) (showsStats : Bool)
    (frames : List RuntimeFrame) : Prop where
  paces : PacesFrames startSeconds (1 / 120) (frames.map (·.wait))
  silent : showsStats = false → ∀ frame ∈ frames, frame.report = none
  apart : (lastReport :: (frames.filter (·.report.isSome)).map (·.wait.nowSeconds)).Pairwise
    fun first second => first + 1 ≤ second
  summarizes : ∀ earlier frame later snapshot, frames = earlier ++ frame :: later →
    frame.report = some snapshot →
      Summarizes snapshot ((earlier ++ [frame]).map (·.sample))
  due : showsStats = true → ∀ earlier first between later,
    frames = earlier ++ first :: (between ++ later) → first.report.isSome →
      (∀ frame ∈ between, frame.report = none) →
        ∀ frame ∈ between, frame.wait.nowSeconds < first.wait.nowSeconds + 1
  covers : showsStats = true → ∀ earlier first between second later,
    frames = earlier ++ first :: (between ++ second :: later) → first.report.isSome →
      (∀ frame ∈ between, frame.report = none) →
        (((between ++ [second]).drop 1).map (·.sample)) <:+
          ((earlier ++ first :: (between ++ [second])).map (·.sample)).rtake kWindowSize

theorem FramesFrom.loopRuns {startSeconds lastReport : ℚ} {showsStats : Bool}
    {frames : List RuntimeFrame}
    (run : FramesFrom startSeconds (1 / 120) showsStats 0 lastReport [] frames) :
    LoopRuns startSeconds lastReport showsStats frames where
  paces := by
    obtain ⟨grows, behind⟩ := run.grows
    refine pacesFrames_of_frameBehind (by norm_num) ?_ ?_
    · rw [List.map_map]
      exact grows
    · exact List.forall_mem_map.mpr behind
  silent := run.silent
  apart := run.apart
  summarizes := by
    rintro earlier frame later snapshot rfl shown
    exact run.summarizes shown
  due := by
    rintro rfl earlier first between later rfl shown silent
    exact (run.length_le_kWindowSize shown silent).1
  covers := by
    rintro rfl earlier first between second later rfl shown silent
    have short := (run.length_le_kWindowSize shown silent).2
    have suffix : ((between ++ [second]).drop 1).map (·.sample) <:+
        (earlier ++ first :: (between ++ [second])).map (·.sample) := by
      refine List.IsSuffix.map _ ((List.drop_suffix _ _).trans ?_)
      exact ⟨earlier ++ [first], by simp⟩
    refine List.suffix_of_suffix_length_le suffix (List.drop_suffix _ _) ?_
    simp [List.rtake]
    omega

def cleanShutdown : LogLine :=
  ⟨"BOOT", "Clean shutdown"⟩

/-- The lines that only stand at the end of a log. -/
def LogLine.Ends (line : LogLine) : Prop :=
  line.tag = "ERROR" ∨ line = cleanShutdown

def statsLines (system : RuntimeSystem) (frames : List RuntimeFrame) : List LogLine :=
  (frames.filterMap (·.report)).map (statsLine system.fixed)

/-- The arguments are fine and there is a window. -/
def OpensWindow (system : RuntimeSystem) : Prop :=
  (parseCommandLine system).ok = true ∧
    system.createsWindow (parseCommandLine system).options.fullscreen = true

def HasTimer (system : RuntimeSystem) : Prop :=
  system.timers.highResolutionTimer = true ∨ system.timers.waitableTimer = true

/-- All the ways in which the runtime can end. -/
inductive RuntimeOutcome (system : RuntimeSystem) : RuntimeRun → Prop where
  | refused {log : List LogLine} {text : String} {box : Option String}
      (refuses : (parseCommandLine system).ok = false) (opening : ∀ line ∈ log, ¬line.Ends) :
      RuntimeOutcome system ⟨.exits 2, [], log ++ [⟨"ERROR", text⟩], box⟩
  | noWindow {log : List LogLine} {text : String}
      (accepts : (parseCommandLine system).ok = true)
      (noWindow : system.createsWindow (parseCommandLine system).options.fullscreen = false)
      (opening : ∀ line ∈ log, ¬line.Ends) :
      RuntimeOutcome system ⟨.exits 3, [], log ++ [⟨"ERROR", text⟩], none⟩
  | noTimer {log : List LogLine} {text : String} (opens : OpensWindow system)
      (reads : system.readings ≠ []) (noTimer : ¬HasTimer system)
      (opening : ∀ line ∈ log, ¬line.Ends) :
      RuntimeOutcome system ⟨.exits 4, [], log ++ [⟨"ERROR", text⟩], none⟩
  | noReading {log : List LogLine} (opens : OpensWindow system)
      (short : system.readings = [] ∨ HasTimer system ∧ system.readings.length < 2)
      (opening : ∀ line ∈ log, ¬line.Ends) :
      RuntimeOutcome system ⟨.stops .stalls, [], log, none⟩
  | stalls {log : List LogLine} {startSeconds lastReport : ℚ} {readings : List ℚ}
      {frames : List RuntimeFrame} (opens : OpensWindow system) (hasTimer : HasTimer system)
      (shown : system.readings = startSeconds :: lastReport :: readings)
      (run : FramesFrom startSeconds (1 / 120) (parseCommandLine system).options.frameStats 0
        lastReport [] frames) (fewer : frames.length < system.framesUntilQuit)
      (opening : ∀ line ∈ log, ¬line.Ends) :
      RuntimeOutcome system ⟨.stops .stalls, frames, log ++ statsLines system frames, none⟩
  | quits {log : List LogLine} {startSeconds lastReport : ℚ} {readings : List ℚ}
      {frames : List RuntimeFrame} (opens : OpensWindow system) (hasTimer : HasTimer system)
      (shown : system.readings = startSeconds :: lastReport :: readings)
      (run : FramesFrom startSeconds (1 / 120) (parseCommandLine system).options.frameStats 0
        lastReport [] frames) (all : frames.length = system.framesUntilQuit)
      (opening : ∀ line ∈ log, ¬line.Ends) :
      RuntimeOutcome system
        ⟨.exits 0, frames, log ++ statsLines system frames ++ [cleanShutdown], none⟩

section Outcomes

variable {system : RuntimeSystem} {run : RuntimeRun} {log : List LogLine}

theorem not_ends_of_game {message : String} : ¬(LogLine.mk "GAME" message).Ends := by
  simp [LogLine.Ends, cleanShutdown]

theorem not_ends_bootLines : ∀ line ∈ bootLines, ¬line.Ends := by
  simp [bootLines, LogLine.Ends, cleanShutdown]

theorem not_ends_gameDataLine (options : RuntimeOptions) :
    ¬(gameDataLine system options).Ends := by
  rw [gameDataLine]
  split <;> exact not_ends_of_game

theorem not_ends_timerLine (pacer : WindowsFramePacer) : ¬(timerLine system pacer).Ends := by
  rw [timerLine, LogLine.Ends, cleanShutdown]
  rintro (error | clean)
  · simp at error
  · have first := congrArg (·.toList.head?) (LogLine.mk.inj clean).2
    simp at first

theorem not_ends_statsLines (frames : List RuntimeFrame) :
    ∀ line ∈ statsLines system frames, ¬line.Ends := by
  rw [statsLines, List.forall_mem_map]
  exact fun snapshot _ => not_ends_of_game

theorem runWindow_outcome (opens : OpensWindow system)
    (opening : ∀ line ∈ log, ¬line.Ends) :
    RuntimeOutcome system (runWindow system (parseCommandLine system).options log) := by
  rw [runWindow]
  split
  · next none => exact .noReading opens (.inl none) opening
  · next startSeconds readings shown =>
      have refused := @construct_eq_error_iff system.timers 120 startSeconds (by norm_num)
      have timers : (system.timers.highResolutionTimer = false ∧
          system.timers.waitableTimer = false) ↔ ¬HasTimer system := by
        simp [HasTimer]
      rw [timers] at refused
      split
      · next message thrown =>
          exact .noTimer opens (by simp [shown]) (refused.mp ⟨message, thrown⟩) opening
      · next pacer constructed =>
          have hasTimer : HasTimer system := by
            apply not_not.mp
            rw [← refused, constructed]
            simp
          have opening : ∀ line ∈ log ++ [timerLine system pacer], ¬line.Ends :=
            List.forall_mem_append.mpr
              ⟨opening, List.forall_mem_singleton.mpr (not_ends_timerLine pacer)⟩
          split
          · exact .noReading opens (.inr ⟨hasTimer, by simp [shown]⟩) opening
          · next lastReport readings =>
              cases turns : runFrames (parseCommandLine system).options.frameStats
                  { pacer := pacer, lastReport := lastReport, readings := readings }
                  system.framesUntilQuit with
              | mk frames rest =>
                  obtain ⟨final, stop⟩ := rest
                  have endsSlot := endsSlot_construct constructed
                  obtain ⟨run, ⟨rfl, all⟩ | ⟨rfl, fewer, -⟩⟩ :=
                    runFrames_framesFrom ⟨endsSlot, FrameStats.holds_initial⟩ turns
                  · exact .quits opens hasTimer shown run all opening
                  · exact .stalls opens hasTimer shown run fewer opening

theorem wWinMain_outcome (system : RuntimeSystem) : RuntimeOutcome system (wWinMain system) := by
  rw [wWinMain]
  split
  · next refuses =>
      exact .refused (by simpa using refuses) not_ends_bootLines
  · next accepts =>
      have accepts : (parseCommandLine system).ok = true := by simpa using accepts
      have opening : ∀ line ∈ bootLines ++
          [gameDataLine system (parseCommandLine system).options], ¬line.Ends :=
        List.forall_mem_append.mpr
          ⟨not_ends_bootLines, List.forall_mem_singleton.mpr (not_ends_gameDataLine _)⟩
      split
      · next noWindow => exact .noWindow accepts (by simpa using noWindow) opening
      · next window =>
          refine runWindow_outcome ⟨accepts, by simpa using window⟩
            (List.forall_mem_append.mpr ⟨opening, List.forall_mem_singleton.mpr ?_⟩)
          simp [LogLine.Ends, cleanShutdown]

end Outcomes

/-- What a log is closed with. -/
def ClosesLog (ending : RuntimeEnd) (closing : List LogLine) : Prop :=
  match ending with
  | .exits 0 => closing = [cleanShutdown]
  | .exits _ => ∃ message, closing = [⟨"ERROR", message⟩]
  | .stops _ => closing = []

/-- How the runtime ends, what it has logged, and which frames it has run. -/
structure RunsRuntime (system : RuntimeSystem) (run : RuntimeRun) : Prop where
  refused : run.ending = .exits 2 ↔ (parseCommandLine system).ok = false
  noWindow : run.ending = .exits 3 ↔ (parseCommandLine system).ok = true ∧
    system.createsWindow (parseCommandLine system).options.fullscreen = false
  noTimer : run.ending = .exits 4 ↔
    OpensWindow system ∧ system.readings ≠ [] ∧ ¬HasTimer system
  closed : run.ending = .exits 0 ↔ OpensWindow system ∧ HasTimer system ∧
    2 ≤ system.readings.length ∧ run.frames.length = system.framesUntilQuit
  endings : run.ending ∈ [.exits 0, .exits 2, .exits 3, .exits 4, .stops .stalls]
  frames : ∀ startSeconds lastReport readings,
    system.readings = startSeconds :: lastReport :: readings →
      LoopRuns startSeconds lastReport (parseCommandLine system).options.frameStats run.frames
  logged : ∃ opening closing,
    run.log = opening ++ statsLines system run.frames ++ closing ∧
      (∀ line ∈ opening ++ statsLines system run.frames, ¬line.Ends) ∧
      ClosesLog run.ending closing

namespace RuntimeOutcome

variable {system : RuntimeSystem} {run : RuntimeRun}

theorem refused_iff (outcome : RuntimeOutcome system run) :
    run.ending = .exits 2 ↔ (parseCommandLine system).ok = false := by
  cases outcome with
  | refused refuses => simp [refuses]
  | noWindow accepts => simp [accepts]
  | noTimer opens | noReading opens | stalls opens | quits opens => simp [opens.1]

theorem noWindow_iff (outcome : RuntimeOutcome system run) :
    run.ending = .exits 3 ↔ (parseCommandLine system).ok = true ∧
      system.createsWindow (parseCommandLine system).options.fullscreen = false := by
  cases outcome with
  | refused refuses => simp [refuses]
  | noWindow accepts noWindow => simp [accepts, noWindow]
  | noTimer opens | noReading opens | stalls opens | quits opens => simp [opens.2]

theorem noTimer_iff (outcome : RuntimeOutcome system run) :
    run.ending = .exits 4 ↔ OpensWindow system ∧ system.readings ≠ [] ∧ ¬HasTimer system := by
  cases outcome with
  | refused refuses => simp [OpensWindow, refuses]
  | noWindow _ noWindow => simp [OpensWindow, noWindow]
  | noTimer opens reads noTimer => exact iff_of_true rfl ⟨opens, reads, noTimer⟩
  | noReading _ short =>
      refine iff_of_false (by simp) ?_
      rintro ⟨-, reads, noTimer⟩
      exact short.elim reads fun hasTimer => noTimer hasTimer.1
  | stalls _ hasTimer | quits _ hasTimer => simp [hasTimer]

theorem closed_iff (outcome : RuntimeOutcome system run) :
    run.ending = .exits 0 ↔ OpensWindow system ∧ HasTimer system ∧
      2 ≤ system.readings.length ∧ run.frames.length = system.framesUntilQuit := by
  cases outcome with
  | refused refuses => simp [OpensWindow, refuses]
  | noWindow _ noWindow => simp [OpensWindow, noWindow]
  | noTimer _ _ noTimer => simp [noTimer]
  | noReading _ short =>
      refine iff_of_false (by simp) ?_
      rintro ⟨-, -, long, -⟩
      rcases short with none | ⟨-, short⟩
      · simp [none] at long
      · omega
  | stalls _ _ _ _ fewer =>
      refine iff_of_false (by simp) ?_
      rintro ⟨-, -, -, all⟩
      exact fewer.ne all
  | quits opens hasTimer shown _ all =>
      exact iff_of_true rfl ⟨opens, hasTimer, by simp [shown], all⟩

theorem mem_endings (outcome : RuntimeOutcome system run) :
    run.ending ∈ [.exits 0, .exits 2, .exits 3, .exits 4, .stops .stalls] := by
  cases outcome <;> simp

theorem loopRuns (outcome : RuntimeOutcome system run) {startSeconds lastReport : ℚ}
    {readings : List ℚ} (shown : system.readings = startSeconds :: lastReport :: readings) :
    LoopRuns startSeconds lastReport (parseCommandLine system).options.frameStats
      run.frames := by
  cases outcome with
  | refused | noWindow | noTimer | noReading => exact (FramesFrom.nil 0 lastReport []).loopRuns
  | stalls _ _ same frames | quits _ _ same frames =>
      rw [shown] at same
      obtain ⟨rfl, rfl, -⟩ := by simpa using same
      exact frames.loopRuns

theorem logged (outcome : RuntimeOutcome system run) : ∃ opening closing,
    run.log = opening ++ statsLines system run.frames ++ closing ∧
      (∀ line ∈ opening ++ statsLines system run.frames, ¬line.Ends) ∧
      ClosesLog run.ending closing := by
  have lines {log : List LogLine} (frames : List RuntimeFrame)
      (opening : ∀ line ∈ log, ¬line.Ends) :
      ∀ line ∈ log ++ statsLines system frames, ¬line.Ends :=
    List.forall_mem_append.mpr ⟨opening, not_ends_statsLines frames⟩
  have noLines : statsLines system [] = [] := rfl
  cases outcome with
  | @refused log text _ _ opening | @noWindow log text _ _ opening
  | @noTimer log text _ _ _ opening =>
      exact ⟨log, [⟨"ERROR", text⟩], by rw [noLines, List.append_nil], lines [] opening,
        text, rfl⟩
  | @noReading log _ _ opening =>
      exact ⟨log, [], by rw [noLines, List.append_nil, List.append_nil], lines [] opening, rfl⟩
  | @stalls log _ _ _ frames _ _ _ _ _ opening =>
      exact ⟨log, [], (List.append_nil _).symm, lines frames opening, rfl⟩
  | @quits log _ _ _ frames _ _ _ _ _ opening =>
      exact ⟨log, [cleanShutdown], rfl, lines frames opening, rfl⟩

end RuntimeOutcome

end Burnout3Recompiled
