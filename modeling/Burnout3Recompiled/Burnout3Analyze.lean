import Burnout3Recompiled.Ps2ElfAnalysis
import Burnout3Recompiled.R5900ReportRoundTrip
import Burnout3Recompiled.ToolHost
import Burnout3Recompiled.ToolOptions

/-!
# The analyzer

The program reads its arguments, reads and analyses an executable, and writes the report to
a file or to the standard output.  The host may refuse every step of it.  Without memory for
the bytes of the executable the program ends in an exception.  Memory for the texts and the
graph of an analysis is taken to be there.
-/

namespace Burnout3Recompiled

open CommandLine

inductive Burnout3AnalyzeRunError where
  | inputOpenFailed | inputReadFailed | analysisFailed | outputOpenFailed | outputWriteFailed
  deriving DecidableEq, Repr

structure Burnout3AnalyzeRunFailure where
  error : Burnout3AnalyzeRunError
  message : String
  deriving DecidableEq, Repr

/-- The input and its size. -/
def openInputElf (host : ToolHost) (path : String) :
    Except Burnout3AnalyzeRunFailure (InputFile × Nat) :=
  match host.openInput path with
  | none => .error ⟨.inputOpenFailed, "could not open input ELF: " ++ path⟩
  | some input =>
      match input.endPosition with
      | none => .error ⟨.inputReadFailed, "could not determine input ELF size: " ++ path⟩
      | some fileSize =>
          if fileSize > 2 ^ 64 - 1 ∨ fileSize > 2 ^ 63 - 1 then
            .error ⟨.inputReadFailed,
              "input ELF is too large to analyze in memory: " ++ path⟩
          else .ok (input, fileSize)

/-- The bytes of an input, once there is memory for them. -/
def readInputBytes (input : InputFile) (fileSize : Nat) (path : String) :
    Except Burnout3AnalyzeRunFailure (List (BitVec 8)) :=
  if !input.seeksToBegin then
    .error ⟨.inputReadFailed, "could not seek to the beginning of input ELF: " ++ path⟩
  else if fileSize = 0 then .ok []
  else
    match input.read fileSize with
    | none => .error ⟨.inputReadFailed, "could not read the complete input ELF: " ++ path⟩
    | some bytes => .ok bytes

def readInputElf (host : ToolHost) (path : String) :
    Except StdException (Except Burnout3AnalyzeRunFailure (List (BitVec 8))) :=
  match openInputElf host path with
  | .error failure => .ok (.error failure)
  | .ok (input, fileSize) =>
      match host.fileRoom.reserve 0 fileSize with
      | .error exception => .error exception
      | .ok () => .ok (readInputBytes input fileSize path)

def Burnout3AnalyzeOptions.analysisOptions (options : Burnout3AnalyzeOptions) :
    R5900ReachabilityOptions where
  maxBlocks := options.maxBlocks
  followDirectCalls := options.followDirectCalls

/-- The report of the executable. -/
def analyzeInputElf (host : ToolHost) (allocation : BackingAllocation)
    (options : Burnout3AnalyzeOptions) :
    Except StdException (Except Burnout3AnalyzeRunFailure String) :=
  match readInputElf host options.elfPath with
  | .error exception => .error exception
  | .ok (.error failure) => .ok (.error failure)
  | .ok (.ok bytes) =>
      match analyzePs2Elf allocation bytes options.analysisOptions with
      | .error failure => .ok (.error ⟨.analysisFailed,
          if failure.message.isEmpty then "PS2 ELF analysis failed" else failure.message⟩)
      | .ok report => .ok (.ok report)

def writeReport (host : ToolHost) (outputPath : Option String) (report : String) :
    Except Burnout3AnalyzeRunFailure Unit × List ToolEffect :=
  match outputPath with
  | some path =>
      if !host.opensOutput path then
        (.error ⟨.outputOpenFailed, "could not open report output: " ++ path⟩, [])
      else
        (if host.completesOutput path report then .ok ()
          else .error ⟨.outputWriteFailed,
            "could not write complete report output: " ++ path⟩,
          [.truncateOutput path,
            .writeOutput path report (host.completesOutput path report)])
  | none =>
      (if host.completesStandardOutput report then .ok ()
        else .error ⟨.outputWriteFailed, "could not write analysis report to stdout"⟩,
        [.standardOutput report (host.completesStandardOutput report)])

def runBurnout3Analyze (host : ToolHost) (allocation : BackingAllocation)
    (options : Burnout3AnalyzeOptions) :
    Except StdException (Except Burnout3AnalyzeRunFailure Unit × List ToolEffect) :=
  match analyzeInputElf host allocation options with
  | .error exception => .error exception
  | .ok (.error failure) => .ok (.error failure, [])
  | .ok (.ok report) => .ok (writeReport host options.outputPath report)

def burnout3AnalyzeUsage : String :=
  "Usage: Burnout3Analyze --elf <path> [--output <path>] [--max-blocks <count>] " ++
    "[--follow-direct-calls]\n" ++
    "       Burnout3Analyze --help\n\n" ++
    "Analyzes an externally supplied PS2 ELF without executing guest code.\n" ++
    "If --output is omitted, the deterministic analysis report is written to stdout.\n" ++
    "Direct call targets remain evidence-only unless --follow-direct-calls is specified.\n" ++
    "Default --max-blocks: 4096.\n"

/-- `main`, whose first argument is the program. -/
def burnout3AnalyzeMain (host : ToolHost) (allocation : BackingAllocation)
    (argv : List String) : ToolRun :=
  match parseBurnout3AnalyzeOptions (argv.drop 1) with
  | .error failure =>
      { ending := .exits 2
        effects := [.standardError ("Burnout3Analyze: " ++ failure.message ++ "\n\n" ++
          burnout3AnalyzeUsage)] }
  | .ok options =>
      if options.showHelp then
        { ending := .exits 0
          effects := [.standardOutput burnout3AnalyzeUsage
            (host.completesStandardOutput burnout3AnalyzeUsage)] }
      else
        match runBurnout3Analyze host allocation options with
        | .error _ => { ending := .terminates }
        | .ok (.error failure, effects) =>
            { ending := .exits 3
              effects := effects ++
                [.standardError ("Burnout3Analyze: " ++ failure.message ++ "\n")] }
        | .ok (.ok _, effects) => { ending := .exits 0, effects := effects }

/-- The graph of the executable that is asked for. -/
def Analyzes (host : ToolHost) (allocation : BackingAllocation)
    (options : Burnout3AnalyzeOptions) (graph : R5900ReachabilityGraph) : Prop :=
  ∃ bytes image memory, readInputElf host options.elfPath = .ok (.ok bytes) ∧
    parsePs2Elf bytes = .ok image ∧ fromElf allocation image = .ok memory ∧
    analyzeR5900Reachability memory image.entryPoint options.analysisOptions = .ok graph

/-- The input could be read if there were memory for its bytes. -/
def LacksMemory (host : ToolHost) (path : String) : Prop :=
  ∃ input fileSize, host.openInput path = some input ∧
    input.endPosition = some fileSize ∧ fileSize < 2 ^ 63 ∧
    host.fileRoom.grants 0 fileSize = false

section Runs

variable {host : ToolHost} {allocation : BackingAllocation}
  {options : Burnout3AnalyzeOptions} {graph : R5900ReachabilityGraph} {report path : String}

theorem openInputElf_eq_ok_iff {input : InputFile} {fileSize : Nat} :
    openInputElf host path = .ok (input, fileSize) ↔
      host.openInput path = some input ∧ input.endPosition = some fileSize ∧
        fileSize < 2 ^ 63 := by
  constructor
  · intro opened
    unfold openInputElf at opened
    split at opened
    · cases opened
    · next input present =>
        split at opened
        · cases opened
        · next fileSize position =>
            split at opened
            · cases opened
            · next small =>
                obtain ⟨rfl, rfl⟩ := Prod.mk.inj (Except.ok.inj opened)
                exact ⟨present, position, by omega⟩
  · rintro ⟨present, position, small⟩
    simp only [openInputElf, present, position]
    rw [if_neg (by omega)]

/-- Memory for the bytes is the only thing whose lack throws. -/
theorem readInputElf_eq_error_iff :
    (∃ exception, readInputElf host path = .error exception) ↔ LacksMemory host path := by
  constructor
  · rintro ⟨exception, throws⟩
    unfold readInputElf at throws
    split at throws
    · cases throws
    · next input fileSize opened =>
        split at throws
        · next other refused =>
            obtain ⟨present, position, small⟩ := openInputElf_eq_ok_iff.mp opened
            refine ⟨input, fileSize, present, position, small, ?_⟩
            rw [VectorRoom.grants, refused]
            rfl
        · cases throws
  · rintro ⟨input, fileSize, present, position, small, refused⟩
    have opened := openInputElf_eq_ok_iff.mpr ⟨present, position, small⟩
    cases answer : host.fileRoom.reserve 0 fileSize with
    | error exception => exact ⟨exception, by simp only [readInputElf, opened, answer]⟩
    | ok granted =>
        rw [VectorRoom.grants, answer] at refused
        cases refused

theorem analyzeInputElf_eq_error_iff :
    (∃ exception, analyzeInputElf host allocation options = .error exception) ↔
      LacksMemory host options.elfPath := by
  rw [← readInputElf_eq_error_iff, analyzeInputElf]
  cases readInputElf host options.elfPath with
  | error exception => simp
  | ok read =>
      cases read with
      | error failure => simp
      | ok bytes =>
          simp only
          split <;> simp

theorem analyzeInputElf_eq_ok_iff :
    analyzeInputElf host allocation options = .ok (.ok report) ↔
      ∃ graph, Analyzes host allocation options graph ∧
        renderR5900AnalysisReport graph = report := by
  unfold analyzeInputElf Analyzes
  constructor
  · intro analyzed
    split at analyzed
    · cases analyzed
    · cases analyzed
    · next bytes read =>
        split at analyzed
        · cases analyzed
        · next result reported =>
            obtain rfl := Except.ok.inj (Except.ok.inj analyzed)
            unfold analyzePs2Elf at reported
            split at reported
            · cases reported
            · next image parsed =>
                split at reported
                · cases reported
                · next memory mapped =>
                    unfold analyzeMapped at reported
                    split at reported
                    · cases reported
                    · next graph found =>
                        exact ⟨graph, ⟨bytes, image, memory, read, parsed, mapped, found⟩,
                          Except.ok.inj reported⟩
  · rintro ⟨graph, ⟨bytes, image, memory, read, parsed, mapped, found⟩, rfl⟩
    simp only [read, analyzePs2Elf, parsed, mapped, analyzeMapped, found]

theorem Analyzes.not_lacksMemory (analyzes : Analyzes host allocation options graph) :
    ¬LacksMemory host options.elfPath := by
  intro lacks
  obtain ⟨bytes, -, -, read, -⟩ := analyzes
  obtain ⟨exception, throws⟩ := readInputElf_eq_error_iff.mpr lacks
  cases throws.symm.trans read

/-- A report that has been read back is the graph up to its order. -/
theorem Analyzes.reordering (analyzes : Analyzes host allocation options graph) :
    Reordering graph (readReport (renderR5900AnalysisReport graph)) := by
  obtain ⟨bytes, image, memory, -, -, -, found⟩ := analyzes
  rw [readReport_render (printable_of_analyzed found)]
  exact reordering_printed graph

end Runs

def errorText (message : String) : String :=
  "Burnout3Analyze: " ++ message

theorem writeReport_cases (host : ToolHost) (outputPath : Option String) (report : String) :
    (∃ path failure, outputPath = some path ∧ host.opensOutput path = false ∧
      writeReport host outputPath report = (.error failure, [])) ∨
    (∃ failure, writeReport host outputPath report =
      (.error failure, reportEffects outputPath report false)) ∨
    writeReport host outputPath report = (.ok (), reportEffects outputPath report true) := by
  cases outputPath with
  | some path =>
      cases opens : host.opensOutput path with
      | false => exact .inl ⟨path, _, rfl, opens, by simp only [writeReport, opens]; rfl⟩
      | true =>
          cases complete : host.completesOutput path report with
          | false => exact .inr (.inl ⟨_, by simp only [writeReport, opens, complete]; rfl⟩)
          | true => exact .inr (.inr (by simp only [writeReport, opens, complete]; rfl))
  | none =>
      cases complete : host.completesStandardOutput report with
      | false => exact .inr (.inl ⟨_, by simp only [writeReport, complete]; rfl⟩)
      | true => exact .inr (.inr (by simp only [writeReport, complete]; rfl))

/-- All the ways in which a run can end. -/
inductive AnalyzeOutcome (host : ToolHost) (allocation : BackingAllocation)
    (args : List String) : ToolRun → Prop where
  | refused {failure : Burnout3AnalyzeOptionsFailure}
      (refuses : parseBurnout3AnalyzeOptions args = .error failure) :
      AnalyzeOutcome host allocation args
        ⟨.exits 2, [.standardError (errorText failure.message ++ "\n\n" ++ burnout3AnalyzeUsage)]⟩
  | help {options : Burnout3AnalyzeOptions} {complete : Bool}
      (accepts : parseBurnout3AnalyzeOptions args = .ok options)
      (help : options.showHelp = true) :
      AnalyzeOutcome host allocation args
        ⟨.exits 0, [.standardOutput burnout3AnalyzeUsage complete]⟩
  | outOfMemory {options : Burnout3AnalyzeOptions}
      (accepts : parseBurnout3AnalyzeOptions args = .ok options)
      (noHelp : options.showHelp = false) (lacks : LacksMemory host options.elfPath) :
      AnalyzeOutcome host allocation args ⟨.terminates, []⟩
  | noReport {options : Burnout3AnalyzeOptions} {message : String}
      (accepts : parseBurnout3AnalyzeOptions args = .ok options)
      (noHelp : options.showHelp = false)
      (holds : ¬LacksMemory host options.elfPath)
      (fails : ¬∃ graph, Analyzes host allocation options graph) :
      AnalyzeOutcome host allocation args
        ⟨.exits 3, [.standardError (errorText message ++ "\n")]⟩
  | noOutput {options : Burnout3AnalyzeOptions} {graph : R5900ReachabilityGraph}
      {path message : String} (accepts : parseBurnout3AnalyzeOptions args = .ok options)
      (noHelp : options.showHelp = false) (analyzes : Analyzes host allocation options graph)
      (output : options.outputPath = some path) (closed : host.opensOutput path = false) :
      AnalyzeOutcome host allocation args
        ⟨.exits 3, [.standardError (errorText message ++ "\n")]⟩
  | incomplete {options : Burnout3AnalyzeOptions} {graph : R5900ReachabilityGraph}
      {message : String} (accepts : parseBurnout3AnalyzeOptions args = .ok options)
      (noHelp : options.showHelp = false)
      (analyzes : Analyzes host allocation options graph) :
      AnalyzeOutcome host allocation args
        ⟨.exits 3, reportEffects options.outputPath (renderR5900AnalysisReport graph) false ++
          [.standardError (errorText message ++ "\n")]⟩
  | written {options : Burnout3AnalyzeOptions} {graph : R5900ReachabilityGraph}
      (accepts : parseBurnout3AnalyzeOptions args = .ok options)
      (noHelp : options.showHelp = false)
      (analyzes : Analyzes host allocation options graph) :
      AnalyzeOutcome host allocation args
        ⟨.exits 0, reportEffects options.outputPath (renderR5900AnalysisReport graph) true⟩

theorem burnout3AnalyzeMain_outcome (host : ToolHost) (allocation : BackingAllocation)
    (program : String) (args : List String) :
    AnalyzeOutcome host allocation args
      (burnout3AnalyzeMain host allocation (program :: args)) := by
  unfold burnout3AnalyzeMain
  rw [List.drop_succ_cons, List.drop_zero]
  split
  · next failure refuses =>
      exact .refused refuses
  · next options accepts =>
      split
      · next help => exact .help accepts help
      · next noHelp =>
          have noHelp := eq_false_of_ne_true noHelp
          rw [runBurnout3Analyze]
          rcases analyzed : analyzeInputElf host allocation options with
            exception | failure | report
          · exact .outOfMemory accepts noHelp
              (analyzeInputElf_eq_error_iff.mp ⟨exception, analyzed⟩)
          · refine .noReport accepts noHelp ?_ ?_
            · intro lacks
              obtain ⟨exception, throws⟩ := analyzeInputElf_eq_error_iff.mpr lacks
              cases analyzed.symm.trans throws
            · rintro ⟨graph, analyzes⟩
              have reports := analyzeInputElf_eq_ok_iff.mpr ⟨graph, analyzes, rfl⟩
              cases analyzed.symm.trans reports
          · obtain ⟨graph, analyzes, rfl⟩ := analyzeInputElf_eq_ok_iff.mp analyzed
            simp only
            obtain ⟨path, failure, output, closed, refused⟩ | ⟨failure, incomplete⟩ | written :=
              writeReport_cases host options.outputPath (renderR5900AnalysisReport graph)
            · rw [refused]
              exact .noOutput accepts noHelp analyzes output closed
            · rw [incomplete]
              exact .incomplete accepts noHelp analyzes
            · rw [written]
              exact .written accepts noHelp analyzes

/-- The options that are asked for, with the graph of the executable. -/
def Reports (host : ToolHost) (allocation : BackingAllocation) (args : List String)
    (options : Burnout3AnalyzeOptions) (graph : R5900ReachabilityGraph) : Prop :=
  parseBurnout3AnalyzeOptions args = .ok options ∧ options.showHelp = false ∧
    Analyzes host allocation options graph

/-- Outputs are touched for the report of a finished analysis only, and the exit code tells
whether all of it has been written.  A run that exits tells of every failure; one without
memory for its input comes to no exit and touches nothing. -/
structure RunsAsAsked (host : ToolHost) (allocation : BackingAllocation) (args : List String)
    (run : ToolRun) : Prop where
  ending : run.ending = .exits 0 ∨ run.ending = .exits 2 ∨ run.ending = .exits 3 ∨
    run.ending = .terminates
  terminates : run.ending = .terminates ↔
    ∃ options, parseBurnout3AnalyzeOptions args = .ok options ∧ options.showHelp = false ∧
      LacksMemory host options.elfPath
  untouched : run.ending = .terminates → run.effects = []
  refused : run.ending = .exits 2 ↔ ∀ groups, analyzeGrammar.IsLine groups →
    args = groups.flatMap (words analyzeGrammar) → analyzeComplete groups = false
  truncated : ∀ path, .truncateOutput path ∈ run.effects →
    ∃ options graph, Reports host allocation args options graph ∧
      options.outputPath = some path
  written : ∀ path text complete, .writeOutput path text complete ∈ run.effects →
    ∃ options graph, Reports host allocation args options graph ∧
      options.outputPath = some path ∧ text = renderR5900AnalysisReport graph ∧
      Reordering graph (readReport text)
  printed : ∀ text complete, .standardOutput text complete ∈ run.effects →
    (∃ options, parseBurnout3AnalyzeOptions args = .ok options ∧
      options.showHelp = true ∧ text = burnout3AnalyzeUsage) ∨
    ∃ options graph, Reports host allocation args options graph ∧
      options.outputPath = none ∧ text = renderR5900AnalysisReport graph ∧
      Reordering graph (readReport text)
  succeeded : run.ending = .exits 0 ↔
    (∃ options, parseBurnout3AnalyzeOptions args = .ok options ∧ options.showHelp = true) ∨
    ∃ options graph, Reports host allocation args options graph ∧
      run.effects = reportEffects options.outputPath (renderR5900AnalysisReport graph) true
  explained : run.ending = .exits 2 ∨ run.ending = .exits 3 ↔
    ∃ text, .standardError text ∈ run.effects

namespace AnalyzeOutcome

variable {host : ToolHost} {allocation : BackingAllocation} {args : List String}
  {run : ToolRun}

theorem ending_eq_two_iff (outcome : AnalyzeOutcome host allocation args run) :
    run.ending = .exits 2 ↔ ∃ failure, parseBurnout3AnalyzeOptions args = .error failure := by
  cases outcome with
  | refused refuses => exact iff_of_true rfl ⟨_, refuses⟩
  | help accepts | outOfMemory accepts | noReport accepts | noOutput accepts
  | incomplete accepts | written accepts => simp [accepts]

theorem ending_eq_terminates_iff (outcome : AnalyzeOutcome host allocation args run) :
    run.ending = .terminates ↔
      ∃ options, parseBurnout3AnalyzeOptions args = .ok options ∧ options.showHelp = false ∧
        LacksMemory host options.elfPath := by
  cases outcome with
  | refused refuses => simp [refuses]
  | help accepts help => simp [accepts, help]
  | outOfMemory accepts noHelp lacks => exact iff_of_true rfl ⟨_, accepts, noHelp, lacks⟩
  | noReport accepts noHelp holds => simp [accepts, holds]
  | noOutput accepts noHelp analyzes | incomplete accepts noHelp analyzes
  | written accepts noHelp analyzes => simp [accepts, analyzes.not_lacksMemory]

/-- Where an effect comes from. -/
theorem effect_cases (outcome : AnalyzeOutcome host allocation args run) {effect : ToolEffect}
    (member : effect ∈ run.effects) :
    (∃ text, effect = .standardError text) ∨
      (∃ options complete, parseBurnout3AnalyzeOptions args = .ok options ∧
        options.showHelp = true ∧ effect = .standardOutput burnout3AnalyzeUsage complete) ∨
      ∃ options graph complete, Reports host allocation args options graph ∧
        effect ∈ reportEffects options.outputPath (renderR5900AnalysisReport graph)
          complete := by
  cases outcome with
  | refused | noReport | noOutput => exact .inl ⟨_, List.mem_singleton.mp member⟩
  | outOfMemory => cases member
  | @help options complete accepts help =>
      exact .inr (.inl ⟨options, complete, accepts, help, List.mem_singleton.mp member⟩)
  | @incomplete options graph _ accepts noHelp analyzes =>
      rcases List.mem_append.mp member with report | error
      · exact .inr (.inr ⟨options, graph, false, ⟨accepts, noHelp, analyzes⟩, report⟩)
      · exact .inl ⟨_, List.mem_singleton.mp error⟩
  | @written options graph accepts noHelp analyzes =>
      exact .inr (.inr ⟨options, graph, true, ⟨accepts, noHelp, analyzes⟩, member⟩)

theorem ending_eq_zero_iff (outcome : AnalyzeOutcome host allocation args run) :
    run.ending = .exits 0 ↔
      (∃ options, parseBurnout3AnalyzeOptions args = .ok options ∧ options.showHelp = true) ∨
      ∃ options graph, Reports host allocation args options graph ∧
        run.effects =
          reportEffects options.outputPath (renderR5900AnalysisReport graph) true := by
  have noError {options : Burnout3AnalyzeOptions} {graph : R5900ReachabilityGraph}
      {effects : List ToolEffect} {text : String}
      (same : effects ++ [.standardError text] =
        reportEffects options.outputPath (renderR5900AnalysisReport graph) true) : False := by
    have member : ToolEffect.standardError text ∈ effects ++ [.standardError text] := by simp
    rw [same] at member
    exact standardError_not_mem_reportEffects member
  constructor
  · intro success
    cases outcome with
    | refused | outOfMemory | noReport | noOutput | incomplete => cases success
    | @help options _ accepts help => exact .inl ⟨options, accepts, help⟩
    | @written options graph accepts noHelp analyzes =>
        exact .inr ⟨options, graph, ⟨accepts, noHelp, analyzes⟩, rfl⟩
  · rintro (⟨options, asked, help⟩ | ⟨options, graph, ⟨asked, noHelp, analyzes⟩, same⟩)
    · cases outcome with
      | refused refuses => cases refuses.symm.trans asked
      | help | written => rfl
      | outOfMemory accepts noHelp | noReport accepts noHelp | noOutput accepts noHelp
      | incomplete accepts noHelp =>
          obtain rfl := Except.ok.inj (accepts.symm.trans asked)
          cases noHelp.symm.trans help
    · cases outcome with
      | help | written => rfl
      | outOfMemory accepts noHelp lacks =>
          obtain rfl := Except.ok.inj (accepts.symm.trans asked)
          exact absurd lacks analyzes.not_lacksMemory
      | refused | noReport | noOutput => exact (@noError _ _ [] _ same).elim
      | incomplete => exact (noError same).elim

theorem runsAsAsked (outcome : AnalyzeOutcome host allocation args run) :
    RunsAsAsked host allocation args run where
  ending := by cases outcome <;> simp
  terminates := outcome.ending_eq_terminates_iff
  untouched := by
    intro terminates
    cases outcome with
    | outOfMemory => rfl
    | refused | help | noReport | noOutput | incomplete | written => cases terminates
  refused := by rw [outcome.ending_eq_two_iff, parses_analyzeOptions.refuses_iff]
  truncated := by
    intro path touched
    obtain ⟨text, same⟩ | ⟨options, complete, -, -, same⟩ |
      ⟨options, graph, complete, reports, member⟩ := outcome.effect_cases touched
    · cases same
    · cases same
    · exact ⟨options, graph, reports, truncateOutput_mem_reportEffects.mp member⟩
  written := by
    intro path text complete touched
    obtain ⟨text, same⟩ | ⟨options, complete, -, -, same⟩ |
      ⟨options, graph, complete, reports, member⟩ := outcome.effect_cases touched
    · cases same
    · cases same
    · obtain ⟨output, rfl, -⟩ := writeOutput_mem_reportEffects.mp member
      exact ⟨options, graph, reports, output, rfl, reports.2.2.reordering⟩
  printed := by
    intro text complete touched
    obtain ⟨text, same⟩ | ⟨options, complete, accepts, help, same⟩ |
      ⟨options, graph, complete, reports, member⟩ := outcome.effect_cases touched
    · cases same
    · obtain ⟨rfl, rfl⟩ := ToolEffect.standardOutput.inj same
      exact .inl ⟨options, accepts, help, rfl⟩
    · obtain ⟨output, rfl, -⟩ := standardOutput_mem_reportEffects.mp member
      exact .inr ⟨options, graph, reports, output, rfl, reports.2.2.reordering⟩
  succeeded := outcome.ending_eq_zero_iff
  explained := by cases outcome <;> simp

end AnalyzeOutcome

end Burnout3Recompiled
