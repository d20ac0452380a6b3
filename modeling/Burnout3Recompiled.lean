import Burnout3Recompiled.R5900IrValidation
import Burnout3Recompiled.R5900IrExecutor
import Burnout3Recompiled.LittleEndianMemory
import Burnout3Recompiled.R5900DecoderFields
import Burnout3Recompiled.R5900IrExecutorComposition
import Burnout3Recompiled.R5900IrWordArithmetic
import Burnout3Recompiled.R5900StartupSemantics
import Burnout3Recompiled.R5900X64Backend
import Burnout3Recompiled.R5900X64InstructionRefinement
import Burnout3Recompiled.R5900X64PackedRefinement
import Burnout3Recompiled.R5900X64Refinement
import Burnout3Recompiled.Ps2Elf
import Burnout3Recompiled.Ps2ImageMapping
import Burnout3Recompiled.R5900AnalysisReport
import Burnout3Recompiled.R5900CallSites
import Burnout3Recompiled.R5900BlockCache
import Burnout3Recompiled.R5900CacheTransparency
import Burnout3Recompiled.R5900DispatchStops
import Burnout3Recompiled.R5900DispatcherProgress
import Burnout3Recompiled.R5900DispatcherRefinement
import Burnout3Recompiled.R5900SiteCounts
import Burnout3Recompiled.R5900BlockLimit
import Burnout3Recompiled.R5900LeaderOverlap
import Burnout3Recompiled.R5900MaximalBlock
import Burnout3Recompiled.Ps2ElfGrammar
import Burnout3Recompiled.Ps2MemoryStore
import Burnout3Recompiled.R5900IrAcceptance
import Burnout3Recompiled.R5900DispatchChunking
import Burnout3Recompiled.SortedByKey
import Burnout3Recompiled.R5900ReportDeterminism
import Burnout3Recompiled.Ps2ElfAnalysis
import Burnout3Recompiled.R5900StopReasons
import Burnout3Recompiled.R5900BudgetComposition
import Burnout3Recompiled.R5900CacheInvariant
import Burnout3Recompiled.R5900CacheAccounting
import Burnout3Recompiled.X64Frame
import Burnout3Recompiled.R5900X64Sandbox
import Burnout3Recompiled.R5900IrTotality
import Burnout3Recompiled.R5900ReportTotals
import Burnout3Recompiled.R5900GraphWellFormed
import Burnout3Recompiled.R5900ReachabilityBound
import Burnout3Recompiled.FrameStats
import Burnout3Recompiled.FrameSchedule
import Burnout3Recompiled.R5900IrSequencing
import Burnout3Recompiled.R5900GuestMachine
import Burnout3Recompiled.R5900SlicedRuns
import Burnout3Recompiled.R5900EndlessRuns
import Burnout3Recompiled.ExecutablePages
import Burnout3Recompiled.R5900PageLifetimes
import Burnout3Recompiled.SegmentedReachability
import Burnout3Recompiled.R5900CallGraph
import Burnout3Recompiled.R5900StaticCoverage
import Burnout3Recompiled.R5900CodeFootprint
import Burnout3Recompiled.OrderStatistics
import Burnout3Recompiled.FramePacingTelemetry
import Burnout3Recompiled.WindowsFramePacer
import Burnout3Recompiled.R5900ReportRoundTrip
import Burnout3Recompiled.Burnout3Analyze
import Burnout3Recompiled.Burnout3PacingProbe
import Burnout3Recompiled.WinMain
import Burnout3Recompiled.R5900InstructionFormat
