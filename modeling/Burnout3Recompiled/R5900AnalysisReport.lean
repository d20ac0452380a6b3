import Burnout3Recompiled.HexText
import Burnout3Recompiled.R5900Reachability
import Burnout3Recompiled.SortedHistogram
import Mathlib.Data.List.Lex
import Mathlib.Data.List.Sort

/-!
# The analysis report

The report is a function of the graph alone.  Every container is rendered in a
fixed order: maps in key order, and lists sorted by all the fields that are
printed.
-/

namespace Burnout3Recompiled

open HexText (upperHexPadded)
open SortedHistogram (histogram)

def hex32 (value : BitVec 32) : String :=
  "0x" ++ upperHexPadded 8 value.toNat

def hexOpcode (value : BitVec 8) : String :=
  "0x" ++ upperHexPadded 2 value.toNat

def blockEndName : R5900BlockEndKind → String
  | .instructionLimit => "InstructionLimit"
  | .conditionalBranch => "ConditionalBranch"
  | .directJump => "DirectJump"
  | .directCall => "DirectCall"
  | .indirectJump => "IndirectJump"
  | .indirectCall => "IndirectCall"
  | .trap => "Trap"
  | .unsupportedInstruction => "UnsupportedInstruction"

def edgeName : R5900EdgeKind → String
  | .branchTaken => "BranchTaken"
  | .branchNotTaken => "BranchNotTaken"
  | .directJump => "DirectJump"
  | .directCall => "DirectCall"
  | .callContinuation => "CallContinuation"
  | .indirectJump => "IndirectJump"
  | .indirectCall => "IndirectCall"
  | .fallthrough => "Fallthrough"

def issueName : R5900ReachabilityIssueKind → String
  | .unresolvedIndirectExit => "UnresolvedIndirectExit"
  | .targetAnalysisFailed => "TargetAnalysisFailed"
  | .blockLimitReached => "BlockLimitReached"
  | .leaderInsideBlock => "LeaderInsideBlock"
  | .leaderInsideDelaySlot => "LeaderInsideDelaySlot"

def controlFlowErrorName : R5900ControlFlowError → String
  | .invalidInstructionLimit => "InvalidInstructionLimit"
  | .unalignedStart => "UnalignedStart"
  | .unmappedInstruction => "UnmappedInstruction"
  | .nonExecutableInstruction => "NonExecutableInstruction"
  | .missingDelaySlot => "MissingDelaySlot"
  | .nonExecutableDelaySlot => "NonExecutableDelaySlot"

/-- `std::sort` by a tuple of fields, each given by its rank. -/
def sortByRanks {α : Type} (ranks : α → List Nat) (items : List α) : List α :=
  items.mergeSort fun lhs rhs => decide (ranks lhs ≤ ranks rhs)

/-- An absent value is ordered before every present one. -/
def optionalRank (value : Option (BitVec 32)) : Nat :=
  match value with
  | none => 0
  | some value => value.toNat + 1

def edgeRanks (edge : R5900ControlFlowEdge) : List Nat :=
  [edge.kind.ctorIdx, optionalRank edge.target]

def callRanks (call : R5900ReachabilityCall) : List Nat :=
  [call.sourceBlock.toNat, call.callPc.toNat, call.indirect.toNat,
    optionalRank call.target]

def issueRanks (issue : R5900ReachabilityIssue) : List Nat :=
  [issue.kind.ctorIdx, issue.sourceBlock.toNat, optionalRank issue.target,
    optionalRank issue.relatedBlock,
    (issue.analysisError.map fun error => error.ctorIdx + 1).getD 0]

structure UnknownSite where
  pc : BitVec 32 := 0
  raw : BitVec 32 := 0
  deriving DecidableEq, Repr

/-- The sites of a block in the order they are counted. -/
def countedSites (block : R5900BasicBlock) : List R5900InstructionSite :=
  block.instructions ++ block.delaySlot.toList

def isUnknown (site : R5900InstructionSite) : Bool :=
  decide (site.decoded.instruction = .unknown)

def primaryOpcodeOf (raw : BitVec 32) : BitVec 8 :=
  ((raw >>> 26) &&& 0x3F).setWidth 8

/-- What `count_site` has accumulated. -/
structure SiteCounters where
  instructions : Nat := 0
  decoded : Nat := 0
  unknown : Nat := 0
  instructionHistogram : List (String × Nat) := []
  unknownPrimaryHistogram : List (BitVec 8 × Nat) := []
  unknownSites : List UnknownSite := []

def countSite (counters : SiteCounters) (site : R5900InstructionSite) : SiteCounters :=
  let counters := { counters with
    instructions := counters.instructions + 1
    instructionHistogram := SortedHistogram.increment
      (r5900InstructionName site.decoded.instruction) counters.instructionHistogram }
  if isUnknown site then
    { counters with
      unknown := counters.unknown + 1
      unknownPrimaryHistogram := SortedHistogram.increment
        (primaryOpcodeOf site.decoded.raw) counters.unknownPrimaryHistogram
      unknownSites := counters.unknownSites ++ [⟨site.pc, site.decoded.raw⟩] }
  else { counters with decoded := counters.decoded + 1 }

def countBlocks (blocks : List R5900BasicBlock) : SiteCounters :=
  (blocks.flatMap countedSites).foldl countSite {}

/-- The resolved direct calls, counted by target. -/
def directCallTargets (calls : List R5900ReachabilityCall) : List (BitVec 32 × Nat) :=
  histogram (calls.filterMap fun call => if call.indirect then none else call.target)

def indirectExitCount (issues : List R5900ReachabilityIssue) : Nat :=
  issues.countP fun issue => issue.kind = .unresolvedIndirectExit

def unknownSiteLine (site : UnknownSite) : String :=
  let field (shift : Nat) (mask : BitVec 32) : String :=
    hexOpcode (((site.raw >>> shift) &&& mask).setWidth 8)
  "  PC " ++ hex32 site.pc ++ " RAW " ++ hex32 site.raw ++
    " PRIMARY " ++ field 26 0x3F ++ " RS " ++ field 21 0x1F ++
    " RT " ++ field 16 0x1F ++ " RD " ++ field 11 0x1F ++
    " SA " ++ field 6 0x1F ++ " FUNCT " ++ field 0 0x3F ++ "\n"

def callTargetLine (entry : BitVec 32 × Nat) : String :=
  "  TARGET " ++ hex32 entry.1 ++ " CALL_SITES " ++ toString entry.2 ++ "\n"

def siteText (site : R5900InstructionSite) : String :=
  hex32 site.pc ++ " " ++ r5900InstructionName site.decoded.instruction ++
    " RAW " ++ hex32 site.decoded.raw

def edgeLine (edge : R5900ControlFlowEdge) : String :=
  "  EDGE " ++ edgeName edge.kind ++ " " ++
    (match edge.target with
    | some target => hex32 target
    | none => "unresolved") ++ "\n"

def blockLines (block : R5900BasicBlock) : List String :=
  ["BLOCK " ++ hex32 block.startPc ++ " END " ++ blockEndName block.endKind ++ "\n"] ++
    block.instructions.map (fun site => "  " ++ siteText site ++ "\n") ++
    block.delaySlot.toList.map (fun slot => "  DELAY " ++ siteText slot ++
      " FALLTHROUGH " ++ (if block.delaySlotExecutesOnFallthrough then "yes" else "no") ++
      "\n") ++
    (sortByRanks edgeRanks block.edges).map edgeLine ++ ["\n"]

def callLine (call : R5900ReachabilityCall) : String :=
  "CALL " ++ hex32 call.sourceBlock ++ " PC " ++ hex32 call.callPc ++ " " ++
    (if call.indirect then "INDIRECT unresolved"
    else "DIRECT " ++
      match call.target with
      | some target => hex32 target
      | none => "unresolved") ++ "\n"

def issueLine (issue : R5900ReachabilityIssue) : String :=
  let optionalText (label : String) (value : Option (BitVec 32)) : String :=
    match value with
    | some value => label ++ hex32 value
    | none => ""
  "ISSUE " ++ issueName issue.kind ++ " SOURCE " ++ hex32 issue.sourceBlock ++
    optionalText " TARGET " issue.target ++
    optionalText " RELATED " issue.relatedBlock ++
    (match issue.analysisError with
    | some error => " ERROR " ++ controlFlowErrorName error
    | none => "") ++ "\n"

def summaryLines (graph : R5900ReachabilityGraph) (counters : SiteCounters) :
    List String :=
  ["ENTRY " ++ hex32 graph.entryPc ++ "\n",
    "BLOCKS " ++ toString graph.blocks.length ++ "\n",
    "INSTRUCTIONS " ++ toString counters.instructions ++ "\n",
    "DECODED " ++ toString counters.decoded ++ "\n",
    "UNKNOWN " ++ toString counters.unknown ++ "\n",
    "CALLS " ++ toString graph.calls.length ++ "\n",
    "INDIRECT_EXITS " ++ toString (indirectExitCount graph.issues) ++ "\n",
    "CFG_ISSUES " ++ toString graph.issues.length ++ "\n",
    "INSTRUCTION_HISTOGRAM " ++ toString counters.instructionHistogram.length ++ "\n"] ++
    counters.instructionHistogram.map fun entry =>
      "  " ++ entry.1 ++ " " ++ toString entry.2 ++ "\n"

def unknownLines (counters : SiteCounters) : List String :=
  ["UNKNOWN_PRIMARY_OPCODES " ++ toString counters.unknownPrimaryHistogram.length ++
    "\n"] ++
    counters.unknownPrimaryHistogram.map (fun entry =>
      "  " ++ hexOpcode entry.1 ++ " " ++ toString entry.2 ++ "\n") ++
    ["UNKNOWN_SITES " ++ toString counters.unknownSites.length ++ "\n"] ++
    (sortByRanks (fun site => [site.pc.toNat, site.raw.toNat])
      counters.unknownSites).map unknownSiteLine

def directCallTargetLines (graph : R5900ReachabilityGraph) : List String :=
  let targets := directCallTargets graph.calls
  ["DIRECT_CALL_TARGETS " ++ toString targets.length ++ "\n"] ++
    targets.map callTargetLine ++ ["\n"]

/-- Blocks are sorted by their start alone, which no two blocks of an analysed
graph share. -/
def reportLines (graph : R5900ReachabilityGraph) : List String :=
  let blocks := sortByRanks (fun block => [block.startPc.toNat]) graph.blocks
  let counters := countBlocks blocks
  summaryLines graph counters ++ unknownLines counters ++ directCallTargetLines graph ++
    blocks.flatMap blockLines ++ (sortByRanks callRanks graph.calls).map callLine ++
    (if graph.calls.isEmpty then [] else ["\n"]) ++
    (sortByRanks issueRanks graph.issues).map issueLine

def renderR5900AnalysisReport (graph : R5900ReachabilityGraph) : String :=
  String.join (reportLines graph)

end Burnout3Recompiled
