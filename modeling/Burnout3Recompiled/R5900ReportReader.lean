import Burnout3Recompiled.LineText
import Burnout3Recompiled.R5900ReportTotals

/-!
# Reading the lines of a report

Every line of a report about the entry, a block, a call or an issue is read back as what
it has been printed for.  The lines that only count are passed over.
-/

namespace Burnout3Recompiled

open HexText (upperHexPadded readUpperHexFrom readUpperHexFrom_upperHexPadded)
open LineText

def readHex32 (word : String) : Option (BitVec 32) :=
  if word.toList.take 2 = ['0', 'x'] then
    (readUpperHexFrom 0 (word.toList.drop 2)).map (BitVec.ofNat 32)
  else none

/-- The value a word names. -/
def readName {α : Type} (values : List α) (name : α → String) (word : String) : Option α :=
  values.find? (name · = word)

def blockEndKinds : List R5900BlockEndKind :=
  [.instructionLimit, .conditionalBranch, .directJump, .directCall, .indirectJump,
    .indirectCall, .trap, .unsupportedInstruction]

def edgeKinds : List R5900EdgeKind :=
  [.branchTaken, .branchNotTaken, .directJump, .directCall, .callContinuation,
    .indirectJump, .indirectCall, .fallthrough]

def issueKinds : List R5900ReachabilityIssueKind :=
  [.unresolvedIndirectExit, .targetAnalysisFailed, .blockLimitReached, .leaderInsideBlock,
    .leaderInsideDelaySlot]

def controlFlowErrors : List R5900ControlFlowError :=
  [.invalidInstructionLimit, .unalignedStart, .unmappedInstruction,
    .nonExecutableInstruction, .missingDelaySlot, .nonExecutableDelaySlot]

def readYesNo (word : String) : Option Bool :=
  if word = "yes" then some true else if word = "no" then some false else none

/-- A target that may be unresolved. -/
def readTarget (word : String) : Option (Option (BitVec 32)) :=
  if word = "unresolved" then some none else (readHex32 word).map some

/-- What the lines of a report tell about the graph. -/
inductive ReportItem where
  | entry (pc : BitVec 32)
  | block (startPc : BitVec 32) (endKind : R5900BlockEndKind)
  | site (site : R5900InstructionSite)
  | delaySlot (slot : R5900InstructionSite) (executesOnFallthrough : Bool)
  | edge (edge : R5900ControlFlowEdge)
  | call (call : R5900ReachabilityCall)
  | issue (issue : R5900ReachabilityIssue)
  deriving DecidableEq

/-- A site is read from its word alone, which must decode to the printed name. -/
def readSite (row : List String) : Option R5900InstructionSite :=
  match row with
  | [pc, name, label, raw] => do
      let pc ← readHex32 pc
      let raw ← readHex32 raw
      let decoded := decodeR5900 raw
      if label = "RAW" ∧ r5900InstructionName decoded.instruction = name then
        some ⟨pc, decoded⟩
      else none
  | _ => none

/-- The lines of a block behind its first one start with two blanks. -/
def readBlockPart (row : List String) : Option ReportItem :=
  match row with
  | [_, label, kind, target] =>
      if label = "EDGE" then do
        let kind ← readName edgeKinds edgeName kind
        let target ← readTarget target
        some (.edge ⟨kind, target⟩)
      else none
  | [_, pc, name, label, raw] => (readSite [pc, name, label, raw]).map .site
  | [_, delay, pc, name, label, raw, fallthrough, executes] =>
      if delay = "DELAY" ∧ fallthrough = "FALLTHROUGH" then do
        let slot ← readSite [pc, name, label, raw]
        let executes ← readYesNo executes
        some (.delaySlot slot executes)
      else none
  | _ => none

def readBlockStart (row : List String) : Option ReportItem :=
  match row with
  | [startPc, label, endKind] =>
      if label = "END" then do
        let startPc ← readHex32 startPc
        let endKind ← readName blockEndKinds blockEndName endKind
        some (.block startPc endKind)
      else none
  | _ => none

def readCall (row : List String) : Option ReportItem :=
  match row with
  | [sourceBlock, label, callPc, kind, target] =>
      if label = "PC" then do
        let sourceBlock ← readHex32 sourceBlock
        let callPc ← readHex32 callPc
        let target ← readTarget target
        if kind = "INDIRECT" then some (.call ⟨sourceBlock, callPc, true, target⟩)
        else if kind = "DIRECT" then some (.call ⟨sourceBlock, callPc, false, target⟩)
        else none
      else none
  | _ => none

/-- A field that is printed with its label when it is there, and the words behind it. -/
def readOptional {α : Type} (label : String) (read : String → Option α)
    (row : List String) : Option α × List String :=
  match row with
  | word :: value :: rest => if word = label then (read value, rest) else (none, row)
  | _ => (none, row)

def readIssue (row : List String) : Option ReportItem :=
  match row with
  | kind :: _ :: sourceBlock :: rest => do
      let kind ← readName issueKinds issueName kind
      let sourceBlock ← readHex32 sourceBlock
      let (target, rest) := readOptional "TARGET" readHex32 rest
      let (relatedBlock, rest) := readOptional "RELATED" readHex32 rest
      let (analysisError, _) :=
        readOptional "ERROR" (readName controlFlowErrors controlFlowErrorName) rest
      some (.issue ⟨kind, sourceBlock, target, relatedBlock, analysisError⟩)
  | _ => none

def readItem (row : List String) : Option ReportItem :=
  match row with
  | [] => none
  | first :: rest =>
      if first = "" then readBlockPart rest
      else if first = "BLOCK" then readBlockStart rest
      else if first = "CALL" then readCall rest
      else if first = "ISSUE" then readIssue rest
      else if first = "ENTRY" then (rest.head?.bind readHex32).map .entry
      else none

theorem toList_hex32 (value : BitVec 32) :
    (hex32 value).toList = '0' :: 'x' :: (upperHexPadded 8 value.toNat).toList := by
  rw [hex32, String.toList_append]
  rfl

@[simp] theorem readHex32_hex32 (value : BitVec 32) :
    readHex32 (hex32 value) = some value := by
  rw [readHex32, toList_hex32]
  simp only [List.take_succ_cons, List.take_zero, List.drop_succ_cons, List.drop_zero]
  rw [if_pos trivial, readUpperHexFrom_upperHexPadded, Option.map_some, BitVec.ofNat_toNat,
    BitVec.setWidth_eq]

/-- A word without a digit's value in it is no blank and no newline. -/
theorem isWord_upperHexPadded (width value : Nat) : IsWord (upperHexPadded width value) := by
  have digits := HexText.isSome_upperHexValue_upperHexPadded width value
  refine ⟨fun blank => ?_, fun newline => ?_⟩
  · exact absurd (digits ' ' blank) (by decide)
  · exact absurd (digits '\n' newline) (by decide)

@[simp] theorem isWord_hex32 (value : BitVec 32) : IsWord (hex32 value) :=
  IsWord.append (by decide) (isWord_upperHexPadded 8 value.toNat)

theorem hex32_ne_unresolved (value : BitVec 32) : hex32 value ≠ "unresolved" := by
  intro same
  have reads := readHex32_hex32 value
  rw [same] at reads
  exact absurd (reads.symm.trans (show readHex32 "unresolved" = none by decide)) (by simp)

@[simp] theorem isWord_hexOpcode (value : BitVec 8) : IsWord (hexOpcode value) :=
  IsWord.append (by decide) (isWord_upperHexPadded 2 value.toNat)

@[simp] theorem isWord_blockEndName (kind : R5900BlockEndKind) :
    IsWord (blockEndName kind) := by
  cases kind <;> decide

@[simp] theorem isWord_edgeName (kind : R5900EdgeKind) : IsWord (edgeName kind) := by
  cases kind <;> decide

@[simp] theorem isWord_issueName (kind : R5900ReachabilityIssueKind) :
    IsWord (issueName kind) := by
  cases kind <;> decide

@[simp] theorem isWord_controlFlowErrorName (error : R5900ControlFlowError) :
    IsWord (controlFlowErrorName error) := by
  cases error <;> decide

@[simp] theorem isWord_r5900InstructionName (instruction : R5900Instruction) :
    IsWord (r5900InstructionName instruction) := by
  have all : ∀ instruction ∈ r5900Instructions,
      IsWord (r5900InstructionName instruction) := by
    decide +kernel
  exact all instruction (mem_r5900Instructions instruction)

@[simp] theorem readName_blockEndName (kind : R5900BlockEndKind) :
    readName blockEndKinds blockEndName (blockEndName kind) = some kind := by
  cases kind <;> decide

@[simp] theorem readName_edgeName (kind : R5900EdgeKind) :
    readName edgeKinds edgeName (edgeName kind) = some kind := by
  cases kind <;> decide

@[simp] theorem readName_issueName (kind : R5900ReachabilityIssueKind) :
    readName issueKinds issueName (issueName kind) = some kind := by
  cases kind <;> decide

@[simp] theorem readName_controlFlowErrorName (error : R5900ControlFlowError) :
    readName controlFlowErrors controlFlowErrorName (controlFlowErrorName error) =
      some error := by
  cases error <;> decide

def targetWord (target : Option (BitVec 32)) : String :=
  match target with
  | some target => hex32 target
  | none => "unresolved"

@[simp] theorem isWord_targetWord (target : Option (BitVec 32)) :
    IsWord (targetWord target) := by
  cases target with
  | none => exact (by decide : IsWord "unresolved")
  | some target => exact isWord_hex32 target

@[simp] theorem readTarget_targetWord (target : Option (BitVec 32)) :
    readTarget (targetWord target) = some target := by
  cases target with
  | none => rfl
  | some target =>
      rw [targetWord, readTarget, if_neg (hex32_ne_unresolved target), readHex32_hex32,
        Option.map_some]

theorem edgeLine_eq (edge : R5900ControlFlowEdge) :
    edgeLine edge = line ["", "", "EDGE", edgeName edge.kind, targetWord edge.target] := by
  rcases edge with ⟨kind, _ | target⟩ <;>
    exact String.toList_inj.mp (by simp [edgeLine, line, targetWord])

theorem prints_edgeLine (edge : R5900ControlFlowEdge) :
    Prints readItem [edgeLine edge] [.edge edge] := by
  refine .item ⟨List.cons_ne_nil _ _, ?_⟩ (edgeLine_eq edge) ?_
  · simp +decide
  · simp [readItem, readBlockPart]

def siteRow (site : R5900InstructionSite) : List String :=
  [hex32 site.pc, r5900InstructionName site.decoded.instruction, "RAW",
    hex32 site.decoded.raw]

theorem readSite_siteRow {site : R5900InstructionSite}
    (decoded : site.decoded = decodeR5900 site.decoded.raw) :
    readSite (siteRow site) = some site := by
  obtain ⟨pc, instruction⟩ := site
  rw [siteRow, readSite, readHex32_hex32, readHex32_hex32]
  simp [← decoded]

theorem siteLine_eq (site : R5900InstructionSite) :
    "  " ++ siteText site ++ "\n" = line ("" :: "" :: siteRow site) :=
  String.toList_inj.mp (by simp [siteText, line, siteRow])

theorem prints_siteLine {site : R5900InstructionSite}
    (decoded : site.decoded = decodeR5900 site.decoded.raw) :
    Prints readItem ["  " ++ siteText site ++ "\n"] [.site site] := by
  refine .item ⟨List.cons_ne_nil _ _, ?_⟩ (siteLine_eq site) ?_
  · simp +decide [siteRow]
  · have reads := readSite_siteRow decoded
    rw [siteRow] at reads
    simp [readItem, readBlockPart, siteRow, reads]

def delayLine (executesOnFallthrough : Bool) (slot : R5900InstructionSite) : String :=
  "  DELAY " ++ siteText slot ++
    " FALLTHROUGH " ++ (if executesOnFallthrough then "yes" else "no") ++ "\n"

def delayRow (executesOnFallthrough : Bool) (slot : R5900InstructionSite) : List String :=
  ["", "", "DELAY"] ++ siteRow slot ++
    ["FALLTHROUGH", if executesOnFallthrough then "yes" else "no"]

theorem delayLine_eq (executesOnFallthrough : Bool) (slot : R5900InstructionSite) :
    delayLine executesOnFallthrough slot = line (delayRow executesOnFallthrough slot) := by
  cases executesOnFallthrough <;>
    exact String.toList_inj.mp (by simp [delayLine, siteText, line, delayRow, siteRow])

theorem prints_delayLine (executesOnFallthrough : Bool) {slot : R5900InstructionSite}
    (decoded : slot.decoded = decodeR5900 slot.decoded.raw) :
    Prints readItem [delayLine executesOnFallthrough slot]
      [.delaySlot slot executesOnFallthrough] := by
  refine .item ⟨List.cons_ne_nil _ _, ?_⟩ (delayLine_eq executesOnFallthrough slot) ?_
  · cases executesOnFallthrough <;> simp +decide [siteRow]
  · have reads := readSite_siteRow decoded
    rw [siteRow] at reads
    cases executesOnFallthrough <;>
      simp [readItem, readBlockPart, readYesNo, siteRow, reads]

theorem prints_blankLine : Prints readItem ["\n"] [] := by
  have isLine : "\n" = line [""] := String.toList_inj.mp (by simp [line])
  exact .skip ⟨List.cons_ne_nil _ _, by decide⟩ isLine rfl

def blockItems (block : R5900BasicBlock) : List ReportItem :=
  [.block block.startPc block.endKind] ++ block.instructions.map .site ++
    block.delaySlot.toList.map (.delaySlot · block.delaySlotExecutesOnFallthrough) ++
    (sortByRanks edgeRanks block.edges).map .edge

theorem prints_blockStart (block : R5900BasicBlock) :
    Prints readItem ["BLOCK " ++ hex32 block.startPc ++ " END " ++
      blockEndName block.endKind ++ "\n"] [.block block.startPc block.endKind] := by
  refine @Prints.item _ _
    ["BLOCK", hex32 block.startPc, "END", blockEndName block.endKind] _ _
    ⟨List.cons_ne_nil _ _, ?_⟩ (String.toList_inj.mp (by simp [line])) ?_
  · simp +decide
  · simp [readItem, readBlockStart]

theorem prints_blockLines {block : R5900BasicBlock}
    (decoded : ∀ site ∈ countedSites block, site.decoded = decodeR5900 site.decoded.raw) :
    Prints readItem (blockLines block) (blockItems block) := by
  obtain ⟨decodedHere, decodedBehind⟩ := List.forall_mem_append.mp decoded
  have sites : Prints readItem (block.instructions.map fun site => "  " ++ siteText site ++ "\n")
      (block.instructions.map .site) :=
    .map fun site member => prints_siteLine (decodedHere site member)
  have slots : Prints readItem
      (block.delaySlot.toList.map (delayLine block.delaySlotExecutesOnFallthrough))
      (block.delaySlot.toList.map (.delaySlot · block.delaySlotExecutesOnFallthrough)) :=
    .map fun slot member => prints_delayLine _ (decodedBehind slot member)
  have edges : Prints readItem ((sortByRanks edgeRanks block.edges).map edgeLine)
      ((sortByRanks edgeRanks block.edges).map .edge) :=
    .map fun edge _ => prints_edgeLine edge
  have printed :=
    ((((prints_blockStart block).append sites).append slots).append edges).append
      prints_blankLine
  rw [List.append_nil] at printed
  exact printed

theorem callLine_eq {call : R5900ReachabilityCall}
    (unresolved : call.indirect = true → call.target = none) :
    callLine call = line ["CALL", hex32 call.sourceBlock, "PC", hex32 call.callPc,
      if call.indirect then "INDIRECT" else "DIRECT", targetWord call.target] := by
  rcases call with ⟨sourceBlock, callPc, _ | _, _ | target⟩
  · exact String.toList_inj.mp (by simp [callLine, line, targetWord])
  · exact String.toList_inj.mp (by simp [callLine, line, targetWord])
  · exact String.toList_inj.mp (by simp [callLine, line, targetWord])
  · cases unresolved rfl

theorem prints_callLine {call : R5900ReachabilityCall}
    (unresolved : call.indirect = true → call.target = none) :
    Prints readItem [callLine call] [.call call] := by
  refine .item ⟨List.cons_ne_nil _ _, ?_⟩ (callLine_eq unresolved) ?_
  · cases call.indirect <;> simp +decide
  · rcases call with ⟨sourceBlock, callPc, _ | _, target⟩ <;> simp [readItem, readCall]

/-- A field with its label, when it is there. -/
def optionalRow {α : Type} (label : String) (print : α → String) (value : Option α) :
    List String :=
  match value with
  | some value => [label, print value]
  | none => []

theorem words_optionalRow {α : Type} {label : String} {print : α → String}
    (isLabel : IsWord label) (isWord : ∀ value, IsWord (print value)) (value : Option α) :
    ∀ word ∈ optionalRow label print value, IsWord word := by
  cases value with
  | none => exact fun _ member => (List.not_mem_nil member).elim
  | some value =>
      exact List.forall_mem_cons.mpr ⟨isLabel, List.forall_mem_singleton.mpr (isWord value)⟩

theorem readOptional_optionalRow {α : Type} {label : String} {print : α → String}
    {read : String → Option α} {rest : List String}
    (reads : ∀ value, read (print value) = some value) (other : rest.head? ≠ some label)
    (value : Option α) :
    readOptional label read (optionalRow label print value ++ rest) = (value, rest) := by
  cases value with
  | none =>
      rcases rest with _ | ⟨word, _ | ⟨next, rest⟩⟩
      · rfl
      · rfl
      · rw [List.head?_cons, ne_eq, Option.some.injEq] at other
        simp [optionalRow, readOptional, other]
  | some value => simp [optionalRow, readOptional, reads]

def issueRow (issue : R5900ReachabilityIssue) : List String :=
  ["ISSUE", issueName issue.kind, "SOURCE", hex32 issue.sourceBlock] ++
    (optionalRow "TARGET" hex32 issue.target ++
      (optionalRow "RELATED" hex32 issue.relatedBlock ++
        (optionalRow "ERROR" controlFlowErrorName issue.analysisError ++ [])))

theorem issueLine_eq (issue : R5900ReachabilityIssue) :
    issueLine issue = line (issueRow issue) := by
  rcases issue with ⟨kind, sourceBlock, _ | target, _ | relatedBlock, _ | error⟩ <;>
    exact String.toList_inj.mp (by simp [issueLine, line, issueRow, optionalRow])

theorem head?_optionalRow {α : Type} {label other : String} {print : α → String}
    {rest : List String} (different : label ≠ other) (rests : rest.head? ≠ some other)
    (value : Option α) : (optionalRow label print value ++ rest).head? ≠ some other := by
  cases value with
  | none => exact rests
  | some value => simpa [optionalRow] using different

theorem words_issueRow (issue : R5900ReachabilityIssue) :
    ∀ word ∈ issueRow issue, IsWord word := by
  unfold issueRow
  simp only [List.forall_mem_append]
  refine ⟨by simp +decide, words_optionalRow (by decide) isWord_hex32 _,
    words_optionalRow (by decide) isWord_hex32 _,
    words_optionalRow (by decide) isWord_controlFlowErrorName _, by simp⟩

theorem readItem_issueRow (issue : R5900ReachabilityIssue) :
    readItem (issueRow issue) = some (.issue issue) := by
  -- no field is taken for another one, as the labels differ
  have noLabel (label : String) : ([] : List String).head? ≠ some label := by simp
  have error := readOptional_optionalRow readName_controlFlowErrorName (noLabel "ERROR")
    issue.analysisError
  have behindRelated (label : String) (different : "ERROR" ≠ label) :=
    @head?_optionalRow _ _ _ controlFlowErrorName _ different (noLabel label)
      issue.analysisError
  have related := readOptional_optionalRow readHex32_hex32
    (behindRelated "RELATED" (by decide)) issue.relatedBlock
  have target := readOptional_optionalRow readHex32_hex32
    (@head?_optionalRow _ _ _ hex32 _ (show "RELATED" ≠ "TARGET" by decide)
      (behindRelated "TARGET" (by decide)) issue.relatedBlock) issue.target
  simp [issueRow, readItem, readIssue, target, related, error, -List.append_nil]

theorem prints_issueLine (issue : R5900ReachabilityIssue) :
    Prints readItem [issueLine issue] [.issue issue] :=
  .item ⟨List.cons_ne_nil _ _, words_issueRow issue⟩ (issueLine_eq issue)
    (readItem_issueRow issue)

/-- A label with a number behind it. -/
theorem prints_totalLine {text : String} (label : String) (number : Nat)
    (keyword : label ∉ ["", "BLOCK", "CALL", "ISSUE", "ENTRY"]) (isLabel : IsWord label)
    (start : text = label ++ " ") :
    Prints readItem [text ++ toString number ++ "\n"] [] := by
  subst start
  refine @Prints.skip _ _ [label, toString number] _ ⟨List.cons_ne_nil _ _, ?_⟩
    (String.toList_inj.mp (by simp [line])) ?_
  · exact List.forall_mem_cons.mpr
      ⟨isLabel, List.forall_mem_singleton.mpr (isWord_repr number)⟩
  · simp only [List.mem_cons, List.not_mem_nil, or_false, not_or] at keyword
    simp [readItem, keyword]

/-- A row of a histogram. -/
theorem prints_histogramLine {key : String} (isKey : IsWord key) (number : Nat) :
    Prints readItem ["  " ++ key ++ " " ++ toString number ++ "\n"] [] := by
  refine @Prints.skip _ _ ["", "", key, toString number] _ ⟨List.cons_ne_nil _ _, ?_⟩
    (String.toList_inj.mp (by simp [line])) ?_
  · simp +decide [isKey]
  · simp [readItem, readBlockPart]

def unknownSiteRow (site : UnknownSite) : List String :=
  let field (shift : Nat) (mask : BitVec 32) : String :=
    hexOpcode (((site.raw >>> shift) &&& mask).setWidth 8)
  ["", "", "PC", hex32 site.pc, "RAW", hex32 site.raw, "PRIMARY", field 26 0x3F,
    "RS", field 21 0x1F, "RT", field 16 0x1F, "RD", field 11 0x1F, "SA", field 6 0x1F,
    "FUNCT", field 0 0x3F]

theorem unknownSiteLine_eq (site : UnknownSite) :
    unknownSiteLine site = line (unknownSiteRow site) := by
  have text (pc raw primary rs rt rd sa funct : String) :
      "  PC " ++ pc ++ " RAW " ++ raw ++ " PRIMARY " ++ primary ++ " RS " ++ rs ++ " RT " ++ rt ++
        " RD " ++ rd ++ " SA " ++ sa ++ " FUNCT " ++ funct ++ "\n" =
      line ["", "", "PC", pc, "RAW", raw, "PRIMARY", primary, "RS", rs, "RT", rt, "RD", rd,
        "SA", sa, "FUNCT", funct] :=
    String.toList_inj.mp (by simp [line])
  exact text ..

theorem prints_unknownSiteLine (site : UnknownSite) :
    Prints readItem [unknownSiteLine site] [] := by
  refine .skip ⟨List.cons_ne_nil _ _, ?_⟩ (unknownSiteLine_eq site) ?_
  · simp +decide
  · simp [readItem, readBlockPart]

theorem prints_callTargetLine (entry : BitVec 32 × Nat) :
    Prints readItem [callTargetLine entry] [] := by
  refine @Prints.skip _ _ ["", "", "TARGET", hex32 entry.1, "CALL_SITES", toString entry.2] _
    ⟨List.cons_ne_nil _ _, ?_⟩ (String.toList_inj.mp (by simp [callTargetLine, line])) ?_
  · simp +decide
  · simp [readItem, readBlockPart, readSite]

theorem prints_entryLine (pc : BitVec 32) :
    Prints readItem ["ENTRY " ++ hex32 pc ++ "\n"] [.entry pc] := by
  refine @Prints.item _ _ ["ENTRY", hex32 pc] _ _ ⟨List.cons_ne_nil _ _, ?_⟩
    (String.toList_inj.mp (by simp [line])) ?_
  · simp +decide
  · simp [readItem]

theorem prints_summaryLines (graph : R5900ReachabilityGraph) {counters : SiteCounters}
    (names : ∀ entry ∈ counters.instructionHistogram, IsWord entry.1) :
    Prints readItem (summaryLines graph counters) [.entry graph.entryPc] := by
  have histogram := @Prints.skipAll _ readItem _ counters.instructionHistogram _
    fun entry member => prints_histogramLine (names entry member) entry.2
  exact (prints_entryLine graph.entryPc).append <|
    (prints_totalLine "BLOCKS" _ (by decide) (by decide) (by decide)).append <|
    (prints_totalLine "INSTRUCTIONS" _ (by decide) (by decide) (by decide)).append <|
    (prints_totalLine "DECODED" _ (by decide) (by decide) (by decide)).append <|
    (prints_totalLine "UNKNOWN" _ (by decide) (by decide) (by decide)).append <|
    (prints_totalLine "CALLS" _ (by decide) (by decide) (by decide)).append <|
    (prints_totalLine "INDIRECT_EXITS" _ (by decide) (by decide) (by decide)).append <|
    (prints_totalLine "CFG_ISSUES" _ (by decide) (by decide) (by decide)).append <|
    (prints_totalLine "INSTRUCTION_HISTOGRAM" _ (by decide) (by decide) (by decide)).append
      histogram

theorem prints_unknownLines (counters : SiteCounters) :
    Prints readItem (unknownLines counters) [] := by
  have opcodes := @Prints.skipAll _ readItem _ counters.unknownPrimaryHistogram _
    fun entry _ => prints_histogramLine (isWord_hexOpcode entry.1) entry.2
  have sites : Prints readItem ((sortByRanks (fun site => [site.pc.toNat, site.raw.toNat])
      counters.unknownSites).map unknownSiteLine) [] :=
    .skipAll fun site _ => prints_unknownSiteLine site
  exact (((prints_totalLine "UNKNOWN_PRIMARY_OPCODES" _ (by decide) (by decide)
    (by decide)).append opcodes).append
      (prints_totalLine "UNKNOWN_SITES" _ (by decide) (by decide) (by decide))).append sites

theorem prints_directCallTargetLines (graph : R5900ReachabilityGraph) :
    Prints readItem (directCallTargetLines graph) [] := by
  have targets : Prints readItem ((directCallTargets graph.calls).map callTargetLine) [] :=
    .skipAll fun entry _ => prints_callTargetLine entry
  exact ((prints_totalLine "DIRECT_CALL_TARGETS" _ (by decide) (by decide)
    (by decide)).append targets).append prints_blankLine

/-- The names that are counted are names of instructions. -/
theorem isWord_of_mem_histogram (graph : R5900ReachabilityGraph) :
    ∀ entry ∈ (reportCounters graph).instructionHistogram, IsWord entry.1 := by
  rintro ⟨name, number⟩ member
  rw [reportCounters_instructionHistogram, SortedHistogram.mem_histogram_iff] at member
  obtain ⟨instruction, -, rfl⟩ := List.mem_map.mp member.1
  exact isWord_r5900InstructionName instruction

end Burnout3Recompiled
