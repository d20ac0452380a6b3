import Burnout3Recompiled.R5900MaximalBlock
import Burnout3Recompiled.R5900SiteCounts

/-!
# The totals of a report

The report accumulates its numbers independently of each other: two splits of the
instructions, one histogram by name and one by opcode, a list of sites and a histogram
of call targets.  They agree for every graph, since distinct instructions have distinct
names and every site is counted under one of them.
-/

namespace Burnout3Recompiled

open SortedHistogram (total total_histogram mem_histogram_iff length_histogram)

/-- A direct call whose target is not known. -/
def R5900ReachabilityCall.isUnresolvedDirect (call : R5900ReachabilityCall) : Bool :=
  !call.indirect && call.target.isNone

/-- The number of sites with the instruction. -/
def R5900ReachabilityGraph.occurrences (graph : R5900ReachabilityGraph)
    (instruction : R5900Instruction) : Nat :=
  graph.sites.countP fun site => site.decoded.instruction = instruction

/-- The numbers of a report account for each other. -/
structure TotalsConserved (graph : R5900ReachabilityGraph) : Prop where
  split : (reportCounters graph).instructions =
    (reportCounters graph).decoded + (reportCounters graph).unknown
  histogram : (reportCounters graph).instructions =
    total (reportCounters graph).instructionHistogram
  rows : ∀ name number, (name, number) ∈ (reportCounters graph).instructionHistogram ↔
    0 < number ∧ ∃ instruction, name = r5900InstructionName instruction ∧
      number = graph.occurrences instruction
  rowCount : (reportCounters graph).instructionHistogram.length =
    (graph.sites.map (·.decoded.instruction)).toFinset.card
  unknownRow : ∀ number,
    (r5900InstructionName .unknown, number) ∈ (reportCounters graph).instructionHistogram ↔
      0 < number ∧ number = (reportCounters graph).unknown
  unknownOpcodes : (reportCounters graph).unknown =
    total (reportCounters graph).unknownPrimaryHistogram
  unknownSites : (reportCounters graph).unknown = (reportCounters graph).unknownSites.length
  unknownLines : (reportCounters graph).unknown = (printedUnknownSites graph).length
  calls : graph.calls.length = total (directCallTargets graph.calls) +
    graph.calls.countP (·.isUnresolvedDirect) + graph.calls.countP (·.indirect)

/-- The numbers of calls and of unresolved exits, by how the blocks end. -/
structure ExitsConserved (graph : R5900ReachabilityGraph) : Prop where
  calls : graph.calls.length = graph.blocks.countP fun block =>
    block.endKind = .directCall ∨ block.endKind = .indirectCall
  indirectExits : indirectExitCount graph.issues = graph.blocks.countP fun block =>
    block.endKind = .indirectJump ∨ block.endKind = .indirectCall

/-- The source enumeration in its order. -/
def r5900Instructions : List R5900Instruction :=
  (List.range 91).map .ofNat

theorem mem_r5900Instructions (instruction : R5900Instruction) :
    instruction ∈ r5900Instructions := by
  cases instruction <;> decide

/-- No two instructions share a name. -/
theorem r5900InstructionName_injective : Function.Injective r5900InstructionName := by
  have distinct : (r5900Instructions.map r5900InstructionName).Nodup := by
    decide +kernel
  intro first second same
  exact List.inj_on_of_nodup_map distinct (mem_r5900Instructions first)
    (mem_r5900Instructions second) same

section Counters

variable {graph : R5900ReachabilityGraph}

/-- The names of the sites and the opcodes of the unknown ones are counted in the order
in which the sites are read. -/
theorem foldl_countSite_histograms (sites : List R5900InstructionSite)
    (counters : SiteCounters) :
    (sites.foldl countSite counters).decoded =
        counters.decoded + sites.countP (!isUnknown ·) ∧
      (sites.foldl countSite counters).instructionHistogram =
        (sites.map fun site => r5900InstructionName site.decoded.instruction).foldl
          (fun counters key => SortedHistogram.increment key counters)
          counters.instructionHistogram ∧
      (sites.foldl countSite counters).unknownPrimaryHistogram =
        ((sites.filter isUnknown).map fun site => primaryOpcodeOf site.decoded.raw).foldl
          (fun counters key => SortedHistogram.increment key counters)
          counters.unknownPrimaryHistogram := by
  induction sites generalizing counters with
  | nil => exact ⟨rfl, rfl, rfl⟩
  | cons site sites ih =>
      obtain ⟨decoded, names, opcodes⟩ := ih (countSite counters site)
      rw [List.foldl_cons, decoded, names, opcodes]
      cases known : isUnknown site with
      | true => simp [countSite, known]
      | false => simp [countSite, known, Nat.add_assoc, Nat.add_comm 1]

theorem reportCounters_decoded :
    (reportCounters graph).decoded = graph.sites.countP (!isUnknown ·) := by
  rw [reportCounters, countBlocks, (foldl_countSite_histograms _ _).1, Nat.zero_add]
  exact perm_countedSites.countP_eq _

/-- The histogram of a report counts the names of its sites. -/
theorem reportCounters_instructionHistogram :
    (reportCounters graph).instructionHistogram = SortedHistogram.histogram
      ((graph.sites.map (·.decoded.instruction)).map r5900InstructionName) := by
  rw [reportCounters, countBlocks, (foldl_countSite_histograms _ _).2.1, List.map_map]
  exact SortedHistogram.histogram_perm (perm_countedSites.map _)

theorem reportCounters_unknownPrimaryHistogram :
    (reportCounters graph).unknownPrimaryHistogram = SortedHistogram.histogram
      ((graph.sites.filter isUnknown).map fun site => primaryOpcodeOf site.decoded.raw) := by
  rw [reportCounters, countBlocks, (foldl_countSite_histograms _ _).2.2]
  exact SortedHistogram.histogram_perm ((perm_countedSites.filter _).map _)

theorem reportCounters_unknownSites :
    (reportCounters graph).unknownSites.length = (graph.sites.filter isUnknown).length := by
  rw [reportCounters, countBlocks, (foldl_countSite _ _).2.2, List.nil_append,
    List.length_map]
  exact (perm_countedSites.filter _).length_eq

theorem reportCounters_unknown_eq_occurrences :
    (reportCounters graph).unknown = graph.occurrences .unknown := by
  rw [reportCounters_unknown, ← List.countP_eq_length_filter]
  rfl

/-- A name occurs as often as its instruction. -/
theorem count_names (graph : R5900ReachabilityGraph) (instruction : R5900Instruction) :
    ((graph.sites.map (·.decoded.instruction)).map r5900InstructionName).count
        (r5900InstructionName instruction) = graph.occurrences instruction := by
  rw [List.count_map_of_injective _ _ r5900InstructionName_injective, List.count,
    List.countP_map]
  exact List.countP_congr fun site _ => by simp

theorem mem_instructionHistogram {name : String} {number : Nat} :
    (name, number) ∈ (reportCounters graph).instructionHistogram ↔
      0 < number ∧ ∃ instruction, name = r5900InstructionName instruction ∧
        number = graph.occurrences instruction := by
  rw [reportCounters_instructionHistogram, mem_histogram_iff]
  constructor
  · rintro ⟨occurs, rfl⟩
    obtain ⟨instruction, -, rfl⟩ := List.mem_map.mp occurs
    exact ⟨List.count_pos_iff.mpr occurs, instruction, rfl, count_names graph instruction⟩
  · rintro ⟨positive, instruction, rfl, rfl⟩
    rw [← count_names] at positive ⊢
    exact ⟨List.count_pos_iff.mp positive, rfl⟩

/-- A call is counted under its target, or it has none, or it is indirect. -/
theorem length_calls (calls : List R5900ReachabilityCall) :
    calls.length = total (directCallTargets calls) +
      calls.countP (·.isUnresolvedDirect) + calls.countP (·.indirect) := by
  rw [directCallTargets, total_histogram]
  induction calls with
  | nil => rfl
  | cons call calls ih =>
      obtain ⟨source, pc, indirect, target⟩ := call
      cases indirect <;> cases target <;>
        simp [ih, R5900ReachabilityCall.isUnresolvedDirect] <;> omega

theorem totalsConserved (graph : R5900ReachabilityGraph) : TotalsConserved graph where
  split := by
    rw [reportCounters_instructions, reportCounters_decoded, reportCounters_unknown,
      ← List.countP_eq_length_filter, Nat.add_comm, List.length_eq_countP_add_countP isUnknown]
    congr 1
    exact List.countP_congr fun site _ => by simp
  histogram := by
    rw [reportCounters_instructionHistogram, total_histogram, List.length_map,
      List.length_map, reportCounters_instructions]
  rows _ _ := mem_instructionHistogram
  rowCount := by
    have image : ((graph.sites.map (·.decoded.instruction)).map
        r5900InstructionName).toFinset =
        (graph.sites.map (·.decoded.instruction)).toFinset.image r5900InstructionName := by
      ext name
      simp
    rw [reportCounters_instructionHistogram, length_histogram, image]
    exact Finset.card_image_of_injective _ r5900InstructionName_injective
  unknownRow number := by
    rw [mem_instructionHistogram, reportCounters_unknown_eq_occurrences]
    refine and_congr_right fun _ => ⟨?_, fun same => ⟨_, rfl, same⟩⟩
    rintro ⟨instruction, same, rfl⟩
    rw [r5900InstructionName_injective same]
  unknownOpcodes := by
    rw [reportCounters_unknownPrimaryHistogram, total_histogram, List.length_map,
      reportCounters_unknown]
  unknownSites := by
    rw [reportCounters_unknownSites, reportCounters_unknown]
  unknownLines := by
    rw [printedUnknownSites_perm.length_eq, List.length_map, reportCounters_unknown]
  calls := length_calls graph.calls

end Counters

/-- The only instruction that ends a block in a jump or call of the kind. -/
def jumpOfKind : R5900BlockEndKind → Option R5900Instruction
  | .directJump => some .j
  | .directCall => some .jal
  | .indirectJump => some .jr
  | .indirectCall => some .jalr
  | .instructionLimit | .conditionalBranch | .trap | .unsupportedInstruction => none

section Ends

variable {memory : Ps2MemoryMap} {options : R5900ReachabilityOptions} {pc : BitVec 32}
  {blockOptions : R5900ControlFlowOptions} {block : R5900BasicBlock}
  {graph : R5900ReachabilityGraph}

theorem endKindOf_eq_iff {word : BitVec 32} {kind : R5900BlockEndKind}
    {instruction : R5900Instruction} (jump : jumpOfKind kind = some instruction) :
    endKindOf (decodeR5900 word) = kind ↔ (decodeR5900 word).instruction = instruction := by
  simp only [endKindOf, R5900DecodedInstruction.isBranch, decodeR5900_class]
  generalize (decodeR5900 word).instruction = actual
  cases kind <;> cases jump <;> cases actual <;> decide

/-- The kind of a jump is the kind of the block it ends. -/
theorem endKind_eq_iff (analyzed : analyzeR5900BasicBlock memory pc blockOptions = .ok block)
    {kind : R5900BlockEndKind} {instruction : R5900Instruction}
    (jump : jumpOfKind kind = some instruction) :
    block.endKind = kind ↔ block.endsIn instruction = true := by
  obtain ⟨terminator, shape, -⟩ := analyzeR5900BasicBlock_eq_ok analyzed
  have last := shape.sites.getLast?
  obtain ⟨word, -, decodes⟩ :=
    fetchSite_eq_some (shape.sites.fetched_of_mem shape.sites.terminator_mem)
  have decoded : terminator.decoded = decodeR5900 word := by rw [decodes]
  rw [(analyzeR5900BasicBlock_endsWith analyzed last).endKind, decoded,
    endKindOf_eq_iff jump, ← decoded, R5900BasicBlock.endsIn, last, decide_eq_true_iff]

/-- Every call and every unresolved exit comes from the end of one block. -/
theorem exitsConserved {entryPc : BitVec 32}
    (succeeded : analyzeR5900Reachability memory entryPc options = .ok graph) :
    ExitsConserved graph := by
  obtain ⟨count, search⟩ := analyzeR5900Reachability_fromSearch succeeded
  have ends {kind : R5900BlockEndKind} {instruction : R5900Instruction}
      (jump : jumpOfKind kind = some instruction) {block : R5900BasicBlock}
      (member : block ∈ graph.blocks) :
      block.endKind = kind ↔ block.endsIn instruction = true := by
    obtain ⟨item, -, -, analyzed⟩ := search.start_of_block member
    exact endKind_eq_iff analyzed jump
  constructor
  · rw [search.calls_eq, List.length_map, ← List.countP_eq_length_filter]
    refine List.countP_congr fun block member => ?_
    have direct : block.endKind = .directCall ↔ _ := ends rfl member
    have indirect : block.endKind = .indirectCall ↔ _ := ends rfl member
    rw [Bool.or_eq_true, decide_eq_true_iff, direct, indirect]
  · rw [indirectExitCount, List.countP_eq_length_filter, search.indirectExits_eq,
      List.length_map, ← List.countP_eq_length_filter]
    refine List.countP_congr fun block member => ?_
    have jump : block.endKind = .indirectJump ↔ _ := ends rfl member
    have call : block.endKind = .indirectCall ↔ _ := ends rfl member
    rw [Bool.or_eq_true, decide_eq_true_iff, jump, call]

end Ends

end Burnout3Recompiled
