import Burnout3Recompiled.R5900SiteCounts

/-!
# Every overlap has its leader issue

The pass over all pairs of blocks emits one issue for each leader that stands
inside another block.  Two blocks that share a PC are fetched from the same
memory, so the start of one of them lies in the other, and the pass sees it.
-/

namespace Burnout3Recompiled

/-- A leader issue: its kind, the leader and the block around it. -/
abbrev LeaderKey : Type :=
  R5900ReachabilityIssueKind × BitVec 32 × BitVec 32

def leaderIssue (key : LeaderKey) : R5900ReachabilityIssue where
  kind := key.1
  sourceBlock := key.2.1
  target := some key.2.1
  relatedBlock := some key.2.2

/-- The issues of a graph about one leader and one block around it. -/
def issuesAbout (key : LeaderKey) (graph : R5900ReachabilityGraph) :
    List R5900ReachabilityIssue :=
  graph.issues.filter fun issue =>
    (issue.kind, issue.sourceBlock, issue.relatedBlock) = (key.1, key.2.1, some key.2.2)

/-- The leader issues of a graph are those of the overlaps it has. -/
structure ReportsOverlaps (graph : R5900ReachabilityGraph) : Prop where
  insideBlock : ∀ leader ∈ graph.blocks, ∀ containing ∈ graph.blocks,
    leader.startPc ≠ containing.startPc →
      issuesAbout (.leaderInsideBlock, leader.startPc, containing.startPc) graph =
        if leader.startPc ∈ containing.instructions.tail.map (·.pc) then
          [leaderIssue (.leaderInsideBlock, leader.startPc, containing.startPc)]
        else []
  insideDelaySlot : ∀ leader ∈ graph.blocks, ∀ containing ∈ graph.blocks,
    leader.startPc ≠ containing.startPc →
      issuesAbout (.leaderInsideDelaySlot, leader.startPc, containing.startPc) graph =
        if containing.delaySlot.map (·.pc) = some leader.startPc then
          [leaderIssue (.leaderInsideDelaySlot, leader.startPc, containing.startPc)]
        else []
  onlyPairs : ∀ issue ∈ graph.issues,
    issue.kind = .leaderInsideBlock ∨ issue.kind = .leaderInsideDelaySlot →
      ∃ leader ∈ graph.blocks, ∃ containing ∈ graph.blocks,
        leader.startPc ≠ containing.startPc ∧
          issue = leaderIssue (issue.kind, leader.startPc, containing.startPc)
  shared : ∀ first ∈ graph.blocks, ∀ second ∈ graph.blocks,
    first.startPc ≠ second.startPc →
      ∀ site ∈ countedSites first, ∀ other ∈ countedSites second, site.pc = other.pc →
        ∃ issue ∈ graph.issues,
          (issue.kind = .leaderInsideBlock ∨ issue.kind = .leaderInsideDelaySlot) ∧
          ((issue.sourceBlock, issue.relatedBlock) =
              (first.startPc, some second.startPc) ∨
            (issue.sourceBlock, issue.relatedBlock) =
              (second.startPc, some first.startPc))

namespace LeaderIssues

/-- The issues so far are those that were there and one for each emitted key. -/
structure Records (before : List R5900ReachabilityIssue) (state : LeaderIssues) : Prop where
  issues : state.issues = before ++ state.emitted.map leaderIssue
  nodup : state.emitted.Nodup

variable {before : List R5900ReachabilityIssue} {state : LeaderIssues}
  {kind : R5900ReachabilityIssueKind} {leader containing : BitVec 32} {key : LeaderKey}

theorem Records.emit (records : Records before state) :
    Records before (state.emit kind leader containing) := by
  unfold LeaderIssues.emit
  split
  · exact records
  · next fresh =>
      refine ⟨?_, ?_⟩
      · simp only [records.issues, List.map_append, List.append_assoc]
        rfl
      · have grown := (List.nodup_concat state.emitted _).mpr ⟨fresh, records.nodup⟩
        rwa [List.concat_eq_append] at grown

theorem mem_emit : key ∈ (state.emit kind leader containing).emitted ↔
    key ∈ state.emitted ∨ key = (kind, leader, containing) := by
  unfold LeaderIssues.emit
  split
  · next known =>
      constructor
      · exact .inl
      · rintro (member | rfl)
        · exact member
        · exact known
  · rw [List.mem_append, List.mem_singleton]

end LeaderIssues

/-- What the pass finds for one leader in one block. -/
def FindsLeader (leaderBlock containing : R5900BasicBlock) (key : LeaderKey) : Prop :=
  leaderBlock.startPc ≠ containing.startPc ∧
    (leaderInsideInstructions leaderBlock.startPc containing = true ∧
        key = (.leaderInsideBlock, leaderBlock.startPc, containing.startPc) ∨
      containing.delaySlot.map (·.pc) = some leaderBlock.startPc ∧
        key = (.leaderInsideDelaySlot, leaderBlock.startPc, containing.startPc))

section Pass

variable {before : List R5900ReachabilityIssue} {state : LeaderIssues}
  {leaderBlock containing : R5900BasicBlock} {key : LeaderKey}

theorem LeaderIssues.Records.inspectLeader (records : Records before state) :
    Records before (inspectLeader leaderBlock state containing) := by
  simp only [Burnout3Recompiled.inspectLeader]
  split
  · exact records
  · split
    · split
      · exact records.emit.emit
      · exact records.emit
    · split
      · exact records.emit
      · exact records

theorem mem_inspectLeader :
    key ∈ (inspectLeader leaderBlock state containing).emitted ↔
      key ∈ state.emitted ∨ FindsLeader leaderBlock containing key := by
  simp only [inspectLeader, FindsLeader]
  split
  · next same => simp [same]
  · next different =>
      simp only [ne_eq, different, not_false_eq_true, true_and]
      split
      · next inside =>
          split
          · next slot => simp [LeaderIssues.mem_emit, inside, slot, or_assoc]
          · next slot => simp [LeaderIssues.mem_emit, inside, slot]
      · next outside =>
          split
          · next slot => simp [LeaderIssues.mem_emit, outside, slot]
          · next slot => simp [outside, slot]

/-- A step of the pass keeps the record and adds exactly the keys of `adds`. -/
structure EmitsKeys (before : List R5900ReachabilityIssue)
    (step : LeaderIssues → LeaderIssues) (adds : LeaderKey → Prop) : Prop where
  records : ∀ state, state.Records before → (step state).Records before
  mem_emitted : ∀ state key,
    key ∈ (step state).emitted ↔ key ∈ state.emitted ∨ adds key

theorem inspectLeader_emitsKeys (before : List R5900ReachabilityIssue)
    (leaderBlock containing : R5900BasicBlock) :
    EmitsKeys before (fun state => inspectLeader leaderBlock state containing)
      (FindsLeader leaderBlock containing) where
  records _ records := records.inspectLeader
  mem_emitted _ _ := mem_inspectLeader

theorem EmitsKeys.foldl {step : LeaderIssues → R5900BasicBlock → LeaderIssues}
    {adds : R5900BasicBlock → LeaderKey → Prop}
    (each : ∀ block, EmitsKeys before (fun state => step state block) (adds block))
    (blocks : List R5900BasicBlock) :
    EmitsKeys before (fun state => blocks.foldl step state)
      fun key => ∃ block ∈ blocks, adds block key := by
  induction blocks with
  | nil => exact ⟨fun _ records => records, by simp⟩
  | cons block blocks ih =>
      refine ⟨fun state records => ?_, fun state key => ?_⟩
      · exact ih.records _ ((each block).records state records)
      · rw [List.foldl_cons, ih.mem_emitted, (each block).mem_emitted,
          List.exists_mem_cons_iff, or_assoc]

end Pass

/-- The pass appends one issue for every leader that it finds in a block. -/
theorem detectOverlappingLeaders_issues (graph : R5900ReachabilityGraph) :
    ∃ emitted : List LeaderKey,
      (detectOverlappingLeaders graph).issues = graph.issues ++ emitted.map leaderIssue ∧
      emitted.Nodup ∧
      ∀ key, key ∈ emitted ↔ ∃ leader ∈ graph.blocks, ∃ containing ∈ graph.blocks,
        FindsLeader leader containing key := by
  have pass := EmitsKeys.foldl (fun leaderBlock =>
    EmitsKeys.foldl (inspectLeader_emitsKeys graph.issues leaderBlock)
      graph.blocks) graph.blocks
  obtain ⟨issues, nodup⟩ := pass.records { issues := graph.issues }
    ⟨(List.append_nil _).symm, List.nodup_nil⟩
  refine ⟨_, issues, nodup, ?_⟩
  intro key
  rw [pass.mem_emitted]
  simp

/-- The issues about a key are its own, once when it has been emitted. -/
theorem issuesAbout_leaderIssue {before : List R5900ReachabilityIssue}
    {emitted : List LeaderKey} {graph : R5900ReachabilityGraph} {key : LeaderKey}
    (issues : graph.issues = before ++ emitted.map leaderIssue)
    (others : ∀ issue ∈ before, issue.kind ≠ key.1) (nodup : emitted.Nodup) :
    issuesAbout key graph = if key ∈ emitted then [leaderIssue key] else [] := by
  have none : before.filter (fun issue =>
      (issue.kind, issue.sourceBlock, issue.relatedBlock) =
        (key.1, key.2.1, some key.2.2)) = [] := by
    rw [List.filter_eq_nil_iff]
    intro issue member same
    exact others issue member (congrArg Prod.fst (of_decide_eq_true same))
  have own : (fun issue : R5900ReachabilityIssue => decide
      ((issue.kind, issue.sourceBlock, issue.relatedBlock) =
        (key.1, key.2.1, some key.2.2))) ∘ leaderIssue = (decide <| · = key) := by
    ext other
    obtain ⟨kind, leader, containing⟩ := other
    obtain ⟨keyKind, keyLeader, keyContaining⟩ := key
    rw [Function.comp_apply, decide_eq_decide]
    simp [leaderIssue]
  rw [issuesAbout, issues, List.filter_append, none, List.nil_append, List.filter_map, own,
    List.filter_eq]
  split
  · next member => rw [List.count_eq_one_of_mem nodup member]; rfl
  · next absent => rw [List.count_eq_zero_of_not_mem absent]; rfl

section Analysed

variable {memory : Ps2MemoryMap} {options : R5900ReachabilityOptions}
  {entryPc : BitVec 32} {graph : R5900ReachabilityGraph}
  {leader containing : R5900BasicBlock}

/-- A leader that is not the start is found behind the first instruction. -/
theorem leaderInsideInstructions_iff {blockOptions : R5900ControlFlowOptions}
    {pc leader : BitVec 32}
    (analyzed : analyzeR5900BasicBlock memory pc blockOptions = .ok containing)
    (different : leader ≠ containing.startPc) :
    leaderInsideInstructions leader containing = true ↔
      leader ∈ containing.instructions.tail.map (·.pc) := by
  obtain ⟨terminator, shape, -⟩ := analyzeR5900BasicBlock_eq_ok analyzed
  obtain ⟨site, rest, instructions, sitePc⟩ := shape.sites.head
  have apart : site.pc ≠ leader := by
    rw [sitePc, ← shape.start]
    exact different.symm
  rw [leaderInsideInstructions, instructions, List.tail_cons, List.findIdx?_cons]
  simp only [apart, decide_false, Bool.false_eq_true, if_false]
  cases found : rest.findIdx? fun site => decide (site.pc = leader) with
  | none =>
      rw [List.findIdx?_eq_none_iff] at found
      simpa using found
  | some position =>
      obtain ⟨inside, same, -⟩ := List.findIdx?_eq_some_iff_getElem.mp found
      have member : leader ∈ rest.map (·.pc) :=
        List.mem_map.mpr ⟨rest[position], List.getElem_mem inside, of_decide_eq_true same⟩
      simp [member]

/-- A graph before the pass has no leader issues. -/
theorem analyzeR5900Reachability_detected
    (succeeded : analyzeR5900Reachability memory entryPc options = .ok graph) :
    ∃ count explored, graph = detectOverlappingLeaders explored ∧
      FromSearch memory options entryPc count graph ∧
      ∀ issue ∈ explored.issues,
        issue.kind ≠ .leaderInsideBlock ∧ issue.kind ≠ .leaderInsideDelaySlot := by
  unfold analyzeR5900Reachability at succeeded
  split at succeeded
  · cases succeeded
  · obtain ⟨explored, run, rfl⟩ := OrderedChecks.map_eq_ok_iff.mp succeeded
    obtain ⟨count, state, tracks, ends⟩ := exploreWorklist_tracks tracksSearch_start run
    refine ⟨count, explored, rfl, fromSearch_of_endsAt tracks ends, ?_⟩
    intro issue member
    have searched : ∀ issue ∈ state.graph.issues,
        issue.kind ≠ .leaderInsideBlock ∧ issue.kind ≠ .leaderInsideDelaySlot := by
      intro issue member
      rw [tracks.issues] at member
      obtain ⟨item, -, left⟩ := List.mem_flatMap.mp member
      rcases kind_of_mem_visitIssues memory options left with kind | kind <;> simp [kind]
    rcases ends with ⟨-, rfl⟩ | ⟨pending, rest, -, -, rfl⟩
    · exact searched issue member
    · rcases List.mem_append.mp member with old | new
      · exact searched issue old
      · rw [List.mem_singleton.mp new]
        simp

/-- Blocks are found by their starts. -/
theorem FromSearch.eq_of_startPc {count : Nat} {first second : R5900BasicBlock}
    (search : FromSearch memory options entryPc count graph)
    (firstMember : first ∈ graph.blocks) (secondMember : second ∈ graph.blocks)
    (same : first.startPc = second.startPc) : first = second :=
  List.inj_on_of_nodup_map search.starts_nodup firstMember secondMember same

variable {explored : R5900ReachabilityGraph} {emitted : List LeaderKey} {count : Nat}
  (search : FromSearch memory options entryPc count (detectOverlappingLeaders explored))
  (mem_emitted : ∀ key, key ∈ emitted ↔ ∃ leader ∈ explored.blocks,
    ∃ containing ∈ explored.blocks, FindsLeader leader containing key)
  (leaderMember : leader ∈ explored.blocks)
  (containingMember : containing ∈ explored.blocks)

include search mem_emitted leaderMember containingMember

/-- The starts of the blocks tell which pair a key is about. -/
theorem mem_emitted_iff {kind : R5900ReachabilityIssueKind} :
    (kind, leader.startPc, containing.startPc) ∈ emitted ↔
      FindsLeader leader containing (kind, leader.startPc, containing.startPc) := by
  rw [mem_emitted]
  constructor
  · rintro ⟨otherLeader, otherLeaderMember, other, otherMember, finds⟩
    have key : (leader.startPc, containing.startPc) =
        (otherLeader.startPc, other.startPc) := by
      rcases finds.2 with ⟨-, key⟩ | ⟨-, key⟩
      · exact congrArg Prod.snd key
      · exact congrArg Prod.snd key
    obtain ⟨leaderPc, otherPc⟩ := Prod.mk.inj key
    obtain rfl := search.eq_of_startPc leaderMember otherLeaderMember leaderPc
    obtain rfl := search.eq_of_startPc containingMember otherMember otherPc
    exact finds
  · exact fun finds => ⟨leader, leaderMember, containing, containingMember, finds⟩

theorem mem_emitted_insideBlock (different : leader.startPc ≠ containing.startPc) :
    (.leaderInsideBlock, leader.startPc, containing.startPc) ∈ emitted ↔
      leader.startPc ∈ containing.instructions.tail.map (·.pc) := by
  obtain ⟨item, -, -, analyzed⟩ := search.start_of_block containingMember
  rw [mem_emitted_iff search mem_emitted leaderMember containingMember,
    ← leaderInsideInstructions_iff analyzed different]
  simp [FindsLeader, different]

theorem mem_emitted_insideDelaySlot (different : leader.startPc ≠ containing.startPc) :
    (.leaderInsideDelaySlot, leader.startPc, containing.startPc) ∈ emitted ↔
      containing.delaySlot.map (·.pc) = some leader.startPc := by
  rw [mem_emitted_iff search mem_emitted leaderMember containingMember]
  simp [FindsLeader, different]

/-- A start anywhere in another block has been emitted. -/
theorem mem_emitted_of_start_mem (different : leader.startPc ≠ containing.startPc)
    (inside : leader.startPc ∈ (countedSites containing).map (·.pc)) :
    ∃ kind, (kind = .leaderInsideBlock ∨ kind = .leaderInsideDelaySlot) ∧
      (kind, leader.startPc, containing.startPc) ∈ emitted := by
  obtain ⟨item, -, -, analyzed⟩ := search.start_of_block containingMember
  obtain ⟨terminator, shape, -⟩ := analyzeR5900BasicBlock_eq_ok analyzed
  obtain ⟨site, rest, instructions, sitePc⟩ := shape.sites.head
  have apart : leader.startPc ≠ site.pc := by
    rwa [sitePc, ← shape.start]
  rw [countedSites, instructions, List.map_append, List.mem_append, List.map_cons,
    List.mem_cons] at inside
  rcases inside with (first | later) | slot
  · exact absurd first apart
  · refine ⟨_, .inl rfl, ?_⟩
    rw [mem_emitted_insideBlock search mem_emitted leaderMember containingMember different,
      instructions]
    exact later
  · refine ⟨_, .inr rfl, ?_⟩
    rw [mem_emitted_insideDelaySlot search mem_emitted leaderMember containingMember
      different]
    simpa using slot

end Analysed

/-- Every graph of the analysis reports the overlaps of its blocks, each of them
once. -/
theorem analyzeR5900Reachability_reportsOverlaps (memory : Ps2MemoryMap)
    (entryPc : BitVec 32) (options : R5900ReachabilityOptions)
    (graph : R5900ReachabilityGraph)
    (succeeded : analyzeR5900Reachability memory entryPc options = .ok graph) :
    ReportsOverlaps graph := by
  obtain ⟨count, explored, rfl, search, others⟩ :=
    analyzeR5900Reachability_detected succeeded
  obtain ⟨emitted, issues, nodup, mem_emitted⟩ := detectOverlappingLeaders_issues explored
  have reported : ∀ key ∈ emitted, leaderIssue key ∈
      (detectOverlappingLeaders explored).issues := by
    intro key member
    rw [issues]
    exact List.mem_append_right _ (List.mem_map_of_mem member)
  refine ⟨?_, ?_, ?_, ?_⟩
  · intro leader leaderMember containing containingMember different
    rw [issuesAbout_leaderIssue issues (fun issue member => (others issue member).1) nodup]
    simp only [mem_emitted_insideBlock search mem_emitted leaderMember containingMember
      different]
  · intro leader leaderMember containing containingMember different
    rw [issuesAbout_leaderIssue issues (fun issue member => (others issue member).2) nodup]
    simp only [mem_emitted_insideDelaySlot search mem_emitted leaderMember containingMember
      different]
  · intro issue member leaderKind
    rw [issues] at member
    rcases List.mem_append.mp member with old | new
    · rcases leaderKind with kind | kind
      · exact absurd kind (others issue old).1
      · exact absurd kind (others issue old).2
    · obtain ⟨key, isEmitted, rfl⟩ := List.mem_map.mp new
      obtain ⟨leader, leaderMember, containing, containingMember, different, found⟩ :=
        (mem_emitted key).mp isEmitted
      refine ⟨leader, leaderMember, containing, containingMember, different, ?_⟩
      rcases found with ⟨-, rfl⟩ | ⟨-, rfl⟩ <;> rfl
  · intro first firstMember second secondMember different site inFirst other inSecond meet
    have shared : ¬List.Disjoint ((countedSites first).map (·.pc))
        ((countedSites second).map (·.pc)) := by
      intro disjoint
      refine disjoint (List.mem_map_of_mem inFirst) ?_
      rw [meet]
      exact List.mem_map_of_mem inSecond
    rw [search.disjoint_iff firstMember secondMember, not_and_or, not_not, not_not] at shared
    rcases shared with inside | inside
    · obtain ⟨kind, leaderKind, isEmitted⟩ := mem_emitted_of_start_mem search mem_emitted
        firstMember secondMember different inside
      exact ⟨_, reported _ isEmitted, leaderKind, .inl rfl⟩
    · obtain ⟨kind, leaderKind, isEmitted⟩ := mem_emitted_of_start_mem search mem_emitted
        secondMember firstMember different.symm inside
      exact ⟨_, reported _ isEmitted, leaderKind, .inr rfl⟩

/-- The second block of this memory starts in the delay slot of the first. -/
theorem analyzeR5900Reachability_reportsOverlaps_branchToSlotMemory :
    ∃ graph, analyzeR5900Reachability branchToSlotMemory 0x1000 {} = .ok graph ∧
      issuesAbout (.leaderInsideDelaySlot, 0x1004, 0x1000) graph =
        [leaderIssue (.leaderInsideDelaySlot, 0x1004, 0x1000)] ∧
      ReportsOverlaps graph := by
  have outcome : (analyzeR5900Reachability branchToSlotMemory 0x1000 {}).toOption.map
      (issuesAbout (.leaderInsideDelaySlot, 0x1004, 0x1000)) =
        some [leaderIssue (.leaderInsideDelaySlot, 0x1004, 0x1000)] := by
    decide +kernel
  obtain ⟨graph, found, issues⟩ := Option.map_eq_some_iff.mp outcome
  have succeeded := OrderedChecks.toOption_eq_some_iff.mp found
  exact ⟨graph, succeeded, issues,
    analyzeR5900Reachability_reportsOverlaps branchToSlotMemory 0x1000 {} graph succeeded⟩

end Burnout3Recompiled
