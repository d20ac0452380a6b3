import Burnout3Recompiled.R5900BlockStructure

/-!
# The reachability graph

Blocks are discovered breadth first from an entry PC.  Every explicit target is
scheduled once; calls, unresolved exits and targets that cannot be analysed are
recorded as evidence, and so are leaders that land inside another block.
-/

namespace Burnout3Recompiled

/-- The failing values of the source enumeration; its `None` is `Except.ok`. -/
inductive R5900ReachabilityError where
  | invalidBlockLimit | entryAnalysisFailed
  deriving DecidableEq, Repr

inductive R5900ReachabilityIssueKind where
  | unresolvedIndirectExit | targetAnalysisFailed | blockLimitReached
  | leaderInsideBlock | leaderInsideDelaySlot
  deriving DecidableEq, Repr

structure R5900ReachabilityCall where
  sourceBlock : BitVec 32 := 0
  callPc : BitVec 32 := 0
  indirect : Bool := false
  target : Option (BitVec 32) := none
  deriving DecidableEq, Repr

/-- The source's `R5900ControlFlowError::None` is the absent analysis error. -/
structure R5900ReachabilityIssue where
  kind : R5900ReachabilityIssueKind := .targetAnalysisFailed
  sourceBlock : BitVec 32 := 0
  target : Option (BitVec 32) := none
  relatedBlock : Option (BitVec 32) := none
  analysisError : Option R5900ControlFlowError := none
  deriving DecidableEq, Repr

structure R5900ReachabilityGraph where
  entryPc : BitVec 32 := 0
  blocks : List R5900BasicBlock := []
  calls : List R5900ReachabilityCall := []
  issues : List R5900ReachabilityIssue := []
  deriving DecidableEq, Repr

structure R5900ReachabilityOptions where
  maxBlocks : Nat := 4096
  followDirectCalls : Bool := false
  blockOptions : R5900ControlFlowOptions := {}
  deriving DecidableEq, Repr

structure R5900ReachabilityFailure where
  error : R5900ReachabilityError
  message : String
  deriving DecidableEq, Repr

structure PendingTarget where
  pc : BitVec 32 := 0
  sourceBlock : BitVec 32 := 0
  isEntry : Bool := false
  deriving DecidableEq, Repr

def addIssue (graph : R5900ReachabilityGraph) (issue : R5900ReachabilityIssue) :
    R5900ReachabilityGraph :=
  { graph with issues := graph.issues ++ [issue] }

def addCall (graph : R5900ReachabilityGraph) (call : R5900ReachabilityCall) :
    R5900ReachabilityGraph :=
  { graph with calls := graph.calls ++ [call] }

def terminatorPc (block : R5900BasicBlock) : BitVec 32 :=
  match block.instructions.getLast? with
  | none => block.startPc
  | some site => site.pc

/-- The issues so far and the keys that have been emitted. -/
structure LeaderIssues where
  issues : List R5900ReachabilityIssue
  emitted : List (R5900ReachabilityIssueKind × BitVec 32 × BitVec 32) := []

def LeaderIssues.emit (state : LeaderIssues) (kind : R5900ReachabilityIssueKind)
    (leader containing : BitVec 32) : LeaderIssues :=
  if (kind, leader, containing) ∈ state.emitted then state
  else
    { issues := state.issues ++
        [{ kind := kind
           sourceBlock := leader
           target := some leader
           relatedBlock := some containing }]
      emitted := state.emitted ++ [(kind, leader, containing)] }

/-- The leader is an instruction of the block after the first one. -/
def leaderInsideInstructions (leader : BitVec 32) (block : R5900BasicBlock) : Bool :=
  match block.instructions.findIdx? fun site => site.pc = leader with
  | none => false
  | some position => position ≠ 0

def inspectLeader (leaderBlock : R5900BasicBlock) (state : LeaderIssues)
    (containing : R5900BasicBlock) : LeaderIssues :=
  let leader := leaderBlock.startPc
  if leaderBlock.startPc = containing.startPc then state
  else
    let state :=
      if leaderInsideInstructions leader containing then
        state.emit .leaderInsideBlock leader containing.startPc
      else state
    if containing.delaySlot.map (·.pc) = some leader then
      state.emit .leaderInsideDelaySlot leader containing.startPc
    else state

def detectOverlappingLeaders (graph : R5900ReachabilityGraph) :
    R5900ReachabilityGraph :=
  let inspected := graph.blocks.foldl
    (fun state leaderBlock => graph.blocks.foldl (inspectLeader leaderBlock) state)
    { issues := graph.issues }
  { graph with issues := inspected.issues }

structure ReachabilityState where
  graph : R5900ReachabilityGraph
  worklist : List PendingTarget
  scheduled : List (BitVec 32)

/-- `scheduled.insert` and, when the target was new, `worklist.push_back`. -/
def scheduleTarget (sourceBlock : BitVec 32) (state : ReachabilityState) :
    Option (BitVec 32) → ReachabilityState
  | none => state
  | some target =>
      if target ∈ state.scheduled then state
      else
        { state with
          worklist := state.worklist ++ [⟨target, sourceBlock, false⟩]
          scheduled := state.scheduled ++ [target] }

def unresolvedIndirectExit (block : R5900BasicBlock) : R5900ReachabilityIssue where
  kind := .unresolvedIndirectExit
  sourceBlock := block.startPc

/-- One iteration of the edge loop. -/
def processEdge (options : R5900ReachabilityOptions) (block : R5900BasicBlock)
    (state : ReachabilityState) (edge : R5900ControlFlowEdge) : ReachabilityState :=
  match edge.kind with
  | .branchTaken | .branchNotTaken | .directJump | .callContinuation | .fallthrough =>
      scheduleTarget block.startPc state edge.target
  | .directCall =>
      let state := { state with
        graph := addCall state.graph
          ⟨block.startPc, terminatorPc block, false, edge.target⟩ }
      if options.followDirectCalls then scheduleTarget block.startPc state edge.target
      else state
  | .indirectCall =>
      let graph := addCall state.graph ⟨block.startPc, terminatorPc block, true, none⟩
      { state with graph := addIssue graph (unresolvedIndirectExit block) }
  | .indirectJump =>
      { state with graph := addIssue state.graph (unresolvedIndirectExit block) }

/-- A block that has been analysed joins the graph and its edges are walked. -/
def recordBlock (options : R5900ReachabilityOptions) (block : R5900BasicBlock)
    (state : ReachabilityState) : ReachabilityState :=
  block.edges.foldl (processEdge options block)
    { state with graph :=
        { state.graph with blocks := state.graph.blocks ++ [block] } }

section Progress

variable {options : R5900ReachabilityOptions} {block : R5900BasicBlock}
  {state : ReachabilityState}

theorem length_scheduleTarget_le (sourceBlock : BitVec 32)
    (target : Option (BitVec 32)) :
    (scheduleTarget sourceBlock state target).worklist.length ≤
      state.worklist.length + 1 := by
  cases target with
  | none => exact Nat.le_succ _
  | some target =>
      rw [scheduleTarget]
      split
      · exact Nat.le_succ _
      · exact Nat.le_of_eq List.length_append

@[simp]
theorem scheduleTarget_graph (sourceBlock : BitVec 32) (target : Option (BitVec 32)) :
    (scheduleTarget sourceBlock state target).graph = state.graph := by
  cases target with
  | none => rfl
  | some target =>
      rw [scheduleTarget]
      split <;> rfl

theorem length_processEdge_le (options : R5900ReachabilityOptions)
    (block : R5900BasicBlock) (state : ReachabilityState) (edge : R5900ControlFlowEdge) :
    (processEdge options block state edge).worklist.length ≤
      state.worklist.length + 1 := by
  unfold processEdge
  split <;> try exact length_scheduleTarget_le _ _
  · dsimp only
    split
    · exact length_scheduleTarget_le _ _
    · exact Nat.le_succ _
  all_goals exact Nat.le_succ _

/-- An edge adds calls and issues: the entry and the blocks stay. -/
theorem processEdge_keeps (edge : R5900ControlFlowEdge) :
    (processEdge options block state edge).graph.entryPc = state.graph.entryPc ∧
      (processEdge options block state edge).graph.blocks = state.graph.blocks := by
  have schedules (state : ReachabilityState) :
      (scheduleTarget block.startPc state edge.target).graph.entryPc =
          state.graph.entryPc ∧
        (scheduleTarget block.startPc state edge.target).graph.blocks =
          state.graph.blocks := by
    rw [scheduleTarget_graph]
    exact ⟨rfl, rfl⟩
  unfold processEdge
  split <;> try exact schedules state
  · dsimp only
    split
    · exact schedules _
    · exact ⟨rfl, rfl⟩
  all_goals exact ⟨rfl, rfl⟩

@[simp]
theorem processEdge_blocks (edge : R5900ControlFlowEdge) :
    (processEdge options block state edge).graph.blocks = state.graph.blocks :=
  (processEdge_keeps edge).2

theorem foldl_processEdge_progress (options : R5900ReachabilityOptions)
    (block : R5900BasicBlock) (state : ReachabilityState)
    (edges : List R5900ControlFlowEdge) :
    (edges.foldl (processEdge options block) state).graph.blocks =
        state.graph.blocks ∧
      (edges.foldl (processEdge options block) state).worklist.length ≤
        state.worklist.length + edges.length := by
  induction edges generalizing state with
  | nil => exact ⟨rfl, Nat.le_refl _⟩
  | cons edge edges ih =>
      obtain ⟨blocks, bound⟩ := ih (processEdge options block state edge)
      have one := length_processEdge_le options block state edge
      rw [List.foldl_cons, List.length_cons, blocks, processEdge_blocks]
      exact ⟨rfl, by omega⟩

@[simp]
theorem recordBlock_blocks :
    (recordBlock options block state).graph.blocks = state.graph.blocks ++ [block] :=
  (foldl_processEdge_progress options block _ block.edges).1

theorem length_recordBlock_le :
    (recordBlock options block state).worklist.length ≤
      state.worklist.length + block.edges.length :=
  (foldl_processEdge_progress options block _ block.edges).2

end Progress

theorem length_edges_le {memory : Ps2MemoryMap} {pc : BitVec 32}
    {options : R5900ControlFlowOptions} {block : R5900BasicBlock}
    (analyzed : analyzeR5900BasicBlock memory pc options = .ok block) :
    block.edges.length ≤ 2 := by
  obtain ⟨terminator, shape, -⟩ := analyzeR5900BasicBlock_eq_ok analyzed
  rw [shape.edges]
  exact length_exitEdges_le terminator

/-- How a turn of the loop ends: it returns from the analysis, or another one follows. -/
inductive WorklistTurn where
  | returns (result : Except R5900ReachabilityFailure R5900ReachabilityGraph)
  | goesOn (state : ReachabilityState)

/-- One test of the loop condition and, unless the worklist is empty, one iteration. -/
def worklistTurn (memory : Ps2MemoryMap) (options : R5900ReachabilityOptions)
    (state : ReachabilityState) : WorklistTurn :=
  match state.worklist with
  | [] => .returns (.ok state.graph)
  | pending :: rest =>
      if state.graph.blocks.length ≥ options.maxBlocks then
        .returns (.ok (addIssue state.graph
          { kind := .blockLimitReached
            sourceBlock := pending.sourceBlock
            target := some pending.pc }))
      else
        match analyzeR5900BasicBlock memory pending.pc options.blockOptions with
        | .error failure =>
            if pending.isEntry then
              .returns (.error ⟨.entryAnalysisFailed,
                "R5900 entry basic-block analysis failed: " ++ failure.message⟩)
            else
              .goesOn
                { state with
                  worklist := rest
                  graph := addIssue state.graph
                    { kind := .targetAnalysisFailed
                      sourceBlock := pending.sourceBlock
                      target := some pending.pc
                      analysisError := some failure.error } }
        | .ok block =>
            .goesOn (recordBlock options block { state with worklist := rest })

section Turns

variable {memory : Ps2MemoryMap} {options : R5900ReachabilityOptions}
  {state next : ReachabilityState} {pending : PendingTarget} {rest : List PendingTarget}

theorem worklistTurn_empty (empty : state.worklist = []) :
    worklistTurn memory options state = .returns (.ok state.graph) := by
  simp only [worklistTurn, empty]

theorem worklistTurn_full (pendingTargets : state.worklist = pending :: rest)
    (full : options.maxBlocks ≤ state.graph.blocks.length) :
    worklistTurn memory options state =
      .returns (.ok (addIssue state.graph
        { kind := .blockLimitReached
          sourceBlock := pending.sourceBlock
          target := some pending.pc })) := by
  simp only [worklistTurn, pendingTargets, if_pos full]

theorem worklistTurn_failed (pendingTargets : state.worklist = pending :: rest)
    (room : state.graph.blocks.length < options.maxBlocks)
    {failure : R5900ControlFlowFailure}
    (failed : analyzeR5900BasicBlock memory pending.pc options.blockOptions =
      .error failure) :
    worklistTurn memory options state =
      if pending.isEntry then
        .returns (.error ⟨.entryAnalysisFailed,
          "R5900 entry basic-block analysis failed: " ++ failure.message⟩)
      else
        .goesOn
          { state with
            worklist := rest
            graph := addIssue state.graph
              { kind := .targetAnalysisFailed
                sourceBlock := pending.sourceBlock
                target := some pending.pc
                analysisError := some failure.error } } := by
  simp only [worklistTurn, pendingTargets, if_neg (Nat.not_le_of_lt room), failed]

theorem worklistTurn_record (pendingTargets : state.worklist = pending :: rest)
    (room : state.graph.blocks.length < options.maxBlocks) {block : R5900BasicBlock}
    (analyzed : analyzeR5900BasicBlock memory pending.pc options.blockOptions =
      .ok block) :
    worklistTurn memory options state =
      .goesOn (recordBlock options block { state with worklist := rest }) := by
  simp only [worklistTurn, pendingTargets, if_neg (Nat.not_le_of_lt room), analyzed]

variable (memory options)

/-- What a turn with a result has found. -/
inductive TurnReturns (state : ReachabilityState) :
    Except R5900ReachabilityFailure R5900ReachabilityGraph → Prop
  | empty (noTargets : state.worklist = []) : TurnReturns state (.ok state.graph)
  | full {pending : PendingTarget} {rest : List PendingTarget}
      (pendingTargets : state.worklist = pending :: rest)
      (limit : options.maxBlocks ≤ state.graph.blocks.length) :
      TurnReturns state (.ok (addIssue state.graph
        { kind := .blockLimitReached
          sourceBlock := pending.sourceBlock
          target := some pending.pc }))
  | entryFails {pending : PendingTarget} {rest : List PendingTarget}
      {failure : R5900ControlFlowFailure} (pendingTargets : state.worklist = pending :: rest)
      (room : state.graph.blocks.length < options.maxBlocks)
      (failed : analyzeR5900BasicBlock memory pending.pc options.blockOptions =
        .error failure)
      (isEntry : pending.isEntry = true) :
      TurnReturns state (.error ⟨.entryAnalysisFailed,
        "R5900 entry basic-block analysis failed: " ++ failure.message⟩)

/-- What a turn before another one has done. -/
inductive TurnGoesOn (state : ReachabilityState) : ReachabilityState → Prop
  | targetFails {pending : PendingTarget} {rest : List PendingTarget}
      {failure : R5900ControlFlowFailure} (pendingTargets : state.worklist = pending :: rest)
      (room : state.graph.blocks.length < options.maxBlocks)
      (failed : analyzeR5900BasicBlock memory pending.pc options.blockOptions =
        .error failure)
      (notEntry : ¬pending.isEntry = true) :
      TurnGoesOn state
        { state with
          worklist := rest
          graph := addIssue state.graph
            { kind := .targetAnalysisFailed
              sourceBlock := pending.sourceBlock
              target := some pending.pc
              analysisError := some failure.error } }
  | records {pending : PendingTarget} {rest : List PendingTarget} {block : R5900BasicBlock}
      (pendingTargets : state.worklist = pending :: rest)
      (room : state.graph.blocks.length < options.maxBlocks)
      (analyzed : analyzeR5900BasicBlock memory pending.pc options.blockOptions =
        .ok block) :
      TurnGoesOn state (recordBlock options block { state with worklist := rest })

variable {memory options}

theorem worklistTurn_cases (state : ReachabilityState) :
    (∃ result, worklistTurn memory options state = .returns result ∧
      TurnReturns memory options state result) ∨
    ∃ next, worklistTurn memory options state = .goesOn next ∧
      TurnGoesOn memory options state next := by
  cases pendingTargets : state.worklist with
  | nil => exact .inl ⟨_, worklistTurn_empty pendingTargets, .empty pendingTargets⟩
  | cons pending rest =>
      rcases Nat.lt_or_ge state.graph.blocks.length options.maxBlocks with room | limit
      · cases analyzed : analyzeR5900BasicBlock memory pending.pc options.blockOptions with
        | error failure =>
            have turn := worklistTurn_failed pendingTargets room analyzed
            split at turn
            · next isEntry =>
                exact .inl ⟨_, turn, .entryFails pendingTargets room analyzed isEntry⟩
            · next notEntry =>
                exact .inr ⟨_, turn, .targetFails pendingTargets room analyzed notEntry⟩
        | ok block =>
            exact .inr ⟨_, worklistTurn_record pendingTargets room analyzed,
              .records pendingTargets room analyzed⟩
      · exact .inl ⟨_, worklistTurn_full pendingTargets limit, .full pendingTargets limit⟩

theorem turnReturns {result : Except R5900ReachabilityFailure R5900ReachabilityGraph}
    (turn : worklistTurn memory options state = .returns result) :
    TurnReturns memory options state result := by
  obtain ⟨other, same, found⟩ | ⟨next, same, -⟩ := worklistTurn_cases state
  · obtain rfl := WorklistTurn.returns.inj (turn.symm.trans same)
    exact found
  · cases turn.symm.trans same

theorem turnGoesOn (turn : worklistTurn memory options state = .goesOn next) :
    TurnGoesOn memory options state next := by
  obtain ⟨result, same, -⟩ | ⟨other, same, done⟩ := worklistTurn_cases state
  · cases turn.symm.trans same
  · obtain rfl := WorklistTurn.goesOn.inj (turn.symm.trans same)
    exact done

/-- A target that is given up schedules nothing.  A block has at most two edges, so
recording one under the limit costs more than it schedules. -/
theorem worklistTurn_decreases (turn : worklistTurn memory options state = .goesOn next) :
    3 * (options.maxBlocks - next.graph.blocks.length) + next.worklist.length <
      3 * (options.maxBlocks - state.graph.blocks.length) + state.worklist.length := by
  cases turnGoesOn turn with
  | targetFails pendingTargets room failed notEntry =>
      rw [pendingTargets]
      exact Nat.add_lt_add_left (Nat.lt_succ_self _) _
  | @records pending rest block pendingTargets room analyzed =>
      have edges := length_edges_le analyzed
      have pushed : (recordBlock options block
          { state with worklist := rest }).worklist.length ≤
        rest.length + block.edges.length := length_recordBlock_le
      rw [recordBlock_blocks, List.length_append, List.length_singleton, pendingTargets,
        List.length_cons]
      dsimp only
      omega

end Turns

/-- Turn after turn, until one returns. -/
def exploreWorklist (memory : Ps2MemoryMap) (options : R5900ReachabilityOptions)
    (state : ReachabilityState) :
    Except R5900ReachabilityFailure R5900ReachabilityGraph :=
  match _turn : worklistTurn memory options state with
  | .returns result => result
  | .goesOn next => exploreWorklist memory options next
termination_by
  3 * (options.maxBlocks - state.graph.blocks.length) + state.worklist.length
decreasing_by exact worklistTurn_decreases _turn

section Exploration

variable {memory : Ps2MemoryMap} {options : R5900ReachabilityOptions}
  {state next : ReachabilityState} {pending : PendingTarget} {rest : List PendingTarget}

theorem exploreWorklist_of_returns
    {result : Except R5900ReachabilityFailure R5900ReachabilityGraph}
    (turn : worklistTurn memory options state = .returns result) :
    exploreWorklist memory options state = result := by
  rw [exploreWorklist]
  split
  · next same => exact WorklistTurn.returns.inj (same.symm.trans turn)
  · next same => cases same.symm.trans turn

theorem exploreWorklist_of_goesOn (turn : worklistTurn memory options state = .goesOn next) :
    exploreWorklist memory options state = exploreWorklist memory options next := by
  rw [exploreWorklist]
  split
  · next same => cases same.symm.trans turn
  · next same => rw [WorklistTurn.goesOn.inj (same.symm.trans turn)]

theorem exploreWorklist_empty (empty : state.worklist = []) :
    exploreWorklist memory options state = .ok state.graph :=
  exploreWorklist_of_returns (worklistTurn_empty empty)

theorem exploreWorklist_full (pendingTargets : state.worklist = pending :: rest)
    (full : options.maxBlocks ≤ state.graph.blocks.length) :
    exploreWorklist memory options state =
      .ok (addIssue state.graph
        { kind := .blockLimitReached
          sourceBlock := pending.sourceBlock
          target := some pending.pc }) :=
  exploreWorklist_of_returns (worklistTurn_full pendingTargets full)

theorem exploreWorklist_failed (pendingTargets : state.worklist = pending :: rest)
    (room : state.graph.blocks.length < options.maxBlocks)
    {failure : R5900ControlFlowFailure}
    (failed : analyzeR5900BasicBlock memory pending.pc options.blockOptions =
      .error failure) :
    exploreWorklist memory options state =
      if pending.isEntry then
        .error ⟨.entryAnalysisFailed,
          "R5900 entry basic-block analysis failed: " ++ failure.message⟩
      else
        exploreWorklist memory options
          { state with
            worklist := rest
            graph := addIssue state.graph
              { kind := .targetAnalysisFailed
                sourceBlock := pending.sourceBlock
                target := some pending.pc
                analysisError := some failure.error } } := by
  have turn := worklistTurn_failed pendingTargets room failed
  split at turn
  · next isEntry => rw [if_pos isEntry, exploreWorklist_of_returns turn]
  · next notEntry => rw [if_neg notEntry, exploreWorklist_of_goesOn turn]

theorem exploreWorklist_record (pendingTargets : state.worklist = pending :: rest)
    (room : state.graph.blocks.length < options.maxBlocks) {block : R5900BasicBlock}
    (analyzed : analyzeR5900BasicBlock memory pending.pc options.blockOptions =
      .ok block) :
    exploreWorklist memory options state =
      exploreWorklist memory options
        (recordBlock options block { state with worklist := rest }) :=
  exploreWorklist_of_goesOn (worklistTurn_record pendingTargets room analyzed)

variable (memory options)

/-- Induction on the turns that follow a state, by what each of them does. -/
theorem exploreWorklist_induction {motive : ReachabilityState → Prop}
    (empty : ∀ state, state.worklist = [] → motive state)
    (full : ∀ state pending rest, state.worklist = pending :: rest →
      options.maxBlocks ≤ state.graph.blocks.length → motive state)
    (entryFails : ∀ state pending rest, state.worklist = pending :: rest →
      state.graph.blocks.length < options.maxBlocks → ∀ failure,
      analyzeR5900BasicBlock memory pending.pc options.blockOptions = .error failure →
      pending.isEntry = true → motive state)
    (targetFails : ∀ state pending rest, state.worklist = pending :: rest →
      state.graph.blocks.length < options.maxBlocks → ∀ failure,
      analyzeR5900BasicBlock memory pending.pc options.blockOptions = .error failure →
      ¬pending.isEntry = true →
      motive
        { state with
          worklist := rest
          graph := addIssue state.graph
            { kind := .targetAnalysisFailed
              sourceBlock := pending.sourceBlock
              target := some pending.pc
              analysisError := some failure.error } } → motive state)
    (records : ∀ state pending rest, state.worklist = pending :: rest →
      state.graph.blocks.length < options.maxBlocks → ∀ block,
      analyzeR5900BasicBlock memory pending.pc options.blockOptions = .ok block →
      motive (recordBlock options block { state with worklist := rest }) → motive state)
    (state : ReachabilityState) : motive state := by
  fun_induction exploreWorklist memory options state with
  | case1 state result turn =>
      cases turnReturns turn with
      | empty noTargets => exact empty state noTargets
      | full pendingTargets limit => exact full state _ _ pendingTargets limit
      | entryFails pendingTargets room failed isEntry =>
          exact entryFails state _ _ pendingTargets room _ failed isEntry
  | case2 state next turn ih =>
      cases turnGoesOn turn with
      | targetFails pendingTargets room failed notEntry =>
          exact targetFails state _ _ pendingTargets room _ failed notEntry ih
      | records pendingTargets room analyzed =>
          exact records state _ _ pendingTargets room _ analyzed ih

end Exploration

def analyzeR5900Reachability (memory : Ps2MemoryMap) (entryPc : BitVec 32)
    (options : R5900ReachabilityOptions) :
    Except R5900ReachabilityFailure R5900ReachabilityGraph :=
  if options.maxBlocks = 0 then
    .error ⟨.invalidBlockLimit, "R5900 reachability block limit must be non-zero"⟩
  else
    (exploreWorklist memory options
      { graph := { entryPc := entryPc }
        worklist := [⟨entryPc, entryPc, true⟩]
        scheduled := [entryPc] }).map detectOverlappingLeaders

end Burnout3Recompiled
