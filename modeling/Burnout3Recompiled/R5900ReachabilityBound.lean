import Burnout3Recompiled.R5900BlockLimit
import Burnout3Recompiled.R5900ReachabilitySearch
import Burnout3Recompiled.StoppingLoop

/-!
# The worklist is bounded

The block limit counts the blocks that are collected, not the targets that are taken
from the worklist.  Those are bounded all the same: a PC enters the worklist once, and
only a collected block puts PCs there, two at most.
-/

namespace Burnout3Recompiled

open WorklistSearch (foldl_schedule_adds)

/-- The variables of the worklist loop, the PCs that have been taken from the worklist
and analysed so far, and what the loop returns when it ends. -/
structure WorklistLog where
  state : ReachabilityState
  popped : List (BitVec 32) := []
  analyzed : List (BitVec 32) := []
  result : Option (Except R5900ReachabilityFailure R5900ReachabilityGraph) := none

/-- The PC that a turn takes from the worklist. -/
def poppedPc (state : ReachabilityState) : Option (BitVec 32) :=
  state.worklist.head?.map (·.pc)

/-- The PC that a turn analyses: the one it takes, unless there is no room for a block. -/
def analyzedPc (options : R5900ReachabilityOptions) (state : ReachabilityState) :
    Option (BitVec 32) :=
  if state.graph.blocks.length ≥ options.maxBlocks then none else poppedPc state

/-- A turn of `exploreWorklist`, which leaves its PCs in the log. -/
def loggedTurn (memory : Ps2MemoryMap) (options : R5900ReachabilityOptions)
    (log : WorklistLog) : StepOutcome WorklistLog :=
  let taken := { log with
    popped := log.popped ++ (poppedPc log.state).toList
    analyzed := log.analyzed ++ (analyzedPc options log.state).toList }
  match worklistTurn memory options log.state with
  | .returns result =>
      .stopped { taken with
        state := { log.state with worklist := log.state.worklist.tail }
        result := some result }
  | .goesOn next => .continues { taken with state := next }

section Run

variable {memory : Ps2MemoryMap} {options : R5900ReachabilityOptions}

/-- The loop comes to its end with the result of the exploration. -/
theorem stopsIn_loggedTurn (memory : Ps2MemoryMap) (options : R5900ReachabilityOptions)
    (log : WorklistLog) :
    ∃ final, StopsIn (loggedTurn memory options) log final ∧
      final.result = some (exploreWorklist memory options log.state) := by
  obtain ⟨state, popped, analyzed, result⟩ := log
  dsimp only
  fun_induction exploreWorklist memory options state generalizing popped analyzed with
  | case1 state returned turn =>
      have stops : ∃ final, loggedTurn memory options ⟨state, popped, analyzed, result⟩ =
          .stopped final ∧ final.result = some returned := by
        simp only [loggedTurn, turn]
        exact ⟨_, rfl, rfl⟩
      obtain ⟨final, stops, same⟩ := stops
      exact ⟨final, .stopped stops, same⟩
  | case2 state next turn ih =>
      obtain ⟨final, run, same⟩ := ih (popped ++ (poppedPc state).toList)
        (analyzed ++ (analyzedPc options state).toList)
      refine ⟨final, .continues ?_ run, same⟩
      simp only [loggedTurn, turn]

/-- The scheduled PCs are those taken and those waiting, and each collected block has
paid for the ones it has scheduled. -/
structure WorklistInvariant (options : R5900ReachabilityOptions) (log : WorklistLog) :
    Prop where
  scheduled : log.state.scheduled = log.popped ++ log.state.worklist.map (·.pc)
  nodup : log.state.scheduled.Nodup
  bounded : log.state.scheduled.length ≤ 1 + 2 * log.state.graph.blocks.length
  room : log.state.graph.blocks.length ≤ options.maxBlocks
  analyzed : log.analyzed.Sublist log.popped

theorem length_followedTargets_le (edges : List R5900ControlFlowEdge) :
    (followedTargets options edges).length ≤ edges.length :=
  List.length_filterMap_le _ edges

/-- Recording a block schedules PCs that are new, one for each followed edge at most. -/
theorem recordBlock_schedules (options : R5900ReachabilityOptions)
    (block : R5900BasicBlock) (state : ReachabilityState) :
    ∃ added : List (BitVec 32),
      (recordBlock options block state).worklist.map (·.pc) =
        state.worklist.map (·.pc) ++ added ∧
      (recordBlock options block state).scheduled = state.scheduled ++ added ∧
      added.Nodup ∧ (∀ pc ∈ added, pc ∉ state.scheduled) ∧
      added.length ≤ block.edges.length := by
  obtain ⟨added, adds⟩ := foldl_schedule_adds block.startPc
    (followedTargets options block.edges) (state.search [])
  rw [← recordBlock_search] at adds
  have queue := congrArg (List.map Prod.fst) adds.pending
  simp only [ReachabilityState.search, List.map_append, List.map_map, Function.comp_def,
    List.map_id'] at queue
  exact ⟨added, queue, adds.scheduled, adds.nodup, adds.fresh,
    adds.length_le.trans (length_followedTargets_le block.edges)⟩

variable {log : WorklistLog}

/-- A collected block pays for the PCs it schedules. -/
theorem WorklistInvariant.record {pc : BitVec 32} {blockOptions : R5900ControlFlowOptions}
    {block : R5900BasicBlock} (invariant : WorklistInvariant options log)
    (found : analyzeR5900BasicBlock memory pc blockOptions = .ok block)
    (room : log.state.graph.blocks.length < options.maxBlocks) :
    WorklistInvariant options { log with state := recordBlock options block log.state } := by
  obtain ⟨added, queue, scheduled, nodup, fresh, few⟩ :=
    recordBlock_schedules options block log.state
  have edges := length_edges_le found
  have bounded := invariant.bounded
  refine ⟨?_, ?_, ?_, ?_, invariant.analyzed⟩
  · rw [scheduled, queue, invariant.scheduled, List.append_assoc]
  · rw [scheduled]
    refine List.nodup_append.mpr ⟨invariant.nodup, nodup, ?_⟩
    rintro old oldMember new newMember rfl
    exact fresh old newMember oldMember
  · dsimp only
    rw [scheduled, recordBlock_blocks, List.length_append, List.length_append,
      List.length_singleton]
    omega
  · dsimp only
    rw [recordBlock_blocks, List.length_append, List.length_singleton]
    exact room

theorem analyzedPc_sublist (options : R5900ReachabilityOptions) (state : ReachabilityState) :
    (analyzedPc options state).toList.Sublist (poppedPc state).toList := by
  rw [analyzedPc]
  split
  · exact List.nil_sublist _
  · exact List.Sublist.refl _

/-- The PC that has been taken no longer waits. -/
theorem WorklistInvariant.take (invariant : WorklistInvariant options log)
    (result : Option (Except R5900ReachabilityFailure R5900ReachabilityGraph)) :
    WorklistInvariant options
      { state := { log.state with worklist := log.state.worklist.tail }
        popped := log.popped ++ (poppedPc log.state).toList
        analyzed := log.analyzed ++ (analyzedPc options log.state).toList
        result := result } := by
  obtain ⟨scheduled, nodup, bounded, room, analyzed⟩ := invariant
  refine ⟨?_, nodup, bounded, room, analyzed.append (analyzedPc_sublist _ _)⟩
  rw [scheduled, List.append_assoc]
  congr 1
  unfold poppedPc
  cases log.state.worklist with
  | nil => rfl
  | cons pending rest => rfl

theorem WorklistInvariant.turn (invariant : WorklistInvariant options log) :
    WorklistInvariant options (loggedTurn memory options log).state := by
  unfold loggedTurn
  cases turn : worklistTurn memory options log.state with
  | returns result => exact invariant.take _
  | goesOn next =>
      have taken := invariant.take log.result
      cases turnGoesOn turn with
      | targetFails pendingTargets =>
          rw [pendingTargets] at taken
          obtain ⟨scheduled, nodup, bounded, room, analyzed⟩ := taken
          exact ⟨scheduled, nodup, bounded, room, analyzed⟩
      | records pendingTargets room found =>
          rw [pendingTargets] at taken
          exact taken.record found room

end Run

/-- The loop of the analysis ends, after it has taken at most one PC and two for each
block it may collect, and it has neither taken nor analysed a PC twice. -/
theorem worklistLoop_bounded (memory : Ps2MemoryMap) (entryPc : BitVec 32)
    (options : R5900ReachabilityOptions) (positive : 1 ≤ options.maxBlocks) :
    ∃ final result,
      StopsIn (loggedTurn memory options) { state := entryState entryPc } final ∧
      final.result = some result ∧
      analyzeR5900Reachability memory entryPc options =
        result.map detectOverlappingLeaders ∧
      final.popped.length ≤ 1 + 2 * options.maxBlocks ∧ final.popped.Nodup ∧
      final.analyzed.Nodup := by
  obtain ⟨final, run, result⟩ := stopsIn_loggedTurn memory options
    { state := entryState entryPc }
  have start : WorklistInvariant options { state := entryState entryPc } :=
    ⟨rfl, List.nodup_singleton entryPc, Nat.le_refl 1, Nat.zero_le _, .refl _⟩
  have invariant : WorklistInvariant options final :=
    run.preserves (WorklistInvariant options) start fun _ kept => kept.turn
  have distinct := invariant.nodup
  have bounded := invariant.bounded
  have room := invariant.room
  rw [invariant.scheduled] at distinct bounded
  rw [List.length_append] at bounded
  have popped : final.popped.Nodup := (List.nodup_append.mp distinct).1
  refine ⟨final, _, run, result, ?_, by omega, popped, popped.sublist invariant.analyzed⟩
  rw [analyzeR5900Reachability, if_neg (Nat.ne_of_gt positive)]
  rfl

theorem worklistLoop_bounded_jumpToTrapMemory :
    ∃ final, StopsIn (loggedTurn jumpToTrapMemory { maxBlocks := 1 })
        { state := entryState 0x1000 } final ∧
      final.popped.length ≤ 3 ∧ final.popped.Nodup ∧ final.analyzed.Nodup := by
  obtain ⟨final, result, run, -, -, bounded, popped, analyzed⟩ :=
    worklistLoop_bounded jumpToTrapMemory 0x1000 { maxBlocks := 1 } (Nat.le_refl 1)
  exact ⟨final, run, bounded, popped, analyzed⟩

end Burnout3Recompiled
