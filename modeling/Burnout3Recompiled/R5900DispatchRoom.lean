import Burnout3Recompiled.R5900DispatchRun

/-!
# Runs that run out of room

The analysis of every block asks for room, and when it is refused the exception ends the
run.  Such a run has no result.  It leaves the state and the cache that the blocks before
have left, and a run that returns is the run of a dispatcher that gets all the room it asks
for.
-/

namespace Burnout3Recompiled

/-- A run that has thrown, with the variables of its loop. -/
structure ThrownRun where
  exception : StdException
  loop : DispatchLoop

/-- What the analysis of an iteration throws.  Its request for room is counted by the blocks
before it. -/
def thrownAt (room : VectorRoom) (memory : Ps2MemoryMap)
    (options : R5900BlockDispatcherOptions) (loop : DispatchLoop) : Option ThrownRun :=
  match analyzeR5900BasicBlockIn room loop.result.blocksExecuted memory loop.currentPc
      options.blockOptions with
  | .error exception => some ⟨exception, loop⟩
  | .ok _ => none

/-- The loop of a run, which an exception leaves.  An analysis that returns does so with the
result that `dispatchBlock` takes up. -/
def dispatchLoopIn (room : VectorRoom) (addF32 : BitVec 32 → BitVec 32 → BitVec 32)
    (memory : Ps2MemoryMap) (options : R5900BlockDispatcherOptions) (maxBlocks : Nat)
    (os : Nat → ExecutablePageOutcome) (loop : DispatchLoop) :
    Except ThrownRun DispatchLoop :=
  if loop.result.blocksExecuted < maxBlocks then
    match thrownAt room memory options loop with
    | some thrown => .error thrown
    | none =>
        match _outcome : dispatchBlock addF32 memory options maxBlocks
            (os loop.result.blocksExecuted) loop with
        | .stopped final => .ok final
        | .continues next => dispatchLoopIn room addF32 memory options maxBlocks os next
  else
    .ok { loop with result := { loop.result with reason := .blockBudgetExhausted } }
termination_by maxBlocks - loop.result.blocksExecuted
decreasing_by
  have progress := (dispatchBlock_continues _outcome).1
  omega

section Steps

variable {room : VectorRoom} {addF32 : BitVec 32 → BitVec 32 → BitVec 32}
  {memory : Ps2MemoryMap} {options : R5900BlockDispatcherOptions} {maxBlocks : Nat}
  {loop : DispatchLoop}

theorem loop_of_thrownAt {thrown : ThrownRun}
    (throws : thrownAt room memory options loop = some thrown) : thrown.loop = loop := by
  unfold thrownAt at throws
  split at throws
  · obtain rfl := Option.some.inj throws
    rfl
  · cases throws

/-- Room for the instruction limit is all that is asked for. -/
theorem thrownAt_eq_none
    (granted : room.reserve loop.result.blocksExecuted
      options.blockOptions.maxInstructions = .ok ()) :
    thrownAt room memory options loop = none := by
  rw [thrownAt, analyzeR5900BasicBlockIn_of_room granted]

variable {os : Nat → ExecutablePageOutcome}

theorem dispatchLoopIn_step (inside : loop.result.blocksExecuted < maxBlocks) :
    dispatchLoopIn room addF32 memory options maxBlocks os loop =
      match thrownAt room memory options loop with
      | some thrown => .error thrown
      | none =>
          match dispatchStep addF32 memory options maxBlocks os loop with
          | .stopped final => .ok final
          | .continues next =>
              dispatchLoopIn room addF32 memory options maxBlocks os next := by
  rw [dispatchLoopIn, if_pos inside, dispatchStep]
  cases thrownAt room memory options loop with
  | some thrown => rfl
  | none =>
      simp only
      split
      · next stops => rw [stops]
      · next goesOn => rw [goesOn]

/-- By induction on the iterations, which are the same up to the first one that throws. -/
theorem dispatchLoopIn_eq {fuel : Nat} (inside : loop.result.blocksExecuted < maxBlocks)
    (enough : maxBlocks - loop.result.blocksExecuted ≤ fuel) :
    dispatchLoopIn room addF32 memory options maxBlocks os loop =
      match (iterations (dispatchStep addF32 memory options maxBlocks os) fuel
          loop).findSome? (thrownAt room memory options) with
      | some thrown => .error thrown
      | none => .ok (dispatchLoop addF32 memory options maxBlocks os loop) := by
  induction fuel generalizing loop with
  | zero => omega
  | succ fuel ih =>
      have run := dispatchLoop_stopsIn addF32 memory options os inside
      cases throws : thrownAt room memory options loop with
      | some thrown =>
          rw [dispatchLoopIn_step inside, iterations, List.findSome?_cons, throws]
      | none =>
          cases outcome : dispatchStep addF32 memory options maxBlocks os loop with
          | stopped final =>
              rw [dispatchLoopIn_step inside, throws, outcome,
                iterations_of_stopped outcome, List.findSome?_cons, throws,
                List.findSome?_nil, run.unique (.stopped outcome)]
          | continues next =>
              have progress := dispatchBlock_continues outcome
              have insideNext : next.result.blocksExecuted < maxBlocks := by omega
              have rest := dispatchLoop_stopsIn addF32 memory options os insideNext
              rw [dispatchLoopIn_step inside, throws, outcome,
                iterations_of_continues outcome, List.findSome?_cons, throws,
                run.unique (.continues outcome rest)]
              exact ih insideNext (by omega)

end Steps

namespace R5900BlockDispatcher

/-- A run that may throw. -/
def runIn (room : VectorRoom) (addF32 : BitVec 32 → BitVec 32 → BitVec 32)
    (dispatcher : R5900BlockDispatcher) (memory : Ps2MemoryMap)
    (os : Nat → ExecutablePageOutcome) (startPc : BitVec 32)
    (state : R5900IrExecutionState) (maxBlocks : Nat) : Except ThrownRun DispatchLoop :=
  if maxBlocks = 0 then .ok (dispatcher.run addF32 memory os startPc state maxBlocks)
  else
    dispatchLoopIn room addF32 memory dispatcher.options maxBlocks os
      (dispatcher.startLoop startPc state)

section Runs

variable {room : VectorRoom} {addF32 : BitVec 32 → BitVec 32 → BitVec 32}
  {dispatcher : R5900BlockDispatcher} {memory : Ps2MemoryMap}
  {os : Nat → ExecutablePageOutcome} {startPc : BitVec 32} {state : R5900IrExecutionState}
  {maxBlocks maxSize : Nat}

/-- A run takes the iterations of the run without the question of room, up to the first one
that throws. -/
theorem runIn_eq :
    dispatcher.runIn room addF32 memory os startPc state maxBlocks =
      match (dispatcher.dispatchIterations addF32 memory os startPc state
          maxBlocks).findSome? (thrownAt room memory dispatcher.options) with
      | some thrown => .error thrown
      | none => .ok (dispatcher.run addF32 memory os startPc state maxBlocks) := by
  unfold runIn
  split
  · next noBudget =>
      subst noBudget
      rfl
  · next positive =>
      rw [dispatchLoopIn_eq (Nat.pos_of_ne_zero positive) (Nat.sub_le ..), run,
        if_neg positive]
      rfl

/-- A run that returns is the run without the question of room. -/
theorem runIn_eq_ok {final : DispatchLoop}
    (returns : dispatcher.runIn room addF32 memory os startPc state maxBlocks = .ok final) :
    final = dispatcher.run addF32 memory os startPc state maxBlocks := by
  rw [runIn_eq] at returns
  split at returns
  · cases returns
  · exact (Except.ok.inj returns).symm

/-- A run that throws leaves the variables with which one of its iterations begins. -/
theorem runIn_eq_error {thrown : ThrownRun}
    (throws : dispatcher.runIn room addF32 memory os startPc state maxBlocks =
      .error thrown) :
    thrown.loop ∈ dispatcher.dispatchIterations addF32 memory os startPc state maxBlocks ∧
      thrownAt room memory dispatcher.options thrown.loop = some thrown := by
  rw [runIn_eq] at throws
  split at throws
  · next other found =>
      obtain rfl := Except.error.inj throws
      obtain ⟨loop, member, here⟩ := List.exists_of_findSome?_eq_some found
      have same := loop_of_thrownAt here
      exact ⟨same ▸ member, same ▸ here⟩
  · cases throws

theorem runIn_granting (fits : dispatcher.options.blockOptions.maxInstructions ≤ maxSize) :
    dispatcher.runIn (.granting maxSize) addF32 memory os startPc state maxBlocks =
      .ok (dispatcher.run addF32 memory os startPc state maxBlocks) := by
  have silent : (dispatcher.dispatchIterations addF32 memory os startPc state
      maxBlocks).findSome? (thrownAt (.granting maxSize) memory dispatcher.options) =
      none := by
    apply List.findSome?_eq_none_iff.mpr
    intro loop _
    exact thrownAt_eq_none (VectorRoom.reserve_granting fits)
  rw [runIn_eq, silent]

/-- An unaligned start is refused before any room is asked for. -/
theorem runIn_of_unaligned (unaligned : startPc &&& 0x3 ≠ 0) :
    dispatcher.runIn room addF32 memory os startPc state maxBlocks =
      .ok (dispatcher.run addF32 memory os startPc state maxBlocks) := by
  rcases Nat.eq_zero_or_pos maxBlocks with rfl | positive
  · rfl
  · obtain ⟨failure, failed⟩ : ∃ failure, analyzeR5900BasicBlock memory startPc
        dispatcher.options.blockOptions = .error failure := by
      rw [analyzeR5900BasicBlock, if_pos unaligned]
      split <;> exact ⟨_, rfl⟩
    obtain ⟨final, stops⟩ : ∃ final, dispatchStep addF32 memory dispatcher.options maxBlocks
        os (dispatcher.startLoop startPc state) = .stopped final := by
      rw [dispatchStep, dispatchBlock, selectCandidate, startLoop, failed]
      exact ⟨_, rfl⟩
    have silent : thrownAt room memory dispatcher.options
        (dispatcher.startLoop startPc state) = none := by
      rw [thrownAt, startLoop, analyzeR5900BasicBlockIn, if_pos (.inr unaligned)]
    have run := dispatcher.run_stopsIn addF32 memory os startPc state (Nat.ne_of_gt positive)
    rw [runIn, if_neg (Nat.ne_of_gt positive), dispatchLoopIn_step positive, silent, stops,
      run.unique (.stopped stops)]

/-- With a limit that no vector can hold a run throws before its first block. -/
theorem runIn_lengthError
    (above : room.maxSize < dispatcher.options.blockOptions.maxInstructions)
    (aligned : startPc &&& 0x3 = 0) (positive : maxBlocks ≠ 0) :
    dispatcher.runIn room addF32 memory os startPc state maxBlocks =
      .error ⟨.lengthError, dispatcher.startLoop startPc state⟩ := by
  have refused : room.reserve 0 dispatcher.options.blockOptions.maxInstructions =
      .error .lengthError :=
    VectorRoom.reserve_eq_lengthError_iff.mpr above
  have throws : analyzeR5900BasicBlockIn room 0 memory startPc
      dispatcher.options.blockOptions = .error .lengthError :=
    analyzeR5900BasicBlockIn_eq_error_iff.mpr
      ⟨Nat.ne_of_gt (Nat.zero_lt_of_lt above), aligned, refused⟩
  have thrown : thrownAt room memory dispatcher.options (dispatcher.startLoop startPc state) =
      some ⟨.lengthError, dispatcher.startLoop startPc state⟩ := by
    unfold thrownAt startLoop
    rw [throws]
  rw [runIn, if_neg positive, dispatchLoopIn_step (Nat.pos_of_ne_zero positive), thrown]

end Runs

end R5900BlockDispatcher

end Burnout3Recompiled
