import Burnout3Recompiled.R5900DispatcherRefinement
import Burnout3Recompiled.R5900DispatchStops

/-!
# The guest machine

Guest code has a meaning of its own: at every step the guest takes the word at its
PC as a startup instruction and has its architectural effect.  A run of the
dispatcher is a run of this machine, and the native blocks it calls carry it out
on the host.
-/

namespace Burnout3Recompiled

open X64 (rcx)
open R5900IrExecutionState

/-- A guest between two instructions, with GPR zero clear. -/
@[ext]
structure GuestMachine where
  pc : BitVec 32
  state : R5900IrExecutionState
  zero : state.ZeroNormalized

/-- A guest about to run from `pc` on. -/
def GuestMachine.enter (pc : BitVec 32) (state : R5900IrExecutionState) : GuestMachine where
  pc := pc
  state := state.normalizeZero
  zero := zeroNormalized_normalizeZero state

section Effects

variable {addF32 : BitVec 32 → BitVec 32 → BitVec 32} {word : BitVec 32}
  {instruction : StartupInstruction}

/-- An encoded instruction leaves GPR zero clear. -/
theorem effect_zeroNormalized (encodes : instruction.Encodes word)
    {state : R5900IrExecutionState} (normalized : state.ZeroNormalized) :
    (instruction.effect addF32 word state).ZeroNormalized := by
  have implements := implements_effect addF32 0 encodes
  have executed := implements.executes state
  rw [executeR5900Ir_eq_foldl addF32 implements.wellFormed,
    normalizeZero_eq_self normalized] at executed
  rw [← (Prod.mk.inj executed).2]
  exact foldl_applyInstruction_zeroNormalized addF32 implements.wellFormed normalized

/-- A word encodes one instruction at most. -/
theorem StartupInstruction.Encodes.unique {other : StartupInstruction}
    (encodes : instruction.Encodes word) (otherEncodes : other.Encodes word) :
    instruction = other := by
  have sameName : instruction.name = other.name := by
    rw [← decodeR5900_of_encodes encodes, decodeR5900_of_encodes otherEncodes]
  cases instruction <;> cases other <;> first
    | rfl
    | cases sameName

end Effects

section Steps

variable (addF32 : BitVec 32 → BitVec 32 → BitVec 32) (memory : Ps2MemoryMap)
  (requireExecutable : Bool)

/-- One instruction of the guest. -/
inductive GuestStep (guest : GuestMachine) : GuestMachine → Prop
  | step {word : BitVec 32} {instruction : StartupInstruction}
      (read : memory.readU32 guest.pc = some word)
      (executable : requireExecutable = true →
        rangeStatus memory guest.pc 4 = .executable)
      (encodes : instruction.Encodes word) :
      GuestStep guest
        ⟨guest.pc + 4, instruction.effect addF32 word guest.state,
          effect_zeroNormalized encodes guest.zero⟩

/-- `count` instructions of the guest. -/
inductive GuestRun : Nat → GuestMachine → GuestMachine → Prop
  | refl (guest : GuestMachine) : GuestRun 0 guest guest
  | tail {count : Nat} {start middle last : GuestMachine}
      (run : GuestRun count start middle)
      (step : GuestStep addF32 memory requireExecutable middle last) :
      GuestRun (count + 1) start last

/-- The guest has no instruction it could execute. -/
def GuestStuck (guest : GuestMachine) : Prop :=
  ∀ next, ¬GuestStep addF32 memory requireExecutable guest next

variable {addF32 memory requireExecutable} {guest start next other : GuestMachine}
  {count : Nat}

theorem GuestStep.unique (step : GuestStep addF32 memory requireExecutable guest next)
    (otherStep : GuestStep addF32 memory requireExecutable guest other) : next = other := by
  obtain ⟨read, -, encodes⟩ := step
  obtain ⟨otherRead, -, otherEncodes⟩ := otherStep
  obtain rfl := Option.some.inj (read.symm.trans otherRead)
  obtain rfl := encodes.unique otherEncodes
  rfl

/-- A guest reaches one machine only after so many instructions. -/
theorem GuestRun.unique (run : GuestRun addF32 memory requireExecutable count start next)
    (otherRun : GuestRun addF32 memory requireExecutable count start other) :
    next = other := by
  induction run generalizing other with
  | refl => cases otherRun with
    | refl => rfl
  | tail run step ih =>
      cases otherRun with
      | tail otherRun otherStep =>
          obtain rfl := ih otherRun
          exact step.unique otherStep

theorem GuestRun.pc (run : GuestRun addF32 memory requireExecutable count start next) :
    next.pc = instructionPc start.pc count := by
  induction run with
  | refl => exact (instructionPc_zero _).symm
  | tail run step ih =>
      obtain ⟨-, -, -⟩ := step
      rw [← instructionPc_add, ← ih, instructionPc_one]

/-- The guest can go on exactly where the code lowers. -/
theorem not_guestStuck_iff :
    ¬GuestStuck addF32 memory requireExecutable guest ↔
      LowersAt memory requireExecutable guest.pc := by
  rw [GuestStuck, not_forall_not]
  constructor
  · rintro ⟨-, ⟨read, executable, encodes⟩⟩
    exact ⟨_, read, executable, lowerR5900Instruction_ok_iff.mpr ⟨_, encodes⟩⟩
  · rintro ⟨word, read, executable, succeeds⟩
    obtain ⟨instruction, encodes⟩ := lowerR5900Instruction_ok_iff.mp succeeds
    exact ⟨_, .step read executable encodes⟩

theorem loweredAt_of_read {pc word : BitVec 32} (read : memory.readU32 pc = some word) :
    loweredAt memory pc = (lowerR5900Instruction (decodeR5900 word) pc).instructions := by
  rw [loweredAt, read]

variable (addF32) in
/-- Where the code lowers, the guest runs and reaches what the interpreter computes
from the program in guest memory. -/
theorem guestRun_of_lowers (startPc : BitVec 32) (state : R5900IrExecutionState)
    (lower : ∀ index < count, LowersAt memory requireExecutable
      (instructionPc startPc index)) :
    ∃ reached, GuestRun addF32 memory requireExecutable count (.enter startPc state) reached ∧
      reached.state = (executeR5900Ir addF32 (guestProgram memory startPc count) state).2 := by
  induction count with
  | zero =>
      refine ⟨_, .refl _, ?_⟩
      rw [guestProgram_zero, executeR5900Ir_eq_foldl addF32 (by simp)]
      rfl
  | succ count ih =>
      have earlier : ∀ index < count, LowersAt memory requireExecutable
          (instructionPc startPc index) :=
        fun index inside => lower index (Nat.lt_succ_of_lt inside)
      have last := lower count (Nat.lt_succ_self count)
      obtain ⟨reached, run, state⟩ := ih earlier
      have reachedPc : reached.pc = instructionPc startPc count := run.pc
      obtain ⟨word, read, executable, succeeds⟩ := last
      obtain ⟨instruction, encodes⟩ := lowerR5900Instruction_ok_iff.mp succeeds
      have one : guestProgram memory (instructionPc startPc count) 1 =
          (lowerR5900Instruction (decodeR5900 word)
            (instructionPc startPc count)).instructions := by
        rw [guestProgram, List.range_one, List.flatMap_singleton, instructionPc_zero,
          loweredAt_of_read read]
      rw [← reachedPc] at read executable
      refine ⟨_, run.tail (.step read executable encodes), ?_⟩
      have implements := implements_effect addF32 (instructionPc startPc count) encodes
      rw [guestProgram_add, executeR5900Ir_append addF32
        (fun ir member => guestProgram_wellFormed ir earlier member)
        (by rw [one]; exact implements.wellFormed), one, ← state, implements.executes,
        normalizeZero_eq_self reached.zero]

end Steps

/-- The program between two native calls.  It may do anything with the machine but
keeps the state object at `base` and passes its address. -/
structure HostCode (base : BitVec 64) where
  resume : X64.Machine → X64.Machine
  pointer : ∀ machine, (resume machine).gpr rcx = base
  keeps : ∀ machine, stateAt (resume machine).memory base = stateAt machine.memory base

/-- A host that passes the address and does nothing else. -/
def HostCode.passing (base : BitVec 64) : HostCode base where
  resume machine := { machine with gpr := Function.update machine.gpr rcx base }
  pointer machine := Function.update_self rcx base machine.gpr
  keeps _ := rfl

section Native

variable (addF32 : BitVec 32 → BitVec 32 → BitVec 32) {base : BitVec 64}
  (host : HostCode base)

/-- Call native blocks one after the other, each from its first byte to its `ret`. -/
def callBlocks : List R5900X64CompiledBlock → X64.Machine → Option X64.Machine
  | [], machine => some machine
  | block :: blocks, machine =>
      match X64.run addF32 block.code block.code.length 0 (host.resume machine) with
      | none => none
      | some (_, returned) => callBlocks blocks returned

theorem callBlocks_append (first second : List R5900X64CompiledBlock)
    (machine : X64.Machine) :
    callBlocks addF32 host (first ++ second) machine =
      (callBlocks addF32 host first machine).bind (callBlocks addF32 host second) := by
  induction first generalizing machine with
  | nil => rfl
  | cons block first ih =>
      rw [List.cons_append, callBlocks, callBlocks]
      split
      · rfl
      · exact ih _

/-- A compiled block called on the state object has the effect of its program. -/
theorem callBlocks_compiled {instructions : List R5900IrInstruction}
    {block : R5900X64CompiledBlock}
    (wellFormed : ∀ ir ∈ instructions, R5900IrWellFormed ir)
    (compiled : compileR5900IrX64 .success instructions = .ok block)
    (machine : X64.Machine) :
    ∃ returned, callBlocks addF32 host [block] machine = some returned ∧
      stateAt returned.memory base =
        (executeR5900Ir addF32 instructions (stateAt machine.memory base)).2 := by
  obtain ⟨returned, run, represents⟩ := run_compiled addF32 wellFormed compiled
    (Nat.le_refl _) (host.resume machine)
  rw [host.pointer, host.keeps] at represents
  refine ⟨returned, ?_, represents.contents⟩
  rw [callBlocks, run]
  rfl

/-- On every machine the called blocks turn the state the run was given into the
state the loop has reached. -/
structure RunsNatively (state : R5900IrExecutionState) (loop : DispatchLoop) : Prop where
  valid : loop.cache.Valid
  native : ∀ (base : BitVec 64) (host : HostCode base) (machine : X64.Machine),
    stateAt machine.memory base = state →
      ∃ returned, callBlocks addF32 host (loop.called.map Prod.snd) machine =
          some returned ∧
        stateAt returned.memory base = loop.state

variable {addF32} {memory : Ps2MemoryMap} {options : R5900BlockDispatcherOptions}
  {state : R5900IrExecutionState} {loop ran : DispatchLoop}

namespace RunsNatively

theorem of_result (runs : RunsNatively addF32 state loop) (result : R5900DispatchResult) :
    RunsNatively addF32 state { loop with result := result } :=
  ⟨runs.valid, runs.native⟩

theorem executed (runs : RunsNatively addF32 state loop) (valid : ran.cache.Valid)
    {count : Nat} (run : Executed addF32 memory options loop count ran) :
    RunsNatively addF32 state ran := by
  refine ⟨valid, fun base host machine holds => ?_⟩
  obtain ⟨returned, earlier, reached⟩ := runs.native base host machine holds
  obtain ⟨block, compiled, called⟩ := run.called
  have wellFormed : ∀ ir ∈ guestProgram memory loop.currentPc count, R5900IrWellFormed ir :=
    fun ir member => guestProgram_wellFormed ir run.lower member
  obtain ⟨last, calledLast, contents⟩ :=
    callBlocks_compiled addF32 host wellFormed compiled returned
  refine ⟨last, ?_, ?_⟩
  · rw [called, List.map_append, callBlocks_append, earlier]
    exact calledLast
  · rw [contents, reached, run.state]

/-- One iteration, stopped or not. -/
theorem dispatchBlock (runs : RunsNatively addF32 state loop) (maxBlocks : Nat)
    (os : ExecutablePageOutcome) :
    RunsNatively addF32 state
      (dispatchBlock addF32 memory options maxBlocks os loop).state := by
  have step := stepOf_dispatchBlock addF32 memory options maxBlocks os runs.valid
  have valid := dispatchBlock_valid addF32 memory options maxBlocks runs.valid os
  generalize Burnout3Recompiled.dispatchBlock addF32 memory options maxBlocks os loop =
    outcome at step valid ⊢
  cases step with
  | rejected selected => exact runs.of_result _
  | unprepared found preparation => exact runs.of_result _
  | executes found preparation =>
      have run := executed_of_ready addF32 memory options found preparation
      obtain ⟨reason, nextPc, after⟩ := afterBlock_loop maxBlocks _ _
      rw [after] at valid ⊢
      refine (runs.executed ?_ run).of_result _
      exact valid

end RunsNatively

theorem run_runsNatively (addF32 : BitVec 32 → BitVec 32 → BitVec 32)
    (dispatcher : R5900BlockDispatcher) (memory : Ps2MemoryMap)
    (os : Nat → ExecutablePageOutcome) (startPc : BitVec 32)
    (state : R5900IrExecutionState) (maxBlocks : Nat) (valid : dispatcher.cache.Valid) :
    RunsNatively addF32 state
      (dispatcher.run addF32 memory os startPc state maxBlocks) := by
  have start : RunsNatively addF32 state (dispatcher.startLoop startPc state) :=
    ⟨valid, fun base host machine holds => ⟨machine, rfl, holds⟩⟩
  by_cases positive : maxBlocks = 0
  · rw [R5900BlockDispatcher.run, if_pos positive]
    exact start.of_result _
  · have run : StopsIn _ _ (dispatcher.run addF32 memory os startPc state maxBlocks) :=
      R5900BlockDispatcher.run_stopsIn addF32 _ memory os startPc state positive
    exact run.preserves (RunsNatively addF32 state) start
      fun current kept => kept.dispatchBlock maxBlocks _

end Native

/-- What the reason and the next PC of a run say about the guest it stands for, which
has executed the counted instructions and `reached` the machine given.  At a
boundary the guest is stuck.  A lowering failure names the PC at which it will get
stuck.  For all other reasons it is to go on at the next PC. -/
structure LeavesGuest (addF32 : BitVec 32 → BitVec 32 → BitVec 32) (memory : Ps2MemoryMap)
    (requireExecutable : Bool) (reached : GuestMachine) (result : R5900DispatchResult) :
    Prop where
  nextPc : result.reason ≠ .loweringFailure → result.nextPc = reached.pc
  boundary : result.reason = .controlFlow ∨ result.reason = .trap ∨
      result.reason = .unsupportedInstruction →
    GuestStuck addF32 memory requireExecutable reached
  lowering : result.reason = .loweringFailure →
    ∃ more stuck, GuestRun addF32 memory requireExecutable more reached stuck ∧
      stuck.pc = result.nextPc ∧ GuestStuck addF32 memory requireExecutable stuck

section Stops

variable {addF32 : BitVec 32 → BitVec 32 → BitVec 32} {memory : Ps2MemoryMap}
  {dispatcher : R5900BlockDispatcher} {os : Nat → ExecutablePageOutcome}
  {startPc nextPc : BitVec 32} {maxBlocks chunk instructions : Nat}
  {reached : GuestMachine} {block : R5900BasicBlock}
  {before : List R5900InstructionSite} {site : R5900InstructionSite}

/-- The guest is stuck at the first site outside the startup set. -/
theorem FirstOutside.guestStuck (analyzed : ChunkBlock memory dispatcher startPc chunk block)
    (first : FirstOutside block before site)
    (atSite : reached.pc =
      instructionPc startPc (chunkStart dispatcher.options chunk + before.length)) :
    GuestStuck addF32 memory dispatcher.options.blockOptions.requireExecutable reached := by
  by_contra goesOn
  obtain ⟨word, read, -, succeeds⟩ := not_guestStuck_iff.mp goesOn
  have fetched := analyzeR5900BasicBlock_fetched analyzed
  obtain ⟨after, split⟩ := first.split
  rw [split] at fetched
  have atPc := fetched.fetchSite_middle
  rw [instructionPc_add, ← atSite] at atPc
  obtain ⟨siteWord, siteRead, rfl⟩ := fetchSite_eq_some atPc
  obtain rfl := Option.some.inj (read.symm.trans siteRead)
  apply first.outside
  rw [R5900InstructionSite.IsStartup, decodeR5900_raw]
  exact lowerR5900Instruction_ok_iff.mp succeeds

variable (addF32) in
/-- The guest executes the startup sites of a block one after the other. -/
theorem FirstOutside.guestRun (analyzed : ChunkBlock memory dispatcher startPc chunk block)
    (first : FirstOutside block before site)
    (atChunk : reached.pc = instructionPc startPc (chunkStart dispatcher.options chunk)) :
    ∃ stuck, GuestRun addF32 memory dispatcher.options.blockOptions.requireExecutable
      before.length reached stuck := by
  have fetched := analyzeR5900BasicBlock_fetched analyzed
  obtain ⟨after, split⟩ := first.split
  rw [split] at fetched
  have beforeFetched := fetched.append_left
  have lower : ∀ earlier ∈ before, earlier.Lowers := fun earlier member =>
    (lowers_iff_isStartup (beforeFetched.decoded_of_mem member)).mpr
      (first.startup earlier member)
  obtain ⟨stuck, run, -⟩ := guestRun_of_lowers addF32 _ reached.state
    (beforeFetched.lowersAt lower)
  have entered : GuestMachine.enter
      (instructionPc startPc (chunkStart dispatcher.options chunk)) reached.state = reached :=
    GuestMachine.ext atChunk.symm (normalizeZero_eq_self reached.zero)
  rw [entered] at run
  exact ⟨stuck, run⟩

theorem StopsAt.leavesGuest {result : R5900DispatchResult}
    (stops : StopsAt memory dispatcher os startPc maxBlocks chunk result.reason
      result.nextPc result.instructionsExecuted)
    (reachedPc : reached.pc = instructionPc startPc result.instructionsExecuted) :
    LeavesGuest addF32 memory dispatcher.options.blockOptions.requireExecutable reached
      result := by
  generalize reason : result.reason = stopReason at stops
  generalize nextPc : result.nextPc = stopPc at stops
  generalize count : result.instructionsExecuted = executed at stops reachedPc
  cases stops with
  | analysisFails analyzed | compileFails analyzed | budget completes =>
      refine ⟨fun _ => by rw [nextPc, reachedPc], ?_, ?_⟩
      · rw [reason]
        rintro (stopped | stopped | stopped) <;> cases stopped
      · rw [reason]
        intro stopped
        cases stopped
  | boundary analyzed first stops available =>
      refine ⟨fun _ => by rw [nextPc, reachedPc],
        fun _ => first.guestStuck analyzed reachedPc, ?_⟩
      rw [reason]
      rintro rfl
      rcases dispatchBoundary_ne_failure stops with stopped | stopped | stopped <;>
        cases stopped
  | loweringFails analyzed first ctc1 =>
      refine ⟨fun other => absurd reason other, ?_, fun _ => ?_⟩
      · rw [reason]
        rintro (stopped | stopped | stopped) <;> cases stopped
      · obtain ⟨stuck, run⟩ := first.guestRun addF32 analyzed reachedPc
        have stuckPc := run.pc
        rw [reachedPc, instructionPc_add] at stuckPc
        exact ⟨_, stuck, run, stuckPc.trans nextPc.symm,
          first.guestStuck analyzed stuckPc⟩

end Stops

/-- After any history, on any guest memory and with any answers of the system, a run
is a run of the guest machine: the guest executes the counted instructions and
reaches the state the run leaves, unless no block is executed and the state stays as
it was.  The reason and the next PC tell how the guest goes on.  The called native
blocks make the same of the state wherever it stands in host memory, whatever the
program does between the calls. -/
theorem run_simulates_guestRun (addF32 : BitVec 32 → BitVec 32 → BitVec 32)
    (options : R5900BlockDispatcherOptions) (history : List DispatcherOperation)
    (memory : Ps2MemoryMap) (os : Nat → ExecutablePageOutcome) (startPc : BitVec 32)
    (state : R5900IrExecutionState) (maxBlocks : Nat) :
    let final := (R5900BlockDispatcher.afterHistory addF32 options history).run addF32 memory
      os startPc state maxBlocks
    let requireExecutable := options.blockOptions.requireExecutable
    ∃ reached,
      GuestRun addF32 memory requireExecutable final.result.instructionsExecuted
        (.enter startPc state) reached ∧
      final.state = (if final.result.blocksExecuted = 0 then state else reached.state) ∧
      LeavesGuest addF32 memory requireExecutable reached final.result ∧
      ∀ (base : BitVec 64) (host : HostCode base) (machine : X64.Machine),
        stateAt machine.memory base = state →
          ∃ returned, callBlocks addF32 host (final.called.map Prod.snd) machine =
              some returned ∧
            stateAt returned.memory base = final.state := by
  intro final requireExecutable
  obtain ⟨valid, sameOptions⟩ :=
    R5900BlockDispatcher.afterHistory_valid addF32 options history
  have refines : RefinesInterpreter addF32 memory _ startPc state final :=
    run_refinesInterpreter addF32 _ memory os startPc state maxBlocks valid
  have native : RunsNatively addF32 state final :=
    run_runsNatively addF32 _ memory os startPc state maxBlocks valid
  have lower := refines.lower
  rw [sameOptions] at lower
  obtain ⟨reached, run, reachedState⟩ :=
    guestRun_of_lowers addF32 startPc state lower
  refine ⟨reached, run, ?_, ?_, native.native⟩
  · split
    · next none => exact (refines.unstarted none).2
    · next some =>
        have executed := refines.started some
        rw [reachedState, executed]
  · by_cases positive : maxBlocks = 0
    · have reachedPc : reached.pc = _ := run.pc
      simp only [final, R5900BlockDispatcher.run, if_pos positive,
        R5900BlockDispatcher.startLoop, R5900DispatchResult.stop] at reachedPc ⊢
      refine ⟨fun _ => ?_, ?_, ?_⟩
      · rw [reachedPc, instructionPc_zero]
        rfl
      · rintro (stopped | stopped | stopped) <;> cases stopped
      · intro stopped
        cases stopped
    · obtain ⟨chunk, -, stops⟩ := run_stopsAt addF32 valid state positive
      have leaves : LeavesGuest addF32 memory _ reached final.result :=
        stops.leavesGuest run.pc
      rwa [sameOptions] at leaves

/-- An ADDIU in front of a BREAK. -/
def addiuMemory : Ps2MemoryMap where
  regions := [⟨0x1000, 8, 5⟩]
  backingRegions :=
    [{ metadata := ⟨0x1000, 8, 5⟩
       bytes := [0x01, 0x00, 0x01, 0x24] ++ [0x0D, 0x00, 0x00, 0x00]
       sized := rfl }]
  mirrored := mirrored_singleton

/-- The guest executes the ADDIU, and so does the called block in a cleared host memory. -/
theorem run_simulates_guestRun_addiuMemory :
    let machine : X64.Machine := ⟨fun _ => 0, fun _ => 0, false, fun _ => 0⟩
    let final := (R5900BlockDispatcher.afterHistory (fun lhs _ => lhs) {} [.clearCache]).run
      (fun lhs _ => lhs) addiuMemory (fun _ => .success) 0x1000
      (stateAt machine.memory 0x10000) 4
    (∃ reached, GuestRun (fun lhs _ => lhs) addiuMemory true 1
      (.enter 0x1000 (stateAt machine.memory 0x10000)) reached) ∧
    ∃ returned, callBlocks (fun lhs _ => lhs) (HostCode.passing 0x10000)
        (final.called.map Prod.snd) machine = some returned ∧
      ((stateAt returned.memory 0x10000).gprValue 1).low64 = 1 := by
  intro machine final
  obtain ⟨reached, run, -, -, native⟩ := run_simulates_guestRun (fun lhs _ => lhs) {}
    [.clearCache] addiuMemory (fun _ => .success) 0x1000 (stateAt machine.memory 0x10000) 4
  have count : final.result.instructionsExecuted = 1 := by decide +kernel
  obtain ⟨returned, calls, state⟩ := native 0x10000 (.passing 0x10000) machine rfl
  refine ⟨⟨reached, count ▸ run⟩, returned, calls, ?_⟩
  rw [state]
  decide +kernel

end Burnout3Recompiled
