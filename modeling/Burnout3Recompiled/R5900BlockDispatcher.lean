import Burnout3Recompiled.HexText
import Burnout3Recompiled.R5900ControlFlow
import Burnout3Recompiled.R5900X64Backend
import Burnout3Recompiled.StoppingLoop
import Mathlib.Data.List.AList

/-!
# The block dispatcher

The dispatcher runs straight-line guest code in native blocks.  It analyses the
block at the current PC, keeps the leading instructions it supports, finds or
compiles their native block, calls it and moves the PC behind them.  Guest
memory is passed to every run, since it may be written between runs.
-/

namespace Burnout3Recompiled

inductive R5900DispatchStopReason where
  | blockBudgetExhausted | controlFlow | unsupportedInstruction | trap
  | invalidBlockBudget | analysisFailure | loweringFailure | compileFailure
  deriving DecidableEq, Repr

structure R5900DispatchResult where
  reason : R5900DispatchStopReason := .analysisFailure
  nextPc : BitVec 32 := 0
  blocksExecuted : Nat := 0
  instructionsExecuted : Nat := 0
  cacheHits : Nat := 0
  cacheMisses : Nat := 0
  recompilations : Nat := 0
  message : String := ""
  deriving DecidableEq, Repr

structure R5900BlockDispatcherOptions where
  blockOptions : R5900ControlFlowOptions := {}
  deriving DecidableEq, Repr

structure CachedBlock where
  startPc : BitVec 32
  endPcExclusive : BitVec 32
  fingerprint : BitVec 64
  guestWords : List (BitVec 32)
  guestInstructionCount : Nat
  nativeBlock : R5900X64CompiledBlock
  deriving DecidableEq

/-- The `unordered_map` of the dispatcher. -/
abbrev BlockCache := AList fun _ : BitVec 32 => CachedBlock

structure R5900BlockDispatcher where
  options : R5900BlockDispatcherOptions := {}
  cache : BlockCache := ∅

def formatStageError (stage : String) (pc : BitVec 32) (detail : String) : String :=
  stage ++ " at guest PC 0x" ++ HexText.hexPadded 8 pc.toNat ++ ": " ++ detail

def isDispatcherV0Eligible : R5900Instruction → Bool
  | .nop | .addu | .addiu | .ori | .andi | .lui | .mthi | .mtlo | .mthi1 | .mtlo1
  | .mtsah | .padduw | .mtc1 | .ctc1 | .addaS | .sync => true
  | _ => false

def fnvOffset : BitVec 64 := 14695981039346656037

def fnvPrime : BitVec 64 := 1099511628211

def fnvByte (hash : BitVec 64) (byte : BitVec 8) : BitVec 64 :=
  (hash ^^^ byte.setWidth 64) * fnvPrime

def fnvU32Le (hash : BitVec 64) (value : BitVec 32) : BitVec 64 :=
  [0, 8, 16, 24].foldl
    (fun hash shift => fnvByte hash (((value >>> (shift : Nat)) &&& 0xFF).setWidth 8)) hash

def fnvU64Le (hash : BitVec 64) (value : BitVec 64) : BitVec 64 :=
  [0, 8, 16, 24, 32, 40, 48, 56].foldl
    (fun hash shift => fnvByte hash (((value >>> (shift : Nat)) &&& 0xFF).setWidth 8)) hash

def fingerprintGuestWords (startPc : BitVec 32) (words : List (BitVec 32)) : BitVec 64 :=
  words.foldl fnvU32Le
    (fnvU64Le (fnvU32Le fnvOffset startPc) (BitVec.ofNat 64 words.length))

/-- The leading sites the dispatcher supports, and the site that stops it. -/
structure SupportedSites where
  sites : List R5900InstructionSite := []
  boundary : Option (R5900DispatchStopReason × BitVec 32) := none
  deriving DecidableEq, Repr

def selectSupportedSites : List R5900InstructionSite → SupportedSites
  | [] => {}
  | site :: rest =>
      if site.decoded.isBranch || site.decoded.isJump then
        { boundary := some (.controlFlow, site.pc) }
      else if site.decoded.instructionClass = .system then
        { boundary := some (.trap, site.pc) }
      else if !isDispatcherV0Eligible site.decoded.instruction then
        { boundary := some (.unsupportedInstruction, site.pc) }
      else
        let selected := selectSupportedSites rest
        { selected with sites := site :: selected.sites }

/-- The words of the selected sites, or the PC that cannot be read. -/
def readGuestWords (memory : Ps2MemoryMap) :
    List R5900InstructionSite → Except (BitVec 32) (List (BitVec 32))
  | [] => .ok []
  | site :: rest =>
      match memory.readU32 site.pc with
      | none => .error site.pc
      | some word => (readGuestWords memory rest).map (word :: ·)

structure DispatchCandidate where
  sites : List R5900InstructionSite
  guestWords : List (BitVec 32)
  boundary : Option (R5900DispatchStopReason × BitVec 32)
  deriving DecidableEq, Repr

/-- The three fields of the result that a stop writes. -/
structure DispatchStop where
  reason : R5900DispatchStopReason
  nextPc : BitVec 32
  message : String := ""
  deriving DecidableEq, Repr

/-- From the analysis to the words of the candidate. -/
def selectCandidate (memory : Ps2MemoryMap) (options : R5900BlockDispatcherOptions)
    (currentPc : BitVec 32) : Except DispatchStop DispatchCandidate :=
  match analyzeR5900BasicBlock memory currentPc options.blockOptions with
  | .error failure =>
      .error ⟨.analysisFailure, currentPc,
        formatStageError "analysis" currentPc failure.message⟩
  | .ok block =>
      let selected := selectSupportedSites block.instructions
      if selected.sites.isEmpty then
        match selected.boundary with
        | some (reason, boundaryPc) => .error { reason := reason, nextPc := boundaryPc }
        | none =>
            .error ⟨.unsupportedInstruction, currentPc,
              formatStageError "dispatch" currentPc
                "analyzed block has no v0-executable instruction prefix"⟩
      else
        match readGuestWords memory selected.sites with
        | .error pc =>
            .error ⟨.analysisFailure, pc,
              formatStageError "analysis" pc "selected guest instruction became unreadable"⟩
        | .ok guestWords => .ok ⟨selected.sites, guestWords, selected.boundary⟩

/-- The IR of the selected sites, or the first site that cannot be lowered. -/
def lowerSites :
    List R5900InstructionSite → Except (BitVec 32 × String) (List R5900IrInstruction)
  | [] => .ok []
  | site :: rest =>
      let lowered := lowerR5900Instruction site.decoded site.pc
      if lowered.ok then (lowerSites rest).map (lowered.instructions ++ ·)
      else .error (site.pc, lowered.message)

def exactCacheHit (currentPc : BitVec 32) (guestWords : List (BitVec 32))
    (cached : CachedBlock) : Bool :=
  decide (cached.startPc = currentPc ∧
    cached.guestInstructionCount = guestWords.length ∧
    cached.fingerprint = fingerprintGuestWords currentPc guestWords ∧
    cached.guestWords = guestWords)

/-- A native block ready to be called, with the cache that now holds it. -/
structure PreparedBlock where
  nativeBlock : R5900X64CompiledBlock
  cache : BlockCache
  result : R5900DispatchResult

def R5900DispatchResult.stop (result : R5900DispatchResult) (stop : DispatchStop) :
    R5900DispatchResult :=
  { result with
    reason := stop.reason
    nextPc := stop.nextPc
    message := stop.message }

/-- Lowering, compilation and installation.  Nothing is cached before the
compilation has succeeded. -/
def compileCandidate (os : ExecutablePageOutcome) (currentPc : BitVec 32)
    (candidate : DispatchCandidate) (cache : BlockCache) (result : R5900DispatchResult) :
    Except R5900DispatchResult PreparedBlock :=
  match lowerSites candidate.sites with
  | .error (pc, message) =>
      .error (result.stop ⟨.loweringFailure, pc, formatStageError "lowering" pc message⟩)
  | .ok ir =>
      match compileR5900IrX64 os ir with
      | .error failure =>
          .error (result.stop ⟨.compileFailure, currentPc,
            formatStageError "x64 compile" currentPc failure.message⟩)
      | .ok nativeBlock =>
          .ok
            { nativeBlock := nativeBlock
              cache := cache.insert currentPc
                { startPc := currentPc
                  endPcExclusive :=
                    currentPc + BitVec.ofNat 32 (candidate.sites.length * 4)
                  fingerprint := fingerprintGuestWords currentPc candidate.guestWords
                  guestWords := candidate.guestWords
                  guestInstructionCount := candidate.guestWords.length
                  nativeBlock := nativeBlock }
              result := result }

def prepareBlock (os : ExecutablePageOutcome) (currentPc : BitVec 32)
    (candidate : DispatchCandidate) (cache : BlockCache) (result : R5900DispatchResult) :
    Except R5900DispatchResult PreparedBlock :=
  match cache.lookup currentPc with
  | none =>
      compileCandidate os currentPc candidate cache
        { result with cacheMisses := result.cacheMisses + 1 }
  | some cached =>
      if exactCacheHit currentPc candidate.guestWords cached then
        .ok
          { nativeBlock := cached.nativeBlock
            cache := cache
            result := { result with cacheHits := result.cacheHits + 1 } }
      else
        compileCandidate os currentPc candidate cache
          { result with recompilations := result.recompilations + 1 }

/-- The variables of the loop.  The list of called blocks with their start PCs is
a ghost: nothing reads it. -/
structure DispatchLoop where
  result : R5900DispatchResult
  currentPc : BitVec 32
  state : R5900IrExecutionState
  cache : BlockCache
  called : List (BitVec 32 × R5900X64CompiledBlock) := []

abbrev DispatchOutcome := StepOutcome DispatchLoop

/-- The call of the native block and the accounting after it. -/
def DispatchLoop.execute (addF32 : BitVec 32 → BitVec 32 → BitVec 32)
    (loop : DispatchLoop) (candidate : DispatchCandidate) (prepared : PreparedBlock) :
    DispatchLoop :=
  let currentPc := loop.currentPc + BitVec.ofNat 32 (candidate.sites.length * 4)
  { result := { prepared.result with
      blocksExecuted := prepared.result.blocksExecuted + 1
      instructionsExecuted :=
        prepared.result.instructionsExecuted + candidate.sites.length
      nextPc := currentPc }
    currentPc := currentPc
    state := prepared.nativeBlock.execute addF32 loop.state
    cache := prepared.cache
    called := loop.called ++ [(loop.currentPc, prepared.nativeBlock)] }

/-- The two ways a run ends right after a block. -/
def afterBlock (maxBlocks : Nat)
    (boundary : Option (R5900DispatchStopReason × BitVec 32)) (loop : DispatchLoop) :
    DispatchOutcome :=
  match boundary with
  | some (reason, boundaryPc) =>
      .stopped { loop with result :=
        { loop.result with reason := reason, nextPc := boundaryPc } }
  | none =>
      if loop.result.blocksExecuted = maxBlocks then
        .stopped { loop with result :=
          { loop.result with reason := .blockBudgetExhausted } }
      else .continues loop

/-- The part of an iteration after the selection. -/
def dispatchCandidate (addF32 : BitVec 32 → BitVec 32 → BitVec 32) (maxBlocks : Nat)
    (os : ExecutablePageOutcome) (loop : DispatchLoop) (candidate : DispatchCandidate) :
    DispatchOutcome :=
  match prepareBlock os loop.currentPc candidate loop.cache loop.result with
  | .error result => .stopped { loop with result := result }
  | .ok prepared =>
      afterBlock maxBlocks candidate.boundary (loop.execute addF32 candidate prepared)

/-- One iteration. -/
def dispatchBlock (addF32 : BitVec 32 → BitVec 32 → BitVec 32) (memory : Ps2MemoryMap)
    (options : R5900BlockDispatcherOptions) (maxBlocks : Nat)
    (os : ExecutablePageOutcome) (loop : DispatchLoop) : DispatchOutcome :=
  match selectCandidate memory options loop.currentPc with
  | .error stop => .stopped { loop with result := loop.result.stop stop }
  | .ok candidate => dispatchCandidate addF32 maxBlocks os loop candidate

theorem compileCandidate_result {os : ExecutablePageOutcome}
    {currentPc : BitVec 32} {candidate : DispatchCandidate} {cache : BlockCache}
    {result : R5900DispatchResult} {prepared : PreparedBlock}
    (compiled : compileCandidate os currentPc candidate cache result = .ok prepared) :
    prepared.result = result := by
  unfold compileCandidate at compiled
  split at compiled
  · cases compiled
  · split at compiled
    · cases compiled
    · obtain rfl := Except.ok.inj compiled
      rfl

theorem prepareBlock_blocksExecuted {os : ExecutablePageOutcome}
    {currentPc : BitVec 32} {candidate : DispatchCandidate} {cache : BlockCache}
    {result : R5900DispatchResult} {prepared : PreparedBlock}
    (ready : prepareBlock os currentPc candidate cache result = .ok prepared) :
    prepared.result.blocksExecuted = result.blocksExecuted := by
  unfold prepareBlock at ready
  split at ready
  · rw [compileCandidate_result ready]
  · split at ready
    · obtain rfl := Except.ok.inj ready
      rfl
    · rw [compileCandidate_result ready]

theorem afterBlock_continues {maxBlocks : Nat}
    {boundary : Option (R5900DispatchStopReason × BitVec 32)} {loop next : DispatchLoop}
    (continues : afterBlock maxBlocks boundary loop = .continues next) :
    next = loop ∧ boundary = none ∧ loop.result.blocksExecuted ≠ maxBlocks := by
  unfold afterBlock at continues
  split at continues
  · cases continues
  · split at continues
    · cases continues
    · next left =>
        exact ⟨(StepOutcome.continues.inj continues).symm, rfl, left⟩

/-- Every iteration that continues has executed one more block and has budget
left. -/
theorem dispatchBlock_continues {addF32 : BitVec 32 → BitVec 32 → BitVec 32}
    {memory : Ps2MemoryMap} {options : R5900BlockDispatcherOptions} {maxBlocks : Nat}
    {os : ExecutablePageOutcome} {loop next : DispatchLoop}
    (continues : dispatchBlock addF32 memory options maxBlocks os loop = .continues next) :
    next.result.blocksExecuted = loop.result.blocksExecuted + 1 ∧
      next.result.blocksExecuted ≠ maxBlocks := by
  unfold dispatchBlock dispatchCandidate at continues
  split at continues
  · cases continues
  · split at continues
    · cases continues
    · next ready =>
        obtain ⟨rfl, -, left⟩ := afterBlock_continues continues
        exact ⟨congrArg (· + 1) (prepareBlock_blocksExecuted ready), left⟩

/-- The loop of a run.  `os` answers the system calls of each iteration. -/
def dispatchLoop (addF32 : BitVec 32 → BitVec 32 → BitVec 32) (memory : Ps2MemoryMap)
    (options : R5900BlockDispatcherOptions) (maxBlocks : Nat)
    (os : Nat → ExecutablePageOutcome) (loop : DispatchLoop) : DispatchLoop :=
  if loop.result.blocksExecuted < maxBlocks then
    match _outcome : dispatchBlock addF32 memory options maxBlocks
        (os loop.result.blocksExecuted) loop with
    | .stopped final => final
    | .continues next => dispatchLoop addF32 memory options maxBlocks os next
  else
    { loop with result := { loop.result with reason := .blockBudgetExhausted } }
termination_by maxBlocks - loop.result.blocksExecuted
decreasing_by
  have progress := (dispatchBlock_continues _outcome).1
  omega

namespace R5900BlockDispatcher

def startLoop (dispatcher : R5900BlockDispatcher) (startPc : BitVec 32)
    (state : R5900IrExecutionState) : DispatchLoop where
  result := { nextPc := startPc }
  currentPc := startPc
  state := state
  cache := dispatcher.cache

/-- The result, the execution state and the cache after a run. -/
def run (addF32 : BitVec 32 → BitVec 32 → BitVec 32) (dispatcher : R5900BlockDispatcher)
    (memory : Ps2MemoryMap) (os : Nat → ExecutablePageOutcome) (startPc : BitVec 32)
    (state : R5900IrExecutionState) (maxBlocks : Nat) : DispatchLoop :=
  let loop := dispatcher.startLoop startPc state
  if maxBlocks = 0 then
    { loop with result := loop.result.stop ⟨.invalidBlockBudget, startPc,
        formatStageError "budget" startPc
          "R5900 dispatcher block budget must be non-zero"⟩ }
  else dispatchLoop addF32 memory dispatcher.options maxBlocks os loop

def clearCache (dispatcher : R5900BlockDispatcher) : R5900BlockDispatcher :=
  { dispatcher with cache := ∅ }

def cacheSize (dispatcher : R5900BlockDispatcher) : Nat :=
  dispatcher.cache.entries.length

end R5900BlockDispatcher

end Burnout3Recompiled
