import Burnout3Recompiled.ExecutablePages
import Burnout3Recompiled.R5900DispatchRun

/-!
# The pages of native blocks

A compiled block owns the page that its code is on: moving the block moves the page,
and releasing it frees the page.  Here the dispatcher runs on the system's pages: its
cache holds addresses, and a call of a block fetches whatever code is on the page.
It computes what the dispatcher with code for blocks computes, and it never touches a
page in a way that faults.
-/

namespace Burnout3Recompiled

open ExecutablePages (Allocator Pages Page Ledger allocate write protect free fetchCode)

/-- `R5900X64CompiledBlock` as it is stored: `code_` and `size_`. -/
structure NativeBlockHandle where
  code : Option Nat := none
  size : Nat := 0
  deriving DecidableEq, Repr

namespace NativeBlockHandle

def valid (block : NativeBlockHandle) : Bool :=
  block.code.isSome && block.size != 0

def release (block : NativeBlockHandle) (pages : Pages) :
    Option (NativeBlockHandle × Pages) :=
  match block.code with
  | none => some (block, pages)
  | some address => (free address pages).map fun pages => ({}, pages)

/-- The destructor. -/
def destroy (block : NativeBlockHandle) (pages : Pages) : Option Pages :=
  (block.release pages).map Prod.snd

/-- The move constructor: the new block and what is left of the other. -/
def moveFrom (other : NativeBlockHandle) : NativeBlockHandle × NativeBlockHandle :=
  (other, {})

/-- The move assignment of another block: the block, and what is left of the other. -/
def moveAssign (block other : NativeBlockHandle) (pages : Pages) :
    Option ((NativeBlockHandle × NativeBlockHandle) × Pages) :=
  (block.release pages).map fun (_, pages) => (moveFrom other, pages)

theorem moveAssign_empty (other : NativeBlockHandle) (pages : Pages) :
    moveAssign {} other pages = some ((other, {}), pages) := rfl

theorem moveAssign_of_live {address size : Nat} {pages : Pages} {page : Page}
    (live : pages.lookup address = some page) (other : NativeBlockHandle) :
    moveAssign ⟨some address, size⟩ other pages =
      some ((other, {}), pages.erase address) := by
  simp only [moveAssign, release, ExecutablePages.free_of_live live, Option.map_some,
    moveFrom]

/-- `execute` calls whatever code is on the page. -/
def execute (addF32 : BitVec 32 → BitVec 32 → BitVec 32) (block : NativeBlockHandle)
    (pages : Pages) (state : R5900IrExecutionState) : Option R5900IrExecutionState := do
  let code ← fetchCode (← block.code) pages
  match X64.run addF32 code (code.length + 1) 0 (callMachine state) with
  | some (_, machine) => return stateAt machine.memory 0
  | none => return state

end NativeBlockHandle

/-- The system's answers to the calls of one compilation. -/
structure PageAnswers where
  outcome : ExecutablePageOutcome
  allocator : Allocator

/-- The end of `compile_r5900_ir_x64`, which moves the code to a page. -/
def publishOnPages (answers : PageAnswers) (bytes : List (BitVec 8)) (pages : Pages) :
    Option (Except R5900X64CompileFailure NativeBlockHandle × Pages) :=
  if answers.outcome = .virtualAllocFails then
    some (.error ⟨.allocationFailed, "VirtualAlloc failed for R5900 x64 block"⟩, pages)
  else do
    let (code, pages) := allocate answers.allocator bytes.length pages
    let pages ← write code bytes pages
    if answers.outcome = .virtualProtectFails then
      let pages ← free code pages
      return (.error ⟨.protectionFailed, "VirtualProtect failed for R5900 x64 block"⟩,
        pages)
    let pages ← protect code pages
    if answers.outcome = .flushInstructionCacheFails then
      let pages ← free code pages
      return (.error ⟨.cacheFlushFailed,
        "FlushInstructionCache failed for R5900 x64 block"⟩, pages)
    return (.ok ⟨some code, bytes.length⟩, pages)

def compileOnPages (answers : PageAnswers) (instructions : List R5900IrInstruction)
    (pages : Pages) : Option (Except R5900X64CompileFailure NativeBlockHandle × Pages) :=
  match validateFrom 0 instructions with
  | .error failure => some (.error failure, pages)
  | .ok () =>
      match emitFrom 0 instructions with
      | .error failure => some (.error failure, pages)
      | .ok body =>
          publishOnPages answers (emitZeroGpr0 ++ body ++ emitZeroGpr0 ++ [0xc3]) pages

section Compiling

variable (answers : PageAnswers) (pages : Pages)

/-- A failing system call leaves the pages as they were, and a successful one adds an
executable page with the code. -/
theorem publishOnPages_eq (bytes : List (BitVec 8)) (nonempty : bytes ≠ []) :
    publishOnPages answers bytes pages =
      some (match publishCode bytes nonempty answers.outcome with
        | .error failure => (.error failure, pages)
        | .ok block =>
            (.ok ⟨some (answers.allocator.place pages), block.code.length⟩,
              pages.insert (answers.allocator.place pages)
                ⟨block.code, .executeRead⟩)) := by
  have unused := answers.allocator.unused pages
  have written : write (answers.allocator.place pages) bytes
      (pages.insert (answers.allocator.place pages)
        ⟨List.replicate bytes.length 0#8, .readWrite⟩) =
      some (pages.insert (answers.allocator.place pages) ⟨bytes, .readWrite⟩) := by
    rw [ExecutablePages.write_of_writable (AList.lookup_insert pages)
      List.length_replicate.symm, AList.insert_insert]
  have sealed : protect (answers.allocator.place pages)
      (pages.insert (answers.allocator.place pages) ⟨bytes, .readWrite⟩) =
      some (pages.insert (answers.allocator.place pages) ⟨bytes, .executeRead⟩) := by
    rw [ExecutablePages.protect_of_live (AList.lookup_insert pages), AList.insert_insert]
  have freed (page : Page) : free (answers.allocator.place pages)
      (pages.insert (answers.allocator.place pages) page) = some pages := by
    rw [ExecutablePages.free_of_live (AList.lookup_insert pages),
      ExecutablePages.erase_insert_of_unused unused]
  unfold publishOnPages
  cases outcome : answers.outcome with
  | success => simp [allocate, written, sealed, publishCode]
  | virtualAllocFails => simp [publishCode]
  | virtualProtectFails => simp [allocate, written, freed, publishCode]
  | flushInstructionCacheFails =>
      simp [allocate, written, sealed, freed, publishCode]

theorem compileOnPages_eq (instructions : List R5900IrInstruction) :
    compileOnPages answers instructions pages =
      some (match compileR5900IrX64 answers.outcome instructions with
        | .error failure => (.error failure, pages)
        | .ok block =>
            (.ok ⟨some (answers.allocator.place pages), block.code.length⟩,
              pages.insert (answers.allocator.place pages)
                ⟨block.code, .executeRead⟩)) := by
  unfold compileOnPages compileR5900IrX64
  cases validateFrom 0 instructions with
  | error failure => rfl
  | ok validated =>
      cases emitFrom 0 instructions with
      | error failure => rfl
      | ok body => exact publishOnPages_eq answers pages _ (by simp)

end Compiling

/-- A `CachedBlock` as it is stored. -/
structure OwnedBlock where
  startPc : BitVec 32 := 0
  endPcExclusive : BitVec 32 := 0
  fingerprint : BitVec 64 := 0
  guestWords : List (BitVec 32) := []
  guestInstructionCount : Nat := 0
  nativeBlock : NativeBlockHandle := {}
  deriving DecidableEq

abbrev OwnedCache := AList fun _ : BitVec 32 => OwnedBlock

def OwnedBlock.exactCacheHit (currentPc : BitVec 32) (guestWords : List (BitVec 32))
    (cached : OwnedBlock) : Bool :=
  decide (cached.startPc = currentPc ∧
    cached.guestInstructionCount = guestWords.length ∧
    cached.fingerprint = fingerprintGuestWords currentPc guestWords ∧
    cached.guestWords = guestWords)

/-- A native block ready to be called, with the blocks that go out of scope after the
call. -/
structure OwnedPreparedBlock where
  nativeBlock : NativeBlockHandle
  cache : OwnedCache
  result : R5900DispatchResult
  temporaries : List NativeBlockHandle := []

/-- The installation of a compiled block: `replacement` takes the page of `compiled`, and
the cache takes it from there.  An entry that is replaced frees its page. -/
def installOnPages (currentPc : BitVec 32) (candidate : DispatchCandidate)
    (compiled : NativeBlockHandle) (cache : OwnedCache) (result : R5900DispatchResult)
    (pages : Pages) : Option (OwnedPreparedBlock × Pages) := do
  let ((native, compiled), pages) ← NativeBlockHandle.moveAssign {} compiled pages
  let ((native, replacement), pages) ←
    match cache.lookup currentPc with
    | none => some (native.moveFrom, pages)
    | some cached => cached.nativeBlock.moveAssign native pages
  return (
    { nativeBlock := native
      cache := cache.insert currentPc
        { startPc := currentPc
          endPcExclusive := currentPc + BitVec.ofNat 32 (candidate.sites.length * 4)
          fingerprint := fingerprintGuestWords currentPc candidate.guestWords
          guestWords := candidate.guestWords
          guestInstructionCount := candidate.guestWords.length
          nativeBlock := native }
      result := result
      temporaries := [replacement, compiled] }, pages)

def compileCandidateOnPages (answers : PageAnswers) (currentPc : BitVec 32)
    (candidate : DispatchCandidate) (cache : OwnedCache) (result : R5900DispatchResult)
    (pages : Pages) : Option (Except R5900DispatchResult OwnedPreparedBlock × Pages) :=
  match lowerSites candidate.sites with
  | .error (pc, message) =>
      some (.error (result.stop
        ⟨.loweringFailure, pc, formatStageError "lowering" pc message⟩), pages)
  | .ok ir => do
      match ← compileOnPages answers ir pages with
      | (.error failure, pages) =>
          return (.error (result.stop ⟨.compileFailure, currentPc,
            formatStageError "x64 compile" currentPc failure.message⟩), pages)
      | (.ok compiled, pages) =>
          let (prepared, pages) ←
            installOnPages currentPc candidate compiled cache result pages
          return (.ok prepared, pages)

def prepareBlockOnPages (answers : PageAnswers) (currentPc : BitVec 32)
    (candidate : DispatchCandidate) (cache : OwnedCache) (result : R5900DispatchResult)
    (pages : Pages) : Option (Except R5900DispatchResult OwnedPreparedBlock × Pages) :=
  match cache.lookup currentPc with
  | none =>
      compileCandidateOnPages answers currentPc candidate cache
        { result with cacheMisses := result.cacheMisses + 1 } pages
  | some cached =>
      if cached.exactCacheHit currentPc candidate.guestWords then
        some (.ok
          { nativeBlock := cached.nativeBlock
            cache := cache
            result := { result with cacheHits := result.cacheHits + 1 } }, pages)
      else
        compileCandidateOnPages answers currentPc candidate cache
          { result with recompilations := result.recompilations + 1 } pages

/-- The variables of the loop, the pages of the process among them. -/
structure PagedLoop where
  result : R5900DispatchResult
  currentPc : BitVec 32
  state : R5900IrExecutionState
  cache : OwnedCache
  pages : Pages

def PagedLoop.afterBlock (maxBlocks : Nat)
    (boundary : Option (R5900DispatchStopReason × BitVec 32)) (loop : PagedLoop) :
    StepOutcome PagedLoop :=
  match boundary with
  | some (reason, boundaryPc) =>
      .stopped { loop with result :=
        { loop.result with reason := reason, nextPc := boundaryPc } }
  | none =>
      if loop.result.blocksExecuted = maxBlocks then
        .stopped { loop with result :=
          { loop.result with reason := .blockBudgetExhausted } }
      else .continues loop

/-- Destroy blocks that go out of scope. -/
def destroyBlocks (blocks : List NativeBlockHandle) (pages : Pages) : Option Pages :=
  blocks.foldlM (fun pages block => block.destroy pages) pages

theorem destroyBlocks_map {ι : Type*} {items : List ι} {block : ι → NativeBlockHandle}
    {address : ι → Nat} (onPage : ∀ item ∈ items, (block item).code = some (address item))
    {pages : Pages} :
    destroyBlocks (items.map block) pages =
      ExecutablePages.freeAll (items.map address) pages := by
  induction items generalizing pages with
  | nil => rfl
  | cons item items ih =>
      have freed : (block item).destroy pages = free (address item) pages := by
        rw [NativeBlockHandle.destroy, NativeBlockHandle.release,
          onPage item List.mem_cons_self, Option.map_map]
        exact congrFun Option.map_id _
      rw [destroyBlocks, ExecutablePages.freeAll, List.map_cons, List.map_cons,
        List.foldlM_cons, List.foldlM_cons, freed]
      refine congrArg _ (funext fun rest => ?_)
      exact ih fun other member => onPage other (List.mem_cons_of_mem _ member)

section Dispatching

variable (addF32 : BitVec 32 → BitVec 32 → BitVec 32) (memory : Ps2MemoryMap)
  (options : R5900BlockDispatcherOptions) (maxBlocks : Nat)

def PagedLoop.execute (loop : PagedLoop) (candidate : DispatchCandidate)
    (prepared : OwnedPreparedBlock) (pages : Pages) : Option PagedLoop := do
  let state ← prepared.nativeBlock.execute addF32 pages loop.state
  let pages ← destroyBlocks prepared.temporaries pages
  let currentPc := loop.currentPc + BitVec.ofNat 32 (candidate.sites.length * 4)
  return {
    result := { prepared.result with
      blocksExecuted := prepared.result.blocksExecuted + 1
      instructionsExecuted :=
        prepared.result.instructionsExecuted + candidate.sites.length
      nextPc := currentPc }
    currentPc := currentPc
    state := state
    cache := prepared.cache
    pages := pages }

/-- One iteration; `none` is a fault. -/
def dispatchBlockOnPages (answers : PageAnswers) (loop : PagedLoop) :
    Option (StepOutcome PagedLoop) :=
  match selectCandidate memory options loop.currentPc with
  | .error stop => some (.stopped { loop with result := loop.result.stop stop })
  | .ok candidate => do
      match ← prepareBlockOnPages answers loop.currentPc candidate loop.cache loop.result
          loop.pages with
      | (.error result, pages) =>
          return .stopped { loop with result := result, pages := pages }
      | (.ok prepared, pages) =>
          let loop ← loop.execute addF32 candidate prepared pages
          return loop.afterBlock maxBlocks candidate.boundary

/-- The loop with `remaining` blocks of its budget left. -/
def dispatchLoopOnPages (answers : Nat → PageAnswers) : Nat → PagedLoop → Option PagedLoop
  | 0, loop => some { loop with result :=
      { loop.result with reason := .blockBudgetExhausted } }
  | remaining + 1, loop => do
      match ← dispatchBlockOnPages addF32 memory options maxBlocks
          (answers loop.result.blocksExecuted) loop with
      | .stopped final => return final
      | .continues next => dispatchLoopOnPages answers remaining next

end Dispatching

/-- A dispatcher whose cache owns pages. -/
structure PagedDispatcher where
  options : R5900BlockDispatcherOptions := {}
  cache : OwnedCache := ∅
  pages : Pages := ∅

namespace PagedDispatcher

variable (addF32 : BitVec 32 → BitVec 32 → BitVec 32)

def run (dispatcher : PagedDispatcher) (memory : Ps2MemoryMap)
    (answers : Nat → PageAnswers) (startPc : BitVec 32) (state : R5900IrExecutionState)
    (maxBlocks : Nat) : Option PagedLoop :=
  let loop : PagedLoop := {
    result := { nextPc := startPc }
    currentPc := startPc
    state := state
    cache := dispatcher.cache
    pages := dispatcher.pages }
  if maxBlocks = 0 then
    some { loop with result := loop.result.stop ⟨.invalidBlockBudget, startPc,
      formatStageError "budget" startPc
        "R5900 dispatcher block budget must be non-zero"⟩ }
  else dispatchLoopOnPages addF32 memory dispatcher.options maxBlocks answers maxBlocks loop

/-- `clear` destroys every entry of the cache. -/
def clearCache (dispatcher : PagedDispatcher) : Option PagedDispatcher :=
  (destroyBlocks (dispatcher.cache.entries.map fun entry => entry.2.nativeBlock)
    dispatcher.pages).map fun pages => { dispatcher with cache := ∅, pages := pages }

/-- The destructor destroys the cache, and with it every entry. -/
def destroy (dispatcher : PagedDispatcher) : Option Pages :=
  dispatcher.clearCache.map PagedDispatcher.pages

end PagedDispatcher

/-- The entry of a block whose code is on the page at `address`. -/
def CachedBlock.onPage (address : Nat) (cached : CachedBlock) : OwnedBlock where
  startPc := cached.startPc
  endPcExclusive := cached.endPcExclusive
  fingerprint := cached.fingerprint
  guestWords := cached.guestWords
  guestInstructionCount := cached.guestInstructionCount
  nativeBlock := ⟨some address, cached.nativeBlock.code.length⟩

/-- Every entry of the cache has a page of its own with the code of its block, and there
are no other pages. -/
structure BacksWith (addressOf : BitVec 32 → Nat) (pages : Pages) (owned : OwnedCache)
    (cache : BlockCache) : Prop where
  entries : ∀ pc, owned.lookup pc = (cache.lookup pc).map (CachedBlock.onPage (addressOf pc))
  ledger : Ledger pages fun pc =>
    (cache.lookup pc).map fun cached => (addressOf pc, cached.nativeBlock.code)

def Backs (pages : Pages) (owned : OwnedCache) (cache : BlockCache) : Prop :=
  ∃ addressOf, BacksWith addressOf pages owned cache

namespace BacksWith

variable {addressOf : BitVec 32 → Nat} {pages : Pages} {owned : OwnedCache}
  {cache : BlockCache} {pc : BitVec 32} {cached : CachedBlock}

theorem lookup (backs : BacksWith addressOf pages owned cache)
    (found : cache.lookup pc = some cached) :
    owned.lookup pc = some (cached.onPage (addressOf pc)) ∧
      pages.lookup (addressOf pc) = some ⟨cached.nativeBlock.code, .executeRead⟩ := by
  constructor
  · rw [backs.entries, found]
    rfl
  · have held : (cache.lookup pc).map
        (fun cached => (addressOf pc, cached.nativeBlock.code)) =
        some (addressOf pc, cached.nativeBlock.code) := by
      rw [found]
      rfl
    exact backs.ledger.executable held

/-- The pages after a block was installed on a new page: the old one is freed. -/
def installed (addressOf : BitVec 32 → Nat) (cache : BlockCache) (pc : BitVec 32)
    (address : Nat) (code : List (BitVec 8)) (pages : Pages) : Pages :=
  match cache.lookup pc with
  | none => pages.insert address ⟨code, .executeRead⟩
  | some _ => (pages.insert address ⟨code, .executeRead⟩).erase (addressOf pc)

theorem insert (backs : BacksWith addressOf pages owned cache) (pc : BitVec 32)
    (cached : CachedBlock) {address : Nat} (unused : pages.lookup address = none) :
    BacksWith (Function.update addressOf pc address)
      (installed addressOf cache pc address cached.nativeBlock.code pages)
      (owned.insert pc (cached.onPage address)) (cache.insert pc cached) where
  entries := by
    intro other
    by_cases same : other = pc
    · subst same
      rw [AList.lookup_insert, AList.lookup_insert, Function.update_self]
      rfl
    · rw [AList.lookup_insert_ne same, AList.lookup_insert_ne same,
        Function.update_of_ne same, backs.entries]
  ledger := by
    have holding : (fun other => ((cache.insert pc cached).lookup other).map fun block =>
        (Function.update addressOf pc address other, block.nativeBlock.code)) =
        Function.update (fun other => (cache.lookup other).map fun block =>
          (addressOf other, block.nativeBlock.code)) pc
          (some (address, cached.nativeBlock.code)) := by
      funext other
      by_cases same : other = pc
      · subst same
        rw [AList.lookup_insert, Function.update_self, Function.update_self]
        rfl
      · rw [AList.lookup_insert_ne same, Function.update_of_ne same,
          Function.update_of_ne same]
    rw [holding, installed]
    cases found : cache.lookup pc with
    | none => exact backs.ledger.publish (by rw [found]; rfl) unused
    | some old =>
        have held : (cache.lookup pc).map
            (fun cached => (addressOf pc, cached.nativeBlock.code)) =
            some (addressOf pc, old.nativeBlock.code) := by
          rw [found]
          rfl
        exact backs.ledger.replace held unused

theorem entry (backs : BacksWith addressOf pages owned cache)
    {item : Sigma fun _ : BitVec 32 => OwnedBlock} (member : item ∈ owned.entries) :
    ∃ cached, cache.lookup item.1 = some cached ∧
      item.2 = cached.onPage (addressOf item.1) := by
  obtain ⟨pc, block⟩ := item
  have found : owned.lookup pc = some block := AList.mem_lookup_iff.mpr member
  rw [backs.entries, Option.map_eq_some_iff] at found
  obtain ⟨cached, known, rfl⟩ := found
  exact ⟨cached, known, rfl⟩

/-- Destroying the entries of the cache leaves no page. -/
theorem destroyBlocks (backs : BacksWith addressOf pages owned cache) :
    Burnout3Recompiled.destroyBlocks
        (owned.entries.map fun entry => entry.2.nativeBlock) pages = some ∅ := by
  have freed := (backs.ledger.freeAll owned.keys_nodup
    (fun pc member => by
      obtain ⟨item, listed, rfl⟩ := List.mem_map.mp member
      obtain ⟨cached, known, -⟩ := backs.entry listed
      exact ⟨_, congrArg (Option.map _) known⟩)
    (fun pc page holds => by
      obtain ⟨cached, known, -⟩ := Option.map_eq_some_iff.mp holds
      rw [← AList.mem_keys, ← AList.lookup_isSome, backs.entries, known]
      rfl)).1
  rw [AList.keys, List.keys, List.map_map] at freed
  rw [← freed]
  refine destroyBlocks_map fun item member => ?_
  obtain ⟨cached, -, same⟩ := backs.entry member
  rw [same]
  rfl

/-- There is one page for each entry. -/
theorem length_pages (backs : BacksWith addressOf pages owned cache) :
    pages.entries.length = cache.entries.length := by
  have count := (backs.ledger.freeAll cache.keys_nodup
    (fun pc member => by
      obtain ⟨cached, known⟩ := Option.isSome_iff_exists.mp
        (AList.lookup_isSome.mpr (AList.mem_keys.mpr member))
      exact ⟨_, congrArg (Option.map _) known⟩)
    (fun pc page holds => by
      obtain ⟨cached, known, -⟩ := Option.map_eq_some_iff.mp holds
      rw [← AList.mem_keys, ← AList.lookup_isSome, known]
      rfl)).2
  exact count.trans (List.length_map _)

end BacksWith

/-- The `replacement` of the source with its code. -/
def replacementBlock (currentPc : BitVec 32) (candidate : DispatchCandidate)
    (nativeBlock : R5900X64CompiledBlock) : CachedBlock where
  startPc := currentPc
  endPcExclusive := currentPc + BitVec.ofNat 32 (candidate.sites.length * 4)
  fingerprint := fingerprintGuestWords currentPc candidate.guestWords
  guestWords := candidate.guestWords
  guestInstructionCount := candidate.guestWords.length
  nativeBlock := nativeBlock

theorem installOnPages_eq {addressOf : BitVec 32 → Nat} {pages : Pages}
    {owned : OwnedCache} {cache : BlockCache}
    (backs : BacksWith addressOf pages owned cache) {currentPc : BitVec 32}
    {candidate : DispatchCandidate} {address : Nat} {nativeBlock : R5900X64CompiledBlock}
    (result : R5900DispatchResult) (unused : pages.lookup address = none) :
    installOnPages currentPc candidate ⟨some address, nativeBlock.code.length⟩ owned result
        (pages.insert address ⟨nativeBlock.code, .executeRead⟩) =
      some (
        { nativeBlock := ⟨some address, nativeBlock.code.length⟩
          cache := owned.insert currentPc
            ((replacementBlock currentPc candidate nativeBlock).onPage address)
          result := result
          temporaries := [{}, {}] },
        BacksWith.installed addressOf cache currentPc address nativeBlock.code pages) := by
  have entry := backs.entries currentPc
  rw [installOnPages, BacksWith.installed]
  cases found : cache.lookup currentPc with
  | none =>
      rw [found] at entry
      rw [entry]
      rfl
  | some old =>
      have live : (pages.insert address ⟨nativeBlock.code, .executeRead⟩).lookup
          (addressOf currentPc) = some ⟨old.nativeBlock.code, .executeRead⟩ := by
        have page := (backs.lookup found).2
        rw [AList.lookup_insert_ne ?_]
        · exact page
        · intro same
          rw [same, unused] at page
          cases page
      rw [found] at entry
      rw [entry]
      simp only [Option.map_some, CachedBlock.onPage, NativeBlockHandle.moveAssign_empty,
        Option.bind_eq_bind, Option.bind_some,
        NativeBlockHandle.moveAssign_of_live live]
      rfl

/-- A prepared block whose code is on a page of the cache. -/
structure ReadyOnPages (prepared : PreparedBlock) (owned : OwnedPreparedBlock)
    (pages : Pages) : Prop where
  result : owned.result = prepared.result
  backs : Backs pages owned.cache prepared.cache
  code : ∃ address, owned.nativeBlock.code = some address ∧
    pages.lookup address = some ⟨prepared.nativeBlock.code, .executeRead⟩
  temporaries : ∀ block ∈ owned.temporaries, block = {}

/-- The preparation on pages comes out like the one without, and touches no page if it
fails. -/
inductive PreparedOnPages (before : Pages) : Except R5900DispatchResult PreparedBlock →
    Except R5900DispatchResult OwnedPreparedBlock × Pages → Prop
  | failed (result : R5900DispatchResult) :
      PreparedOnPages before (.error result) (.error result, before)
  | ready {prepared : PreparedBlock} {owned : OwnedPreparedBlock} {pages : Pages}
      (ready : ReadyOnPages prepared owned pages) :
      PreparedOnPages before (.ok prepared) (.ok owned, pages)

section Iterations

variable {pages : Pages} {owned : OwnedCache} {cache : BlockCache}
  (answers : PageAnswers) (currentPc : BitVec 32) (candidate : DispatchCandidate)
  (result : R5900DispatchResult)

theorem preparedOnPages_compileCandidate (backs : Backs pages owned cache) :
    ∃ prepared, compileCandidateOnPages answers currentPc candidate owned result pages =
        some prepared ∧
      PreparedOnPages pages
        (compileCandidate answers.outcome currentPc candidate cache result) prepared := by
  obtain ⟨addressOf, backs⟩ := backs
  unfold compileCandidateOnPages compileCandidate
  cases lowerSites candidate.sites with
  | error failure => exact ⟨_, rfl, .failed _⟩
  | ok ir =>
      simp only [compileOnPages_eq, Option.bind_eq_bind, Option.bind_some]
      cases compileR5900IrX64 answers.outcome ir with
      | error failure => exact ⟨_, rfl, .failed _⟩
      | ok nativeBlock =>
          have unused := answers.allocator.unused pages
          simp only [installOnPages_eq backs result unused, Option.bind_some]
          have inserted : BacksWith
              (Function.update addressOf currentPc (answers.allocator.place pages))
              (BacksWith.installed addressOf cache currentPc
                (answers.allocator.place pages) nativeBlock.code pages)
              (owned.insert currentPc
                ((replacementBlock currentPc candidate nativeBlock).onPage
                  (answers.allocator.place pages)))
              (cache.insert currentPc (replacementBlock currentPc candidate nativeBlock)) :=
            backs.insert currentPc (replacementBlock currentPc candidate nativeBlock) unused
          have live := (inserted.lookup (AList.lookup_insert cache)).2
          rw [Function.update_self] at live
          exact ⟨_, rfl, .ready ⟨rfl, ⟨_, inserted⟩, ⟨_, rfl, live⟩, by simp⟩⟩

theorem preparedOnPages_prepareBlock (backs : Backs pages owned cache) :
    ∃ prepared, prepareBlockOnPages answers currentPc candidate owned result pages =
        some prepared ∧
      PreparedOnPages pages
        (prepareBlock answers.outcome currentPc candidate cache result) prepared := by
  obtain ⟨addressOf, backing⟩ := backs
  have entry := backing.entries currentPc
  unfold prepareBlockOnPages prepareBlock
  cases found : cache.lookup currentPc with
  | none =>
      rw [found] at entry
      rw [entry]
      exact preparedOnPages_compileCandidate answers currentPc candidate _ ⟨_, backing⟩
  | some cached =>
      obtain ⟨entry, live⟩ := backing.lookup found
      have sameHit : OwnedBlock.exactCacheHit currentPc candidate.guestWords
          (cached.onPage (addressOf currentPc)) =
          exactCacheHit currentPc candidate.guestWords cached := rfl
      simp only [entry, sameHit]
      split
      · exact ⟨_, rfl, .ready ⟨rfl, ⟨_, backing⟩, ⟨_, rfl, live⟩, by simp⟩⟩
      · exact preparedOnPages_compileCandidate answers currentPc candidate _ ⟨_, backing⟩

/-- Blocks without code go out of scope without a trace. -/
theorem destroyBlocks_of_empty {blocks : List NativeBlockHandle}
    (temporaries : ∀ block ∈ blocks, block = {}) (pages : Pages) :
    destroyBlocks blocks pages = some pages := by
  induction blocks with
  | nil => rfl
  | cons block blocks ih =>
      have gone : block.destroy pages = some pages := by
        rw [temporaries block List.mem_cons_self]
        rfl
      rw [destroyBlocks, List.foldlM_cons, gone]
      exact ih fun other member => temporaries other (List.mem_cons_of_mem _ member)

/-- A call runs the code of the block. -/
theorem ReadyOnPages.execute {prepared : PreparedBlock} {owned : OwnedPreparedBlock}
    (ready : ReadyOnPages prepared owned pages)
    (addF32 : BitVec 32 → BitVec 32 → BitVec 32) (state : R5900IrExecutionState) :
    owned.nativeBlock.execute addF32 pages state =
      some (prepared.nativeBlock.execute addF32 state) := by
  obtain ⟨address, code, live⟩ := ready.code
  simp only [NativeBlockHandle.execute, R5900X64CompiledBlock.execute, code,
    Option.bind_eq_bind, Option.bind_some, ExecutablePages.fetchCode_of_executable live]
  generalize X64.run addF32 prepared.nativeBlock.code
    (prepared.nativeBlock.code.length + 1) 0 (callMachine state) = ended
  cases ended with
  | none => rfl
  | some reached => rfl

end Iterations

/-- The loop on pages agrees with the loop without. -/
structure OnPages (loop : DispatchLoop) (paged : PagedLoop) : Prop where
  result : paged.result = loop.result
  currentPc : paged.currentPc = loop.currentPc
  state : paged.state = loop.state
  backs : Backs paged.pages paged.cache loop.cache

section Loop

variable {loop : DispatchLoop} {paged : PagedLoop}
  (addF32 : BitVec 32 → BitVec 32 → BitVec 32) (memory : Ps2MemoryMap)
  (options : R5900BlockDispatcherOptions) (maxBlocks : Nat)

theorem OnPages.of_result (onPages : OnPages loop paged) (result : R5900DispatchResult) :
    OnPages { loop with result := result } { paged with result := result } :=
  ⟨rfl, onPages.currentPc, onPages.state, onPages.backs⟩

theorem OnPages.afterBlock (onPages : OnPages loop paged)
    (boundary : Option (R5900DispatchStopReason × BitVec 32)) :
    (Burnout3Recompiled.afterBlock maxBlocks boundary loop).Related OnPages
      (paged.afterBlock maxBlocks boundary) := by
  unfold Burnout3Recompiled.afterBlock PagedLoop.afterBlock
  rw [onPages.result]
  cases boundary with
  | some stop => exact .stopped (onPages.of_result _)
  | none =>
      by_cases spent : loop.result.blocksExecuted = maxBlocks
      · simp only [if_pos spent]
        exact .stopped (onPages.of_result _)
      · simp only [if_neg spent]
        exact .continues onPages

/-- An iteration on pages does not fault and does what the iteration without does. -/
theorem OnPages.dispatchBlock (onPages : OnPages loop paged) (answers : PageAnswers) :
    ∃ outcome, dispatchBlockOnPages addF32 memory options maxBlocks answers paged =
        some outcome ∧
      (Burnout3Recompiled.dispatchBlock addF32 memory options maxBlocks answers.outcome
        loop).Related OnPages outcome := by
  unfold dispatchBlockOnPages Burnout3Recompiled.dispatchBlock dispatchCandidate
  rw [onPages.currentPc, onPages.result]
  cases selectCandidate memory options loop.currentPc with
  | error stop => exact ⟨_, rfl, .stopped ⟨rfl, rfl, onPages.state, onPages.backs⟩⟩
  | ok candidate =>
      obtain ⟨prepared, preparation, comesOut⟩ := preparedOnPages_prepareBlock answers
        loop.currentPc candidate loop.result onPages.backs
      simp only [preparation, Option.bind_eq_bind, Option.bind_some]
      generalize prepareBlock answers.outcome loop.currentPc candidate loop.cache
        loop.result = plain at comesOut ⊢
      cases comesOut with
      | failed result => exact ⟨_, rfl, .stopped ⟨rfl, rfl, onPages.state, onPages.backs⟩⟩
      | @ready plain owned pages ready =>
          have executes : paged.execute addF32 candidate owned pages =
              some
                { result := (loop.execute addF32 candidate plain).result
                  currentPc := (loop.execute addF32 candidate plain).currentPc
                  state := (loop.execute addF32 candidate plain).state
                  cache := owned.cache
                  pages := pages } := by
            simp only [PagedLoop.execute, ready.execute, onPages.state, Option.bind_eq_bind,
              Option.bind_some, destroyBlocks_of_empty ready.temporaries, ready.result,
              onPages.currentPc]
            rfl
          have ran : OnPages (loop.execute addF32 candidate plain)
              { result := (loop.execute addF32 candidate plain).result
                currentPc := (loop.execute addF32 candidate plain).currentPc
                state := (loop.execute addF32 candidate plain).state
                cache := owned.cache
                pages := pages } :=
            ⟨rfl, rfl, rfl, ready.backs⟩
          simp only [executes, Option.bind_some]
          exact ⟨_, rfl, ran.afterBlock maxBlocks candidate.boundary⟩

theorem OnPages.dispatchLoop (onPages : OnPages loop paged) (answers : Nat → PageAnswers)
    {remaining : Nat} (budget : loop.result.blocksExecuted + remaining = maxBlocks) :
    ∃ final, dispatchLoopOnPages addF32 memory options maxBlocks answers remaining paged =
        some final ∧
      OnPages (Burnout3Recompiled.dispatchLoop addF32 memory options maxBlocks
        (fun block => (answers block).outcome) loop) final := by
  induction remaining generalizing loop paged with
  | zero =>
      rw [Burnout3Recompiled.dispatchLoop, if_neg (by omega), dispatchLoopOnPages,
        onPages.result]
      exact ⟨_, rfl, onPages.of_result _⟩
  | succ remaining ih =>
      obtain ⟨outcome, block, related⟩ := onPages.dispatchBlock addF32 memory options
        maxBlocks (answers loop.result.blocksExecuted)
      rw [Burnout3Recompiled.dispatchLoop, if_pos (by omega), dispatchLoopOnPages,
        onPages.result, block, Option.bind_eq_bind, Option.bind_some]
      generalize plain : Burnout3Recompiled.dispatchBlock addF32 memory options maxBlocks
        (answers loop.result.blocksExecuted).outcome loop = step at related ⊢
      cases related with
      | stopped related => exact ⟨_, rfl, related⟩
      | continues related =>
          have progress := (dispatchBlock_continues plain).1
          exact ih related (by omega)

end Loop

/-- An operation on a dispatcher, with the places of the pages it asks for. -/
abbrev PagedOperation := DispatcherOperation × (Nat → Allocator)

namespace PagedDispatcher

variable (addF32 : BitVec 32 → BitVec 32 → BitVec 32)

def perform (dispatcher : PagedDispatcher) : PagedOperation → Option PagedDispatcher
  | (.run memory os startPc state maxBlocks, allocators) =>
      (dispatcher.run addF32 memory (fun block => ⟨os block, allocators block⟩) startPc state
        maxBlocks).map fun ran => { dispatcher with cache := ran.cache, pages := ran.pages }
  | (.clearCache, _) => dispatcher.clearCache

/-- A dispatcher in a process without pages, after a sequence of operations. -/
def afterHistory (options : R5900BlockDispatcherOptions) (history : List PagedOperation) :
    Option PagedDispatcher :=
  history.foldlM (perform addF32) { options := options }

end PagedDispatcher

/-- The dispatcher on pages agrees with the one without. -/
structure DispatcherOnPages (dispatcher : R5900BlockDispatcher) (paged : PagedDispatcher) :
    Prop where
  options : paged.options = dispatcher.options
  backs : Backs paged.pages paged.cache dispatcher.cache

namespace DispatcherOnPages

variable {dispatcher : R5900BlockDispatcher} {paged : PagedDispatcher}
  (addF32 : BitVec 32 → BitVec 32 → BitVec 32)

theorem run (onPages : DispatcherOnPages dispatcher paged) (memory : Ps2MemoryMap)
    (answers : Nat → PageAnswers) (startPc : BitVec 32) (state : R5900IrExecutionState)
    (maxBlocks : Nat) :
    ∃ final, paged.run addF32 memory answers startPc state maxBlocks = some final ∧
      OnPages (dispatcher.run addF32 memory (fun block => (answers block).outcome) startPc
        state maxBlocks) final := by
  unfold PagedDispatcher.run R5900BlockDispatcher.run
  by_cases positive : maxBlocks = 0
  · simp only [if_pos positive]
    exact ⟨_, rfl, rfl, rfl, rfl, onPages.backs⟩
  · simp only [if_neg positive, onPages.options]
    have start : OnPages (dispatcher.startLoop startPc state)
        { result := { nextPc := startPc }
          currentPc := startPc
          state := state
          cache := paged.cache
          pages := paged.pages } :=
      ⟨rfl, rfl, rfl, onPages.backs⟩
    exact start.dispatchLoop addF32 memory dispatcher.options maxBlocks answers
      (Nat.zero_add maxBlocks)

/-- Clearing the cache goes through and leaves no page. -/
theorem clearCache (onPages : DispatcherOnPages dispatcher paged) :
    paged.clearCache = some { paged with cache := ∅, pages := ∅ } ∧
      DispatcherOnPages dispatcher.clearCache { paged with cache := ∅, pages := ∅ } := by
  obtain ⟨addressOf, backs⟩ := onPages.backs
  refine ⟨?_, onPages.options, addressOf, fun pc => rfl, Ledger.empty⟩
  rw [PagedDispatcher.clearCache, backs.destroyBlocks]
  rfl

theorem perform (onPages : DispatcherOnPages dispatcher paged) (operation : PagedOperation) :
    ∃ next, paged.perform addF32 operation = some next ∧
      DispatcherOnPages (dispatcher.perform addF32 operation.1) next := by
  obtain ⟨operation, allocators⟩ := operation
  cases operation with
  | run memory os startPc state maxBlocks =>
      obtain ⟨final, ran, agrees⟩ := onPages.run addF32 memory
        (fun block => ⟨os block, allocators block⟩) startPc state maxBlocks
      rw [PagedDispatcher.perform, ran]
      exact ⟨_, rfl, onPages.options, agrees.backs⟩
  | clearCache => exact ⟨_, onPages.clearCache⟩

theorem performAll (onPages : DispatcherOnPages dispatcher paged)
    (history : List PagedOperation) :
    ∃ next, history.foldlM (PagedDispatcher.perform addF32) paged = some next ∧
      DispatcherOnPages
        ((history.map Prod.fst).foldl (R5900BlockDispatcher.perform addF32) dispatcher)
        next := by
  induction history generalizing dispatcher paged with
  | nil => exact ⟨paged, rfl, onPages⟩
  | cons operation history ih =>
      obtain ⟨next, performed, agrees⟩ := onPages.perform addF32 operation
      rw [List.foldlM_cons, performed]
      exact ih agrees

end DispatcherOnPages

/-- What the pages of a process look like to its only dispatcher: it runs like the
dispatcher without pages, every entry of the cache has exactly one page, the page is
executable and not writable, and destroying the dispatcher frees all of them. -/
structure KeepsItsPages (addF32 : BitVec 32 → BitVec 32 → BitVec 32)
    (dispatcher : R5900BlockDispatcher) (paged : PagedDispatcher) : Prop where
  runs : ∀ memory answers startPc state maxBlocks, ∃ ran,
    paged.run addF32 memory answers startPc state maxBlocks = some ran ∧
      ran.result = (dispatcher.run addF32 memory (fun block => (answers block).outcome)
        startPc state maxBlocks).result ∧
      ran.state = (dispatcher.run addF32 memory (fun block => (answers block).outcome)
        startPc state maxBlocks).state
  pages : paged.pages.entries.length = dispatcher.cacheSize
  protection : ∀ address page, paged.pages.lookup address = some page →
    page.protection = .executeRead
  destroys : paged.destroy = some ∅

/-- Whatever was run before, on whatever guest memory and with whatever answers of the
system, no page was touched in a way that faults, and none is lost. -/
theorem dispatcher_keepsItsPages (addF32 : BitVec 32 → BitVec 32 → BitVec 32)
    (options : R5900BlockDispatcherOptions) (history : List PagedOperation) :
    ∃ paged, PagedDispatcher.afterHistory addF32 options history = some paged ∧
      KeepsItsPages addF32
        (R5900BlockDispatcher.afterHistory addF32 options (history.map Prod.fst)) paged := by
  have fresh : DispatcherOnPages { options := options } { options := options } :=
    ⟨rfl, fun _ => 0, fun pc => rfl, Ledger.empty⟩
  obtain ⟨paged, performed, onPages⟩ := fresh.performAll addF32 history
  refine ⟨paged, performed, ?_, ?_, ?_, ?_⟩
  · intro memory answers startPc state maxBlocks
    obtain ⟨ran, goesThrough, agrees⟩ := onPages.run addF32 memory answers startPc state
      maxBlocks
    exact ⟨ran, goesThrough, agrees.result, agrees.state⟩
  · obtain ⟨addressOf, backs⟩ := onPages.backs
    exact backs.length_pages
  · obtain ⟨addressOf, backs⟩ := onPages.backs
    exact fun address page found => backs.ledger.protection found
  · rw [PagedDispatcher.destroy, onPages.clearCache.1]
    rfl

/-- An instruction in front of a BREAK. -/
def instructionMemory (byte0 byte1 byte2 byte3 : BitVec 8) : Ps2MemoryMap where
  regions := [⟨0x1000, 8, 5⟩]
  backingRegions :=
    [{ metadata := ⟨0x1000, 8, 5⟩
       bytes := [byte0, byte1, byte2, byte3] ++ [0x0D, 0x00, 0x00, 0x00]
       sized := rfl }]
  mirrored := mirrored_singleton

/-- A NOP is compiled, replaced by an ADDIU at its place, and cleared away before the ADDIU is
compiled again. -/
theorem dispatcher_keepsItsPages_instructionMemory :
    let nop := instructionMemory 0x00 0x00 0x00 0x00
    let addiu := instructionMemory 0x01 0x00 0x01 0x24
    let runs (memory : Ps2MemoryMap) : DispatcherOperation :=
      .run memory (fun _ => .success) 0x1000 {} 1
    let history : List PagedOperation :=
      [runs nop, runs addiu, .clearCache, runs addiu].map (·, fun _ => .behind)
    ((R5900BlockDispatcher.afterHistory (fun lhs _ => lhs) {} [runs nop]).run
      (fun lhs _ => lhs) addiu (fun _ => .success) 0x1000 {} 1).result.recompilations = 1 ∧
    ∃ paged, PagedDispatcher.afterHistory (fun lhs _ => lhs) {} history = some paged ∧
      paged.pages.entries.length = 1 ∧ paged.destroy = some ∅ := by
  intro nop addiu runs history
  obtain ⟨paged, performed, keeps⟩ :=
    dispatcher_keepsItsPages (fun lhs _ => lhs) {} history
  have cached : (R5900BlockDispatcher.afterHistory (fun lhs _ => lhs) {}
      (history.map Prod.fst)).cacheSize = 1 := by
    decide +kernel
  exact ⟨by decide +kernel, paged, performed, keeps.pages.trans cached, keeps.destroys⟩

end Burnout3Recompiled
