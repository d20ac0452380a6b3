import Burnout3Recompiled.R5900IrExecutor

/-!
# Composition of interpreter runs

On validated programs the interpreter is a left fold of instruction effects
over a state whose GPR zero is clear.  No effect writes GPR zero, so clearing
it again between two programs changes nothing and runs compose.
-/

namespace Burnout3Recompiled

namespace R5900IrExecutionState

/-- GPR zero reads as zero. -/
def ZeroNormalized (state : R5900IrExecutionState) : Prop :=
  state.gprValue 0 = {}

theorem gprValue_setGpr_ne {state : R5900IrExecutionState}
    {target index : BitVec 8} {value : R5900IrGprValue} (different : target ≠ index) :
    (state.setGpr target value).gprValue index = state.gprValue index := by
  have indexNe : target.toNat ≠ index.toNat := fun equal =>
    different (BitVec.eq_of_toNat_eq equal)
  simp [gprValue, setGpr, indexNe]

theorem gprValue_setGpr_self {state : R5900IrExecutionState} {index : BitVec 8}
    {value : R5900IrGprValue} (inRange : index < 32) :
    (state.setGpr index value).gprValue index = value := by
  have bound : index.toNat < 32 := inRange
  simp [gprValue, setGpr, bound]

theorem setGpr_setGpr (state : R5900IrExecutionState) (index : BitVec 8)
    (first second : R5900IrGprValue) :
    (state.setGpr index first).setGpr index second = state.setGpr index second := by
  simp [setGpr]

theorem setGpr_gprValue_self {state : R5900IrExecutionState} {index : BitVec 8}
    (inRange : index < 32) : state.setGpr index (state.gprValue index) = state := by
  have bound : index.toNat < 32 := inRange
  have unchanged : state.gpr.setIfInBounds index.toNat state.gpr[index.toNat] =
      state.gpr := by
    ext1 register inside
    rw [Vector.getElem_setIfInBounds]
    split
    · next same => simp only [same]
    · rfl
  simp only [setGpr, gprValue, Vector.getElem?_eq_getElem bound, Option.getD_some,
    unchanged]

theorem zeroNormalized_normalizeZero (state : R5900IrExecutionState) :
    state.normalizeZero.ZeroNormalized := by
  simp [ZeroNormalized, normalizeZero, gprValue]

theorem normalizeZero_eq_self {state : R5900IrExecutionState}
    (normalized : state.ZeroNormalized) : state.normalizeZero = state := by
  have zeroRegister : state.gpr[0] = {} := by
    simpa [ZeroNormalized, gprValue] using normalized
  have unchanged : state.gpr.set 0 {} = state.gpr := by
    rw [← zeroRegister]
    exact Vector.set_getElem_self _
  simp only [normalizeZero, unchanged]

@[simp]
theorem normalizeZero_normalizeZero (state : R5900IrExecutionState) :
    state.normalizeZero.normalizeZero = state.normalizeZero :=
  normalizeZero_eq_self (zeroNormalized_normalizeZero state)

theorem ZeroNormalized.writeFull128 {state : R5900IrExecutionState}
    (normalized : state.ZeroNormalized) (rd : BitVec 8) (value : R5900IrGprValue) :
    (state.writeFull128 rd value).ZeroNormalized := by
  unfold R5900IrExecutionState.writeFull128
  split
  · exact normalized
  · next written =>
      exact (gprValue_setGpr_ne written).trans normalized

theorem ZeroNormalized.writeLow64 {state : R5900IrExecutionState}
    (normalized : state.ZeroNormalized) (rd : BitVec 8) (value : BitVec 64) :
    (state.writeLow64 rd value).ZeroNormalized :=
  normalized.writeFull128 rd _

theorem ZeroNormalized.setHilo {state : R5900IrExecutionState}
    (normalized : state.ZeroNormalized) (kind : R5900IrDestinationKind)
    (value : BitVec 64) : (state.setHilo kind value).ZeroNormalized := by
  cases kind <;> exact normalized

end R5900IrExecutionState

open R5900IrExecutionState

section Runs

variable (addF32 : BitVec 32 → BitVec 32 → BitVec 32)

/-- One instruction as the interpreter loop applies it. -/
def applyInstruction (state : R5900IrExecutionState) (ir : R5900IrInstruction) :
    R5900IrExecutionState :=
  (executeInstruction addF32 ir state).getD state

theorem executeInstruction_zeroNormalized {ir : R5900IrInstruction}
    {state next : R5900IrExecutionState} (wellFormed : R5900IrWellFormed ir)
    (normalized : state.ZeroNormalized)
    (step : executeInstruction addF32 ir state = some next) :
    next.ZeroNormalized := by
  cases wellFormed with
  | nop =>
      obtain rfl := Option.some.inj step
      exact normalized
  | addWordSignExtend inRange left right =>
      rw [executeInstruction_addWordSignExtend inRange left right] at step
      obtain rfl := Option.some.inj step
      exact normalized.writeLow64 _ _
  | or64 inRange left right =>
      rw [executeInstruction_or64 inRange left right] at step
      obtain rfl := Option.some.inj step
      exact normalized.writeLow64 _ _
  | and64 inRange left right =>
      rw [executeInstruction_and64 inRange left] at step
      obtain rfl := Option.some.inj step
      exact normalized.writeLow64 _ _
  | lui inRange source =>
      rw [executeInstruction_lui inRange] at step
      obtain rfl := Option.some.inj step
      exact normalized.writeLow64 _ _
  | packedU32Add inRange left right =>
      rw [executeInstruction_packedU32Add inRange left right] at step
      obtain rfl := Option.some.inj step
      exact normalized.writeFull128 _ _
  | moveGprLow64 hilo source =>
      rw [executeInstruction_moveGprLow64 source] at step
      obtain rfl := Option.some.inj step
      exact normalized.setHilo _ _
  | mtsah source constant =>
      rw [executeInstruction_mtsah source] at step
      obtain rfl := Option.some.inj step
      exact normalized
  | moveBitsToFpr inRange source =>
      rw [executeInstruction_moveBitsToFpr inRange source] at step
      obtain rfl := Option.some.inj step
      exact normalized
  | moveBitsToFcr31 source =>
      rw [executeInstruction_moveBitsToFcr31 source] at step
      obtain rfl := Option.some.inj step
      exact normalized
  | addF32Accumulator left right =>
      rw [executeInstruction_addF32Accumulator left right] at step
      obtain rfl := Option.some.inj step
      exact normalized

theorem applyInstruction_zeroNormalized {ir : R5900IrInstruction}
    {state : R5900IrExecutionState} (wellFormed : R5900IrWellFormed ir)
    (normalized : state.ZeroNormalized) :
    (applyInstruction addF32 state ir).ZeroNormalized := by
  have total : (executeInstruction addF32 ir state).isSome :=
    executeInstruction_isSome wellFormed
  obtain ⟨next, step⟩ := Option.isSome_iff_exists.mp total
  rw [applyInstruction, step]
  exact executeInstruction_zeroNormalized addF32 wellFormed normalized step

theorem foldl_applyInstruction_zeroNormalized
    {instructions : List R5900IrInstruction} {state : R5900IrExecutionState}
    (wellFormed : ∀ ir ∈ instructions, R5900IrWellFormed ir)
    (normalized : state.ZeroNormalized) :
    (instructions.foldl (applyInstruction addF32) state).ZeroNormalized := by
  induction instructions generalizing state with
  | nil => exact normalized
  | cons ir instructions ih =>
      exact ih (fun other member => wellFormed other (.tail _ member))
        (applyInstruction_zeroNormalized addF32 (wellFormed ir (.head _)) normalized)

/-- A well-formed first part of a program runs to its end. -/
theorem executeFrom_append {first second : List R5900IrInstruction}
    (wellFormed : ∀ ir ∈ first, R5900IrWellFormed ir) (index : Nat)
    (state : R5900IrExecutionState) :
    executeFrom addF32 index (first ++ second) state =
      executeFrom addF32 (index + first.length) second
        (first.foldl (applyInstruction addF32) state) := by
  induction first generalizing index state with
  | nil => simp
  | cons ir first ih =>
      have valid : validateR5900IrInstruction ir index = .ok () :=
        validateR5900IrInstruction_eq_ok_iff.mpr (wellFormed ir (.head _))
      have rest := ih (fun other member => wellFormed other (.tail _ member))
        (index + 1) (applyInstruction addF32 state ir)
      simpa [executeFrom, valid, applyInstruction, Nat.add_assoc, Nat.add_comm 1]
        using rest

/-- The interpreter on a well-formed program, without its loop. -/
theorem executeR5900Ir_eq_foldl {instructions : List R5900IrInstruction}
    (wellFormed : ∀ ir ∈ instructions, R5900IrWellFormed ir)
    (state : R5900IrExecutionState) :
    executeR5900Ir addF32 instructions state =
      (.ok (), instructions.foldl (applyInstruction addF32) state.normalizeZero) := by
  have run : executeFrom addF32 0 (instructions ++ []) state.normalizeZero = _ :=
    executeFrom_append addF32 wellFormed 0 state.normalizeZero
  have normalized := foldl_applyInstruction_zeroNormalized addF32 wellFormed
    (zeroNormalized_normalizeZero state)
  rw [List.append_nil] at run
  rw [executeR5900Ir, run, executeFrom, normalizeZero_eq_self normalized]

/-- Executing two well-formed programs one after the other is executing their
concatenation: clearing GPR zero in between changes nothing. -/
theorem executeR5900Ir_append {first second : List R5900IrInstruction}
    (firstWellFormed : ∀ ir ∈ first, R5900IrWellFormed ir)
    (secondWellFormed : ∀ ir ∈ second, R5900IrWellFormed ir)
    (state : R5900IrExecutionState) :
    executeR5900Ir addF32 (first ++ second) state =
      executeR5900Ir addF32 second (executeR5900Ir addF32 first state).2 := by
  have bothWellFormed : ∀ ir ∈ first ++ second, R5900IrWellFormed ir := by
    intro ir member
    rcases List.mem_append.mp member with inFirst | inSecond
    · exact firstWellFormed ir inFirst
    · exact secondWellFormed ir inSecond
  have normalized := foldl_applyInstruction_zeroNormalized addF32 firstWellFormed
    (zeroNormalized_normalizeZero state)
  rw [executeR5900Ir_eq_foldl addF32 bothWellFormed,
    executeR5900Ir_eq_foldl addF32 firstWellFormed,
    executeR5900Ir_eq_foldl addF32 secondWellFormed, List.foldl_append,
    normalizeZero_eq_self normalized]

end Runs

end Burnout3Recompiled
