import Burnout3Recompiled.R5900X64InstructionRefinement

/-!
# Native code for the packed addition

PADDUW keeps its sources in XMM0 and XMM1 and walks over the four lanes,
shifting both vectors down by one lane between iterations.  The sources are
loaded before the first store, so the destination may be one of them.
-/

namespace Burnout3Recompiled

open LittleEndianMemory (store displaced)
open X64 (Machine execute rax rcx rdx xmm0 xmm1)
open R5900IrExecutionState

/-- The destination after the first `lanes` iterations. -/
def packedPartialSum (initial lhs rhs : R5900IrGprValue) (lanes : Nat) :
    R5900IrGprValue :=
  (List.range lanes).foldl
    (fun result lane => setPackedLane result lane
      (saturatingAddU32 (packedLane lhs lane) (packedLane rhs lane))) initial

/-- The vector holds the lanes of `value` from `lanes` on. -/
def HoldsLanesFrom (vector : BitVec 128) (value : R5900IrGprValue) (lanes : Nat) :
    Prop :=
  ∀ later, lanes + later < 4 →
    (vector >>> (32 * later)).setWidth 32 = packedLane value (lanes + later)

theorem HoldsLanesFrom.low {vector : BitVec 128} {value : R5900IrGprValue}
    {lanes : Nat} (holds : HoldsLanesFrom vector value lanes) (inRange : lanes < 4) :
    vector.setWidth 32 = packedLane value lanes := by
  simpa using holds 0 inRange

theorem HoldsLanesFrom.shift {vector : BitVec 128} {value : R5900IrGprValue}
    {lanes : Nat} (holds : HoldsLanesFrom vector value lanes) :
    HoldsLanesFrom (vector >>> 32) value (lanes + 1) := by
  intro later inRange
  have next := holds (1 + later) (by omega)
  have distance : 32 * (1 + later) = 32 + 32 * later := by omega
  rwa [distance, BitVec.shiftRight_add, ← Nat.add_assoc] at next

/-- The invariant of the lane loop.  The sources matter only while lanes are
left: the last iteration does not shift them. -/
structure PadduwInvariant (base : BitVec 64) (state : R5900IrExecutionState)
    (index : BitVec 8) (lhs rhs : R5900IrGprValue) (lanes : Nat)
    (machine : Machine) : Prop where
  represents : Represents base
    (state.writeFull128 index
      (packedPartialSum (state.gprValue index) lhs rhs lanes)) machine
  leftLanes : lanes < 4 → HoldsLanesFrom (machine.xmm xmm0) lhs lanes
  rightLanes : lanes < 4 → HoldsLanesFrom (machine.xmm xmm1) rhs lanes

section Lanes

variable (addF32 : BitVec 32 → BitVec 32 → BitVec 32)
  {base : BitVec 64} {state : R5900IrExecutionState} {machine : Machine}
  {index : BitVec 8} {lhs rhs : R5900IrGprValue} {lane : Nat}

/-- The five instructions that leave the saturated sum of the low lanes in EAX. -/
theorem foldl_saturation (machine : Machine) :
    ∃ next : Machine,
      [.movd (.register rax) xmm0, .movd (.register rdx) xmm1,
          .alu .add 32 (.register rax) rdx, .alu .sbb 32 (.register rdx) rdx,
          .alu .or 32 (.register rax) rdx].foldl (execute addF32) machine = next ∧
        next.gpr rcx = machine.gpr rcx ∧ next.xmm = machine.xmm ∧
        next.memory = machine.memory ∧
        next.gpr rax = (saturatingAddU32 ((machine.xmm xmm0).setWidth 32)
          ((machine.xmm xmm1).setWidth 32)).setWidth 64 := by
  refine ⟨_, rfl, ?_, ?_, ?_, ?_⟩
  · simp [execute, Machine.writeRm, rcx_ne_rax, rcx_ne_rdx]
  · simp [execute, Machine.writeRm]
  · simp [execute, Machine.writeRm]
  · rw [saturatingAddU32_eq]
    simp [execute, Machine.writeRm, Machine.readRm, X64.AluOperation.apply,
      rax_ne_rdx]

theorem packedPartialSum_succ (initial lhs rhs : R5900IrGprValue) (lane : Nat) :
    packedPartialSum initial lhs rhs (lane + 1) =
      setPackedLane (packedPartialSum initial lhs rhs lane) lane
        (saturatingAddU32 (packedLane lhs lane) (packedLane rhs lane)) := by
  rw [packedPartialSum, packedPartialSum, List.range_succ, List.foldl_append,
    List.foldl_cons, List.foldl_nil]

/-- The store of one lane, left out for GPR zero. -/
theorem represents_storePackedLane {partialSum : R5900IrGprValue} {value : BitVec 32}
    (represents : Represents base (state.writeFull128 index partialSum) machine)
    (inRange : index < 32) (laneInRange : lane < 4)
    (result : machine.gpr rax = value.setWidth 64) :
    Represents base (state.writeFull128 index (setPackedLane partialSum lane value))
      ((if index ≠ 0 then
          [X64.Instruction.moveToRm 32
            (stateOperand (gprOffset index + BitVec.ofNat 32 (lane * 4))) rax]
        else []).foldl (execute addF32) machine) := by
  have bound : index.toNat < 32 := inRange
  have offset : gprOffset index + BitVec.ofNat 32 (lane * 4) =
      stateOffset (index.toNat * 16 + lane * 4) := by
    rw [gprOffset_eq]
    exact stateOffset_add _ _
  by_cases zero : index = 0
  · simpa [zero, writeFull128] using represents
  · have written : ∀ value, state.writeFull128 index value = state.setGpr index value :=
      fun _ => if_neg zero
    rw [written] at represents ⊢
    rw [if_pos zero, List.foldl_cons, List.foldl_nil, offset]
    apply represents.storeState (by omega)
    rw [stateAt_store_packedLane inRange laneInRange, represents.contents,
      gprValue_setGpr_self inRange, setGpr_setGpr, result]
    simp

theorem PadduwInvariant.step
    (invariant : PadduwInvariant base state index lhs rhs lane machine)
    (inRange : index < 32) (laneInRange : lane < 4) :
    PadduwInvariant base state index lhs rhs (lane + 1)
      ((nativePadduwLane index lane).foldl (execute addF32) machine) := by
  obtain ⟨summed, saturation, pointer, vectors, memory, result⟩ :=
    foldl_saturation addF32 machine
  rw [(invariant.leftLanes laneInRange).low laneInRange,
    (invariant.rightLanes laneInRange).low laneInRange] at result
  have summedRepresents : Represents base
      (state.writeFull128 index
        (packedPartialSum (state.gprValue index) lhs rhs lane)) summed :=
    ⟨pointer.trans invariant.represents.pointer, by
      rw [memory, invariant.represents.contents]⟩
  have stored := represents_storePackedLane addF32 summedRepresents
    inRange laneInRange result
  rw [← packedPartialSum_succ] at stored
  rw [nativePadduwLane, List.foldl_append, List.foldl_append, saturation]
  generalize storeLane : (if index ≠ 0 then
      [X64.Instruction.moveToRm 32
        (stateOperand (gprOffset index + BitVec.ofNat 32 (lane * 4))) rax]
    else []).foldl (execute addF32) summed = afterStore at stored ⊢
  have storedVectors : afterStore.xmm = machine.xmm := by
    rw [← storeLane, ← vectors]
    split <;> rfl
  by_cases last : lane = 3
  · refine ⟨by simpa [last] using stored, ?_, ?_⟩ <;> intro more <;> omega
  · have left := (invariant.leftLanes laneInRange).shift
    have right := (invariant.rightLanes laneInRange).shift
    rw [← storedVectors] at left right
    rw [if_pos last]
    refine ⟨(stored.setXmm _ _).setXmm _ _, fun _ => ?_, fun _ => ?_⟩
    · simpa [execute, xmm0_ne_xmm1] using left
    · simpa [execute, xmm0_ne_xmm1.symm] using right

theorem PadduwInvariant.run
    (invariant : PadduwInvariant base state index lhs rhs 0 machine)
    (inRange : index < 32) {lanes : Nat} (lanesInRange : lanes ≤ 4) :
    PadduwInvariant base state index lhs rhs lanes
      (((List.range lanes).flatMap (nativePadduwLane index)).foldl
        (execute addF32) machine) := by
  induction lanes with
  | zero => exact invariant
  | succ lane ih =>
      have reached := ih (by omega)
      rw [List.range_succ, List.flatMap_append, List.foldl_append]
      simpa using reached.step addF32 inRange (by omega)

theorem represents_packedU32Add (represents : Represents base state machine)
    {left right : R5900IrOperand} (inRange : index < 32)
    (leftGpr : left.IsGpr) (rightGpr : right.IsGpr) :
    Represents base
      (state.writeFull128 index (packedU32SaturatingAdd
        (state.gprValue left.gprIndex) (state.gprValue right.gprIndex)))
      ((nativePadduw left right index).foldl (execute addF32) machine) := by
  have leftLoaded := represents.setXmm xmm0
    (machine.readXmmRm 128 (stateOperand (gprOffset left.gprIndex)))
  have bothLoaded := leftLoaded.setXmm xmm1
    ((machine.setXmm xmm0 (machine.readXmmRm 128
      (stateOperand (gprOffset left.gprIndex)))).readXmmRm 128
        (stateOperand (gprOffset right.gprIndex)))
  have start : PadduwInvariant base state index (state.gprValue left.gprIndex)
      (state.gprValue right.gprIndex) 0
      ([.movdqu xmm0 (stateOperand (gprOffset left.gprIndex)),
        .movdqu xmm1 (stateOperand (gprOffset right.gprIndex))].foldl
          (execute addF32) machine) := by
    refine ⟨?_, fun _ later laneInRange => ?_, fun _ later laneInRange => ?_⟩
    · have unchanged : state.writeFull128 index (state.gprValue index) = state := by
        unfold writeFull128
        split
        · rfl
        · exact setGpr_gprValue_self inRange
      rw [packedPartialSum, List.range_zero, List.foldl_nil, unchanged]
      exact bothLoaded
    · have lane := represents.readGprLane leftGpr.2 later (by omega)
      simpa [execute, xmm0_ne_xmm1] using lane
    · have lane := leftLoaded.readGprLane rightGpr.2 later (by omega)
      simpa [execute] using lane
  have finished := start.run addF32 inRange (Nat.le_refl 4)
  have total : packedPartialSum (state.gprValue index) (state.gprValue left.gprIndex)
      (state.gprValue right.gprIndex) 4 =
      packedU32SaturatingAdd (state.gprValue left.gprIndex)
        (state.gprValue right.gprIndex) := by
    rw [packedU32SaturatingAdd_eq]
    exact foldl_setPackedLane _ fun lane =>
      saturatingAddU32 (packedLane (state.gprValue left.gprIndex) lane)
        (packedLane (state.gprValue right.gprIndex) lane)
  rw [nativePadduw, List.foldl_append, ← total]
  exact finished.represents

end Lanes

end Burnout3Recompiled
