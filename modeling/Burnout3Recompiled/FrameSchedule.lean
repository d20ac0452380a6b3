import Burnout3Recompiled.SlotGrid
import Burnout3Recompiled.StoppingLoop
import Mathlib.Data.Rat.Floor
import Mathlib.Tactic.NormNum

/-!
# Frame deadlines

Deadlines are a period apart and never drift: a frame that is late skips the slots it
has missed and is due at the next one.  A time is an exact rational number here.  Only the
constructor makes a schedule, so that every schedule has a positive period, which is what
lets the loop over the missed slots stop.
-/

namespace Burnout3Recompiled

open SlotGrid

structure FrameSchedule where
  periodSeconds : ℚ
  deadlineSeconds : ℚ
  positive : 0 < periodSeconds

namespace FrameSchedule

def reset (schedule : FrameSchedule) (startTimeSeconds : ℚ) : FrameSchedule :=
  { schedule with deadlineSeconds := startTimeSeconds + schedule.periodSeconds }

/-- The constructor, with the message of the exception it throws. -/
def construct (rateHz startTimeSeconds : ℚ) : Except String FrameSchedule :=
  if refused : rateHz ≤ 0 then .error "FrameSchedule rate_hz must be > 0"
  else
    let schedule : FrameSchedule :=
      { periodSeconds := 1 / rateHz
        deadlineSeconds := 0
        positive := one_div_pos.mpr (not_le.mp refused) }
    .ok (schedule.reset startTimeSeconds)

/-- The body of the loop. -/
def addPeriod (schedule : FrameSchedule) : FrameSchedule :=
  { schedule with deadlineSeconds := schedule.deadlineSeconds + schedule.periodSeconds }

/-- The loop runs its body before it tests the deadline. -/
def advanceAfterFrame (schedule : FrameSchedule) (nowSeconds : ℚ) : FrameSchedule :=
  if _late : schedule.addPeriod.deadlineSeconds ≤ nowSeconds then
    schedule.addPeriod.advanceAfterFrame nowSeconds
  else schedule.addPeriod
termination_by periodsLate schedule.periodSeconds schedule.deadlineSeconds nowSeconds
decreasing_by
  rw [periodsLate_of_late schedule.positive _late]
  exact Nat.lt_succ_self _

/-- One turn of the loop. -/
def advanceTurn (nowSeconds : ℚ) (schedule : FrameSchedule) : StepOutcome FrameSchedule :=
  if schedule.addPeriod.deadlineSeconds ≤ nowSeconds then .continues schedule.addPeriod
  else .stopped schedule.addPeriod

theorem construct_eq_ok_iff {rateHz startTimeSeconds : ℚ} {schedule : FrameSchedule} :
    construct rateHz startTimeSeconds = .ok schedule ↔
      0 < rateHz ∧ schedule.periodSeconds = 1 / rateHz ∧
        schedule.deadlineSeconds = startTimeSeconds + 1 / rateHz := by
  unfold construct
  split
  · next refused => simp [refused.not_gt]
  · next positive =>
      obtain ⟨periodSeconds, deadlineSeconds, _⟩ := schedule
      simp [reset, not_le.mp positive, eq_comm]

section Advance

variable {schedule : FrameSchedule} {nowSeconds : ℚ}

/-- The loop comes to an end, however late the frame is. -/
theorem stopsIn_advanceTurn (schedule : FrameSchedule) (nowSeconds : ℚ) :
    StopsIn (advanceTurn nowSeconds) schedule (schedule.advanceAfterFrame nowSeconds) := by
  fun_induction advanceAfterFrame schedule nowSeconds with
  | case1 schedule late ih => exact .continues (if_pos late) ih
  | case2 schedule inTime => exact .stopped (if_neg inTime)

theorem advanceAfterFrame_periodSeconds :
    (schedule.advanceAfterFrame nowSeconds).periodSeconds = schedule.periodSeconds := by
  fun_induction advanceAfterFrame schedule nowSeconds with
  | case1 schedule late ih => exact ih
  | case2 schedule inTime => rfl

/-- The loop finds the slot that counting the missed periods finds. -/
theorem advanceAfterFrame_deadlineSeconds :
    (schedule.advanceAfterFrame nowSeconds).deadlineSeconds =
      slotAfter schedule.periodSeconds schedule.deadlineSeconds nowSeconds := by
  fun_induction advanceAfterFrame schedule nowSeconds with
  | case1 schedule late ih => exact ih.trans (slotAfter_of_late schedule.positive late).symm
  | case2 schedule inTime =>
      exact ((slotAfter_eq_add_iff schedule.positive).mpr (not_le.mp inTime)).symm

end Advance

/-- What a call does to a schedule on the slots from the start time on. -/
structure AdvancesOnGrid (startTimeSeconds periodSeconds nowSeconds : ℚ)
    (before after : FrameSchedule) : Prop where
  stops : StopsIn (advanceTurn nowSeconds) before after
  onGrid : ∃ earlier later : ℤ, earlier < later ∧
    before.deadlineSeconds = startTimeSeconds + earlier * periodSeconds ∧
    after.deadlineSeconds = startTimeSeconds + later * periodSeconds
  future : nowSeconds < after.deadlineSeconds
  next : IsNextSlot startTimeSeconds periodSeconds before.deadlineSeconds nowSeconds
    after.deadlineSeconds
  oneSlot : after.deadlineSeconds = before.deadlineSeconds + periodSeconds ↔
    nowSeconds < before.deadlineSeconds + periodSeconds
  inTime : nowSeconds ≤ before.deadlineSeconds →
    after.deadlineSeconds = before.deadlineSeconds + periodSeconds

/-- The deadline of the schedule is a slot. -/
def OnGrid (startTimeSeconds periodSeconds : ℚ) (schedule : FrameSchedule) : Prop :=
  schedule.periodSeconds = periodSeconds ∧
    schedule.deadlineSeconds ∈ slots startTimeSeconds periodSeconds

section Grid

variable {startTimeSeconds periodSeconds : ℚ} {schedule : FrameSchedule}

/-- A reset starts a grid of its own, and so does the constructor. -/
theorem onGrid_reset (schedule : FrameSchedule) (startTimeSeconds : ℚ) :
    OnGrid startTimeSeconds schedule.periodSeconds (schedule.reset startTimeSeconds) := by
  refine ⟨rfl, 1, ?_⟩
  rw [slot, Int.cast_one, one_mul]
  rfl

theorem OnGrid.advancesOnGrid (onGrid : OnGrid startTimeSeconds periodSeconds schedule)
    (nowSeconds : ℚ) :
    AdvancesOnGrid startTimeSeconds periodSeconds nowSeconds schedule
      (schedule.advanceAfterFrame nowSeconds) := by
  obtain ⟨rfl, index, place⟩ := onGrid
  have next : IsNextSlot startTimeSeconds schedule.periodSeconds schedule.deadlineSeconds
      nowSeconds (schedule.advanceAfterFrame nowSeconds).deadlineSeconds := by
    rw [advanceAfterFrame_deadlineSeconds, ← place]
    exact isNextSlot_slotAfter schedule.positive
  obtain ⟨⟨later, reached⟩, after, future⟩ := next.1
  have oneSlot : (schedule.advanceAfterFrame nowSeconds).deadlineSeconds =
      schedule.deadlineSeconds + schedule.periodSeconds ↔
        nowSeconds < schedule.deadlineSeconds + schedule.periodSeconds := by
    rw [advanceAfterFrame_deadlineSeconds]
    exact slotAfter_eq_add_iff schedule.positive
  have earlier : index < later := by
    rw [← place, ← reached] at after
    exact (slot_lt_slot_iff schedule.positive).mp after
  exact
    { stops := stopsIn_advanceTurn schedule nowSeconds
      onGrid := ⟨index, later, earlier, place.symm, reached.symm⟩
      future := future
      next := next
      oneSlot := oneSlot
      inTime := fun early =>
        oneSlot.mpr (lt_of_le_of_lt early (lt_add_of_pos_right _ schedule.positive)) }

theorem OnGrid.advanceAfterFrame (onGrid : OnGrid startTimeSeconds periodSeconds schedule)
    (nowSeconds : ℚ) :
    OnGrid startTimeSeconds periodSeconds (schedule.advanceAfterFrame nowSeconds) :=
  ⟨advanceAfterFrame_periodSeconds.trans onGrid.1, (onGrid.advancesOnGrid nowSeconds).next.1.1⟩

theorem OnGrid.foldl_advanceAfterFrame
    (onGrid : OnGrid startTimeSeconds periodSeconds schedule) (nows : List ℚ) :
    OnGrid startTimeSeconds periodSeconds
      (nows.foldl FrameSchedule.advanceAfterFrame schedule) := by
  induction nows generalizing schedule with
  | nil => exact onGrid
  | cons nowSeconds nows ih => exact ih (onGrid.advanceAfterFrame nowSeconds)

end Grid

/-- Every call of every sequence of them moves the deadline to the next slot. -/
theorem advanceAfterFrame_staysOnGrid (rateHz startTimeSeconds : ℚ) (positive : 0 < rateHz) :
    ∃ initial, construct rateHz startTimeSeconds = .ok initial ∧
      initial.deadlineSeconds = startTimeSeconds + 1 / rateHz ∧
      ∀ (nows : List ℚ) (nowSeconds : ℚ),
        AdvancesOnGrid startTimeSeconds (1 / rateHz) nowSeconds
          (nows.foldl advanceAfterFrame initial)
          ((nows ++ [nowSeconds]).foldl advanceAfterFrame initial) := by
  have accepted : ¬rateHz ≤ 0 := not_le.mpr positive
  refine ⟨_, dif_neg accepted, rfl, fun nows nowSeconds => ?_⟩
  rw [List.foldl_append]
  apply OnGrid.advancesOnGrid
  apply OnGrid.foldl_advanceAfterFrame
  exact onGrid_reset _ startTimeSeconds

/-- A frame that is on time, and one that misses two deadlines. -/
theorem advanceAfterFrame_staysOnGrid_missedFrames :
    ∃ initial, construct 120 10 = .ok initial ∧
      (initial.advanceAfterFrame (10 + 1 / 120)).deadlineSeconds = 10 + 2 / 120 ∧
      ((initial.advanceAfterFrame (10 + 1 / 120)).advanceAfterFrame
        (10 + 4.5 / 120)).deadlineSeconds = 10 + 5 / 120 := by
  obtain ⟨initial, constructed, deadline, advances⟩ :=
    advanceAfterFrame_staysOnGrid 120 10 (by norm_num)
  obtain ⟨-, period, -⟩ := construct_eq_ok_iff.mp constructed
  have onTime : (initial.advanceAfterFrame (10 + 1 / 120)).deadlineSeconds =
      10 + 2 / 120 := by
    have moved := (advances [] (10 + 1 / 120)).inTime (le_of_eq deadline.symm)
    rw [List.foldl_nil, deadline] at moved
    refine moved.trans ?_
    norm_num
  refine ⟨initial, constructed, onTime, ?_⟩
  have missed : periodsLate (1 / 120 : ℚ) (10 + 2 / 120) (10 + 4.5 / 120) = 2 := by
    rw [periodsLate, Nat.floor_eq_iff (by norm_num)]
    norm_num
  rw [advanceAfterFrame_deadlineSeconds, advanceAfterFrame_periodSeconds, onTime, period,
    slotAfter, missed]
  norm_num

end FrameSchedule

end Burnout3Recompiled
