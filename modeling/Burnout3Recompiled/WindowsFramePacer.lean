import Burnout3Recompiled.FramePacingTelemetry
import Burnout3Recompiled.FrameSchedule

/-!
# Frame pacing

The pacer waits for the deadline of its schedule, first on a timer of the system and then
by reading the clock over and over.  What the system does in between shows in the readings
only, which may be any: the timer may be refused, come late or come early.  A time is an
exact rational number here, so that no rounding moves a deadline off its grid.  However it
goes, every frame has a slot of its own, and the deadline after a frame is the end of that
slot.
-/

namespace Burnout3Recompiled

open SlotGrid

/-- What the system answers when a pacer is made. -/
structure TimerSystem where
  highResolutionTimer : Bool
  waitableTimer : Bool
  beginsPeriod : Bool

structure WindowsFramePacer where
  highResolutionTimer : Bool
  fallbackTimerResolution : Bool
  spinThresholdSeconds : ℚ := 75 / 100000
  schedule : FrameSchedule

namespace WindowsFramePacer

/-- The constructor, with the message of the exception it throws.  The clock is read once,
for the schedule. -/
def construct (system : TimerSystem) (targetHz nowSeconds : ℚ) :
    Except String WindowsFramePacer := do
  let schedule ← FrameSchedule.construct targetHz nowSeconds
  if system.highResolutionTimer then
    .ok
      { highResolutionTimer := true
        fallbackTimerResolution := false
        schedule := schedule }
  else if !system.waitableTimer then .error "Failed to create Windows waitable timer"
  else
    .ok
      { highResolutionTimer := false
        fallbackTimerResolution := system.beginsPeriod
        schedule := schedule }

end WindowsFramePacer

/-- The loop that reads the clock until the deadline, with the readings that are left.
There is no result while all readings lie before the deadline. -/
def spinUntil (deadlineSeconds : ℚ) : List ℚ → Option (ℚ × List ℚ)
  | [] => none
  | nowSeconds :: readings =>
      if nowSeconds < deadlineSeconds then spinUntil deadlineSeconds readings
      else some (nowSeconds, readings)

/-- A relative due time is negative and counts 100 ns. -/
def relativeDueTime (coarseWait : ℚ) : Int :=
  let hundredNs := ⌊coarseWait * 10000000⌋
  if hundredNs > 0 then -hundredNs else -1

/-- A frame that has been waited for.  The deadline and the first reading of the clock are
kept to talk about the timer. -/
structure FrameWait where
  deadlineSeconds : ℚ
  calledSeconds : ℚ
  dueTime : Option Int
  nowSeconds : ℚ
  pacer : WindowsFramePacer
  readings : List ℚ

namespace WindowsFramePacer

/-- The end of a call. -/
def completeFrame (pacer : WindowsFramePacer) (calledSeconds : ℚ) (dueTime : Option Int)
    (nowSeconds : ℚ) (readings : List ℚ) : FrameWait where
  deadlineSeconds := pacer.schedule.deadlineSeconds
  calledSeconds := calledSeconds
  dueTime := dueTime
  nowSeconds := nowSeconds
  pacer := { pacer with schedule := pacer.schedule.advanceAfterFrame nowSeconds }
  readings := readings

def waitForNextFrame (pacer : WindowsFramePacer) : List ℚ → Option FrameWait
  | [] => none
  | nowSeconds :: readings =>
      let deadline := pacer.schedule.deadlineSeconds
      if nowSeconds < deadline then
        let remaining := deadline - nowSeconds
        let coarseWait := remaining - pacer.spinThresholdSeconds
        let dueTime := if coarseWait > 0 then some (relativeDueTime coarseWait) else none
        (spinUntil deadline readings).map fun (reached, readings) =>
          pacer.completeFrame nowSeconds dueTime reached readings
      else some (pacer.completeFrame nowSeconds none nowSeconds readings)

/-- Frame after frame. -/
def waitForFrames (pacer : WindowsFramePacer) : Nat → List ℚ → Option (List FrameWait)
  | 0, _ => some []
  | count + 1, readings =>
      (pacer.waitForNextFrame readings).bind fun wait =>
        (wait.pacer.waitForFrames count wait.readings).map (wait :: ·)

end WindowsFramePacer

/-- The slot that has begun last at a time. -/
def slotOf (startSeconds periodSeconds timeSeconds : ℚ) : ℤ :=
  ⌊(timeSeconds - startSeconds) / periodSeconds⌋

section Slots

variable {startSeconds periodSeconds timeSeconds : ℚ} {index : ℤ}

theorem le_slotOf_iff (positive : 0 < periodSeconds) :
    index ≤ slotOf startSeconds periodSeconds timeSeconds ↔
      slot startSeconds periodSeconds index ≤ timeSeconds := by
  rw [slotOf, Int.le_floor, le_div_iff₀ positive, slot]
  constructor <;> intro ordered <;> linarith

theorem slotOf_lt_iff (positive : 0 < periodSeconds) :
    slotOf startSeconds periodSeconds timeSeconds < index ↔
      timeSeconds < slot startSeconds periodSeconds index := by
  rw [← not_le, le_slotOf_iff positive, not_le]

theorem slotOf_add_mul (positive : 0 < periodSeconds) (count : ℤ) :
    slotOf startSeconds periodSeconds (timeSeconds + count * periodSeconds) =
      slotOf startSeconds periodSeconds timeSeconds + count := by
  have shifted : (timeSeconds + count * periodSeconds - startSeconds) / periodSeconds =
      (timeSeconds - startSeconds) / periodSeconds + count := by
    field_simp
    ring
  rw [slotOf, shifted, Int.floor_add_intCast, slotOf]

/-- From a time that is not before the previous slot on, the next slot is the one behind
the slot of the time. -/
theorem isNextSlot_of_le (positive : 0 < periodSeconds) {previous next : ℚ}
    (isNext : IsNextSlot startSeconds periodSeconds previous timeSeconds next)
    (ordered : previous ≤ timeSeconds) :
    next = slot startSeconds periodSeconds
      (slotOf startSeconds periodSeconds timeSeconds + 1) := by
  refine isNext.unique ⟨⟨⟨_, rfl⟩, ?_, ?_⟩, ?_⟩
  · exact lt_of_le_of_lt ordered ((slotOf_lt_iff positive).mp (lt_add_one _))
  · exact (slotOf_lt_iff positive).mp (lt_add_one _)
  · rintro time ⟨⟨later, rfl⟩, -, future⟩
    have behind := (slotOf_lt_iff positive).mpr future
    rcases lt_or_eq_of_le (Int.add_one_le_iff.mpr behind) with before | same
    · exact ((slot_lt_slot_iff positive).mpr before).le
    · rw [same]

end Slots

/-- Integers that grow, grow by one at least. -/
theorem sub_le_sub_of_pairwise_lt {values : List ℤ} (grows : values.Pairwise (· < ·))
    {first second : Nat} (ordered : first ≤ second) (inside : second < values.length) :
    (second : ℤ) - first ≤ values[second] - values[first] := by
  induction second, ordered using Nat.le_induction with
  | base => omega
  | succ second before ih =>
      have step : values[second] < values[second + 1] :=
        List.pairwise_iff_getElem.mp grows second (second + 1) (by omega) inside
          (Nat.lt_succ_self _)
      have earlier := ih (by omega)
      push_cast
      omega

/-- The deadline of a pacer is the end of the slot `last`. -/
structure EndsSlot (startSeconds periodSeconds : ℚ) (last : ℤ) (pacer : WindowsFramePacer) :
    Prop where
  onGrid : FrameSchedule.OnGrid startSeconds periodSeconds pacer.schedule
  deadline : pacer.schedule.deadlineSeconds = slot startSeconds periodSeconds (last + 1)
  spinThreshold : pacer.spinThresholdSeconds = 75 / 100000

/-- The timer is set for a time in the future that lies before the deadline. -/
def FrameWait.SetsTimerBefore (wait : FrameWait) : Prop :=
  ∀ dueTime, wait.dueTime = some dueTime → dueTime < 0 ∧
    wait.calledSeconds + (-dueTime : ℤ) / 10000000 < wait.deadlineSeconds

/-- A frame behind the slot `last`. -/
structure FrameBehind (startSeconds periodSeconds : ℚ) (last : ℤ) (wait : FrameWait) :
    Prop where
  deadline : wait.deadlineSeconds = slot startSeconds periodSeconds (last + 1)
  waited : wait.deadlineSeconds ≤ wait.nowSeconds
  behind : last < slotOf startSeconds periodSeconds wait.nowSeconds
  timer : wait.SetsTimerBefore
  endsSlot : EndsSlot startSeconds periodSeconds
    (slotOf startSeconds periodSeconds wait.nowSeconds) wait.pacer

section Frames

variable {startSeconds periodSeconds deadlineSeconds nowSeconds : ℚ} {last : ℤ}
  {pacer : WindowsFramePacer} {readings : List ℚ} {wait : FrameWait}

theorem spinUntil_eq_none_iff :
    spinUntil deadlineSeconds readings = none ↔
      ∀ reading ∈ readings, reading < deadlineSeconds := by
  induction readings with
  | nil => simp [spinUntil]
  | cons nowSeconds readings ih =>
      rw [spinUntil, List.forall_mem_cons]
      split
      · next early => rw [ih, and_iff_right early]
      · next reached => simp [reached]

theorem le_of_spinUntil {left : List ℚ}
    (reached : spinUntil deadlineSeconds readings = some (nowSeconds, left)) :
    deadlineSeconds ≤ nowSeconds := by
  induction readings with
  | nil => cases reached
  | cons reading readings ih =>
      rw [spinUntil] at reached
      split at reached
      · exact ih reached
      · next late =>
          obtain ⟨rfl, -⟩ := Prod.mk.inj (Option.some.inj reached)
          exact not_lt.mp late

/-- The coarse wait is rounded towards the call, and where nothing is left of it the
shortest one is taken, which is much shorter than the spinning that was to follow. -/
theorem relativeDueTime_spec {coarseWait : ℚ} :
    relativeDueTime coarseWait < 0 ∧
      ((-relativeDueTime coarseWait : ℤ) / 10000000 : ℚ) ≤ max coarseWait (1 / 10000000) := by
  rw [relativeDueTime]
  split
  · next positive =>
      refine ⟨by omega, le_max_of_le_left ?_⟩
      have floor := Int.floor_le (coarseWait * 10000000)
      rw [neg_neg, div_le_iff₀ (by norm_num)]
      exact floor
  · refine ⟨by omega, le_max_of_le_right ?_⟩
    norm_num

/-- A call that does not come back has read nothing but times before its deadline. -/
theorem waitForNextFrame_eq_none_iff :
    pacer.waitForNextFrame readings = none ↔
      ∀ reading ∈ readings, reading < pacer.schedule.deadlineSeconds := by
  cases readings with
  | nil => simp [WindowsFramePacer.waitForNextFrame]
  | cons nowSeconds readings =>
      rw [WindowsFramePacer.waitForNextFrame, List.forall_mem_cons]
      dsimp only
      split
      · next early => rw [Option.map_eq_none_iff, spinUntil_eq_none_iff, and_iff_right early]
      · next late => simp [late]

theorem EndsSlot.frameBehind_completeFrame
    (endsSlot : EndsSlot startSeconds periodSeconds last pacer) {calledSeconds : ℚ}
    {dueTime : Option Int} {left : List ℚ}
    (waited : pacer.schedule.deadlineSeconds ≤ nowSeconds)
    (timer : (pacer.completeFrame calledSeconds dueTime nowSeconds left).SetsTimerBefore) :
    FrameBehind startSeconds periodSeconds last
      (pacer.completeFrame calledSeconds dueTime nowSeconds left) := by
  have positive : 0 < periodSeconds := endsSlot.onGrid.1 ▸ pacer.schedule.positive
  have advances := endsSlot.onGrid.advancesOnGrid nowSeconds
  have reached := waited
  rw [endsSlot.deadline, ← le_slotOf_iff positive] at reached
  exact
    { deadline := endsSlot.deadline
      waited := waited
      behind := reached
      timer := timer
      endsSlot :=
        { onGrid := endsSlot.onGrid.advanceAfterFrame nowSeconds
          deadline := isNextSlot_of_le positive advances.next waited
          spinThreshold := endsSlot.spinThreshold } }

/-- A frame takes the slot in which it comes, which is behind all earlier ones. -/
theorem EndsSlot.frameBehind (endsSlot : EndsSlot startSeconds periodSeconds last pacer)
    (waited : pacer.waitForNextFrame readings = some wait) :
    FrameBehind startSeconds periodSeconds last wait := by
  cases readings with
  | nil => cases waited
  | cons calledSeconds readings =>
      rw [WindowsFramePacer.waitForNextFrame] at waited
      dsimp only at waited
      split at waited
      · obtain ⟨⟨nowSeconds, left⟩, reached, rfl⟩ := Option.map_eq_some_iff.mp waited
        refine endsSlot.frameBehind_completeFrame (le_of_spinUntil reached) ?_
        intro dueTime set
        rw [WindowsFramePacer.completeFrame] at set ⊢
        dsimp only at set ⊢
        split at set
        · next coarse =>
            obtain rfl := Option.some.inj set
            rw [endsSlot.spinThreshold] at coarse ⊢
            obtain ⟨negative, short⟩ := @relativeDueTime_spec
              (pacer.schedule.deadlineSeconds - calledSeconds - 75 / 100000)
            refine ⟨negative, ?_⟩
            rcases le_max_iff.mp short with rounded | shortest
            · linarith
            · linarith
        · cases set
      · next late =>
          obtain rfl := Option.some.inj waited
          refine endsSlot.frameBehind_completeFrame (not_lt.mp late) ?_
          intro dueTime set
          cases set

end Frames

/-- What is known about the frames of a pacer. -/
structure PacesFrames (startSeconds periodSeconds : ℚ) (waits : List FrameWait) : Prop where
  slots : (waits.map fun wait =>
    slotOf startSeconds periodSeconds wait.nowSeconds).Pairwise (· < ·)
  waited : ∀ wait ∈ waits, wait.deadlineSeconds ≤ wait.nowSeconds
  nextDeadline : ∀ wait ∈ waits, wait.pacer.schedule.deadlineSeconds =
    slot startSeconds periodSeconds (slotOf startSeconds periodSeconds wait.nowSeconds + 1)
  notEarly : ∀ (index : Nat) (wait : FrameWait), waits[index]? = some wait →
    startSeconds + (index + 1) * periodSeconds ≤ wait.nowSeconds
  apart : ∀ (first second : Nat) (before after : FrameWait), first < second →
    waits[first]? = some before → waits[second]? = some after →
      (second - first - 1) * periodSeconds < after.nowSeconds - before.nowSeconds
  timer : ∀ wait ∈ waits, wait.SetsTimerBefore

section Runs

variable {startSeconds periodSeconds : ℚ} {last : ℤ} {pacer : WindowsFramePacer}
  {count : Nat} {readings : List ℚ} {waits : List FrameWait}

/-- By induction on the frames, each of which starts where the one before has ended. -/
theorem EndsSlot.waitForFrames (endsSlot : EndsSlot startSeconds periodSeconds last pacer)
    (waited : pacer.waitForFrames count readings = some waits) :
    waits.length = count ∧
      (last :: waits.map fun wait =>
        slotOf startSeconds periodSeconds wait.nowSeconds).Pairwise (· < ·) ∧
      ∀ wait ∈ waits, ∃ before, FrameBehind startSeconds periodSeconds before wait := by
  induction count generalizing last pacer readings waits with
  | zero =>
      obtain rfl := Option.some.inj waited
      simp
  | succ count ih =>
      rw [WindowsFramePacer.waitForFrames] at waited
      obtain ⟨wait, first, waited⟩ := Option.bind_eq_some_iff.mp waited
      obtain ⟨rest, others, rfl⟩ := Option.map_eq_some_iff.mp waited
      have frame := endsSlot.frameBehind first
      obtain ⟨length, grows, frames⟩ := ih frame.endsSlot others
      refine ⟨congrArg (· + 1) length, ?_, List.forall_mem_cons.mpr ⟨⟨last, frame⟩, frames⟩⟩
      rw [List.map_cons, List.pairwise_cons]
      refine ⟨?_, grows⟩
      rw [List.forall_mem_cons]
      exact ⟨frame.behind,
        fun later member => frame.behind.trans ((List.pairwise_cons.mp grows).1 later member)⟩

theorem pacesFrames_of_frameBehind (positive : 0 < periodSeconds)
    (grows : (0 :: waits.map fun wait =>
      slotOf startSeconds periodSeconds wait.nowSeconds).Pairwise (· < ·))
    (frames : ∀ wait ∈ waits, ∃ before, FrameBehind startSeconds periodSeconds before wait) :
    PacesFrames startSeconds periodSeconds waits := by
  have steps {first second : Nat} (ordered : first ≤ second) inside :=
    sub_le_sub_of_pairwise_lt grows ordered inside
  have begins (wait : FrameWait) : slot startSeconds periodSeconds
      (slotOf startSeconds periodSeconds wait.nowSeconds) ≤ wait.nowSeconds :=
    (le_slotOf_iff positive).mp (le_refl _)
  have ends (wait : FrameWait) : wait.nowSeconds < slot startSeconds periodSeconds
      (slotOf startSeconds periodSeconds wait.nowSeconds + 1) :=
    (slotOf_lt_iff positive).mp (lt_add_one _)
  refine ⟨(List.pairwise_cons.mp grows).2, ?_, ?_, ?_, ?_, ?_⟩
  · intro wait member
    obtain ⟨before, frame⟩ := frames wait member
    exact frame.waited
  · intro wait member
    obtain ⟨before, frame⟩ := frames wait member
    exact frame.endsSlot.deadline
  · intro index wait present
    obtain ⟨inside, rfl⟩ := List.getElem?_eq_some_iff.mp present
    have place : index + 1 < (0 :: waits.map fun wait =>
        slotOf startSeconds periodSeconds wait.nowSeconds).length := by simpa using inside
    have distance := steps (Nat.zero_le (index + 1)) place
    simp only [List.getElem_cons_zero, List.getElem_cons_succ, List.getElem_map] at distance
    have index_le : (index + 1 : ℤ) ≤
        slotOf startSeconds periodSeconds waits[index].nowSeconds := by
      push_cast at distance
      omega
    have reached := (le_slotOf_iff positive).mp index_le
    rw [slot] at reached
    push_cast at reached
    exact reached
  · intro first second before after ordered present later
    obtain ⟨inside, rfl⟩ := List.getElem?_eq_some_iff.mp present
    obtain ⟨laterInside, rfl⟩ := List.getElem?_eq_some_iff.mp later
    have place : second + 1 < (0 :: waits.map fun wait =>
        slotOf startSeconds periodSeconds wait.nowSeconds).length := by simpa using laterInside
    have distance := steps (Nat.succ_le_succ ordered.le) place
    simp only [List.getElem_cons_succ, List.getElem_map] at distance
    have earliest := begins waits[second]
    have latest := ends waits[first]
    rw [slot] at earliest latest
    have casted : ((second : ℚ) - first) ≤
        (slotOf startSeconds periodSeconds waits[second].nowSeconds : ℚ) -
          slotOf startSeconds periodSeconds waits[first].nowSeconds := by
      push_cast at distance
      exact_mod_cast (by omega : (second : ℤ) - first ≤ _ - _)
    have scaled := mul_le_mul_of_nonneg_right casted positive.le
    push_cast at latest
    linarith
  · intro wait member
    obtain ⟨before, frame⟩ := frames wait member
    exact frame.timer

theorem EndsSlot.pacesFrames (endsSlot : EndsSlot startSeconds periodSeconds 0 pacer)
    (waited : pacer.waitForFrames count readings = some waits) :
    PacesFrames startSeconds periodSeconds waits := by
  have positive : 0 < periodSeconds := endsSlot.onGrid.1 ▸ pacer.schedule.positive
  obtain ⟨-, grows, frames⟩ := endsSlot.waitForFrames waited
  exact pacesFrames_of_frameBehind positive grows frames

/-- The pacer and the readings after some frames. -/
def afterFrames (pacer : WindowsFramePacer) (readings : List ℚ) (waits : List FrameWait) :
    WindowsFramePacer × List ℚ :=
  match waits.getLast? with
  | none => (pacer, readings)
  | some wait => (wait.pacer, wait.readings)

theorem afterFrames_cons (pacer : WindowsFramePacer) (readings : List ℚ) (wait : FrameWait)
    (waits : List FrameWait) :
    afterFrames pacer readings (wait :: waits) =
      afterFrames wait.pacer wait.readings waits := by
  cases waits with
  | nil => rfl
  | cons next waits => rw [afterFrames, afterFrames, List.getLast?_cons_cons]; rfl

/-- The frames before the last one have come, and the clock does not get to the deadline of
that one. -/
def Hangs (pacer : WindowsFramePacer) (count : Nat) (readings : List ℚ) : Prop :=
  ∃ done < count, ∃ waits, pacer.waitForFrames done readings = some waits ∧
    ∀ reading ∈ (afterFrames pacer readings waits).2,
      reading < (afterFrames pacer readings waits).1.schedule.deadlineSeconds

theorem waitForFrames_eq_none_iff :
    pacer.waitForFrames count readings = none ↔ Hangs pacer count readings := by
  induction count generalizing pacer readings with
  | zero =>
      refine iff_of_false (by simp [WindowsFramePacer.waitForFrames]) ?_
      rintro ⟨done, inside, -⟩
      cases inside
  | succ count ih =>
      rw [WindowsFramePacer.waitForFrames]
      cases first : pacer.waitForNextFrame readings with
      | none =>
          refine iff_of_true rfl ⟨0, Nat.succ_pos _, [], rfl, ?_⟩
          exact waitForNextFrame_eq_none_iff.mp first
      | some wait =>
          rw [Option.bind_some, Option.map_eq_none_iff, ih]
          constructor
          · rintro ⟨done, inside, waits, waited, early⟩
            refine ⟨done + 1, Nat.succ_lt_succ inside, wait :: waits, ?_, ?_⟩
            · rw [WindowsFramePacer.waitForFrames, first, Option.bind_some, waited]
              rfl
            · rwa [afterFrames_cons]
          · rintro ⟨done, inside, waits, waited, early⟩
            cases done with
            | zero =>
                obtain rfl := Option.some.inj waited
                have hangs : pacer.waitForNextFrame readings = none :=
                  waitForNextFrame_eq_none_iff.mpr early
                cases first.symm.trans hangs
            | succ done =>
                rw [WindowsFramePacer.waitForFrames, first, Option.bind_some] at waited
                obtain ⟨rest, restWaited, rfl⟩ := Option.map_eq_some_iff.mp waited
                rw [afterFrames_cons] at early
                exact ⟨done, Nat.lt_of_succ_lt_succ inside, rest, restWaited, early⟩

theorem construct_eq_error_iff {timers : TimerSystem} {targetHz nowSeconds : ℚ}
    (positive : 0 < targetHz) :
    (∃ message, WindowsFramePacer.construct timers targetHz nowSeconds = .error message) ↔
      timers.highResolutionTimer = false ∧ timers.waitableTimer = false := by
  obtain ⟨schedule, made⟩ : ∃ schedule, FrameSchedule.construct targetHz nowSeconds =
      .ok schedule := ⟨_, dif_neg (not_le.mpr positive)⟩
  rw [WindowsFramePacer.construct, made]
  obtain ⟨_ | _, _ | _, _⟩ := timers <;> simp [bind, Except.bind]

theorem endsSlot_construct {system : TimerSystem} {targetHz nowSeconds : ℚ}
    (constructed : WindowsFramePacer.construct system targetHz nowSeconds = .ok pacer) :
    EndsSlot nowSeconds (1 / targetHz) 0 pacer := by
  rw [WindowsFramePacer.construct] at constructed
  cases made : FrameSchedule.construct targetHz nowSeconds with
  | error message =>
      rw [made] at constructed
      cases constructed
  | ok schedule =>
      obtain ⟨-, period, deadline⟩ := FrameSchedule.construct_eq_ok_iff.mp made
      have first : schedule.deadlineSeconds = slot nowSeconds (1 / targetHz) (0 + 1) := by
        rw [slot, deadline]
        push_cast
        ring
      have common (highResolution fallback : Bool) :
          EndsSlot nowSeconds (1 / targetHz) 0
            { highResolutionTimer := highResolution
              fallbackTimerResolution := fallback
              schedule := schedule } :=
        ⟨⟨period, 0 + 1, first.symm⟩, first, rfl⟩
      rw [made] at constructed
      change (if system.highResolutionTimer then _ else _) = _ at constructed
      split at constructed
      · obtain rfl := Except.ok.inj constructed
        exact common _ _
      · split at constructed
        · cases constructed
        · obtain rfl := Except.ok.inj constructed
          exact common _ _

end Runs

/-- Whatever exact times the clock shows and the timer does, frames come one to a slot and
none before its own, the deadline never drifts, and a run of frames hangs only when the clock
does not get to a deadline any more. -/
theorem waitForFrames_pacesFrames (system : TimerSystem) (targetHz startSeconds : ℚ)
    (pacer : WindowsFramePacer) (count : Nat) (readings : List ℚ)
    (constructed : WindowsFramePacer.construct system targetHz startSeconds = .ok pacer) :
    (∀ waits, pacer.waitForFrames count readings = some waits →
      waits.length = count ∧ PacesFrames startSeconds (1 / targetHz) waits) ∧
    (pacer.waitForFrames count readings = none ↔ Hangs pacer count readings) := by
  have endsSlot := endsSlot_construct constructed
  exact ⟨fun waits waited => ⟨(endsSlot.waitForFrames waited).1, endsSlot.pacesFrames waited⟩,
    waitForFrames_eq_none_iff⟩

/-- A frame that misses two slots, and a second one for which no reading is left. -/
theorem waitForFrames_pacesFrames_missedSlots :
    ∃ pacer waits, WindowsFramePacer.construct ⟨false, true, true⟩ 100 10 = .ok pacer ∧
      pacer.waitForFrames 1 [10, 10.005, 10.035] = some waits ∧
      PacesFrames 10 (1 / 100) waits ∧ Hangs pacer 2 [10, 10.005, 10.035] := by
  obtain ⟨schedule, made⟩ : ∃ schedule, FrameSchedule.construct 100 10 = .ok schedule :=
    ⟨_, dif_neg (by norm_num)⟩
  obtain ⟨pacer, constructed⟩ : ∃ pacer,
      WindowsFramePacer.construct ⟨false, true, true⟩ 100 10 = .ok pacer := by
    refine ⟨⟨false, true, 75 / 100000, schedule⟩, ?_⟩
    rw [WindowsFramePacer.construct, made]
    rfl
  have deadline : pacer.schedule.deadlineSeconds = 10.01 := by
    rw [(endsSlot_construct constructed).deadline, slot]
    norm_num
  obtain ⟨first, waited, left⟩ : ∃ wait,
      pacer.waitForNextFrame [10, 10.005, 10.035] = some wait ∧ wait.readings = [] := by
    norm_num [WindowsFramePacer.waitForNextFrame, spinUntil, deadline,
      WindowsFramePacer.completeFrame]
  have one : pacer.waitForFrames 1 [10, 10.005, 10.035] = some [first] := by
    simp [WindowsFramePacer.waitForFrames, waited]
  have two : pacer.waitForFrames 2 [10, 10.005, 10.035] = none := by
    rw [WindowsFramePacer.waitForFrames, waited, Option.bind_some, left]
    rfl
  obtain ⟨paces, -⟩ := waitForFrames_pacesFrames ⟨false, true, true⟩ 100 10 pacer 1
    [10, 10.005, 10.035] constructed
  obtain ⟨-, hangs⟩ := waitForFrames_pacesFrames ⟨false, true, true⟩ 100 10 pacer 2
    [10, 10.005, 10.035] constructed
  exact ⟨pacer, [first], constructed, one, (paces _ one).2, hangs.mp two⟩

end Burnout3Recompiled
