import Mathlib.Algebra.BigOperators.Group.List.Basic
import Mathlib.Algebra.GroupWithZero.Nat

/-!
# Loops that stop themselves

A step either stops the loop or hands it a state to go on with.  An invariant of
the steps holds in the last state, and two loops whose steps stay in lockstep
stop in related states.  A loop that is cut short can be taken up again where it
was cut.
-/

namespace Burnout3Recompiled

inductive StepOutcome (σ : Type*) where
  | stopped (state : σ)
  | continues (state : σ)

namespace StepOutcome

variable {σ τ : Type*}

/-- The state a step leaves. -/
def state : StepOutcome σ → σ
  | stopped state => state
  | continues state => state

/-- The same outcome seen through `f`. -/
def map (f : σ → τ) : StepOutcome σ → StepOutcome τ
  | stopped state => stopped (f state)
  | continues state => continues (f state)

/-- Both steps stop or both go on, in related states. -/
inductive Related (relation : σ → τ → Prop) : StepOutcome σ → StepOutcome τ → Prop
  | stopped {first : σ} {second : τ} (related : relation first second) :
      Related relation (.stopped first) (.stopped second)
  | continues {first : σ} {second : τ} (related : relation first second) :
      Related relation (.continues first) (.continues second)

end StepOutcome

/-- The loop that takes `step` after `step` from `start` on stops in `final`. -/
inductive StopsIn {σ : Type*} (step : σ → StepOutcome σ) : σ → σ → Prop
  | stopped {start final : σ} (stops : step start = .stopped final) :
      StopsIn step start final
  | continues {start next final : σ} (goesOn : step start = .continues next)
      (rest : StopsIn step next final) : StopsIn step start final

namespace StopsIn

variable {σ τ : Type*} {step : σ → StepOutcome σ} {otherStep : τ → StepOutcome τ}
  {start final : σ} {otherStart otherFinal : τ}

/-- The state before the last step has every invariant of the steps that go on. -/
theorem exists_last (Invariant : σ → Prop) (run : StopsIn step start final)
    (initial : Invariant start)
    (keeps : ∀ current next, Invariant current → step current = .continues next →
      Invariant next) :
    ∃ last, Invariant last ∧ step last = .stopped final := by
  induction run with
  | stopped stops => exact ⟨_, initial, stops⟩
  | continues goesOn rest ih => exact ih (keeps _ _ initial goesOn)

/-- What every step preserves, the whole loop preserves. -/
theorem preserves (Invariant : σ → Prop) (run : StopsIn step start final)
    (initial : Invariant start)
    (keeps : ∀ current, Invariant current → Invariant (step current).state) :
    Invariant final := by
  have keepsNext : ∀ current next, Invariant current → step current = .continues next →
      Invariant next := by
    intro current next holds goesOn
    have kept := keeps current holds
    rwa [goesOn] at kept
  obtain ⟨last, holds, stops⟩ := run.exists_last Invariant initial keepsNext
  have kept := keeps last holds
  rwa [stops] at kept

/-- Two loops in lockstep, by induction on the first, of which every step may be used to
know where it stops. -/
theorem lockstepAlong (relation : σ → τ → Prop) (run : StopsIn step start final)
    (otherRun : StopsIn otherStep otherStart otherFinal)
    (initial : relation start otherStart)
    (keeps : ∀ first second, StopsIn step first final → relation first second →
      (step first).Related relation (otherStep second)) :
    relation final otherFinal := by
  induction run generalizing otherStart with
  | stopped stops =>
      have related := keeps _ _ (.stopped stops) initial
      rw [stops] at related
      cases otherRun with
      | stopped otherStops =>
          rw [otherStops] at related
          cases related with
          | stopped related => exact related
      | continues otherGoesOn otherRest =>
          rw [otherGoesOn] at related
          cases related
  | continues goesOn rest ih =>
      have related := keeps _ _ (.continues goesOn rest) initial
      rw [goesOn] at related
      cases otherRun with
      | stopped otherStops =>
          rw [otherStops] at related
          cases related
      | continues otherGoesOn otherRest =>
          rw [otherGoesOn] at related
          cases related with
          | continues related => exact ih otherRest related keeps

theorem lockstep (relation : σ → τ → Prop) (run : StopsIn step start final)
    (otherRun : StopsIn otherStep otherStart otherFinal)
    (initial : relation start otherStart)
    (keeps : ∀ first second, relation first second →
      (step first).Related relation (otherStep second)) :
    relation final otherFinal :=
  run.lockstepAlong relation otherRun initial fun first second _ => keeps first second

/-- A loop stops in one state only. -/
theorem unique {otherFinal : σ} (run : StopsIn step start final)
    (otherRun : StopsIn step start otherFinal) : final = otherFinal := by
  apply run.lockstep (· = ·) otherRun rfl
  rintro current - rfl
  cases step current with
  | stopped state => exact .stopped rfl
  | continues state => exact .continues rfl

/-- A loop whose steps commute with `f`, started in an image of `f`. -/
theorem map {f : σ → τ} (run : StopsIn step start final)
    (commutes : ∀ current, otherStep (f current) = (step current).map f) :
    StopsIn otherStep (f start) (f final) := by
  induction run with
  | @stopped start final stops =>
      apply StopsIn.stopped
      rw [commutes, stops]
      rfl
  | @continues start next final goesOn rest ih =>
      refine .continues (?_ : otherStep (f start) = .continues (f next)) ih
      rw [commutes, goesOn]
      rfl

/-- A loop against the same loop without a cut.  Where the steps do not agree, the
cut stops the one and the other goes on from a state that `Cut` relates to the
stop.  Either no cut is met and both stop with the same step, or the second loop
goes on from the cut. -/
theorem resume {whole : σ → StepOutcome σ} {wholeFinal : σ} (Invariant : σ → Prop)
    (Cut : σ → σ → Prop) (run : StopsIn step start final)
    (wholeRun : StopsIn whole start wholeFinal) (initial : Invariant start)
    (keeps : ∀ current next, Invariant current → step current = .continues next →
      Invariant next)
    (compare : ∀ current, Invariant current → step current = whole current ∨
      ∃ next cut, step current = .stopped cut ∧ whole current = .continues next ∧
        Cut next cut) :
    (wholeFinal = final ∧
        ∃ last, Invariant last ∧ step last = .stopped final ∧
          whole last = .stopped final) ∨
      ∃ next, Cut next final ∧ StopsIn whole next wholeFinal := by
  induction run with
  | @stopped start final stops =>
      rcases compare start initial with same | ⟨next, cut, atCut, goesOn, related⟩
      · have wholeStops := stops
        rw [same] at wholeStops
        exact .inl ⟨wholeRun.unique (.stopped wholeStops), start, initial, stops,
          wholeStops⟩
      · rw [stops] at atCut
        obtain rfl := StepOutcome.stopped.inj atCut
        cases wholeRun with
        | stopped wholeStops =>
            rw [goesOn] at wholeStops
            cases wholeStops
        | continues wholeGoesOn rest =>
            rw [goesOn] at wholeGoesOn
            obtain rfl := StepOutcome.continues.inj wholeGoesOn
            exact .inr ⟨next, related, rest⟩
  | @continues start next final goesOn rest ih =>
      rcases compare start initial with same | ⟨other, cut, atCut, -, -⟩
      · rw [same] at goesOn
        cases wholeRun with
        | stopped wholeStops =>
            rw [goesOn] at wholeStops
            cases wholeStops
        | continues wholeGoesOn wholeRest =>
            rw [goesOn] at wholeGoesOn
            obtain rfl := StepOutcome.continues.inj wholeGoesOn
            exact ih wholeRest (keeps start next initial (same.trans goesOn))
      · rw [goesOn] at atCut
        cases atCut

end StopsIn

section Iterations

variable {σ : Type*} (step : σ → StepOutcome σ)

/-- The states in which the loop takes its steps, in order, up to `fuel` of them. -/
def iterations : Nat → σ → List σ
  | 0, _ => []
  | fuel + 1, start =>
      start ::
        match step start with
        | .stopped _ => []
        | .continues next => iterations fuel next

variable {step} {start next final current : σ} {fuel : Nat}

theorem iterations_of_stopped (stops : step start = .stopped final) :
    iterations step (fuel + 1) start = [start] := by
  rw [iterations, stops]

theorem iterations_of_continues (goesOn : step start = .continues next) :
    iterations step (fuel + 1) start = start :: iterations step fuel next := by
  rw [iterations, goesOn]

theorem sum_map_ite_eq_countP (counted : σ → Bool) (states : List σ) :
    (states.map fun state => if counted state then 1 else 0).sum = states.countP counted := by
  induction states with
  | nil => rfl
  | cons state states ih =>
      rw [List.map_cons, List.sum_cons, ih, List.countP_cons, Nat.add_comm]

/-- Every iteration has what the start has and the steps that go on keep. -/
theorem invariant_of_mem_iterations (Invariant : σ → Prop) (initial : Invariant start)
    (keeps : ∀ current next, Invariant current → step current = .continues next →
      Invariant next) (member : current ∈ iterations step fuel start) :
    Invariant current := by
  induction fuel generalizing start with
  | zero => cases member
  | succ fuel ih =>
      rcases List.mem_cons.mp member with rfl | later
      · exact initial
      · cases outcome : step start with
        | stopped final =>
            rw [outcome] at later
            cases later
        | continues next =>
            rw [outcome] at later
            exact ih (keeps start next initial outcome) later

namespace StopsIn

/-- An iteration that stops is the last one. -/
theorem stopped_of_mem_iterations {stop : σ} (run : StopsIn step start final)
    (member : current ∈ iterations step fuel start) (stops : step current = .stopped stop) :
    stop = final := by
  induction run generalizing fuel with
  | @stopped start final stopsHere =>
      cases fuel with
      | zero => cases member
      | succ fuel =>
          rw [iterations_of_stopped stopsHere] at member
          obtain rfl := List.mem_singleton.mp member
          rw [stops] at stopsHere
          exact StepOutcome.stopped.inj stopsHere
  | @continues start next final goesOn rest ih =>
      cases fuel with
      | zero => cases member
      | succ fuel =>
          rw [iterations_of_continues goesOn] at member
          rcases List.mem_cons.mp member with rfl | later
          · rw [stops] at goesOn
            cases goesOn
          · exact ih later

section Bounded

variable {spare : σ → Nat} {Invariant : σ → Prop}

/-- A loop with enough fuel comes to its last step. -/
theorem exists_last_iteration (run : StopsIn step start final) (initial : Invariant start)
    (keeps : ∀ current next, Invariant current → step current = .continues next →
      Invariant next)
    (positive : ∀ current, Invariant current → 0 < spare current)
    (decreases : ∀ current next, Invariant current → step current = .continues next →
      spare next < spare current)
    (enough : spare start ≤ fuel) :
    ∃ last ∈ iterations step fuel start, step last = .stopped final := by
  induction run generalizing fuel with
  | @stopped start final stops =>
      have room := positive start initial
      obtain ⟨rest, rfl⟩ : ∃ rest, fuel = rest + 1 := ⟨fuel - 1, by omega⟩
      exact ⟨start, .head _, stops⟩
  | @continues start next final goesOn rest ih =>
      have less := decreases start next initial goesOn
      obtain ⟨rest, rfl⟩ : ∃ rest, fuel = rest + 1 := ⟨fuel - 1, by omega⟩
      obtain ⟨last, member, stops⟩ : ∃ last ∈ iterations step rest next, _ :=
        ih (keeps start next initial goesOn) (by omega)
      rw [iterations_of_continues goesOn]
      exact ⟨last, .tail _ member, stops⟩

/-- Two loops stop in the same state when their steps agree in every iteration of the first
one. -/
theorem eq_of_agree {otherStep : σ → StepOutcome σ} {otherFinal : σ}
    (run : StopsIn step start final) (otherRun : StopsIn otherStep start otherFinal)
    (initial : Invariant start)
    (keeps : ∀ current next, Invariant current → step current = .continues next →
      Invariant next)
    (positive : ∀ current, Invariant current → 0 < spare current)
    (decreases : ∀ current next, Invariant current → step current = .continues next →
      spare next < spare current)
    (enough : spare start ≤ fuel)
    (agree : ∀ current ∈ iterations step fuel start, otherStep current = step current) :
    otherFinal = final := by
  induction run generalizing fuel with
  | @stopped start final stops =>
      have room := positive start initial
      obtain ⟨rest, rfl⟩ : ∃ rest, fuel = rest + 1 := ⟨fuel - 1, by omega⟩
      have same := agree start (.head _)
      rw [stops] at same
      cases otherRun with
      | stopped otherStops => exact StepOutcome.stopped.inj (otherStops.symm.trans same)
      | continues goesOn rest => cases goesOn.symm.trans same
  | @continues start next final goesOn rest ih =>
      have less := decreases start next initial goesOn
      obtain ⟨rest, rfl⟩ : ∃ rest, fuel = rest + 1 := ⟨fuel - 1, by omega⟩
      have same := agree start (.head _)
      rw [iterations_of_continues goesOn] at agree
      rw [goesOn] at same
      cases otherRun with
      | stopped otherStops => cases otherStops.symm.trans same
      | continues otherGoesOn otherRest =>
          obtain rfl := StepOutcome.continues.inj (otherGoesOn.symm.trans same)
          exact ih otherRest (keeps start _ initial goesOn) (by omega)
            fun current member => agree current (.tail _ member)

/-- What every step adds to a value, the whole loop adds up. -/
theorem value_eq_sum (value weight : σ → Nat) (run : StopsIn step start final)
    (initial : Invariant start)
    (keeps : ∀ current next, Invariant current → step current = .continues next →
      Invariant next)
    (positive : ∀ current, Invariant current → 0 < spare current)
    (decreases : ∀ current next, Invariant current → step current = .continues next →
      spare next < spare current)
    (adds : ∀ current, Invariant current →
      value (step current).state = value current + weight current)
    (enough : spare start ≤ fuel) :
    value final = value start + ((iterations step fuel start).map weight).sum := by
  induction run generalizing fuel with
  | @stopped start final stops =>
      have room := positive start initial
      obtain ⟨rest, rfl⟩ : ∃ rest, fuel = rest + 1 := ⟨fuel - 1, by omega⟩
      have added := adds start initial
      rw [stops] at added
      rw [iterations_of_stopped stops, List.map_singleton, List.sum_singleton]
      exact added
  | @continues start next final goesOn rest ih =>
      have less := decreases start next initial goesOn
      obtain ⟨rest, rfl⟩ : ∃ rest, fuel = rest + 1 := ⟨fuel - 1, by omega⟩
      have added := adds start initial
      have later : value final = value next + ((iterations step rest next).map weight).sum :=
        ih (keeps start next initial goesOn) (by omega)
      rw [goesOn] at added
      rw [iterations_of_continues goesOn, List.map_cons, List.sum_cons, later, ← Nat.add_assoc]
      exact congrArg (· + ((iterations step rest next).map weight).sum) added

end Bounded

end StopsIn

end Iterations

end Burnout3Recompiled
