import Mathlib.Logic.Basic

/-!
# Ordered checks

A validator is a sequence of checks in `Except`: it reports the failure of the
first check that does not hold and succeeds when all of them do.
-/

namespace Burnout3Recompiled.OrderedChecks

universe u

variable {ε : Type*} {α β : Type u}

/-- Continue when the condition holds, otherwise report `failure`. -/
def ensure (condition : Prop) [Decidable condition] (failure : ε) :
    Except ε Unit :=
  if condition then .ok () else .error failure

@[simp]
theorem ensure_eq_ok_iff {condition : Prop} [Decidable condition] {failure : ε}
    {value : Unit} : ensure condition failure = .ok value ↔ condition := by
  by_cases holds : condition <;> simp [ensure, holds]

@[simp]
theorem bind_eq_ok_iff {check : Except ε α} {next : α → Except ε β} {value : β} :
    check >>= next = .ok value ↔
      ∃ result, check = .ok result ∧ next result = .ok value := by
  cases check with
  | error failure => simp [bind, Except.bind]
  | ok result => simp [bind, Except.bind]

theorem map_eq_ok_iff {check : Except ε α} {function : α → β} {value : β} :
    check.map function = .ok value ↔
      ∃ result, check = .ok result ∧ function result = value := by
  cases check with
  | error failure => simp [Except.map]
  | ok result => simp [Except.map]

theorem toOption_eq_some_iff {check : Except ε α} {value : α} :
    check.toOption = some value ↔ check = .ok value := by
  cases check with
  | error failure => simp [Except.toOption]
  | ok result => simp [Except.toOption]

section Alike

variable {κ : Type*} {kind : ε → κ}

/-- Both checks succeed with the same value, or they fail with failures of one kind. -/
def Alike (kind : ε → κ) (first second : Except ε α) : Prop :=
  first.mapError kind = second.mapError kind

theorem alike_ok (value : α) : Alike kind (.ok value) (.ok value) :=
  rfl

theorem alike_error {first second : ε} (same : kind first = kind second) :
    Alike kind (.error first : Except ε α) (.error second) :=
  congrArg Except.error same

theorem alike_ensure {condition : Prop} [Decidable condition] {first second : ε}
    (same : kind first = kind second) :
    Alike kind (ensure condition first) (ensure condition second) := by
  unfold ensure
  split
  · exact alike_ok ()
  · exact alike_error same

/-- Two sequences of checks fail alike when their parts do. -/
theorem Alike.bind {first second : Except ε α} {firstNext secondNext : α → Except ε β}
    (alike : Alike kind first second)
    (next : ∀ value, Alike kind (firstNext value) (secondNext value)) :
    Alike kind (first >>= firstNext) (second >>= secondNext) := by
  cases first with
  | error failure =>
      cases second with
      | error other => exact alike_error (Except.error.inj alike)
      | ok value => cases alike
  | ok value =>
      cases second with
      | error other => cases alike
      | ok other =>
          obtain rfl := Except.ok.inj alike
          exact next value

theorem alike_ensure_bind {γ : Type} {condition : Prop} [Decidable condition]
    {first second : ε} {firstNext secondNext : Unit → Except ε γ}
    (same : kind first = kind second)
    (next : ∀ value, Alike kind (firstNext value) (secondNext value)) :
    Alike kind (ensure condition first >>= firstNext)
      (ensure condition second >>= secondNext) :=
  (alike_ensure same).bind next

theorem Alike.eq_ok {first second : Except ε α} {value : α}
    (alike : Alike kind first second) (succeeds : first = .ok value) :
    second = .ok value := by
  subst succeeds
  cases second with
  | error failure => cases alike
  | ok other => exact congrArg Except.ok (Except.ok.inj alike).symm

theorem Alike.eq_error {first second : Except ε α} {failure : ε}
    (alike : Alike kind first second) (fails : first = .error failure) :
    ∃ other, second = .error other ∧ kind failure = kind other := by
  subst fails
  cases second with
  | error other => exact ⟨other, rfl, Except.error.inj alike⟩
  | ok value => cases alike

end Alike

/-- The checks of a list in order, each with the failure it reports. -/
def runChecks : List (Bool × ε) → Except ε Unit
  | [] => .ok ()
  | check :: checks => if check.1 then runChecks checks else .error check.2

theorem runChecks_append (first second : List (Bool × ε)) :
    runChecks (first ++ second) = runChecks first >>= fun _ => runChecks second := by
  induction first with
  | nil => rfl
  | cons check checks ih =>
      rw [List.cons_append, runChecks, runChecks, ih]
      split <;> rfl

theorem runChecks_eq_ok_iff {checks : List (Bool × ε)} :
    runChecks checks = .ok () ↔ ∀ check ∈ checks, check.1 = true := by
  induction checks with
  | nil => simp [runChecks]
  | cons check checks ih =>
      rw [runChecks, List.forall_mem_cons, ← ih]
      split
      · next holds => simp [holds]
      · next violated => simp [violated]

/-- The reported failure is the one of the first violated check. -/
theorem runChecks_eq_error_iff {checks : List (Bool × ε)} {failure : ε} :
    runChecks checks = .error failure ↔
      ∃ before after, checks = before ++ (false, failure) :: after ∧
        ∀ check ∈ before, check.1 = true := by
  constructor
  · intro failed
    induction checks with
    | nil => cases failed
    | cons check checks ih =>
        rw [runChecks] at failed
        split at failed
        · next holds =>
            obtain ⟨before, after, rfl, passed⟩ := ih failed
            exact ⟨check :: before, after, rfl, List.forall_mem_cons.mpr ⟨holds, passed⟩⟩
        · next violated =>
            obtain rfl := Except.error.inj failed
            refine ⟨[], checks, ?_, by simp⟩
            rw [← eq_false_of_ne_true violated]
            rfl
  · rintro ⟨before, after, rfl, passed⟩
    rw [runChecks_append, runChecks_eq_ok_iff.mpr passed]
    rfl

end Burnout3Recompiled.OrderedChecks
