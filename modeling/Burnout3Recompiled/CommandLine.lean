import Mathlib.Data.List.Basic
import Mathlib.Data.List.Nodup
import Mathlib.Data.List.Perm.Basic
import Mathlib.Tactic.Common

/-!
# Command lines

A program reads its arguments one behind the other, and an argument may take further ones
with it.  A grammar says which arguments name an option, whether a value has to follow,
and whether the option may come again.  What a grammar reads is a list of groups, and the
arguments are the words of these groups.
-/

namespace Burnout3Recompiled

namespace CommandLine

section Arguments

variable {σ τ α ε φ : Type*}

/-- Each step sees one argument and those behind it, and says how many of them it takes.
A failure comes with the state it is met in. -/
def readArguments (step : σ → α → List α → Except ε (σ × Nat)) (state : σ) (args : List α) :
    Except (ε × σ) σ :=
  match args with
  | [] => .ok state
  | arg :: rest =>
      match step state arg rest with
      | .error failure => .error (failure, state)
      | .ok (next, taken) => readArguments step next (rest.drop taken)
termination_by args.length
decreasing_by
  rw [List.length_drop, List.length_cons]
  omega

variable {step : σ → α → List α → Except ε (σ × Nat)} {state : σ} {arg : α} {rest : List α}

theorem readArguments_nil (state : σ) : readArguments step state [] = .ok state := by
  rw [readArguments]

theorem readArguments_error {failure : ε} (fails : step state arg rest = .error failure) :
    readArguments step state (arg :: rest) = .error (failure, state) := by
  rw [readArguments, fails]

theorem readArguments_ok {next : σ} {taken : Nat}
    (continues : step state arg rest = .ok (next, taken)) :
    readArguments step state (arg :: rest) = readArguments step next (rest.drop taken) := by
  rw [readArguments, continues]

/-- A program whose states and failures are images of those of another program. -/
theorem readArguments_image {other : τ → α → List α → Except φ (τ × Nat)} {image : τ → σ}
    {report : φ → ε}
    (steps : ∀ state arg rest, step (image state) arg rest =
      ((other state arg rest).mapError report).map fun next => (image next.1, next.2))
    (state : τ) (args : List α) :
    readArguments step (image state) args =
      ((readArguments other state args).mapError (Prod.map report image)).map image := by
  induction length : args.length using Nat.strongRecOn generalizing state args with
  | ind length ih =>
      cases args with
      | nil =>
          rw [readArguments_nil, readArguments_nil]
          rfl
      | cons arg rest =>
          have here := steps state arg rest
          cases outcome : other state arg rest with
          | error failure =>
              rw [outcome] at here
              rw [readArguments_error here, readArguments_error outcome]
              rfl
          | ok next =>
              rw [outcome] at here
              rw [readArguments_ok here, readArguments_ok outcome]
              refine ih (rest.drop next.2).length ?_ next.1 _ rfl
              rw [← length, List.length_drop, List.length_cons]
              omega

end Arguments

/-- Which arguments name an option and what may stand behind them. -/
structure Grammar (κ α : Type*) where
  keyOf : α → Option κ
  name : κ → α
  keyOf_eq_some_iff : ∀ {arg key}, keyOf arg = some key ↔ name key = arg
  takesValue : κ → Bool
  once : κ → Bool
  /-- Such an argument is no value. -/
  isOption : α → Bool
  accepts : κ → α → Bool

/-- The option with the name, out of all options. -/
def keyOfName {κ α : Type*} [DecidableEq α] (keys : List κ) (name : κ → α) (arg : α) :
    Option κ :=
  keys.find? (name · = arg)

theorem keyOfName_eq_some_iff {κ α : Type*} [DecidableEq α] {keys : List κ} {name : κ → α}
    (all : ∀ key, key ∈ keys) (distinct : (keys.map name).Nodup) {arg : α} {key : κ} :
    keyOfName keys name arg = some key ↔ name key = arg := by
  have named {found : κ} (present : keyOfName keys name arg = some found) :
      name found = arg := by
    rw [keyOfName] at present
    simpa using List.find?_some present
  constructor
  · exact named
  · rintro rfl
    cases found : keyOfName keys name (name key) with
    | none =>
        have differs := List.find?_eq_none.mp found key (all key)
        simp at differs
    | some other =>
        have same : name other = name key := named found
        rw [List.inj_on_of_nodup_map distinct (all other) (all key) same]

/-- An option with its value. -/
@[ext]
structure Group (κ α : Type*) where
  key : κ
  value : Option α := none

inductive Fault (κ α : Type*) where
  | unknown (arg : α)
  | duplicate (key : κ)
  | missingValue (key : κ)
  | invalidValue (key : κ) (value : α)

section Groups

variable {κ α : Type*} [DecidableEq κ] {grammar : Grammar κ α} {groups others : List (Group κ α)}
  {key : κ}

def has (key : κ) (groups : List (Group κ α)) : Bool :=
  groups.any (·.key = key)

/-- The value of an option, of its first occurrence. -/
def valueOf (key : κ) (groups : List (Group κ α)) : Option α :=
  (groups.find? (·.key = key)).bind (·.value)

/-- The arguments of a group. -/
def words (grammar : Grammar κ α) (group : Group κ α) : List α :=
  grammar.name group.key :: group.value.toList

namespace Grammar

/-- Read one option behind the groups that have been read. -/
def readGroup (grammar : Grammar κ α) (groups : List (Group κ α)) (arg : α) (rest : List α) :
    Except (Fault κ α) (List (Group κ α) × Nat) :=
  match grammar.keyOf arg with
  | none => .error (.unknown arg)
  | some key =>
      if grammar.once key ∧ has key groups then .error (.duplicate key)
      else if grammar.takesValue key then
        match rest.head? with
        | none => .error (.missingValue key)
        | some value =>
            if grammar.isOption value then .error (.missingValue key)
            else if grammar.accepts key value then .ok (groups ++ [⟨key, some value⟩], 1)
            else .error (.invalidValue key value)
      else .ok (groups ++ [⟨key, none⟩], 0)

def read (grammar : Grammar κ α) (args : List α) :
    Except (Fault κ α × List (Group κ α)) (List (Group κ α)) :=
  readArguments grammar.readGroup [] args

/-- The group has a value exactly when its option takes one. -/
structure Fits (grammar : Grammar κ α) (group : Group κ α) : Prop where
  valued : group.value.isSome = grammar.takesValue group.key
  accepted : ∀ value ∈ group.value,
    grammar.isOption value = false ∧ grammar.accepts group.key value = true

/-- What a command line consists of. -/
structure IsLine (grammar : Grammar κ α) (groups : List (Group κ α)) : Prop where
  fits : ∀ group ∈ groups, grammar.Fits group
  distinct : groups.Pairwise fun first second =>
    grammar.once first.key = true → first.key ≠ second.key

/-- What stands at the first argument that is no group, behind the given ones. -/
inductive FaultAt (grammar : Grammar κ α) (groups : List (Group κ α)) :
    List α → Fault κ α → Prop where
  | unknown {arg : α} {rest : List α} (unnamed : ∀ key, grammar.name key ≠ arg) :
      FaultAt grammar groups (arg :: rest) (.unknown arg)
  | duplicate {key : κ} {rest : List α} (once : grammar.once key = true)
      (again : has key groups = true) :
      FaultAt grammar groups (grammar.name key :: rest) (.duplicate key)
  | missingValue {key : κ} {rest : List α}
      (fresh : grammar.once key = true → has key groups = false)
      (takesValue : grammar.takesValue key = true)
      (missing : ∀ value ∈ rest.head?, grammar.isOption value = true) :
      FaultAt grammar groups (grammar.name key :: rest) (.missingValue key)
  | invalidValue {key : κ} {value : α} {rest : List α}
      (fresh : grammar.once key = true → has key groups = false)
      (takesValue : grammar.takesValue key = true)
      (noOption : grammar.isOption value = false)
      (refused : grammar.accepts key value = false) :
      FaultAt grammar groups (grammar.name key :: value :: rest) (.invalidValue key value)

section OneGroup

variable {arg : α} {rest : List α} {next : List (Group κ α)} {taken : Nat} {group : Group κ α}
  {fault : Fault κ α}

/-- A group that may come behind the given ones. -/
structure MayFollow (grammar : Grammar κ α) (groups : List (Group κ α)) (group : Group κ α) :
    Prop where
  fits : grammar.Fits group
  fresh : grammar.once group.key = true → has group.key groups = false

omit [DecidableEq κ] in
theorem keyOf_name (grammar : Grammar κ α) (key : κ) :
    grammar.keyOf (grammar.name key) = some key :=
  grammar.keyOf_eq_some_iff.mpr rfl

theorem not_duplicate (fresh : grammar.once key = true → has key groups = false) :
    ¬(grammar.once key = true ∧ has key groups = true) := by
  rintro ⟨once, again⟩
  rw [fresh once] at again
  cases again

theorem readGroup_words (follows : grammar.MayFollow groups group) (rest : List α) :
    grammar.readGroup groups (grammar.name group.key) (group.value.toList ++ rest) =
      .ok (groups ++ [group], group.value.toList.length) := by
  obtain ⟨⟨valued, accepted⟩, fresh⟩ := follows
  rw [readGroup, keyOf_name]
  simp only [if_neg (not_duplicate fresh), ← valued]
  obtain ⟨key, _ | value⟩ := group
  · simp
  · obtain ⟨noOption, accepts⟩ := accepted value rfl
    simp only at noOption accepts
    simp [noOption, accepts]

theorem exists_words_of_readGroup
    (continues : grammar.readGroup groups arg rest = .ok (next, taken)) :
    ∃ group behind, grammar.MayFollow groups group ∧
      arg :: rest = words grammar group ++ behind := by
  unfold readGroup at continues
  split at continues
  · cases continues
  · next key named =>
      obtain rfl := grammar.keyOf_eq_some_iff.mp named
      split at continues
      · cases continues
      · next unique =>
          have fresh (once : grammar.once key = true) : has key groups = false :=
            eq_false_of_ne_true fun again => unique ⟨once, again⟩
          split at continues
          · next takesValue =>
              split at continues
              · cases continues
              · next value present =>
                  obtain ⟨behind, rfl⟩ := List.head?_eq_some_iff.mp present
                  split at continues
                  · cases continues
                  · next noOption =>
                      split at continues
                      · next accepts =>
                          cases continues
                          have accepted : ∀ other ∈ some value,
                              grammar.isOption other = false ∧
                                grammar.accepts key other = true := by
                            rintro other ⟨⟩
                            exact ⟨eq_false_of_ne_true noOption, accepts⟩
                          exact ⟨⟨key, some value⟩, behind,
                            ⟨⟨takesValue.symm, accepted⟩, fresh⟩, rfl⟩
                      · cases continues
          · next noValue =>
              cases continues
              exact ⟨⟨key, none⟩, rest, ⟨⟨(eq_false_of_ne_true noValue).symm, by simp⟩,
                fresh⟩, rfl⟩

theorem readGroup_eq_error_iff :
    grammar.readGroup groups arg rest = .error fault ↔
      grammar.FaultAt groups (arg :: rest) fault := by
  constructor
  · intro fails
    unfold readGroup at fails
    split at fails
    · next unnamed =>
        cases fails
        refine .unknown fun key named => ?_
        rw [grammar.keyOf_eq_some_iff.mpr named] at unnamed
        cases unnamed
    · next key named =>
        obtain rfl := grammar.keyOf_eq_some_iff.mp named
        split at fails
        · next again =>
            cases fails
            exact .duplicate again.1 again.2
        · next unique =>
            have fresh (once : grammar.once key = true) : has key groups = false :=
              eq_false_of_ne_true fun again => unique ⟨once, again⟩
            split at fails
            · next takesValue =>
                split at fails
                · next missing =>
                    cases fails
                    refine .missingValue fresh takesValue ?_
                    rw [missing]
                    exact fun value member => absurd member (Option.not_mem_none value)
                · next value present =>
                    obtain ⟨behind, rfl⟩ := List.head?_eq_some_iff.mp present
                    split at fails
                    · next isOption =>
                        cases fails
                        refine .missingValue fresh takesValue ?_
                        rintro other ⟨⟩
                        exact isOption
                    · next noOption =>
                        split at fails
                        · cases fails
                        · next refused =>
                            cases fails
                            exact .invalidValue fresh takesValue
                              (eq_false_of_ne_true noOption) (eq_false_of_ne_true refused)
            · cases fails
  · intro fault
    cases fault with
    | unknown unnamed =>
        have noKey : grammar.keyOf arg = none := by
          cases named : grammar.keyOf arg with
          | none => rfl
          | some key => exact absurd (grammar.keyOf_eq_some_iff.mp named) (unnamed key)
        rw [readGroup, noKey]
    | duplicate once again =>
        rw [readGroup, keyOf_name]
        simp only [if_pos (And.intro once again)]
    | missingValue fresh takesValue missing =>
        rw [readGroup, keyOf_name]
        simp only [if_neg (not_duplicate fresh), if_pos takesValue]
        cases present : rest.head? with
        | none => rfl
        | some value => simp only [if_pos (missing value present)]
    | invalidValue fresh takesValue noOption refused =>
        rw [readGroup, keyOf_name]
        simp [not_duplicate fresh, takesValue, noOption, refused]

end OneGroup

section Lines

variable {args : List α} {fault : Fault κ α}

omit [DecidableEq κ] in
theorem isLine_nil (grammar : Grammar κ α) : grammar.IsLine [] :=
  ⟨fun _ member => (List.not_mem_nil member).elim, .nil⟩

theorem isLine_append_singleton {group : Group κ α} :
    grammar.IsLine (groups ++ [group]) ↔
      grammar.IsLine groups ∧ grammar.MayFollow groups group := by
  have notHas : (∀ other ∈ groups, grammar.once other.key = true → other.key ≠ group.key) ↔
      (grammar.once group.key = true → has group.key groups = false) := by
    simp only [has, List.any_eq_false, decide_eq_true_eq]
    constructor
    · intro distinct once other member same
      exact distinct other member (by rwa [same]) same
    · intro fresh other member once same
      rw [same] at once
      exact fresh once other member same
  constructor
  · rintro ⟨fits, distinct⟩
    rw [List.forall_mem_append, List.forall_mem_singleton] at fits
    rw [List.pairwise_append] at distinct
    refine ⟨⟨fits.1, distinct.1⟩, fits.2, notHas.mp fun other member => ?_⟩
    exact distinct.2.2 other member group (List.mem_singleton_self group)
  · rintro ⟨⟨fits, distinct⟩, follows⟩
    refine ⟨?_, List.pairwise_append.mpr ⟨distinct, List.pairwise_singleton _ _, ?_⟩⟩
    · rw [List.forall_mem_append, List.forall_mem_singleton]
      exact ⟨fits, follows.fits⟩
    · intro other member last isLast
      rw [List.mem_singleton.mp isLast]
      exact notHas.mpr follows.fresh other member

/-- Reading goes on behind what has been read. -/
theorem readArguments_words {added : List (Group κ α)}
    (isLine : grammar.IsLine (groups ++ added)) (rest : List α) :
    readArguments grammar.readGroup groups (added.flatMap (words grammar) ++ rest) =
      readArguments grammar.readGroup (groups ++ added) rest := by
  induction added generalizing groups with
  | nil => rw [List.flatMap_nil, List.nil_append, List.append_nil]
  | cons group added ih =>
      rw [List.append_cons] at isLine
      have here : grammar.IsLine (groups ++ [group]) := by
        refine ⟨fun other member => isLine.fits other (List.mem_append_left _ member), ?_⟩
        exact isLine.distinct.sublist (List.sublist_append_left _ _)
      have reads := readGroup_words (isLine_append_singleton.mp here).2
        (added.flatMap (words grammar) ++ rest)
      rw [List.flatMap_cons, words, List.cons_append, List.cons_append, List.append_assoc,
        readArguments_ok reads, List.drop_left, ih isLine, ← List.append_cons]

/-- What has been read before the outcome is known. -/
theorem exists_line_of_readArguments (isLine : grammar.IsLine groups) (args : List α) :
    ∃ added rest, grammar.IsLine (groups ++ added) ∧
      args = added.flatMap (words grammar) ++ rest ∧
      (rest = [] ∨ ∃ fault, grammar.FaultAt (groups ++ added) rest fault) := by
  induction length : args.length using Nat.strongRecOn generalizing groups args with
  | ind count ih =>
      cases args with
      | nil => exact ⟨[], [], by rwa [List.append_nil], rfl, .inl rfl⟩
      | cons arg rest =>
          cases outcome : grammar.readGroup groups arg rest with
          | error fault =>
              refine ⟨[], arg :: rest, by rwa [List.append_nil], rfl, .inr ⟨fault, ?_⟩⟩
              rw [List.append_nil]
              exact readGroup_eq_error_iff.mp outcome
          | ok next =>
              obtain ⟨group, behind, follows, split⟩ := exists_words_of_readGroup outcome
              have shorter : behind.length < count := by
                rw [← length, split, List.length_append, words, List.length_cons]
                omega
              obtain ⟨added, last, lines, rfl, ends⟩ := ih behind.length shorter
                (isLine_append_singleton.mpr ⟨isLine, follows⟩) behind rfl
              rw [← List.append_cons] at lines
              simp only [← List.append_cons] at ends
              refine ⟨group :: added, last, lines, ?_, ends⟩
              rw [split, List.flatMap_cons, List.append_assoc]

theorem exists_line_of_read (grammar : Grammar κ α) (args : List α) :
    ∃ groups rest, grammar.IsLine groups ∧ args = groups.flatMap (words grammar) ++ rest ∧
      (rest = [] ∨ ∃ fault, grammar.FaultAt groups rest fault) :=
  exists_line_of_readArguments (isLine_nil grammar) args

theorem read_words (isLine : grammar.IsLine groups) :
    grammar.read (groups.flatMap (words grammar)) = .ok groups := by
  have reads := @readArguments_words _ _ _ grammar [] groups isLine []
  rw [List.append_nil, List.nil_append, readArguments_nil] at reads
  exact reads

theorem read_words_fault {rest : List α} (isLine : grammar.IsLine groups)
    (faultAt : grammar.FaultAt groups rest fault) :
    grammar.read (groups.flatMap (words grammar) ++ rest) = .error (fault, groups) := by
  have reads := @readArguments_words _ _ _ grammar [] groups isLine rest
  rw [List.nil_append] at reads
  rw [read, reads]
  cases rest with
  | nil => cases faultAt
  | cons arg rest => exact readArguments_error (readGroup_eq_error_iff.mpr faultAt)

/-- A command line is read exactly as the groups whose words it consists of. -/
theorem read_eq_ok_iff :
    grammar.read args = .ok groups ↔
      args = groups.flatMap (words grammar) ∧ grammar.IsLine groups := by
  constructor
  · intro reads
    obtain ⟨added, rest, isLine, rfl, rfl | ⟨fault, faultAt⟩⟩ :=
      exists_line_of_read grammar args
    · rw [List.append_nil] at reads ⊢
      rw [read_words isLine] at reads
      cases reads
      exact ⟨rfl, isLine⟩
    · rw [read_words_fault isLine faultAt] at reads
      cases reads
  · rintro ⟨rfl, isLine⟩
    exact read_words isLine

/-- A command line is refused for the first argument that does not start a group. -/
theorem read_eq_error_iff :
    grammar.read args = .error (fault, groups) ↔
      grammar.IsLine groups ∧ ∃ rest, args = groups.flatMap (words grammar) ++ rest ∧
        grammar.FaultAt groups rest fault := by
  constructor
  · intro reads
    obtain ⟨added, rest, isLine, rfl, rfl | ⟨other, faultAt⟩⟩ :=
      exists_line_of_read grammar args
    · rw [List.append_nil, read_words isLine] at reads
      cases reads
    · rw [read_words_fault isLine faultAt] at reads
      cases reads
      exact ⟨isLine, rest, rfl, faultAt⟩
  · rintro ⟨isLine, rest, rfl, faultAt⟩
    exact read_words_fault isLine faultAt

omit [DecidableEq κ] in
/-- The groups of a line may come in any order. -/
theorem IsLine.of_perm (isLine : grammar.IsLine groups) (permuted : groups.Perm others) :
    grammar.IsLine others := by
  refine ⟨fun group member => isLine.fits group (permuted.mem_iff.mpr member), ?_⟩
  refine (permuted.pairwise_iff fun {first second} distinct once same => ?_).mp
    isLine.distinct
  exact distinct (by rwa [← same]) same.symm

end Lines

section Programs

variable {σ ε : Type*} {step : σ → α → List α → Except ε (σ × Nat)}
  {image : List (Group κ α) → σ} {report : Fault κ α → ε}

/-- Behind any groups the program takes the groups that may follow and reports the faults. -/
structure ReadBy (grammar : Grammar κ α) (step : σ → α → List α → Except ε (σ × Nat))
    (image : List (Group κ α) → σ) (report : Fault κ α → ε) : Prop where
  group : ∀ groups group rest, grammar.MayFollow groups group →
    step (image groups) (grammar.name group.key) (group.value.toList ++ rest) =
      .ok (image (groups ++ [group]), group.value.toList.length)
  fault : ∀ groups arg rest fault, grammar.FaultAt groups (arg :: rest) fault →
    step (image groups) arg rest = .error (report fault)

/-- Such a program is the reader of the grammar. -/
theorem ReadBy.readArguments_eq (readBy : grammar.ReadBy step image report) (args : List α) :
    readArguments step (image []) args =
      ((grammar.read args).mapError (Prod.map report image)).map image := by
  refine readArguments_image (fun groups arg rest => ?_) [] args
  cases outcome : grammar.readGroup groups arg rest with
  | error fault => exact readBy.fault _ _ _ _ (readGroup_eq_error_iff.mp outcome)
  | ok next =>
      obtain ⟨group, behind, follows, split⟩ := exists_words_of_readGroup outcome
      rw [words, List.cons_append] at split
      obtain ⟨rfl, rfl⟩ := List.cons.inj split
      rw [readGroup_words follows] at outcome
      rw [readBy.group groups group behind follows, ← Except.ok.inj outcome]
      rfl

end Programs

end Grammar

section Lookup

variable {group : Group κ α} {value : α}

@[simp] theorem has_nil (key : κ) : has key ([] : List (Group κ α)) = false :=
  rfl

@[simp] theorem has_append (key : κ) (groups others : List (Group κ α)) :
    has key (groups ++ others) = (has key groups || has key others) :=
  List.any_append

@[simp] theorem has_singleton (key : κ) (group : Group κ α) :
    has key [group] = decide (group.key = key) := by
  simp [has]

theorem has_perm (permuted : groups.Perm others) (key : κ) :
    has key groups = has key others :=
  permuted.any_eq

@[simp] theorem valueOf_nil (key : κ) : valueOf key ([] : List (Group κ α)) = none :=
  rfl

theorem valueOf_append_of_not_has (fresh : has key groups = false) :
    valueOf key (groups ++ others) = valueOf key others := by
  have none : groups.find? (·.key = key) = none := by
    simpa [has, List.find?_eq_none] using fresh
  rw [valueOf, List.find?_append, none, Option.none_or, valueOf]

theorem valueOf_append_of_ne (different : group.key ≠ key) :
    valueOf key (groups ++ [group]) = valueOf key groups := by
  rw [valueOf, List.find?_append]
  simp [different, valueOf]

@[simp] theorem valueOf_singleton (key : κ) (value : Option α) :
    valueOf key [⟨key, value⟩] = value := by
  simp [valueOf]

/-- An option that comes once has the value of its only group. -/
theorem Grammar.IsLine.valueOf_eq_some_iff (isLine : grammar.IsLine groups)
    (once : grammar.once key = true) :
    valueOf key groups = some value ↔ ⟨key, some value⟩ ∈ groups := by
  induction groups with
  | nil => simp
  | cons group groups ih =>
      obtain ⟨distinct, rest⟩ := List.pairwise_cons.mp isLine.distinct
      have ih := ih ⟨fun other member => isLine.fits other (List.mem_cons_of_mem _ member),
        rest⟩
      obtain ⟨other, otherValue⟩ := group
      rw [valueOf, List.find?_cons, List.mem_cons]
      by_cases same : other = key
      · subst same
        have only : ⟨other, some value⟩ ∉ groups :=
          fun later => distinct _ later once rfl
        simp [only, Group.ext_iff, eq_comm]
      · have different : (⟨key, some value⟩ : Group κ α) ≠ ⟨other, otherValue⟩ :=
          fun equal => same (congrArg Group.key equal).symm
        rw [valueOf] at ih
        simp only [same, decide_false, ih, different, false_or]

/-- The value of an option is one its grammar accepts. -/
theorem Grammar.IsLine.accepted_of_valueOf (isLine : grammar.IsLine groups)
    (once : grammar.once key = true) (present : valueOf key groups = some value) :
    grammar.isOption value = false ∧ grammar.accepts key value = true :=
  (isLine.fits _ ((isLine.valueOf_eq_some_iff once).mp present)).accepted value rfl

theorem Grammar.IsLine.valueOf_perm (isLine : grammar.IsLine groups)
    (permuted : groups.Perm others) (once : grammar.once key = true) :
    valueOf key groups = valueOf key others := by
  apply Option.ext
  intro value
  rw [isLine.valueOf_eq_some_iff once, (isLine.of_perm permuted).valueOf_eq_some_iff once,
    permuted.mem_iff]

end Lookup

section Meaning

variable {σ ε : Type*} {complete : List (Group κ α) → Bool} {meaning : List (Group κ α) → σ}
  {report : Fault κ α → ε} {incomplete : ε} {parse : List α → Except ε σ}

/-- The program accepts the complete lines of the grammar, in any order of their groups, and
reports the first fault of all other arguments. -/
structure Grammar.Parses (grammar : Grammar κ α) (complete : List (Group κ α) → Bool)
    (meaning : List (Group κ α) → σ) (report : Fault κ α → ε) (incomplete : ε)
    (parse : List α → Except ε σ) : Prop where
  accepted : ∀ args options, parse args = .ok options ↔
    ∃ groups, grammar.IsLine groups ∧ args = groups.flatMap (words grammar) ∧
      complete groups = true ∧ meaning groups = options
  refused : ∀ args failure, parse args = .error failure ↔
    (∃ groups rest fault, grammar.IsLine groups ∧
      args = groups.flatMap (words grammar) ++ rest ∧ grammar.FaultAt groups rest fault ∧
        report fault = failure) ∨
    ∃ groups, grammar.IsLine groups ∧ args = groups.flatMap (words grammar) ∧
      complete groups = false ∧ incomplete = failure
  anyOrder : ∀ groups others, grammar.IsLine groups → groups.Perm others →
    parse (groups.flatMap (words grammar)) = parse (others.flatMap (words grammar))

/-- Read all arguments, and only then see whether something is missing. -/
def Grammar.interpret (grammar : Grammar κ α) (complete : List (Group κ α) → Bool)
    (meaning : List (Group κ α) → σ) (report : Fault κ α → ε) (incomplete : ε)
    (args : List α) : Except ε σ :=
  match grammar.read args with
  | .error (fault, _) => .error (report fault)
  | .ok groups => if complete groups then .ok (meaning groups) else .error incomplete

theorem Grammar.parses_of_interprets
    (interprets : ∀ args, parse args =
      grammar.interpret complete meaning report incomplete args)
    (sameComplete : ∀ groups others, grammar.IsLine groups → groups.Perm others →
      complete groups = complete others)
    (sameMeaning : ∀ groups others, grammar.IsLine groups → groups.Perm others →
      meaning groups = meaning others) :
    grammar.Parses complete meaning report incomplete parse where
  accepted := by
    intro args options
    rw [interprets, Grammar.interpret]
    constructor
    · intro accepts
      split at accepts
      · cases accepts
      · next groups read =>
          obtain ⟨rfl, isLine⟩ := Grammar.read_eq_ok_iff.mp read
          split at accepts
          · next isComplete => exact ⟨groups, isLine, rfl, isComplete, Except.ok.inj accepts⟩
          · cases accepts
    · rintro ⟨groups, isLine, rfl, isComplete, rfl⟩
      simp only [Grammar.read_words isLine, if_pos isComplete]
  refused := by
    intro args failure
    rw [interprets, Grammar.interpret]
    constructor
    · intro refuses
      split at refuses
      · next fault groups read =>
          obtain ⟨isLine, rest, split, faultAt⟩ := Grammar.read_eq_error_iff.mp read
          exact .inl ⟨groups, rest, fault, isLine, split, faultAt, Except.error.inj refuses⟩
      · next groups read =>
          obtain ⟨rfl, isLine⟩ := Grammar.read_eq_ok_iff.mp read
          split at refuses
          · cases refuses
          · next isIncomplete =>
              exact .inr ⟨groups, isLine, rfl, eq_false_of_ne_true isIncomplete,
                Except.error.inj refuses⟩
    · rintro (⟨groups, rest, fault, isLine, rfl, faultAt, rfl⟩ |
        ⟨groups, isLine, rfl, isIncomplete, rfl⟩)
      · simp only [Grammar.read_words_fault isLine faultAt]
      · simp [Grammar.read_words isLine, isIncomplete]
  anyOrder := by
    intro groups others isLine permuted
    rw [interprets, interprets, Grammar.interpret, Grammar.interpret,
      Grammar.read_words isLine, Grammar.read_words (isLine.of_perm permuted)]
    simp only [sameComplete groups others isLine permuted,
      sameMeaning groups others isLine permuted]

/-- Arguments are refused exactly when they are no complete line. -/
theorem Grammar.Parses.refuses_iff
    (parses : grammar.Parses complete meaning report incomplete parse) {args : List α} :
    (∃ failure, parse args = .error failure) ↔
      ∀ groups, grammar.IsLine groups → args = groups.flatMap (words grammar) →
        complete groups = false := by
  constructor
  · rintro ⟨failure, refuses⟩ groups isLine isArgs
    apply eq_false_of_ne_true
    intro isComplete
    have accepts := (parses.accepted args _).mpr ⟨groups, isLine, isArgs, isComplete, rfl⟩
    cases refuses.symm.trans accepts
  · intro isIncomplete
    cases parsed : parse args with
    | error failure => exact ⟨failure, rfl⟩
    | ok options =>
        obtain ⟨groups, isLine, isArgs, isComplete, -⟩ := (parses.accepted args options).mp parsed
        rw [isIncomplete groups isLine isArgs] at isComplete
        cases isComplete

end Meaning

end Groups

end CommandLine

end Burnout3Recompiled
