import Burnout3Recompiled.CommandLine

/-!
# Options of the runtime

The runtime reads its arguments with one loop in which every option may come again, and the
later one counts.  A value may be any argument, and a failure leaves the options that have
been read before it.
-/

namespace Burnout3Recompiled

open CommandLine

structure RuntimeOptions where
  debug : Bool := false
  verbose : Bool := false
  windowed : Bool := true
  fullscreen : Bool := false
  disableAudio : Bool := false
  frameStats : Bool := false
  gameData : String := ""
  logLevel : String := "info"
  deriving DecidableEq, Repr

structure RuntimeOptions.ParseResult where
  options : RuntimeOptions := {}
  ok : Bool := true
  error : String := ""
  deriving DecidableEq, Repr

def readRuntimeOption (options : RuntimeOptions) (arg : String) (rest : List String) :
    Except String (RuntimeOptions × Nat) :=
  if arg = "--debug" then .ok ({ options with debug := true }, 0)
  else if arg = "--verbose" then .ok ({ options with verbose := true }, 0)
  else if arg = "--windowed" then
    .ok ({ options with windowed := true, fullscreen := false }, 0)
  else if arg = "--fullscreen" then
    .ok ({ options with fullscreen := true, windowed := false }, 0)
  else if arg = "--disable-audio" then .ok ({ options with disableAudio := true }, 0)
  else if arg = "--frame-stats" then .ok ({ options with frameStats := true }, 0)
  else if arg = "--game-data" ∨ arg = "--log-level" then
    match rest.head? with
    | none => .error (arg ++ " requires a value")
    | some value =>
        if arg = "--game-data" then .ok ({ options with gameData := value }, 1)
        else .ok ({ options with logLevel := value }, 1)
  else .error ("Unknown argument: " ++ arg)

/-- The first argument is the program. -/
def RuntimeOptions.parse (args : List String) : RuntimeOptions.ParseResult :=
  match readArguments readRuntimeOption {} (args.drop 1) with
  | .error (error, options) => { options := options, ok := false, error := error }
  | .ok options => { options := options }

inductive RuntimeOption where
  | debug | verbose | windowed | fullscreen | disableAudio | frameStats | gameData | logLevel
  deriving DecidableEq, Repr

namespace RuntimeOption

def all : List RuntimeOption :=
  [.debug, .verbose, .windowed, .fullscreen, .disableAudio, .frameStats, .gameData,
    .logLevel]

def name : RuntimeOption → String
  | .debug => "--debug"
  | .verbose => "--verbose"
  | .windowed => "--windowed"
  | .fullscreen => "--fullscreen"
  | .disableAudio => "--disable-audio"
  | .frameStats => "--frame-stats"
  | .gameData => "--game-data"
  | .logLevel => "--log-level"

def takesValue : RuntimeOption → Bool
  | .gameData | .logLevel => true
  | _ => false

def isMode : RuntimeOption → Bool
  | .windowed | .fullscreen => true
  | _ => false

/-- The two window modes answer the same question. -/
def slot : RuntimeOption → RuntimeOption
  | .fullscreen => .windowed
  | option => option

theorem mem_all (option : RuntimeOption) : option ∈ all := by
  cases option <;> decide

theorem isMode_eq (option : RuntimeOption) :
    option.isMode = decide (option.slot = .windowed) := by
  cases option <;> decide

theorem eq_iff_slot_eq {option key : RuntimeOption} (single : key.isMode = false) :
    option = key ↔ option.slot = key := by
  cases key with
  | windowed | fullscreen => cases single
  | debug | verbose | disableAudio | frameStats | gameData | logLevel =>
      cases option <;> decide

end RuntimeOption

def runtimeGrammar : Grammar RuntimeOption String where
  keyOf := keyOfName RuntimeOption.all RuntimeOption.name
  name := RuntimeOption.name
  keyOf_eq_some_iff := keyOfName_eq_some_iff RuntimeOption.mem_all (by decide)
  takesValue := RuntimeOption.takesValue
  once _ := false
  isOption _ := false
  accepts _ _ := true

/-- The window mode that has been asked for last. -/
def lastMode (groups : List (Group RuntimeOption String)) : Option RuntimeOption :=
  (groups.reverse.map (·.key)).find? RuntimeOption.isMode

def runtimeOptionsOf (groups : List (Group RuntimeOption String)) : RuntimeOptions where
  debug := has .debug groups
  verbose := has .verbose groups
  windowed := lastMode groups ≠ some .fullscreen
  fullscreen := lastMode groups = some .fullscreen
  disableAudio := has .disableAudio groups
  frameStats := has .frameStats groups
  gameData := (valueOf .gameData groups.reverse).getD ""
  logLevel := (valueOf .logLevel groups.reverse).getD "info"

def runtimeFailure (fault : Fault RuntimeOption String) : String :=
  match fault with
  | .unknown arg => "Unknown argument: " ++ arg
  | .missingValue option | .duplicate option | .invalidValue option _ =>
      option.name ++ " requires a value"

/-- The loop of the runtime reads by its grammar. -/
theorem readBy_readRuntimeOption :
    runtimeGrammar.ReadBy readRuntimeOption runtimeOptionsOf runtimeFailure where
  group := by
    rintro groups ⟨option, value⟩ rest ⟨⟨valued, -⟩, -⟩
    have behind : (groups ++ [(⟨option, value⟩ : Group RuntimeOption String)]).reverse =
        ⟨option, value⟩ :: groups.reverse := by simp
    cases option with
    | gameData | logLevel =>
        obtain ⟨text, rfl⟩ := Option.isSome_iff_exists.mp valued
        simp [runtimeGrammar, readRuntimeOption, RuntimeOption.name, runtimeOptionsOf, behind,
          lastMode, valueOf, RuntimeOption.isMode]
    | debug | verbose | windowed | fullscreen | disableAudio | frameStats =>
        obtain rfl : value = none :=
          Option.isNone_iff_eq_none.mp (Option.isSome_eq_false_iff.mp valued)
        simp [runtimeGrammar, readRuntimeOption, RuntimeOption.name, runtimeOptionsOf, behind,
          lastMode, valueOf, RuntimeOption.isMode]
  fault := by
    intro groups arg rest fault faultAt
    cases faultAt with
    | unknown unnamed =>
        have differs (option : RuntimeOption) : arg ≠ option.name :=
          fun same => unnamed option same.symm
        have gameData : arg ≠ "--game-data" := differs .gameData
        have logLevel : arg ≠ "--log-level" := differs .logLevel
        rw [readRuntimeOption, if_neg (show arg ≠ "--debug" from differs .debug),
          if_neg (show arg ≠ "--verbose" from differs .verbose),
          if_neg (show arg ≠ "--windowed" from differs .windowed),
          if_neg (show arg ≠ "--fullscreen" from differs .fullscreen),
          if_neg (show arg ≠ "--disable-audio" from differs .disableAudio),
          if_neg (show arg ≠ "--frame-stats" from differs .frameStats),
          if_neg (not_or.mpr ⟨gameData, logLevel⟩)]
        rfl
    | duplicate once => cases once
    | @missingValue option _ _ takesValue missing =>
        have nothing : rest.head? = none := by
          cases present : rest.head? with
          | none => rfl
          | some value => cases missing value present
        cases option with
        | gameData | logLevel =>
            simp only [runtimeGrammar, RuntimeOption.name, readRuntimeOption, nothing,
              String.reduceEq, if_false, if_true, or_false, false_or]
            rfl
        | debug | verbose | windowed | fullscreen | disableAudio | frameStats =>
            cases takesValue
    | invalidValue _ _ _ refused => cases refused

section Meaning

variable {groups others before between after : List (Group RuntimeOption String)}
  {first second : Group RuntimeOption String}

/-- The last answer to a question. -/
def lastAnswer (slot : RuntimeOption) (groups : List (Group RuntimeOption String)) :
    Option (Group RuntimeOption String) :=
  groups.reverse.find? (·.key.slot = slot)

theorem lastAnswer_append (slot : RuntimeOption) (groups others : List _) :
    lastAnswer slot (groups ++ others) =
      (lastAnswer slot others).or (lastAnswer slot groups) := by
  rw [lastAnswer, List.reverse_append, List.find?_append]
  rfl

theorem lastAnswer_singleton (slot : RuntimeOption) (group : Group RuntimeOption String) :
    lastAnswer slot [group] = if group.key.slot = slot then some group else none := by
  by_cases answers : group.key.slot = slot <;> simp [lastAnswer, answers]

/-- Beside the window modes an option is the only answer to its question. -/
theorem lastAnswer_eq_find {key : RuntimeOption} (single : key.isMode = false) :
    lastAnswer key groups = groups.reverse.find? (·.key = key) := by
  have answers : (fun group : Group RuntimeOption String => decide (group.key.slot = key)) =
      fun group => decide (group.key = key) :=
    funext fun group => decide_eq_decide.mpr (RuntimeOption.eq_iff_slot_eq single).symm
  rw [lastAnswer, answers]

theorem has_eq_isSome_lastAnswer {key : RuntimeOption} (single : key.isMode = false) :
    has key groups = (lastAnswer key groups).isSome := by
  rw [lastAnswer_eq_find single, has, ← List.any_reverse, Bool.eq_iff_iff, List.any_eq_true,
    List.find?_isSome]

theorem valueOf_reverse_eq {key : RuntimeOption} (single : key.isMode = false) :
    valueOf key groups.reverse = (lastAnswer key groups).bind (·.value) := by
  rw [lastAnswer_eq_find single, valueOf]

theorem lastMode_eq : lastMode groups = (lastAnswer .windowed groups).map (·.key) := by
  rw [lastMode, lastAnswer, List.find?_map]
  simp only [Function.comp_def, RuntimeOption.isMode_eq]

/-- Only the last answer to each question counts. -/
theorem runtimeOptionsOf_congr
    (same : ∀ slot, lastAnswer slot groups = lastAnswer slot others) :
    runtimeOptionsOf groups = runtimeOptionsOf others := by
  simp only [runtimeOptionsOf, lastMode_eq, same,
    has_eq_isSome_lastAnswer (show RuntimeOption.debug.isMode = false from rfl),
    has_eq_isSome_lastAnswer (show RuntimeOption.verbose.isMode = false from rfl),
    has_eq_isSome_lastAnswer (show RuntimeOption.disableAudio.isMode = false from rfl),
    has_eq_isSome_lastAnswer (show RuntimeOption.frameStats.isMode = false from rfl),
    valueOf_reverse_eq (show RuntimeOption.gameData.isMode = false from rfl),
    valueOf_reverse_eq (show RuntimeOption.logLevel.isMode = false from rfl)]

/-- An answer that is given again later does not count. -/
theorem runtimeOptionsOf_drop (sameSlot : first.key.slot = second.key.slot) :
    runtimeOptionsOf (before ++ [first] ++ between ++ [second] ++ after) =
      runtimeOptionsOf (before ++ between ++ [second] ++ after) := by
  apply runtimeOptionsOf_congr
  intro slot
  simp only [lastAnswer_append, lastAnswer_singleton, sameSlot]
  by_cases answers : second.key.slot = slot
  · simp [answers]
  · simp [answers]

/-- Answers to different questions may change places. -/
theorem runtimeOptionsOf_swap (otherSlot : first.key.slot ≠ second.key.slot) :
    runtimeOptionsOf (before ++ [first, second] ++ after) =
      runtimeOptionsOf (before ++ [second, first] ++ after) := by
  apply runtimeOptionsOf_congr
  intro slot
  rw [← @List.singleton_append _ first [second], ← @List.singleton_append _ second [first]]
  simp only [lastAnswer_append, lastAnswer_singleton]
  by_cases answers : first.key.slot = slot
  · have silent : second.key.slot ≠ slot := fun same => otherSlot (answers.trans same.symm)
    simp [answers, silent]
  · simp [answers]

end Meaning

theorem parse_words {groups : List (Group RuntimeOption String)}
    (isLine : runtimeGrammar.IsLine groups) (program : String) :
    RuntimeOptions.parse (program :: groups.flatMap (words runtimeGrammar)) =
      { options := runtimeOptionsOf groups } := by
  rw [RuntimeOptions.parse, List.drop_succ_cons, List.drop_zero,
    show ({} : RuntimeOptions) = runtimeOptionsOf [] from rfl,
    readBy_readRuntimeOption.readArguments_eq, Grammar.read_words isLine]
  rfl

theorem parse_words_fault {groups : List (Group RuntimeOption String)} {rest : List String}
    {fault : Fault RuntimeOption String} (isLine : runtimeGrammar.IsLine groups)
    (faultAt : runtimeGrammar.FaultAt groups rest fault) (program : String) :
    RuntimeOptions.parse (program :: (groups.flatMap (words runtimeGrammar) ++ rest)) =
      { options := runtimeOptionsOf groups, ok := false, error := runtimeFailure fault } := by
  rw [RuntimeOptions.parse, List.drop_succ_cons, List.drop_zero,
    show ({} : RuntimeOptions) = runtimeOptionsOf [] from rfl,
    readBy_readRuntimeOption.readArguments_eq, Grammar.read_words_fault isLine faultAt]
  rfl

/-- Any groups are a line: nothing may come once only, and any argument is a value. -/
theorem isLine_iff {groups : List (Group RuntimeOption String)} :
    runtimeGrammar.IsLine groups ↔
      ∀ group ∈ groups, group.value.isSome = group.key.takesValue := by
  constructor
  · exact fun isLine group member => (isLine.fits group member).valued
  · intro valued
    refine ⟨fun group member => ⟨valued group member, fun _ _ => ⟨rfl, rfl⟩⟩, ?_⟩
    exact List.pairwise_of_forall fun _ _ once => absurd once Bool.false_ne_true

/-- What the runtime makes of its arguments: it takes groups as long as there are any, the
options are what these mean, and the result is a failure exactly when something is left.
An earlier answer to a question does not count, and answers to different questions may
change places. -/
theorem runtimeOptions_parse (program : String) :
    (∀ args : List String, ∃ groups rest, runtimeGrammar.IsLine groups ∧
      args = groups.flatMap (words runtimeGrammar) ++ rest ∧
      (RuntimeOptions.parse (program :: args)).options = runtimeOptionsOf groups ∧
      (RuntimeOptions.parse (program :: args)).options.windowed =
        !(RuntimeOptions.parse (program :: args)).options.fullscreen ∧
      ((rest = [] ∧ (RuntimeOptions.parse (program :: args)).ok = true ∧
          (RuntimeOptions.parse (program :: args)).error = "") ∨
        ∃ fault, runtimeGrammar.FaultAt groups rest fault ∧
          (RuntimeOptions.parse (program :: args)).ok = false ∧
          (RuntimeOptions.parse (program :: args)).error = runtimeFailure fault)) ∧
    (∀ before between after (first second : Group RuntimeOption String),
      runtimeGrammar.IsLine (before ++ [first] ++ between ++ [second] ++ after) →
      first.key.slot = second.key.slot →
        RuntimeOptions.parse (program ::
            (before ++ [first] ++ between ++ [second] ++ after).flatMap
              (words runtimeGrammar)) =
          RuntimeOptions.parse (program ::
            (before ++ between ++ [second] ++ after).flatMap (words runtimeGrammar))) ∧
    ∀ before after (first second : Group RuntimeOption String),
      runtimeGrammar.IsLine (before ++ [first, second] ++ after) →
      first.key.slot ≠ second.key.slot →
        RuntimeOptions.parse (program ::
            (before ++ [first, second] ++ after).flatMap (words runtimeGrammar)) =
          RuntimeOptions.parse (program ::
            (before ++ [second, first] ++ after).flatMap (words runtimeGrammar)) := by
  refine ⟨?_, ?_, ?_⟩
  · intro args
    have modes (groups : List (Group RuntimeOption String)) :
        (runtimeOptionsOf groups).windowed = !(runtimeOptionsOf groups).fullscreen := by
      simp [runtimeOptionsOf]
    obtain ⟨groups, rest, isLine, rfl, rfl | ⟨fault, faultAt⟩⟩ :=
      Grammar.exists_line_of_read runtimeGrammar args
    · refine ⟨groups, [], isLine, rfl, ?_⟩
      rw [List.append_nil, parse_words isLine]
      exact ⟨rfl, modes groups, .inl ⟨rfl, rfl, rfl⟩⟩
    · refine ⟨groups, rest, isLine, rfl, ?_⟩
      rw [parse_words_fault isLine faultAt]
      exact ⟨rfl, modes groups, .inr ⟨fault, faultAt, rfl, rfl⟩⟩
  · intro before between after first second isLine sameSlot
    have shorter : runtimeGrammar.IsLine (before ++ between ++ [second] ++ after) := by
      rw [isLine_iff] at isLine ⊢
      refine fun group member => isLine group ?_
      simp only [List.mem_append] at member ⊢
      tauto
    rw [parse_words isLine, parse_words shorter, runtimeOptionsOf_drop sameSlot]
  · intro before after first second isLine otherSlot
    have swapped : runtimeGrammar.IsLine (before ++ [second, first] ++ after) :=
      isLine.of_perm (((List.Perm.swap second first []).append_left before).append_right after)
    rw [parse_words isLine, parse_words swapped, runtimeOptionsOf_swap otherSlot]

end Burnout3Recompiled
