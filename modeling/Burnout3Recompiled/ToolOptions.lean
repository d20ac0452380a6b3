import Burnout3Recompiled.CommandLine
import Mathlib.Algebra.Ring.Nat
import Mathlib.Data.List.TakeWhile

/-!
# Options of the tools

The analyzer and the pacing probe read their arguments in one loop with a flag for every
option that may come once.  Either loop is the reader of a grammar: which arguments are
accepted, what they mean and which failure is reported all follow from it.
-/

namespace Burnout3Recompiled

open CommandLine

def isOption (value : String) : Bool :=
  ['-', '-'].isPrefixOf value.toList

/-- `require_value`: the next argument, which is taken with the option. -/
def requireValue (rest : List String) : Option String :=
  match rest.head? with
  | none => none
  | some value => if isOption value then none else some value

/-- `std::from_chars` of a `std::size_t` in base ten: the value, unless there are no digits
or it does not fit, and the characters behind the digits. -/
def fromChars (text : List Char) : Option Nat × List Char :=
  let digits := text.takeWhile (·.isDigit)
  if digits.isEmpty then (none, text)
  else
    let value := Nat.ofDigitChars 10 digits 0
    (if value < 2 ^ 64 then some value else none, text.dropWhile (·.isDigit))

def parsePositive (value : String) : Option Nat :=
  match fromChars value.toList with
  | (some parsed, []) => if parsed = 0 then none else some parsed
  | _ => none

inductive Burnout3AnalyzeOptionError where
  | missingElfPath | missingValue | duplicateOption | unknownOption | invalidMaxBlocks
  deriving DecidableEq, Repr

structure Burnout3AnalyzeOptions where
  elfPath : String := ""
  outputPath : Option String := none
  maxBlocks : Nat := 4096
  followDirectCalls : Bool := false
  showHelp : Bool := false
  deriving DecidableEq, Repr

structure Burnout3AnalyzeOptionsFailure where
  error : Burnout3AnalyzeOptionError
  message : String
  deriving DecidableEq, Repr

/-- The variables of the loop over the arguments. -/
structure AnalyzeOptionLoop where
  options : Burnout3AnalyzeOptions := {}
  sawElf : Bool := false
  sawOutput : Bool := false
  sawMaxBlocks : Bool := false
  sawFollowDirectCalls : Bool := false

def readAnalyzeOption (loop : AnalyzeOptionLoop) (arg : String) (rest : List String) :
    Except Burnout3AnalyzeOptionsFailure (AnalyzeOptionLoop × Nat) :=
  if arg = "--help" then .ok ({ loop with options.showHelp := true }, 0)
  else if arg = "--elf" then
    if loop.sawElf then .error ⟨.duplicateOption, "--elf may only be specified once"⟩
    else
      match requireValue rest with
      | none => .error ⟨.missingValue, "--elf requires a file path"⟩
      | some value => .ok ({ loop with options.elfPath := value, sawElf := true }, 1)
  else if arg = "--output" then
    if loop.sawOutput then .error ⟨.duplicateOption, "--output may only be specified once"⟩
    else
      match requireValue rest with
      | none => .error ⟨.missingValue, "--output requires a file path"⟩
      | some value =>
          .ok ({ loop with options.outputPath := some value, sawOutput := true }, 1)
  else if arg = "--max-blocks" then
    if loop.sawMaxBlocks then
      .error ⟨.duplicateOption, "--max-blocks may only be specified once"⟩
    else
      match requireValue rest with
      | none => .error ⟨.missingValue, "--max-blocks requires a positive integer"⟩
      | some value =>
          match parsePositive value with
          | none => .error ⟨.invalidMaxBlocks, "--max-blocks must be a positive integer"⟩
          | some parsed =>
              .ok ({ loop with options.maxBlocks := parsed, sawMaxBlocks := true }, 1)
  else if arg = "--follow-direct-calls" then
    if loop.sawFollowDirectCalls then
      .error ⟨.duplicateOption, "--follow-direct-calls may only be specified once"⟩
    else
      .ok ({ loop with options.followDirectCalls := true, sawFollowDirectCalls := true }, 0)
  else .error ⟨.unknownOption, "unknown Burnout3Analyze option: " ++ arg⟩

def parseBurnout3AnalyzeOptions (args : List String) :
    Except Burnout3AnalyzeOptionsFailure Burnout3AnalyzeOptions :=
  match readArguments readAnalyzeOption {} args with
  | .error (failure, _) => .error failure
  | .ok loop =>
      if !loop.options.showHelp && !loop.sawElf then
        .error ⟨.missingElfPath, "--elf <path> is required"⟩
      else .ok loop.options

inductive Burnout3PacingProbeOptionError where
  | missingValue | duplicateOption | unknownOption | invalidSeconds
  deriving DecidableEq, Repr

structure Burnout3PacingProbeOptions where
  seconds : Nat := 60
  outputPath : Option String := none
  showHelp : Bool := false
  deriving DecidableEq, Repr

structure Burnout3PacingProbeOptionsFailure where
  error : Burnout3PacingProbeOptionError
  message : String
  deriving DecidableEq, Repr

structure PacingProbeOptionLoop where
  options : Burnout3PacingProbeOptions := {}
  sawSeconds : Bool := false
  sawOutput : Bool := false
  sawHelp : Bool := false

def readPacingProbeOption (loop : PacingProbeOptionLoop) (arg : String) (rest : List String) :
    Except Burnout3PacingProbeOptionsFailure (PacingProbeOptionLoop × Nat) :=
  if arg = "--help" then
    if loop.sawHelp then .error ⟨.duplicateOption, "--help may only be specified once"⟩
    else .ok ({ loop with options.showHelp := true, sawHelp := true }, 0)
  else if arg = "--seconds" then
    if loop.sawSeconds then
      .error ⟨.duplicateOption, "--seconds may only be specified once"⟩
    else
      match requireValue rest with
      | none => .error ⟨.missingValue, "--seconds requires a positive integer"⟩
      | some value =>
          match parsePositive value with
          | none => .error ⟨.invalidSeconds, "--seconds must be a positive integer"⟩
          | some parsed =>
              .ok ({ loop with options.seconds := parsed, sawSeconds := true }, 1)
  else if arg = "--output" then
    if loop.sawOutput then .error ⟨.duplicateOption, "--output may only be specified once"⟩
    else
      match requireValue rest with
      | none => .error ⟨.missingValue, "--output requires a file path"⟩
      | some value =>
          .ok ({ loop with options.outputPath := some value, sawOutput := true }, 1)
  else .error ⟨.unknownOption, "unknown Burnout3PacingProbe option: " ++ arg⟩

def parseBurnout3PacingProbeOptions (args : List String) :
    Except Burnout3PacingProbeOptionsFailure Burnout3PacingProbeOptions :=
  match readArguments readPacingProbeOption {} args with
  | .error (failure, _) => .error failure
  | .ok loop => .ok loop.options

inductive Burnout3AnalyzeOption where
  | help | elf | output | maxBlocks | followDirectCalls
  deriving DecidableEq, Repr

namespace Burnout3AnalyzeOption

def all : List Burnout3AnalyzeOption :=
  [.help, .elf, .output, .maxBlocks, .followDirectCalls]

def name : Burnout3AnalyzeOption → String
  | .help => "--help"
  | .elf => "--elf"
  | .output => "--output"
  | .maxBlocks => "--max-blocks"
  | .followDirectCalls => "--follow-direct-calls"

def takesValue : Burnout3AnalyzeOption → Bool
  | .elf | .output | .maxBlocks => true
  | .help | .followDirectCalls => false

def accepts (option : Burnout3AnalyzeOption) (value : String) : Bool :=
  match option with
  | .maxBlocks => (parsePositive value).isSome
  | _ => true

theorem mem_all (option : Burnout3AnalyzeOption) : option ∈ all := by
  cases option <;> decide

end Burnout3AnalyzeOption

def analyzeGrammar : Grammar Burnout3AnalyzeOption String where
  keyOf := keyOfName Burnout3AnalyzeOption.all Burnout3AnalyzeOption.name
  name := Burnout3AnalyzeOption.name
  keyOf_eq_some_iff := keyOfName_eq_some_iff Burnout3AnalyzeOption.mem_all (by decide)
  takesValue := Burnout3AnalyzeOption.takesValue
  once option := option ≠ .help
  isOption := isOption
  accepts := Burnout3AnalyzeOption.accepts

/-- What a list of options means. -/
def analyzeOptionsOf (groups : List (Group Burnout3AnalyzeOption String)) :
    Burnout3AnalyzeOptions where
  elfPath := (valueOf .elf groups).getD ""
  outputPath := valueOf .output groups
  maxBlocks := ((valueOf .maxBlocks groups).bind parsePositive).getD 4096
  followDirectCalls := has .followDirectCalls groups
  showHelp := has .help groups

def analyzeLoopOf (groups : List (Group Burnout3AnalyzeOption String)) :
    AnalyzeOptionLoop where
  options := analyzeOptionsOf groups
  sawElf := has .elf groups
  sawOutput := has .output groups
  sawMaxBlocks := has .maxBlocks groups
  sawFollowDirectCalls := has .followDirectCalls groups

namespace Burnout3AnalyzeOption

/-- What is missing behind an option. -/
def valueName : Burnout3AnalyzeOption → String
  | .maxBlocks => "a positive integer"
  | _ => "a file path"

end Burnout3AnalyzeOption

def analyzeFailure (fault : Fault Burnout3AnalyzeOption String) :
    Burnout3AnalyzeOptionsFailure :=
  match fault with
  | .unknown arg => ⟨.unknownOption, "unknown Burnout3Analyze option: " ++ arg⟩
  | .duplicate option => ⟨.duplicateOption, option.name ++ " may only be specified once"⟩
  | .missingValue option => ⟨.missingValue, option.name ++ " requires " ++ option.valueName⟩
  | .invalidValue option _ => ⟨.invalidMaxBlocks, option.name ++ " must be a positive integer"⟩

theorem requireValue_eq_none {rest : List String}
    (missing : ∀ value ∈ rest.head?, isOption value = true) : requireValue rest = none := by
  rw [requireValue]
  cases present : rest.head? with
  | none => rfl
  | some value => simp only [if_pos (missing value present)]

theorem requireValue_cons {value : String} (rest : List String)
    (noOption : isOption value = false) : requireValue (value :: rest) = some value := by
  simp [requireValue, noOption]

theorem eq_none_of_not_isSome {α : Type} {value : Option α} (absent : value.isSome = false) :
    value = none :=
  Option.isNone_iff_eq_none.mp (Option.isSome_eq_false_iff.mp absent)

/-- The loop of the analyzer reads by its grammar. -/
theorem readBy_readAnalyzeOption :
    analyzeGrammar.ReadBy readAnalyzeOption analyzeLoopOf analyzeFailure where
  group := by
    rintro groups ⟨option, value⟩ rest ⟨⟨valued, accepted⟩, fresh⟩
    cases option with
    | help =>
        obtain rfl := eq_none_of_not_isSome valued
        simp [analyzeGrammar, readAnalyzeOption, Burnout3AnalyzeOption.name, analyzeLoopOf,
          analyzeOptionsOf, valueOf_append_of_ne]
    | elf =>
        obtain ⟨path, rfl⟩ := Option.isSome_iff_exists.mp valued
        have noOption := (accepted path rfl).1
        simp [analyzeGrammar, readAnalyzeOption, Burnout3AnalyzeOption.name, analyzeLoopOf,
          analyzeOptionsOf, valueOf_append_of_ne, valueOf_append_of_not_has, fresh rfl,
          requireValue_cons rest noOption]
    | output =>
        obtain ⟨path, rfl⟩ := Option.isSome_iff_exists.mp valued
        have noOption := (accepted path rfl).1
        simp [analyzeGrammar, readAnalyzeOption, Burnout3AnalyzeOption.name, analyzeLoopOf,
          analyzeOptionsOf, valueOf_append_of_ne, valueOf_append_of_not_has, fresh rfl,
          requireValue_cons rest noOption]
    | maxBlocks =>
        obtain ⟨count, rfl⟩ := Option.isSome_iff_exists.mp valued
        obtain ⟨noOption, positive⟩ := accepted count rfl
        obtain ⟨parsed, parses⟩ := Option.isSome_iff_exists.mp positive
        simp [analyzeGrammar, readAnalyzeOption, Burnout3AnalyzeOption.name, analyzeLoopOf,
          analyzeOptionsOf, valueOf_append_of_ne, valueOf_append_of_not_has, fresh rfl,
          requireValue_cons rest noOption, parses]
    | followDirectCalls =>
        obtain rfl := eq_none_of_not_isSome valued
        simp [analyzeGrammar, readAnalyzeOption, Burnout3AnalyzeOption.name, analyzeLoopOf,
          analyzeOptionsOf, valueOf_append_of_ne, fresh rfl]
  fault := by
    intro groups arg rest fault faultAt
    cases faultAt with
    | unknown unnamed =>
        have differs (option : Burnout3AnalyzeOption) : arg ≠ option.name :=
          fun same => unnamed option same.symm
        simp [readAnalyzeOption, show arg ≠ "--help" from differs .help,
          show arg ≠ "--elf" from differs .elf, show arg ≠ "--output" from differs .output,
          show arg ≠ "--max-blocks" from differs .maxBlocks,
          show arg ≠ "--follow-direct-calls" from differs .followDirectCalls, analyzeFailure]
    | @duplicate option _ once again =>
        cases option with
        | help => cases once
        | elf | output | maxBlocks | followDirectCalls =>
            simp [analyzeGrammar, readAnalyzeOption, Burnout3AnalyzeOption.name,
              analyzeLoopOf, analyzeFailure, again]
    | @missingValue option _ fresh takesValue missing =>
        have noValue := requireValue_eq_none missing
        cases option with
        | help | followDirectCalls => cases takesValue
        | elf | output | maxBlocks =>
            simp [analyzeGrammar, readAnalyzeOption, Burnout3AnalyzeOption.name,
              Burnout3AnalyzeOption.valueName, analyzeLoopOf, analyzeFailure, noValue,
              fresh rfl]
    | @invalidValue option value _ fresh takesValue noOption refused =>
        cases option with
        | help | followDirectCalls => cases takesValue
        | elf | output => cases refused
        | maxBlocks =>
            have invalid : parsePositive value = none := eq_none_of_not_isSome refused
            simp [analyzeGrammar, readAnalyzeOption, Burnout3AnalyzeOption.name,
              analyzeLoopOf, analyzeFailure, invalid, fresh rfl, requireValue_cons _ noOption]

/-- A help text or an executable has to be asked for. -/
def analyzeComplete (groups : List (Group Burnout3AnalyzeOption String)) : Bool :=
  has .help groups || has .elf groups

theorem parseBurnout3AnalyzeOptions_interprets (args : List String) :
    parseBurnout3AnalyzeOptions args =
      analyzeGrammar.interpret analyzeComplete analyzeOptionsOf analyzeFailure
        ⟨.missingElfPath, "--elf <path> is required"⟩ args := by
  rw [parseBurnout3AnalyzeOptions,
    show ({} : AnalyzeOptionLoop) = analyzeLoopOf [] from rfl,
    readBy_readAnalyzeOption.readArguments_eq, Grammar.interpret]
  cases analyzeGrammar.read args with
  | error fault => rfl
  | ok groups =>
      cases help : has .help groups <;> cases elf : has .elf groups <;>
        simp [Except.map, Except.mapError, analyzeLoopOf, analyzeOptionsOf, analyzeComplete,
          help, elf]

/-- All of the text is a number that fits. -/
structure IsPositive (text : List Char) (number : Nat) : Prop where
  nonempty : text ≠ []
  digits : ∀ digit ∈ text, digit.isDigit = true
  value : Nat.ofDigitChars 10 text 0 = number
  positive : 0 < number
  fits : number < 2 ^ 64

theorem parsePositive_eq_some_iff {value : String} {number : Nat} :
    parsePositive value = some number ↔ IsPositive value.toList number := by
  generalize text : value.toList = digits
  rw [parsePositive, text, fromChars]
  constructor
  · intro parses
    split at parses
    · next parsed converted =>
        split at converted
        · cases converted
        · next some =>
            obtain ⟨fits, behind⟩ := Prod.mk.inj converted
            have all : ∀ digit ∈ digits, digit.isDigit = true := by
              rwa [List.dropWhile_eq_nil_iff] at behind
            rw [List.takeWhile_eq_self_iff.mpr all] at fits some
            split at fits
            · next small =>
                split at parses
                · cases parses
                · next positive =>
                    obtain rfl := Option.some.inj fits
                    obtain rfl := Option.some.inj parses
                    exact ⟨by simpa using some, all, rfl, Nat.pos_of_ne_zero positive, small⟩
            · cases fits
    · cases parses
  · rintro ⟨nonempty, all, rfl, positive, fits⟩
    have isEmpty : digits.isEmpty = false := by simpa using nonempty
    have behind : digits.dropWhile (·.isDigit) = [] := List.dropWhile_eq_nil_iff.mpr all
    simp only [List.takeWhile_eq_self_iff.mpr all, isEmpty, behind, if_pos fits,
      Bool.false_eq_true, if_false, if_neg (Nat.pos_iff_ne_zero.mp positive)]

theorem parsePositive_toString {number : Nat} (positive : 0 < number)
    (fits : number < 2 ^ 64) : parsePositive (toString number) = some number := by
  rw [parsePositive_eq_some_iff, Nat.toString_eq_ofList_toDigits, String.toList_ofList]
  exact ⟨Nat.toDigits_ne_nil, fun _ => Nat.isDigit_of_mem_toDigits (by decide) (by decide),
    Nat.ofDigitChars_ten_toDigits, positive, fits⟩

/-- No number is taken for an option. -/
theorem isOption_of_isPositive {value : String} {number : Nat}
    (isPositive : IsPositive value.toList number) : isOption value = false := by
  obtain ⟨nonempty, digits, -, -, -⟩ := isPositive
  rw [isOption]
  generalize value.toList = text at digits
  cases text with
  | nil => rfl
  | cons first rest =>
      have digit := digits first (List.mem_cons_self ..)
      have noDash : '-' ≠ first := by
        rintro rfl
        exact absurd digit (by decide)
      simp [List.isPrefixOf, noDash]

/-- Options that can be written as arguments. -/
structure Burnout3AnalyzeOptions.Writable (options : Burnout3AnalyzeOptions) : Prop where
  elfPath : isOption options.elfPath = false
  outputPath : ∀ path ∈ options.outputPath, isOption path = false
  positive : 0 < options.maxBlocks
  fits : options.maxBlocks < 2 ^ 64

def Burnout3AnalyzeOptions.groups (options : Burnout3AnalyzeOptions) :
    List (Group Burnout3AnalyzeOption String) :=
  [⟨.elf, some options.elfPath⟩, ⟨.maxBlocks, some (toString options.maxBlocks)⟩] ++
    options.outputPath.toList.map (fun path => ⟨.output, some path⟩) ++
    (if options.followDirectCalls then [⟨.followDirectCalls, none⟩] else []) ++
    (if options.showHelp then [⟨.help, none⟩] else [])

theorem fits_analyzeValue {option : Burnout3AnalyzeOption} {value : String}
    (takesValue : option.takesValue = true) (noOption : isOption value = false)
    (accepts : option.accepts value = true) : analyzeGrammar.Fits ⟨option, some value⟩ := by
  refine ⟨takesValue.symm, ?_⟩
  rintro _ ⟨⟩
  exact ⟨noOption, accepts⟩

theorem fits_analyzeFlag {option : Burnout3AnalyzeOption}
    (flag : option.takesValue = false) : analyzeGrammar.Fits ⟨option, none⟩ :=
  ⟨flag.symm, fun value member => absurd member (Option.not_mem_none value)⟩

theorem isLine_groups {options : Burnout3AnalyzeOptions} (writable : options.Writable) :
    analyzeGrammar.IsLine options.groups := by
  obtain ⟨elfPath, outputPath, positive, fits⟩ := writable
  have number := parsePositive_toString positive fits
  have noOption := isOption_of_isPositive (parsePositive_eq_some_iff.mp number)
  constructor
  · unfold Burnout3AnalyzeOptions.groups
    simp only [List.forall_mem_append, List.forall_mem_cons, List.forall_mem_map]
    refine ⟨⟨⟨⟨fits_analyzeValue rfl elfPath rfl, fits_analyzeValue rfl noOption ?_, ?_⟩, ?_⟩,
      ?_⟩, ?_⟩
    · rw [Burnout3AnalyzeOption.accepts, number]
      rfl
    · simp
    · intro path member
      exact fits_analyzeValue rfl (outputPath path (Option.mem_toList.mp member)) rfl
    · split
      · exact List.forall_mem_singleton.mpr (fits_analyzeFlag rfl)
      · simp
    · split
      · exact List.forall_mem_singleton.mpr (fits_analyzeFlag rfl)
      · simp
  · obtain ⟨elfPath, _ | path, maxBlocks, _ | _, _ | _⟩ := options <;>
      simp [Burnout3AnalyzeOptions.groups]

theorem analyzeOptionsOf_groups {options : Burnout3AnalyzeOptions}
    (writable : options.Writable) : analyzeOptionsOf options.groups = options := by
  have number : parsePositive options.maxBlocks.repr = some options.maxBlocks :=
    parsePositive_toString writable.positive writable.fits
  obtain ⟨elfPath, _ | path, maxBlocks, _ | _, _ | _⟩ := options <;>
    simp only at number <;>
    simp [Burnout3AnalyzeOptions.groups, analyzeOptionsOf, valueOf, has, number]

theorem writable_analyzeOptionsOf {groups : List (Group Burnout3AnalyzeOption String)}
    (isLine : analyzeGrammar.IsLine groups) : (analyzeOptionsOf groups).Writable := by
  have noOption {option : Burnout3AnalyzeOption} {value : String}
      (once : option ≠ .help) (present : valueOf option groups = some value) :
      isOption value = false :=
    (isLine.accepted_of_valueOf (decide_eq_true once) present).1
  have number : 0 < (analyzeOptionsOf groups).maxBlocks ∧
      (analyzeOptionsOf groups).maxBlocks < 2 ^ 64 := by
    simp only [analyzeOptionsOf]
    cases present : valueOf .maxBlocks groups with
    | none => decide
    | some value =>
        obtain ⟨parsed, parses⟩ :=
          Option.isSome_iff_exists.mp (isLine.accepted_of_valueOf rfl present).2
        have isPositive := parsePositive_eq_some_iff.mp parses
        rw [Option.bind_some, parses]
        exact ⟨isPositive.positive, isPositive.fits⟩
  refine ⟨?_, ?_, number.1, number.2⟩
  · simp only [analyzeOptionsOf]
    cases present : valueOf .elf groups with
    | none => decide
    | some value => exact noOption (by decide) present
  · exact fun path present => noOption (by decide) present

theorem parses_analyzeOptions :
    analyzeGrammar.Parses analyzeComplete analyzeOptionsOf analyzeFailure
      ⟨.missingElfPath, "--elf <path> is required"⟩ parseBurnout3AnalyzeOptions := by
  refine Grammar.parses_of_interprets parseBurnout3AnalyzeOptions_interprets ?_ ?_
  · intro groups others isLine permuted
    rw [analyzeComplete, has_perm permuted, has_perm permuted, analyzeComplete]
  · intro groups others isLine permuted
    have values (option : Burnout3AnalyzeOption) (once : option ≠ .help) :=
      @Grammar.IsLine.valueOf_perm _ _ _ _ _ _ option isLine permuted (decide_eq_true once)
    simp only [analyzeOptionsOf, has_perm permuted, values .elf (by decide),
      values .output (by decide), values .maxBlocks (by decide)]

/-- The arguments the analyzer accepts and what it makes of them: the lines of its grammar,
in any order, which mean the options that can be written down, and no others. -/
theorem parseBurnout3AnalyzeOptions_parses :
    analyzeGrammar.Parses analyzeComplete analyzeOptionsOf analyzeFailure
        ⟨.missingElfPath, "--elf <path> is required"⟩ parseBurnout3AnalyzeOptions ∧
      (∀ options : Burnout3AnalyzeOptions, options.Writable →
        parseBurnout3AnalyzeOptions (options.groups.flatMap (words analyzeGrammar)) =
          .ok options) ∧
      ∀ args options, parseBurnout3AnalyzeOptions args = .ok options → options.Writable := by
  refine ⟨parses_analyzeOptions, ?_, ?_⟩
  · intro options writable
    exact (parses_analyzeOptions.accepted _ _).mpr
      ⟨options.groups, isLine_groups writable, rfl, Bool.or_eq_true_iff.mpr (.inr rfl),
        analyzeOptionsOf_groups writable⟩
  · intro args options accepts
    obtain ⟨groups, isLine, -, -, rfl⟩ := (parses_analyzeOptions.accepted _ _).mp accepts
    exact writable_analyzeOptionsOf isLine

inductive Burnout3PacingProbeOption where
  | help | seconds | output
  deriving DecidableEq, Repr

namespace Burnout3PacingProbeOption

def all : List Burnout3PacingProbeOption :=
  [.help, .seconds, .output]

def name : Burnout3PacingProbeOption → String
  | .help => "--help"
  | .seconds => "--seconds"
  | .output => "--output"

def takesValue : Burnout3PacingProbeOption → Bool
  | .seconds | .output => true
  | .help => false

def accepts (option : Burnout3PacingProbeOption) (value : String) : Bool :=
  match option with
  | .seconds => (parsePositive value).isSome
  | _ => true

def valueName : Burnout3PacingProbeOption → String
  | .seconds => "a positive integer"
  | _ => "a file path"

theorem mem_all (option : Burnout3PacingProbeOption) : option ∈ all := by
  cases option <;> decide

end Burnout3PacingProbeOption

def pacingProbeGrammar : Grammar Burnout3PacingProbeOption String where
  keyOf := keyOfName Burnout3PacingProbeOption.all Burnout3PacingProbeOption.name
  name := Burnout3PacingProbeOption.name
  keyOf_eq_some_iff := keyOfName_eq_some_iff Burnout3PacingProbeOption.mem_all (by decide)
  takesValue := Burnout3PacingProbeOption.takesValue
  once _ := true
  isOption := isOption
  accepts := Burnout3PacingProbeOption.accepts

def pacingProbeOptionsOf (groups : List (Group Burnout3PacingProbeOption String)) :
    Burnout3PacingProbeOptions where
  seconds := ((valueOf .seconds groups).bind parsePositive).getD 60
  outputPath := valueOf .output groups
  showHelp := has .help groups

def pacingProbeLoopOf (groups : List (Group Burnout3PacingProbeOption String)) :
    PacingProbeOptionLoop where
  options := pacingProbeOptionsOf groups
  sawSeconds := has .seconds groups
  sawOutput := has .output groups
  sawHelp := has .help groups

def pacingProbeFailure (fault : Fault Burnout3PacingProbeOption String) :
    Burnout3PacingProbeOptionsFailure :=
  match fault with
  | .unknown arg => ⟨.unknownOption, "unknown Burnout3PacingProbe option: " ++ arg⟩
  | .duplicate option => ⟨.duplicateOption, option.name ++ " may only be specified once"⟩
  | .missingValue option => ⟨.missingValue, option.name ++ " requires " ++ option.valueName⟩
  | .invalidValue option _ => ⟨.invalidSeconds, option.name ++ " must be a positive integer"⟩

/-- The loop of the probe reads by its grammar. -/
theorem readBy_readPacingProbeOption :
    pacingProbeGrammar.ReadBy readPacingProbeOption pacingProbeLoopOf pacingProbeFailure where
  group := by
    rintro groups ⟨option, value⟩ rest ⟨⟨valued, accepted⟩, fresh⟩
    cases option with
    | help =>
        obtain rfl := eq_none_of_not_isSome valued
        simp [pacingProbeGrammar, readPacingProbeOption, Burnout3PacingProbeOption.name,
          pacingProbeLoopOf, pacingProbeOptionsOf, valueOf_append_of_ne, fresh rfl]
    | seconds =>
        obtain ⟨count, rfl⟩ := Option.isSome_iff_exists.mp valued
        obtain ⟨noOption, positive⟩ := accepted count rfl
        obtain ⟨parsed, parses⟩ := Option.isSome_iff_exists.mp positive
        simp [pacingProbeGrammar, readPacingProbeOption, Burnout3PacingProbeOption.name,
          pacingProbeLoopOf, pacingProbeOptionsOf, valueOf_append_of_ne,
          valueOf_append_of_not_has, fresh rfl, requireValue_cons rest noOption, parses]
    | output =>
        obtain ⟨path, rfl⟩ := Option.isSome_iff_exists.mp valued
        have noOption := (accepted path rfl).1
        simp [pacingProbeGrammar, readPacingProbeOption, Burnout3PacingProbeOption.name,
          pacingProbeLoopOf, pacingProbeOptionsOf, valueOf_append_of_ne,
          valueOf_append_of_not_has, fresh rfl, requireValue_cons rest noOption]
  fault := by
    intro groups arg rest fault faultAt
    cases faultAt with
    | unknown unnamed =>
        have differs (option : Burnout3PacingProbeOption) : arg ≠ option.name :=
          fun same => unnamed option same.symm
        simp [readPacingProbeOption, show arg ≠ "--help" from differs .help,
          show arg ≠ "--seconds" from differs .seconds,
          show arg ≠ "--output" from differs .output, pacingProbeFailure]
    | @duplicate option _ once again =>
        cases option with
        | help | seconds | output =>
            simp [pacingProbeGrammar, readPacingProbeOption, Burnout3PacingProbeOption.name,
              pacingProbeLoopOf, pacingProbeFailure, again]
    | @missingValue option _ fresh takesValue missing =>
        have noValue := requireValue_eq_none missing
        cases option with
        | help => cases takesValue
        | seconds | output =>
            simp [pacingProbeGrammar, readPacingProbeOption, Burnout3PacingProbeOption.name,
              Burnout3PacingProbeOption.valueName, pacingProbeLoopOf, pacingProbeFailure,
              noValue, fresh rfl]
    | @invalidValue option value _ fresh takesValue noOption refused =>
        cases option with
        | help => cases takesValue
        | output => cases refused
        | seconds =>
            have invalid : parsePositive value = none := eq_none_of_not_isSome refused
            simp [pacingProbeGrammar, readPacingProbeOption, Burnout3PacingProbeOption.name,
              pacingProbeLoopOf, pacingProbeFailure, invalid, fresh rfl,
              requireValue_cons _ noOption]

theorem parseBurnout3PacingProbeOptions_interprets (failure : Burnout3PacingProbeOptionsFailure)
    (args : List String) :
    parseBurnout3PacingProbeOptions args =
      pacingProbeGrammar.interpret (fun _ => true) pacingProbeOptionsOf pacingProbeFailure
        failure args := by
  rw [parseBurnout3PacingProbeOptions,
    show ({} : PacingProbeOptionLoop) = pacingProbeLoopOf [] from rfl,
    readBy_readPacingProbeOption.readArguments_eq, Grammar.interpret]
  cases pacingProbeGrammar.read args with
  | error fault => rfl
  | ok groups => rfl

theorem parses_pacingProbeOptions (failure : Burnout3PacingProbeOptionsFailure) :
    pacingProbeGrammar.Parses (fun _ => true) pacingProbeOptionsOf pacingProbeFailure failure
      parseBurnout3PacingProbeOptions := by
  refine Grammar.parses_of_interprets (parseBurnout3PacingProbeOptions_interprets failure)
    (fun _ _ _ _ => rfl) ?_
  intro groups others isLine permuted
  have values (option : Burnout3PacingProbeOption) :=
    @Grammar.IsLine.valueOf_perm _ _ _ _ _ _ option isLine permuted rfl
  simp only [pacingProbeOptionsOf, has_perm permuted, values .seconds, values .output]

theorem seconds_pacingProbeOptionsOf {groups : List (Group Burnout3PacingProbeOption String)}
    (isLine : pacingProbeGrammar.IsLine groups) :
    0 < (pacingProbeOptionsOf groups).seconds ∧
      (pacingProbeOptionsOf groups).seconds < 2 ^ 64 := by
  simp only [pacingProbeOptionsOf]
  cases present : valueOf .seconds groups with
  | none => decide
  | some value =>
      obtain ⟨parsed, parses⟩ :=
        Option.isSome_iff_exists.mp (isLine.accepted_of_valueOf rfl present).2
      have isPositive := parsePositive_eq_some_iff.mp parses
      rw [Option.bind_some, parses]
      exact ⟨isPositive.positive, isPositive.fits⟩

end Burnout3Recompiled
