import Mathlib.Data.List.Basic

/-!
# Text of lines

A line is a row of words with blanks between them and a newline behind it.  A text of
lines is read back by splitting it again.  What a program prints one piece behind the
other is therefore read piece by piece.
-/

namespace Burnout3Recompiled

namespace LineText

/-- A word may be empty. -/
structure IsWord (word : String) : Prop where
  noBlank : ' ' ∉ word.toList
  noNewline : '\n' ∉ word.toList

instance (word : String) : Decidable (IsWord word) :=
  decidable_of_iff (' ' ∉ word.toList ∧ '\n' ∉ word.toList)
    ⟨fun both => ⟨both.1, both.2⟩, fun word => ⟨word.noBlank, word.noNewline⟩⟩

theorem IsWord.append {first second : String} (firstWord : IsWord first)
    (secondWord : IsWord second) : IsWord (first ++ second) := by
  constructor
  · rw [String.toList_append, List.mem_append]
    exact not_or.mpr ⟨firstWord.noBlank, secondWord.noBlank⟩
  · rw [String.toList_append, List.mem_append]
    exact not_or.mpr ⟨firstWord.noNewline, secondWord.noNewline⟩

/-- Decimal digits are no blanks and no newlines. -/
@[simp] theorem isWord_repr (number : Nat) : IsWord number.repr := by
  have digits : ∀ digit ∈ number.repr.toList, digit.isDigit := by
    rw [Nat.toList_repr]
    exact fun digit => Nat.isDigit_of_mem_toDigits (by decide) (by decide)
  refine ⟨fun blank => ?_, fun newline => ?_⟩
  · exact absurd (digits ' ' blank) (by decide)
  · exact absurd (digits '\n' newline) (by decide)

/-- A row holds at least one word. -/
structure IsRow (row : List String) : Prop where
  nonempty : row ≠ []
  words : ∀ word ∈ row, IsWord word

def line (row : List String) : String :=
  " ".intercalate row ++ "\n"

def readRow (text : List Char) : List String :=
  (text.splitOn ' ').map String.ofList

/-- The rows of a text, and the row behind the last newline. -/
def readRows (text : String) : List (List String) :=
  (text.toList.splitOn '\n').map readRow

theorem toList_line (row : List String) :
    (line row).toList = [' '].intercalate (row.map String.toList) ++ ['\n'] := by
  rw [line, String.toList_append, String.toList_intercalate]
  rfl

theorem readRow_intercalate {row : List String} (isRow : IsRow row) :
    readRow ([' '].intercalate (row.map String.toList)) = row := by
  have noBlank : ∀ word ∈ row.map String.toList, ' ' ∉ word := by
    intro word member
    obtain ⟨source, inRow, rfl⟩ := List.mem_map.mp member
    exact (isRow.words source inRow).noBlank
  rw [readRow, List.splitOn_intercalate ' ' noBlank
    (fun none => isRow.nonempty (List.map_eq_nil_iff.mp none)), List.map_map]
  simp [Function.comp_def]

theorem newline_not_mem_intercalate {words : List (List Char)}
    (none : ∀ word ∈ words, '\n' ∉ word) : '\n' ∉ [' '].intercalate words := by
  induction words with
  | nil => exact List.not_mem_nil
  | cons word rest ih =>
      obtain ⟨noneHere, noneLater⟩ := List.forall_mem_cons.mp none
      cases rest with
      | nil => rwa [List.intercalate_singleton]
      | cons next rest =>
          rw [List.intercalate_cons_cons, List.mem_append, List.mem_append]
          exact not_or.mpr ⟨not_or.mpr ⟨noneHere, by decide⟩, ih noneLater⟩

theorem IsRow.newline_not_mem {row : List String} (isRow : IsRow row) :
    '\n' ∉ [' '].intercalate (row.map String.toList) :=
  newline_not_mem_intercalate (List.forall_mem_map.mpr fun word member =>
    (isRow.words word member).noNewline)

/-- A text of lines is read back. -/
theorem readRows_join {rows : List (List String)} (areRows : ∀ row ∈ rows, IsRow row) :
    readRows (String.join (rows.map line)) = rows ++ [[""]] := by
  rw [readRows, String.toList_join]
  induction rows with
  | nil => rfl
  | cons row rows ih =>
      obtain ⟨isRow, others⟩ := List.forall_mem_cons.mp areRows
      rw [List.map_cons, List.flatMap_cons, toList_line, List.append_assoc,
        List.singleton_append,
        List.splitOn_append_cons_self_of_not_mem isRow.newline_not_mem,
        List.map_cons, readRow_intercalate isRow, ih others, List.cons_append]

/-- A label with a value behind it. -/
def labelledLine (entry : String × String) : String :=
  entry.1 ++ " " ++ entry.2 ++ "\n"

theorem labelledLine_eq (entry : String × String) :
    labelledLine entry = line [entry.1, entry.2] :=
  String.toList_inj.mp (by simp [labelledLine, line])

/-- A list of labelled values is read back. -/
theorem readRows_labelledLines {entries : List (String × String)}
    (words : ∀ entry ∈ entries, IsWord entry.1 ∧ IsWord entry.2) :
    readRows (String.join (entries.map labelledLine)) =
      (entries.map fun entry => [entry.1, entry.2]) ++ [[""]] := by
  have lines : entries.map labelledLine =
      (entries.map fun entry => [entry.1, entry.2]).map line := by
    rw [List.map_map]
    exact List.map_congr_left fun entry _ => labelledLine_eq entry
  rw [lines, readRows_join]
  rintro row member
  obtain ⟨entry, listed, rfl⟩ := List.mem_map.mp member
  obtain ⟨label, value⟩ := words entry listed
  exact ⟨List.cons_ne_nil _ _,
    List.forall_mem_cons.mpr ⟨label, List.forall_mem_singleton.mpr value⟩⟩

section Prints

variable {ι : Type*} {read : List String → Option ι} {lines otherLines : List String}
  {items otherItems : List ι} {row : List String}

/-- The lines are lines of words, and the items are what is read from them. -/
def Prints (read : List String → Option ι) (lines : List String) (items : List ι) : Prop :=
  ∃ rows : List (List String), (∀ row ∈ rows, IsRow row) ∧ lines = rows.map line ∧
    rows.filterMap read = items

namespace Prints

theorem nil : Prints read [] [] :=
  ⟨[], fun _ member => (List.not_mem_nil member).elim, rfl, rfl⟩

theorem append (first : Prints read lines items)
    (second : Prints read otherLines otherItems) :
    Prints read (lines ++ otherLines) (items ++ otherItems) := by
  obtain ⟨rows, areRows, rfl, rfl⟩ := first
  obtain ⟨otherRows, otherAreRows, rfl, rfl⟩ := second
  refine ⟨rows ++ otherRows, List.forall_mem_append.mpr ⟨areRows, otherAreRows⟩, ?_, ?_⟩
  · rw [List.map_append]
  · rw [List.filterMap_append]

/-- A line with an item. -/
theorem item {text : String} {printed : ι} (isRow : IsRow row) (isLine : text = line row)
    (reads : read row = some printed) : Prints read [text] [printed] :=
  ⟨[row], List.forall_mem_singleton.mpr isRow, by rw [isLine, List.map_singleton],
    by rw [List.filterMap_cons, reads, List.filterMap_nil]⟩

/-- A line without an item. -/
theorem skip {text : String} (isRow : IsRow row) (isLine : text = line row)
    (reads : read row = none) : Prints read [text] [] :=
  ⟨[row], List.forall_mem_singleton.mpr isRow, by rw [isLine, List.map_singleton],
    by rw [List.filterMap_cons, reads, List.filterMap_nil]⟩

/-- A list whose members are printed one behind the other. -/
theorem flatMap {σ : Type*} {sources : List σ} {print : σ → List String}
    {itemsOf : σ → List ι} (each : ∀ source ∈ sources, Prints read (print source)
      (itemsOf source)) :
    Prints read (sources.flatMap print) (sources.flatMap itemsOf) := by
  induction sources with
  | nil => exact nil
  | cons source sources ih =>
      obtain ⟨here, later⟩ := List.forall_mem_cons.mp each
      exact here.append (ih later)

/-- A list whose members are printed in a line each. -/
theorem map {σ : Type*} {sources : List σ} {print : σ → String} {itemOf : σ → ι}
    (each : ∀ source ∈ sources, Prints read [print source] [itemOf source]) :
    Prints read (sources.map print) (sources.map itemOf) := by
  rw [List.map_eq_flatMap, List.map_eq_flatMap]
  exact flatMap each

theorem skipAll {σ : Type*} {sources : List σ} {print : σ → String}
    (each : ∀ source ∈ sources, Prints read [print source] []) :
    Prints read (sources.map print) [] := by
  have nothing : sources.flatMap (fun _ => ([] : List ι)) = [] :=
    List.flatMap_eq_nil_iff.mpr fun _ _ => rfl
  rw [List.map_eq_flatMap, ← nothing]
  exact flatMap each

/-- What has been printed is read back from the whole text. -/
theorem readRows (prints : Prints read lines items) (blank : read [""] = none) :
    (LineText.readRows (String.join lines)).filterMap read = items := by
  obtain ⟨rows, areRows, rfl, rfl⟩ := prints
  rw [readRows_join areRows, List.filterMap_append, List.filterMap_cons, blank,
    List.filterMap_nil, List.append_nil]

end Prints

end Prints

end LineText

end Burnout3Recompiled
