import Mathlib.Data.List.Basic

/-!
# Hexadecimal text

The two hexadecimal renderings of an output stream: the bare digits, and the
digits filled with zeros to a minimum width.  Streams truncate nothing, so a
wider number keeps all its digits.
-/

namespace Burnout3Recompiled.HexText

/-- Lower-case digits without leading zeros. -/
def hexDigits (value : Nat) : List Char :=
  Nat.toDigits 16 value

def upperHexDigits (value : Nat) : List Char :=
  (hexDigits value).map Char.toUpper

/-- Fill with zeros on the left, up to `width` characters. -/
def zeroFill (width : Nat) (digits : List Char) : List Char :=
  List.leftpad width '0' digits

def hex (value : Nat) : String :=
  String.ofList (hexDigits value)

def hexPadded (width value : Nat) : String :=
  String.ofList (zeroFill width (hexDigits value))

def upperHexPadded (width value : Nat) : String :=
  String.ofList (zeroFill width (upperHexDigits value))

example : hex 255 = "ff" := by decide

example : upperHexPadded 8 0x1A2B = "00001A2B" := by decide

def upperHexValue (digit : Char) : Option Nat :=
  if '0' ≤ digit ∧ digit ≤ '9' then some (digit.toNat - '0'.toNat)
  else if 'A' ≤ digit ∧ digit ≤ 'F' then some (digit.toNat - 'A'.toNat + 10)
  else none

/-- Continue reading behind digits of the given value. -/
def readUpperHexFrom (value : Nat) (digits : List Char) : Option Nat :=
  digits.foldlM (fun value digit => (upperHexValue digit).map (16 * value + ·)) value

theorem upperHexValue_digitChar {value : Nat} (digit : value < 16) :
    upperHexValue (Nat.digitChar value).toUpper = some value := by
  have all : ∀ value : Fin 16,
      upperHexValue (Nat.digitChar value.val).toUpper = some value.val := by decide
  exact all ⟨value, digit⟩

theorem readUpperHexFrom_append (value : Nat) (first second : List Char) :
    readUpperHexFrom value (first ++ second) =
      (readUpperHexFrom value first).bind (readUpperHexFrom · second) :=
  List.foldlM_append

theorem readUpperHexFrom_singleton (value : Nat) (digit : Char) :
    readUpperHexFrom value [digit] = (upperHexValue digit).map (16 * value + ·) := by
  simp [readUpperHexFrom]

theorem readUpperHexFrom_upperHexDigits (value : Nat) :
    readUpperHexFrom 0 (upperHexDigits value) = some value := by
  induction value using Nat.strongRecOn with
  | ind value ih =>
      rw [upperHexDigits, hexDigits, Nat.toDigits_eq_if (by decide)]
      split
      · next digit =>
          rw [List.map_singleton, readUpperHexFrom_singleton, upperHexValue_digitChar digit]
          simp
      · next large =>
          have smaller : value / 16 < value := Nat.div_lt_self (by omega) (by decide)
          have front := ih (value / 16) smaller
          rw [upperHexDigits, hexDigits] at front
          rw [List.map_append, readUpperHexFrom_append, front, Option.bind_some,
            List.map_singleton, readUpperHexFrom_singleton,
            upperHexValue_digitChar (Nat.mod_lt value (by decide)), Option.map_some,
            Nat.div_add_mod]

theorem readUpperHexFrom_zeroFill (width : Nat) (digits : List Char) :
    readUpperHexFrom 0 (zeroFill width digits) = readUpperHexFrom 0 digits := by
  have zeros (count : Nat) : readUpperHexFrom 0 (List.replicate count '0') = some 0 := by
    induction count with
    | zero => rfl
    | succ count ih =>
        rw [List.replicate_succ', readUpperHexFrom_append, ih, Option.bind_some]
        rfl
  rw [zeroFill, List.leftpad, readUpperHexFrom_append, zeros, Option.bind_some]

/-- Filled digits are read back, of whatever width they are. -/
theorem readUpperHexFrom_upperHexPadded (width value : Nat) :
    readUpperHexFrom 0 (upperHexPadded width value).toList = some value := by
  rw [upperHexPadded, String.toList_ofList, readUpperHexFrom_zeroFill,
    readUpperHexFrom_upperHexDigits]

/-- Only digits are read. -/
theorem isSome_upperHexValue_of_mem {digits : List Char} {value result : Nat}
    (reads : readUpperHexFrom value digits = some result) :
    ∀ digit ∈ digits, (upperHexValue digit).isSome := by
  induction digits generalizing value with
  | nil => exact fun _ member => (List.not_mem_nil member).elim
  | cons digit digits ih =>
      rw [← List.singleton_append, readUpperHexFrom_append, readUpperHexFrom_singleton,
        Option.bind_eq_some_iff] at reads
      obtain ⟨next, here, later⟩ := reads
      obtain ⟨digitValue, present, -⟩ := Option.map_eq_some_iff.mp here
      exact List.forall_mem_cons.mpr ⟨Option.isSome_of_eq_some present, ih later⟩

theorem isSome_upperHexValue_upperHexPadded (width value : Nat) :
    ∀ digit ∈ (upperHexPadded width value).toList, (upperHexValue digit).isSome :=
  isSome_upperHexValue_of_mem (readUpperHexFrom_upperHexPadded width value)

end Burnout3Recompiled.HexText
