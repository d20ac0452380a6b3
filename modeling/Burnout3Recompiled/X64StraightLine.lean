import Burnout3Recompiled.X64Machine

/-!
# Straight-line machine code

Generated code without jumps is a sequence of complete encodings followed by a
`ret`.  `Encodes` relates such a byte sequence to the instructions it decodes
to, whatever bytes follow, and `run_straightLine` reduces its execution to a
fold of instruction effects.
-/

namespace Burnout3Recompiled.X64

open LittleEndianMemory (ofBytes bytesOf ofBytes_bytesOf)

/-- The byte sequence is the concatenation of encodings of the instructions. -/
inductive Encodes : List (BitVec 8) → List Instruction → Prop
  | nil : Encodes [] []
  | cons (chunk : List (BitVec 8)) {bytes : List (BitVec 8)}
      {instruction : Instruction} {instructions : List Instruction}
      (decoded : ∀ rest, decode (chunk ++ rest) = some (instruction, chunk.length))
      (tail : Encodes bytes instructions) :
      Encodes (chunk ++ bytes) (instruction :: instructions)

namespace Encodes

theorem single {chunk : List (BitVec 8)} {instruction : Instruction}
    (decoded : ∀ rest, decode (chunk ++ rest) = some (instruction, chunk.length)) :
    Encodes chunk [instruction] := by
  simpa using Encodes.cons chunk decoded .nil

theorem append {firstBytes secondBytes : List (BitVec 8)}
    {firstInstructions secondInstructions : List Instruction}
    (first : Encodes firstBytes firstInstructions)
    (second : Encodes secondBytes secondInstructions) :
    Encodes (firstBytes ++ secondBytes)
      (firstInstructions ++ secondInstructions) := by
  induction first with
  | nil => exact second
  | cons chunk decoded tail ih =>
      rw [List.append_assoc, List.cons_append]
      exact .cons chunk decoded ih

/-- Every instruction takes at least one byte. -/
theorem length_pos {chunk : List (BitVec 8)} {instruction : Instruction}
    (decoded : ∀ rest, decode (chunk ++ rest) = some (instruction, chunk.length)) :
    0 < chunk.length := by
  cases chunk with
  | nil => simpa [decode, decodeOneByte] using decoded []
  | cons byte chunk => simp

theorem length_le {bytes : List (BitVec 8)} {instructions : List Instruction}
    (encodes : Encodes bytes instructions) :
    instructions.length ≤ bytes.length := by
  induction encodes with
  | nil => simp
  | @cons chunk bytes instruction instructions decoded tail ih =>
      have nonempty := length_pos decoded
      simp only [List.length_cons, List.length_append]
      omega

end Encodes

/-- The instructions of a buffer, each decoded where the one before it ends.  `none`
stands for bytes that are no instruction of the fragment or an incomplete one. -/
def disassembleFrom : Nat → List (BitVec 8) → Option (List Instruction)
  | 0, bytes => if bytes.isEmpty then some [] else none
  | fuel + 1, bytes =>
      if bytes.isEmpty then some []
      else
        match decode bytes with
        | none => none
        | some (instruction, length) =>
            if length ≤ bytes.length then
              (disassembleFrom fuel (bytes.drop length)).map (instruction :: ·)
            else none

/-- Every instruction takes a byte, so the buffer's length is enough fuel. -/
def disassemble (code : List (BitVec 8)) : Option (List Instruction) :=
  disassembleFrom code.length code

theorem Encodes.disassembleFrom_append {bytes : List (BitVec 8)}
    {instructions : List Instruction} (encodes : Encodes bytes instructions)
    (rest : List (BitVec 8)) (fuel : Nat) :
    disassembleFrom (instructions.length + fuel) (bytes ++ rest) =
      (disassembleFrom fuel rest).map (instructions ++ ·) := by
  induction encodes with
  | nil => simp
  | @cons chunk bytes instruction instructions decoded tail ih =>
      have nonempty : (chunk ++ bytes ++ rest).isEmpty = false := by
        have occupied := Encodes.length_pos decoded
        cases chunk with
        | nil => cases occupied
        | cons byte chunk => rfl
      have fetched : decode (chunk ++ bytes ++ rest) = some (instruction, chunk.length) := by
        rw [List.append_assoc]
        exact decoded _
      have fits : chunk.length ≤ (chunk ++ bytes ++ rest).length := by
        rw [List.append_assoc, List.length_append]
        exact Nat.le_add_right _ _
      rw [List.length_cons, Nat.add_right_comm, disassembleFrom, nonempty, fetched]
      simp only [Bool.false_eq_true, if_false, if_pos fits]
      rw [List.append_assoc, List.drop_left, ih, Option.map_map]
      rfl

/-- Straight-line code and its `ret` cover a buffer exactly. -/
theorem Encodes.disassemble_ret {bytes : List (BitVec 8)} {instructions : List Instruction}
    (encodes : Encodes bytes instructions) :
    disassemble (bytes ++ [0xC3]) = some (instructions ++ [.ret]) := by
  have shorter := encodes.length_le
  obtain ⟨extra, enough⟩ : ∃ extra, bytes.length + 1 = instructions.length + (extra + 1) :=
    ⟨bytes.length - instructions.length, by omega⟩
  have last : disassembleFrom (extra + 1) [0xC3] = some [.ret] := by
    cases extra <;> rfl
  rw [disassemble, List.length_append, List.length_singleton, enough,
    encodes.disassembleFrom_append, last]
  rfl

section Running

variable (addF32 : BitVec 32 → BitVec 32 → BitVec 32)

/-- Encodings that stand at the current offset are executed in order. -/
theorem run_encodes {bytes after : List (BitVec 8)}
    {instructions : List Instruction} (encodes : Encodes bytes instructions)
    (straight : .ret ∉ instructions) (before : List (BitVec 8))
    (fuel : Nat) (machine : Machine) :
    run addF32 (before ++ (bytes ++ after)) (instructions.length + fuel)
        before.length machine =
      run addF32 (before ++ (bytes ++ after)) fuel
        (before.length + bytes.length)
        (instructions.foldl (execute addF32) machine) := by
  induction encodes generalizing before machine with
  | nil => simp
  | @cons chunk bytes instruction instructions decoded tail ih =>
      have notRet : instruction ≠ .ret := fun equal => straight (by simp [equal])
      have tailStraight : .ret ∉ instructions := fun member =>
        straight (.tail _ member)
      have fetched : decode ((before ++ (chunk ++ bytes ++ after)).drop
          before.length) = some (instruction, chunk.length) := by
        rw [List.drop_left, List.append_assoc]
        exact decoded _
      have rest := ih tailStraight (before ++ chunk)
        (execute addF32 machine instruction)
      have sameCode : before ++ chunk ++ (bytes ++ after) =
          before ++ (chunk ++ bytes ++ after) := by
        simp only [List.append_assoc]
      rw [sameCode, List.length_append] at rest
      rw [List.length_cons, Nat.add_right_comm, run, fetched, List.foldl_cons,
        List.length_append, ← Nat.add_assoc]
      cases instruction <;> first | exact absurd rfl notRet | exact rest

theorem decode_ret (rest : List (BitVec 8)) :
    decode ([0xC3] ++ rest) = some (.ret, 1) := by
  cases rest <;> rfl

/-- Straight-line code that ends in a `ret` reaches it with any fuel that covers
its bytes. -/
theorem run_straightLine {bytes : List (BitVec 8)}
    {instructions : List Instruction} (encodes : Encodes bytes instructions)
    (straight : .ret ∉ instructions) {fuel : Nat}
    (enough : bytes.length < fuel) (machine : Machine) :
    run addF32 (bytes ++ [0xC3]) fuel 0 machine =
      some (bytes.length, instructions.foldl (execute addF32) machine) := by
  have shorter := encodes.length_le
  obtain ⟨extra, rfl⟩ : ∃ extra, fuel = instructions.length + (extra + 1) :=
    ⟨fuel - instructions.length - 1, by omega⟩
  have body : run addF32 ([] ++ (bytes ++ [0xC3]))
      (instructions.length + (extra + 1)) 0 machine = _ :=
    run_encodes addF32 encodes straight [] (extra + 1) machine
  simp only [List.nil_append, List.length_nil, Nat.zero_add] at body
  have lastInstruction : decode ((bytes ++ [0xC3]).drop bytes.length) =
      some (.ret, 1) := by
    rw [List.drop_left]
    exact decode_ret []
  rw [body, run, lastInstruction]

end Running

/-- A decoder that reads a displacement or an immediate byte by byte spells the
word that was written. -/
theorem spelled32 (value : BitVec 32) : ofBytes 32 (bytesOf value 4) = value :=
  ofBytes_bytesOf value rfl

theorem spelled64 (value : BitVec 64) : ofBytes 64 (bytesOf value 8) = value :=
  ofBytes_bytesOf value rfl

end Burnout3Recompiled.X64
