import Burnout3Recompiled.VectorRoom

/-!
# The host of a tool

What the streams of a tool answer, and what the tool does to them, as a list of effects.
-/

namespace Burnout3Recompiled

/-- An input stream that has been opened at the end of a file. -/
structure InputFile where
  /-- Absent when the position is negative. -/
  endPosition : Option Nat
  seeksToBegin : Bool
  /-- Absent when fewer bytes come than are asked for. -/
  read : Nat → Option (List (BitVec 8))

/-- What the streams of a tool answer, and the vector it reads a file into. -/
structure ToolHost where
  fileRoom : VectorRoom
  openInput : String → Option InputFile
  opensOutput : String → Bool
  completesOutput : String → String → Bool
  completesStandardOutput : String → Bool

/-- A stream takes all of a text or, when a write is not complete, a part of it, if anything.
Whether it can keep what it has taken when it is closed in the end is not asked by any
tool. -/
inductive ToolEffect where
  | standardOutput (text : String) (complete : Bool)
  | standardError (text : String)
  | truncateOutput (path : String)
  | writeOutput (path text : String) (complete : Bool)
  deriving DecidableEq

inductive ProgramEnd where
  | exits (exitCode : Nat)
  /-- By an exception that nothing catches. -/
  | terminates
  | hangs
  deriving DecidableEq

structure ToolRun where
  ending : ProgramEnd
  effects : List ToolEffect := []

/-- What writing a report does to an output that can be opened. -/
def reportEffects (outputPath : Option String) (report : String) (complete : Bool) :
    List ToolEffect :=
  match outputPath with
  | some path => [.truncateOutput path, .writeOutput path report complete]
  | none => [.standardOutput report complete]

section Effects

variable {outputPath : Option String} {path text report : String} {complete other : Bool}

@[simp] theorem truncateOutput_mem_reportEffects :
    .truncateOutput path ∈ reportEffects outputPath report complete ↔
      outputPath = some path := by
  cases outputPath <;> simp [reportEffects, eq_comm]

@[simp] theorem writeOutput_mem_reportEffects :
    .writeOutput path text other ∈ reportEffects outputPath report complete ↔
      outputPath = some path ∧ text = report ∧ other = complete := by
  cases outputPath <;> simp [reportEffects, @eq_comm _ path]

@[simp] theorem standardOutput_mem_reportEffects :
    .standardOutput text other ∈ reportEffects outputPath report complete ↔
      outputPath = none ∧ text = report ∧ other = complete := by
  cases outputPath <;> simp [reportEffects]

@[simp] theorem standardError_not_mem_reportEffects :
    .standardError text ∉ reportEffects outputPath report complete := by
  cases outputPath <;> simp [reportEffects]

end Effects

end Burnout3Recompiled
