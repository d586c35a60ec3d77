import EntityGen.Document.Problem
import EntityGen.Kind.TypeCode

/-!
# Readings

A reading walks a document in the order of its text. It may fail, and it keeps the warnings noted up
to that point either way.
-/
namespace EntityGen.Document

/-- What a reading notes as it goes. -/
structure Notes where
  /-- Warnings in the order of the text. -/
  warnings : List Warning
  /-- How many repeats of an earlier node were followed. -/
  repeats : Nat
  deriving DecidableEq, Repr

/-- The notes before anything is read. -/
def Notes.empty : Notes := ⟨[], 0⟩

/-- A step of reading. -/
abbrev Reading (α : Type) := ExceptT Failure (StateM Notes) α

namespace Reading

/-- A reading that fails. -/
def fail {α : Type} (failure : Failure) : Reading α := throw failure

/-- A reading that finds a problem with the node at hand. -/
def refuse {α : Type} (problem : Problem) : Reading α := throw (.data [] problem .pending)

/-- A reading of the part that lies one step below the node at hand. -/
def within {α : Type} (step : Step) (reading : Reading α) : Reading α :=
  fun notes => match reading notes with
    | (.error failure, notes') => (.error (failure.within step), notes')
    | (.ok value, notes') => (.ok value, notes')

/-- A reading of a node, to which problems of a pending place belong. `untold` says whether the node
has no line to tell. -/
def settle {α : Type} (untold : Bool) (reading : Reading α) : Reading α :=
  fun notes => match reading notes with
    | (.error failure, notes') => (.error (failure.settle untold), notes')
    | (.ok value, notes') => (.ok value, notes')

/-- Notes a warning. -/
def warn (warning : Warning) : Reading Unit :=
  modify fun notes => { notes with warnings := notes.warnings ++ [warning] }

/-- Goes on unless the text breaks off. -/
def unbroken : Option Break → Reading Unit
  | none => pure ()
  | some cause => fail (.text cause)

/-- The outcome of a reading and the warnings it noted. -/
def outcome {α : Type} (reading : Reading α) : Except Failure α × List Warning :=
  let (result, notes) := reading.run.run .empty
  (result, notes.warnings)

end Reading

end EntityGen.Document
