import EntityGen.Emission
import EntityGen.FileAccess

/-!
# Sinks

A memory sink keeps artifacts in a list. A directory sink writes them below a root through whatever
access to files it is given.
-/
namespace EntityGen

/-- Keeps artifacts in the order in which they come. -/
def memorySink : Sink (StateM (List Artifact)) := fun artifact => do
  modify (· ++ [artifact])
  return .ok ()

/-- Writes artifacts below a root. -/
def directorySink {m : Type → Type} [Monad m] (files : FileAccess m) (root : Path) : Sink m :=
  fun artifact => do
    let path := root.join artifact.path
    let made ← match path.parent? with
      | some directory => files.makeDirectories directory
      | none => pure (.ok ())
    match made with
    | .error reason => return .error (.io reason)
    | .ok () =>
      match ← files.write path artifact.contents with
      | .error reason => return .error (.io reason)
      | .ok () => return .ok ()

end EntityGen
