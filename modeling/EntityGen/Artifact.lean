import EntityGen.Path

/-!
# Artifacts

A rendered source with the place it belongs to, and the order in which artifacts are listed.
-/
namespace EntityGen

/-- A rendered source file. -/
structure Artifact where
  /-- The table or view it was generated from. -/
  entity : String
  /-- The place below the root of the sink. -/
  path : Path
  contents : String
  deriving DecidableEq, Repr

/-- Artifacts in the order of their paths; equal paths keep their order. -/
def Artifact.sorted (artifacts : List Artifact) : List Artifact :=
  artifacts.mergeSort fun a b => a.path.le b.path

end EntityGen
