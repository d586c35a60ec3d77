import EntityGen.Path

/-!
# Access to files

The operations on files that loading and writing need, in a monad that may be the outer world or a
state.
-/
namespace EntityGen

/-- Access to files. An operation that fails gives the text of the reason. -/
structure FileAccess (m : Type → Type) where
  /-- The text of a file. -/
  read : Path → m (Except String String)
  /-- Makes a directory and the ones above it, as far as they are missing. -/
  makeDirectories : Path → m (Except String Unit)
  /-- Puts a text into a file, new or not. -/
  write : Path → String → m (Except String Unit)

end EntityGen
