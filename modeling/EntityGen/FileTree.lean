import EntityGen.Sink

/-!
# File trees

A directory tree as a value: directories and files by the names that lead to them. Paths are followed
step by step from the working directory, and every operation that fails says why in the words of the
operating system.
-/
namespace EntityGen

/-- Why an operation on files fails. -/
inductive FileError
  | notFound
  | alreadyExists
  | notDirectory
  | isDirectory
  | nameTooLong
  | nulByte
  | invalidText
  deriving DecidableEq, Repr

/-- The text of a reason. -/
def FileError.message : FileError → String
  | notFound => "No such file or directory (os error 2)"
  | alreadyExists => "File exists (os error 17)"
  | notDirectory => "Not a directory (os error 20)"
  | isDirectory => "Is a directory (os error 21)"
  | nameTooLong => "File name too long (os error 36)"
  | nulByte => "file name contained an unexpected NUL byte"
  | invalidText => "stream did not contain valid UTF-8"

/-- A tree of directories and files. A location is the list of names from the root down. -/
structure FileTree where
  /-- Where relative paths start. -/
  workingDirectory : List String
  directories : List (List String)
  /-- Files, each location once. -/
  files : List (List String × ByteArray)

namespace FileTree

/-- The greatest size of a name in bytes. -/
def maxNameBytes : Nat := 255

/-- The greatest size of a path in bytes. -/
def maxPathBytes : Nat := 4095

/-- The directories above a location and the location itself, outermost first. -/
def ancestors (location : List String) : List (List String) :=
  (List.range (location.length + 1)).map location.take

/-- A tree that holds only its working directory. -/
def empty (workingDirectory : List String) : FileTree :=
  ⟨workingDirectory, ancestors workingDirectory, []⟩

/-- The contents of a file. -/
def file? (tree : FileTree) (location : List String) : Option ByteArray :=
  tree.files.lookup location

/-- The location is a directory. -/
def isDirectory (tree : FileTree) (location : List String) : Bool :=
  location.isEmpty || tree.directories.contains location

/-- Puts contents at a location. -/
def putFile (tree : FileTree) (location : List String) (contents : ByteArray) : FileTree :=
  { tree with files := (location, contents) :: tree.files.filter (·.1 != location) }

/-- Adds a directory at a location. -/
def putDirectory (tree : FileTree) (location : List String) : FileTree :=
  { tree with directories := location :: tree.directories }

/-- Adds a file below the working directory with the directories above it. -/
def withFile (tree : FileTree) (path : List String) (contents : ByteArray) : FileTree :=
  let location := tree.workingDirectory ++ path
  (ancestors location.dropLast).foldl putDirectory (tree.putFile location contents)

/-- A directory, and what lies below it. -/
structure Spot where
  location : List String
  /-- The directories in it by the rests of their locations, with the empty one for itself. -/
  below : List (List String)

namespace Spot

/-- A directory by its location. -/
def ofLocation (tree : FileTree) (location : List String) : Spot :=
  ⟨location, tree.directories.filterMap location.isPrefixOf?⟩

/-- The directory of a name, if there is one. -/
def enter? (spot : Spot) (name : String) : Option Spot :=
  let below := spot.below.filterMap [name].isPrefixOf?
  if below.contains [] then some ⟨spot.location ++ [name], below⟩ else none

/-- The directory that a component other than a name leads to. -/
def turn (tree : FileTree) (spot : Spot) : Path.Component → Spot
  | .root => ofLocation tree []
  | .parent => ofLocation tree spot.location.dropLast
  | .current | .name _ => spot

end Spot

/-- One step from a directory to another one. -/
def enter (tree : FileTree) (spot : Spot) : Path.Component → Except FileError Spot
  | .name text =>
    if maxNameBytes < text.utf8ByteSize then .error .nameTooLong
    else match spot.enter? text with
      | some next => .ok next
      | none =>
        .error (if (tree.file? (spot.location ++ [text])).isSome then .notDirectory else .notFound)
  | component => .ok (spot.turn tree component)

/-- Where relative paths start. -/
def home (tree : FileTree) : Spot := .ofLocation tree tree.workingDirectory

/-- Follows components to a directory that exists. -/
def walk (tree : FileTree) (components : List Path.Component) : Except FileError Spot :=
  components.foldlM tree.enter tree.home

/-- Some texts are refused as paths whatever the tree holds. -/
def checkPath (path : Path) : Except FileError Unit :=
  if path.text.toList.contains '\x00' then .error .nulByte
  else if maxPathBytes < path.text.utf8ByteSize then .error .nameTooLong
  else .ok ()

/-- The path insists on a directory, by a separator or a dot at its end. -/
def endsInDirectory (path : Path) : Bool :=
  match (Path.pieces path.text.toList).getLast? with
  | some piece => piece.isEmpty || piece == ['.']
  | none => true

/-- The path ends in a dot, with or without separators behind it. -/
def endsInDot (path : Path) : Bool :=
  (Path.pieces path.text.toList).reverse.find? (!·.isEmpty) == some ['.']

/-- What a path leads to. -/
inductive Target
  | directory
  /-- A name in a directory, whether anything has it or not. -/
  | entry (directory : List String) (name : String)

/-- What a path leads to. All but a last name must exist, and that too when a dot follows it. -/
def target (tree : FileTree) (path : Path) : Except FileError Target := do
  checkPath path
  match path.components.getLast? with
  | none => .error .notFound
  | some (.name text) =>
    if endsInDot path then
      discard (tree.walk path.components)
      .ok .directory
    else
      let directory ← tree.walk path.components.dropLast
      .ok (.entry directory.location text)
  | some _ =>
    discard (tree.walk path.components)
    .ok .directory

/-- The bytes of a file. -/
def readBytes (tree : FileTree) (path : Path) : Except FileError ByteArray := do
  match ← tree.target path with
  | .directory => .error .isDirectory
  | .entry directory name =>
    let location := directory ++ [name]
    if maxNameBytes < name.utf8ByteSize then .error .nameTooLong
    else if tree.isDirectory location then .error .isDirectory
    else match tree.file? location with
      | none => .error .notFound
      | some contents => if endsInDirectory path then .error .notDirectory else .ok contents

/-- The text of a file. -/
def readText (tree : FileTree) (path : Path) : Except FileError String := do
  match String.fromUTF8? (← tree.readBytes path) with
  | some text => .ok text
  | none => .error .invalidText

/-- Makes the directories of components, from a directory on, as far as they are missing. `made` says
whether one was made on the way: a file is then in the place of a directory to be made, and otherwise
only if its name is the last. -/
def makeAlong : (made : Bool) → Spot → List Path.Component → FileTree →
    Except FileError Unit × FileTree
  | _, _, [], tree => (.ok (), tree)
  | made, spot, component :: rest, tree =>
    match tree.enter spot component, component with
    | .ok next, _ => makeAlong made next rest tree
    | .error .notFound, .name text =>
      let location := spot.location ++ [text]
      makeAlong true ⟨location, [[]]⟩ rest (tree.putDirectory location)
    | .error .notDirectory, _ =>
      (.error (if made || rest.isEmpty then .alreadyExists else .notDirectory), tree)
    | .error reason, _ => (.error reason, tree)

/-- Makes the directory of a path, and the ones above it as far as they are missing. -/
def makeDirectories (tree : FileTree) (path : Path) : Except FileError Unit × FileTree :=
  match checkPath path with
  | .error reason => (.error reason, tree)
  | .ok () => makeAlong false tree.home path.components tree

/-- Puts a text into the file of a path. -/
def writeText (tree : FileTree) (path : Path) (contents : String) :
    Except FileError Unit × FileTree :=
  match tree.target path with
  | .error reason => (.error reason, tree)
  | .ok .directory => (.error .isDirectory, tree)
  | .ok (.entry directory name) =>
    let location := directory ++ [name]
    if endsInDirectory path then (.error .isDirectory, tree)
    else if maxNameBytes < name.utf8ByteSize then (.error .nameTooLong, tree)
    else if tree.isDirectory location then (.error .isDirectory, tree)
    else (.ok (), tree.putFile location contents.toUTF8)

/-- Access to the files of a tree. -/
def access : FileAccess (StateM FileTree) where
  read path := fun tree => ((tree.readText path).mapError FileError.message, tree)
  makeDirectories path := fun tree =>
    let (made, tree) := tree.makeDirectories path
    (made.mapError FileError.message, tree)
  write path contents := fun tree =>
    let (written, tree) := tree.writeText path contents
    (written.mapError FileError.message, tree)

end FileTree

end EntityGen
