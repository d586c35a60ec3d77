/-!
# Paths

A path keeps its text. Comparison looks at its components, so a doubled or trailing separator does not
count.
-/
namespace EntityGen

/-- A path as it is written. -/
structure Path where
  text : String
  deriving DecidableEq, Repr, Inhabited

namespace Path

/-- A part of a path. -/
inductive Component
  | root
  | current
  | parent
  | name (text : String)
  deriving DecidableEq, Repr

namespace Component

/-- The place of a component among the sorts of components. -/
def rank : Component → Nat
  | root => 0
  | current => 1
  | parent => 2
  | name _ => 3

/-- The order of components: by sort, and names by their text. -/
def before (a b : Component) : Bool :=
  match a, b with
  | name a, name b => a < b
  | a, b => a.rank < b.rank

end Component

/-- The pieces between the separators of a text. -/
def pieces : List Char → List (List Char)
  | [] => [[]]
  | c :: rest =>
    if c == '/' then [] :: pieces rest
    else match pieces rest with
      | [] => [[c]]
      | piece :: more => (c :: piece) :: more

/-- The component of a piece, if it is one. A dot counts only at the front. -/
def component? (front : Bool) (piece : List Char) : Option Component :=
  if piece.isEmpty then none
  else if piece == ['.'] then (if front then some .current else none)
  else if piece == ['.', '.'] then some .parent
  else some (.name (String.ofList piece))

/-- The path starts at the root. -/
def isAbsolute (path : Path) : Bool := path.text.toList.head? == some '/'

/-- The components of a path. -/
def components (path : Path) : List Component :=
  if path.isAbsolute then
    .root :: (pieces path.text.toList).filterMap (component? false)
  else match pieces path.text.toList with
    | [] => []
    | piece :: rest =>
      (component? true piece).toList ++ rest.filterMap (component? false)

/-- The order of lists of components. -/
def before : List Component → List Component → Bool
  | _, [] => false
  | [], _ :: _ => true
  | a :: as, b :: bs => a.before b || (a == b && before as bs)

/-- The order of paths, component by component. -/
def le (a b : Path) : Bool := !before b.components a.components

/-- A path below another one. An absolute path replaces what it is put below. -/
def join (base path : Path) : Path :=
  if path.isAbsolute then path
  else match base.text.toList.getLast? with
    | none => path
    | some last =>
      if last == '/' then ⟨base.text ++ path.text⟩ else ⟨base.text ++ "/" ++ path.text⟩

/-- The path that leads through segments one after the other. -/
def ofSegments (segments : List String) : Path :=
  segments.foldl (fun path segment => path.join ⟨segment⟩) ⟨""⟩

/-- The pieces up to and with the last one that is a component, last piece first. -/
def dropToComponent : List (List Char × Bool) → List (List Char × Bool)
  | [] => []
  | (piece, front) :: rest =>
    if (component? front piece).isSome then (piece, front) :: rest else dropToComponent rest

/-- The path without its last component. -/
def parent? (path : Path) : Option Path :=
  let absolute := path.isAbsolute
  let marked := (pieces path.text.toList).zipIdx.map fun (piece, i) => (piece, i == 0 && !absolute)
  match dropToComponent marked.reverse with
  | [] => none
  | _ :: rest =>
    match dropToComponent rest with
    | [] => some ⟨if absolute then "/" else ""⟩
    | kept => some ⟨"/".intercalate (kept.reverse.map fun entry => String.ofList entry.1)⟩

/-- The name that a path ends in. -/
def fileName? (path : Path) : Option String :=
  match path.components.getLast? with
  | some (.name text) => some text
  | _ => none

/-- What follows the last dot of the name; a name whose only dot is in front has none. -/
def extension? (path : Path) : Option String := do
  let name ← path.fileName?
  let backwards := name.toList.reverse
  let stem := (backwards.dropWhile (· != '.')).drop 1
  if stem.isEmpty then none else some (String.ofList (backwards.takeWhile (· != '.')).reverse)

end Path

end EntityGen
