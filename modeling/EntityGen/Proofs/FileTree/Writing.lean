import EntityGen.FileTree
import EntityGen.Proofs.Path.Components

/-!
# Writing into a file tree

Where a path leads is decided by its components and the working directory alone. A write that succeeds
changes the file at that place and no other; directories that are made on the way change no file.
-/
namespace EntityGen

/-- The location that a component leads to from another one. -/
def Path.Component.turn (location : List String) : Component → List String
  | root => []
  | current => location
  | parent => location.dropLast
  | name text => location ++ [text]

theorem Path.Component.foldl_turn_of_names {components : List Component}
    (h : ∀ component ∈ components, ∃ text, component = .name text) (location : List String) :
    components.foldl turn location = location ++ components.filterMap text? := by
  induction components generalizing location with
  | nil => rw [List.foldl_nil, List.filterMap_nil, List.append_nil]
  | cons component rest ih =>
    obtain ⟨text, rfl⟩ := h component List.mem_cons_self
    rw [List.foldl_cons, turn, ih fun other ho => h other (List.mem_cons_of_mem _ ho),
      List.append_assoc]
    rfl

namespace FileTree

/-- The location that a path stands for. -/
def place (tree : FileTree) (path : Path) : List String :=
  path.components.foldl Path.Component.turn tree.workingDirectory

theorem place_congr {a b : FileTree} (h : a.workingDirectory = b.workingDirectory) (path : Path) :
    a.place path = b.place path := by
  rw [place, place, h]

theorem enter_location {tree : FileTree} {spot next : Spot} {component : Path.Component}
    (h : tree.enter spot component = .ok next) :
    next.location = component.turn spot.location := by
  cases component with
  | name text =>
    rw [enter] at h
    split at h
    · cases h
    · split at h
      · next hn =>
        cases h
        rw [Spot.enter?] at hn
        split at hn
        · rw [← Option.some.inj hn]
          rfl
        · cases hn
      · cases h
  | root =>
    cases h
    rfl
  | parent =>
    cases h
    rfl
  | current =>
    cases h
    rfl

theorem foldlM_enter_location {tree : FileTree} {components : List Path.Component}
    {spot final : Spot} (h : components.foldlM tree.enter spot = .ok final) :
    final.location = components.foldl Path.Component.turn spot.location := by
  induction components generalizing spot with
  | nil =>
    cases h
    rfl
  | cons component rest ih =>
    rw [List.foldlM_cons] at h
    cases he : tree.enter spot component with
    | error reason =>
      rw [he] at h
      cases h
    | ok next =>
      rw [he] at h
      rw [ih h, List.foldl_cons, enter_location he]

theorem walk_location {tree : FileTree} {components : List Path.Component} {spot : Spot}
    (h : tree.walk components = .ok spot) :
    spot.location = components.foldl Path.Component.turn tree.workingDirectory :=
  foldlM_enter_location h

/-- A path that leads to an entry of a directory leads to its own place. -/
theorem target_entry {tree : FileTree} {path : Path} {directory : List String} {name : String}
    (h : tree.target path = .ok (.entry directory name)) :
    directory ++ [name] = tree.place path := by
  unfold target at h
  cases hc : checkPath path with
  | error reason =>
    rw [hc] at h
    cases h
  | ok _ =>
    rw [hc] at h
    cases hlast : path.components.getLast? with
    | none =>
      simp only [hlast, bind, Except.bind] at h
      cases h
    | some component =>
      obtain ⟨before, hcomponents⟩ := List.getLast?_eq_some_iff.mp hlast
      cases component with
      | name text =>
        simp only [hlast, bind, Except.bind] at h
        split at h
        · cases hw : discard (tree.walk path.components) <;> rw [hw] at h <;> cases h
        · cases hw : tree.walk path.components.dropLast with
          | error reason =>
            rw [hw] at h
            cases h
          | ok spot =>
            rw [hw] at h
            cases h
            rw [walk_location hw, place, hcomponents, List.dropLast_concat, List.foldl_append]
            rfl
      | root | current | parent =>
        simp only [hlast, bind, Except.bind] at h
        cases hw : discard (tree.walk path.components) <;> rw [hw] at h <;> cases h

/-- A write puts the contents at the place of the path, or fails and changes nothing. -/
theorem writeText_cases (tree : FileTree) (path : Path) (contents : String) :
    tree.writeText path contents = (.ok (), tree.putFile (tree.place path) contents.toUTF8) ∨
      ∃ reason, tree.writeText path contents = (.error reason, tree) := by
  unfold writeText
  cases ht : tree.target path with
  | error reason => exact .inr ⟨reason, rfl⟩
  | ok target =>
    cases target with
    | directory => exact .inr ⟨_, rfl⟩
    | entry directory name =>
      rw [← target_entry ht]
      dsimp only
      split
      · exact .inr ⟨_, rfl⟩
      · split
        · exact .inr ⟨_, rfl⟩
        · split
          · exact .inr ⟨_, rfl⟩
          · exact .inl rfl

structure SameFiles (a b : FileTree) : Prop where
  workingDirectory : a.workingDirectory = b.workingDirectory
  files : a.files = b.files

theorem makeAlong_sameFiles (made : Bool) (spot : Spot) (components : List Path.Component)
    (tree : FileTree) : SameFiles (makeAlong made spot components tree).2 tree := by
  induction components generalizing made spot tree with
  | nil => exact ⟨rfl, rfl⟩
  | cons component rest ih =>
    unfold makeAlong
    split
    · next next _ => exact ih made next tree
    · next text _ =>
      obtain ⟨hdirectory, hfiles⟩ := ih true ⟨spot.location ++ [text], [[]]⟩
        (tree.putDirectory (spot.location ++ [text]))
      exact ⟨hdirectory, hfiles⟩
    · exact ⟨rfl, rfl⟩
    · exact ⟨rfl, rfl⟩

theorem makeDirectories_sameFiles (tree : FileTree) (path : Path) :
    SameFiles (tree.makeDirectories path).2 tree := by
  unfold makeDirectories
  split
  · exact ⟨rfl, rfl⟩
  · exact makeAlong_sameFiles _ _ _ _

theorem SameFiles.putFile {a b : FileTree} (h : SameFiles a b) (location : List String)
    (contents : ByteArray) : SameFiles (a.putFile location contents) (b.putFile location contents)
    where
  workingDirectory := h.workingDirectory
  files := by rw [FileTree.putFile, FileTree.putFile, h.files]

theorem SameFiles.trans {a b c : FileTree} (hab : SameFiles a b) (hbc : SameFiles b c) :
    SameFiles a c :=
  ⟨hab.workingDirectory.trans hbc.workingDirectory, hab.files.trans hbc.files⟩

theorem access_makeDirectories_sameFiles (path : Path) (tree : FileTree) :
    SameFiles ((access.makeDirectories path).run tree).2 tree :=
  makeDirectories_sameFiles tree path

/-- After directories were made, a write puts the contents at their place or fails. -/
theorem access_write_cases {middle tree : FileTree} (h : SameFiles middle tree) (path : Path)
    (contents : String) :
    (((access.write path contents).run middle).1 = .ok () ∧
      SameFiles ((access.write path contents).run middle).2
        (tree.putFile (tree.place path) contents.toUTF8)) ∨
    (∃ reason, ((access.write path contents).run middle).1 = .error reason) ∧
      SameFiles ((access.write path contents).run middle).2 tree := by
  have hrun : (access.write path contents).run middle =
      ((middle.writeText path contents).1.mapError FileError.message,
        (middle.writeText path contents).2) := rfl
  rw [hrun]
  rcases writeText_cases middle path contents with hw | ⟨reason, hw⟩
  · rw [hw, place_congr h.workingDirectory]
    exact .inl ⟨rfl, h.putFile _ _⟩
  · rw [hw]
    exact .inr ⟨⟨_, rfl⟩, h⟩

/-- The write of an artifact once the directories above it are dealt with. -/
def writeBelow (root : Path) (artifact : Artifact) (made : Except String Unit) (tree : FileTree) :
    Except Fault Unit × FileTree :=
  match made with
  | .error reason => (.error (.io reason), tree)
  | .ok () =>
    let ran := (access.write (root.join artifact.path) artifact.contents).run tree
    (ran.1.mapError .io, ran.2)

theorem directorySink_run (root : Path) (artifact : Artifact) (tree : FileTree) :
    ∃ made middle, SameFiles middle tree ∧
      (directorySink access root artifact).run tree = writeBelow root artifact made middle := by
  have hbelow : ∀ made middle,
      ((match made with
        | .error reason => pure (.error (.io reason))
        | .ok () => do
          match ← access.write (root.join artifact.path) artifact.contents with
          | .error reason => return .error (.io reason)
          | .ok () => return .ok ()) : StateM FileTree (Except Fault Unit)).run middle =
        writeBelow root artifact made middle := by
    intro made middle
    cases made with
    | error reason => rfl
    | ok _ =>
      rw [writeBelow, StateT.run_bind]
      cases hw : (access.write (root.join artifact.path) artifact.contents).run middle with
      | mk written after => cases written <;> rfl
  rw [directorySink]
  cases (root.join artifact.path).parent? with
  | none => exact ⟨_, _, ⟨rfl, rfl⟩, hbelow (.ok ()) tree⟩
  | some directory =>
    exact ⟨_, _, access_makeDirectories_sameFiles directory tree, hbelow _ _⟩

/-- A directory sink puts the artifact at its place below the root, or fails and changes no file. -/
theorem directorySink_cases (root : Path) (artifact : Artifact) (tree : FileTree) :
    (((directorySink access root artifact).run tree).1 = .ok () ∧
      SameFiles ((directorySink access root artifact).run tree).2
        (tree.putFile (tree.place (root.join artifact.path)) artifact.contents.toUTF8)) ∨
    (∃ fault, ((directorySink access root artifact).run tree).1 = .error fault) ∧
      SameFiles ((directorySink access root artifact).run tree).2 tree := by
  obtain ⟨made, middle, hmiddle, hrun⟩ := directorySink_run root artifact tree
  rw [hrun]
  cases made with
  | error reason => exact .inr ⟨⟨_, rfl⟩, hmiddle⟩
  | ok _ =>
    rw [writeBelow]
    dsimp only
    rcases access_write_cases hmiddle (root.join artifact.path) artifact.contents with
      ⟨hanswer, hfiles⟩ | ⟨⟨reason, hanswer⟩, hfiles⟩
    · rw [hanswer]
      exact .inl ⟨rfl, hfiles⟩
    · rw [hanswer]
      exact .inr ⟨⟨_, rfl⟩, hfiles⟩

theorem lookup_filter_ne {files : List (List String × ByteArray)} {location other : List String}
    (h : other ≠ location) :
    (files.filter (·.1 != location)).lookup other = files.lookup other := by
  induction files with
  | nil => rfl
  | cons file rest ih =>
    by_cases hf : file.1 = location
    · have hother : (other == file.1) = false := by rw [hf]; exact beq_eq_false_iff_ne.mpr h
      rw [List.filter_cons, if_neg (by simpa using hf), ih, List.lookup_cons, hother]
    · rw [List.filter_cons, if_pos (by simpa using hf), List.lookup_cons, List.lookup_cons, ih]

theorem file?_putFile (tree : FileTree) (location : List String) (contents : ByteArray)
    (other : List String) :
    (tree.putFile location contents).file? other =
      if other = location then some contents else tree.file? other := by
  rw [file?, putFile, List.lookup_cons]
  by_cases h : other = location
  · rw [if_pos h, h, beq_self_eq_true]
  · rw [if_neg h, beq_eq_false_iff_ne.mpr h, lookup_filter_ne h, file?]

end FileTree

end EntityGen
