import EntityGen.Proofs.Emission.Artifacts
import EntityGen.Proofs.FileTree.Writing

/-!
# Jobs on a directory sink

Jobs whose writes succeed leave a file tree in which every artifact lies at its place below the root.
Artifacts of one plan have different places, so each place holds the contents of its artifact.
-/
namespace EntityGen

/-- Every job that comes to an artifact has written it. -/
def AllWritten (options : Options) (jobs : List Job) (outcomes : List Outcome) : Prop :=
  jobs.Forall₂
    (fun job outcome => (job.artifact? options).isSome = true → outcome.isDone = true) outcomes

instance (options : Options) (jobs : List Job) (outcomes : List Outcome) :
    Decidable (AllWritten options jobs outcomes) :=
  inferInstanceAs (Decidable (jobs.Forall₂ _ outcomes))

namespace FileTree

/-- Where an artifact goes below a root. -/
def placeBelow (tree : FileTree) (root : Path) (artifact : Artifact) : List String :=
  tree.place (root.join artifact.path)

def putArtifacts (tree : FileTree) (root : Path) (artifacts : List Artifact) : FileTree :=
  artifacts.foldl
    (fun tree artifact => tree.putFile (tree.placeBelow root artifact) artifact.contents.toUTF8) tree

theorem putArtifacts_cons (tree : FileTree) (root : Path) (artifact : Artifact)
    (rest : List Artifact) :
    tree.putArtifacts root (artifact :: rest) =
      (tree.putFile (tree.placeBelow root artifact) artifact.contents.toUTF8).putArtifacts root rest :=
  rfl

theorem putArtifacts_nil (tree : FileTree) (root : Path) : tree.putArtifacts root [] = tree := rfl

theorem putArtifacts_append (tree : FileTree) (root : Path) (front back : List Artifact) :
    tree.putArtifacts root (front ++ back) =
      (tree.putArtifacts root front).putArtifacts root back :=
  List.foldl_append

theorem SameFiles.putArtifacts {a b : FileTree} (h : SameFiles a b) (root : Path)
    (artifacts : List Artifact) :
    SameFiles (a.putArtifacts root artifacts) (b.putArtifacts root artifacts) := by
  induction artifacts generalizing a b with
  | nil => exact h
  | cons artifact rest ih =>
    rw [putArtifacts_cons, putArtifacts_cons, placeBelow, place_congr h.workingDirectory]
    exact ih (h.putFile _ _)

theorem putFile_placeBelow (tree : FileTree) (location : List String) (contents : ByteArray)
    (root : Path) : (tree.putFile location contents).placeBelow root = tree.placeBelow root := rfl

/-- Artifacts are put nowhere else than at their places. -/
theorem file?_putArtifacts_of_not_mem {root : Path} {artifacts : List Artifact} {tree : FileTree}
    {location : List String} (h : location ∉ artifacts.map (tree.placeBelow root)) :
    (tree.putArtifacts root artifacts).file? location = tree.file? location := by
  induction artifacts generalizing tree with
  | nil => rfl
  | cons artifact rest ih =>
    rw [List.map_cons, List.mem_cons, not_or] at h
    rw [putArtifacts_cons, ih (by rw [putFile_placeBelow]; exact h.2), file?_putFile, if_neg h.1]

/-- Artifacts with different places all lie there in the end. -/
theorem file?_putArtifacts_of_mem {root : Path} {artifacts : List Artifact} {tree : FileTree}
    (hplaces : (artifacts.map (tree.placeBelow root)).Nodup) {artifact : Artifact}
    (h : artifact ∈ artifacts) :
    (tree.putArtifacts root artifacts).file? (tree.placeBelow root artifact) =
      some artifact.contents.toUTF8 := by
  induction artifacts generalizing tree with
  | nil => cases h
  | cons first rest ih =>
    rw [List.map_cons, List.nodup_cons] at hplaces
    rw [putArtifacts_cons]
    rcases List.mem_cons.mp h with rfl | hr
    · rw [file?_putArtifacts_of_not_mem (by rw [putFile_placeBelow]; exact hplaces.1),
        file?_putFile, if_pos rfl]
    · rw [← putFile_placeBelow tree (tree.placeBelow root first) first.contents.toUTF8 root]
      exact ih hplaces.2 hr

/-- The files in the end are the artifacts and what was there before at other places. -/
theorem files_putArtifacts {root : Path} {artifacts : List Artifact} {tree : FileTree}
    (hplaces : (artifacts.map (tree.placeBelow root)).Nodup) :
    (tree.putArtifacts root artifacts).files.Perm
      (artifacts.map (fun artifact =>
          (tree.placeBelow root artifact, artifact.contents.toUTF8)) ++
        tree.files.filter fun file => !(artifacts.map (tree.placeBelow root)).contains file.1) := by
  induction artifacts generalizing tree with
  | nil =>
    have hkept : tree.files.filter
        (fun file => !([].map (tree.placeBelow root)).contains file.1) = tree.files :=
      List.filter_eq_self.mpr fun _ _ => rfl
    rw [putArtifacts_nil, List.map_nil, List.nil_append, hkept]
  | cons first rest ih =>
    rw [List.map_cons, List.nodup_cons] at hplaces
    have hfirst : (!(rest.map (tree.placeBelow root)).contains (tree.placeBelow root first)) = true :=
      by simpa using hplaces.1
    have hrest := @ih (tree.putFile (tree.placeBelow root first) first.contents.toUTF8) hplaces.2
    rw [putFile_placeBelow, putFile, List.filter_cons, if_pos hfirst, List.filter_filter] at hrest
    refine hrest.trans (List.perm_middle.trans ?_)
    rw [List.map_cons, List.cons_append]
    refine List.Perm.cons _ (List.Perm.append_left _ (List.Perm.of_eq ?_))
    refine List.filter_congr fun file _ => ?_
    rw [List.map_cons, List.contains_cons, Bool.not_or, Bool.and_comm]
    rfl

end FileTree

theorem Job.execute_directorySink (job : Job) (options : Options) (root : Path) (tree : FileTree)
    (h : (job.artifact? options).isSome = true →
      ((job.execute (sourceEmitters (directorySink FileTree.access root)) options).run
        tree).1.1.isDone = true) :
    FileTree.SameFiles
      ((job.execute (sourceEmitters (directorySink FileTree.access root)) options).run tree).2
      (tree.putArtifacts root (job.artifact? options).toList) := by
  cases hp : job.prepare with
  | error fault =>
    rw [execute_run, hp, artifact?_of_error hp]
    exact ⟨rfl, rfl⟩
  | ok entity =>
    have hdone := h (by rw [artifact?_of_ok hp]; rfl)
    rw [execute_sourceEmitters hp] at hdone ⊢
    rw [artifact?_of_ok hp]
    rcases FileTree.directorySink_cases root (entity.artifact options) tree with
      ⟨-, hfiles⟩ | ⟨⟨fault, hanswer⟩, -⟩
    · rw [Option.toList_some, FileTree.putArtifacts_cons, FileTree.putArtifacts_nil]
      dsimp only
      rw [FileTree.placeBelow]
      exact hfiles
    · dsimp only at hdone
      rw [hanswer] at hdone
      cases hdone

/-- Jobs whose writes succeed put their artifacts below the root, in the order of the jobs. -/
theorem executeEach_directorySink (options : Options) (root : Path) (jobs : List Job)
    (tree : FileTree)
    (h : AllWritten options jobs
      ((executeEach (sourceEmitters (directorySink FileTree.access root)) options jobs).run tree).1) :
    FileTree.SameFiles
      ((executeEach (sourceEmitters (directorySink FileTree.access root)) options jobs).run tree).2
      (tree.putArtifacts root (artifactsOf options jobs)) := by
  induction jobs generalizing tree with
  | nil => exact ⟨rfl, rfl⟩
  | cons job rest ih =>
    cases hx : (job.execute (sourceEmitters (directorySink FileTree.access root)) options).run
      tree with
    | mk answer middle =>
      rw [executeEach_cons hx] at h ⊢
      obtain ⟨hfirst, hrest⟩ := List.forall₂_cons.mp h
      have hstep := job.execute_directorySink options root tree (by rw [hx]; exact hfirst)
      rw [hx] at hstep
      rw [artifactsOf_cons, FileTree.putArtifacts_append]
      exact (ih middle hrest).trans (hstep.putArtifacts root _)

/-- Artifacts of one plan whose places below a root are the same have the same path. -/
theorem Job.path_eq_of_place {options : Options} {job other : Job} {a b : Artifact}
    (ha : job.artifact? options = some a) (hb : other.artifact? options = some b)
    (hpackage : job.packageName = other.packageName) {tree : FileTree} {root : Path}
    (h : tree.placeBelow root a = tree.placeBelow root b) : a.path = b.path := by
  obtain ⟨first, -, rfl, -, hfirstPackage, hfirstClass⟩ := artifact?_eq_some ha
  obtain ⟨second, -, rfl, -, hsecondPackage, hsecondClass⟩ := artifact?_eq_some hb
  have hfirstSlash : '/' ∉ first.className.toList := hfirstClass ▸ job.slash_not_mem_className
  have hsecondSlash : '/' ∉ second.className.toList := hsecondClass ▸ other.slash_not_mem_className
  have hfront : first.pathFront = second.pathFront := by
    rw [Entity.pathFront, Entity.pathFront, hfirstPackage, hsecondPackage, hpackage]
  have hplace : ∀ entity : Entity, '/' ∉ entity.className.toList →
      tree.placeBelow root (entity.artifact options) =
        tree.place ⟨entity.frontBelow root⟩ ++ [entity.fileName] := by
    intro entity hslash
    rw [FileTree.placeBelow, Entity.artifact, Entity.join_path_eq root hslash, FileTree.place,
      Entity.components_behind (entity.isFront_frontBelow root) hslash, List.foldl_append]
    rfl
  rw [hplace first hfirstSlash, hplace second hsecondSlash] at h
  have hname : first.fileName = second.fileName :=
    List.singleton_inj.mp (List.append_inj_right' h rfl)
  rw [Entity.artifact, Entity.artifact, Entity.path_eq hfirstSlash, Entity.path_eq hsecondSlash,
    hfront, hname]

end EntityGen
