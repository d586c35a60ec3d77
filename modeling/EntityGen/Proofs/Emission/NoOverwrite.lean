import EntityGen.Proofs.Emission.Directory

/-!
# No artifact is overwritten

The jobs of a plan, in any order and each at most once, write to different paths. A memory sink
therefore keeps as many artifacts as jobs succeed, and a directory holds exactly those artifacts.
-/
namespace EntityGen

namespace FileTree

/-- The files at a location and below it, by the rests of their locations. -/
def filesBelow (tree : FileTree) (location : List String) : List (List String × ByteArray) :=
  tree.files.filterMap fun file => (location.isPrefixOf? file.1).map fun rest => (rest, file.2)

/-- After a run the artifacts lie at different places below the root, each with its contents, and every
other location is as it was before. The files are those of the artifacts and those that stood at none
of their places. -/
structure Holds (after before : FileTree) (root : Path) (stored : List Artifact) : Prop where
  places : (stored.map (before.placeBelow root)).Nodup
  files : after.files.Perm
    (stored.map (fun artifact => (before.placeBelow root artifact, artifact.contents.toUTF8)) ++
      before.files.filter fun file => !(stored.map (before.placeBelow root)).contains file.1)
  held : ∀ artifact ∈ stored,
    after.file? (before.placeBelow root artifact) = some artifact.contents.toUTF8
  others : ∀ location, location ∉ stored.map (before.placeBelow root) →
    after.file? location = before.file? location

theorem holds_putArtifacts {root : Path} {artifacts : List Artifact} {tree after : FileTree}
    (hplaces : (artifacts.map (tree.placeBelow root)).Nodup)
    (hafter : SameFiles after (tree.putArtifacts root artifacts)) :
    Holds after tree root artifacts where
  places := hplaces
  files := by
    rw [hafter.files]
    exact files_putArtifacts hplaces
  held artifact hm := by
    rw [file?, hafter.files]
    exact file?_putArtifacts_of_mem hplaces hm
  others location hm := by
    rw [file?, hafter.files]
    exact file?_putArtifacts_of_not_mem hm

theorem isPrefixOf?_append (location rest : List String) :
    location.isPrefixOf? (location ++ rest) = some rest := by
  induction location with
  | nil => rfl
  | cons name more ih => simp [List.isPrefixOf?, ih]

/-- A root that was empty holds the artifacts and nothing else. -/
theorem filesBelow_putArtifacts {root : Path} {artifacts : List Artifact} {tree after : FileTree}
    (hplaces : (artifacts.map (tree.placeBelow root)).Nodup)
    (hafter : SameFiles after (tree.putArtifacts root artifacts))
    (hempty : tree.filesBelow (tree.place root) = [])
    (hnames : ∀ artifact ∈ artifacts,
      tree.placeBelow root artifact = tree.place root ++ artifact.path.names) :
    (after.filesBelow (tree.place root)).Perm
      (artifacts.map fun artifact => (artifact.path.names, artifact.contents.toUTF8)) := by
  have hfiles := (files_putArtifacts hplaces).filterMap fun file =>
    ((tree.place root).isPrefixOf? file.1).map fun rest => (rest, file.2)
  rw [← hafter.files, List.filterMap_append, List.filterMap_map] at hfiles
  have hold : (tree.files.filter fun file =>
      !(artifacts.map (tree.placeBelow root)).contains file.1).filterMap
        (fun file => ((tree.place root).isPrefixOf? file.1).map fun rest => (rest, file.2)) = [] := by
    rw [List.filterMap_eq_nil_iff]
    intro file hm
    exact List.filterMap_eq_nil_iff.mp hempty file (List.mem_filter.mp hm).1
  have hnew : artifacts.filterMap ((fun file =>
      ((tree.place root).isPrefixOf? file.1).map fun rest => (rest, file.2)) ∘
        fun artifact => (tree.placeBelow root artifact, artifact.contents.toUTF8)) =
      artifacts.map fun artifact => (artifact.path.names, artifact.contents.toUTF8) := by
    rw [← List.filterMap_eq_map]
    refine List.filterMap_congr fun artifact hm => ?_
    rw [Function.comp_apply, hnames artifact hm, isPrefixOf?_append]
    rfl
  rw [hold, List.append_nil, hnew] at hfiles
  exact hfiles

end FileTree

section
variable {schema : Schema} {settings : Settings} {jobs : List Job}

theorem exists_job_of_mem_artifactsOf {options : Options} {artifact : Artifact}
    (h : artifact ∈ artifactsOf options jobs) :
    ∃ job ∈ jobs, job.artifact? options = some artifact :=
  List.mem_filterMap.mp h

/-- Artifacts of jobs of a plan go to different places, below whatever root. -/
theorem artifactsOf_places (hjobs : List.Subperm jobs (schema.plan settings)) (options : Options)
    (tree : FileTree) (root : Path) :
    ((artifactsOf options jobs).map (tree.placeBelow root)).Nodup := by
  have hfolded := artifactsOf_folded hjobs options
  rw [List.Nodup, List.pairwise_map] at hfolded ⊢
  refine hfolded.imp_of_mem ?_
  intro a b ha hb hne hplace
  obtain ⟨job, hjob, hjobArtifact⟩ := exists_job_of_mem_artifactsOf ha
  obtain ⟨other, hother, hotherArtifact⟩ := exists_job_of_mem_artifactsOf hb
  have hpackage : job.packageName = other.packageName :=
    (Schema.plan_packageName (hjobs.subset hjob)).trans
      (Schema.plan_packageName (hjobs.subset hother)).symm
  exact hne (congrArg Path.folded
    (Job.path_eq_of_place hjobArtifact hotherArtifact hpackage hplace))

/-- In a package that is no absolute path the artifacts go below the root, by the names of their
paths. -/
theorem artifactsOf_names (hjobs : List.Subperm jobs (schema.plan settings)) {options : Options}
    (hrelative : (packagePath (settings.packageFor schema.name)).isAbsolute = false)
    (tree : FileTree) (root : Path) {artifact : Artifact} (h : artifact ∈ artifactsOf options jobs) :
    tree.placeBelow root artifact = tree.place root ++ artifact.path.names := by
  obtain ⟨job, hjob, hartifact⟩ := exists_job_of_mem_artifactsOf h
  obtain ⟨entity, -, rfl, -, hpackage, hclass⟩ := Job.artifact?_eq_some hartifact
  have hslash : '/' ∉ entity.className.toList := hclass ▸ job.slash_not_mem_className
  have hpath : entity.path.isAbsolute = false := by
    rw [Entity.path_isAbsolute hslash, hpackage, Schema.plan_packageName (hjobs.subset hjob),
      hrelative]
  rw [FileTree.placeBelow, FileTree.place, Entity.artifact,
    Entity.components_join_path root hslash hpath, List.foldl_append,
    Path.Component.foldl_turn_of_names fun _ hm => Entity.exists_name_of_mem_path hslash hpath hm]
  rfl

/-- Jobs of a plan, in any order and each at most once, never write where another one has written.
Whatever the sink does, the paths that were written differ by more than the case of ASCII letters. A
memory sink keeps one artifact for every job that succeeds. A directory in which every write succeeds
holds those artifacts, each at its own place; a root that was empty holds nothing else, unless the
package is an absolute path and leads away from it. -/
theorem no_artifact_overwritten (schema : Schema) (settings : Settings) (jobs : List Job)
    (hjobs : List.Subperm jobs (schema.plan settings)) :
    (∀ {σ : Type} (sink : Sink (StateM σ)) (state : σ),
      ((writtenPaths
        ((executeEach (sourceEmitters sink) settings.options jobs).run state).1).map
          Path.folded).Nodup) ∧
    ∃ outcomes stored,
      (executeEach (sourceEmitters memorySink) settings.options jobs).run [] = (outcomes, stored) ∧
      stored.length = outcomes.countP Outcome.isDone ∧
      stored.map (·.path) = writtenPaths outcomes ∧
      ∀ (root : Path) (tree after : FileTree) (written : List Outcome),
        (executeEach (sourceEmitters (directorySink FileTree.access root)) settings.options
          jobs).run tree = (written, after) →
        AllWritten settings.options jobs written →
        after.Holds tree root stored ∧
        ((packagePath (settings.packageFor schema.name)).isAbsolute = false →
          tree.filesBelow (tree.place root) = [] →
          (after.filesBelow (tree.place root)).Perm
            (stored.map fun artifact => (artifact.path.names, artifact.contents.toUTF8))) := by
  have hplaces := artifactsOf_places hjobs settings.options
  have hpaths := writtenPaths_outcomes settings.options jobs
  constructor
  · intro σ sink state
    have hsublist := (writtenPaths_sublist sink settings.options jobs state).map Path.folded
    rw [List.map_map] at hsublist
    exact (artifactsOf_folded hjobs settings.options).sublist hsublist
  · refine ⟨_, _, executeEach_memorySink settings.options jobs [], ?_, ?_, ?_⟩
    · rw [List.nil_append, ← List.length_map (·.path), ← hpaths, writtenPaths,
        List.length_filterMap_eq_countP]
      rfl
    · rw [List.nil_append, hpaths]
    · intro root tree after written hrun hwritten
      rw [List.nil_append]
      have hafter : FileTree.SameFiles after
          (tree.putArtifacts root (artifactsOf settings.options jobs)) := by
        have hsame := executeEach_directorySink settings.options root jobs tree
          (by rw [hrun]; exact hwritten)
        rwa [hrun] at hsame
      refine ⟨FileTree.holds_putArtifacts (hplaces tree root) hafter, ?_⟩
      intro hrelative hempty
      exact FileTree.filesBelow_putArtifacts (hplaces tree root) hafter hempty fun _ hm =>
        artifactsOf_names hjobs hrelative tree root hm

end

namespace Shop

/-- Two tables whose names differ only in case, and a view. -/
def schema : Schema where
  name := "shop"
  postScript := none
  tables := [⟨"person", [], []⟩, ⟨"PERSON", [], []⟩]
  views := [⟨"orders", []⟩]

def settings : Settings := { packageBase := "com.shop" }

/-- The jobs of the plan, the last one first. -/
def jobs : List Job := (schema.plan settings).reverse

def tree : FileTree := .empty ["work"]

def root : Path := ⟨"out"⟩

end Shop

/-- The plan of the shop backwards on an empty root: two artifacts are stored, and both files are
there. -/
theorem no_artifact_overwritten_shop :
    List.Subperm Shop.jobs (Shop.schema.plan Shop.settings) ∧
    ∃ written after stored,
      (executeEach (sourceEmitters (directorySink FileTree.access Shop.root)) Shop.settings.options
        Shop.jobs).run Shop.tree = (written, after) ∧
      AllWritten Shop.settings.options Shop.jobs written ∧
      stored.length = 2 ∧
      after.Holds Shop.tree Shop.root stored ∧
      (packagePath (Shop.settings.packageFor Shop.schema.name)).isAbsolute = false ∧
      Shop.tree.filesBelow (Shop.tree.place Shop.root) = [] ∧
      (after.filesBelow (Shop.tree.place Shop.root)).Perm
        (stored.map fun artifact => (artifact.path.names, artifact.contents.toUTF8)) := by
  have hjobs : List.Subperm Shop.jobs (Shop.schema.plan Shop.settings) :=
    (List.reverse_perm _).subperm
  have hrelative : (packagePath (Shop.settings.packageFor Shop.schema.name)).isAbsolute = false := by
    decide +kernel
  obtain ⟨-, outcomes, stored, hrun, hcount, -, hdirectory⟩ :=
    no_artifact_overwritten Shop.schema Shop.settings Shop.jobs hjobs
  have hlength : stored.length = 2 := by
    have houtcomes : ((executeEach (sourceEmitters memorySink) Shop.settings.options
        Shop.jobs).run []).1 = outcomes := by rw [hrun]
    rw [hcount, ← houtcomes]
    decide +kernel
  have hwritten : AllWritten Shop.settings.options Shop.jobs
      ((executeEach (sourceEmitters (directorySink FileTree.access Shop.root))
        Shop.settings.options Shop.jobs).run Shop.tree).1 := by
    decide +kernel
  have hempty : Shop.tree.filesBelow (Shop.tree.place Shop.root) = [] := by decide +kernel
  cases hran : (executeEach (sourceEmitters (directorySink FileTree.access Shop.root))
      Shop.settings.options Shop.jobs).run Shop.tree with
  | mk written after =>
    rw [hran] at hwritten
    obtain ⟨hholds, hbelow⟩ := hdirectory Shop.root Shop.tree after written hran hwritten
    exact ⟨hjobs, written, after, stored, rfl, hwritten, hlength, hholds, hrelative, hempty,
      hbelow hrelative hempty⟩

end EntityGen
