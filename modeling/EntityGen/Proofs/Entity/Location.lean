import EntityGen.Proofs.Config.Package
import EntityGen.Proofs.Entity.ClassFile
import EntityGen.Proofs.Plan.Description
import EntityGen.Proofs.Plan.Jobs

/-!
# Where class files lie

The file of a class lies in the directory of its package, one directory for every word of the package
name, whatever the database and the table are called. Every part of its path is the name of a file or
directory: the path leads neither up nor to the root.
-/
namespace EntityGen

open EntityGen.Text

namespace Path

/-- A text that names one file or directory wherever it is put. -/
structure IsFileName (text : String) : Prop where
  ne_empty : text ≠ ""
  ne_dot : text ≠ "."
  ne_dots : text ≠ ".."
  no_slash : '/' ∉ text.toList
  no_backslash : '\\' ∉ text.toList
  no_null : '\x00' ∉ text.toList

variable {part : String} {parts : List String}

theorem IsFileName.toList_ne_nil (h : IsFileName part) : part.toList ≠ [] :=
  mt String.toList_eq_nil_iff.mp h.ne_empty

theorem IsFileName.component? (h : IsFileName part) (front : Bool) :
    Path.component? front part.toList = some (.name part) := by
  have hempty : part.toList.isEmpty = false := List.isEmpty_eq_false_iff.mpr h.toList_ne_nil
  have hdot : ¬(part.toList == ['.']) = true := fun heq =>
    h.ne_dot (String.toList_inj.mp (beq_iff_eq.mp heq))
  have hdots : ¬(part.toList == ['.', '.']) = true := fun heq =>
    h.ne_dots (String.toList_inj.mp (beq_iff_eq.mp heq))
  rw [Path.component?, hempty, if_neg Bool.false_ne_true, if_neg hdot, if_neg hdots,
    String.ofList_toList]

theorem pieces_intercalate (hne : parts ≠ []) (hparts : ∀ part ∈ parts, IsFileName part) :
    pieces ("/".intercalate parts).toList = parts.map String.toList := by
  have hslash : "/".toList = ['/'] := by decide
  rw [String.toList_intercalate, hslash, pieces_eq_splitOn]
  refine List.splitOn_intercalate '/' ?_ (mt List.map_eq_nil_iff.mp hne)
  intro chars hchars
  obtain ⟨part, hpart, rfl⟩ := List.mem_map.mp hchars
  exact (hparts part hpart).no_slash

/-- Names with separators between them are a relative path through these names. -/
theorem of_intercalate (hne : parts ≠ []) (hparts : ∀ part ∈ parts, IsFileName part) :
    (Path.mk ("/".intercalate parts)).isAbsolute = false ∧
      (Path.mk ("/".intercalate parts)).components = parts.map .name := by
  have hpieces : pieces (Path.mk ("/".intercalate parts)).text.toList = parts.map String.toList :=
    pieces_intercalate hne hparts
  obtain ⟨first, rest, rfl⟩ := List.exists_cons_of_ne_nil hne
  obtain ⟨hfirst, hrest⟩ := List.forall_mem_cons.mp hparts
  have hrelative : (Path.mk ("/".intercalate (first :: rest))).isAbsolute = false := by
    rw [isAbsolute, beq_eq_false_iff_ne]
    intro hhead
    obtain ⟨back, hback⟩ := List.head?_eq_some_iff.mp hhead
    rw [hback, pieces_slash] at hpieces
    exact hfirst.toList_ne_nil (List.cons.inj hpieces).1.symm
  have hnames : (rest.map String.toList).filterMap (Path.component? false) = rest.map .name := by
    rw [List.filterMap_map, ← List.filterMap_eq_map]
    exact List.filterMap_congr fun part hpart => (hrest part hpart).component? false
  rw [List.map_cons] at hpieces
  refine ⟨hrelative, ?_⟩
  rw [components_of_pieces hpieces, hrelative, if_neg Bool.false_ne_true, hfirst.component?, hnames]
  rfl

theorem intercalate_concat (hne : parts ≠ []) (part : String) :
    "/".intercalate (parts ++ [part]) = "/".intercalate parts ++ "/" ++ part := by
  rw [String.intercalate_append_of_ne_nil hne (List.cons_ne_nil _ _),
    String.intercalate_singleton]

/-- Names with separators between them do not end in a separator. -/
theorem front_intercalate (hne : parts ≠ []) (hparts : ∀ part ∈ parts, IsFileName part) :
    (Path.mk ("/".intercalate parts)).front = "/".intercalate parts ++ "/" := by
  obtain ⟨before, last, rfl⟩ := (List.eq_nil_or_concat parts).resolve_left hne
  rw [List.concat_eq_append] at hparts ⊢
  obtain ⟨-, hlast⟩ := List.forall_mem_append.mp hparts
  have hname : IsFileName last := hlast last List.mem_cons_self
  obtain ⟨chars, c, hchars⟩ : ∃ chars c, last.toList = chars ++ [c] := by
    obtain ⟨chars, c, hconcat⟩ := (List.eq_nil_or_concat last.toList).resolve_left hname.toList_ne_nil
    exact ⟨chars, c, hconcat.trans (List.concat_eq_append)⟩
  have hc : ¬(c == '/') = true := by
    rw [beq_iff_eq]
    rintro rfl
    exact hname.no_slash (by simp [hchars])
  have hend : ("/".intercalate (before ++ [last])).toList.getLast? = some c := by
    cases before with
    | nil => rw [List.nil_append, String.intercalate_singleton, hchars, List.getLast?_concat]
    | cons first rest =>
      rw [intercalate_concat (List.cons_ne_nil _ _), String.toList_append, hchars,
        ← List.append_assoc, List.getLast?_concat]
  rw [front, hend]
  exact if_neg hc

/-- Putting names below each other puts separators between them. -/
theorem ofSegments_eq (hparts : ∀ part ∈ parts, IsFileName part) :
    ofSegments parts = ⟨"/".intercalate parts⟩ := by
  induction parts using List.reverseRecOn with
  | nil => rfl
  | append_singleton before part ih =>
    obtain ⟨hbefore, hpart⟩ := List.forall_mem_append.mp hparts
    have hlast : IsFileName part := hpart part List.mem_cons_self
    have hrelative : (Path.mk part).isAbsolute = false := isAbsolute_of_slash_not_mem hlast.no_slash
    have hfold : ofSegments (before ++ [part]) = (ofSegments before).join ⟨part⟩ := by
      rw [ofSegments, List.foldl_append]
      rfl
    rw [hfold, join_text hrelative, ih hbefore]
    cases before with
    | nil =>
      rw [List.nil_append, String.intercalate_singleton]
      exact congrArg Path.mk String.empty_append
    | cons first rest =>
      rw [front_intercalate (List.cons_ne_nil _ _) hbefore, intercalate_concat (List.cons_ne_nil _ _)]

end Path

theorem IsWord.isFileName {word : String} (h : IsWord word) : Path.IsFileName word := by
  have hchars : ∀ c, Config.isSegmentChar c = false → c ∉ word.toList := by
    intro c hc hm
    rw [h.isSegmentChar c hm] at hc
    cases hc
  refine ⟨h.ne_empty, ?_, ?_, hchars _ (by decide), hchars _ (by decide), hchars _ (by decide)⟩
  · rintro rfl
    exact hchars '.' (by decide) (by decide)
  · rintro rfl
    exact hchars '.' (by decide) (by decide)

/-- A class name with the ending of a source is a file name. -/
theorem isFileName_classFile (name : String) :
    Path.IsFileName (Identifier.javaClass name ++ ".java") := by
  have hchars : ∀ c ∈ ['/', '\\', '\x00'],
      c ∉ (Identifier.javaClass name ++ ".java").toList := by
    have hending : ∀ c ∈ ['/', '\\', '\x00'], ¬Identifier.IsNameChar c ∧ c ∉ ".java".toList := by
      decide
    intro c hc
    rw [String.toList_append, List.mem_append, not_or]
    exact ⟨Identifier.not_mem_of_nameChars (Identifier.nameChars_javaClass name) (hending c hc).1,
      (hending c hc).2⟩
  have hlength : 2 < (Identifier.javaClass name ++ ".java").length := by
    rw [String.length_append]
    exact Nat.lt_add_left _ (by decide)
  have hne : ∀ text : String, text.length ≤ 2 → Identifier.javaClass name ++ ".java" ≠ text := by
    rintro text htext rfl
    omega
  exact ⟨hne "" (by decide), hne "." (by decide), hne ".." (by decide), hchars _ (by decide),
    hchars _ (by decide), hchars _ (by decide)⟩

/-- A class file lies in the directories of its package, one for every word of the package. -/
structure Entity.LiesIn (entity : Entity) (directories : List String) : Prop where
  package_eq : entity.packageName = ".".intercalate directories
  relative : entity.path.isAbsolute = false
  text_eq : entity.path.text = "/".intercalate (directories ++ [entity.fileName])
  components_eq : entity.path.components = (directories ++ [entity.fileName]).map .name
  file_names : ∀ part ∈ directories ++ [entity.fileName], Path.IsFileName part

theorem Entity.exists_liesIn {entity : Entity} {name : String}
    (hpackage : IsPackageName entity.packageName)
    (hclass : entity.className = Identifier.javaClass name) :
    ∃ directories, entity.LiesIn directories := by
  obtain ⟨words, hne, hwords, hname⟩ := hpackage
  have hparts : ∀ part ∈ words ++ [entity.fileName], Path.IsFileName part := by
    refine List.forall_mem_append.mpr ⟨fun word hword => (hwords word hword).isFileName, ?_⟩
    rw [List.forall_mem_singleton, fileName, hclass]
    exact isFileName_classFile name
  have hkept : ((Config.segments entity.packageName.toList).filter (!·.isEmpty)).map String.ofList =
      words := by
    rw [hname, segments_intercalate hne hwords, List.filter_eq_self.mpr, List.map_map]
    · simp
    · intro chars hchars
      obtain ⟨word, hword, rfl⟩ := List.mem_map.mp hchars
      simp [(hwords word hword).ne_empty]
  have hpath : entity.path = ⟨"/".intercalate (words ++ [entity.fileName])⟩ := by
    rw [path, hkept]
    exact Path.ofSegments_eq hparts
  obtain ⟨hrelative, hcomponents⟩ := Path.of_intercalate (by simp) hparts
  rw [← hpath] at hrelative hcomponents
  exact ⟨words, hname, hrelative, by rw [hpath], hcomponents, hparts⟩

/-- With a base that passes the check of a configuration, the package of every database passes it too,
and every class file of a plan lies in the directories of its package below the root it is put under. -/
theorem class_files_in_package {settings : Settings}
    (hbase : Config.checkPackage settings.packageBase = .ok ()) {schema : Schema} {job : Job}
    (hjob : job ∈ schema.plan settings) {entity : Entity} (h : job.describe = .ok entity) :
    (∀ text, Config.checkPackage text = .ok () ↔ IsPackageName text) ∧
      (∀ database, Config.checkPackage (settings.packageFor database) = .ok ()) ∧
      entity.packageName = settings.packageFor schema.name ∧
      entity.fileName = Identifier.javaClass job.name ++ ".java" ∧
      (∃ directories, entity.LiesIn directories) ∧
      ∀ root : Path, (root.join entity.path).components =
        root.components ++ entity.path.components := by
  have hpackages : ∀ database, IsPackageName (settings.packageFor database) :=
    settings.isPackageName_packageFor ((checkPackage_eq_ok_iff _).mp hbase)
  have hentity := job.describe_isOf h
  have hpackage := hentity.packageName.trans (Schema.plan_packageName hjob)
  have hclass : entity.className = Identifier.javaClass job.name := hentity.className
  obtain ⟨directories, hlies⟩ :=
    Entity.exists_liesIn (hpackage ▸ hpackages schema.name) hclass
  have hslash : '/' ∉ entity.className.toList := by
    rw [hclass]
    exact Identifier.slash_not_mem_javaClass job.name
  have hfile : entity.fileName = Identifier.javaClass job.name ++ ".java" := by
    rw [Entity.fileName, hclass]
  refine ⟨checkPackage_eq_ok_iff, fun database => ?_, hpackage, hfile, ⟨directories, hlies⟩, ?_⟩
  · exact (checkPackage_eq_ok_iff _).mpr (hpackages database)
  · exact fun root => Entity.components_join_path root hslash hlies.relative

/-- A database and a table with names that look like paths. -/
theorem class_files_in_package_climbing :
    let settings : Settings :=
      { packageBase := "com.a", options := { packageIncludesDatabase := true } }
    let schema : Schema := ⟨"../x", none, [⟨"/etc/y", [], []⟩], []⟩
    Config.checkPackage settings.packageBase = .ok () ∧
      ∃ job ∈ schema.plan settings, ∃ entity, job.describe = .ok entity ∧
        entity.packageName = "com.a.x" ∧ entity.fileName = "EtcY.java" ∧
        (∃ directories, entity.LiesIn directories) ∧
        ((Path.mk "out").join entity.path).text = "out/com/a/x/EtcY.java" := by
  intro settings schema
  have hbase : Config.checkPackage settings.packageBase = .ok () := by decide +kernel
  let job := Job.alone "../x" (.table ⟨"/etc/y", [], []⟩) "com.a.x"
  have hjob : job ∈ schema.plan settings := by decide +kernel
  obtain ⟨entity, hentity⟩ : ∃ entity, job.describe = .ok entity := ⟨_, rfl⟩
  obtain ⟨-, -, hpackage, hfile, hlies, -⟩ := class_files_in_package hbase hjob hentity
  refine ⟨hbase, job, hjob, entity, hentity, ?_, ?_, hlies, ?_⟩
  · rw [hpackage]
    decide +kernel
  · rw [hfile]
    decide +kernel
  · obtain rfl := Except.ok.inj hentity
    decide +kernel

end EntityGen
