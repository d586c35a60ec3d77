import EntityGen.Entity.Source
import EntityGen.Plan
import EntityGen.Proofs.Identifier.Characters
import EntityGen.Proofs.Path.Components
import Mathlib.Data.List.Induction

/-!
# Class files

The file of a class lies in the directory of its package, which is the same for every class of the
package. Two class files that differ only in the case of ASCII letters have one key.
-/
namespace EntityGen

namespace Path

theorem mem_join_text {base path : Path} {c : Char} (h : c ∈ (base.join path).text.toList) :
    c ∈ base.text.toList ∨ c = '/' ∨ c ∈ path.text.toList := by
  unfold join at h
  split at h
  · exact .inr (.inr h)
  · split at h
    · exact .inr (.inr h)
    · split at h
      · rw [String.toList_append, List.mem_append] at h
        exact h.imp_right .inr
      · rw [String.toList_append, String.toList_append, List.mem_append, List.mem_append,
          or_assoc] at h
        exact h.imp_right (.imp_left List.mem_singleton.mp)

theorem mem_ofSegments_text {segments : List String} {c : Char}
    (h : c ∈ (ofSegments segments).text.toList) :
    c = '/' ∨ ∃ segment ∈ segments, c ∈ segment.toList := by
  induction segments using List.reverseRecOn with
  | nil => cases h
  | append_singleton segments segment ih =>
    rw [ofSegments, List.foldl_append, List.foldl_cons, List.foldl_nil] at h
    rcases mem_join_text h with hbase | hslash | hlast
    · refine (ih hbase).imp_right ?_
      rintro ⟨other, hm, hc⟩
      exact ⟨other, List.mem_append_left _ hm, hc⟩
    · exact .inl hslash
    · exact .inr ⟨segment, List.mem_append_right _ List.mem_cons_self, hlast⟩

def Component.folded : Component → Component
  | name text => name (String.ofList (text.toList.map Text.asciiLower))
  | component => component

/-- The components of a path with their ASCII letters in lower case. -/
def folded (path : Path) : List Component := path.components.map Component.folded

end Path

theorem Config.dot_not_mem_segments {text segment : List Char} (h : segment ∈ segments text) :
    '.' ∉ segment := by
  induction text generalizing segment with
  | nil =>
    rw [segments, List.mem_singleton] at h
    rw [h]
    exact List.not_mem_nil
  | cons c rest ih =>
    unfold segments at h
    split at h
    · rcases List.mem_cons.mp h with rfl | hr
      · exact List.not_mem_nil
      · exact ih hr
    · next hc =>
      have hdot : '.' ≠ c := by
        rintro rfl
        exact hc rfl
      split at h
      · rw [List.mem_singleton] at h
        rw [h, List.mem_singleton]
        exact hdot
      · next first more hrest =>
        rw [hrest] at ih
        rcases List.mem_cons.mp h with rfl | hr
        · rw [List.mem_cons, not_or]
          exact ⟨hdot, ih List.mem_cons_self⟩
        · exact ih (List.mem_cons_of_mem first hr)

def packagePath (packageName : String) : Path :=
  .ofSegments (((Config.segments packageName.toList).filter (!·.isEmpty)).map String.ofList)

theorem dot_not_mem_packagePath (packageName : String) :
    '.' ∉ (packagePath packageName).text.toList := by
  intro h
  rcases Path.mem_ofSegments_text h with hslash | ⟨segment, hm, hc⟩
  · exact absurd hslash (by decide)
  · obtain ⟨chars, hchars, rfl⟩ := List.mem_map.mp hm
    rw [String.toList_ofList] at hc
    exact Config.dot_not_mem_segments (List.mem_filter.mp hchars).1 hc

namespace Entity

def fileName (entity : Entity) : String := entity.className ++ ".java"

/-- The text before the name of the class file. -/
def pathFront (entity : Entity) : String := (packagePath entity.packageName).front

theorem isFront_pathFront (entity : Entity) : Path.IsFront entity.pathFront := Path.isFront_front _

variable {entity : Entity}

theorem slash_not_mem_fileName (h : '/' ∉ entity.className.toList) :
    '/' ∉ entity.fileName.toList := by
  rw [fileName, String.toList_append, List.mem_append, not_or]
  exact ⟨h, by decide⟩

theorem fileName_length (entity : Entity) : 2 < entity.fileName.toList.length := by
  rw [fileName, String.toList_append, List.length_append]
  exact Nat.lt_add_left _ (by decide)

theorem fileName_isAbsolute (h : '/' ∉ entity.className.toList) :
    (Path.mk entity.fileName).isAbsolute = false :=
  Path.isAbsolute_of_slash_not_mem (slash_not_mem_fileName h)

theorem fileName_noDot (h : '/' ∉ entity.className.toList) :
    ['.'] ∉ (Path.pieces entity.fileName.toList).head? := by
  rw [Path.pieces_of_not_mem (slash_not_mem_fileName h)]
  intro hm
  have hlength := entity.fileName_length
  rw [Option.some.inj hm] at hlength
  exact absurd hlength (by decide)

theorem path_eq (h : '/' ∉ entity.className.toList) :
    entity.path = ⟨entity.pathFront ++ entity.fileName⟩ := by
  rw [path, Path.ofSegments, List.foldl_append]
  exact Path.join_text (fileName_isAbsolute h) _

/-- Behind any front, the components of a class file are the ones of its directory and its name. -/
theorem components_behind {front : String} (hfront : Path.IsFront front)
    (h : '/' ∉ entity.className.toList) :
    (Path.mk (front ++ entity.fileName)).components =
      (Path.mk front).components ++ [.name entity.fileName] := by
  rw [Path.components_append hfront (fileName_isAbsolute h) (fileName_noDot h),
    Path.components_of_name (slash_not_mem_fileName h) entity.fileName_length]

/-- The text before the name of the class file when its path is put below a root. -/
def frontBelow (root : Path) (entity : Entity) : String :=
  if entity.path.isAbsolute then entity.pathFront else root.front ++ entity.pathFront

theorem join_path_eq (root : Path) (h : '/' ∉ entity.className.toList) :
    root.join entity.path = ⟨entity.frontBelow root ++ entity.fileName⟩ := by
  unfold frontBelow
  cases ha : entity.path.isAbsolute with
  | true =>
    rw [Path.join_of_isAbsolute ha, path_eq h]
    rfl
  | false =>
    rw [Path.join_text ha, path_eq h, if_neg Bool.false_ne_true, String.append_assoc]

theorem isFront_frontBelow (root : Path) (entity : Entity) :
    Path.IsFront (entity.frontBelow root) := by
  unfold frontBelow
  split
  · exact entity.isFront_pathFront
  · exact Path.isFront_append (Path.isFront_front root) entity.isFront_pathFront

theorem path_isAbsolute (h : '/' ∉ entity.className.toList) :
    entity.path.isAbsolute = (packagePath entity.packageName).isAbsolute := by
  rw [path_eq h, Path.isAbsolute_append entity.isFront_pathFront (fileName_isAbsolute h), pathFront,
    Path.isAbsolute_front]

theorem dot_not_mem_pathFront (entity : Entity) : '.' ∉ entity.pathFront.toList := by
  intro h
  rcases Path.mem_front h with htext | hslash
  · exact dot_not_mem_packagePath _ htext
  · exact absurd hslash (by decide)

/-- The components of a class file that is put below a root come behind the ones of the root. -/
theorem components_join_path (root : Path) (h : '/' ∉ entity.className.toList)
    (hrelative : entity.path.isAbsolute = false) :
    (root.join entity.path).components = root.components ++ entity.path.components := by
  have hfront : (Path.mk entity.pathFront).isAbsolute = false := by
    rw [pathFront, Path.isAbsolute_front, ← path_isAbsolute h, hrelative]
  have hdot : ['.'] ∉ (Path.pieces entity.pathFront.toList).head? := fun hm =>
    entity.dot_not_mem_pathFront
      (Path.mem_of_mem_pieces (List.mem_of_mem_head? hm) List.mem_cons_self)
  have hwhole := components_behind (entity.isFront_frontBelow root) h
  rw [frontBelow, hrelative, if_neg Bool.false_ne_true,
    Path.components_append (Path.isFront_front root) hfront hdot, Path.components_front,
    List.append_assoc, ← components_behind entity.isFront_pathFront h] at hwhole
  rw [join_path_eq root h, path_eq h, frontBelow, hrelative, if_neg Bool.false_ne_true]
  exact hwhole

/-- A class file in a package that is no absolute path is reached by names alone. -/
theorem exists_name_of_mem_path (h : '/' ∉ entity.className.toList)
    (hrelative : entity.path.isAbsolute = false) {component : Path.Component}
    (hm : component ∈ entity.path.components) : ∃ text, component = .name text := by
  have hfront : (Path.mk entity.pathFront).isAbsolute = false := by
    rw [pathFront, Path.isAbsolute_front, ← path_isAbsolute h, hrelative]
  rw [path_eq h, components_behind entity.isFront_pathFront h, List.mem_append] at hm
  rcases hm with hdirectory | hname
  · exact Path.exists_name_of_mem_components hfront entity.dot_not_mem_pathFront hdirectory
  · exact ⟨_, List.mem_singleton.mp hname⟩

/-- Class files of one package that differ only in the case of ASCII letters have one key. -/
theorem fileKey_eq_of_folded {a b : Entity} (hpackage : a.packageName = b.packageName)
    (ha : '/' ∉ a.className.toList) (hb : '/' ∉ b.className.toList)
    (h : a.path.folded = b.path.folded) :
    fileKey a.packageName a.className = fileKey b.packageName b.className := by
  rw [Path.folded, Path.folded, path_eq ha, path_eq hb,
    components_behind a.isFront_pathFront ha, components_behind b.isFront_pathFront hb,
    List.map_append, List.map_append] at h
  have hlast := List.append_inj_right' h rfl
  rw [List.map_singleton, List.map_singleton, List.singleton_inj, Path.Component.folded,
    Path.Component.folded, Path.Component.name.injEq, String.ofList_inj, fileName, fileName,
    String.toList_append, String.toList_append, List.map_append, List.map_append,
    List.append_left_inj] at hlast
  rw [fileKey, fileKey, hpackage]
  refine Text.lowercase_congr ?_
  rw [String.toList_append, String.toList_append (s := b.packageName ++ "."), List.map_append,
    List.map_append, hlast]

end Entity

end EntityGen
