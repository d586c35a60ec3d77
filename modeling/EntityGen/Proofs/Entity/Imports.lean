import EntityGen.Proofs.Entity.ClassLines
import Mathlib.Data.List.Basic

/-!
# Imports of a class

The names that the text of a class source imports, read back from its lines. The imports that are
written are worked out from the fields and the options, each once and in ascending order. A name of the
schema stands in the comment as it is declared, and if it holds a line feed in front of the words of an
import, there is one more.
-/
namespace EntityGen

section Sorting

variable {text other : String} {texts : List String}

@[simp]
theorem mem_insertOnce : other ∈ insertOnce text texts ↔ other = text ∨ other ∈ texts := by
  induction texts with
  | nil => simp [insertOnce]
  | cons first rest ih =>
    rw [insertOnce]
    split
    · exact List.mem_cons
    · split
      · next heq => simp [beq_iff_eq.mp heq]
      · rw [List.mem_cons, ih, List.mem_cons]
        exact or_left_comm

theorem pairwise_insertOnce (text : String) (h : texts.Pairwise (· < ·)) :
    (insertOnce text texts).Pairwise (· < ·) := by
  induction texts with
  | nil => exact List.pairwise_singleton _ _
  | cons first rest ih =>
    obtain ⟨hfirst, hrest⟩ := List.pairwise_cons.mp h
    rw [insertOnce]
    split
    · next hlt =>
      refine List.pairwise_cons.mpr ⟨?_, h⟩
      intro later hm
      rcases List.mem_cons.mp hm with rfl | hlater
      · exact hlt
      · exact String.lt_trans hlt (hfirst later hlater)
    · next hnlt =>
      split
      · exact h
      · next hne =>
        have hgt : first < text := by
          by_contra hngt
          have heq := String.le_antisymm (String.not_lt.mp hngt) (String.not_lt.mp hnlt)
          exact hne (beq_iff_eq.mpr heq)
        refine List.pairwise_cons.mpr ⟨?_, ih hrest⟩
        intro later hm
        rcases mem_insertOnce.mp hm with rfl | hlater
        · exact hgt
        · exact hfirst later hlater

@[simp]
theorem mem_sortedOnce : text ∈ sortedOnce texts ↔ text ∈ texts := by
  induction texts with
  | nil => rfl
  | cons first rest ih =>
    have hstep : sortedOnce (first :: rest) = insertOnce first (sortedOnce rest) := rfl
    rw [hstep, mem_insertOnce, ih, List.mem_cons]

theorem pairwise_sortedOnce (texts : List String) : (sortedOnce texts).Pairwise (· < ·) := by
  induction texts with
  | nil => exact .nil
  | cons first rest ih => exact pairwise_insertOnce first ih

end Sorting

namespace Field

variable {field : Field} {options : Options} {name : String}

theorem mem_imports :
    name ∈ field.imports options ↔
      ((options.nullability = true ∧ field.primitive = false) ∧
        name = if field.nullable then "javax.annotation.Nullable"
          else "javax.annotation.Nonnull") ∨
      ((options.fieldEncryption && field.isText) = true ∧
        name = "org.schemagen.annotations.Encrypted") ∨
      (field.usesRichDate options = true ∧ name = "org.joda.time.DateTime") ∨
      ((field.usesRichDate options = false ∧ field.typeName = "Time") ∧ name = "java.sql.Time") := by
  unfold imports
  simp only [List.mem_append, List.mem_ite_nil_right, List.mem_singleton, Bool.and_eq_true,
    Bool.not_eq_true', or_assoc]
  cases field.usesRichDate options <;> simp

end Field

namespace Entity

variable {entity : Entity} {options : Options} {name : String}

theorem mem_ownImports :
    name ∈ entity.ownImports options ↔
      name = "javax.persistence.*" ∨
      (entity.kind = .view ∧ name = "org.hibernate.annotations.Immutable") ∨
      (options.dependencyInjection = true ∧ name = "javax.inject.Named") ∨
      (options.enterpriseContainer = true ∧ name = "java.io.Serializable") ∨
      (options.eventBus = true ∧ name = "com.squareup.otto.Bus") := by
  unfold ownImports
  simp only [List.mem_append, List.mem_ite_nil_right, List.mem_singleton, beq_iff_eq, or_assoc]

theorem mem_imports :
    name ∈ entity.imports options ↔
      name ∈ entity.ownImports options ∨ ∃ field ∈ entity.fields, name ∈ field.imports options := by
  rw [imports, mem_sortedOnce, List.mem_append, List.mem_flatMap]

end Entity
end EntityGen
