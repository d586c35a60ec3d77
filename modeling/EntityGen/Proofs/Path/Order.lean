import EntityGen.Artifact
import EntityGen.Path
import Mathlib.Data.List.Nodup

/-!
# The order of paths

Components, and with them paths, are ordered strictly and totally, so sorting artifacts with different
components gives one list whatever order they come in.
-/
namespace EntityGen

namespace Path

namespace Component

theorem before_iff {a b : Component} :
    a.before b = true ↔ a.rank < b.rank ∨ ∃ s t, a = name s ∧ b = name t ∧ s < t := by
  cases a <;> cases b <;> simp [before, rank]

theorem before_irrefl (a : Component) : a.before a = false := by
  rw [← Bool.not_eq_true, before_iff]
  rintro (hlt | ⟨s, t, rfl, ht, hlt⟩)
  · exact Nat.lt_irrefl _ hlt
  · cases ht
    exact String.lt_irrefl _ hlt

theorem before_trans {a b c : Component} (hab : a.before b = true) (hbc : b.before c = true) :
    a.before c = true := by
  rw [before_iff] at hab hbc ⊢
  rcases hab with hab | ⟨s, t, rfl, rfl, hst⟩
  · rcases hbc with hbc | ⟨t, u, rfl, rfl, -⟩
    · exact .inl (Nat.lt_trans hab hbc)
    · exact .inl hab
  · rcases hbc with hbc | ⟨t', u, ht, rfl, htu⟩
    · exact .inl hbc
    · cases ht
      exact .inr ⟨s, u, rfl, rfl, String.lt_trans hst htu⟩

theorem before_trichotomy (a b : Component) : a.before b = true ∨ a = b ∨ b.before a = true := by
  by_cases hab : a.rank = b.rank
  · cases a <;> cases b <;> cases hab
    · exact .inr (.inl rfl)
    · exact .inr (.inl rfl)
    · exact .inr (.inl rfl)
    · next s t =>
      rw [before_iff, before_iff]
      by_cases hst : s < t
      · exact .inl (.inr ⟨s, t, rfl, rfl, hst⟩)
      · by_cases hts : t < s
        · exact .inr (.inr (.inr ⟨t, s, rfl, rfl, hts⟩))
        · rw [String.le_antisymm hts hst]
          exact .inr (.inl rfl)
  · rw [before_iff, before_iff]
    rcases Nat.lt_or_gt_of_ne hab with hlt | hgt
    · exact .inl (.inl hlt)
    · exact .inr (.inr (.inl hgt))

end Component

theorem before_cons {a b : Component} {as bs : List Component} :
    before (a :: as) (b :: bs) = true ↔ a.before b = true ∨ a = b ∧ before as bs = true := by
  rw [before, Bool.or_eq_true, Bool.and_eq_true, beq_iff_eq]

theorem before_irrefl (as : List Component) : before as as = false := by
  induction as with
  | nil => rfl
  | cons a rest ih =>
    rw [← Bool.not_eq_true, before_cons, a.before_irrefl, ih]
    simp

theorem before_trans {as bs cs : List Component} (hab : before as bs = true)
    (hbc : before bs cs = true) : before as cs = true := by
  induction as generalizing bs cs with
  | nil =>
    cases cs with
    | nil => cases bs <;> cases hbc
    | cons c cs => rfl
  | cons a as ih =>
    cases bs with
    | nil => cases hab
    | cons b bs =>
      cases cs with
      | nil => cases hbc
      | cons c cs =>
        rw [before_cons] at hab hbc ⊢
        rcases hab with hab | ⟨rfl, hab⟩
        · rcases hbc with hbc | ⟨rfl, -⟩
          · exact .inl (Component.before_trans hab hbc)
          · exact .inl hab
        · rcases hbc with hbc | ⟨rfl, hbc⟩
          · exact .inl hbc
          · exact .inr ⟨rfl, ih hab hbc⟩

theorem before_trichotomy (as bs : List Component) :
    before as bs = true ∨ as = bs ∨ before bs as = true := by
  induction as generalizing bs with
  | nil =>
    cases bs with
    | nil => exact .inr (.inl rfl)
    | cons b bs => exact .inl rfl
  | cons a as ih =>
    cases bs with
    | nil => exact .inr (.inr rfl)
    | cons b bs =>
      rw [before_cons, before_cons]
      rcases a.before_trichotomy b with hab | rfl | hba
      · exact .inl (.inl hab)
      · rcases ih bs with has | rfl | hbs
        · exact .inl (.inr ⟨rfl, has⟩)
        · exact .inr (.inl rfl)
        · exact .inr (.inr (.inr ⟨rfl, hbs⟩))
      · exact .inr (.inr (.inl hba))

theorem le_iff {a b : Path} :
    a.le b = true ↔ before a.components b.components = true ∨ a.components = b.components := by
  rw [le, Bool.not_eq_true']
  constructor
  · intro h
    rcases before_trichotomy a.components b.components with hab | heq | hba
    · exact .inl hab
    · exact .inr heq
    · rw [h] at hba
      cases hba
  · rintro (hab | heq)
    · by_contra hba
      rw [Bool.not_eq_false] at hba
      have haa := before_trans hab hba
      rw [before_irrefl] at haa
      cases haa
    · rw [heq, before_irrefl]

theorem le_trans {a b c : Path} (hab : a.le b = true) (hbc : b.le c = true) : a.le c = true := by
  rw [le_iff] at hab hbc ⊢
  rcases hab with hab | hab
  · rcases hbc with hbc | hbc
    · exact .inl (before_trans hab hbc)
    · exact .inl (hbc ▸ hab)
  · rw [hab]
    exact hbc

theorem le_total (a b : Path) : (a.le b || b.le a) = true := by
  rw [Bool.or_eq_true, le_iff, le_iff]
  rcases before_trichotomy a.components b.components with hab | heq | hba
  · exact .inl (.inl hab)
  · exact .inl (.inr heq)
  · exact .inr (.inl hba)

theorem components_eq_of_le {a b : Path} (hab : a.le b = true) (hba : b.le a = true) :
    a.components = b.components := by
  rw [le_iff] at hab
  rcases hab with hab | hab
  · rw [le, hab] at hba
    cases hba
  · exact hab

end Path

/-- Artifacts with different components are sorted into one list, whatever order they come in. -/
theorem Artifact.sorted_eq_of_perm {a b : List Artifact} (h : a.Perm b)
    (hdiffer : (a.map (·.path.components)).Nodup) : sorted a = sorted b := by
  have hperm : (sorted a).Perm (sorted b) :=
    (List.mergeSort_perm a _).trans (h.trans (List.mergeSort_perm b _).symm)
  have hpairwise : ∀ artifacts : List Artifact,
      (sorted artifacts).Pairwise fun x y => x.path.le y.path = true :=
    List.pairwise_mergeSort (fun _ _ _ => Path.le_trans) (fun x y => Path.le_total x.path y.path)
  refine hperm.eq_of_pairwise ?_ (hpairwise a) (hpairwise b)
  intro x y hx hy hxy hyx
  have hxa : x ∈ a := List.mem_mergeSort.mp hx
  have hya : y ∈ a := h.mem_iff.mpr (List.mem_mergeSort.mp hy)
  exact List.inj_on_of_nodup_map hdiffer hxa hya (Path.components_eq_of_le hxy hyx)

end EntityGen
