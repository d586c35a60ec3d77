import EntityGen.Proofs.Text.Order
import Mathlib.Data.List.Nodup

/-!
# Sorting by a text

The stable arrangement of a list by a text of its members: ascending by the bytes of the text, and
members of one text as they came. There is one such arrangement, sorting finds it, and where the
texts differ it does not depend on the order in which the members came.
-/
namespace EntityGen

structure StablySorted {α : Type} (key : α → String) (items sorted : List α) : Prop where
  perm : sorted.Perm items
  ascending : sorted.Pairwise fun a b => Text.bytes (key a) ≤ Text.bytes (key b)
  stable : ∀ text, sorted.filter (fun a => key a = text) = items.filter fun a => key a = text

section
variable {α : Type} {key : α → String}

theorem keyLe_trans (key : α → String) (a b c : α) (hab : decide (key a ≤ key b) = true)
    (hbc : decide (key b ≤ key c) = true) : decide (key a ≤ key c) = true := by
  rw [decide_eq_true_eq] at hab hbc ⊢
  exact String.le_trans hab hbc

theorem keyLe_total (key : α → String) (a b : α) :
    (decide (key a ≤ key b) || decide (key b ≤ key a)) = true := by
  rw [Bool.or_eq_true, decide_eq_true_eq, decide_eq_true_eq]
  exact String.le_total _ _

theorem ascending_mergeSort (key : α → String) (items : List α) :
    (items.mergeSort fun a b => key a ≤ key b).Pairwise fun a b => key a ≤ key b := by
  have hpairwise := List.pairwise_mergeSort (keyLe_trans key) (keyLe_total key) items
  exact hpairwise.imp fun hle => of_decide_eq_true hle

theorem stablySorted_mergeSort (key : α → String) (items : List α) :
    StablySorted key items (items.mergeSort fun a b => key a ≤ key b) where
  perm := List.mergeSort_perm _ _
  ascending := (ascending_mergeSort key items).imp fun hle => (Text.bytes_le_iff _ _).mpr hle
  stable text := by
    let sameText : α → Bool := fun a => key a = text
    -- the members of one text are in order as they came, so sorting keeps them as a subsequence
    have hordered : (items.filter sameText).Pairwise fun a b => decide (key a ≤ key b) = true := by
      rw [List.pairwise_iff_forall_sublist]
      intro a b hab
      have hkey : ∀ c ∈ [a, b], key c = text := by
        intro c hc
        exact of_decide_eq_true (List.mem_filter.mp (hab.subset hc)).2
      rw [hkey a List.mem_cons_self, hkey b (List.mem_cons_of_mem a List.mem_cons_self)]
      exact decide_eq_true (String.le_refl text)
    have hkept := List.sublist_mergeSort (keyLe_trans key) (keyLe_total key) hordered
      List.filter_sublist
    have hsublist := hkept.filter sameText
    rw [List.filter_filter] at hsublist
    simp only [Bool.and_self] at hsublist
    have hlength := ((List.mergeSort_perm items fun a b => key a ≤ key b).filter sameText).length_eq
    exact (hsublist.eq_of_length hlength.symm).symm

/-- In two arrangements of one list the first members are the same: none has a smaller text, and
among the members of this text they came first. -/
theorem eq_of_ascending {a b : List α} (hperm : a.Perm b)
    (ha : a.Pairwise fun x y => Text.bytes (key x) ≤ Text.bytes (key y))
    (hb : b.Pairwise fun x y => Text.bytes (key x) ≤ Text.bytes (key y))
    (hstable : ∀ text, a.filter (fun x => key x = text) = b.filter fun x => key x = text) :
    a = b := by
  induction a generalizing b with
  | nil => exact hperm.nil_eq
  | cons x xs ih =>
    cases b with
    | nil => exact absurd hperm.symm.nil_eq (List.cons_ne_nil x xs).symm
    | cons y ys =>
      obtain ⟨hx, hxs⟩ := List.pairwise_cons.mp ha
      obtain ⟨hy, hys⟩ := List.pairwise_cons.mp hb
      have hle : key x ≤ key y := by
        rcases List.mem_cons.mp (hperm.mem_iff.mpr List.mem_cons_self) with he | hm
        · exact he ▸ String.le_refl _
        · exact (Text.bytes_le_iff _ _).mp (hx y hm)
      have hge : key y ≤ key x := by
        rcases List.mem_cons.mp (hperm.mem_iff.mp List.mem_cons_self) with he | hm
        · exact he ▸ String.le_refl _
        · exact (Text.bytes_le_iff _ _).mp (hy x hm)
      have hkey : key x = key y := String.le_antisymm hle hge
      have hhead := hstable (key x)
      simp only [List.filter_cons, hkey, decide_true, if_true] at hhead
      obtain ⟨rfl, -⟩ := List.cons.inj hhead
      have htail : ∀ text, xs.filter (fun z => key z = text) = ys.filter fun z => key z = text := by
        intro text
        have h := hstable text
        rw [List.filter_cons, List.filter_cons] at h
        split at h
        · exact (List.cons.inj h).2
        · exact h
      rw [ih hperm.cons_inv hxs hys htail]

variable {items other sorted sorted' : List α}

theorem StablySorted.unique (h : StablySorted key items sorted)
    (h' : StablySorted key items sorted') : sorted = sorted' :=
  eq_of_ascending (h.perm.trans h'.perm.symm) h.ascending h'.ascending
    fun text => (h.stable text).trans (h'.stable text).symm

/-- Members with different texts may come in any order. -/
theorem StablySorted.of_perm (h : StablySorted key items sorted) (hperm : items.Perm other)
    (hkeys : (items.map key).Nodup) : StablySorted key other sorted where
  perm := h.perm.trans hperm
  ascending := h.ascending
  stable text := by
    have hfiltered := hperm.filter fun a => decide (key a = text)
    have halone : ∀ a b, a ∈ items.filter (fun a => key a = text) →
        b ∈ other.filter (fun a => key a = text) → True → True → a = b := by
      intro a b ha hb _ _
      obtain ⟨hma, hka⟩ := List.mem_filter.mp ha
      obtain ⟨hmb, hkb⟩ := List.mem_filter.mp hb
      exact List.inj_on_of_nodup_map hkeys hma (hperm.mem_iff.mpr hmb)
        ((of_decide_eq_true hka).trans (of_decide_eq_true hkb).symm)
    rw [h.stable text]
    exact hfiltered.eq_of_pairwise halone (List.pairwise_of_forall fun _ _ => trivial)
      (List.pairwise_of_forall fun _ _ => trivial)

end

end EntityGen
