import EntityGen.Text.Class
import Mathlib.Data.List.Chain
import Mathlib.Data.Nat.Bitwise

/-!
# Sets of code points as numbers

A finite set of code points is a number whose bits say which codes are in it. Two tables are then
compared by one operation on two numbers, where a comparison entry by entry would be quadratic.
-/
namespace EntityGen.Text

/-- The number whose bits are the codes of a list. -/
def codeMask (codes : List Nat) : Nat := codes.foldl (fun mask code => mask ||| 2 ^ code) 0

/-- The number whose bits are the codes of closed ranges. -/
def rangeMask (ranges : List (Nat × Nat)) : Nat :=
  ranges.foldl (fun mask range => mask ||| (2 ^ (range.2 + 1 - range.1) - 1) <<< range.1) 0

/-- The bits of a number put together from the members of a list. -/
theorem testBit_foldl_or {α : Type} {bits : α → Nat} {items : List α} {mask code : Nat} :
    (items.foldl (fun mask item => mask ||| bits item) mask).testBit code = true ↔
      mask.testBit code = true ∨ ∃ item ∈ items, (bits item).testBit code = true := by
  induction items generalizing mask with
  | nil => simp
  | cons first rest ih =>
    rw [List.foldl_cons, ih, Nat.testBit_or, Bool.or_eq_true, List.exists_mem_cons_iff, or_assoc]

theorem testBit_codeMask {codes : List Nat} {code : Nat} :
    (codeMask codes).testBit code = true ↔ code ∈ codes := by
  rw [codeMask, testBit_foldl_or]
  simp [Nat.testBit_two_pow]

theorem testBit_rangeMask {ranges : List (Nat × Nat)} {code : Nat} :
    (rangeMask ranges).testBit code = true ↔
      ∃ range ∈ ranges, range.1 ≤ code ∧ code ≤ range.2 := by
  have hrange : ∀ range : Nat × Nat,
      ((2 ^ (range.2 + 1 - range.1) - 1) <<< range.1).testBit code = true ↔
        range.1 ≤ code ∧ code ≤ range.2 := by
    intro range
    rw [Nat.testBit_shiftLeft, Nat.testBit_two_pow_sub_one, Bool.and_eq_true,
      decide_eq_true_iff, decide_eq_true_iff]
    omega
  rw [rangeMask, testBit_foldl_or]
  simp only [hrange, Nat.zero_testBit, Bool.false_eq_true, false_or]

/-- Numbers without a common bit are sets without a common code. -/
theorem not_mem_of_masks {a b : List Nat} (h : codeMask a &&& codeMask b = 0) {code : Nat}
    (ha : code ∈ a) : code ∉ b := by
  intro hb
  have hboth : (codeMask a &&& codeMask b).testBit code = true := by
    rw [Nat.testBit_and, testBit_codeMask.mpr ha, testBit_codeMask.mpr hb]
    rfl
  rw [h, Nat.zero_testBit] at hboth
  exact absurd hboth Bool.false_ne_true

/-- The same for a list and ranges. -/
theorem not_mem_of_rangeMask {codes : List Nat} {ranges : List (Nat × Nat)}
    (h : codeMask codes &&& rangeMask ranges = 0) {range : Nat × Nat} (hrange : range ∈ ranges)
    {code : Nat} (hlow : range.1 ≤ code) (hhigh : code ≤ range.2) : code ∉ codes := by
  intro hcode
  have hin : (rangeMask ranges).testBit code = true :=
    testBit_rangeMask.mpr ⟨range, hrange, hlow, hhigh⟩
  have hboth : (codeMask codes &&& rangeMask ranges).testBit code = true := by
    rw [Nat.testBit_and, testBit_codeMask.mpr hcode, hin]
    rfl
  rw [h, Nat.zero_testBit] at hboth
  exact absurd hboth Bool.false_ne_true

/-- A number that loses no bit to ranges is a set that lies in them. -/
theorem exists_range_of_masks {codes : List Nat} {ranges : List (Nat × Nat)}
    (h : codeMask codes &&& rangeMask ranges = codeMask codes) {code : Nat} (hcode : code ∈ codes) :
    ∃ range ∈ ranges, range.1 ≤ code ∧ code ≤ range.2 := by
  have hbit := testBit_codeMask.mpr hcode
  rw [← h, Nat.testBit_and, Bool.and_eq_true] at hbit
  exact testBit_rangeMask.mp hbit.2

theorem exists_range_of_inRanges {ranges : List (Nat × Nat)} {code : Nat}
    (h : inRanges code ranges = true) : ∃ range ∈ ranges, range.1 ≤ code ∧ code ≤ range.2 := by
  induction ranges with
  | nil => cases h
  | cons first rest ih =>
    rw [inRanges] at h
    split at h
    · cases h
    · next hlow =>
      rcases Bool.or_eq_true _ _ ▸ h with hhigh | hrest
      · exact ⟨first, List.mem_cons_self, Nat.le_of_not_lt hlow, of_decide_eq_true hhigh⟩
      · obtain ⟨range, hrange, hcode⟩ := ih hrest
        exact ⟨range, List.mem_cons_of_mem _ hrange, hcode⟩

/-- Looking a code up in ascending ranges finds every code of theirs. -/
theorem inRanges_of_ascending {ranges : List (Nat × Nat)}
    (hascending : ranges.IsChain fun a b : Nat × Nat => a.1 ≤ b.1) {range : Nat × Nat}
    (hrange : range ∈ ranges) {code : Nat} (hlow : range.1 ≤ code) (hhigh : code ≤ range.2) :
    inRanges code ranges = true := by
  have hpairs : ranges.Pairwise fun a b : Nat × Nat => a.1 ≤ b.1 := by
    have htrans : Trans (fun a b : Nat × Nat => a.1 ≤ b.1)
        (fun a b : Nat × Nat => a.1 ≤ b.1) (fun a b : Nat × Nat => a.1 ≤ b.1) := ⟨Nat.le_trans⟩
    exact List.isChain_iff_pairwise.mp hascending
  clear hascending
  induction ranges with
  | nil => cases hrange
  | cons first rest ih =>
    obtain ⟨hfirst, hrest⟩ := List.pairwise_cons.mp hpairs
    have hbelow : first.1 ≤ code := by
      rcases List.mem_cons.mp hrange with rfl | hm
      · exact hlow
      · exact Nat.le_trans (hfirst range hm) hlow
    rw [inRanges, if_neg (Nat.not_lt.mpr hbelow), Bool.or_eq_true]
    rcases List.mem_cons.mp hrange with rfl | hm
    · exact .inl (decide_eq_true hhigh)
    · exact .inr (ih hm hrest)

end EntityGen.Text
