import EntityGen.Proofs.Text.Casing
import EntityGen.Proofs.Text.CodeSet
import Mathlib.Data.List.Sort

/-!
# What case mappings lead to

The first character that upper case leads to is its own upper case, and every character that lower
case leads to is its own lower case. All but one character come back from lower case to the same
lower case: the capital sharp s has the small one, whose upper case is two letters.

The tables are compared as sets of codes, and only the runs of lower case that no run of upper case
undoes are gone through code by code.
-/
namespace EntityGen.Text

namespace Casing

/-- How many codes a run maps. -/
def Run.count (r : Run) : Nat := (r.last - r.first) / r.stride + 1

/-- The codes a run maps. -/
def Run.codes (r : Run) : List Nat := (List.range r.count).map fun k => r.first + r.stride * k

/-- The codes a run maps to. -/
def Run.images (r : Run) : List Nat := (List.range r.count).map fun k => r.image + r.stride * k

theorem exists_of_alongRuns {runs : List Run} {code image : Nat}
    (h : alongRuns code runs = some image) :
    ∃ r ∈ runs, ∃ k < r.count, code = r.first + r.stride * k ∧ image = r.image + r.stride * k := by
  induction runs with
  | nil => cases h
  | cons r rest ih =>
    rw [alongRuns] at h
    split at h
    · next hcond =>
      simp only [Bool.and_eq_true, decide_eq_true_iff, beq_iff_eq] at hcond
      obtain ⟨⟨hfirst, hlast⟩, hmod⟩ := hcond
      have hk : r.stride * ((code - r.first) / r.stride) = code - r.first :=
        Nat.mul_div_cancel' (Nat.dvd_of_mod_eq_zero hmod)
      have hcount : (code - r.first) / r.stride < r.count :=
        Nat.lt_succ_of_le (Nat.div_le_div_right (by omega))
      refine ⟨r, List.mem_cons_self, _, hcount, ?_, ?_⟩
      · omega
      · rw [hk]
        exact (Option.some.inj h).symm
    · obtain ⟨s, hs, hk⟩ := ih h
      exact ⟨s, List.mem_cons_of_mem _ hs, hk⟩

/-- In ascending runs only the run that covers a code can map it. -/
theorem alongRuns_of_ascending {runs : List Run}
    (hascending : runs.IsChain fun a b => a.first ≤ a.last ∧ a.last < b.first) {r : Run}
    (hr : r ∈ runs) {code : Nat} (hfirst : r.first ≤ code) (hlast : code ≤ r.last)
    (hmod : (code - r.first) % r.stride = 0) :
    alongRuns code runs = some (r.image + (code - r.first)) := by
  have hpairs : runs.Pairwise fun a b => a.first ≤ a.last ∧ a.last < b.first := by
    have htrans : Trans (fun a b : Run => a.first ≤ a.last ∧ a.last < b.first)
        (fun a b : Run => a.first ≤ a.last ∧ a.last < b.first)
        (fun a b : Run => a.first ≤ a.last ∧ a.last < b.first) :=
      ⟨fun hab hbc => ⟨hab.1, by omega⟩⟩
    exact List.isChain_iff_pairwise.mp hascending
  clear hascending
  induction runs with
  | nil => cases hr
  | cons s rest ih =>
    obtain ⟨hs, hrest⟩ := List.pairwise_cons.mp hpairs
    rw [alongRuns]
    rcases List.mem_cons.mp hr with rfl | hm
    · rw [if_pos (by simp [hfirst, hlast, hmod])]
    · have hbelow := hs r hm
      have hout : ¬code ≤ s.last := by omega
      rw [if_neg (by simp [hout])]
      exact ih hm hrest

theorem image_cases (expansions : List (Nat × List Nat)) (runs : List Run) (c : Char) :
    image expansions runs c = [c] ∨
      (∃ codes, (c.toNat, codes) ∈ expansions ∧
        image expansions runs c = codes.map Char.ofNat) ∨
      ∃ r ∈ runs, ∃ k < r.count, c.toNat = r.first + r.stride * k ∧
        image expansions runs c = [Char.ofNat (r.image + r.stride * k)] := by
  unfold image
  cases hl : expansions.lookup c.toNat with
  | some codes =>
    obtain ⟨pre, post, hsplit, -⟩ := List.lookup_eq_some_iff.mp hl
    have hm : (c.toNat, codes) ∈ expansions := by
      rw [hsplit]
      exact List.mem_append_right pre List.mem_cons_self
    exact .inr (.inl ⟨codes, hm, rfl⟩)
  | none =>
    cases hr : alongRuns c.toNat runs with
    | none => exact .inl rfl
    | some code =>
      obtain ⟨r, hrun, k, hk, hcode, rfl⟩ := exists_of_alongRuns hr
      exact .inr (.inr ⟨r, hrun, k, hk, hcode, rfl⟩)

/-- The codes that have an upper case of their own. -/
def upperDomain : List Nat :=
  List.range' 97 26 ++ (upperExpansions.map Prod.fst ++ upperRuns.flatMap Run.codes)

/-- The codes that an upper case begins with. -/
def upperHeads : List Nat :=
  List.range' 65 26 ++ (upperExpansions.filterMap (·.2.head?) ++ upperRuns.flatMap Run.images)

/-- The codes that have a lower case of their own. -/
def lowerDomain : List Nat := List.range' 65 26 ++ (0x130 :: lowerRuns.flatMap Run.codes)

/-- The codes that are the whole lower case of another. -/
def lowerImages : List Nat := List.range' 97 26 ++ lowerRuns.flatMap Run.images

/-- The ranges of letters and numbers, those of ASCII included. -/
def wordRanges : List (Nat × Nat) := (48, 57) :: (65, 90) :: (97, 122) :: Class.alphanumericRanges

/-- Whether a run of upper case takes back what a run of lower case does. -/
def Run.undoneBy (r s : Run) : Bool :=
  s.image + (r.image - s.first) == r.first && (s.first ≤ r.image
    && (r.image + (r.last - r.first) ≤ s.last
      && (r.stride % s.stride == 0 && (r.image - s.first) % s.stride == 0)))

/-- The runs of lower case that are not undone by the run of upper case they are met with. When both
lists ascend, only a run of upper case that reaches so far can undo one. -/
def notUndone : List Run → List Run → List Run
  | [], runs => runs
  | s :: rest, runs =>
    (runs.takeWhile fun r => Nat.ble r.image s.last).filter (!·.undoneBy s) ++
      notUndone rest (runs.dropWhile fun r => Nat.ble r.image s.last)

theorem mem_notUndone {uppers runs : List Run} {r : Run} (hr : r ∈ runs) :
    (∃ s ∈ uppers, r.undoneBy s = true) ∨ r ∈ notUndone uppers runs := by
  induction uppers generalizing runs with
  | nil => exact .inr hr
  | cons s rest ih =>
    rw [← List.takeWhile_append_dropWhile (p := fun r => Nat.ble r.image s.last) (l := runs),
      List.mem_append] at hr
    rcases hr with hmet | hlater
    · cases hundone : r.undoneBy s with
      | true => exact .inl ⟨s, List.mem_cons_self, hundone⟩
      | false =>
        refine .inr (List.mem_append_left _ (List.mem_filter.mpr ⟨hmet, ?_⟩))
        rw [hundone, Bool.not_false]
    · rcases ih hlater with ⟨other, hother, hundone⟩ | hleft
      · exact .inl ⟨other, List.mem_cons_of_mem _ hother, hundone⟩
      · exact .inr (List.mem_append_right _ hleft)

/-- Whether the lower case of a code stays the same through upper case and back. Codes that upper
case changes are left out, and so is the sharp s. -/
def staysLower (code lowered : Nat) : Bool :=
  lowered == 0xDF || (upper (Char.ofNat code) != [Char.ofNat code]
    || (upper (Char.ofNat lowered)).map lower == [[Char.ofNat lowered]])

/-- What the tables of case mappings and of letters and numbers keep. -/
structure TablesFit : Prop where
  upperHeads : codeMask upperHeads &&& codeMask upperDomain = 0 ∧
    codeMask upperHeads &&& rangeMask wordRanges = codeMask upperHeads
  lowerImages : codeMask lowerImages &&& codeMask lowerDomain = 0 ∧
    codeMask lowerImages &&& rangeMask wordRanges = codeMask lowerImages
  lowerDomain_not_lowercase : codeMask lowerDomain &&& rangeMask Class.lowercaseRanges = 0
  upperRuns_ascending : upperRuns.IsChain fun a b => a.first ≤ a.last ∧ a.last < b.first
  upperRuns_above_ascii : ∀ r ∈ upperRuns, 128 ≤ r.first
  upperExpansions_ne_nil : ∀ entry ∈ upperExpansions, entry.2 ≠ []
  upperExpansions_disjoint :
    codeMask (upperExpansions.map Prod.fst) &&& codeMask (upperRuns.flatMap Run.codes) = 0
  wordRanges_ascending : wordRanges.IsChain fun a b : Nat × Nat => a.1 ≤ b.1
  wordRanges_valid : ∀ range ∈ wordRanges,
    range.2 < 0xD800 ∨ 0xDFFF < range.1 ∧ range.2 < 0x110000
  lowerRuns_stay :
    (notUndone upperRuns (lowerRuns.insertionSort fun a b => a.image ≤ b.image)).all (fun r =>
      (List.range r.count).all fun k =>
        staysLower (r.first + r.stride * k) (r.image + r.stride * k)) = true

theorem tablesFit : TablesFit where
  upperHeads := by decide +kernel
  lowerImages := by decide +kernel
  lowerDomain_not_lowercase := by decide +kernel
  upperRuns_ascending := by decide +kernel
  upperRuns_above_ascii := by decide +kernel
  upperExpansions_ne_nil := by decide +kernel
  upperExpansions_disjoint := by decide +kernel
  wordRanges_ascending := by decide +kernel
  wordRanges_valid := by decide +kernel
  lowerRuns_stay := by decide +kernel

end Casing

open Casing

theorem isAlphanumeric_eq_inRanges (c : Char) :
    isAlphanumeric c = inRanges c.toNat wordRanges := by
  by_cases hc : c.toNat < 128
  · exact of_ascii (P := fun c => isAlphanumeric c = inRanges c.toNat wordRanges)
      (by decide) hc
  · rw [isAlphanumeric, if_neg hc]
    simp only [wordRanges, inRanges]
    rw [if_neg (by omega), if_neg (by omega), if_neg (by omega)]
    rw [decide_eq_false (by omega), decide_eq_false (by omega), decide_eq_false (by omega)]
    rfl

/-- A code in the ranges of letters and numbers is one of a character. -/
theorem word_of_range {code : Nat} (h : ∃ range ∈ wordRanges, range.1 ≤ code ∧ code ≤ range.2) :
    (Char.ofNat code).toNat = code ∧ isAlphanumeric (Char.ofNat code) = true := by
  obtain ⟨range, hrange, hlow, hhigh⟩ := h
  have hvalid : code.isValidChar := by
    rcases tablesFit.wordRanges_valid range hrange with hsmall | ⟨habove, hbelow⟩
    · exact .inl (by omega)
    · exact .inr ⟨by omega, by omega⟩
  have hcode : (Char.ofNat code).toNat = code := by
    rw [Char.ofNat, dif_pos hvalid]
    rfl
  refine ⟨hcode, ?_⟩
  rw [isAlphanumeric_eq_inRanges, hcode]
  exact inRanges_of_ascending tablesFit.wordRanges_ascending hrange hlow hhigh

theorem Casing.Run.mem_codes {r : Run} {k : Nat} (hk : k < r.count) :
    r.first + r.stride * k ∈ r.codes :=
  List.mem_map.mpr ⟨k, List.mem_range.mpr hk, rfl⟩

theorem Casing.Run.mem_images {r : Run} {k : Nat} (hk : k < r.count) :
    r.image + r.stride * k ∈ r.images :=
  List.mem_map.mpr ⟨k, List.mem_range.mpr hk, rfl⟩

theorem mem_upperDomain_of_run {r : Run} (hr : r ∈ upperRuns) {k : Nat} (hk : k < r.count) :
    r.first + r.stride * k ∈ upperDomain :=
  List.mem_append_right _ (List.mem_append_right _ (List.mem_flatMap.mpr ⟨r, hr, r.mem_codes hk⟩))

theorem mem_upperHeads_of_run {r : Run} (hr : r ∈ upperRuns) {k : Nat} (hk : k < r.count) :
    r.image + r.stride * k ∈ upperHeads :=
  List.mem_append_right _ (List.mem_append_right _ (List.mem_flatMap.mpr ⟨r, hr, r.mem_images hk⟩))

/-- Upper case keeps a character or begins with one of the codes that upper case leads to. -/
theorem upper_cases (c : Char) :
    upper c = [c] ∨ c.toNat ∈ upperDomain ∧
      ∃ code ∈ upperHeads, ∃ rest, upper c = Char.ofNat code :: rest := by
  by_cases hc : c.toNat < 128
  · have hascii : upper c = [c] ∨
        (97 ≤ c.toNat ∧ c.toNat < 97 + 26) ∧ upper c = [Char.ofNat (c.toNat - 32)] :=
      of_ascii (P := fun c => upper c = [c] ∨
        (97 ≤ c.toNat ∧ c.toNat < 97 + 26) ∧ upper c = [Char.ofNat (c.toNat - 32)])
        (by decide) hc
    rcases hascii with hself | ⟨hrange, himage⟩
    · exact .inl hself
    · have hhead : c.toNat - 32 ∈ List.range' 65 26 := List.mem_range'_1.mpr (by omega)
      exact .inr ⟨List.mem_append_left _ (List.mem_range'_1.mpr hrange), c.toNat - 32,
        List.mem_append_left _ hhead, [], himage⟩
  · rw [upper, if_neg hc]
    rcases image_cases upperExpansions upperRuns c with
      hself | ⟨codes, hm, hcodes⟩ | ⟨r, hr, k, hk, hcode, himage⟩
    · exact .inl hself
    · right
      obtain ⟨head, rest, rfl⟩ := List.exists_cons_of_ne_nil (tablesFit.upperExpansions_ne_nil _ hm)
      have hkey : c.toNat ∈ upperExpansions.map Prod.fst := List.mem_map_of_mem hm
      have hhead : head ∈ upperExpansions.filterMap (·.2.head?) :=
        List.mem_filterMap.mpr ⟨_, hm, rfl⟩
      exact ⟨List.mem_append_right _ (List.mem_append_left _ hkey), head,
        List.mem_append_right _ (List.mem_append_left _ hhead), rest.map Char.ofNat, hcodes⟩
    · right
      rw [hcode]
      exact ⟨mem_upperDomain_of_run hr hk, _, mem_upperHeads_of_run hr hk, [], himage⟩

theorem upper_of_not_mem {c : Char} (h : c.toNat ∉ upperDomain) : upper c = [c] :=
  (upper_cases c).resolve_right fun hm => h hm.1

/-- A code that upper case leads to is one of a letter or number that is its own upper case. -/
theorem of_mem_upperHeads {code : Nat} (h : code ∈ upperHeads) :
    upper (Char.ofNat code) = [Char.ofNat code] ∧ isAlphanumeric (Char.ofNat code) = true := by
  obtain ⟨hcode, hword⟩ := word_of_range (exists_range_of_masks tablesFit.upperHeads.2 h)
  have hdomain : (Char.ofNat code).toNat ∉ upperDomain := by
    rw [hcode]
    exact not_mem_of_masks tablesFit.upperHeads.1 h
  exact ⟨upper_of_not_mem hdomain, hword⟩

theorem upper_ne_nil (c : Char) : upper c ≠ [] := by
  rcases upper_cases c with h | ⟨-, code, -, rest, h⟩
  · rw [h]
    exact List.cons_ne_nil _ _
  · rw [h]
    exact List.cons_ne_nil _ _

/-- The first character of an upper case is its own upper case. -/
theorem upper_head {c head : Char} {rest : List Char} (h : upper c = head :: rest) :
    upper head = [head] := by
  rcases upper_cases c with hself | ⟨-, code, hcode, more, himage⟩
  · obtain rfl : c = head := (List.cons.inj (hself.symm.trans h)).1
    exact hself
  · obtain rfl : Char.ofNat code = head := (List.cons.inj (himage.symm.trans h)).1
    exact (of_mem_upperHeads hcode).1

theorem isAlphanumeric_upper_head {c head : Char} {rest : List Char}
    (hc : isAlphanumeric c = true) (h : upper c = head :: rest) : isAlphanumeric head = true := by
  rcases upper_cases c with hself | ⟨-, code, hcode, more, himage⟩
  · obtain rfl : c = head := (List.cons.inj (hself.symm.trans h)).1
    exact hc
  · obtain rfl : Char.ofNat code = head := (List.cons.inj (himage.symm.trans h)).1
    exact (of_mem_upperHeads hcode).2

/-- A character is kept by lower case, is the capital dotted i, is a capital letter of ASCII, or lies
in a run. -/
theorem lower_cases (c : Char) :
    lower c = [c] ∨ (c = 'İ' ∧ lower c = ['i', '\u0307']) ∨
      ((65 ≤ c.toNat ∧ c.toNat < 65 + 26) ∧ lower c = [Char.ofNat (c.toNat + 32)]) ∨
      ∃ r ∈ lowerRuns, ∃ k < r.count, c.toNat = r.first + r.stride * k ∧
        lower c = [Char.ofNat (r.image + r.stride * k)] := by
  by_cases hc : c.toNat < 128
  · have hascii : lower c = [c] ∨
        (65 ≤ c.toNat ∧ c.toNat < 65 + 26) ∧ lower c = [Char.ofNat (c.toNat + 32)] :=
      of_ascii (P := fun c => lower c = [c] ∨
        (65 ≤ c.toNat ∧ c.toNat < 65 + 26) ∧ lower c = [Char.ofNat (c.toNat + 32)])
        (by decide) hc
    rcases hascii with hself | hcapital
    · exact .inl hself
    · exact .inr (.inr (.inl hcapital))
  · rw [lower, if_neg hc]
    rcases image_cases lowerExpansions lowerRuns c with hself | ⟨codes, hm, hcodes⟩ | hrun
    · exact .inl hself
    · obtain ⟨hcode, rfl⟩ : c.toNat = 0x130 ∧ codes = [0x69, 0x307] :=
        Prod.mk.inj (List.mem_singleton.mp hm)
      have hdotted : c = 'İ' := by rw [← Char.ofNat_toNat c, hcode]
      exact .inr (.inl ⟨hdotted, hcodes⟩)
    · exact .inr (.inr (.inr hrun))

/-- Where lower case changes a character other than the capital dotted i, it leads to one code. -/
theorem lower_images (c : Char) :
    lower c = [c] ∨ (c = 'İ' ∧ lower c = ['i', '\u0307']) ∨
      (c.toNat ∈ lowerDomain ∧ ∃ code ∈ lowerImages, lower c = [Char.ofNat code]) := by
  rcases lower_cases c with hself | hdotted | ⟨hrange, himage⟩ | ⟨r, hr, k, hk, hcode, himage⟩
  · exact .inl hself
  · exact .inr (.inl hdotted)
  · have hsmall : c.toNat + 32 ∈ List.range' 97 26 := List.mem_range'_1.mpr (by omega)
    exact .inr (.inr ⟨List.mem_append_left _ (List.mem_range'_1.mpr hrange), _,
      List.mem_append_left _ hsmall, himage⟩)
  · refine .inr (.inr ⟨?_, _, ?_, himage⟩)
    · rw [hcode]
      exact List.mem_append_right _ (List.mem_cons_of_mem _
        (List.mem_flatMap.mpr ⟨r, hr, r.mem_codes hk⟩))
    · exact List.mem_append_right _ (List.mem_flatMap.mpr ⟨r, hr, r.mem_images hk⟩)

theorem lower_of_not_mem {c : Char} (h : c.toNat ∉ lowerDomain) : lower c = [c] := by
  rcases lower_images c with hself | ⟨rfl, -⟩ | ⟨hm, -⟩
  · exact hself
  · exact absurd (List.mem_append_right _ List.mem_cons_self) h
  · exact absurd hm h

theorem of_mem_lowerImages {code : Nat} (h : code ∈ lowerImages) :
    lower (Char.ofNat code) = [Char.ofNat code] ∧ isAlphanumeric (Char.ofNat code) = true := by
  obtain ⟨hcode, hword⟩ := word_of_range (exists_range_of_masks tablesFit.lowerImages.2 h)
  have hdomain : (Char.ofNat code).toNat ∉ lowerDomain := by
    rw [hcode]
    exact not_mem_of_masks tablesFit.lowerImages.1 h
  exact ⟨lower_of_not_mem hdomain, hword⟩

/-- Every character that lower case leads to is its own lower case. -/
theorem lower_of_mem_lower {c d : Char} (h : d ∈ lower c) : lower d = [d] := by
  rcases lower_images c with hself | ⟨rfl, himage⟩ | ⟨-, code, hcode, himage⟩
  · rw [hself, List.mem_singleton] at h
    rw [h, hself]
  · rw [himage] at h
    rcases List.mem_cons.mp h with rfl | hdot
    · decide
    · rw [List.mem_singleton.mp hdot]
      decide +kernel
  · rw [himage, List.mem_singleton] at h
    rw [h]
    exact (of_mem_lowerImages hcode).1

/-- A lower case that begins with the character itself is nothing else. -/
theorem lower_eq_cons_self {c : Char} {rest : List Char} (h : lower c = c :: rest) : rest = [] := by
  rcases lower_images c with hself | ⟨rfl, himage⟩ | ⟨-, code, -, himage⟩
  · exact (List.cons.inj (h.symm.trans hself)).2
  · have hhead : 'İ' = 'i' := (List.cons.inj (h.symm.trans himage)).1
    exact absurd hhead (by decide)
  · exact (List.cons.inj (h.symm.trans himage)).2

theorem lower_of_isLowercase {c : Char} (h : isLowercase c = true) : lower c = [c] := by
  by_cases hc : c.toNat < 128
  · exact of_ascii (P := fun c => isLowercase c = true → lower c = [c]) (by decide) hc h
  · rw [isLowercase, if_neg hc] at h
    obtain ⟨range, hrange, hlow, hhigh⟩ := exists_range_of_inRanges h
    exact lower_of_not_mem (not_mem_of_rangeMask tablesFit.lowerDomain_not_lowercase hrange hlow hhigh)

theorem exists_lower_head (c : Char) : ∃ head rest, lower c = head :: rest ∧
    (isAlphanumeric c = true → isAlphanumeric head = true) := by
  rcases lower_images c with hself | ⟨rfl, himage⟩ | ⟨-, code, hcode, himage⟩
  · exact ⟨c, [], hself, id⟩
  · exact ⟨'i', ['\u0307'], himage, fun _ => by decide⟩
  · exact ⟨_, [], himage, fun _ => (of_mem_lowerImages hcode).2⟩

/-- Upper case finds a code in its run: no expansion and no other run holds it. -/
theorem upper_of_run {r : Run} (hr : r ∈ upperRuns) {c : Char} (hfirst : r.first ≤ c.toNat)
    (hlast : c.toNat ≤ r.last) (hmod : (c.toNat - r.first) % r.stride = 0) :
    upper c = [Char.ofNat (r.image + (c.toNat - r.first))] := by
  have hascii : ¬c.toNat < 128 := by
    have hbelow := tablesFit.upperRuns_above_ascii r hr
    omega
  have hrun := alongRuns_of_ascending tablesFit.upperRuns_ascending hr hfirst hlast hmod
  obtain ⟨s, hs, k, hk, hcode, -⟩ := exists_of_alongRuns hrun
  have hkey : upperExpansions.lookup c.toNat = none := by
    rw [List.lookup_eq_none_iff]
    intro entry hentry
    rw [bne_iff_ne]
    intro heq
    have hcodes : c.toNat ∈ upperRuns.flatMap Run.codes := by
      rw [hcode]
      exact List.mem_flatMap.mpr ⟨s, hs, s.mem_codes hk⟩
    exact not_mem_of_masks tablesFit.upperExpansions_disjoint (heq ▸ List.mem_map_of_mem hentry) hcodes
  rw [upper, if_neg hascii, image, hkey, hrun]

theorem upper_of_undoneBy {r s : Run} (hs : s ∈ upperRuns) (h : r.undoneBy s = true) {k : Nat}
    (hk : k < r.count) {c : Char} (hc : c.toNat = r.image + r.stride * k) :
    upper c = [Char.ofNat (r.first + r.stride * k)] := by
  simp only [Run.undoneBy, Bool.and_eq_true, beq_iff_eq, decide_eq_true_iff] at h
  obtain ⟨himage, hfirst, hlast, hstride, hoffset⟩ := h
  have hdist : r.stride * k ≤ r.last - r.first := by
    have hquot : k ≤ (r.last - r.first) / r.stride := Nat.le_of_lt_succ hk
    exact (Nat.mul_le_mul_left _ hquot).trans (Nat.mul_div_le _ _)
  have hsub : c.toNat - s.first = (r.image - s.first) + r.stride * k := by omega
  have hmod : (c.toNat - s.first) % s.stride = 0 := by
    rw [hsub]
    have hleft : s.stride ∣ r.image - s.first := Nat.dvd_of_mod_eq_zero hoffset
    have hright : s.stride ∣ r.stride * k := (Nat.dvd_of_mod_eq_zero hstride).mul_right k
    exact Nat.mod_eq_zero_of_dvd (Nat.dvd_add hleft hright)
  rw [upper_of_run hs (by omega) (by omega) hmod, hsub, ← himage, Nat.add_assoc]

/-- Lower case of a character that is its own upper case comes back from upper case, except for the
capital sharp s. -/
theorem lower_upper_lower {c head : Char} {rest : List Char} (hc : upper c = [c])
    (h : lower c = head :: rest) : head = 'ß' ∨ (upper head).map lower = [[head]] := by
  rcases lower_cases c with hself | ⟨rfl, himage⟩ | ⟨hrange, himage⟩ | ⟨r, hr, k, hk, hcode, himage⟩
  · obtain rfl : c = head := (List.cons.inj (hself.symm.trans h)).1
    rw [hc, List.map_singleton, hself]
    exact .inr rfl
  · obtain rfl : 'i' = head := (List.cons.inj (himage.symm.trans h)).1
    exact .inr (by decide)
  · have hascii : (upper (Char.ofNat (c.toNat + 32))).map lower = [[Char.ofNat (c.toNat + 32)]] :=
      of_ascii (P := fun c => 65 ≤ c.toNat ∧ c.toNat < 65 + 26 →
        (upper (Char.ofNat (c.toNat + 32))).map lower = [[Char.ofNat (c.toNat + 32)]])
        (by decide) (by omega) hrange
    obtain rfl : Char.ofNat (c.toNat + 32) = head := (List.cons.inj (himage.symm.trans h)).1
    exact .inr hascii
  · obtain rfl : Char.ofNat (r.image + r.stride * k) = head :=
      (List.cons.inj (himage.symm.trans h)).1
    have hself : Char.ofNat (r.first + r.stride * k) = c := by rw [← hcode, Char.ofNat_toNat]
    have hsorted : r ∈ lowerRuns.insertionSort fun a b => a.image ≤ b.image :=
      (List.mem_insertionSort _).mpr hr
    -- a run that upper case undoes leads back to `c`; the codes of the others have been tried
    rcases mem_notUndone hsorted with ⟨s, hs, hrs⟩ | hleft
    · have hvalid : (Char.ofNat (r.image + r.stride * k)).toNat = r.image + r.stride * k := by
        have hm : r.image + r.stride * k ∈ lowerImages :=
          List.mem_append_right _ (List.mem_flatMap.mpr ⟨r, hr, r.mem_images hk⟩)
        exact (word_of_range (exists_range_of_masks tablesFit.lowerImages.2 hm)).1
      rw [upper_of_undoneBy hs hrs hk hvalid, hself, List.map_singleton, himage]
      exact .inr rfl
    · have hcheck := List.all_eq_true.mp (List.all_eq_true.mp tablesFit.lowerRuns_stay r hleft) k
        (List.mem_range.mpr hk)
      rw [staysLower, hself, hc, bne_self_eq_false, Bool.false_or, Bool.or_eq_true, beq_iff_eq,
        beq_iff_eq] at hcheck
      rcases hcheck with hsharp | hback
      · rw [hsharp]
        exact .inl rfl
      · exact .inr hback

end EntityGen.Text
