import EntityGen.Proofs.Identifier.Legality
import Mathlib.Data.List.Basic

/-!
# Package names

A package name is a list of words with dots between them. The check of a configuration accepts these
names and no others, and it would accept every package that is made of the base and a database.
-/
namespace EntityGen

open EntityGen.Text

/-- A letter of ASCII or an underscore, and behind it letters, digits and underscores. -/
def IsWord (text : String) : Prop :=
  ∃ c rest, text.toList = c :: rest ∧ (c.isAlpha = true ∨ c = '_') ∧
    ∀ d ∈ rest, d.isAlphanum = true ∨ d = '_'

/-- Words with dots between them. -/
def IsPackageName (text : String) : Prop :=
  ∃ words : List String, words ≠ [] ∧ (∀ word ∈ words, IsWord word) ∧ text = ".".intercalate words

theorem isAsciiLetter_eq_isAlpha (c : Char) : isAsciiLetter c = c.isAlpha := by
  have hupper : c.isUpper = isAsciiUpper c := Bool.decide_and _ _
  show (isAsciiLower c || isAsciiUpper c) = (c.isUpper || c.isLower)
  rw [hupper, Bool.or_comm]
  rfl

theorem isSegmentChar_iff {c : Char} :
    Config.isSegmentChar c = true ↔ c.isAlphanum = true ∨ c = '_' := by
  show (isAsciiLetter c || c.isDigit || c == '_') = true ↔ (c.isAlpha || c.isDigit) = true ∨ c = '_'
  rw [isAsciiLetter_eq_isAlpha, Bool.or_eq_true, beq_iff_eq]

theorem isSegment_iff_isWord {text : String} : Config.isSegment text.toList = true ↔ IsWord text := by
  rw [IsWord]
  cases text.toList with
  | nil => exact iff_of_false nofun nofun
  | cons c rest =>
    rw [Config.isSegment, isAsciiLetter_eq_isAlpha, Bool.and_eq_true, Bool.or_eq_true, beq_iff_eq,
      List.all_eq_true]
    simp only [isSegmentChar_iff, List.cons.injEq]
    constructor
    · exact fun h => ⟨c, rest, ⟨rfl, rfl⟩, h⟩
    · rintro ⟨_, _, ⟨rfl, rfl⟩, h⟩
      exact h

/-- A word holds letters, digits and underscores only. -/
theorem IsWord.isSegmentChar {word : String} (h : IsWord word) :
    ∀ c ∈ word.toList, Config.isSegmentChar c = true := by
  obtain ⟨first, rest, hword, hfirst, hrest⟩ := h
  rw [hword, List.forall_mem_cons]
  refine ⟨isSegmentChar_iff.mpr (hfirst.imp_left fun halpha => ?_), fun d hd =>
    isSegmentChar_iff.mpr (hrest d hd)⟩
  show (first.isAlpha || first.isDigit) = true
  rw [halpha, Bool.true_or]

theorem IsWord.ne_empty {word : String} (h : IsWord word) : word ≠ "" := by
  rintro rfl
  obtain ⟨_, _, hword, -⟩ := h
  cases hword

theorem Config.segments_eq_splitOn (text : List Char) : segments text = text.splitOn '.' := by
  induction text with
  | nil => rfl
  | cons c rest ih =>
    rw [segments, ih, List.splitOn_cons_eq_if_modifyHead]
    split
    · rfl
    · obtain ⟨first, more, hrest⟩ := List.exists_cons_of_ne_nil (List.splitOn_ne_nil '.' rest)
      rw [hrest]
      rfl

/-- The segments of words with dots between them are the words. -/
theorem segments_intercalate {words : List String} (hne : words ≠ [])
    (hwords : ∀ word ∈ words, IsWord word) :
    Config.segments (".".intercalate words).toList = words.map String.toList := by
  have hdot : ".".toList = ['.'] := by decide
  rw [String.toList_intercalate, hdot, Config.segments_eq_splitOn]
  refine List.splitOn_intercalate '.' ?_ (mt List.map_eq_nil_iff.mp hne)
  intro chars hchars hm
  obtain ⟨word, hword, rfl⟩ := List.mem_map.mp hchars
  exact absurd ((hwords word hword).isSegmentChar '.' hm) (by decide)

theorem isPackage_iff_isPackageName {text : String} :
    Config.isPackage text = true ↔ IsPackageName text := by
  rw [Config.isPackage, List.all_eq_true]
  constructor
  · intro h
    rw [Config.segments_eq_splitOn] at h
    refine ⟨(text.toList.splitOn '.').map String.ofList,
      mt List.map_eq_nil_iff.mp (List.splitOn_ne_nil _ _), ?_, ?_⟩
    · intro word hword
      obtain ⟨chars, hchars, rfl⟩ := List.mem_map.mp hword
      rw [← isSegment_iff_isWord, String.toList_ofList]
      exact h chars hchars
    · have hdot : ".".toList = ['.'] := by decide
      have hchars : ((text.toList.splitOn '.').map String.ofList).map String.toList =
          text.toList.splitOn '.' := by
        simp
      rw [← String.toList_inj, String.toList_intercalate, hdot, hchars, List.intercalate_splitOn]
  · rintro ⟨words, hne, hwords, rfl⟩ chars hchars
    rw [segments_intercalate hne hwords] at hchars
    obtain ⟨word, hword, rfl⟩ := List.mem_map.mp hchars
    exact isSegment_iff_isWord.mpr (hwords word hword)

/-- What the check of a configuration accepts as a package. -/
theorem checkPackage_eq_ok_iff (text : String) :
    Config.checkPackage text = .ok () ↔ IsPackageName text := by
  rw [← isPackage_iff_isPackageName, Config.checkPackage]
  cases hempty : text.isEmpty with
  | true =>
    obtain rfl := String.isEmpty_iff.mp hempty
    exact iff_of_false nofun (by decide)
  | false =>
    rw [if_neg Bool.false_ne_true]
    split
    · next h => exact iff_of_true rfl h
    · next h => exact iff_of_false nofun h

theorem IsPackageName.append {base word : String} (h : IsPackageName base) (hword : IsWord word) :
    IsPackageName (base ++ "." ++ word) := by
  obtain ⟨words, hne, hwords, rfl⟩ := h
  refine ⟨words ++ [word], List.append_ne_nil_of_left_ne_nil hne _, ?_, ?_⟩
  · exact List.forall_mem_append.mpr ⟨hwords, List.forall_mem_singleton.mpr hword⟩
  · rw [String.intercalate_append_of_ne_nil hne (List.cons_ne_nil _ _),
      String.intercalate_singleton]

/-- A base that is a package name stays one with the segment of a database behind it. -/
theorem Settings.isPackageName_packageFor {settings : Settings}
    (h : IsPackageName settings.packageBase) (database : String) :
    IsPackageName (settings.packageFor database) := by
  rw [settings.packageFor_eq database]
  split
  · refine h.append (isSegment_iff_isWord.mp ?_)
    rw [String.toList_ofList]
    exact Identifier.isSegment_guarded (isSegmentChar_databaseSegment database)
  · exact h

end EntityGen
