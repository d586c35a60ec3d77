import EntityGen.Proofs.Identifier.Idempotence

/-!
# Spellings of a name

A name of several words can be written with separators, in small letters, with capitals in front or in
capitals throughout, and without separators in camel case. All spellings have one class name, the
capitalised words in a row, and one property name.

A separator is any run of ASCII characters that are no letters or digits. One word alone is left out:
in capitals it is a class name as it stands.
-/
namespace EntityGen.Identifier

open EntityGen.Text

/-- A word of small letters and digits that begins with a letter. -/
structure Word where
  initial : Char
  others : List Char
  initial_lower : isAsciiLower initial = true
  others_plain : ∀ c ∈ others, isAsciiLower c = true ∨ isAsciiDigit c = true

/-- How the words of a name are written between separators. -/
inductive Style
  | lower
  | title
  | upper
  deriving DecidableEq, Repr

namespace Word

def small (word : Word) : List Char := word.initial :: word.others

/-- The word with its first letter as a capital. -/
def capitalised (word : Word) : List Char := asciiUpper word.initial :: word.others

def write (word : Word) : Style → List Char
  | .lower => word.small
  | .title => word.capitalised
  | .upper => word.small.map asciiUpper

/-- A letter stands behind the first character. -/
def hasInnerLetter (word : Word) : Bool := word.others.any isAsciiLower

end Word

/-- A run of separators, which may be empty. -/
def IsGap (run : List Char) : Prop := ∀ c ∈ run, c.toNat < 128 ∧ isAsciiAlphanumeric c = false

instance (run : List Char) : Decidable (IsGap run) :=
  List.decidableBAll (fun c : Char => c.toNat < 128 ∧ isAsciiAlphanumeric c = false) run

/-- Pieces in a row with separators between them, and maybe behind the last. -/
inductive Spaced : List (List Char) → List Char → Prop
  | last (piece : List Char) {gap : List Char} (h : IsGap gap) : Spaced [piece] (piece ++ gap)
  | cons (piece : List Char) {gap text : List Char} {pieces : List (List Char)} (h : IsGap gap)
      (separates : gap ≠ []) (rest : Spaced pieces text) :
      Spaced (piece :: pieces) (piece ++ (gap ++ text))

/-- The words of a class name in a row. -/
def pascalCase (words : List Word) : List Char := words.flatMap Word.capitalised

/-- The words of a property name in a row: the first one small and the others capitalised, or all of
them small when no capitalised word has a small letter. -/
def camelCase : List Word → List Char
  | [] => []
  | first :: rest =>
    if (first :: rest).any Word.hasInnerLetter then first.small ++ pascalCase rest
    else (first :: rest).flatMap Word.small

/-- The spellings of a name of some words. -/
inductive Spelling : List Word → List Char → Prop
  | spaced (style : Style) {words : List Word} {front text : List Char} (h : IsGap front)
      (pieces : Spaced (words.map (·.write style)) text) : Spelling words (front ++ text)
  | camel (first : Word) (rest : List Word) : Spelling (first :: rest) (first.small ++ pascalCase rest)
  | pascal (words : List Word) : Spelling words (pascalCase words)

theorem lt_of_isAsciiLower {c : Char} (h : isAsciiLower c = true) : c.toNat < 128 := by
  rw [isAsciiLower, Bool.and_eq_true, decide_eq_true_iff, decide_eq_true_iff] at h
  exact Nat.lt_of_le_of_lt h.2 (by decide)

theorem lt_of_isAsciiDigit {c : Char} (h : isAsciiDigit c = true) : c.toNat < 128 := by
  rw [isAsciiDigit, Bool.and_eq_true, decide_eq_true_iff, decide_eq_true_iff] at h
  exact Nat.lt_of_le_of_lt h.2 (by decide)

/-- What the case mappings and the classes of characters make of a small letter or a digit. -/
structure IsPlain (c : Char) : Prop where
  ascii : c.toNat < 128
  alphanumeric : isAlphanumeric c = true
  alphanumeric_capital : isAlphanumeric (asciiUpper c) = true
  upper_capital : asciiUpper (asciiUpper c) = asciiUpper c
  lower_capital : asciiLower (asciiUpper c) = c
  lower : asciiLower c = c
  isLowercase_capital : isLowercase (asciiUpper c) = false
  isLowercase : isLowercase c = isAsciiLower c

theorem isPlain {c : Char} (h : isAsciiLower c = true ∨ isAsciiDigit c = true) : IsPlain c := by
  have hc : c.toNat < 128 := h.elim lt_of_isAsciiLower lt_of_isAsciiDigit
  obtain ⟨hword, hcapital, hupper, hback, hlower, hnone, hcase⟩ :=
    of_ascii (P := fun c => isAsciiLower c = true ∨ isAsciiDigit c = true →
      isAlphanumeric c = true ∧ isAlphanumeric (asciiUpper c) = true ∧
        asciiUpper (asciiUpper c) = asciiUpper c ∧ asciiLower (asciiUpper c) = c ∧
        asciiLower c = c ∧ isLowercase (asciiUpper c) = false ∧
        isLowercase c = isAsciiLower c) (by decide) hc h
  exact ⟨hc, hword, hcapital, hupper, hback, hlower, hnone, hcase⟩

theorem isAlphanumeric_of_gap {run : List Char} (h : IsGap run) :
    ∀ c ∈ run, isAlphanumeric c = false ∧ isLowercase c = false := by
  intro c hc
  obtain ⟨hascii, hother⟩ := h c hc
  exact of_ascii (P := fun c => isAsciiAlphanumeric c = false →
    isAlphanumeric c = false ∧ isLowercase c = false) (by decide) hascii hother

namespace Word

variable (word : Word)

theorem isPlain_initial : IsPlain word.initial := isPlain (.inl word.initial_lower)

theorem isPlain_others : ∀ c ∈ word.others, IsPlain c := fun c hc => isPlain (word.others_plain c hc)

theorem isPlain_small : ∀ c ∈ word.small, IsPlain c :=
  List.forall_mem_cons.mpr ⟨word.isPlain_initial, word.isPlain_others⟩

theorem isAlphanumeric_small : ∀ c ∈ word.small, isAlphanumeric c = true :=
  fun c hc => (word.isPlain_small c hc).alphanumeric

theorem isAlphanumeric_capitalised : ∀ c ∈ word.capitalised, isAlphanumeric c = true := by
  refine List.forall_mem_cons.mpr ⟨word.isPlain_initial.alphanumeric_capital, ?_⟩
  exact fun c hc => (word.isPlain_others c hc).alphanumeric

theorem ascii_capitalised : ∀ c ∈ word.capitalised, c.toNat < 128 := by
  refine List.forall_mem_cons.mpr ⟨asciiUpper_lt word.isPlain_initial.ascii, ?_⟩
  exact fun c hc => (word.isPlain_others c hc).ascii

theorem isLowercase_upper : ∀ c ∈ word.write .upper, isLowercase c = false := by
  intro c hc
  obtain ⟨d, hd, rfl⟩ := List.mem_map.mp hc
  exact (word.isPlain_small d hd).isLowercase_capital

theorem upper_initial : upper word.initial = [asciiUpper word.initial] :=
  upper_of_ascii word.isPlain_initial.ascii

theorem upper_capital : upper (asciiUpper word.initial) = [asciiUpper word.initial] := by
  rw [upper_of_ascii (asciiUpper_lt word.isPlain_initial.ascii), word.isPlain_initial.upper_capital]

theorem lower_capital : lower (asciiUpper word.initial) = [word.initial] := by
  rw [lower_of_ascii (asciiUpper_lt word.isPlain_initial.ascii), word.isPlain_initial.lower_capital]

theorem any_isLowercase_capitalised : word.capitalised.any isLowercase = word.hasInnerLetter := by
  rw [capitalised, List.any_cons, word.isPlain_initial.isLowercase_capital, Bool.false_or,
    hasInnerLetter, Bool.eq_iff_iff, List.any_eq_true, List.any_eq_true]
  refine exists_congr fun c => and_congr_right fun hc => ?_
  rw [(word.isPlain_others c hc).isLowercase]

theorem map_asciiLower_capitalised : word.capitalised.map asciiLower = word.small := by
  have hothers : word.others.map asciiLower = word.others :=
    (List.map_congr_left fun c hc => (word.isPlain_others c hc).lower).trans (List.map_id _)
  rw [capitalised, List.map_cons, word.isPlain_initial.lower_capital, hothers, small]

end Word

section
variable {shouted : Bool}

/-- Behind the first character small letters and digits stay, shouted or not. -/
theorem joinWords_plain {others : List Char} (h : ∀ c ∈ others, IsPlain c) (text : List Char) :
    joinWords shouted false (others ++ text) = others ++ joinWords shouted false text := by
  induction others with
  | nil => rfl
  | cons c rest ih =>
    obtain ⟨hc, hrest⟩ := List.forall_mem_cons.mp h
    have hkept : (if shouted then lower c else [c]) = [c] := by
      rw [lower_of_ascii hc.ascii, hc.lower, ite_self]
    rw [List.cons_append, joinWords, if_pos hc.alphanumeric, if_neg Bool.false_ne_true, hkept,
      ih hrest]
    rfl

/-- In a shouted name their capitals become small again. -/
theorem joinWords_shouted {others : List Char} (h : ∀ c ∈ others, IsPlain c) (text : List Char) :
    joinWords true false (others.map asciiUpper ++ text) = others ++ joinWords true false text := by
  induction others with
  | nil => rfl
  | cons c rest ih =>
    obtain ⟨hc, hrest⟩ := List.forall_mem_cons.mp h
    rw [List.map_cons, List.cons_append, joinWords, if_pos hc.alphanumeric_capital,
      if_neg Bool.false_ne_true, if_pos rfl, lower_of_ascii (asciiUpper_lt hc.ascii),
      hc.lower_capital, ih hrest]
    rfl

/-- A word that begins a name or stands behind a separator is capitalised. Capitals throughout need a
name that is shouted. -/
theorem joinWords_write (word : Word) {style : Style} (h : style = .upper → shouted = true)
    (text : List Char) :
    joinWords shouted true (word.write style ++ text) =
      word.capitalised ++ joinWords shouted false text := by
  have hsmall := word.isPlain_initial.alphanumeric
  have hcapital := word.isPlain_initial.alphanumeric_capital
  cases style with
  | lower =>
    rw [Word.write, Word.small, List.cons_append, joinWords, if_pos hsmall, if_pos rfl,
      word.upper_initial, joinWords_plain word.isPlain_others]
    rfl
  | title =>
    rw [Word.write, Word.capitalised, List.cons_append, joinWords, if_pos hcapital, if_pos rfl,
      word.upper_capital, joinWords_plain word.isPlain_others]
    rfl
  | upper =>
    obtain rfl := h rfl
    rw [Word.write, Word.small, List.map_cons, List.cons_append, joinWords, if_pos hcapital,
      if_pos rfl, word.upper_capital, joinWords_shouted word.isPlain_others]
    rfl

theorem joinWords_gap {gap : List Char} (h : IsGap gap) (text : List Char) :
    joinWords shouted true (gap ++ text) = joinWords shouted true text := by
  induction gap with
  | nil => rfl
  | cons c rest ih =>
    obtain ⟨hc, hrest⟩ := List.forall_mem_cons.mp (isAlphanumeric_of_gap h)
    rw [List.cons_append, joinWords, hc.1, if_neg Bool.false_ne_true,
      ih (List.forall_mem_cons.mp h).2]

/-- What stands behind a separator begins a word. -/
theorem joinWords_separator {gap : List Char} (h : IsGap gap) (hne : gap ≠ []) (text : List Char) :
    joinWords shouted false (gap ++ text) = joinWords shouted true text := by
  cases gap with
  | nil => exact absurd rfl hne
  | cons c rest =>
    obtain ⟨hc, -⟩ := List.forall_mem_cons.mp (isAlphanumeric_of_gap h)
    rw [List.cons_append, joinWords, hc.1, if_neg Bool.false_ne_true,
      joinWords_gap (List.forall_mem_cons.mp h).2]

theorem joinWords_trailing {gap : List Char} (h : IsGap gap) :
    joinWords shouted false gap = [] := by
  by_cases hne : gap = []
  · rw [hne, joinWords]
  · have hjoined : joinWords shouted false (gap ++ []) = joinWords shouted true [] :=
      joinWords_separator h hne []
    rwa [List.append_nil] at hjoined

theorem joinWords_spaced {style : Style} (hstyle : style = .upper → shouted = true)
    {words : List Word} {text : List Char} (h : Spaced (words.map (·.write style)) text) :
    joinWords shouted true text = pascalCase words := by
  -- on the pieces, each the writing of a word: a word and the separator behind it come off at once
  generalize hpieces : words.map (·.write style) = pieces at h
  induction h generalizing words with
  | last piece hgap =>
    obtain ⟨word, rfl, rfl⟩ := List.map_eq_singleton_iff.mp hpieces
    rw [joinWords_write word hstyle, joinWords_trailing hgap, pascalCase, List.flatMap_singleton,
      List.append_nil]
  | cons piece hgap hne _ ih =>
    obtain ⟨word, rest, rfl, rfl, rfl⟩ := List.map_eq_cons_iff.mp hpieces
    rw [joinWords_write word hstyle, joinWords_separator hgap hne, ih rfl]
    rfl

end

theorem Spaced.exists_separator {pieces : List (List Char)} {text : List Char}
    (h : Spaced pieces text) (hpieces : 2 ≤ pieces.length) :
    text.any (fun c => !isAlphanumeric c) = true := by
  cases h with
  | last piece _ => simp at hpieces
  | cons piece hgap hne _ =>
    obtain ⟨c, hc⟩ := List.exists_mem_of_ne_nil _ hne
    rw [List.any_eq_true]
    refine ⟨c, by simp [hc], ?_⟩
    rw [(isAlphanumeric_of_gap hgap c hc).1]
    rfl

theorem Spaced.isLowercase {pieces : List (List Char)} {text : List Char}
    (h : Spaced pieces text) (hpieces : ∀ piece ∈ pieces, ∀ c ∈ piece, isLowercase c = false) :
    ∀ c ∈ text, isLowercase c = false := by
  induction h with
  | last piece hgap =>
    intro c hc
    rcases List.mem_append.mp hc with hpiece | hlater
    · exact hpieces piece List.mem_cons_self c hpiece
    · exact (isAlphanumeric_of_gap hgap c hlater).2
  | cons piece hgap _ _ ih =>
    obtain ⟨hpiece, hrest⟩ := List.forall_mem_cons.mp hpieces
    intro c hc
    rcases List.mem_append.mp hc with hfirst | hlater
    · exact hpiece c hfirst
    · rcases List.mem_append.mp hlater with hbetween | hbehind
      · exact (isAlphanumeric_of_gap hgap c hbetween).2
      · exact ih hrest c hbehind

/-- Two words or more in capitals throughout are shouted. -/
theorem isShouted_of_upper {words : List Word} (hwords : 2 ≤ words.length) {front text : List Char}
    (hfront : IsGap front) (h : Spaced (words.map (·.write .upper)) text) :
    isShouted (front ++ text) = true := by
  have hseparator := h.exists_separator (by rwa [List.length_map])
  have hcapitals : (front ++ text).any isLowercase = false := by
    rw [List.any_eq_false]
    intro c hc
    rw [Bool.not_eq_true]
    rcases List.mem_append.mp hc with hgap | htext
    · exact (isAlphanumeric_of_gap hfront c hgap).2
    · refine h.isLowercase ?_ c htext
      intro piece hpiece
      obtain ⟨word, -, rfl⟩ := List.mem_map.mp hpiece
      exact word.isLowercase_upper
  rw [isShouted, List.any_append, hseparator, hcapitals, Bool.or_true]
  rfl

theorem isAlphanumeric_pascalCase (words : List Word) :
    ∀ c ∈ pascalCase words, isAlphanumeric c = true := by
  intro c hc
  obtain ⟨word, -, hword⟩ := List.mem_flatMap.mp hc
  exact word.isAlphanumeric_capitalised c hword

theorem classChars_of_spelling {words : List Word} (hwords : 2 ≤ words.length) {name : List Char}
    (h : Spelling words name) : classChars name = pascalCase words := by
  cases h with
  | spaced style hfront hpieces =>
    rw [classChars, joinWords_gap hfront]
    refine joinWords_spaced ?_ hpieces
    -- capitals throughout have to be shouted, which takes the separator of a second word
    rintro rfl
    exact isShouted_of_upper hwords hfront hpieces
  | camel first rest =>
    have hword : ∀ c ∈ first.initial :: (first.others ++ pascalCase rest),
        isAlphanumeric c = true := by
      rw [← List.cons_append, List.forall_mem_append]
      exact ⟨first.isAlphanumeric_small, isAlphanumeric_pascalCase rest⟩
    rw [Word.small, List.cons_append, classChars_of_words hword, first.upper_initial]
    rfl
  | pascal =>
    cases words with
    | nil => simp at hwords
    | cons first rest =>
      have hword := isAlphanumeric_pascalCase (first :: rest)
      rw [pascalCase, List.flatMap_cons, Word.capitalised, List.cons_append] at hword ⊢
      rw [classChars_of_words hword, first.upper_capital]
      rfl

/-- The property name goes by the class name alone. -/
theorem propertyChars_of_pascalCase {words : List Word} {name : List Char}
    (h : classChars name = pascalCase words) : propertyChars name = camelCase words := by
  have hletter : (pascalCase words).any isLowercase = words.any Word.hasInnerLetter := by
    rw [pascalCase, List.any_flatMap]
    exact List.any_congr rfl Word.any_isLowercase_capitalised
  have hascii : ∀ c ∈ pascalCase words, c.toNat < 128 := by
    intro c hc
    obtain ⟨word, -, hword⟩ := List.mem_flatMap.mp hc
    exact word.ascii_capitalised c hword
  have hsmall : lowercaseFrom [] (pascalCase words) = words.flatMap Word.small := by
    rw [lowercaseFrom_of_ascii [] hascii, pascalCase, List.map_flatMap]
    exact List.flatMap_congr fun word _ => word.map_asciiLower_capitalised
  rw [propertyChars, h, hletter, hsmall]
  cases words with
  | nil => rfl
  | cons first rest =>
    rw [camelCase]
    split
    · rw [pascalCase, List.flatMap_cons, Word.capitalised, List.cons_append, uncapitalised,
        first.lower_capital]
      rfl
    · rfl

/-- Whatever the spelling of a name of two words or more, its class name is the capitalised words in a
row, and its property name is the one of these words. -/
theorem names_of_spelling {words : List Word} (hwords : 2 ≤ words.length) {name : String}
    (h : Spelling words name.toList) :
    className name = String.ofList (pascalCase words) ∧
      propertyName name = String.ofList (camelCase words) := by
  have hclass := classChars_of_spelling hwords h
  rw [className, propertyName, hclass, propertyChars_of_pascalCase hclass]
  exact ⟨rfl, rfl⟩

/-- Of words with one letter each the class has capitals only, and the property is small throughout. -/
theorem names_of_spelling_initials :
    let a : Word := ⟨'a', [], by decide, List.forall_mem_nil _⟩
    let b : Word := ⟨'b', ['1'], by decide, List.forall_mem_singleton.mpr (.inr (by decide))⟩
    2 ≤ [a, b].length ∧
      (Spelling [a, b] "_A..B1-".toList ∧ className "_A..B1-" = "AB1" ∧
        propertyName "_A..B1-" = "ab1") ∧
      Spelling [a, b] "aB1".toList ∧ className "aB1" = "AB1" ∧ propertyName "aB1" = "ab1" := by
  intro a b
  have hwords : 2 ≤ [a, b].length := by decide
  have hlast : Spaced [b.write .upper] "B1-".toList :=
    .last ['B', '1'] (show IsGap ['-'] by decide)
  have hpieces : Spaced ([a, b].map (·.write .upper)) "A..B1-".toList :=
    .cons ['A'] (show IsGap ['.', '.'] by decide) (by decide) hlast
  have hshouted : Spelling [a, b] "_A..B1-".toList :=
    .spaced .upper (show IsGap ['_'] by decide) hpieces
  have hcamel : Spelling [a, b] "aB1".toList := .camel a [b]
  exact ⟨hwords, ⟨hshouted, names_of_spelling hwords hshouted⟩, hcamel,
    names_of_spelling hwords hcamel⟩

end EntityGen.Identifier
