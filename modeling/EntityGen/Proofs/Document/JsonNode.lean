import EntityGen.Document.Json.Text
import EntityGen.Document.Json.Writer
import Mathlib.Data.List.TakeDrop

/-!
# Texts that are read as a node

`Reads` relates a node to the texts that the JSON reader turns into it. There is one lemma for each form
of a node, so the reader never has to be opened again: blanks may stand where the format allows them.
-/
namespace EntityGen.Document.Json

/-- A text of blanks. -/
def Blank (text : List Char) : Prop := ∀ c ∈ text, isSpace c = true

theorem blank_nil : Blank [] := fun _ h => nomatch h

theorem skipSpace_append {blank : List Char} (h : Blank blank) (text : List Char) :
    skipSpace (blank ++ text) = skipSpace text :=
  List.dropWhile_append_of_pos h

theorem skipSpace_cons {c : Char} (h : isSpace c = false) (text : List Char) :
    skipSpace (c :: text) = c :: text :=
  List.dropWhile_cons_of_neg (by rw [h]; exact Bool.false_ne_true)

theorem skipSpace_append_cons {blank : List Char} (h : Blank blank) {c : Char}
    (hc : isSpace c = false) (text : List Char) : skipSpace (blank ++ c :: text) = c :: text := by
  rw [skipSpace_append h, skipSpace_cons hc]

/-- A character that no number goes on with. -/
def closes (c : Char) : Bool := isSpace c || c == ',' || c == ']' || c == '\x7d'

/-- What stands behind a value: nothing, or something that closes it. -/
def Closed (rest : List Char) : Prop := ∀ c ∈ rest.head?, closes c = true

theorem closed_nil : Closed [] := fun _ h => nomatch h

theorem closed_cons {c : Char} (h : closes c = true) (rest : List Char) : Closed (c :: rest) := by
  intro d hd
  rwa [← Option.some.inj hd]

theorem closed_append {blank rest : List Char} (h : Blank blank) (hrest : Closed rest) :
    Closed (blank ++ rest) := by
  cases blank with
  | nil => exact hrest
  | cons c more =>
    refine closed_cons ?_ _
    rw [closes, h c List.mem_cons_self, Bool.true_or, Bool.true_or, Bool.true_or]

theorem ne_of_closes {c d : Char} (hc : closes c = true) (hd : closes d = false) : c ≠ d := by
  rintro rfl
  rw [hc] at hd
  cases hd

/-! ### Numbers -/

theorem isDigit_of_mem_digitsOf {n : Nat} {c : Char} (h : c ∈ Number.digitsOf n) :
    isDigit c = true := by
  have hdigit := Nat.isDigit_of_mem_toDigits (by decide) (by decide) h
  rw [isDigit, Bool.and_eq_true, decide_eq_true_eq, decide_eq_true_eq]
  rw [Char.isDigit, Bool.and_eq_true, decide_eq_true_eq, decide_eq_true_eq] at hdigit
  exact hdigit

theorem isDigit_of_closes {c : Char} (h : closes c = true) : isDigit c = false := by
  rw [← Bool.not_eq_true]
  intro hdigit
  simp only [closes, isSpace, Bool.or_eq_true, beq_iff_eq] at h
  obtain (((((rfl | rfl) | rfl) | rfl) | rfl) | rfl) | rfl := h <;> revert hdigit <;> decide

theorem isSpace_of_isDigit {c : Char} (h : isDigit c = true) : isSpace c = false := by
  rw [← Bool.not_eq_true]
  intro hspace
  have hcloses : closes c = true := by
    rw [closes, hspace, Bool.true_or, Bool.true_or, Bool.true_or]
  rw [isDigit_of_closes hcloses] at h
  cases h

theorem digits_append {whole rest : List Char} (hwhole : ∀ c ∈ whole, isDigit c = true)
    (hrest : Closed rest) : digits (whole ++ rest) = (whole, rest) := by
  rw [digits, List.span_eq_takeWhile_dropWhile, List.takeWhile_append_of_pos hwhole,
    List.dropWhile_append_of_pos hwhole]
  cases rest with
  | nil => rw [List.takeWhile_nil, List.dropWhile_nil, List.append_nil]
  | cons c more =>
    have hc : ¬isDigit c = true := by
      rw [isDigit_of_closes (hrest c rfl)]
      exact Bool.false_ne_true
    rw [List.takeWhile_cons_of_neg hc, List.dropWhile_cons_of_neg hc, List.append_nil]

theorem naturalOf_digitsOf (n : Nat) : naturalOf (Number.digitsOf n) = n := by
  have h := Nat.ofDigitChars_toDigits (n := n) (b := 10) (by decide) (by decide)
  rw [Nat.ofDigitChars_eq_foldl] at h
  simp only [Nat.mul_comm 10] at h
  exact h

/-- Only zero has a zero in front. -/
theorem eq_zero_of_head?_digitsOf {n : Nat} (h : (Number.digitsOf n).head? = some '0') : n = 0 := by
  induction n using Nat.strongRecOn with
  | ind n ih =>
    rcases Nat.lt_or_ge n 10 with hlt | hge
    · rw [Number.digitsOf, Nat.toDigits_of_lt_base hlt] at h
      have hall : ∀ d < 10, Nat.digitChar d = '0' → d = 0 := by decide
      exact hall n hlt (Option.some.inj h)
    · rw [Number.digitsOf, Nat.toDigits_of_base_le (by decide) hge, ← Number.digitsOf] at h
      cases hfront : Number.digitsOf (n / 10) with
      | nil => exact absurd hfront Nat.toDigits_ne_nil
      | cons d more =>
        rw [hfront] at h
        have hzero := ih (n / 10) (by omega) (by rw [hfront]; exact h)
        omega

theorem numberExponent_of_closed {rest : List Char} (h : Closed rest) (negative : Bool)
    (whole : List Char) (fraction : Option (List Char)) :
    numberExponent negative whole fraction rest =
      (.number (numberValue? negative whole fraction none), .ok rest) := by
  cases rest with
  | nil => rfl
  | cons c more =>
    have hc := h c rfl
    have he : c ≠ 'e' := ne_of_closes hc (by decide)
    have hE : c ≠ 'E' := ne_of_closes hc (by decide)
    unfold numberExponent
    split <;> simp_all

theorem numberValue?_digitsOf {n : Nat} (h : n ≤ maxWord) :
    numberValue? false (Number.digitsOf n) none none = some (.natural n) := by
  rw [numberValue?, naturalOf_digitsOf]
  simp [h]

theorem numberNode_digitsOf {n : Nat} (h : n ≤ maxWord) {rest : List Char} (hrest : Closed rest) :
    numberNode false (Number.digitsOf n ++ rest) = (ofNat n, .ok rest) := by
  have hzero : ((Number.digitsOf n).head? == some '0' && (Number.digitsOf n).length != 1) = false := by
    rw [Bool.and_eq_false_iff]
    by_cases hn : n = 0
    · rw [hn]
      exact .inr rfl
    · exact .inl (beq_eq_false_iff_ne.mpr fun hhead => hn (eq_zero_of_head?_digitsOf hhead))
  have hvalue := numberExponent_of_closed hrest false (Number.digitsOf n) none
  rw [numberValue?_digitsOf h] at hvalue
  rw [numberNode, digits_append (fun c hc => isDigit_of_mem_digitsOf hc) hrest]
  cases hdigits : Number.digitsOf n with
  | nil => exact absurd hdigits Nat.toDigits_ne_nil
  | cons d more =>
    rw [hdigits] at hzero hvalue
    dsimp only
    rw [hzero, if_neg Bool.false_ne_true]
    split
    · exact absurd rfl (ne_of_closes (hrest '.' rfl) (by decide))
    · exact hvalue

/-! ### Texts -/

theorem unit_control {a b : Nat} (ha : a < 16) (hb : b < 16) (text : List Char) :
    unit ('0' :: '0' :: hexDigit a :: hexDigit b :: text) = .ok (a * 16 + b, text) := by
  have hhex : ∀ d < 16, hexValue? (hexDigit d) = some d := by decide
  have hzero : hexValue? '0' = some 0 := by decide
  simp only [unit, hhex a ha, hhex b hb, hzero]
  simp

/-- A character is read back from the way it is written. -/
theorem textValue_escapedChar (fuel : Nat) (c : Char) (text : List Char) :
    textValue (fuel + 1) (escapedChar c ++ text) = (textValue fuel text).cons c := by
  unfold escapedChar
  -- the seven escapes of one letter
  iterate 7
    split
    · next h =>
      rw [eq_of_beq h]
      rfl
  split
  · next h =>
    -- any other control character is written as a unit
    have hunit := unit_control (a := c.toNat / 16) (b := c.toNat % 16) (by omega) (by omega) text
    rw [Nat.div_add_mod' c.toNat 16] at hunit
    have htrailing : isTrailing c.toNat = false := by
      rw [isTrailing, Bool.and_eq_false_iff, decide_eq_false_iff_not]
      exact .inl (by omega)
    have hleading : isLeading c.toNat = false := by
      rw [isLeading, Bool.and_eq_false_iff, decide_eq_false_iff_not]
      exact .inl (by omega)
    simp only [List.cons_append, List.nil_append, textValue, hunit, htrailing, hleading,
      Bool.false_eq_true, if_false, Char.ofNat_toNat]
  · next hquote hslash _ _ _ _ _ hplain =>
    -- and the rest stands for itself
    rw [beq_iff_eq] at hquote hslash
    rw [List.singleton_append, textValue]
    · rw [if_neg hplain]
    all_goals simp_all

theorem textValue_flatMap {value : List Char} {fuel : Nat} (h : value.length < fuel)
    (rest : List Char) :
    textValue fuel (value.flatMap escapedChar ++ '"' :: rest) = ⟨.ok value, .ok rest⟩ := by
  induction value generalizing fuel with
  | nil =>
    obtain ⟨fuel, rfl⟩ := Nat.exists_eq_add_one_of_ne_zero (Nat.ne_of_gt h)
    rfl
  | cons c more ih =>
    obtain ⟨fuel, rfl⟩ := Nat.exists_eq_add_one_of_ne_zero (Nat.ne_of_gt (Nat.zero_lt_of_lt h))
    rw [List.flatMap_cons, List.append_assoc, textValue_escapedChar,
      ih (Nat.lt_of_succ_lt_succ h)]
    rfl

theorem length_le_flatMap_escapedChar (value : List Char) :
    value.length ≤ (value.flatMap escapedChar).length := by
  have hone : ∀ c, 1 ≤ (escapedChar c).length := by
    intro c
    unfold escapedChar
    repeat' split
    all_goals simp
  induction value with
  | nil => exact Nat.le_refl 0
  | cons c more ih =>
    have hc := hone c
    rw [List.flatMap_cons, List.length_append, List.length_cons]
    omega

theorem textNode_flatMap {value : String} {fuel : Nat}
    (h : (value.toList.flatMap escapedChar).length < fuel) (rest : List Char) :
    textNode fuel (value.toList.flatMap escapedChar ++ '"' :: rest) = (ofString value, .ok rest) := by
  have hlength := length_le_flatMap_escapedChar value.toList
  rw [textNode, textValue_flatMap (by omega)]
  dsimp only
  rw [String.ofList_toList]
  rfl

/-! ### Nodes -/

/-- The text is read as the value, whatever closes it. It does not begin with a blank, and not like the
end of a list. -/
structure Reads (value : Json) (text : List Char) : Prop where
  begins : ∃ c more, text = c :: more ∧ isSpace c = false ∧ c ≠ ']'
  reads : ∀ {fuel : Nat} {rest : List Char}, 2 * text.length ≤ fuel → Closed rest →
    node fuel (text ++ rest) = (value, .ok rest)

/-- The text, up to the bracket at its end, is read as the items of a list. -/
structure ReadsItems (values : List Json) (text : List Char) : Prop where
  begins : ∃ c more, text = c :: more ∧ isSpace c = false ∧ c ≠ ']'
  reads : ∀ {fuel : Nat} (rest : List Char), 2 * text.length ≤ fuel →
    items fuel (text ++ rest) = (values, .ok rest)

/-- The text, from behind the first quote up to the brace at its end, is read as the members of an
object. -/
def ReadsMembers (entries : List (Json × Json)) (text : List Char) : Prop :=
  ∀ {fuel : Nat} (rest : List Char), 2 * text.length ≤ fuel →
    members fuel (text ++ rest) = (entries, .ok rest)

theorem node_append {blank : List Char} (h : Blank blank) (fuel : Nat) (text : List Char) :
    node fuel (blank ++ text) = node fuel text := by
  cases fuel with
  | zero => rw [node, node]
  | succ fuel => rw [node, node, skipSpace_append h]

theorem items_append {blank : List Char} (h : Blank blank) (fuel : Nat) (text : List Char) :
    items fuel (blank ++ text) = items fuel text := by
  cases fuel with
  | zero => rw [items, items]
  | succ fuel => rw [items, items, node_append h]

theorem node_digit {c : Char} (h : isDigit c = true) (fuel : Nat) (text : List Char) :
    node (fuel + 1) (c :: text) = numberNode false (c :: text) := by
  have hne : ∀ d, isDigit d = false → c ≠ d := by
    rintro d hd rfl
    rw [hd] at h
    cases h
  rw [node, skipSpace_cons (isSpace_of_isDigit h)]
  split
  case h_1 he => cases he
  case h_9 he =>
    obtain ⟨rfl, rfl⟩ := List.cons.inj he
    rw [if_pos h]
  -- in between are the words and the marks
  all_goals
    next he => exact absurd (List.cons.inj he).1 (hne _ (by decide))

theorem exists_less {text : List Char} {fuel : Nat} (h : 2 * text.length ≤ fuel) (hne : text ≠ []) :
    ∃ less, fuel = less + 1 := by
  have hlength := List.length_pos_iff.mpr hne
  exact ⟨fuel - 1, by omega⟩

theorem reads_boolean (value : Bool) : Reads (.boolean value) (leafChars (.boolean value)) := by
  cases value with
  | true =>
    refine ⟨⟨'t', ['r', 'u', 'e'], rfl, by decide, by decide⟩, ?_⟩
    intro fuel rest hfuel _
    obtain ⟨fuel, rfl⟩ := exists_less hfuel (List.cons_ne_nil _ _)
    rfl
  | false =>
    refine ⟨⟨'f', ['a', 'l', 's', 'e'], rfl, by decide, by decide⟩, ?_⟩
    intro fuel rest hfuel _
    obtain ⟨fuel, rfl⟩ := exists_less hfuel (List.cons_ne_nil _ _)
    rfl

theorem reads_ofNat {n : Nat} (h : n ≤ maxWord) : Reads (ofNat n) (Number.digitsOf n) := by
  cases hdigits : Number.digitsOf n with
  | nil => exact absurd hdigits Nat.toDigits_ne_nil
  | cons d more =>
    have hd : isDigit d = true :=
      isDigit_of_mem_digitsOf (n := n) (by rw [hdigits]; exact List.mem_cons_self)
    refine ⟨⟨d, more, rfl, isSpace_of_isDigit hd, ?_⟩, ?_⟩
    · rintro rfl
      revert hd
      decide
    · intro fuel rest hfuel hrest
      obtain ⟨fuel, rfl⟩ := exists_less hfuel (List.cons_ne_nil _ _)
      rw [List.cons_append, node_digit hd, ← List.cons_append, ← hdigits,
        numberNode_digitsOf h hrest]

theorem reads_ofString (value : String) : Reads (ofString value) (textChars value.toList) := by
  refine ⟨⟨'"', _, rfl, by decide, by decide⟩, ?_⟩
  intro fuel rest hfuel _
  obtain ⟨fuel, rfl⟩ := exists_less hfuel (List.cons_ne_nil _ _)
  rw [textChars, List.length_cons, List.length_append, List.length_singleton] at hfuel
  rw [textChars, List.cons_append, List.append_assoc, node, skipSpace_cons (by decide)]
  exact textNode_flatMap (by omega) rest

theorem ReadsItems.last {value : Json} {text after : List Char} (h : Reads value text)
    (hafter : Blank after) : ReadsItems [value] (text ++ (after ++ [']'])) := by
  obtain ⟨c, more, rfl, hspace, hne⟩ := h.begins
  refine ⟨⟨c, _, rfl, hspace, hne⟩, ?_⟩
  intro fuel rest hfuel
  obtain ⟨fuel, rfl⟩ := exists_less hfuel (List.cons_ne_nil _ _)
  simp only [List.length_append, List.length_cons] at hfuel
  have hclosed : Closed (after ++ ']' :: rest) := closed_append hafter (closed_cons (by decide) rest)
  have htext : c :: more ++ (after ++ [']']) ++ rest = c :: more ++ (after ++ ']' :: rest) := by
    simp
  rw [htext, items, h.reads (by rw [List.length_cons]; omega) hclosed]
  dsimp only
  rw [skipSpace_append_cons hafter (by decide)]
  rfl

theorem ReadsItems.cons {value : Json} {values : List Json} {text after gap more : List Char}
    (h : Reads value text) (hafter : Blank after) (hgap : Blank gap)
    (hmore : ReadsItems values more) :
    ReadsItems (value :: values) (text ++ (after ++ ',' :: (gap ++ more))) := by
  obtain ⟨c, tail, rfl, hspace, hne⟩ := h.begins
  refine ⟨⟨c, _, rfl, hspace, hne⟩, ?_⟩
  intro fuel rest hfuel
  obtain ⟨fuel, rfl⟩ := exists_less hfuel (List.cons_ne_nil _ _)
  simp only [List.length_append, List.length_cons] at hfuel
  have hclosed : Closed (after ++ ',' :: (gap ++ more ++ rest)) :=
    closed_append hafter (closed_cons (by decide) _)
  have htext : c :: tail ++ (after ++ ',' :: (gap ++ more)) ++ rest =
      c :: tail ++ (after ++ ',' :: (gap ++ (more ++ rest))) := by
    simp
  have hnext : items fuel (gap ++ (more ++ rest)) = (values, .ok rest) := by
    rw [items_append hgap, hmore.reads rest (by omega)]
  rw [htext, items, h.reads (by rw [List.length_cons]; omega) (by simpa using hclosed)]
  dsimp only
  rw [skipSpace_append_cons hafter (by decide)]
  simp only [hnext]

theorem reads_array_nil {blank : List Char} (h : Blank blank) :
    Reads (ofList []) ('[' :: (blank ++ [']'])) := by
  refine ⟨⟨'[', _, rfl, by decide, by decide⟩, ?_⟩
  intro fuel rest hfuel _
  obtain ⟨fuel, rfl⟩ := exists_less hfuel (List.cons_ne_nil _ _)
  have hskip := skipSpace_append_cons h (c := ']') (by decide) rest
  rw [List.cons_append, List.append_assoc, node, skipSpace_cons (by decide)]
  simp only [List.singleton_append, hskip]
  rfl

theorem ReadsItems.array {values : List Json} {text blank : List Char} (h : ReadsItems values text)
    (hblank : Blank blank) : Reads (ofList values) ('[' :: (blank ++ text)) := by
  obtain ⟨c, more, rfl, hspace, hne⟩ := h.begins
  refine ⟨⟨'[', _, rfl, by decide, by decide⟩, ?_⟩
  intro fuel rest hfuel _
  obtain ⟨fuel, rfl⟩ := exists_less hfuel (List.cons_ne_nil _ _)
  simp only [List.length_append, List.length_cons] at hfuel
  rw [List.cons_append, List.append_assoc, node, skipSpace_cons (by decide)]
  simp only [List.cons_append, skipSpace_append_cons hblank hspace]
  -- a bracket here would close the list before its first item
  split
  · next he => exact absurd (List.cons.inj he).1 hne
  · next he => cases he
  · rw [← List.cons_append, h.reads rest (by rw [List.length_cons]; omega)]
    rfl

/-- The text of a member from behind its first quote, up to what follows its value. -/
def memberChars (key : String) (before text after : List Char) : List Char :=
  key.toList.flatMap escapedChar ++ '"' :: ':' :: (before ++ (text ++ after))

/-- The key and the value of a member are read one after the other. -/
theorem memberChars_parts (key : String) {value : Json} {before text after rest : List Char}
    (h : Reads value text) (hbefore : Blank before) (hafter : Blank after) (fuel : Nat)
    (hfuel : 2 * (memberChars key before text after).length ≤ fuel) (hrest : Closed rest) :
    textNode fuel (memberChars key before text after ++ rest) =
        (ofString key, .ok (':' :: (before ++ (text ++ (after ++ rest))))) ∧
      node fuel (before ++ (text ++ (after ++ rest))) = (value, .ok (after ++ rest)) := by
  simp only [memberChars, List.length_append, List.length_cons] at hfuel
  have htext : memberChars key before text after ++ rest =
      key.toList.flatMap escapedChar ++
        '"' :: (':' :: (before ++ (text ++ (after ++ rest)))) := by
    simp [memberChars]
  constructor
  · rw [htext, textNode_flatMap (by omega)]
  · rw [node_append hbefore, h.reads (by omega) (closed_append hafter hrest)]

theorem readsMembers_last (key : String) {value : Json} {before text after : List Char}
    (h : Reads value text) (hbefore : Blank before) (hafter : Blank after) :
    ReadsMembers [(ofString key, value)] (memberChars key before text after ++ ['\x7d']) := by
  intro fuel rest hfuel
  obtain ⟨fuel, rfl⟩ := exists_less hfuel (by simp)
  rw [List.length_append, List.length_singleton] at hfuel
  obtain ⟨hkey, hvalue⟩ := memberChars_parts key h hbefore hafter fuel (by omega)
    (closed_cons (c := '\x7d') (by decide) rest)
  have hcolon := skipSpace_cons (c := ':') (by decide)
    (before ++ (text ++ (after ++ '\x7d' :: rest)))
  have hbrace := skipSpace_append_cons hafter (c := '\x7d') (by decide) rest
  rw [List.append_assoc, List.singleton_append, members, hkey]
  simp only [hcolon, hvalue, hbrace]

theorem ReadsMembers.cons (key : String) {value : Json} {entries : List (Json × Json)}
    {before text after gap more : List Char} (h : Reads value text) (hbefore : Blank before)
    (hafter : Blank after) (hgap : Blank gap) (hmore : ReadsMembers entries more) :
    ReadsMembers ((ofString key, value) :: entries)
      (memberChars key before text after ++ ',' :: (gap ++ '"' :: more)) := by
  intro fuel rest hfuel
  obtain ⟨fuel, rfl⟩ := exists_less hfuel (by simp)
  simp only [List.length_append, List.length_cons] at hfuel
  obtain ⟨hkey, hvalue⟩ := memberChars_parts key h hbefore hafter fuel (by omega)
    (closed_cons (c := ',') (by decide) (gap ++ '"' :: (more ++ rest)))
  have hcolon := skipSpace_cons (c := ':') (by decide)
    (before ++ (text ++ (after ++ ',' :: (gap ++ '"' :: (more ++ rest)))))
  have hcomma := skipSpace_append_cons hafter (c := ',') (by decide)
    (gap ++ '"' :: (more ++ rest))
  have hquote := skipSpace_append_cons hgap (c := '"') (by decide) (more ++ rest)
  have hnext : members fuel (more ++ rest) = (entries, .ok rest) := hmore rest (by omega)
  have htext : memberChars key before text after ++ ',' :: (gap ++ '"' :: more) ++ rest =
      memberChars key before text after ++ (',' :: (gap ++ '"' :: (more ++ rest))) := by
    simp
  rw [htext, members, hkey]
  simp only [hcolon, hvalue, hcomma, hquote, hnext]

theorem reads_object_nil {blank : List Char} (h : Blank blank) :
    Reads (ofMembers []) ('\x7b' :: (blank ++ ['\x7d'])) := by
  refine ⟨⟨'\x7b', _, rfl, by decide, by decide⟩, ?_⟩
  intro fuel rest hfuel _
  obtain ⟨fuel, rfl⟩ := exists_less hfuel (List.cons_ne_nil _ _)
  have hskip := skipSpace_append_cons h (c := '\x7d') (by decide) rest
  rw [List.cons_append, List.append_assoc, node, skipSpace_cons (by decide)]
  simp only [List.singleton_append, hskip]
  rfl

theorem ReadsMembers.object {entries : List (Json × Json)} {text blank : List Char}
    (h : ReadsMembers entries text) (hblank : Blank blank) :
    Reads (.object entries none) ('\x7b' :: (blank ++ '"' :: text)) := by
  refine ⟨⟨'\x7b', _, rfl, by decide, by decide⟩, ?_⟩
  intro fuel rest hfuel _
  obtain ⟨fuel, rfl⟩ := exists_less hfuel (List.cons_ne_nil _ _)
  simp only [List.length_append, List.length_cons] at hfuel
  have hquote := skipSpace_append_cons hblank (c := '"') (by decide) (text ++ rest)
  have hmembers : members fuel (text ++ rest) = (entries, .ok rest) := h rest (by omega)
  rw [List.cons_append, List.append_assoc, node, skipSpace_cons (by decide)]
  simp only [List.cons_append, hquote, hmembers]

/-! ### Whole texts -/

/-- A text that is read as a node is the whole text of it. -/
theorem Reads.ofString {value : Json} {text : List Char} (h : Reads value text) :
    JsonText.ofString (String.ofList text) = ⟨value, false⟩ := by
  have hnode := h.reads (Nat.le_add_right (2 * text.length) 2) closed_nil
  rw [List.append_nil] at hnode
  simp only [JsonText.ofString, String.toList_ofList, hnode]
  rfl

end EntityGen.Document.Json
