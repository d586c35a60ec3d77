import EntityGen.Proofs.Identifier.Folded
import EntityGen.Proofs.Text.CaseForms

/-!
# Deriving a name from a derived name

A class name is its own class name exactly when it holds only letters and numbers. Upper case can
break that: the upper case of `ǰ` is a letter and an accent of its own, the accent separates words,
and the derivation made again drops it. A property name must besides not begin with a sharp s, whose
upper case is two letters.
-/
namespace EntityGen.Identifier

open EntityGen.Text

/-- The first character that joined words have is a letter or number and its own upper case. -/
theorem joinWords_head {shouted : Bool} {name : List Char} {head : Char} {rest : List Char}
    (h : joinWords shouted true name = head :: rest) :
    isAlphanumeric head = true ∧ upper head = [head] := by
  induction name with
  | nil => cases h
  | cons c more ih =>
    rw [joinWords] at h
    split at h
    · next hword =>
      obtain ⟨first, others, hupper⟩ := List.exists_cons_of_ne_nil (upper_ne_nil c)
      rw [if_pos rfl, hupper] at h
      obtain rfl : first = head := (List.cons.inj h).1
      exact ⟨isAlphanumeric_upper_head hword hupper, upper_head hupper⟩
    · exact ih h

/-- Behind its first character a text of letters and numbers is one word and stays as it is. -/
theorem joinWords_of_words {text : List Char} (h : ∀ c ∈ text, isAlphanumeric c = true) :
    joinWords false false text = text := by
  induction text with
  | nil => rfl
  | cons c rest ih =>
    obtain ⟨hc, hrest⟩ := List.forall_mem_cons.mp h
    rw [joinWords, if_pos hc, ih hrest]
    rfl

theorem classChars_of_words {c : Char} {rest : List Char}
    (h : ∀ d ∈ c :: rest, isAlphanumeric d = true) : classChars (c :: rest) = upper c ++ rest := by
  have hseparator : (c :: rest).any (fun d => !isAlphanumeric d) = false := by
    rw [List.any_eq_false]
    intro d hd
    simp [h d hd]
  have hshouted : isShouted (c :: rest) = false := by rw [isShouted, hseparator, Bool.false_and]
  obtain ⟨hc, hrest⟩ := List.forall_mem_cons.mp h
  rw [classChars, hshouted, joinWords, if_pos hc, if_pos rfl, joinWords_of_words hrest]

/-- Lower case that begins as its character does is that character alone. -/
theorem eq_of_lower_append {c : Char} {more rest : List Char} (h : lower c ++ more = c :: rest) :
    more = rest := by
  obtain ⟨first, others, hlower, -⟩ := exists_lower_head c
  rw [hlower] at h
  obtain ⟨rfl, htail⟩ := List.cons.inj h
  rw [lower_eq_cons_self hlower] at htail
  exact htail

/-- Text that joining words leaves as it is has no separator: behind one a letter or number would
come first. -/
theorem words_of_joinWords {shouted : Bool} {text : List Char}
    (h : joinWords shouted false text = text) : ∀ c ∈ text, isAlphanumeric c = true := by
  induction text with
  | nil => exact fun _ hm => nomatch hm
  | cons c rest ih =>
    by_cases hc : isAlphanumeric c = true
    · rw [joinWords, if_pos hc, if_neg Bool.false_ne_true] at h
      have hrest : joinWords shouted false rest = rest := by
        cases shouted with
        | false => exact (List.cons.inj h).2
        | true =>
          rw [if_pos rfl] at h
          exact eq_of_lower_append h
      exact List.forall_mem_cons.mpr ⟨hc, ih hrest⟩
    · rw [joinWords, if_neg hc] at h
      exact absurd (joinWords_head h).1 hc

theorem classChars_idempotent_iff (name : List Char) :
    classChars (classChars name) = classChars name ↔
      ∀ c ∈ classChars name, isAlphanumeric c = true := by
  cases hname : classChars name with
  | nil => exact ⟨fun _ _ hm => (nomatch hm), fun _ => rfl⟩
  | cons head rest =>
    obtain ⟨hword, hupper⟩ := joinWords_head hname
    constructor
    · intro h
      rw [classChars, joinWords, if_pos hword, if_pos rfl, hupper] at h
      have hrest := (List.cons.inj h).2
      exact List.forall_mem_cons.mpr ⟨hword, words_of_joinWords hrest⟩
    · intro h
      rw [classChars_of_words h, hupper]
      rfl

theorem ne_sigma_of_lower {c : Char} (h : lower c = [c]) : c ≠ 'Σ' := by
  rintro rfl
  exact absurd h (by decide)

theorem beq_sigma_of_lower {c : Char} (h : lower c = [c]) : (c == 'Σ') = false :=
  beq_false_of_ne (ne_sigma_of_lower h)

/-- Nothing stands before the first character of a text, so a sigma there is not a final one. -/
theorem lowercaseFrom_head (c : Char) (rest : List Char) :
    lowercaseFrom [] (c :: rest) = lower c ++ lowercaseFrom [c] rest := by
  have hbefore : meetsCased [] = false := rfl
  rw [lowercaseFrom, hbefore, Bool.false_and, if_neg Bool.false_ne_true]
  by_cases hc : c = 'Σ'
  · subst hc
    rfl
  · rw [beq_false_of_ne hc, if_neg Bool.false_ne_true]

/-- Lower case of a text is made of characters that lower case keeps. -/
theorem lower_of_mem_lowercaseFrom {before text : List Char} {d : Char}
    (h : d ∈ lowercaseFrom before text) : lower d = [d] := by
  induction text generalizing before with
  | nil => cases h
  | cons c rest ih =>
    rw [lowercaseFrom, List.mem_append] at h
    rcases h with hform | hrest
    · split at hform
      · split at hform
        · rw [List.mem_singleton.mp hform]
          decide
        · rw [List.mem_singleton.mp hform]
          decide
      · exact lower_of_mem_lower hform
    · exact ih hrest

theorem lowercaseFrom_of_lower {before text : List Char} (h : ∀ d ∈ text, lower d = [d]) :
    lowercaseFrom before text = text := by
  induction text generalizing before with
  | nil => rfl
  | cons c rest ih =>
    obtain ⟨hc, hrest⟩ := List.forall_mem_cons.mp h
    rw [lowercaseFrom, beq_sigma_of_lower hc, if_neg Bool.false_ne_true, hc, ih hrest]
    rfl

/-- Lower case of a text that begins with a letter or number begins with one. -/
theorem exists_lowercaseFrom_head (before : List Char) {c : Char} (rest : List Char)
    (hc : isAlphanumeric c = true) :
    ∃ head others, lowercaseFrom before (c :: rest) = head :: others ∧
      isAlphanumeric head = true := by
  rw [lowercaseFrom]
  split
  · split
    · exact ⟨'ς', _, rfl, by decide⟩
    · exact ⟨'σ', _, rfl, by decide⟩
  · obtain ⟨head, others, hlower, hword⟩ := exists_lower_head c
    rw [hlower]
    exact ⟨head, _, rfl, hword hc⟩

/-- Text that joining words and lower case together leave as it is has no separator either. -/
theorem words_of_lowercaseFrom_joinWords {shouted : Bool} {before text : List Char}
    (h : lowercaseFrom before (joinWords shouted false text) = text) :
    ∀ c ∈ text, isAlphanumeric c = true := by
  induction text generalizing before with
  | nil => exact fun _ hm => nomatch hm
  | cons c rest ih =>
    by_cases hc : isAlphanumeric c = true
    · rw [joinWords, if_pos hc, if_neg Bool.false_ne_true] at h
      have hrest : lowercaseFrom (c :: before) (joinWords shouted false rest) = rest := by
        cases shouted with
        | false =>
          rw [if_neg Bool.false_ne_true, List.singleton_append, lowercaseFrom] at h
          split at h
          · -- a capital sigma becomes a small one wherever it stands
            next hsigma =>
            rw [beq_iff_eq] at hsigma
            subst hsigma
            split at h
            · exact absurd (List.cons.inj h).1 (by decide)
            · exact absurd (List.cons.inj h).1 (by decide)
          · exact eq_of_lower_append h
        | true =>
          obtain ⟨first, others, hlower, -⟩ := exists_lower_head c
          have hfirst : lower first = [first] :=
            lower_of_mem_lower (hlower ▸ List.mem_cons_self)
          rw [if_pos rfl, hlower, List.cons_append, lowercaseFrom, beq_sigma_of_lower hfirst,
            if_neg Bool.false_ne_true, hfirst] at h
          obtain ⟨rfl, htail⟩ := List.cons.inj h
          rw [lower_eq_cons_self hlower] at htail
          exact htail
      exact List.forall_mem_cons.mpr ⟨hc, ih hrest⟩
    · -- what takes the place of a separator begins with a letter or number
      rw [joinWords, if_neg hc] at h
      cases hjoined : joinWords shouted true rest with
      | nil =>
        rw [hjoined] at h
        cases h
      | cons head others =>
        obtain ⟨first, more, hfrom, hword⟩ :=
          exists_lowercaseFrom_head before others (joinWords_head hjoined).1
        rw [hjoined, hfrom] at h
        exact absurd ((List.cons.inj h).1 ▸ hword) hc

/-- The property name of a class name that is not empty is its first character in lower case and
more. -/
theorem exists_propertyChars {name : List Char} {c : Char} {rest : List Char}
    (h : classChars name = c :: rest) :
    ∃ more, propertyChars name = lower c ++ more ∧
      (((c :: rest).any isLowercase = true ∧ more = rest) ∨
        ((c :: rest).any isLowercase = false ∧ more = lowercaseFrom [c] rest)) := by
  rw [propertyChars, h]
  split
  · next hany => exact ⟨rest, rfl, .inl ⟨hany, rfl⟩⟩
  · next hany =>
    exact ⟨_, lowercaseFrom_head c rest, .inr ⟨Bool.eq_false_iff.mpr hany, rfl⟩⟩

theorem propertyChars_of_nil {name : List Char} (h : classChars name = []) :
    propertyChars name = [] := by
  rw [propertyChars, h]
  rfl

theorem propertyChars_ne_sharp {rest : List Char} :
    propertyChars ('ß' :: rest) ≠ 'ß' :: rest := by
  have hword : isAlphanumeric 'ß' = true := by decide
  have hupper : upper 'ß' = ['S', 'S'] := by decide
  have hclass : classChars ('ß' :: rest) =
      'S' :: 'S' :: joinWords (isShouted ('ß' :: rest)) false rest := by
    rw [classChars, joinWords, if_pos hword, if_pos rfl, hupper]
    rfl
  obtain ⟨more, hmore, -⟩ := exists_propertyChars hclass
  have hlower : lower 'S' = ['s'] := by decide
  rw [hmore, hlower]
  intro h
  exact absurd (List.cons.inj h).1 (by decide)

/-- A property name begins with a letter or number that is its own lower case and, the sharp s apart,
comes back from upper case. -/
theorem propertyChars_head {name : List Char} {head : Char} {rest : List Char}
    (h : propertyChars name = head :: rest) :
    isAlphanumeric head = true ∧
      (head = 'ß' ∨ ∃ c, upper head = [c] ∧ lower c = [head]) := by
  cases hclass : classChars name with
  | nil =>
    rw [propertyChars_of_nil hclass] at h
    cases h
  | cons c more =>
    obtain ⟨hword, hupper⟩ := joinWords_head hclass
    obtain ⟨tail, htail, -⟩ := exists_propertyChars hclass
    obtain ⟨first, others, hlower, hfirst⟩ := exists_lower_head c
    rw [htail, hlower] at h
    obtain rfl : first = head := (List.cons.inj h).1
    refine ⟨hfirst hword, (lower_upper_lower hupper hlower).imp_right fun hback => ?_⟩
    obtain ⟨d, hd, hdlower⟩ := List.map_eq_singleton_iff.mp hback
    exact ⟨d, hd, hdlower⟩

/-- Deriving a property name again keeps its first character, unless that is a sharp s. -/
theorem propertyChars_cons {head c : Char} (hhead : isAlphanumeric head = true)
    (hupper : upper head = [c]) (hlower : lower c = [head]) (rest : List Char) :
    propertyChars (head :: rest) = head ::
        joinWords (isShouted (head :: rest)) false rest ∨
      propertyChars (head :: rest) = head ::
        lowercaseFrom [c] (joinWords (isShouted (head :: rest)) false rest) := by
  have hclass : classChars (head :: rest) =
      c :: joinWords (isShouted (head :: rest)) false rest := by
    rw [classChars, joinWords, if_pos hhead, if_pos rfl, hupper]
    rfl
  obtain ⟨more, hmore, ⟨-, rfl⟩ | ⟨-, rfl⟩⟩ := exists_propertyChars hclass
  · rw [hlower] at hmore
    exact .inl hmore
  · rw [hlower] at hmore
    exact .inr hmore

/-- In a property name of letters and numbers, a first character that upper case takes to `c` is
followed by a character of lower case, or is one itself in upper case, or the whole name is in lower
case. -/
theorem lowercase_or_fixed {name : List Char} {head c : Char} {rest : List Char}
    (h : propertyChars name = head :: rest) (hupper : upper head = [c]) :
    (c :: rest).any isLowercase = true ∨ ∀ d ∈ rest, lower d = [d] := by
  cases hclass : classChars name with
  | nil =>
    rw [propertyChars_of_nil hclass] at h
    cases h
  | cons d more =>
    obtain ⟨first, others, hlower, -⟩ := exists_lower_head d
    obtain ⟨tail, htail, hcase⟩ := exists_propertyChars hclass
    rw [h, hlower, List.cons_append] at htail
    obtain ⟨rfl, rfl⟩ := List.cons.inj htail
    rcases hcase with ⟨hany, rfl⟩ | ⟨-, rfl⟩
    · left
      rw [List.any_cons, Bool.or_eq_true] at hany
      rcases hany with hd | hrest
      · have hself := lower_of_isLowercase hd
        obtain ⟨rfl, rfl⟩ := List.cons.inj (hlower.symm.trans hself)
        have hc : c = head := (List.cons.inj (hupper.symm.trans (joinWords_head hclass).2)).1
        rw [List.any_cons, hc, hd, Bool.true_or]
      · rw [List.any_cons, List.any_append, hrest, Bool.or_true, Bool.or_true]
    · right
      intro e he
      rcases List.mem_append.mp he with hother | hfrom
      · exact lower_of_mem_lower (hlower ▸ List.mem_cons_of_mem _ hother)
      · exact lower_of_mem_lowercaseFrom hfrom

theorem propertyChars_idempotent_iff (name : List Char) :
    propertyChars (propertyChars name) = propertyChars name ↔
      (∀ c ∈ propertyChars name, isAlphanumeric c = true) ∧
        (propertyChars name).head? ≠ some 'ß' := by
  cases hname : propertyChars name with
  | nil =>
    exact ⟨fun _ => ⟨fun _ hm => (nomatch hm), fun hsharp => nomatch hsharp⟩, fun _ => rfl⟩
  | cons head rest =>
    obtain ⟨hword, hhead⟩ := propertyChars_head hname
    constructor
    · intro h
      rcases hhead with rfl | ⟨c, hupper, hlower⟩
      · exact absurd h propertyChars_ne_sharp
      · have hrest : ∀ d ∈ rest, isAlphanumeric d = true := by
          rcases propertyChars_cons hword hupper hlower rest with hkept | hlowered
          · exact words_of_joinWords (List.cons.inj (hkept.symm.trans h)).2
          · exact words_of_lowercaseFrom_joinWords (List.cons.inj (hlowered.symm.trans h)).2
        refine ⟨List.forall_mem_cons.mpr ⟨hword, hrest⟩, ?_⟩
        intro hsharp
        obtain rfl : head = 'ß' := Option.some.inj hsharp
        exact absurd h propertyChars_ne_sharp
    · rintro ⟨hwords, hsharp⟩
      obtain ⟨c, hupper, hlower⟩ :=
        hhead.resolve_left fun heq => hsharp (congrArg some heq)
      have hclass : classChars (head :: rest) = c :: rest := by
        rw [classChars_of_words hwords, hupper]
        rfl
      obtain ⟨more, hmore, ⟨-, rfl⟩ | ⟨hany, rfl⟩⟩ := exists_propertyChars hclass
      · rw [hmore, hlower]
        rfl
      · -- the derivation lowers the whole name, which is in lower case already
        have hfixed := (lowercase_or_fixed hname hupper).resolve_left (by simp [hany])
        rw [hmore, hlower, lowercaseFrom_of_lower hfixed]
        rfl

theorem ofList_eq_iff {chars : List Char} {text : String} :
    String.ofList chars = text ↔ chars = text.toList := by
  constructor
  · rintro rfl
    rw [String.toList_ofList]
  · rintro rfl
    rw [String.ofList_toList]

/-- Deriving a name twice is deriving it once exactly when the derived name has no separator left,
and for a property name when it does not begin with a sharp s either. -/
theorem names_idempotent_iff (name : String) :
    (className (className name) = className name ↔
      ∀ c ∈ (className name).toList, isAlphanumeric c = true) ∧
    (propertyName (propertyName name) = propertyName name ↔
      (∀ c ∈ (propertyName name).toList, isAlphanumeric c = true) ∧
        (propertyName name).toList.head? ≠ some 'ß') := by
  have hclass : (className name).toList = classChars name.toList := String.toList_ofList
  have hproperty : (propertyName name).toList = propertyChars name.toList := String.toList_ofList
  constructor
  · rw [className, ofList_eq_iff, hclass]
    exact classChars_idempotent_iff name.toList
  · rw [propertyName, ofList_eq_iff, hproperty]
    exact propertyChars_idempotent_iff name.toList

/-- The accent that the upper case of `ǰ` sets free is dropped when the name is derived again, and a
sharp s at the front of a property name becomes two letters. -/
theorem names_not_idempotent :
    (className "ǰa" = "J\u030Ca" ∧ className (className "ǰa") = "JA" ∧
        className (className "ǰa") ≠ className "ǰa") ∧
      propertyName "ẞa" = "ßa" ∧ propertyName (propertyName "ẞa") = "sSa" ∧
        propertyName (propertyName "ẞa") ≠ propertyName "ẞa" := by
  decide +kernel

section
variable {name : String} (h : IsAscii name)
include h

theorem words_className_of_ascii : ∀ c ∈ (className name).toList, isAlphanumeric c = true := by
  intro c hc
  have hfolded : asciiLower c ∈ folded name := by
    rw [← map_asciiLower_className h]
    exact List.mem_map_of_mem hc
  obtain ⟨d, hd, hcd⟩ := List.mem_map.mp hfolded
  have hword := (List.mem_filter.mp hd).2
  rw [← isAlphanumeric_asciiLower, ← hcd, isAlphanumeric_asciiLower, hword]

theorem words_propertyName_of_ascii :
    ∀ c ∈ (propertyName name).toList, isAlphanumeric c = true ∧ c ≠ 'ß' := by
  have hclass : ∀ c ∈ classChars name.toList, c.toNat < 128 ∧ isAlphanumeric c = true := by
    have hname : (className name).toList = classChars name.toList := String.toList_ofList
    intro c hc
    rw [← hname] at hc
    exact ⟨ascii_className h c hc, words_className_of_ascii h c hc⟩
  have hkept : ∀ {c : Char}, c.toNat < 128 → isAlphanumeric c = true →
      (isAlphanumeric c = true ∧ c ≠ 'ß') ∧
        (isAlphanumeric (asciiLower c) = true ∧ asciiLower c ≠ 'ß') :=
    of_ascii (P := fun c => isAlphanumeric c = true → (isAlphanumeric c = true ∧ c ≠ 'ß') ∧
      (isAlphanumeric (asciiLower c) = true ∧ asciiLower c ≠ 'ß')) (by decide)
  intro d hd
  rw [propertyName, String.toList_ofList, propertyChars] at hd
  split at hd
  · cases hchars : classChars name.toList with
    | nil =>
      rw [hchars] at hd
      cases hd
    | cons c rest =>
      rw [hchars] at hd hclass
      obtain ⟨⟨hc, hword⟩, hrest⟩ := List.forall_mem_cons.mp hclass
      rw [uncapitalised, lower_of_ascii hc] at hd
      rcases List.mem_cons.mp hd with rfl | hlater
      · exact (hkept hc hword).2
      · exact (hkept (hrest d hlater).1 (hrest d hlater).2).1
  · rw [lowercaseFrom_of_ascii [] fun c hc => (hclass c hc).1] at hd
    obtain ⟨c, hc, rfl⟩ := List.mem_map.mp hd
    exact (hkept (hclass c hc).1 (hclass c hc).2).2

/-- For names of ASCII characters deriving a name again changes nothing. -/
theorem names_idempotent_of_ascii :
    className (className name) = className name ∧
      propertyName (propertyName name) = propertyName name := by
  have hclass : (className name).toList = classChars name.toList := String.toList_ofList
  have hproperty : (propertyName name).toList = propertyChars name.toList := String.toList_ofList
  have hwords := words_propertyName_of_ascii h
  constructor
  · rw [className, ofList_eq_iff, hclass, classChars_idempotent_iff, ← hclass]
    exact words_className_of_ascii h
  · rw [propertyName, ofList_eq_iff, hproperty, propertyChars_idempotent_iff, ← hproperty]
    exact ⟨fun c hc => (hwords c hc).1, fun hsharp =>
      (hwords 'ß' (List.mem_of_head? hsharp)).2 rfl⟩

end

end EntityGen.Identifier
