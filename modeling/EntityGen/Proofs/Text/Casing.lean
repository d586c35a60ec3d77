import EntityGen.Text.Casing

/-!
# Case mappings and the case of ASCII letters

Lower case does not see the case of ASCII letters, wherever they stand in a text. In a text of ASCII
characters the mappings are the ones of ASCII, character by character.
-/
namespace EntityGen.Text

theorem exists_of_isAsciiUpper {c : Char} (h : isAsciiUpper c = true) :
    ∃ i : Fin 26, c = Char.ofNat (65 + i) := by
  rw [isAsciiUpper, Bool.and_eq_true, decide_eq_true_iff, decide_eq_true_iff] at h
  have hlow : 65 ≤ c.toNat := h.1
  have hhigh : c.toNat ≤ 90 := h.2
  refine ⟨⟨c.toNat - 65, by omega⟩, ?_⟩
  rw [Nat.add_sub_cancel' hlow, Char.ofNat_toNat]

/-- A function that takes every capital letter of ASCII for its small letter does so for every
character. -/
theorem apply_asciiLower {α : Type} {f : Char → α}
    (h : ∀ i : Fin 26, f (Char.ofNat (97 + i)) = f (Char.ofNat (65 + i))) (c : Char) :
    f (asciiLower c) = f c := by
  cases hc : isAsciiUpper c with
  | false => rw [asciiLower, hc, if_neg Bool.false_ne_true]
  | true =>
    obtain ⟨i, rfl⟩ := exists_of_isAsciiUpper hc
    have hlower : ∀ i : Fin 26, asciiLower (Char.ofNat (65 + i)) = Char.ofNat (97 + i) := by decide
    rw [hlower, h]

theorem lower_asciiLower (c : Char) : lower (asciiLower c) = lower c :=
  apply_asciiLower (by decide) c

theorem isCased_asciiLower (c : Char) : isCased (asciiLower c) = isCased c :=
  apply_asciiLower (by decide) c

theorem isCaseIgnorable_asciiLower (c : Char) :
    isCaseIgnorable (asciiLower c) = isCaseIgnorable c :=
  apply_asciiLower (by decide) c

theorem isAlphanumeric_asciiLower (c : Char) :
    isAlphanumeric (asciiLower c) = isAlphanumeric c :=
  apply_asciiLower (by decide) c

theorem beq_sigma_asciiLower (c : Char) : (asciiLower c == 'Σ') = (c == 'Σ') :=
  apply_asciiLower (f := (· == 'Σ')) (by decide) c

theorem meetsCased_map_asciiLower (text : List Char) :
    meetsCased (text.map asciiLower) = meetsCased text := by
  induction text with
  | nil => rfl
  | cons c rest ih =>
    rw [meetsCased, meetsCased, List.map_cons, List.dropWhile_cons, List.dropWhile_cons,
      isCaseIgnorable_asciiLower]
    cases isCaseIgnorable c with
    | true => exact ih
    | false => exact isCased_asciiLower c

/-- Lower case, with the final sigma and all, does not see the case of ASCII letters. -/
theorem lowercaseFrom_map_asciiLower (before text : List Char) :
    lowercaseFrom (before.map asciiLower) (text.map asciiLower) = lowercaseFrom before text := by
  induction text generalizing before with
  | nil => rfl
  | cons c rest ih =>
    rw [List.map_cons, lowercaseFrom, lowercaseFrom, beq_sigma_asciiLower,
      meetsCased_map_asciiLower, meetsCased_map_asciiLower, lower_asciiLower, ← List.map_cons, ih]

theorem lowercase_congr {a b : String}
    (h : a.toList.map asciiLower = b.toList.map asciiLower) : lowercase a = lowercase b := by
  have hfrom := congrArg (lowercaseFrom ([].map asciiLower)) h
  rw [lowercaseFrom_map_asciiLower, lowercaseFrom_map_asciiLower] at hfrom
  rw [lowercase, lowercase, hfrom]

/-- What holds of the characters of the first 128 numbers holds of every ASCII character. -/
theorem of_ascii {P : Char → Prop} (h : ∀ code : Fin 128, P (Char.ofNat code)) {c : Char}
    (hc : c.toNat < 128) : P c := by
  have hp := h ⟨c.toNat, hc⟩
  rwa [Char.ofNat_toNat] at hp

/-- What is said of the characters of a text is decided along the text: there are too many characters
to go through all of them. -/
instance decidableForallMem (P : Char → Prop) [DecidablePred P] (text : List Char) :
    Decidable (∀ c ∈ text, P c) :=
  List.decidableBAll P text

/-- A text of ASCII characters. -/
def IsAscii (text : String) : Prop := ∀ c ∈ text.toList, c.toNat < 128

instance (text : String) : Decidable (IsAscii text) :=
  List.decidableBAll (fun c : Char => c.toNat < 128) text.toList

theorem lower_of_ascii {c : Char} (h : c.toNat < 128) : lower c = [asciiLower c] := if_pos h

theorem upper_of_ascii {c : Char} (h : c.toNat < 128) : upper c = [asciiUpper c] := if_pos h

theorem asciiLower_lt {c : Char} (h : c.toNat < 128) : (asciiLower c).toNat < 128 :=
  of_ascii (P := fun c => (asciiLower c).toNat < 128) (by decide) h

theorem asciiUpper_lt {c : Char} (h : c.toNat < 128) : (asciiUpper c).toNat < 128 :=
  of_ascii (P := fun c => (asciiUpper c).toNat < 128) (by decide) h

theorem asciiLower_asciiLower {c : Char} (h : c.toNat < 128) :
    asciiLower (asciiLower c) = asciiLower c :=
  of_ascii (P := fun c => asciiLower (asciiLower c) = asciiLower c) (by decide) h

theorem asciiLower_asciiUpper {c : Char} (h : c.toNat < 128) :
    asciiLower (asciiUpper c) = asciiLower c :=
  of_ascii (P := fun c => asciiLower (asciiUpper c) = asciiLower c) (by decide) h

/-- In an ASCII text no sigma takes another form, so every character is mapped on its own. -/
theorem lowercaseFrom_of_ascii (before : List Char) {text : List Char}
    (h : ∀ c ∈ text, c.toNat < 128) : lowercaseFrom before text = text.map asciiLower := by
  induction text generalizing before with
  | nil => rfl
  | cons c rest ih =>
    obtain ⟨hc, hrest⟩ := List.forall_mem_cons.mp h
    have hsigma : (c == 'Σ') = false := by
      apply beq_false_of_ne
      rintro rfl
      exact absurd hc (by decide)
    rw [lowercaseFrom, hsigma, if_neg Bool.false_ne_true, lower_of_ascii hc, ih (c :: before) hrest]
    rfl

theorem lowercase_of_ascii {text : String} (h : IsAscii text) :
    (lowercase text).toList = text.toList.map asciiLower := by
  rw [lowercase, String.toList_ofList, lowercaseFrom_of_ascii [] h]

theorem isAscii_append {a b : String} (ha : IsAscii a) (hb : IsAscii b) : IsAscii (a ++ b) := by
  intro c hc
  rw [String.toList_append, List.mem_append] at hc
  exact hc.elim (ha c) (hb c)

end EntityGen.Text
