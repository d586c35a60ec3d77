import EntityGen.Entity.Source

/-!
# Reading string literals

The inside of a Java string literal read back, up to the quote that closes it. A text that is written
into a literal is read back as it was, and the quote behind it is the first that closes. The literal
stays on its line, and no backslash of it begins a Unicode escape.
-/
namespace EntityGen.Identifier

/-- The character that an escape stands for. -/
def unescaped? : Char → Option Char
  | '"' => some '"'
  | '\\' => some '\\'
  | 'n' => some '\n'
  | 'r' => some '\r'
  | 't' => some '\t'
  | _ => none

/-- The text of a literal up to its closing quote, and what stands behind the quote. -/
def readLiteral : List Char → Option (List Char × List Char)
  | [] => none
  | '"' :: rest => some ([], rest)
  | '\\' :: escape :: rest => do
    let c ← unescaped? escape
    let (text, behind) ← readLiteral rest
    return (c :: text, behind)
  | c :: rest => do
    let (text, behind) ← readLiteral rest
    return (c :: text, behind)

section
variable {c escape : Char} {rest text behind : List Char}
  (h : readLiteral rest = some (text, behind))
include h

theorem readLiteral_escape (hescape : unescaped? escape = some c) :
    readLiteral ('\\' :: escape :: rest) = some (c :: text, behind) := by
  simp [readLiteral, hescape, h]

theorem readLiteral_plain (hquote : c ≠ '"') (hslash : c ≠ '\\') :
    readLiteral (c :: rest) = some (c :: text, behind) := by
  simp [readLiteral, hslash, h]

end

/-- A character is written as an escape that stands for it, or as itself. -/
theorem literalChars_cons (c : Char) (rest : List Char) :
    (∃ escape, unescaped? escape = some c ∧
        literalChars (c :: rest) = '\\' :: escape :: literalChars rest) ∨
      ((c ≠ '"' ∧ c ≠ '\\' ∧ c ≠ '\n' ∧ c ≠ '\r') ∧
        literalChars (c :: rest) = c :: literalChars rest) := by
  rw [literalChars, List.flatMap_cons, ← literalChars]
  by_cases hquote : c = '"'
  · subst hquote
    exact .inl ⟨'"', rfl, rfl⟩
  by_cases hslash : c = '\\'
  · subst hslash
    exact .inl ⟨'\\', rfl, rfl⟩
  by_cases hfeed : c = '\n'
  · subst hfeed
    exact .inl ⟨'n', rfl, rfl⟩
  by_cases hreturn : c = '\r'
  · subst hreturn
    exact .inl ⟨'r', rfl, rfl⟩
  by_cases htab : c = '\t'
  · subst htab
    exact .inl ⟨'t', rfl, rfl⟩
  refine .inr ⟨⟨hquote, hslash, hfeed, hreturn⟩, ?_⟩
  simp [hquote, hslash, hfeed, hreturn, htab]

theorem readLiteral_literalChars (raw behind : List Char) :
    readLiteral (literalChars raw ++ '"' :: behind) = some (raw, behind) := by
  induction raw with
  | nil => rfl
  | cons c rest ih =>
    obtain ⟨escape, hescape, hform⟩ | ⟨⟨hquote, hslash, -, -⟩, hform⟩ := literalChars_cons c rest
    · rw [hform]
      exact readLiteral_escape ih hescape
    · rw [hform]
      exact readLiteral_plain ih hquote hslash

/-- No escape is a line end, and none is the letter of a Unicode escape. -/
theorem ne_of_unescaped? {escape c : Char} (h : unescaped? escape = some c) :
    escape ≠ '\n' ∧ escape ≠ '\r' ∧ escape ≠ 'u' := by
  refine ⟨?_, ?_, ?_⟩
  all_goals
    rintro rfl
    cases h

theorem lineEnd_not_mem_literalChars (raw : List Char) :
    '\n' ∉ literalChars raw ∧ '\r' ∉ literalChars raw := by
  induction raw with
  | nil => exact ⟨List.not_mem_nil, List.not_mem_nil⟩
  | cons c rest ih =>
    obtain ⟨escape, hescape, hform⟩ | ⟨⟨-, -, hfeed, hreturn⟩, hform⟩ := literalChars_cons c rest
    · obtain ⟨hfeed, hreturn, -⟩ := ne_of_unescaped? hescape
      rw [hform]
      simp [ih, hfeed.symm, hreturn.symm]
    · rw [hform]
      simp [ih, hfeed.symm, hreturn.symm]

/-- The number of backslashes that a text ends in. -/
def trailingBackslashes (text : List Char) : Nat := (text.reverse.takeWhile (· == '\\')).length

/-- What stands in front of another character does not count. -/
theorem trailingBackslashes_append {c : Char} (h : c ≠ '\\') (front text : List Char) :
    trailingBackslashes (front ++ c :: text) = trailingBackslashes text := by
  have hstop : (c :: front.reverse).takeWhile (· == '\\') = [] := by simp [h]
  have hreverse : (front ++ c :: text).reverse = text.reverse ++ c :: front.reverse := by simp
  rw [trailingBackslashes, hreverse, List.takeWhile_append, hstop, List.append_nil]
  split
  · next hall => rw [trailingBackslashes, hall]
  · rfl

/-- Two backslashes in front of a text keep it even or odd: they count both or neither. -/
theorem trailingBackslashes_pair (text : List Char) :
    trailingBackslashes ('\\' :: '\\' :: text) % 2 = trailingBackslashes text % 2 := by
  have hpair : ['\\', '\\'].takeWhile (· == '\\') = ['\\', '\\'] := rfl
  rw [trailingBackslashes, List.reverse_cons, List.reverse_cons, List.append_assoc,
    List.singleton_append, List.takeWhile_append, hpair]
  split
  · next hall =>
    rw [trailingBackslashes, hall, List.length_append]
    exact Nat.add_mod_right _ 2
  · rfl

/-- A backslash of a literal that stands before a `u` is the second of a pair. -/
theorem odd_trailingBackslashes {raw front back : List Char}
    (h : literalChars raw = front ++ '\\' :: 'u' :: back) :
    trailingBackslashes front % 2 = 1 := by
  -- on the characters of the text, each of which comes off the front as a whole or ends in the split
  induction raw generalizing front with
  | nil => simp [literalChars] at h
  | cons c rest ih =>
    obtain ⟨escape, hescape, hform⟩ | ⟨⟨-, hslash, -, -⟩, hform⟩ := literalChars_cons c rest
    · rw [hform] at h
      match front, h with
      | [], h =>
        obtain ⟨rfl, -⟩ := List.cons.inj (List.cons.inj h).2
        exact absurd rfl (ne_of_unescaped? hescape).2.2
      | [first], h =>
        obtain rfl := (List.cons.inj h).1
        rfl
      | first :: second :: front, h =>
        obtain ⟨rfl, htail⟩ := List.cons.inj h
        obtain ⟨rfl, hrest⟩ := List.cons.inj htail
        by_cases hpair : escape = '\\'
        · rw [hpair, trailingBackslashes_pair]
          exact ih hrest
        · exact (trailingBackslashes_append hpair ['\\'] front) ▸ ih hrest
    · rw [hform] at h
      cases front with
      | nil => exact absurd (List.cons.inj h).1 hslash
      | cons first front =>
        obtain ⟨rfl, hrest⟩ := List.cons.inj h
        exact (trailingBackslashes_append hslash [] front) ▸ ih hrest

/-- A literal ends at the quote that is written behind it and is read as the text it was made of,
whatever follows. It holds no line end, and every backslash of it that stands before a `u` has an odd
number of backslashes directly before it and so begins no Unicode escape. -/
theorem literal_delimits_itself (raw : String) (rest : List Char) :
    readLiteral ((literal raw).toList ++ '"' :: rest) = some (raw.toList, rest) ∧
      ('\n' ∉ (literal raw).toList ∧ '\r' ∉ (literal raw).toList) ∧
      ∀ front back, (literal raw).toList = front ++ '\\' :: 'u' :: back →
        trailingBackslashes front % 2 = 1 := by
  have hliteral : (literal raw).toList = literalChars raw.toList := String.toList_ofList
  rw [hliteral]
  exact ⟨readLiteral_literalChars raw.toList rest, lineEnd_not_mem_literalChars raw.toList,
    fun _ _ => odd_trailingBackslashes⟩

/-- Text that ends in a backslash behind a quote and what looks like a Unicode escape. -/
example :
    (literal "\"\\u0022\\").toList = ['\\', '"', '\\', '\\', 'u', '0', '0', '2', '2', '\\', '\\'] ∧
      readLiteral ((literal "\"\\u0022\\").toList ++ ['"', ')']) = some ("\"\\u0022\\".toList, [')']) := by
  decide

end EntityGen.Identifier
