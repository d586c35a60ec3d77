import EntityGen.Proofs.Text.Casing
import EntityGen.Identifier

/-!
# Names without separators and case

What is left of an ASCII name without separators and case. The class name keeps exactly that: words
are joined, letters change their case, and an underscore may come in front. So two names have one
class up to case exactly when the same is left of them.
-/
namespace EntityGen.Identifier

open EntityGen.Text

/-- What is left of a name without separators and case. -/
def folded (name : String) : List Char := (name.toList.filter isAlphanumeric).map asciiLower

section
variable {name : List Char} (h : ∀ c ∈ name, c.toNat < 128) (shouted fresh : Bool)
include h

/-- Joining words drops what separates them and changes nothing else but case. -/
theorem map_asciiLower_joinWords :
    (joinWords shouted fresh name).map asciiLower =
      (name.filter isAlphanumeric).map asciiLower := by
  induction name generalizing fresh with
  | nil => rfl
  | cons c rest ih =>
    obtain ⟨hc, hrest⟩ := List.forall_mem_cons.mp h
    rw [joinWords]
    by_cases hword : isAlphanumeric c
    · have hfirst : (if fresh then upper c else if shouted then lower c else [c]).map asciiLower =
          [asciiLower c] := by
        split
        · rw [upper_of_ascii hc, List.map_singleton, asciiLower_asciiUpper hc]
        · split
          · rw [lower_of_ascii hc, List.map_singleton, asciiLower_asciiLower hc]
          · rfl
      rw [if_pos hword, List.map_append, hfirst, ih hrest false, List.filter_cons_of_pos hword]
      rfl
    · rw [if_neg hword, List.filter_cons_of_neg hword, ih hrest true]

theorem ascii_joinWords : ∀ c ∈ joinWords shouted fresh name, c.toNat < 128 := by
  induction name generalizing fresh with
  | nil => exact fun _ hm => nomatch hm
  | cons c rest ih =>
    obtain ⟨hc, hrest⟩ := List.forall_mem_cons.mp h
    intro d hd
    rw [joinWords] at hd
    split at hd
    · rcases List.mem_append.mp hd with hfirst | hlater
      · split at hfirst
        · rw [upper_of_ascii hc, List.mem_singleton] at hfirst
          exact hfirst ▸ asciiUpper_lt hc
        · split at hfirst
          · rw [lower_of_ascii hc, List.mem_singleton] at hfirst
            exact hfirst ▸ asciiLower_lt hc
          · exact List.mem_singleton.mp hfirst ▸ hc
      · exact ih hrest false d hlater
    · exact ih hrest true d hd

/-- Joined words begin with a letter or a number in upper case. -/
theorem exists_head_joinWords {first : Char} {rest : List Char}
    (hjoined : joinWords shouted true name = first :: rest) :
    ∃ c, c.toNat < 128 ∧ isAlphanumeric c = true ∧ first = asciiUpper c := by
  induction name with
  | nil => cases hjoined
  | cons c more ih =>
    obtain ⟨hc, hmore⟩ := List.forall_mem_cons.mp h
    rw [joinWords] at hjoined
    split at hjoined
    · next hword =>
      rw [if_pos rfl, upper_of_ascii hc] at hjoined
      exact ⟨c, hc, hword, (List.cons.inj hjoined).1.symm⟩
    · exact ih hmore hjoined

end

variable {name : String}

theorem map_asciiLower_className (h : IsAscii name) :
    (className name).toList.map asciiLower = folded name := by
  rw [className, String.toList_ofList]
  exact map_asciiLower_joinWords h _ _

theorem reserved_head : ∀ word ∈ reserved,
    word.toList.head?.any (fun c => isAsciiLower c || c == '_') = true := by
  decide

/-- Reserved words begin with a small letter or an underscore, and class names do not. -/
theorem className_not_reserved (h : IsAscii name) : className name ∉ reserved := by
  intro hreserved
  obtain ⟨c, hc, hlow⟩ := (Option.any_eq_true _ _).mp (reserved_head _ hreserved)
  rw [className, String.toList_ofList] at hc
  obtain ⟨rest, hrest⟩ := List.head?_eq_some_iff.mp hc
  obtain ⟨d, hd, hword, rfl⟩ := exists_head_joinWords h _ hrest
  exact of_ascii (P := fun d => isAlphanumeric d = true →
    ¬(isAsciiLower (asciiUpper d) || asciiUpper d == '_') = true) (by decide) hd hword hlow

/-- An underscore in front of a digit or of nothing. -/
def guarded : List Char → List Char
  | [] => ['_']
  | c :: rest => if isAsciiDigit c then '_' :: c :: rest else c :: rest

theorem javaName_eq_guarded {name : String} (h : name ∉ reserved) :
    (javaName name).toList = guarded name.toList := by
  rw [javaName, if_neg (by rwa [List.contains_iff_mem])]
  cases hname : name.toList with
  | nil => rw [guarded, String.toList_append, hname]; rfl
  | cons c rest =>
    rw [guarded]
    dsimp only
    split
    · rw [String.toList_append, hname]; rfl
    · exact hname

theorem map_asciiLower_guarded {chars : List Char} (h : ∀ c ∈ chars, c.toNat < 128) :
    (guarded chars).map asciiLower = guarded (chars.map asciiLower) := by
  cases chars with
  | nil => rfl
  | cons c rest =>
    have hdigit : isAsciiDigit (asciiLower c) = isAsciiDigit c :=
      of_ascii (P := fun c => isAsciiDigit (asciiLower c) = isAsciiDigit c) (by decide)
        (h c List.mem_cons_self)
    rw [guarded, List.map_cons, guarded, hdigit]
    split <;> rfl

theorem filter_of_underscore_not_mem {chars : List Char} (h : '_' ∉ chars) :
    chars.filter (· != '_') = chars := by
  rw [List.filter_eq_self]
  intro c hc
  rw [bne_iff_ne]
  rintro rfl
  exact h hc

theorem filter_guarded {chars : List Char} (h : '_' ∉ chars) :
    (guarded chars).filter (· != '_') = chars := by
  have hself := filter_of_underscore_not_mem h
  cases chars with
  | nil => rfl
  | cons c rest =>
    rw [guarded]
    split
    · exact (List.filter_cons_of_neg Bool.false_ne_true).trans hself
    · exact hself

/-- Putting an underscore in front makes no two lists equal that hold none. -/
theorem guarded_inj {a b : List Char} (ha : '_' ∉ a) (hb : '_' ∉ b) :
    guarded a = guarded b ↔ a = b := by
  constructor
  · intro h
    rw [← filter_guarded ha, h, filter_guarded hb]
  · exact congrArg guarded

theorem underscore_not_mem_folded (h : IsAscii name) : '_' ∉ folded name := by
  intro hm
  obtain ⟨c, hc, hlower⟩ := List.mem_map.mp hm
  obtain ⟨hname, hword⟩ := List.mem_filter.mp hc
  exact of_ascii (P := fun c => isAlphanumeric c = true → asciiLower c ≠ '_') (by decide)
    (h c hname) hword hlower

theorem ascii_className (h : IsAscii name) : IsAscii (className name) := by
  intro c hc
  rw [className, String.toList_ofList] at hc
  exact ascii_joinWords h _ _ c hc

theorem ascii_guarded {chars : List Char} (h : ∀ c ∈ chars, c.toNat < 128) :
    ∀ c ∈ guarded chars, c.toNat < 128 := by
  have hunderscore : ('_').toNat < 128 := by decide
  cases chars with
  | nil => exact List.forall_mem_singleton.mpr hunderscore
  | cons c rest =>
    rw [guarded]
    split
    · exact List.forall_mem_cons.mpr ⟨hunderscore, h⟩
    · exact h

theorem toList_javaClass (h : IsAscii name) :
    (javaClass name).toList = guarded (className name).toList :=
  javaName_eq_guarded (className_not_reserved h)

theorem ascii_javaClass (h : IsAscii name) : IsAscii (javaClass name) := by
  rw [IsAscii, toList_javaClass h]
  exact ascii_guarded (ascii_className h)

/-- Without case a class name says what is left of the declared name. -/
theorem map_asciiLower_javaClass (h : IsAscii name) :
    (javaClass name).toList.map asciiLower = guarded (folded name) := by
  rw [toList_javaClass h, map_asciiLower_guarded (ascii_className h), map_asciiLower_className h]

/-- Two ASCII names have one class up to case exactly when the same is left of them. -/
theorem map_asciiLower_javaClass_eq_iff {other : String} (h : IsAscii name)
    (hother : IsAscii other) :
    (javaClass name).toList.map asciiLower = (javaClass other).toList.map asciiLower ↔
      folded name = folded other := by
  rw [map_asciiLower_javaClass h, map_asciiLower_javaClass hother,
    guarded_inj (underscore_not_mem_folded h) (underscore_not_mem_folded hother)]

end EntityGen.Identifier
