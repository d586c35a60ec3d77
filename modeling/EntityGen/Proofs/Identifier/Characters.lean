import EntityGen.Config
import EntityGen.Identifier
import EntityGen.Proofs.Text.CaseForms

/-!
# Characters of generated names

A case mapping leads from a letter or number to ASCII letters and digits or out of ASCII. So, whatever
a declared name holds, the ASCII characters of the names derived from it are letters and digits, and
those of its class and of its property are letters, digits and underscores. The name of a class file
is therefore one component of a path.
-/
namespace EntityGen.Identifier

open EntityGen.Text

/-- In ASCII a character of the class. -/
def InAscii (p : Char → Bool) (c : Char) : Prop := c.toNat < 128 → p c = true

instance (p : Char → Bool) : DecidablePred (InAscii p) := fun c =>
  inferInstanceAs (Decidable (c.toNat < 128 → p c = true))

/-- In ASCII a letter, a digit or an underscore. -/
def IsNameChar (c : Char) : Prop := c.toNat < 128 → Config.isSegmentChar c = true

instance : DecidablePred IsNameChar := fun c =>
  inferInstanceAs (Decidable (c.toNat < 128 → Config.isSegmentChar c = true))

theorem not_mem_of_nameChars {text : List Char} (h : ∀ c ∈ text, IsNameChar c) {d : Char}
    (hd : ¬IsNameChar d) : d ∉ text :=
  fun hm => hd (h d hm)

theorem inAscii_upperExpansions : ∀ entry ∈ Casing.upperExpansions, ∀ code ∈ entry.2,
    InAscii isAsciiAlphanumeric (Char.ofNat code) := by
  decide +kernel

section
-- a class that has the letters and digits of ASCII is kept by case mappings
variable {p : Char → Bool} (hp : ∀ c, isAsciiAlphanumeric c = true → p c = true)
include hp

theorem inAscii_of_isAlphanumeric {c : Char} (h : isAlphanumeric c = true) : InAscii p c := by
  intro hc
  rw [isAlphanumeric, if_pos hc] at h
  exact hp c h

theorem InAscii.of_mem_upper {c d : Char} (h : InAscii p c) (hd : d ∈ upper c) : InAscii p d := by
  by_cases hc : c.toNat < 128
  · rw [upper_of_ascii hc, List.mem_singleton] at hd
    rcases of_ascii (P := fun c => asciiUpper c = c ∨ isAsciiAlphanumeric (asciiUpper c) = true)
      (by decide) hc with hself | hletter
    · rwa [hd, hself]
    · rw [hd]
      exact fun _ => hp _ hletter
  · rw [upper, if_neg hc] at hd
    rcases Casing.image_cases Casing.upperExpansions Casing.upperRuns c with
      hself | ⟨codes, hm, hcodes⟩ | ⟨r, hr, k, hk, -, himage⟩
    · rw [hself, List.mem_singleton] at hd
      rwa [hd]
    · rw [hcodes] at hd
      obtain ⟨code, hcode, rfl⟩ := List.mem_map.mp hd
      exact fun hlt => hp _ (inAscii_upperExpansions _ hm code hcode hlt)
    · rw [himage, List.mem_singleton] at hd
      rw [hd]
      exact inAscii_of_isAlphanumeric hp (of_mem_upperHeads (mem_upperHeads_of_run hr hk)).2

theorem InAscii.of_mem_lower {c d : Char} (h : InAscii p c) (hd : d ∈ lower c) : InAscii p d := by
  rcases lower_images c with hself | ⟨-, himage⟩ | ⟨-, code, hcode, himage⟩
  · rw [hself, List.mem_singleton] at hd
    rwa [hd]
  · have hdotted : ∀ c ∈ ['i', '\u0307'], InAscii isAsciiAlphanumeric c := by decide
    rw [himage] at hd
    exact fun hlt => hp d (hdotted d hd hlt)
  · rw [himage, List.mem_singleton] at hd
    rw [hd]
    exact inAscii_of_isAlphanumeric hp (of_mem_lowerImages hcode).2

theorem inAscii_lowercaseFrom (before : List Char) {text : List Char}
    (h : ∀ c ∈ text, InAscii p c) : ∀ d ∈ lowercaseFrom before text, InAscii p d := by
  induction text generalizing before with
  | nil => exact List.forall_mem_nil _
  | cons c rest ih =>
    obtain ⟨hc, hrest⟩ := List.forall_mem_cons.mp h
    rw [lowercaseFrom, List.forall_mem_append]
    refine ⟨?_, ih (c :: before) hrest⟩
    split
    · -- both forms of the small sigma lie outside ASCII
      split
      · exact List.forall_mem_singleton.mpr fun hlt => absurd hlt (by decide)
      · exact List.forall_mem_singleton.mpr fun hlt => absurd hlt (by decide)
    · exact fun d hd => InAscii.of_mem_lower hp hc hd

theorem inAscii_joinWords (shouted fresh : Bool) (name : List Char) :
    ∀ d ∈ joinWords shouted fresh name, InAscii p d := by
  induction name generalizing fresh with
  | nil => exact List.forall_mem_nil _
  | cons c rest ih =>
    rw [joinWords]
    split
    · next hword =>
      have hc := inAscii_of_isAlphanumeric hp hword
      rw [List.forall_mem_append]
      refine ⟨?_, ih false⟩
      split
      · exact fun d hd => InAscii.of_mem_upper hp hc hd
      · split
        · exact fun d hd => InAscii.of_mem_lower hp hc hd
        · exact List.forall_mem_singleton.mpr hc
    · exact ih true

theorem inAscii_className (name : String) : ∀ d ∈ (className name).toList, InAscii p d := by
  rw [className, String.toList_ofList]
  exact inAscii_joinWords hp _ _ _

theorem inAscii_propertyName (name : String) :
    ∀ d ∈ (propertyName name).toList, InAscii p d := by
  have hclass : ∀ c ∈ classChars name.toList, InAscii p c := inAscii_joinWords hp _ _ _
  rw [propertyName, String.toList_ofList, propertyChars]
  split
  · cases hchars : classChars name.toList with
    | nil => exact List.forall_mem_nil _
    | cons c rest =>
      rw [hchars] at hclass
      obtain ⟨hc, hrest⟩ := List.forall_mem_cons.mp hclass
      rw [uncapitalised, List.forall_mem_append]
      exact ⟨fun d hd => InAscii.of_mem_lower hp hc hd, hrest⟩
  · exact inAscii_lowercaseFrom hp [] hclass

end

theorem isSegmentChar_of_isAsciiAlphanumeric {c : Char} (h : isAsciiAlphanumeric c = true) :
    Config.isSegmentChar c = true := by
  rw [Config.isSegmentChar, h, Bool.true_or]

theorem nameChars_javaName {name : String} (h : ∀ c ∈ name.toList, IsNameChar c) :
    ∀ c ∈ (javaName name).toList, IsNameChar c := by
  have hunderscore : ∀ c ∈ "_".toList, IsNameChar c := by decide
  have hfront : ∀ c ∈ ("_" ++ name).toList, IsNameChar c := by
    rw [String.toList_append, List.forall_mem_append]
    exact ⟨hunderscore, h⟩
  unfold javaName
  split
  · rw [String.toList_append, List.forall_mem_append]
    exact ⟨h, hunderscore⟩
  · split
    · split
      · exact hfront
      · exact h
    · exact hfront

theorem nameChars_javaClass (name : String) : ∀ c ∈ (javaClass name).toList, IsNameChar c :=
  nameChars_javaName (inAscii_className (fun _ => isSegmentChar_of_isAsciiAlphanumeric) name)

theorem nameChars_javaProperty (name : String) :
    ∀ c ∈ (javaProperty name).toList, IsNameChar c :=
  nameChars_javaName (inAscii_propertyName (fun _ => isSegmentChar_of_isAsciiAlphanumeric) name)

theorem nameChars_capitalised {name : String} (h : ∀ c ∈ name.toList, IsNameChar c) :
    ∀ c ∈ (capitalised name).toList, IsNameChar c := by
  rw [capitalised]
  cases hname : name.toList with
  | nil => exact List.forall_mem_nil _
  | cons c rest =>
    rw [hname] at h
    obtain ⟨hc, hrest⟩ := List.forall_mem_cons.mp h
    rw [String.toList_ofList, List.forall_mem_append]
    refine ⟨fun d hd => ?_, hrest⟩
    exact InAscii.of_mem_upper (fun _ => isSegmentChar_of_isAsciiAlphanumeric) hc hd

/-- A class name holds no separator, whatever the declared name holds. -/
theorem slash_not_mem_javaClass (name : String) : '/' ∉ (javaClass name).toList :=
  not_mem_of_nameChars (nameChars_javaClass name) (by decide)

end EntityGen.Identifier
