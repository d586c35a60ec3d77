import EntityGen.Proofs.Identifier.Characters
import EntityGen.Proofs.Identifier.Idempotence
import EntityGen.Settings

/-!
# Which generated names Java takes

The names of classes and properties of ASCII names, and the segment that a database adds to a
package, have the form of a Java name. They are no reserved words either, with two exceptions: a name
without letters and digits becomes an underscore, which is reserved, and the segment of a database is
not escaped when it is a reserved word.
-/
namespace EntityGen.Identifier

open EntityGen.Text

theorem reserved_isSegment : ∀ word ∈ reserved, Config.isSegment word.toList = true := by decide

theorem append_underscore_not_reserved : ∀ word ∈ reserved, word ++ "_" ∉ reserved := by
  decide +kernel

/-- Among the reserved words only the underscore begins with one, and none begins with a digit. -/
theorem reserved_first : ∀ word ∈ reserved,
    (word.toList.head? = some '_' → word.toList = ['_']) ∧
      word.toList.head?.all (fun c => !isAsciiDigit c) = true := by
  decide +kernel

theorem isSegment_append {chars back : List Char} (h : Config.isSegment chars = true)
    (hback : back.all Config.isSegmentChar = true) : Config.isSegment (chars ++ back) = true := by
  cases chars with
  | nil => cases h
  | cons c rest =>
    rw [Config.isSegment, Bool.and_eq_true] at h
    rw [List.cons_append, Config.isSegment, h.1, Bool.true_and, List.all_append, h.2, hback]
    rfl

/-- With an underscore in front of a digit or of nothing, segment characters are a segment. -/
theorem isSegment_guarded {chars : List Char} (h : chars.all Config.isSegmentChar = true) :
    Config.isSegment (guarded chars) = true := by
  cases chars with
  | nil => rfl
  | cons c rest =>
    rw [guarded]
    split
    · rw [Config.isSegment, h]
      rfl
    · next hdigit =>
      rw [List.all_cons, Bool.and_eq_true] at h
      rw [Config.isSegment, h.2, Bool.and_true]
      simpa [Config.isSegmentChar, isAsciiAlphanumeric, hdigit] using h.1

theorem guarded_mem_reserved_iff {chars : List Char} (h : chars ≠ []) :
    String.ofList (guarded chars) ∈ reserved ↔ String.ofList chars ∈ reserved := by
  cases chars with
  | nil => exact absurd rfl h
  | cons c rest =>
    rw [guarded]
    split
    · next hdigit =>
      -- no reserved word begins with a digit or with an underscore in front of one
      refine iff_of_false ?_ ?_
      · intro hm
        have hword := (reserved_first _ hm).1 (by rw [String.toList_ofList]; rfl)
        rw [String.toList_ofList] at hword
        cases hword
      · intro hm
        have hfirst := (reserved_first _ hm).2
        rw [String.toList_ofList, List.head?_cons, Option.all_some, hdigit] at hfirst
        cases hfirst
    · rfl

section
variable {name : String} (h : ∀ c ∈ name.toList, isAsciiAlphanumeric c = true)
include h

theorem isSegment_javaName : Config.isSegment (javaName name).toList = true := by
  by_cases hreserved : name ∈ reserved
  · rw [javaName, if_pos (List.contains_iff_mem.mpr hreserved), String.toList_append]
    exact isSegment_append (reserved_isSegment name hreserved) rfl
  · rw [javaName_eq_guarded hreserved]
    apply isSegment_guarded
    rw [List.all_eq_true]
    exact fun c hc => isSegmentChar_of_isAsciiAlphanumeric (h c hc)

/-- Escaping leaves a reserved word only where nothing is escaped. -/
theorem javaName_mem_reserved_iff : javaName name ∈ reserved ↔ name = "" := by
  by_cases hreserved : name ∈ reserved
  · have hne : name ≠ "" := by
      rintro rfl
      exact absurd hreserved (by decide)
    rw [javaName, if_pos (List.contains_iff_mem.mpr hreserved)]
    exact iff_of_false (append_underscore_not_reserved name hreserved) hne
  · have hguarded : javaName name = String.ofList (guarded name.toList) := by
      rw [← javaName_eq_guarded hreserved, String.ofList_toList]
    rw [hguarded]
    constructor
    · intro hm
      by_contra hne
      have hchars : name.toList ≠ [] := fun hnil => hne (String.toList_eq_nil_iff.mp hnil)
      rw [guarded_mem_reserved_iff hchars, String.ofList_toList] at hm
      exact hreserved hm
    · rintro rfl
      decide

end

section
variable {name : String} (h : IsAscii name)
include h

theorem ascii_propertyName : IsAscii (propertyName name) := by
  have hclass : ∀ c ∈ classChars name.toList, c.toNat < 128 := ascii_joinWords h _ _
  intro c hc
  rw [propertyName, String.toList_ofList, propertyChars] at hc
  split at hc
  · cases hchars : classChars name.toList with
    | nil =>
      rw [hchars] at hc
      cases hc
    | cons first rest =>
      rw [hchars] at hc hclass
      obtain ⟨hfirst, hrest⟩ := List.forall_mem_cons.mp hclass
      rw [uncapitalised, lower_of_ascii hfirst] at hc
      rcases List.mem_cons.mp hc with rfl | hlater
      · exact asciiLower_lt hfirst
      · exact hrest c hlater
  · rw [lowercaseFrom_of_ascii [] hclass] at hc
    obtain ⟨d, hd, rfl⟩ := List.mem_map.mp hc
    exact asciiLower_lt (hclass d hd)

/-- The derived names of an ASCII name are made of ASCII letters and digits. -/
theorem isAsciiAlphanumeric_derived :
    (∀ c ∈ (className name).toList, isAsciiAlphanumeric c = true) ∧
      ∀ c ∈ (propertyName name).toList, isAsciiAlphanumeric c = true := by
  have hword : ∀ c : Char, c.toNat < 128 → isAlphanumeric c = true →
      isAsciiAlphanumeric c = true := by
    intro c hc hword
    rwa [isAlphanumeric, if_pos hc] at hword
  constructor
  · intro c hc
    exact hword c (ascii_className h c hc) (words_className_of_ascii h c hc)
  · intro c hc
    exact hword c (ascii_propertyName h c hc) (words_propertyName_of_ascii h c hc).1

theorem className_eq_empty_iff :
    className name = "" ↔ ∀ c ∈ name.toList, isAsciiAlphanumeric c = false := by
  have hkept : className name = "" ↔ name.toList.filter isAlphanumeric = [] := by
    rw [← String.toList_eq_nil_iff, ← List.map_eq_nil_iff (f := asciiLower),
      map_asciiLower_className h, folded, List.map_eq_nil_iff]
  rw [hkept, List.filter_eq_nil_iff]
  refine forall₂_congr fun c hc => ?_
  rw [isAlphanumeric, if_pos (h c hc), Bool.not_eq_true]

omit h in
theorem propertyName_eq_empty_iff : propertyName name = "" ↔ className name = "" := by
  rw [propertyName, className, ofList_eq_iff, ofList_eq_iff]
  constructor
  · intro hproperty
    cases hclass : classChars name.toList with
    | nil => rfl
    | cons c rest =>
      obtain ⟨more, hmore, -⟩ := exists_propertyChars hclass
      obtain ⟨first, others, hlower, -⟩ := exists_lower_head c
      rw [hmore, hlower] at hproperty
      cases hproperty
  · intro hclass
    exact propertyChars_of_nil hclass

end

end EntityGen.Identifier

namespace EntityGen

open Identifier EntityGen.Text

theorem Settings.isSegmentChar_databaseSegment (database : String) :
    (databaseSegment database).all Config.isSegmentChar = true := by
  rw [databaseSegment, List.all_map, List.all_eq_true]
  intro c hc
  have hlower : Config.isSegmentChar (asciiLower c) = Config.isSegmentChar c :=
    apply_asciiLower (by decide) c
  rw [Function.comp_apply, hlower]
  exact (List.mem_filter.mp hc).2

/-- A package takes the segment of a database when it is asked to and the segment is not empty. -/
theorem Settings.packageFor_eq (settings : Settings) (database : String) :
    settings.packageFor database =
      if settings.options.packageIncludesDatabase = true ∧ databaseSegment database ≠ [] then
        settings.packageBase ++ "." ++ String.ofList (guarded (databaseSegment database))
      else settings.packageBase := by
  rw [packageFor]
  cases settings.options.packageIncludesDatabase with
  | false => rfl
  | true =>
    cases databaseSegment database with
    | nil => rfl
    | cons c rest => rfl

/-- The generated names have the form of Java names. Those of an ASCII name are reserved exactly when
nothing is left of the name, and the segment of a database exactly when the letters, digits and
underscores of its name make a reserved word. -/
theorem names_legal_iff {name : String} (hname : IsAscii name) (settings : Settings)
    (database : String) :
    (Config.isSegment (javaClass name).toList = true ∧
      Config.isSegment (javaProperty name).toList = true ∧
      (javaClass name ∈ reserved ↔ ∀ c ∈ name.toList, isAsciiAlphanumeric c = false) ∧
      (javaProperty name ∈ reserved ↔ ∀ c ∈ name.toList, isAsciiAlphanumeric c = false)) ∧
    (((settings.options.packageIncludesDatabase = false ∨
          Settings.databaseSegment database = []) ∧
        settings.packageFor database = settings.packageBase) ∨
      ∃ segment, settings.packageFor database = settings.packageBase ++ "." ++ segment ∧
        Config.isSegment segment.toList = true ∧
        (segment ∈ reserved ↔ String.ofList (Settings.databaseSegment database) ∈ reserved)) := by
  obtain ⟨hclass, hproperty⟩ := isAsciiAlphanumeric_derived hname
  refine ⟨⟨isSegment_javaName hclass, isSegment_javaName hproperty, ?_, ?_⟩, ?_⟩
  · rw [javaClass, javaName_mem_reserved_iff hclass, className_eq_empty_iff hname]
  · rw [javaProperty, javaName_mem_reserved_iff hproperty, propertyName_eq_empty_iff,
      className_eq_empty_iff hname]
  · rw [settings.packageFor_eq database]
    by_cases hadded : settings.options.packageIncludesDatabase = true ∧
        Settings.databaseSegment database ≠ []
    · rw [if_pos hadded]
      refine .inr ⟨_, rfl, ?_, guarded_mem_reserved_iff hadded.2⟩
      rw [String.toList_ofList]
      exact isSegment_guarded (Settings.isSegmentChar_databaseSegment database)
    · rw [if_neg hadded]
      refine .inl ⟨?_, rfl⟩
      rw [not_and_or, Bool.not_eq_true, not_not] at hadded
      exact hadded

/-- A property that is a reserved word and a database that begins with a digit are escaped. -/
theorem names_legal_iff_escaped :
    let settings : Settings := ⟨1, false, "com.a", { packageIncludesDatabase := true }⟩
    IsAscii "_class" ∧ javaClass "_class" = "Class" ∧ javaClass "_class" ∉ reserved ∧
      javaProperty "_class" = "class_" ∧ javaProperty "_class" ∉ reserved ∧
      settings.packageFor "2024" = "com.a._2024" ∧
      ∃ segment, settings.packageFor "2024" = settings.packageBase ++ "." ++ segment ∧
        Config.isSegment segment.toList = true ∧ segment ∉ reserved := by
  intro settings
  have hname : IsAscii "_class" := by decide
  have hletter : ¬∀ c ∈ "_class".toList, isAsciiAlphanumeric c = false :=
    fun hnone => absurd (hnone 'c' (by decide)) (by decide)
  obtain ⟨⟨-, -, hclass, hproperty⟩, hpackage⟩ := names_legal_iff hname settings "2024"
  refine ⟨hname, by decide +kernel, hclass.not.mpr hletter, by decide +kernel,
    hproperty.not.mpr hletter, by decide +kernel, ?_⟩
  rcases hpackage with ⟨habsent, -⟩ | ⟨segment, hadded, hform, hreserved⟩
  · exact absurd habsent (by decide)
  · refine ⟨segment, hadded, hform, ?_⟩
    rw [hreserved]
    decide +kernel

/-- A name of one hyphen is usable, and its class and property are an underscore. A database may have
the name of a reserved word, and its segment is that word. -/
theorem names_not_legal :
    let settings : Settings := ⟨1, false, "com.a", { packageIncludesDatabase := true }⟩
    flaw? "-" = none ∧ IsAscii "-" ∧ javaClass "-" = "_" ∧ javaProperty "-" = "_" ∧
      "_" ∈ reserved ∧ isAllBlank "Class" = false ∧
      settings.packageFor "Class" = "com.a" ++ "." ++ "class" ∧ "class" ∈ reserved := by
  decide +kernel

end EntityGen
