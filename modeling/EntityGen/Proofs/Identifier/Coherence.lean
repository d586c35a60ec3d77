import EntityGen.Proofs.Identifier.Idempotence

/-!
# Class names and property names of one name

The class name and the property name of an ASCII name say the same. The property name can be derived
from the class name, and the class name from the property name if it has a lower-case letter. Both
keep the letters and digits of the name, all of them and in their order, and change only their case.
-/
namespace EntityGen.Identifier

open EntityGen.Text

/-- The property name goes by the class name, so a class name that is its own has the property name of
the declared name. -/
theorem propertyChars_classChars {name : List Char}
    (h : classChars (classChars name) = classChars name) :
    propertyChars (classChars name) = propertyChars name := by
  rw [propertyChars, h, propertyChars]

section
variable {name : String} (h : IsAscii name)
include h

theorem classChars_idempotent_of_ascii :
    classChars (classChars name.toList) = classChars name.toList := by
  have hclass : (className name).toList = classChars name.toList := String.toList_ofList
  rw [classChars_idempotent_iff, ← hclass]
  exact words_className_of_ascii h

theorem propertyName_className : propertyName (className name) = propertyName name := by
  rw [propertyName, className, String.toList_ofList,
    propertyChars_classChars (classChars_idempotent_of_ascii h), propertyName]

/-- With a lower-case letter in it, only the first character of a class name is put in lower case, and
that one comes back. -/
theorem className_propertyName
    (hlower : (className name).toList.any isLowercase = true) :
    className (propertyName name) = className name := by
  have hclass : (className name).toList = classChars name.toList := String.toList_ofList
  have hascii := ascii_className h
  have hwords := words_className_of_ascii h
  rw [IsAscii, hclass] at hascii
  rw [hclass] at hwords hlower
  rw [className, className, propertyName, String.toList_ofList, String.ofList_inj]
  cases hchars : classChars name.toList with
  | nil =>
    rw [propertyChars_of_nil hchars]
    rfl
  | cons c rest =>
    rw [hchars] at hascii hwords hlower
    obtain ⟨hc, -⟩ := List.forall_mem_cons.mp hascii
    obtain ⟨hword, hrest⟩ := List.forall_mem_cons.mp hwords
    have hupper : upper c = [c] := (joinWords_head hchars).2
    have hback : upper (asciiLower c) = [c] := by
      rw [← hupper, upper_of_ascii (asciiLower_lt hc), upper_of_ascii hc]
      exact of_ascii (P := fun c => [asciiUpper (asciiLower c)] = [asciiUpper c]) (by decide) hc
    have hproperty : propertyChars name.toList = asciiLower c :: rest := by
      rw [propertyChars, hchars, if_pos hlower, uncapitalised, lower_of_ascii hc]
      rfl
    have hkept : ∀ d ∈ asciiLower c :: rest, isAlphanumeric d = true := by
      refine List.forall_mem_cons.mpr ⟨?_, hrest⟩
      rw [isAlphanumeric_asciiLower, hword]
    rw [hproperty, classChars_of_words hkept, hback]
    rfl

theorem map_asciiLower_propertyName :
    (propertyName name).toList.map asciiLower = folded name := by
  have hclass : (className name).toList = classChars name.toList := String.toList_ofList
  have hascii := ascii_className h
  rw [IsAscii, hclass] at hascii
  rw [← map_asciiLower_className h, hclass, propertyName, String.toList_ofList, propertyChars]
  have htwice : ∀ c ∈ classChars name.toList, asciiLower (asciiLower c) = asciiLower c :=
    fun c hc => asciiLower_asciiLower (hascii c hc)
  split
  · cases hchars : classChars name.toList with
    | nil => rfl
    | cons c rest =>
      rw [hchars] at hascii htwice
      rw [uncapitalised, lower_of_ascii (hascii c List.mem_cons_self), List.singleton_append,
        List.map_cons, List.map_cons, htwice c List.mem_cons_self]
  · rw [lowercaseFrom_of_ascii [] hascii, List.map_map]
    exact List.map_congr_left htwice

/-- The two names derived from an ASCII name lead to each other, the way back from a property name
being open when the class name has a lower-case letter, and without case both are the letters and
digits of the name. -/
theorem names_coherent :
    propertyName (className name) = propertyName name ∧
      ((className name).toList.any isLowercase = true →
        className (propertyName name) = className name) ∧
      (className name).toList.map asciiLower =
        (name.toList.filter isAsciiAlphanumeric).map asciiLower ∧
      (propertyName name).toList.map asciiLower =
        (name.toList.filter isAsciiAlphanumeric).map asciiLower := by
  have hfolded : folded name = (name.toList.filter isAsciiAlphanumeric).map asciiLower := by
    have hsame : ∀ c ∈ name.toList, isAlphanumeric c = isAsciiAlphanumeric c :=
      fun c hc => if_pos (h c hc)
    rw [folded, List.filter_congr hsame]
  rw [← hfolded]
  exact ⟨propertyName_className h, className_propertyName h, map_asciiLower_className h,
    map_asciiLower_propertyName h⟩

end

/-- A digit in front, a run of separators and capitals that are kept. -/
theorem names_coherent_kept :
    IsAscii "2nd..HTTP_log" ∧ (className "2nd..HTTP_log").toList.any isLowercase = true ∧
      propertyName (className "2nd..HTTP_log") = propertyName "2nd..HTTP_log" ∧
      className (propertyName "2nd..HTTP_log") = className "2nd..HTTP_log" ∧
      (propertyName "2nd..HTTP_log").toList.map asciiLower = "2ndhttplog".toList := by
  have hname : IsAscii "2nd..HTTP_log" := by decide
  have hlower : (className "2nd..HTTP_log").toList.any isLowercase = true := by decide +kernel
  obtain ⟨hproperty, hclass, -, hletters⟩ := names_coherent hname
  exact ⟨hname, hlower, hproperty, hclass hlower, hletters.trans (by decide +kernel)⟩

/-- Without a lower-case letter the capitals are lost on the way. -/
example : className "ID" = "ID" ∧ className (propertyName "ID") = "Id" := by decide +kernel

end EntityGen.Identifier
