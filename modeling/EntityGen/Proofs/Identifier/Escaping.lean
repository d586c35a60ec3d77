import EntityGen.Proofs.Identifier.Characters
import EntityGen.Proofs.Identifier.Folded

/-!
# Escaping keeps derived names apart

No derived name holds an underscore: the words lose their separators, and no case mapping leads to an
underscore. The underscores of an escaped name are therefore the ones that escaping put there, and
without them it is the derived name again. So two derived names that escape alike are one name.
-/
namespace EntityGen.Identifier

open EntityGen.Text

theorem not_inAscii_underscore : ¬InAscii isAsciiAlphanumeric '_' := by decide

theorem underscore_not_mem_className (name : String) : '_' ∉ (className name).toList :=
  fun hm => not_inAscii_underscore (inAscii_className (fun _ => id) name '_' hm)

theorem underscore_not_mem_propertyName (name : String) : '_' ∉ (propertyName name).toList :=
  fun hm => not_inAscii_underscore (inAscii_propertyName (fun _ => id) name '_' hm)

/-- Dropping the underscores takes escaping back. -/
theorem filter_javaName {name : String} (h : '_' ∉ name.toList) :
    (javaName name).toList.filter (· != '_') = name.toList := by
  by_cases hreserved : name ∈ reserved
  · have hbehind : "_".toList.filter (· != '_') = [] := by decide
    rw [javaName, if_pos (List.contains_iff_mem.mpr hreserved), String.toList_append,
      List.filter_append, filter_of_underscore_not_mem h, hbehind, List.append_nil]
  · rw [javaName_eq_guarded hreserved, filter_guarded h]

theorem javaName_inj {a b : String} (ha : '_' ∉ a.toList) (hb : '_' ∉ b.toList) :
    javaName a = javaName b ↔ a = b := by
  constructor
  · intro h
    apply String.toList_inj.mp
    rw [← filter_javaName ha, h, filter_javaName hb]
  · exact congrArg javaName

/-- Two declared names have one property exactly when one property name is derived from them, and
likewise for their classes. -/
theorem escaping_keeps_names_apart (a b : String) :
    (javaName (propertyName a) = javaName (propertyName b) ↔ propertyName a = propertyName b) ∧
      (javaName (className a) = javaName (className b) ↔ className a = className b) :=
  ⟨javaName_inj (underscore_not_mem_propertyName a) (underscore_not_mem_propertyName b),
    javaName_inj (underscore_not_mem_className a) (underscore_not_mem_className b)⟩

/-- Names that are not derived may well escape alike. -/
example : javaName "class" = javaName "class_" := by decide +kernel

end EntityGen.Identifier
