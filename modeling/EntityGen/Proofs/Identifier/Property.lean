import EntityGen.Proofs.Identifier.Legality

/-!
# Property names that class sources give to other members

A property begins in lower case, so what is capitalised can be taken back, the sharp s apart. The names
of the members that a class source has on its own are properties too, and of few class names.
-/
namespace EntityGen.Identifier

open EntityGen.Text

/-- Making a derived name usable puts an underscore in front of it or something behind it. -/
theorem javaName_cases (name : String) :
    (∃ rest, (javaName name).toList = '_' :: rest) ∨
      name ≠ "" ∧ ∃ back, (javaName name).toList = name.toList ++ back := by
  unfold javaName
  split
  · next hreserved =>
    refine .inr ⟨?_, "_".toList, String.toList_append⟩
    rintro rfl
    exact absurd hreserved (by decide)
  · split
    · next c rest hname =>
      split
      · exact .inl ⟨name.toList, String.toList_append⟩
      · refine .inr ⟨?_, [], (List.append_nil _).symm⟩
        rintro rfl
        cases hname
    · exact .inl ⟨name.toList, String.toList_append⟩

/-- A usable name without an underscore at either end was usable before. -/
theorem eq_of_javaName {name text : String} (h : javaName name = text)
    (hfirst : text.toList.head? ≠ some '_') (hlast : text.toList.getLast? ≠ some '_') :
    name = text := by
  have hunderscore : "_".toList = ['_'] := by decide
  rw [← h] at hfirst hlast
  unfold javaName at h hfirst hlast
  split at h
  · next hreserved =>
    rw [if_pos hreserved, String.toList_append, hunderscore, List.getLast?_concat] at hlast
    exact absurd rfl hlast
  · next hreserved =>
    rw [if_neg hreserved] at hfirst
    have hguard : ("_" ++ name).toList.head? = some '_' := by
      rw [String.toList_append, hunderscore]
      rfl
    split at h
    · next c rest hname =>
      rw [hname] at hfirst
      split at h
      · next hdigit =>
        simp only [hdigit, if_true] at hfirst
        exact absurd hguard hfirst
      · exact h
    · next hname =>
      rw [hname] at hfirst
      exact absurd hguard hfirst

/-- A property begins with a sharp s or with a character that comes back from upper case. -/
theorem javaProperty_head (name : String) :
    ∃ head rest, (javaProperty name).toList = head :: rest ∧
      (head = 'ß' ∨ ∃ c, upper head = [c] ∧ lower c = [head]) := by
  rcases javaName_cases (propertyName name) with ⟨rest, hrest⟩ | ⟨hname, back, hback⟩
  · exact ⟨'_', rest, hrest, .inr ⟨'_', by decide, by decide⟩⟩
  · have hchars : (propertyName name).toList = propertyChars name.toList := String.toList_ofList
    cases hproperty : propertyChars name.toList with
    | nil =>
      rw [hproperty, String.toList_eq_nil_iff] at hchars
      exact absurd hchars hname
    | cons head rest =>
      rw [hchars, hproperty] at hback
      exact ⟨head, rest ++ back, hback, (propertyChars_head hproperty).2⟩

/-- Putting the first character in lower case takes a capitalised property back. -/
theorem uncapitalised_capitalised {name : String}
    (h : (javaProperty name).toList.head? ≠ some 'ß') :
    uncapitalised (capitalised (javaProperty name)).toList = (javaProperty name).toList := by
  obtain ⟨head, rest, hproperty, hhead⟩ := javaProperty_head name
  rw [hproperty] at h
  obtain ⟨c, hupper, hlower⟩ := hhead.resolve_left fun hsharp => h (congrArg some hsharp)
  rw [capitalised, hproperty]
  show uncapitalised (String.ofList (upper head ++ rest)).toList = head :: rest
  rw [String.toList_ofList, hupper, List.singleton_append, uncapitalised, hlower]
  rfl

/-- Different properties stay different when they are capitalised. -/
theorem capitalised_inj {a b : String} (ha : (javaProperty a).toList.head? ≠ some 'ß')
    (hb : (javaProperty b).toList.head? ≠ some 'ß')
    (h : capitalised (javaProperty a) = capitalised (javaProperty b)) :
    javaProperty a = javaProperty b := by
  apply String.toList_inj.mp
  rw [← uncapitalised_capitalised ha, h, uncapitalised_capitalised hb]

theorem head_ne_sharp_of_ascii {name : String} (h : IsAscii name) :
    (javaProperty name).toList.head? ≠ some 'ß' := by
  have hform : Config.isSegment (javaProperty name).toList = true :=
    isSegment_javaName (isAsciiAlphanumeric_derived h).2
  intro hsharp
  cases hchars : (javaProperty name).toList with
  | nil =>
    rw [hchars] at hsharp
    cases hsharp
  | cons head rest =>
    rw [hchars] at hsharp hform
    obtain rfl : head = 'ß' := Option.some.inj hsharp
    cases hform

theorem capitalised_ne_class {name : String} (h : IsAscii name) :
    capitalised (javaProperty name) ≠ "Class" := by
  intro hclass
  have hback := uncapitalised_capitalised (head_ne_sharp_of_ascii h)
  have hsmall : uncapitalised "Class".toList = "class".toList := by decide
  rw [hclass, hsmall] at hback
  have hproperty : javaProperty name = "class" := (String.toList_inj.mp hback).symm
  have hreserved : javaProperty name ∈ reserved := by
    rw [hproperty]
    decide
  rw [javaProperty, javaName_mem_reserved_iff (isAsciiAlphanumeric_derived h).2] at hreserved
  rw [javaProperty, hreserved] at hproperty
  exact absurd hproperty (by decide)

theorem lowerRuns_images_ascii :
    ∀ code ∈ Casing.lowerRuns.flatMap Casing.Run.images, code < 128 → code = 107 := by
  decide +kernel

/-- An ASCII character that no lower case of a character outside ASCII begins with. That of the capital
dotted i begins with `i`, and that of the Kelvin sign is `k`. -/
def IsNative (d : Char) : Prop := d.toNat < 128 ∧ d ≠ 'i' ∧ d ≠ 'k'

instance : DecidablePred IsNative := fun d =>
  inferInstanceAs (Decidable (d.toNat < 128 ∧ d ≠ 'i' ∧ d ≠ 'k'))

section
variable {c d : Char} {rest more : List Char} (hd : IsNative d)
include hd

theorem ascii_of_lower (h : lower c = d :: rest) : c.toNat < 128 := by
  obtain ⟨hascii, hdotted, hkelvin⟩ := hd
  rcases lower_cases c with hself | ⟨-, himage⟩ | ⟨hrange, -⟩ | ⟨r, hr, k, hk, -, himage⟩
  · obtain rfl : d = c := (List.cons.inj (h.symm.trans hself)).1
    exact hascii
  · exact absurd (List.cons.inj (h.symm.trans himage)).1 hdotted
  · omega
  · obtain hcode : d = Char.ofNat (r.image + r.stride * k) :=
      (List.cons.inj (h.symm.trans himage)).1
    have hm : r.image + r.stride * k ∈ Casing.lowerRuns.flatMap Casing.Run.images :=
      List.mem_flatMap.mpr ⟨r, hr, r.mem_images hk⟩
    have hnat : d.toNat = r.image + r.stride * k := by
      rw [hcode]
      exact (word_of_range (exists_range_of_masks Casing.tablesFit.lowerImages.2
        (List.mem_append_right _ hm))).1
    refine absurd ?_ hkelvin
    rw [hcode, lowerRuns_images_ascii _ hm (by omega)]

theorem of_lower_append (h : lower c ++ rest = d :: more) :
    c.toNat < 128 ∧ asciiLower c = d ∧ rest = more := by
  obtain ⟨first, others, hlower, -⟩ := exists_lower_head c
  rw [hlower, List.cons_append] at h
  obtain ⟨rfl, htail⟩ := List.cons.inj h
  have hc := ascii_of_lower hd hlower
  rw [lower_of_ascii hc] at hlower
  obtain ⟨hfirst, rfl⟩ := List.cons.inj hlower
  exact ⟨hc, hfirst, htail⟩

theorem of_lowercaseFrom_cons {before : List Char}
    (h : lowercaseFrom before (c :: rest) = d :: more) :
    c.toNat < 128 ∧ asciiLower c = d ∧ lowercaseFrom (c :: before) rest = more := by
  rw [lowercaseFrom] at h
  split at h
  · -- neither form of the small sigma is in ASCII
    split at h
    · obtain rfl : 'ς' = d := (List.cons.inj h).1
      exact absurd hd (by decide)
    · obtain rfl : 'σ' = d := (List.cons.inj h).1
      exact absurd hd (by decide)
  · exact of_lower_append hd h

end

theorem lowercaseFrom_cons_ne_nil (before : List Char) (c : Char) (rest : List Char) :
    lowercaseFrom before (c :: rest) ≠ [] := by
  rw [lowercaseFrom]
  refine List.append_ne_nil_of_left_ne_nil ?_ _
  obtain ⟨first, others, hlower, -⟩ := exists_lower_head c
  split
  · split <;> exact List.cons_ne_nil _ _
  · rw [hlower]
    exact List.cons_ne_nil _ _

/-- A text without lower-case letters is the upper case of its lower case where that is native. -/
theorem eq_map_asciiUpper {before text small : List Char} (h : lowercaseFrom before text = small)
    (hsmall : ∀ d ∈ small, IsNative d) (htext : text.any isLowercase = false) :
    text = small.map asciiUpper := by
  induction text generalizing before small with
  | nil =>
    rw [← h]
    rfl
  | cons c rest ih =>
    rw [List.any_cons, Bool.or_eq_false_iff] at htext
    cases small with
    | nil => exact absurd h (lowercaseFrom_cons_ne_nil before c rest)
    | cons d more =>
      obtain ⟨hd, hmore⟩ := List.forall_mem_cons.mp hsmall
      obtain ⟨hc, rfl, hrest⟩ := of_lowercaseFrom_cons hd h
      have hcapital : c = asciiUpper (asciiLower c) :=
        of_ascii (P := fun c => isLowercase c = false → c = asciiUpper (asciiLower c)) (by decide)
          hc htext.1
      rw [List.map_cons, ← hcapital, ← ih hrest hmore htext.2]

theorem className_of_propertyChars {name : List Char} {d : Char} {more : List Char}
    (h : propertyChars name = d :: more) (hd : IsNative d)
    (hlower : (classChars name).any isLowercase = true) :
    classChars name = asciiUpper d :: more := by
  rw [propertyChars, if_pos hlower] at h
  cases hclass : classChars name with
  | nil =>
    rw [hclass] at h
    cases h
  | cons c rest =>
    rw [hclass] at h
    obtain ⟨hc, rfl, rfl⟩ := of_lower_append hd h
    have hupper := (joinWords_head hclass).2
    rw [upper_of_ascii hc] at hupper
    have hcapital : asciiUpper c = asciiUpper (asciiLower c) :=
      of_ascii (P := fun c => asciiUpper c = asciiUpper (asciiLower c)) (by decide) hc
    rw [← hcapital, List.singleton_inj.mp hupper]

/-- The class names whose property is `bus`. -/
theorem javaProperty_eq_bus_iff {name : String} :
    javaProperty name = "bus" ↔ className name = "Bus" ∨ className name = "BUS" := by
  constructor
  · intro h
    have hproperty := eq_of_javaName h (by decide) (by decide)
    rw [propertyName, ofList_eq_iff] at hproperty
    rw [className, ofList_eq_iff, ofList_eq_iff]
    have hsmall : "bus".toList = ['b', 'u', 's'] := by decide
    rw [hsmall] at hproperty
    cases hlower : (classChars name.toList).any isLowercase with
    | true => exact .inl (className_of_propertyChars hproperty (by decide) hlower)
    | false =>
      rw [propertyChars, hlower, if_neg Bool.false_ne_true] at hproperty
      exact .inr (eq_map_asciiUpper hproperty (by decide) hlower)
  · intro h
    rw [className, ofList_eq_iff, ofList_eq_iff] at h
    rcases h with h | h
    · rw [javaProperty, propertyName, propertyChars, h]
      decide
    · rw [javaProperty, propertyName, propertyChars, h]
      decide

theorem capitalised_eq_bus_iff {name : String} :
    capitalised (javaProperty name) = "Bus" ↔ javaProperty name = "bus" := by
  constructor
  · intro h
    have hsharp : (javaProperty name).toList.head? ≠ some 'ß' := by
      intro hhead
      obtain ⟨rest, hproperty⟩ := List.head?_eq_some_iff.mp hhead
      have hupper : upper 'ß' = ['S', 'S'] := by decide
      have hbus : "Bus".toList = 'B' :: ['u', 's'] := by decide
      rw [capitalised, hproperty, ofList_eq_iff, hupper, hbus] at h
      exact absurd (List.cons.inj h).1 (by decide)
    apply String.toList_inj.mp
    rw [← uncapitalised_capitalised hsharp, h]
    decide
  · intro h
    rw [h]
    decide

/-- The class name whose property is `serialVersionUID`. -/
theorem javaProperty_eq_serialVersionUID_iff {name : String} :
    javaProperty name = "serialVersionUID" ↔ className name = "SerialVersionUID" := by
  constructor
  · intro h
    have hproperty := eq_of_javaName h (by decide) (by decide)
    rw [propertyName, ofList_eq_iff] at hproperty
    rw [className, ofList_eq_iff]
    have hsmall : "serialVersionUID".toList = 's' :: "erialVersionUID".toList := by decide
    cases hlower : (classChars name.toList).any isLowercase with
    | true =>
      rw [hsmall] at hproperty
      exact className_of_propertyChars hproperty (by decide) hlower
    | false =>
      -- lower case as a whole would not leave a capital letter
      rw [propertyChars, hlower, if_neg Bool.false_ne_true] at hproperty
      have hcapital : 'V' ∈ lowercaseFrom [] (classChars name.toList) := by
        rw [hproperty]
        decide
      exact absurd (lower_of_mem_lowercaseFrom hcapital) (by decide)
  · intro h
    rw [className, ofList_eq_iff] at h
    rw [javaProperty, propertyName, propertyChars, h]
    decide

end EntityGen.Identifier
