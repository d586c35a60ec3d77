import EntityGen.Proofs.Document.JsonNode

/-!
# Written nodes are read back

The compact and the indented text of a node differ in the blanks alone, so one argument serves both: a
list or an object is read back when its parts are.
-/
namespace EntityGen.Document.Json

/-- Items with commas between them, each one behind a gap. -/
def joinItems (gap : List Char) (write : Json → List Char) : List Json → List Char
  | [] => []
  | [item] => gap ++ write item
  | item :: next :: items => gap ++ write item ++ ',' :: joinItems gap write (next :: items)

/-- Members with commas between them, each one behind a gap, and with blanks before their values. -/
def joinMembers (gap between : List Char) (write : Json → List Char) :
    List (Json × Json) → List Char
  | [] => []
  | [(key, value)] => gap ++ write key ++ ':' :: (between ++ write value)
  | (key, value) :: next :: members =>
    gap ++ write key ++ ':' :: (between ++ write value) ++
      ',' :: joinMembers gap between write (next :: members)

theorem compactItems_eq (values : List Json) :
    compactItems values = joinItems [] compactChars values := by
  induction values with
  | nil => rfl
  | cons value more ih =>
    cases more with
    | nil => rfl
    | cons next rest => simp only [compactItems, joinItems, ih, List.nil_append]

theorem compactMembers_eq (entries : List (Json × Json)) :
    compactMembers entries = joinMembers [] [] compactChars entries := by
  induction entries with
  | nil => rfl
  | cons entry more ih =>
    cases more with
    | nil => rfl
    | cons next rest =>
      obtain ⟨key, value⟩ := entry
      simp only [compactMembers, joinMembers, ih, List.nil_append, List.append_assoc,
        List.cons_append]

theorem indentedItems_eq (level : Nat) (values : List Json) :
    indentedItems level values = joinItems (newline level) (indentedChars level) values := by
  induction values with
  | nil => rfl
  | cons value more ih =>
    cases more with
    | nil => rfl
    | cons next rest => simp only [indentedItems, joinItems, ih]

theorem indentedMembers_eq (level : Nat) (entries : List (Json × Json)) :
    indentedMembers level entries =
      joinMembers (newline level) [' '] (indentedChars level) entries := by
  induction entries with
  | nil => rfl
  | cons entry more ih =>
    cases more with
    | nil => rfl
    | cons next rest =>
      obtain ⟨key, value⟩ := entry
      simp only [indentedMembers, joinMembers, ih, List.singleton_append]

section
variable {gap between after : List Char} {write : Json → List Char}

theorem readsItems_joinItems (hgap : Blank gap) (hafter : Blank after) {values : List Json}
    (hne : values ≠ []) (h : ∀ value ∈ values, Reads value (write value)) :
    ∃ text, joinItems gap write values ++ (after ++ [']']) = gap ++ text ∧
      ReadsItems values text := by
  induction values with
  | nil => exact absurd rfl hne
  | cons value more ih =>
    have hvalue := h value List.mem_cons_self
    cases more with
    | nil => exact ⟨_, List.append_assoc _ _ _, .last hvalue hafter⟩
    | cons next rest =>
      obtain ⟨text, htext, hreads⟩ :=
        ih (List.cons_ne_nil _ _) fun other ho => h other (List.mem_cons_of_mem _ ho)
      refine ⟨_, ?_, .cons hvalue blank_nil hgap hreads⟩
      rw [joinItems, List.append_assoc, List.cons_append, htext, List.append_assoc, List.nil_append]

theorem readsMembers_joinMembers (hgap : Blank gap) (hbetween : Blank between)
    (hafter : Blank after) (hkey : ∀ key, write (ofString key) = textChars key.toList)
    {entries : List (String × Json)} (hne : entries ≠ [])
    (h : ∀ entry ∈ entries, Reads entry.2 (write entry.2)) :
    ∃ text, joinMembers gap between write (entries.map fun entry => (ofString entry.1, entry.2)) ++
        (after ++ ['\x7d']) = gap ++ '"' :: text ∧
      ReadsMembers (entries.map fun entry => (ofString entry.1, entry.2)) text := by
  induction entries with
  | nil => exact absurd rfl hne
  | cons entry more ih =>
    obtain ⟨key, value⟩ := entry
    have hvalue := h (key, value) List.mem_cons_self
    cases more with
    | nil =>
      refine ⟨_, ?_, readsMembers_last key hvalue hbetween hafter⟩
      rw [List.map_singleton, joinMembers, hkey, textChars, memberChars]
      simp
    | cons next rest =>
      obtain ⟨text, htext, hreads⟩ :=
        ih (List.cons_ne_nil _ _) fun other ho => h other (List.mem_cons_of_mem _ ho)
      refine ⟨_, ?_, ReadsMembers.cons key hvalue hbetween blank_nil hgap hreads⟩
      rw [List.map_cons] at htext
      rw [List.map_cons, List.map_cons, joinMembers, List.append_assoc, List.cons_append, htext, hkey,
        textChars, memberChars]
      simp

end

theorem blank_newline (level : Nat) : Blank (newline level) := by
  intro c hc
  rcases List.mem_cons.mp hc with rfl | hspace
  · rfl
  · rw [List.eq_of_mem_replicate hspace]
    rfl

theorem blank_space : Blank [' '] := by
  intro c hc
  rw [List.mem_singleton.mp hc]
  rfl

/-- Both texts of the node are read as the node. -/
structure Writable (value : Json) : Prop where
  compact : Reads value value.compactChars
  indented : ∀ level, Reads value (value.indentedChars level)

theorem writable_boolean (value : Bool) : Writable (.boolean value) where
  compact := by
    rw [compactChars]
    exact reads_boolean value
  indented level := by
    rw [indentedChars]
    exact reads_boolean value

theorem writable_ofNat {n : Nat} (h : n ≤ maxWord) : Writable (ofNat n) where
  compact := by
    rw [ofNat, compactChars]
    exact reads_ofNat h
  indented level := by
    rw [ofNat, indentedChars]
    exact reads_ofNat h

theorem writable_ofString (value : String) : Writable (ofString value) where
  compact := by
    rw [ofString, compactChars]
    exact reads_ofString value
  indented level := by
    rw [ofString, indentedChars]
    exact reads_ofString value

theorem writable_ofList {values : List Json} (h : ∀ value ∈ values, Writable value) :
    Writable (ofList values) := by
  by_cases hne : values = []
  · rw [hne]
    exact ⟨reads_array_nil blank_nil, fun level => reads_array_nil blank_nil⟩
  refine ⟨?_, ?_⟩
  · obtain ⟨text, htext, hreads⟩ := readsItems_joinItems blank_nil blank_nil hne
      fun value hm => (h value hm).compact
    rw [ofList, compactChars, compactItems_eq]
    rw [List.nil_append] at htext
    rw [htext]
    exact hreads.array blank_nil
  · intro level
    obtain ⟨text, htext, hreads⟩ := readsItems_joinItems (blank_newline (level + 1))
      (blank_newline level) hne fun value hm => (h value hm).indented (level + 1)
    rw [ofList, indentedChars, indentedItems_eq, List.append_assoc, htext]
    · exact hreads.array (blank_newline (level + 1))
    · exact hne

theorem writable_ofMembers {entries : List (String × Json)}
    (h : ∀ entry ∈ entries, Writable entry.2) : Writable (ofMembers entries) := by
  by_cases hne : entries = []
  · rw [hne]
    exact ⟨reads_object_nil blank_nil, fun level => reads_object_nil blank_nil⟩
  have hmap : entries.map (fun entry => (ofString entry.1, entry.2)) ≠ [] := by
    rwa [ne_eq, List.map_eq_nil_iff]
  refine ⟨?_, ?_⟩
  · obtain ⟨text, htext, hreads⟩ := readsMembers_joinMembers blank_nil blank_nil blank_nil
      (fun key => by rw [ofString, compactChars]; rfl) hne fun entry hm => (h entry hm).compact
    rw [ofMembers, compactChars, compactMembers_eq]
    rw [List.nil_append] at htext
    rw [htext]
    exact hreads.object blank_nil
  · intro level
    obtain ⟨text, htext, hreads⟩ := readsMembers_joinMembers (blank_newline (level + 1))
      blank_space (blank_newline level) (fun key => by rw [ofString, indentedChars]; rfl) hne
      fun entry hm => (h entry hm).indented (level + 1)
    rw [ofMembers, indentedChars, indentedMembers_eq, List.append_assoc, htext]
    · exact hreads.object (blank_newline (level + 1))
    · exact hmap

namespace Writable

variable {value : Json}

theorem ofString_compact (h : Writable value) : JsonText.ofString value.compact = ⟨value, false⟩ :=
  h.compact.ofString

theorem ofString_indented (h : Writable value) :
    JsonText.ofString value.indented = ⟨value, false⟩ :=
  (h.indented 0).ofString

end Writable

end EntityGen.Document.Json
