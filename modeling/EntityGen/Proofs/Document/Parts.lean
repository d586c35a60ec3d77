import EntityGen.Proofs.Document.Noting
import Mathlib.Data.List.Forall2

/-!
# Parts of records

What the reading of a record notes, and the value that a field of it gets, are told by the parts of its
node in the order of the text: a list names them by the order of the fields, and members that the record
does not know count for nothing. Both follow from one rule: what every part keeps true of the draft, the
parts read and the warnings noted is true at the end.
-/
namespace EntityGen.Document

open Reading

namespace Json

/-- A member whose name is text. -/
def part? (member : Json × Json) : Option (String × Json) :=
  match member.1 with
  | string (some name) => some (name, member.2)
  | _ => none

/-- The items of a list. -/
def elements : Json → List Json
  | array items _ => items
  | _ => []

/-- The values that a name has among parts. -/
def valuesOf (name : String) (parts : List (String × Json)) : List Json :=
  (parts.filter (·.1 == name)).map Prod.snd

theorem valuesOf_append (name : String) (front back : List (String × Json)) :
    valuesOf name (front ++ back) = valuesOf name front ++ valuesOf name back := by
  rw [valuesOf, List.filter_append, List.map_append]
  rfl

theorem valuesOf_self (name : String) (value : Json) : valuesOf name [(name, value)] = [value] := by
  simp [valuesOf]

theorem valuesOf_other {name other : String} (h : other ≠ name) (value : Json) :
    valuesOf name [(other, value)] = [] := by
  simp [valuesOf, h]

theorem valuesOf_eq_nil {name : String} {parts : List (String × Json)}
    (h : name ∉ parts.map Prod.fst) : valuesOf name parts = [] := by
  rw [valuesOf, List.map_eq_nil_iff, List.filter_eq_nil_iff]
  intro part hpart hname
  exact h (beq_iff_eq.mp hname ▸ List.mem_map_of_mem hpart)

/-- What the parts of one name give is what its values give. -/
theorem flatMap_valuesOf {α : Type} (name : String) (give : Json → List α)
    (parts : List (String × Json)) :
    (parts.flatMap fun part => if part.1 = name then give part.2 else []) =
      (valuesOf name parts).flatMap give := by
  induction parts with
  | nil => rfl
  | cons part rest ih =>
    rw [List.flatMap_cons, ih, ← List.singleton_append, valuesOf_append, List.flatMap_append]
    obtain ⟨other, value⟩ := part
    by_cases h : other = name
    · rw [h, if_pos rfl, valuesOf_self, List.flatMap_singleton]
    · rw [if_neg h, valuesOf_other h, List.flatMap_nil]

end Json

/-- The field is read without a note and keeps what `get` takes from a draft. -/
def Field.Keeps {δ β : Type} (field : Field Json δ) (get : δ → β) : Prop :=
  ∀ step value draft, (field.read step value draft).Ensures fun after noted =>
    noted = [] ∧ get after = get draft

/-- The field puts what fits its value into the place that `get` shows, with the notes that `give`
says, and counts as set from then on. -/
structure Field.Puts {δ α : Type} (field : Field Json δ) (get : δ → Option α)
    (fits : Json → α → Prop) (give : Json → List Warning) : Prop where
  isSet : ∀ draft, field.isSet draft = (get draft).isSome
  read : ∀ step value draft, (field.read step value draft).Ensures fun after noted =>
    noted = give value ∧ ∃ taken, get after = some taken ∧ fits value taken

namespace RecordShape

open Json

variable {δ ρ α : Type} (shape : RecordShape Json δ ρ)

/-- The names of the fields, in their order. -/
def names : List String := shape.fields.map (·.name)

/-- The parts of a record's node, in the order of the text. -/
def parts : Json → List (String × Json)
  | object members _ => members.filterMap part?
  | array items _ => shape.names.zip items
  | _ => []

/-- The values that a record's node has for a field. -/
def values (name : String) (node : Json) : List Json := valuesOf name (shape.parts node)

/-- The items of the lists that a record's node has for a field. -/
def items (name : String) (node : Json) : List Json := (shape.values name node).flatMap elements

/-- Every part keeps `inv` of the draft, of the parts read so far and of the warnings noted. A field is
read at most once: it is not set yet, or no part has had its name. -/
structure Keeps (inv : δ → List (String × Json) → List Warning → Prop) : Prop where
  start : inv shape.start [] []
  unknown : ∀ {draft parts noted}, inv draft parts noted →
    ∀ name ∉ shape.names, ∀ value, inv draft (parts ++ [(name, value)]) noted
  field : ∀ {draft parts noted}, inv draft parts noted → ∀ field ∈ shape.fields,
    (field.isSet draft = false ∨ field.name ∉ parts.map Prod.fst) → ∀ step value,
      (field.read step value draft).Ensures fun after more =>
        inv after (parts ++ [(field.name, value)]) (noted ++ more)

section
variable {shape} {inv : δ → List (String × Json) → List Warning → Prop} (h : shape.Keeps inv)
  {draft : δ} {parts : List (String × Json)} {noted : List Warning}
include h

theorem Keeps.readMember (hinv : inv draft parts noted) (member : Json × Json) :
    (shape.readMember Json.format draft member).Ensures fun after more =>
      inv after (parts ++ [member].filterMap part?) (noted ++ more) := by
  unfold RecordShape.readMember
  refine (ensures_readText "a string" member.1).bind fun name _ hname => ?_
  obtain ⟨rfl, hkey⟩ := hname
  have hpart : [member].filterMap part? = [(name, member.2)] := by
    rw [List.filterMap_cons, part?, hkey]
    rfl
  rw [hpart]
  split
  · next hfind =>
    refine (quiet_skip member.2).bind fun _ => ensures_pure ?_
    have hunknown : name ∉ shape.names := by
      intro hm
      obtain ⟨field, hfield, rfl⟩ := List.mem_map.mp hm
      exact List.find?_eq_none.mp hfind field hfield (beq_self_eq_true _)
    rw [List.append_nil, List.append_nil]
    exact h.unknown hinv name hunknown member.2
  · next field hfind =>
    split
    · exact ensures_refuse _
    · next hset =>
      have hsome := List.find?_some (p := fun field : Field Json δ => field.name == name) hfind
      obtain rfl : field.name = name := beq_iff_eq.mp hsome
      exact h.field hinv field (List.mem_of_find?_eq_some hfind)
        (.inl (Bool.eq_false_iff.mpr hset)) _ member.2

theorem Keeps.readMembers (hinv : inv draft parts noted) (members : List (Json × Json)) :
    (members.foldlM (shape.readMember Json.format) draft).Ensures fun after more =>
      inv after (parts ++ members.filterMap part?) (noted ++ more) := by
  induction members generalizing draft parts noted with
  | nil =>
    refine ensures_pure ?_
    rw [List.filterMap_nil, List.append_nil, List.append_nil]
    exact hinv
  | cons member rest ih =>
    rw [List.foldlM_cons]
    refine (h.readMember hinv member).bind fun after more hafter => ?_
    refine (ih hafter).mono fun last most hlast => ?_
    rw [List.append_assoc, List.append_assoc, ← List.filterMap_append] at hlast
    exact hlast

theorem Keeps.readPositional (ending : Option Break) {fields : List (Field Json δ)}
    (hfields : ∀ field ∈ fields, field ∈ shape.fields) (hnodup : (fields.map (·.name)).Nodup)
    (items : List Json) (index : Nat) (hinv : inv draft parts noted)
    (hfresh : ∀ field ∈ fields, field.name ∉ parts.map Prod.fst) :
    (shape.readPositional ending index fields items draft).Ensures fun after more =>
      inv after (parts ++ (fields.map (·.name)).zip items) (noted ++ more) := by
  induction fields generalizing items index draft parts noted with
  | nil =>
    cases items with
    | nil =>
      rw [RecordShape.readPositional]
      refine (quiet_unbroken ending).bind fun _ => ensures_pure ?_
      rw [List.map_nil, List.zip_nil_left, List.append_nil, List.append_nil]
      exact hinv
    | cons item items => exact ensures_fail _
  | cons field fields ih =>
    obtain ⟨hfield, hrest⟩ := List.forall_mem_cons.mp hfields
    obtain ⟨hfirst, hlater⟩ := List.forall_mem_cons.mp hfresh
    obtain ⟨hname, hnodup⟩ := List.nodup_cons.mp hnodup
    cases items with
    | nil =>
      rw [RecordShape.readPositional]
      refine (quiet_unbroken ending).bind fun _ => ?_
      split
      · exact ensures_refuse _
      · have hmore := ih hrest hnodup [] (index + 1) hinv hlater
        rw [List.zip_nil_right] at hmore ⊢
        exact hmore
    | cons item items =>
      rw [RecordShape.readPositional]
      refine (h.field hinv field hfield (.inr hfirst) _ item).bind fun after more hafter => ?_
      have hstill : ∀ other ∈ fields,
          other.name ∉ (parts ++ [(field.name, item)]).map Prod.fst := by
        intro other hother
        rw [List.map_append, List.mem_append, not_or]
        refine ⟨hlater other hother, ?_⟩
        intro hm
        rw [List.map_singleton, List.mem_singleton] at hm
        exact hname (List.mem_map.mpr ⟨other, hother, hm⟩)
      refine (ih hrest hnodup items (index + 1) hafter hstill).mono fun last most hlast => ?_
      rw [List.append_assoc, List.append_assoc] at hlast
      exact hlast

theorem Keeps.read (hnodup : shape.names.Nodup) (node : Json) :
    (shape.read Json.format node).Ensures fun record noted =>
      ∃ draft, shape.finish draft = .ok record ∧ inv draft (shape.parts node) noted := by
  refine Ensures.settle ?_ _
  refine (ensures_layout _ node).bind fun found _ hfound => ?_
  obtain ⟨rfl, hfound⟩ := hfound
  cases found
  case' members entries ending =>
    subst hfound
    refine (h.readMembers h.start entries).bind fun draft noted hinv => ?_
    refine (quiet_unbroken ending).bind fun _ => ?_
    rw [pure_bind]
  case' positional items ending =>
    subst hfound
    have hfresh : ∀ field ∈ shape.fields, field.name ∉ ([] : List (String × Json)).map Prod.fst :=
      fun _ _ => List.not_mem_nil
    refine (h.readPositional ending (fun _ hm => hm) hnodup items 0 h.start hfresh).bind
      fun draft noted hinv => ?_
  -- a record of either layout is finished in the same way
  all_goals
    dsimp only
    split
    · next record hrecord =>
      refine ensures_pure ⟨draft, hrecord, ?_⟩
      rw [List.append_nil]
      exact hinv
    · exact ensures_refuse _

end

/-- Every part is read with the notes that `give` says. -/
structure Notes (give : String × Json → List Warning) : Prop where
  unknown : ∀ name ∉ shape.names, ∀ value, give (name, value) = []
  field : ∀ field ∈ shape.fields, ∀ step value draft,
    (field.read step value draft).Ensures fun _ noted => noted = give (field.name, value)

/-- A field of the record puts what fits its value into the draft, and the other fields keep it. -/
structure Takes (name : String) (get : δ → Option α) (fits : Json → α → Prop) : Prop where
  known : name ∈ shape.names
  start : get shape.start = none
  isSet : ∀ field ∈ shape.fields, field.name = name →
    ∀ draft, field.isSet draft = (get draft).isSome
  field : ∀ field ∈ shape.fields, ∀ step value draft,
    (field.read step value draft).Ensures fun after _ =>
      (field.name = name ∧ ∃ taken, get after = some taken ∧ fits value taken) ∨
        (field.name ≠ name ∧ get after = get draft)

variable {shape}

/-- The warnings of a record are those of its parts, in the order of the text. -/
theorem Notes.read {give : String × Json → List Warning} (h : shape.Notes give)
    (hnodup : shape.names.Nodup) (node : Json) :
    (shape.read Json.format node).Ensures fun _ noted =>
      noted = (shape.parts node).flatMap give := by
  have hkeeps : shape.Keeps fun _ parts noted => noted = parts.flatMap give :=
    { start := rfl
      unknown := by
        intro draft parts noted hnoted name hname value
        rw [List.flatMap_append, List.flatMap_singleton, h.unknown name hname, List.append_nil]
        exact hnoted
      field := by
        intro draft parts noted hnoted field hfield _ step value
        refine (h.field field hfield step value draft).mono fun _ more hmore => ?_
        rw [List.flatMap_append, List.flatMap_singleton, hnoted, hmore] }
  refine (hkeeps.read hnodup node).mono fun record noted hread => ?_
  obtain ⟨draft, -, hnoted⟩ := hread
  exact hnoted

/-- What a field of an accepted record takes fits the value of its name, and there is at most one. -/
theorem Takes.read {name : String} {get : δ → Option α} {fits : Json → α → Prop}
    (h : shape.Takes name get fits) (hnodup : shape.names.Nodup) (node : Json) :
    (shape.read Json.format node).Ensures fun record _ =>
      ∃ draft, shape.finish draft = .ok record ∧
        List.Forall₂ fits (shape.values name node) (get draft).toList := by
  have hkeeps : shape.Keeps fun draft parts _ =>
      List.Forall₂ fits (valuesOf name parts) (get draft).toList :=
    { start := by
        rw [h.start]
        exact .nil
      unknown := by
        intro draft parts _ hparts other hother value
        have hne : other ≠ name := fun heq => hother (heq ▸ h.known)
        rw [valuesOf_append, valuesOf_other hne, List.append_nil]
        exact hparts
      field := by
        intro draft parts _ hparts field hfield hfree step value
        refine (h.field field hfield step value draft).mono fun after _ hafter => ?_
        rw [valuesOf_append]
        rcases hafter with ⟨hname, taken, htaken, hfits⟩ | ⟨hname, hsame⟩
        · -- nothing was taken before, by the draft or by the parts
          have hnone : valuesOf name parts = [] := by
            rcases hfree with hset | hnew
            · rw [h.isSet field hfield hname] at hset
              rw [Option.isSome_eq_false_iff, Option.isNone_iff_eq_none] at hset
              rw [hset] at hparts
              exact List.forall₂_nil_right_iff.mp hparts
            · exact valuesOf_eq_nil (hname ▸ hnew)
          rw [hnone, hname, valuesOf_self, htaken]
          exact .cons hfits .nil
        · rw [valuesOf_other hname, List.append_nil, hsame]
          exact hparts }
  exact hkeeps.read hnodup node

/-- A field that may be absent and takes a list fits the items item by item. -/
theorem forall₂_items {name : String} {node : Json} {fits : Json → α → Prop}
    {taken : Option (List α)}
    (h : List.Forall₂ (fun value found => List.Forall₂ fits value.elements found)
      (shape.values name node) taken.toList) :
    List.Forall₂ fits (shape.items name node) (taken.getD []) := by
  rw [items]
  cases taken with
  | none =>
    rw [List.forall₂_nil_right_iff.mp h]
    exact .nil
  | some found =>
    obtain ⟨value, values, hvalue, hrest, hvalues⟩ := List.forall₂_cons_right_iff.mp h
    rw [hvalues, List.forall₂_nil_right_iff.mp hrest, List.flatMap_singleton]
    exact hvalue

/-- One field takes and notes all that counts, and the others are read without a note. -/
structure TakesOnly (shape : RecordShape Json δ ρ) (name : String) (get : δ → Option α)
    (fits : Json → α → Prop) (give : Json → List Warning) : Prop where
  names_nodup : shape.names.Nodup
  known : name ∈ shape.names
  start : get shape.start = none
  fields : ∀ field ∈ shape.fields, field.name = name ∧ field.Puts get fits give ∨
    field.name ≠ name ∧ field.Keeps get

namespace TakesOnly

variable {name : String} {get : δ → Option α} {fits : Json → α → Prop} {give : Json → List Warning}
  (h : shape.TakesOnly name get fits give)
include h

theorem notes : shape.Notes fun part => if part.1 = name then give part.2 else [] where
  unknown other hother value := if_neg fun heq : other = name => hother (heq ▸ h.known)
  field := by
    intro field hfield step value draft
    rcases h.fields field hfield with ⟨hname, hputs⟩ | ⟨hname, hkeeps⟩
    · rw [if_pos hname]
      exact (hputs.read step value draft).mono fun _ _ hread => hread.1
    · rw [if_neg hname]
      exact (hkeeps step value draft).mono fun _ _ hread => hread.1

theorem takes : shape.Takes name get fits where
  known := h.known
  start := h.start
  isSet := by
    intro field hfield hname draft
    rcases h.fields field hfield with ⟨-, hputs⟩ | ⟨hother, -⟩
    · exact hputs.isSet draft
    · exact absurd hname hother
  field := by
    intro field hfield step value draft
    rcases h.fields field hfield with ⟨hname, hputs⟩ | ⟨hname, hkeeps⟩
    · exact (hputs.read step value draft).mono fun _ _ hread => .inl ⟨hname, hread.2⟩
    · exact (hkeeps step value draft).mono fun _ _ hread => .inr ⟨hname, hread.2⟩

theorem read (node : Json) : (shape.read Json.format node).Ensures fun record noted =>
    noted = (shape.values name node).flatMap give ∧
      ∃ draft, shape.finish draft = .ok record ∧
        List.Forall₂ fits (shape.values name node) (get draft).toList := by
  refine ((h.notes.read h.names_nodup node).and (h.takes.read h.names_nodup node)).mono
    fun record noted hread => ?_
  rw [flatMap_valuesOf] at hread
  exact hread

end TakesOnly

end RecordShape

namespace Format

open Json

variable {δ α : Type} {name : String} {required : Bool} {isSet : δ → Bool} {read : Json → Reading α}

theorem field_ensures {set : δ → α → δ} {step : Step} {value : Json} {draft : δ}
    {post : δ → List Warning → Prop}
    (h : (read value).Ensures fun taken noted => post (set draft taken) noted) :
    ((Format.field name required isSet read set).read step value draft).Ensures post := by
  refine (h.within step).bind fun taken noted htaken => ensures_pure ?_
  rw [List.append_nil]
  exact htaken

theorem field_keeps {β : Type} {get : δ → β} {set : δ → α → δ} (h : ∀ value, (read value).Quiet)
    (hset : ∀ draft taken, get (set draft taken) = get draft) :
    (Format.field name required isSet read set).Keeps get := fun _ value draft =>
  field_ensures ((h value).mono fun taken _ hnoted => ⟨hnoted, hset draft taken⟩)

theorem optionalField_keeps {β : Type} {get : δ → β} {set : δ → Option α → δ}
    (h : ∀ value, (read value).Quiet)
    (hset : ∀ draft taken, get (set draft taken) = get draft) :
    (Json.format.optionalField name isSet read set).Keeps get := by
  intro step value draft
  refine (quiet_present? value).bind fun found => ?_
  cases found with
  | none => exact ensures_pure ⟨rfl, hset draft none⟩
  | some node =>
    refine Quiet.bind ((h node).within step) fun taken => ?_
    exact ensures_pure ⟨rfl, hset draft (some taken)⟩

section
variable {fits : Json → α → Prop} {give : Json → List Warning}
  (h : ∀ item, (read item).Ensures fun value noted => fits item value ∧ noted = give item)
include h

theorem readItems_ensures (index : Nat) (items : List Json) :
    (readItems read index items).Ensures fun values noted =>
      List.Forall₂ fits items values ∧ noted = items.flatMap give := by
  induction items generalizing index with
  | nil => exact ensures_pure ⟨.nil, rfl⟩
  | cons item rest ih =>
    refine ((h item).within _).bind fun value noted hvalue => ?_
    refine (ih (index + 1)).bind fun values more hvalues => ensures_pure ?_
    refine ⟨.cons hvalue.1 hvalues.1, ?_⟩
    rw [hvalue.2, hvalues.2, List.append_nil, List.flatMap_cons]

theorem list_ensures (node : Json) :
    (Json.format.list read node).Ensures fun values noted =>
      List.Forall₂ fits node.elements values ∧ noted = node.elements.flatMap give := by
  refine (ensures_listing node).bind fun listing _ hlisting => ?_
  obtain ⟨rfl, rfl⟩ := hlisting
  refine (readItems_ensures h 0 listing.items).bind fun values noted hvalues => ?_
  refine (quiet_unbroken listing.ending).bind fun _ => ensures_pure ?_
  rw [List.append_nil]
  exact hvalues

theorem puts_list {get : δ → Option (List α)} {set : δ → List α → δ}
    (hisSet : ∀ draft, isSet draft = (get draft).isSome)
    (hset : ∀ draft found, get (set draft found) = some found) :
    (Format.field name required isSet (Json.format.list read) set).Puts get
      (fun value found => List.Forall₂ fits value.elements found)
      (fun value => value.elements.flatMap give) where
  isSet := hisSet
  read _ value draft := field_ensures ((list_ensures h value).mono
    fun found _ hfound => ⟨hfound.2, found, hset draft found, hfound.1⟩)

end

theorem quiet_list (h : ∀ item, (read item).Quiet) (node : Json) :
    (Json.format.list read node).Quiet := by
  have hitem : ∀ item, (read item).Ensures fun _ noted => True ∧ noted = [] :=
    fun item => (h item).mono fun _ _ hnoted => ⟨trivial, hnoted⟩
  refine (list_ensures hitem node).mono fun _ noted hnoted => ?_
  rw [hnoted.2, List.flatMap_eq_nil_iff]
  exact fun _ _ => rfl

end Format

end EntityGen.Document
