import EntityGen.Document.Json

/-!
# Reading what was written

A reading that comes to a value without a note is `pure`. A list is read back when its items are, and a
record when its members lead from the empty draft to a draft that finishes with it.
-/
namespace EntityGen.Document

theorem Reading.within_pure {α : Type} (step : Step) (value : α) :
    (pure value : Reading α).within step = pure value := rfl

theorem Reading.settle_pure {α : Type} (untold : Bool) (value : α) :
    (pure value : Reading α).settle untold = pure value := rfl

theorem Reading.outcome_pure {α : Type} (value : α) :
    (pure value : Reading α).outcome = (.ok value, []) := rfl

theorem Format.readItems_map {ν α : Type} {read : ν → Reading α} {write : α → ν} {values : List α}
    (h : ∀ value ∈ values, read (write value) = pure value) (index : Nat) :
    Format.readItems read index (values.map write) = pure values := by
  induction values generalizing index with
  | nil => rfl
  | cons value more ih =>
    rw [List.map_cons, readItems, h value List.mem_cons_self, Reading.within_pure, pure_bind,
      ih (fun other ho => h other (List.mem_cons_of_mem _ ho)), pure_bind]

section
variable {ν δ α : Type} {format : Format ν} {name : String} {required : Bool} {isSet : δ → Bool}
  {read : ν → Reading α} {step : Step} {node : ν} {value : α} {draft : δ}

theorem Format.field_read (h : read node = pure value) (set : δ → α → δ) :
    (Format.field name required isSet read set).read step node draft = pure (set draft value) := by
  rw [field]
  dsimp only
  rw [h, Reading.within_pure, pure_bind]

theorem Format.optionalField_read (hpresent : format.present? node = pure (some node))
    (h : read node = pure value) (set : δ → Option α → δ) :
    (format.optionalField name isSet read set).read step node draft =
      pure (set draft (some value)) := by
  rw [optionalField]
  dsimp only
  rw [hpresent, pure_bind]
  dsimp only
  rw [h, Reading.within_pure, pure_bind]

end

namespace Json

theorem count_ofNat {value limit : Nat} (h : value ≤ limit) (expected : String) :
    format.count expected limit (ofNat value) = pure value := by
  change (if value ≤ limit then pure value else _) = _
  rw [if_pos h]

/-- A written list is read back when its items are. -/
theorem list_ofList {α : Type} {read : Json → Reading α} {write : α → Json} {values : List α}
    (h : ∀ value ∈ values, read (write value) = pure value) :
    format.list read (ofList (values.map write)) = pure values := by
  have hlisting : format.listing (ofList (values.map write)) = pure ⟨values.map write, none⟩ := rfl
  have hunbroken : Reading.unbroken none = pure () := rfl
  rw [Format.list, hlisting, pure_bind, Format.readItems_map h, pure_bind, hunbroken, pure_bind]

section
variable {δ ρ : Type} {shape : RecordShape Json δ ρ} {draft middle after : δ}

/-- The members lead from one draft of a record to another. -/
def Leads (shape : RecordShape Json δ ρ) (draft : δ) (entries : List (String × Json)) (after : δ) :
    Prop :=
  (entries.map fun entry => (ofString entry.1, entry.2)).foldlM (shape.readMember format) draft =
    pure after

theorem leads_nil (draft : δ) : Leads shape draft [] draft := rfl

theorem Leads.append {front back : List (String × Json)} (h : Leads shape draft front middle)
    (hback : Leads shape middle back after) : Leads shape draft (front ++ back) after := by
  rw [Leads, List.map_append, List.foldlM_append, h, pure_bind]
  exact hback

/-- A member that a field of the record takes, when the field is not set yet. -/
theorem leads_member {name : String} {value : Json} {field : Field Json δ}
    (hfield : shape.fields.find? (·.name == name) = some field) (hset : field.isSet draft = false)
    (hread : field.read (.member name) value draft = pure after) :
    Leads shape draft [(name, value)] after := by
  have hname : format.key (ofString name) = pure name := rfl
  rw [Leads, List.map_singleton, List.foldlM_cons, RecordShape.readMember, hname, pure_bind, hfield]
  dsimp only
  rw [hset, if_neg Bool.false_ne_true]
  exact (congrArg (· >>= _) hread).trans (pure_bind _ _)

/-- A record is read back from members that lead to a draft of it. -/
theorem Leads.read {entries : List (String × Json)} {record : ρ}
    (h : Leads shape shape.start entries after) (hfinish : shape.finish after = .ok record) :
    shape.read format (ofMembers entries) = pure record := by
  have hlayout : format.layout ("struct " ++ shape.name) (ofMembers entries) =
      pure (.members (entries.map fun entry => (ofString entry.1, entry.2)) none) := rfl
  rw [RecordShape.read, hlayout, pure_bind]
  dsimp only
  rw [h, pure_bind]
  have hunbroken : Reading.unbroken none = pure () := rfl
  rw [hunbroken, pure_bind, pure_bind, hfinish, Reading.settle_pure]

end

end Json

end EntityGen.Document
