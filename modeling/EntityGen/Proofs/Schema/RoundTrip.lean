import EntityGen.Proofs.Document.JsonWriter
import EntityGen.Proofs.Document.Record
import EntityGen.Proofs.Schema.Acceptance
import EntityGen.Schema.Load

/-!
# Schemas are read back from their JSON

What a record leaves out of its document is what reading a record without it gives, so every record
leads back to itself, member by member.
-/
namespace EntityGen

open Document

theorem Kind.ofName?_name (kind : Kind) : ofName? kind.name = some kind := by
  cases kind <;> decide +kernel

theorem leads_optionalMember {δ ρ α : Type} {shape : RecordShape Json δ ρ} {draft : δ}
    {name : String} {write : α → Json} (after : Option α → δ) {value : Option α}
    (hnone : after none = draft)
    (hsome : ∀ v ∈ value, Json.Leads shape draft [(name, write v)] (after (some v))) :
    Json.Leads shape draft (optionalMember name write value) (after value) := by
  cases value with
  | none =>
    rw [hnone]
    exact Json.leads_nil draft
  | some v => exact hsome v rfl

namespace Column

/-- The length of the column, if it has one, is a number of 32 bits. -/
def IsSized (column : Column) : Prop := ∀ length ∈ column.length, length ≤ maxLength

theorem kindOf_name (kind : Kind) : kindOf (.name kind.name) = pure kind := by
  have hclassify : (TypeText.name kind.name).classify = (kind, none) := by
    rw [TypeText.classify, TypeText.kind?, Kind.ofName?_name]
  rw [kindOf, hclassify]

theorem typeField_read (kind : Kind) (draft : Draft) :
    (typeField Json.format).read (.member "type") (.ofString kind.name) draft =
      pure { draft with kind := some kind } := by
  have htext : Json.format.typeText? (.ofString kind.name) = pure (some (.name kind.name)) := rfl
  rw [typeField]
  dsimp only
  rw [htext, Reading.within_pure, pure_bind]
  dsimp only
  rw [kindOf_name, pure_bind]

/-- The members that every column has. -/
theorem leads_required (column : Column) : Json.Leads (shape Json.format) {}
    [("name", .ofString column.name), ("type", .ofString column.kind.name),
      ("nullable", .boolean column.nullable)]
    { name := some column.name, kind := some column.kind, nullable := some column.nullable } := by
  have hname : Json.Leads (shape Json.format) {} [("name", .ofString column.name)]
      { name := some column.name } := Json.leads_member rfl rfl rfl
  have hkind : Json.Leads (shape Json.format) { name := some column.name }
      [("type", .ofString column.kind.name)]
      { name := some column.name, kind := some column.kind } :=
    Json.leads_member rfl rfl (typeField_read column.kind _)
  have hnullable : Json.Leads (shape Json.format)
      { name := some column.name, kind := some column.kind }
      [("nullable", .boolean column.nullable)]
      { name := some column.name, kind := some column.kind, nullable := some column.nullable } :=
    Json.leads_member rfl rfl rfl
  exact hname.append (hkind.append hnullable)

variable {column : Column} {draft : Draft}

theorem leads_primaryKey (hdraft : draft.primaryKey = none) (primaryKey : Bool) :
    Json.Leads (shape Json.format) draft
      (if primaryKey then [("primary_key", .boolean true)] else [])
      { draft with primaryKey := if primaryKey then some true else none } := by
  cases primaryKey with
  | false =>
    cases draft
    cases hdraft
    exact Json.leads_nil _
  | true =>
    exact Json.leads_member rfl (congrArg Option.isSome hdraft) rfl

theorem leads_length (hdraft : draft.length = none) {length : Option Nat}
    (hsized : ∀ value ∈ length, value ≤ maxLength) :
    Json.Leads (shape Json.format) draft (optionalMember "length" .ofNat length)
      { draft with length := length.map some } := by
  refine leads_optionalMember (fun length => { draft with length := length.map some }) ?_ ?_
  · cases draft
    cases hdraft
    rfl
  · intro value hvalue
    have hcount := Json.count_ofNat (hsized value hvalue) "u32"
    exact Json.leads_member rfl (congrArg Option.isSome hdraft)
      (Format.optionalField_read rfl hcount _)

theorem leads_sequence (hdraft : draft.sequence = none) (sequence : Option String) :
    Json.Leads (shape Json.format) draft (optionalMember "sequence" .ofString sequence)
      { draft with sequence := sequence.map some } := by
  refine leads_optionalMember (fun sequence => { draft with sequence := sequence.map some }) ?_ ?_
  · cases draft
    cases hdraft
    rfl
  · intro value _
    have htext : Json.format.text "a string" (.ofString value) = pure value := rfl
    exact Json.leads_member rfl (congrArg Option.isSome hdraft)
      (Format.optionalField_read rfl htext _)

theorem read_toJson (h : column.IsSized) : read Json.format column.toJson = pure column := by
  have hleads := (((leads_required column).append (leads_primaryKey rfl column.primaryKey)).append
    (leads_length rfl h)).append (leads_sequence rfl column.sequence)
  refine hleads.read ?_
  obtain ⟨name, kind, nullable, primaryKey, length, sequence⟩ := column
  cases primaryKey <;> cases length <;> cases sequence <;> rfl

end Column

/-- A list of columns is read back. -/
theorem list_columns {columns : List Column} (h : ∀ column ∈ columns, column.IsSized) :
    Json.format.list (Column.read Json.format) (.ofList (columns.map Column.toJson)) = pure columns :=
  Json.list_ofList fun column hm => Column.read_toJson (h column hm)

namespace Table

theorem leads_sequences {draft : Draft} (hdraft : draft.sequences = none)
    (sequences : List String) : Json.Leads (shape Json.format) draft
      (if sequences.isEmpty then [] else [("sequences", .ofList (sequences.map .ofString))])
      { draft with sequences := if sequences.isEmpty then none else some sequences } := by
  cases sequences.isEmpty with
  | true =>
    cases draft
    cases hdraft
    exact Json.leads_nil _
  | false =>
    have hlist : Json.format.list (Json.format.text "a string")
        (.ofList (sequences.map .ofString)) = pure sequences := Json.list_ofList fun _ _ => rfl
    exact Json.leads_member rfl (congrArg Option.isSome hdraft) (Format.field_read hlist _)

theorem read_toJson {table : Table} (h : ∀ column ∈ table.columns, column.IsSized) :
    read Json.format table.toJson = pure table := by
  have hname : Json.Leads (shape Json.format) {} [("name", .ofString table.name)]
      { name := some table.name } := Json.leads_member rfl rfl rfl
  have hcolumns : Json.Leads (shape Json.format) { name := some table.name }
      [("columns", .ofList (table.columns.map Column.toJson))]
      { name := some table.name, columns := some table.columns } :=
    Json.leads_member rfl rfl (Format.field_read (list_columns h) _)
  have hleads := (hname.append hcolumns).append (leads_sequences rfl table.sequences)
  refine hleads.read ?_
  obtain ⟨name, columns, sequences⟩ := table
  cases sequences <;> rfl

end Table

theorem View.read_toJson {view : View} (h : ∀ column ∈ view.columns, column.IsSized) :
    read Json.format view.toJson = pure view := by
  have hname : Json.Leads (shape Json.format) {} [("name", .ofString view.name)]
      { name := some view.name } := Json.leads_member rfl rfl rfl
  have hcolumns : Json.Leads (shape Json.format) { name := some view.name }
      [("columns", .ofList (view.columns.map Column.toJson))]
      { name := some view.name, columns := some view.columns } :=
    Json.leads_member rfl rfl (Format.field_read (list_columns h) _)
  exact (hname.append hcolumns).read rfl

namespace Schema

/-- Every length in the schema is a number of 32 bits. -/
structure IsSized (schema : Schema) : Prop where
  tables : ∀ table ∈ schema.tables, ∀ column ∈ table.columns, column.IsSized
  views : ∀ view ∈ schema.views, ∀ column ∈ view.columns, column.IsSized

variable {schema : Schema}

theorem leads_postScript {draft : Draft} (hdraft : draft.postScript = none)
    (postScript : Option Path) : Json.Leads (shape Json.format) draft
      (optionalMember "post_sql_script" (fun path => .ofString path.text) postScript)
      { draft with postScript := postScript.map some } := by
  refine leads_optionalMember (fun postScript => { draft with postScript := postScript.map some })
    ?_ ?_
  · cases draft
    cases hdraft
    rfl
  · intro path _
    refine Json.leads_member rfl (congrArg Option.isSome hdraft)
      (Format.optionalField_read ?_ ?_ _)
    · rfl
    · rfl

theorem read_toJson (h : schema.IsSized) : read Json.format schema.toJson = pure schema := by
  have hname : Json.Leads (shape Json.format) {} [("name", .ofString schema.name)]
      { name := some schema.name } := Json.leads_member rfl rfl rfl
  have hscript := hname.append (leads_postScript rfl schema.postScript)
  have htables : Json.format.list (Table.read Json.format)
      (.ofList (schema.tables.map Table.toJson)) = pure schema.tables :=
    Json.list_ofList fun table hm => Table.read_toJson (h.tables table hm)
  have hviews : Json.format.list (View.read Json.format)
      (.ofList (schema.views.map View.toJson)) = pure schema.views :=
    Json.list_ofList fun view hm => View.read_toJson (h.views view hm)
  have hleadsTables : Json.Leads (shape Json.format)
      { name := some schema.name, postScript := schema.postScript.map some }
      [("tables", .ofList (schema.tables.map Table.toJson))]
      { name := some schema.name, postScript := schema.postScript.map some,
        tables := some schema.tables } :=
    Json.leads_member rfl rfl (Format.field_read htables _)
  have hleadsViews : Json.Leads (shape Json.format)
      { name := some schema.name, postScript := schema.postScript.map some,
        tables := some schema.tables }
      [("views", .ofList (schema.views.map View.toJson))]
      { name := some schema.name, postScript := schema.postScript.map some,
        tables := some schema.tables, views := some schema.views } :=
    Json.leads_member rfl rfl (Format.field_read hviews _)
  refine (hscript.append (hleadsTables.append hleadsViews)).read ?_
  obtain ⟨name, postScript, tables, views⟩ := schema
  cases postScript <;> rfl

end Schema

theorem writable_optionalMember {α : Type} {name : String} {write : α → Json} {value : Option α}
    (h : ∀ v ∈ value, (write v).Writable) :
    ∀ entry ∈ optionalMember name write value, entry.2.Writable := by
  intro entry hm
  cases value with
  | none => cases hm
  | some v =>
    rw [List.mem_singleton.mp hm]
    exact h v rfl

theorem Column.toJson_writable {column : Column} (h : column.IsSized) :
    column.toJson.Writable := by
  have hlength : ∀ length ∈ column.length, (Json.ofNat length).Writable := by
    intro length hm
    have hword : maxLength ≤ Json.maxWord := by decide
    exact Json.writable_ofNat (Nat.le_trans (h length hm) hword)
  refine Json.writable_ofMembers ?_
  rw [List.forall_mem_append, List.forall_mem_append, List.forall_mem_append]
  refine ⟨⟨⟨?_, ?_⟩, writable_optionalMember hlength⟩,
    writable_optionalMember fun sequence _ => Json.writable_ofString sequence⟩
  · simp only [List.forall_mem_cons]
    exact ⟨Json.writable_ofString _, Json.writable_ofString _, Json.writable_boolean _, fun _ hm =>
      nomatch hm⟩
  · split
    · rw [List.forall_mem_singleton]
      exact Json.writable_boolean true
    · exact fun _ hm => nomatch hm

theorem writable_columns {columns : List Column} (h : ∀ column ∈ columns, column.IsSized) :
    (Json.ofList (columns.map Column.toJson)).Writable := by
  refine Json.writable_ofList ?_
  rw [List.forall_mem_map]
  exact fun column hm => Column.toJson_writable (h column hm)

theorem Table.toJson_writable {table : Table} (h : ∀ column ∈ table.columns, column.IsSized) :
    table.toJson.Writable := by
  refine Json.writable_ofMembers ?_
  rw [List.forall_mem_append]
  constructor
  · simp only [List.forall_mem_cons]
    exact ⟨Json.writable_ofString _, writable_columns h, fun _ hm => nomatch hm⟩
  · split
    · exact fun _ hm => nomatch hm
    · rw [List.forall_mem_singleton]
      refine Json.writable_ofList ?_
      rw [List.forall_mem_map]
      exact fun sequence _ => Json.writable_ofString sequence

theorem View.toJson_writable {view : View} (h : ∀ column ∈ view.columns, column.IsSized) :
    view.toJson.Writable := by
  refine Json.writable_ofMembers ?_
  simp only [List.forall_mem_cons]
  exact ⟨Json.writable_ofString _, writable_columns h, fun _ hm => nomatch hm⟩

namespace Schema

variable {schema : Schema}

theorem toJson_writable (h : schema.IsSized) : schema.toJson.Writable := by
  refine Json.writable_ofMembers ?_
  rw [List.forall_mem_append, List.forall_mem_append]
  refine ⟨⟨?_, writable_optionalMember fun path _ => Json.writable_ofString path.text⟩, ?_⟩
  · rw [List.forall_mem_singleton]
    exact Json.writable_ofString _
  · simp only [List.forall_mem_cons]
    refine ⟨Json.writable_ofList ?_, Json.writable_ofList ?_, fun _ hm => nomatch hm⟩
    · rw [List.forall_mem_map]
      exact fun table hm => Table.toJson_writable (h.tables table hm)
    · rw [List.forall_mem_map]
      exact fun view hm => View.toJson_writable (h.views view hm)

/-- A text that holds nothing but the document of a schema gives the schema, if that has a name. -/
theorem ofJson_of_text {text : String} (hname : Text.trim schema.name ≠ "")
    (hsized : schema.IsSized) (htext : JsonText.ofString text = ⟨schema.toJson, false⟩) :
    ofJson text = (.ok schema, []) := by
  have hread : (JsonText.ofString text).read (read Json.format) = pure schema := by
    rw [htext, JsonText.read, read_toJson hsized, pure_bind]
    rfl
  have hblank : Text.isAllBlank schema.name = false := by
    rw [← Bool.not_eq_true, ← Text.trim_eq_empty_iff]
    exact hname
  have hchecked : checkName schema = .ok schema := by
    rw [checkName, hblank]
    rfl
  rw [ofJson, hread, Reading.outcome_pure]
  change (checkName schema, []) = _
  rw [hchecked]

/-- A schema that has a name is read back from the compact and from the indented text of its document,
without a warning. -/
theorem ofJson_toJson (schema : Schema) (hname : Text.trim schema.name ≠ "")
    (hsized : schema.IsSized) :
    ofJson schema.toJson.compact = (.ok schema, []) ∧
      ofJson schema.toJson.indented = (.ok schema, []) := by
  have hwritable := toJson_writable hsized
  exact ⟨ofJson_of_text hname hsized hwritable.ofString_compact,
    ofJson_of_text hname hsized hwritable.ofString_indented⟩

/-- Kinds without a Java type, the greatest length, an empty name, and texts that have to be escaped or
lie beyond 16 bits. -/
theorem ofJson_toJson_odd :
    let odd : Column := ⟨"", .unknown, true, true, some 4294967295, some "\x00\n\\"⟩
    let table : Table := ⟨"a\"b", [odd, ⟨" ", .money, false, false, some 0, none⟩], ["𝄞", ""]⟩
    let view : View := ⟨"\x1f\x7f", [⟨"c", .fraction, false, true, none, none⟩]⟩
    let schema : Schema := ⟨" d\t", some ⟨"/tmp/é.sql"⟩, [table, ⟨"", [], []⟩], [view, view]⟩
    Text.trim schema.name ≠ "" ∧ schema.IsSized ∧
      ofJson schema.toJson.compact = (.ok schema, []) ∧
      ofJson schema.toJson.indented = (.ok schema, []) := by
  intro odd table view schema
  have hname : Text.trim schema.name ≠ "" := by decide +kernel
  have hsized : schema.IsSized := by
    constructor <;> simp [schema, table, view, odd, Column.IsSized, Column.maxLength, UInt32.size]
  exact ⟨hname, hsized, ofJson_toJson schema hname hsized⟩

end Schema

end EntityGen
