import EntityGen.Proofs.Document.Parts
import EntityGen.Schema.Load

/-!
# Types that are not understood

A document is read with one warning for every column whose type names no kind, in the order of the
text, and these columns have the unknown kind, as have those that ask for it by name. Types elsewhere
are passed over.
-/
namespace EntityGen

open Document Document.Reading

namespace TypeText

/-- The type names no kind. A name is read without the blanks around it and without regard to the
case of ASCII letters. -/
def IsForeign : TypeText → Prop
  | code value => ∀ entry ∈ Kind.typeCodes, entry.1 ≠ value
  | name text => ∀ kind ∈ Kind.all, Text.eqIgnoringAsciiCase kind.name (Text.trim text) = false

instance : DecidablePred IsForeign
  | code value => inferInstanceAs (Decidable (∀ entry ∈ Kind.typeCodes, entry.1 ≠ value))
  | name text => inferInstanceAs (Decidable
      (∀ kind ∈ Kind.all, Text.eqIgnoringAsciiCase kind.name (Text.trim text) = false))

/-- The type is the name of the unknown kind. -/
def SpellsUnknown : TypeText → Prop
  | code _ => False
  | name text => Text.eqIgnoringAsciiCase "UNKNOWN" (Text.trim text) = true

theorem kind?_eq_none_iff (type : TypeText) : type.kind? = none ↔ type.IsForeign := by
  cases type with
  | code value =>
    rw [kind?, Kind.ofTypeCode?, List.lookup_eq_none_iff]
    refine forall₂_congr fun entry _ => ?_
    rw [bne_iff_ne, ne_comm]
  | name text =>
    rw [kind?, Kind.ofName?, List.find?_eq_none]
    exact forall₂_congr fun kind _ => Bool.eq_false_iff.symm

theorem kind?_eq_unknown_iff (type : TypeText) :
    type.kind? = some .unknown ↔ type.SpellsUnknown := by
  cases type with
  | code value =>
    have hcodes : ∀ entry ∈ Kind.typeCodes, entry.2 ≠ .unknown := by decide
    refine iff_of_false ?_ id
    intro hkind
    obtain ⟨front, back, hsplit, -⟩ := List.lookup_eq_some_iff.mp hkind
    have hm : (value, Kind.unknown) ∈ Kind.typeCodes := by
      rw [hsplit]
      exact List.mem_append_right front List.mem_cons_self
    exact hcodes _ hm rfl
  | name text =>
    have hall : Kind.all = .unknown :: Kind.all.tail := rfl
    have hname : Kind.name .unknown = "UNKNOWN" := rfl
    rw [kind?, Kind.ofName?, hall, List.find?_cons, SpellsUnknown, ← hname]
    cases Text.eqIgnoringAsciiCase (Kind.name .unknown) (Text.trim text) with
    | true => exact iff_of_true rfl rfl
    | false =>
      refine iff_of_false ?_ Bool.false_ne_true
      intro hfind
      exact absurd (List.mem_of_find?_eq_some hfind) (by decide)

/-- What is noted for a column of the type. -/
def notes (type : TypeText) : List Warning := type.classify.2.toList

theorem notes_eq (type : TypeText) :
    type.notes = if type.IsForeign then [type.unknown] else [] := by
  rw [notes, classify]
  cases hkind : type.kind? with
  | none =>
    rw [if_pos ((kind?_eq_none_iff type).mp hkind)]
    rfl
  | some kind =>
    rw [if_neg fun h => nomatch hkind.symm.trans ((kind?_eq_none_iff type).mpr h)]
    rfl

theorem flatMap_notes (types : List TypeText) :
    types.flatMap notes = (types.filter fun type => type.IsForeign).map unknown := by
  induction types with
  | nil => rfl
  | cons type rest ih =>
    rw [List.flatMap_cons, notes_eq, ih]
    by_cases h : type.IsForeign
    · rw [if_pos h, List.filter_cons_of_pos (by simpa using h)]
      rfl
    · rw [if_neg h, List.filter_cons_of_neg (by simpa using h)]
      rfl

theorem classify_eq_unknown_iff (type : TypeText) :
    type.classify.1 = .unknown ↔ type.IsForeign ∨ type.SpellsUnknown := by
  rw [← kind?_eq_none_iff, ← kind?_eq_unknown_iff, classify]
  cases type.kind? with
  | none => exact iff_of_true rfl (.inl rfl)
  | some kind => simp

end TypeText

namespace Document.Json

/-- The type that a value gives a column: a text is a name, and an integer of 32 bits is a code. -/
def typeText? : Json → Option TypeText
  | string (some name) => some (.name name)
  | number (some (.natural value)) => TypeText.ofInt? value
  | number (some (.negative magnitude)) => TypeText.ofInt? (-magnitude)
  | _ => none

theorem ensures_readTypeText? (node : Json) :
    (readTypeText? node).Ensures fun found noted => noted = [] ∧ found = node.typeText? := by
  refine (quiet_readAny typeLevels node).bind fun _ => ?_
  split
  · exact ensures_pure ⟨rfl, rfl⟩
  · exact ensures_pure ⟨rfl, rfl⟩
  · exact ensures_pure ⟨rfl, rfl⟩
  · next hname hnatural hnegative =>
    refine ensures_pure ⟨rfl, ?_⟩
    unfold typeText?
    split
    · next name => exact absurd rfl (hname name)
    · next value => exact absurd rfl (hnatural value)
    · next magnitude => exact absurd rfl (hnegative magnitude)
    · rfl

end Document.Json

namespace Column

/-- The types that a column's node gives. -/
def typeTexts (node : Json) : List TypeText :=
  ((shape Json.format).values "type" node).filterMap Json.typeText?

/-- The node gives the column one type, and the kind is unknown when the type names none or asks for
the unknown one. -/
def IsTypedBy (node : Json) (column : Column) : Prop :=
  ∃ type : TypeText, typeTexts node = [type] ∧
    (column.kind = .unknown ↔ type.IsForeign ∨ type.SpellsUnknown)

theorem ensures_kindOf (type : TypeText) :
    (kindOf type).Ensures fun kind noted => kind = type.classify.1 ∧ noted = type.notes := by
  unfold kindOf TypeText.notes
  split
  · next kind hclassify =>
    rw [hclassify]
    exact ensures_pure ⟨rfl, rfl⟩
  · next kind warning hclassify =>
    rw [hclassify]
    refine (ensures_warn warning).bind fun _ noted hnoted => ensures_pure ?_
    exact ⟨rfl, by rw [hnoted]; rfl⟩

theorem puts_typeField : (typeField Json.format).Puts Draft.kind
    (fun value kind => ∃ type : TypeText, value.typeText? = some type ∧ kind = type.classify.1)
    (fun value => value.typeText?.toList.flatMap TypeText.notes) where
  isSet _ := rfl
  read := by
    intro step value draft
    refine ((Json.ensures_readTypeText? value).within step).bind fun found _ hfound => ?_
    obtain ⟨rfl, rfl⟩ := hfound
    split
    · exact ensures_refuse _
    · next type htype =>
      refine (ensures_kindOf type).bind fun kind noted hkind => ensures_pure ?_
      obtain ⟨rfl, rfl⟩ := hkind
      refine ⟨?_, _, rfl, type, htype, rfl⟩
      rw [htype, List.append_nil, Option.toList_some, List.flatMap_singleton]
      rfl

/-- What is noted for a column's node. -/
def notes (node : Json) : List Warning := (typeTexts node).flatMap TypeText.notes

theorem takesOnly_type : (shape Json.format).TakesOnly "type" Draft.kind
    (fun value kind => ∃ type : TypeText, value.typeText? = some type ∧ kind = type.classify.1)
    (fun value => value.typeText?.toList.flatMap TypeText.notes) where
  names_nodup := by decide
  known := by decide
  start := rfl
  fields := by
    simp only [shape, List.forall_mem_cons]
    refine ⟨.inr ⟨by decide, ?_⟩, .inl ⟨rfl, puts_typeField⟩, .inr ⟨by decide, ?_⟩,
      .inr ⟨by decide, ?_⟩, .inr ⟨by decide, ?_⟩, .inr ⟨by decide, ?_⟩, List.forall_mem_nil _⟩
    · exact Format.field_keeps (Json.quiet_readText _) fun _ _ => rfl
    · exact Format.field_keeps Json.quiet_readFlag fun _ _ => rfl
    · exact Format.field_keeps Json.quiet_readFlag fun _ _ => rfl
    · exact Format.optionalField_keeps (Json.quiet_readCount _ _) fun _ _ => rfl
    · exact Format.optionalField_keeps (Json.quiet_readText _) fun _ _ => rfl

theorem kind_of_finish {draft : Draft} {column : Column}
    (h : (shape Json.format).finish draft = .ok column) : draft.kind = some column.kind := by
  obtain ⟨name, kind, nullable, primaryKey, length, sequence⟩ := draft
  cases name with
  | none => cases h
  | some name =>
    cases kind with
    | none => cases h
    | some kind =>
      cases h
      rfl

theorem ensures_read (node : Json) : (read Json.format node).Ensures fun column noted =>
    IsTypedBy node column ∧ noted = notes node := by
  refine (takesOnly_type.read node).mono fun column noted hread => ?_
  obtain ⟨hnoted, draft, hfinish, hfits⟩ := hread
  constructor
  · rw [kind_of_finish hfinish] at hfits
    obtain ⟨value, values, ⟨type, htype, hkind⟩, hrest, hvalues⟩ :=
      List.forall₂_cons_right_iff.mp hfits
    rw [List.forall₂_nil_right_iff.mp hrest] at hvalues
    refine ⟨type, ?_, ?_⟩
    · rw [typeTexts, hvalues, List.filterMap_cons, htype]
      rfl
    · rw [hkind]
      exact type.classify_eq_unknown_iff
  · rw [hnoted, notes, typeTexts, List.filterMap_eq_flatMap_toList, List.flatMap_assoc]

end Column

/-- A record that reads types nowhere but in its list of columns has columns that are typed by their
nodes, with the notes of these. -/
theorem ensures_columns {δ ρ : Type} {shape : RecordShape Json δ ρ}
    {get : δ → Option (List Column)} {columns : ρ → List Column}
    (h : shape.TakesOnly "columns" get
      (fun value columns => List.Forall₂ Column.IsTypedBy value.elements columns)
      (fun value => value.elements.flatMap Column.notes))
    (hfinish : ∀ draft record, shape.finish draft = .ok record →
      columns record = (get draft).getD []) (node : Json) :
    (shape.read Json.format node).Ensures fun record noted =>
      List.Forall₂ Column.IsTypedBy (shape.items "columns" node) (columns record) ∧
        noted = (shape.items "columns" node).flatMap Column.notes := by
  refine (h.read node).mono fun record noted hread => ?_
  obtain ⟨hnoted, draft, hdraft, hfits⟩ := hread
  constructor
  · rw [hfinish draft record hdraft]
    exact RecordShape.forall₂_items hfits
  · rw [hnoted, RecordShape.items, List.flatMap_assoc]

namespace Table

/-- The nodes of a table's columns. -/
def columnNodes (node : Json) : List Json := (shape Json.format).items "columns" node

/-- The columns of the table are typed by those of its node. -/
def IsTypedBy (node : Json) (table : Table) : Prop :=
  List.Forall₂ Column.IsTypedBy (columnNodes node) table.columns

theorem takesOnly_columns : (shape Json.format).TakesOnly "columns" Draft.columns
    (fun value columns => List.Forall₂ Column.IsTypedBy value.elements columns)
    (fun value => value.elements.flatMap Column.notes) where
  names_nodup := by decide
  known := by decide
  start := rfl
  fields := by
    simp only [shape, List.forall_mem_cons]
    refine ⟨.inr ⟨by decide, ?_⟩, .inl ⟨rfl, ?_⟩, .inr ⟨by decide, ?_⟩, List.forall_mem_nil _⟩
    · exact Format.field_keeps (Json.quiet_readText _) fun _ _ => rfl
    · exact Format.puts_list Column.ensures_read (fun _ => rfl) fun _ _ => rfl
    · exact Format.field_keeps (Format.quiet_list (Json.quiet_readText _)) fun _ _ => rfl

theorem columns_of_finish (draft : Draft) (table : Table)
    (h : (shape Json.format).finish draft = .ok table) :
    table.columns = draft.columns.getD [] := by
  obtain ⟨name, columns, sequences⟩ := draft
  cases name with
  | none => cases h
  | some name =>
    cases h
    rfl

theorem ensures_read (node : Json) : (read Json.format node).Ensures fun table noted =>
    IsTypedBy node table ∧ noted = (columnNodes node).flatMap Column.notes :=
  ensures_columns takesOnly_columns columns_of_finish node

end Table

namespace View

/-- The nodes of a view's columns. -/
def columnNodes (node : Json) : List Json := (shape Json.format).items "columns" node

/-- The columns of the view are typed by those of its node. -/
def IsTypedBy (node : Json) (view : View) : Prop :=
  List.Forall₂ Column.IsTypedBy (columnNodes node) view.columns

theorem takesOnly_columns : (shape Json.format).TakesOnly "columns" Draft.columns
    (fun value columns => List.Forall₂ Column.IsTypedBy value.elements columns)
    (fun value => value.elements.flatMap Column.notes) where
  names_nodup := by decide
  known := by decide
  start := rfl
  fields := by
    simp only [shape, List.forall_mem_cons]
    refine ⟨.inr ⟨by decide, ?_⟩, .inl ⟨rfl, ?_⟩, List.forall_mem_nil _⟩
    · exact Format.field_keeps (Json.quiet_readText _) fun _ _ => rfl
    · exact Format.puts_list Column.ensures_read (fun _ => rfl) fun _ _ => rfl

theorem columns_of_finish (draft : Draft) (view : View)
    (h : (shape Json.format).finish draft = .ok view) : view.columns = draft.columns.getD [] := by
  obtain ⟨name, columns⟩ := draft
  cases name with
  | none => cases h
  | some name =>
    cases h
    rfl

theorem ensures_read (node : Json) : (read Json.format node).Ensures fun view noted =>
    IsTypedBy node view ∧ noted = (columnNodes node).flatMap Column.notes :=
  ensures_columns takesOnly_columns columns_of_finish node

end View

namespace Schema

/-- The nodes of the columns in a part of a schema. -/
def columnNodesOf (part : String × Json) : List Json :=
  if part.1 = "tables" then part.2.elements.flatMap Table.columnNodes
  else if part.1 = "views" then part.2.elements.flatMap View.columnNodes
  else []

theorem columnNodesOf_tables (value : Json) :
    columnNodesOf ("tables", value) = value.elements.flatMap Table.columnNodes := if_pos rfl

theorem columnNodesOf_views (value : Json) :
    columnNodesOf ("views", value) = value.elements.flatMap View.columnNodes := by
  rw [columnNodesOf, if_neg (show "views" ≠ "tables" by decide), if_pos rfl]

theorem columnNodesOf_other {name : String} (htables : name ≠ "tables") (hviews : name ≠ "views")
    (value : Json) : columnNodesOf (name, value) = [] := by
  rw [columnNodesOf, if_neg htables, if_neg hviews]

/-- The nodes of a schema's columns, in the order of the text. -/
def columnNodes (root : Json) : List Json :=
  ((shape Json.format).parts root).flatMap columnNodesOf

/-- How a draft changes when a part is read. -/
structure Reads (name : String) (value : Json) (draft after : Draft) (noted : List Warning) :
    Prop where
  noted : noted = (columnNodesOf (name, value)).flatMap Column.notes
  tables : (name = "tables" ∧ ∃ tables, after.tables = some tables ∧
      List.Forall₂ Table.IsTypedBy value.elements tables) ∨
    (name ≠ "tables" ∧ after.tables = draft.tables)
  views : (name = "views" ∧ ∃ views, after.views = some views ∧
      List.Forall₂ View.IsTypedBy value.elements views) ∨
    (name ≠ "views" ∧ after.views = draft.views)

theorem reads_of_keeps {field : Document.Field Json Draft} (htables : field.name ≠ "tables")
    (hviews : field.name ≠ "views") (h : field.Keeps fun draft => (draft.tables, draft.views))
    (step : Step) (value : Json) (draft : Draft) :
    (field.read step value draft).Ensures (Reads field.name value draft) := by
  refine (h step value draft).mono fun after noted hread => ?_
  obtain ⟨hnoted, hsame⟩ := hread
  refine ⟨?_, .inr ⟨htables, congrArg Prod.fst hsame⟩, .inr ⟨hviews, congrArg Prod.snd hsame⟩⟩
  rw [hnoted, columnNodesOf_other htables hviews, List.flatMap_nil]

theorem ensures_field : ∀ field ∈ (shape Json.format).fields, ∀ step value draft,
    (field.read step value draft).Ensures (Reads field.name value draft) := by
  simp only [shape, List.forall_mem_cons]
  refine ⟨reads_of_keeps (by decide) (by decide) ?_, reads_of_keeps (by decide) (by decide) ?_,
    fun step value draft => ?_, fun step value draft => ?_, List.forall_mem_nil _⟩
  · exact Format.field_keeps (Json.quiet_readText _) fun _ _ => rfl
  · refine Format.optionalField_keeps (fun node => ?_) fun _ _ => rfl
    exact (Json.quiet_readText "path string" node).bind fun text => quiet_pure (Path.mk text)
  · refine Format.field_ensures ((Format.list_ensures Table.ensures_read value).mono ?_)
    intro tables noted hread
    refine ⟨?_, .inl ⟨rfl, tables, rfl, hread.1⟩, .inr ⟨by decide, rfl⟩⟩
    change noted = (columnNodesOf ("tables", value)).flatMap Column.notes
    rw [hread.2, columnNodesOf_tables, List.flatMap_assoc]
  · refine Format.field_ensures ((Format.list_ensures View.ensures_read value).mono ?_)
    intro views noted hread
    refine ⟨?_, .inr ⟨by decide, rfl⟩, .inl ⟨rfl, views, rfl, hread.1⟩⟩
    change noted = (columnNodesOf ("views", value)).flatMap Column.notes
    rw [hread.2, columnNodesOf_views, List.flatMap_assoc]

theorem names_nodup : (shape Json.format).names.Nodup := by decide

theorem notes_columns :
    (shape Json.format).Notes fun part => (columnNodesOf part).flatMap Column.notes where
  unknown := by
    intro name hname value
    have htables : name ≠ "tables" := fun h => hname (h ▸ by decide)
    have hviews : name ≠ "views" := fun h => hname (h ▸ by decide)
    rw [columnNodesOf_other htables hviews, List.flatMap_nil]
  field field hfield step value draft :=
    (ensures_field field hfield step value draft).mono fun _ _ hreads => hreads.noted

theorem takes_tables : (shape Json.format).Takes "tables" Draft.tables
    fun value tables => List.Forall₂ Table.IsTypedBy value.elements tables where
  known := by decide
  start := rfl
  isSet := by
    simp only [shape, List.forall_mem_cons]
    refine ⟨fun h => absurd h (by decide), fun h => absurd h (by decide), fun _ _ => rfl,
      fun h => absurd h (by decide), List.forall_mem_nil _⟩
  field field hfield step value draft :=
    (ensures_field field hfield step value draft).mono fun _ _ hreads => hreads.tables

theorem takes_views : (shape Json.format).Takes "views" Draft.views
    fun value views => List.Forall₂ View.IsTypedBy value.elements views where
  known := by decide
  start := rfl
  isSet := by
    simp only [shape, List.forall_mem_cons]
    refine ⟨fun h => absurd h (by decide), fun h => absurd h (by decide),
      fun h => absurd h (by decide), fun _ _ => rfl, List.forall_mem_nil _⟩
  field field hfield step value draft :=
    (ensures_field field hfield step value draft).mono fun _ _ hreads => hreads.views

/-- The tables and views of the schema are typed by those of its node. -/
structure IsTypedBy (root : Json) (schema : Schema) : Prop where
  tables : List.Forall₂ Table.IsTypedBy ((shape Json.format).items "tables" root) schema.tables
  views : List.Forall₂ View.IsTypedBy ((shape Json.format).items "views" root) schema.views

theorem lists_of_finish {draft : Draft} {schema : Schema}
    (h : (shape Json.format).finish draft = .ok schema) :
    schema.tables = draft.tables.getD [] ∧ schema.views = draft.views.getD [] := by
  obtain ⟨name, postScript, tables, views⟩ := draft
  cases name with
  | none => cases h
  | some name =>
    cases h
    exact ⟨rfl, rfl⟩

theorem ensures_read (root : Json) : (read Json.format root).Ensures fun schema noted =>
    IsTypedBy root schema ∧ noted = (columnNodes root).flatMap Column.notes := by
  refine ((takes_tables.read names_nodup root).and ((takes_views.read names_nodup root).and
    (notes_columns.read names_nodup root))).mono fun schema noted hread => ?_
  obtain ⟨⟨draft, hdraft, htables⟩, ⟨other, hother, hviews⟩, hnoted⟩ := hread
  refine ⟨⟨?_, ?_⟩, ?_⟩
  · rw [(lists_of_finish hdraft).1]
    exact RecordShape.forall₂_items htables
  · rw [(lists_of_finish hother).2]
    exact RecordShape.forall₂_items hviews
  · rw [hnoted, columnNodes, List.flatMap_assoc]

theorem ensures_readText (doc : JsonText) :
    (doc.read (read Json.format)).Ensures fun schema noted =>
      IsTypedBy doc.root schema ∧ noted = (columnNodes doc.root).flatMap Column.notes := by
  refine (ensures_read doc.root).bind fun schema noted hschema => ?_
  split
  · exact ensures_fail _
  · refine ensures_pure ?_
    rw [List.append_nil]
    exact hschema

theorem eq_of_checkName {found schema : Schema} (h : checkName found = .ok schema) :
    found = schema := by
  unfold checkName at h
  split at h
  · cases h
  · exact Except.ok.inj h

/-- The check of the name behind a reading changes neither the schema nor the warnings. -/
theorem outcome_of_ofJson {text : String} {schema : Schema} {warnings : List Warning}
    (h : ofJson text = (.ok schema, warnings)) :
    ((JsonText.ofString text).read (read Json.format)).outcome = (.ok schema, warnings) := by
  unfold ofJson at h
  split at h
  next result noted houtcome =>
    obtain ⟨hresult, rfl⟩ := Prod.mk.inj h
    cases result with
    | error failure => cases hresult
    | ok found => rw [houtcome, eq_of_checkName hresult]

/-- A text that is accepted as a schema is read with one warning for every column whose type is
foreign, in the order of the text. These columns and those that spell the unknown kind have it, and
no other. -/
theorem unknown_types_noted {text : String} {schema : Schema} {warnings : List Warning}
    (h : ofJson text = (.ok schema, warnings)) :
    warnings = (((columnNodes (JsonText.ofString text).root).flatMap Column.typeTexts).filter
        fun type => type.IsForeign).map TypeText.unknown ∧
      IsTypedBy (JsonText.ofString text).root schema := by
  obtain ⟨htyped, hnoted⟩ := (ensures_readText _).outcome (outcome_of_ofJson h)
  refine ⟨?_, htyped⟩
  rw [hnoted, ← TypeText.flatMap_notes, List.flatMap_assoc]
  rfl

/-- The views come before the tables, a type before a name or in a list without names, and a member
that is passed over has a table of its own. -/
theorem unknown_types_noted_odd :
    let positional : Json := .ofList [.ofString "a", .ofString " Text\t"]
    let spelled : Json := .ofMembers [("type", .ofString " unknown"), ("name", .ofString "b")]
    let coded : Json := .ofMembers [("name", .ofString "c"), ("type", .ofNat 1111)]
    let known : Json := .ofMembers [("type", .ofString "\nVarChar "), ("name", .ofString "d")]
    let part (columns : List Json) : Json :=
      .ofMembers [("columns", .ofList columns), ("name", .ofString "p")]
    let root : Json := .ofMembers [("views", .ofList [part [positional, spelled]]),
      ("more", .ofMembers [("tables", .ofList [part [positional]])]),
      ("tables", .ofList [part [known, coded]]), ("name", .ofString "s")]
    ∃ schema, ofJson root.compact =
        (.ok schema, [.unknownTypeName " Text\t", .unknownTypeCode 1111]) ∧
      [.unknownTypeName " Text\t", .unknownTypeCode 1111] =
        (((columnNodes (JsonText.ofString root.compact).root).flatMap Column.typeTexts).filter
          fun type => type.IsForeign).map TypeText.unknown ∧
      IsTypedBy (JsonText.ofString root.compact).root schema := by
  intro positional spelled coded known part root
  let column (name : String) (kind : Kind) : Column := ⟨name, kind, false, false, none, none⟩
  let schema : Schema := ⟨"s", none, [⟨"p", [column "d" .varchar, column "c" .unknown], []⟩],
    [⟨"p", [column "a" .unknown, column "b" .unknown]⟩]⟩
  have h : ofJson root.compact =
      (.ok schema, [.unknownTypeName " Text\t", .unknownTypeCode 1111]) := by
    -- only the characters of the text are left to be computed
    rw [ofJson, JsonText.ofString, Json.compact, String.toList_ofList]
    decide +kernel
  exact ⟨schema, h, unknown_types_noted h⟩

end Schema

end EntityGen
