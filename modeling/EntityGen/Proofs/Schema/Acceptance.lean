import EntityGen.Proofs.Schema.Walk
import Mathlib.Data.List.TakeWhile
import Mathlib.Tactic.Tauto

/-!
# What an accepted schema is

The rules of a schema without the order in which a walk looks at them: `Identifier.Usable` states them
for a name and `Schema.Acceptable` for a schema. A schema is accepted exactly when it keeps the rules.
-/
namespace EntityGen

/-- A text is blank to the end exactly when nothing is left of it after trimming. -/
theorem Text.trim_eq_empty_iff (text : String) : trim text = "" ↔ isAllBlank text = true := by
  rw [trim, ← String.toList_inj, String.toList_ofList, String.toList_empty, List.reverse_eq_nil_iff,
    List.dropWhile_eq_nil_iff, isAllBlank, List.all_eq_true]
  simp only [List.mem_reverse]
  constructor
  · intro h
    -- a first character that is not blank would be left over
    have hnil : text.toList.dropWhile isBlank = [] := by
      cases hd : text.toList.dropWhile isBlank with
      | nil => rfl
      | cons first rest =>
        have hblank := h first (by rw [hd]; exact List.mem_cons_self)
        have hfirst := List.head_dropWhile_not isBlank (l := text.toList) (by rw [hd]; simp)
        simp only [hd, List.head_cons] at hfirst
        rw [hblank] at hfirst
        exact absurd hfirst (by decide)
    exact List.dropWhile_eq_nil_iff.mp hnil
  · intro h c hc
    exact h c (List.dropWhile_subset isBlank hc)

namespace Identifier

/-- A name that a table, view or column may have. -/
structure Usable (name : String) : Prop where
  notBlank : Text.trim name ≠ ""
  noNull : '\x00' ∉ name.toList
  fits : name.utf8ByteSize ≤ 128

theorem flaw?_eq_none_iff (name : String) : flaw? name = none ↔ Usable name := by
  have hblank := not_congr (Text.trim_eq_empty_iff name)
  constructor
  · intro h
    unfold flaw? at h
    split at h
    · cases h
    · next hb =>
      split at h
      · cases h
      · next hn =>
        split at h
        · cases h
        · next hf =>
          exact ⟨hblank.mpr hb, by rwa [List.contains_iff_mem] at hn, Nat.le_of_not_lt hf⟩
  · rintro ⟨hb, hn, hf⟩
    have hsize : ¬maxBytes < name.utf8ByteSize := Nat.not_lt_of_le hf
    rw [flaw?, if_neg (hblank.mp hb), if_neg (by rwa [List.contains_iff_mem]), if_neg hsize]

end Identifier

theorem nameViolations_eq_nil_iff (name : String) :
    nameViolations name = [] ↔ Identifier.Usable name := by
  rw [← Identifier.flaw?_eq_none_iff, nameViolations]
  cases Identifier.flaw? name with
  | none => simp
  | some flaw => simp

/-- Columns keep the rules when every name is usable and none comes up again. A name that is not
usable is never met, but then the list of breaches is not empty anyway. -/
theorem columnViolations_eq_nil_iff (owner : String) (seen : List String) (columns : List Column) :
    columnViolations owner seen columns = [] ↔
      (∀ column ∈ columns, Identifier.Usable column.name) ∧
        repeats seen (columns.map (·.name)) = [] := by
  induction columns generalizing seen with
  | nil => simp [columnViolations, repeats]
  | cons first rest ih =>
    rw [columnViolations, List.map_cons, repeats, List.forall_mem_cons,
      ← Identifier.flaw?_eq_none_iff]
    cases Identifier.flaw? first.name with
    | some flaw => simp
    | none =>
      by_cases h : seen.contains first.name
      · simp only [h, if_true, List.cons_ne_nil, and_false]
      · simp only [h, Bool.false_eq_true, if_false, true_and]
        exact ih _

theorem Table.sequenceViolations_eq_nil_iff (table : Table) :
    table.sequenceViolations = [] ↔ ∀ sequence ∈ table.sequences, Text.trim sequence ≠ "" := by
  rw [sequenceViolations, List.map_eq_nil_iff, List.filter_eq_nil_iff]
  exact forall₂_congr fun sequence _ => (not_congr (Text.trim_eq_empty_iff sequence)).symm

theorem Table.violations_eq_nil_iff (table : Table) :
    table.violations = [] ↔ Identifier.Usable table.name ∧
      (∀ sequence ∈ table.sequences, Text.trim sequence ≠ "") ∧
      (∀ column ∈ table.columns, Identifier.Usable column.name) ∧
      (table.columns.map (·.name)).Nodup := by
  rw [violations, List.append_eq_nil_iff, List.append_eq_nil_iff, nameViolations_eq_nil_iff,
    sequenceViolations_eq_nil_iff, columnViolations_eq_nil_iff, repeats_nil_eq_nil_iff, and_assoc]

theorem View.violations_eq_nil_iff (view : View) :
    view.violations = [] ↔ Identifier.Usable view.name ∧
      (∀ column ∈ view.columns, Identifier.Usable column.name) ∧
      (view.columns.map (·.name)).Nodup := by
  rw [violations, List.append_eq_nil_iff, nameViolations_eq_nil_iff, columnViolations_eq_nil_iff,
    repeats_nil_eq_nil_iff]

namespace Schema

/-- The rules of a schema. -/
structure Acceptable (schema : Schema) : Prop where
  tableNames : ∀ table ∈ schema.tables, Identifier.Usable table.name
  viewNames : ∀ view ∈ schema.views, Identifier.Usable view.name
  tableColumns : ∀ table ∈ schema.tables, ∀ column ∈ table.columns, Identifier.Usable column.name
  viewColumns : ∀ view ∈ schema.views, ∀ column ∈ view.columns, Identifier.Usable column.name
  sequenceNames : ∀ table ∈ schema.tables, ∀ sequence ∈ table.sequences, Text.trim sequence ≠ ""
  tableColumnsDiffer : ∀ table ∈ schema.tables, (table.columns.map (·.name)).Nodup
  viewColumnsDiffer : ∀ view ∈ schema.views, (view.columns.map (·.name)).Nodup
  /-- Tables and views share one space of names. -/
  entitiesDiffer : (schema.tables.map (·.name) ++ schema.views.map (·.name)).Nodup
  /-- So do the sequences that tables declare and the ones that columns of tables name. -/
  sequencesDiffer : (schema.tables.flatMap fun table =>
    table.sequences ++ table.columns.filterMap (·.sequence)).Nodup

/-- The tables are without fault when each keeps its own rules and no name comes up again in the
whole list, whatever was met before them. -/
theorem tableFaults_eq_nil_iff (database : String) (seen : Seen) (tables : List Table) :
    faultsAlong (tableFaults database) Seen.withTable seen tables = [] ↔
      (∀ table ∈ tables, table.violations = []) ∧
        repeats seen.entities (tables.map (·.name)) = [] ∧
        repeats seen.sequences (tables.flatMap (·.sequenceNames)) = [] := by
  induction tables generalizing seen with
  | nil => simp [faultsAlong, repeats]
  | cons first rest ih =>
    rw [faultsAlong, tableFaults, List.map_cons, List.flatMap_cons, List.forall_mem_cons,
      repeats_cons _ _ (rest.map (·.name)), repeats_append]
    simp only [List.append_eq_nil_iff, List.map_eq_nil_iff, ih, Seen.withTable]
    tauto

theorem viewFaults_eq_nil_iff (database : String) (seen : Seen) (views : List View) :
    faultsAlong (viewFaults database) Seen.withView seen views = [] ↔
      (∀ view ∈ views, view.violations = []) ∧
        repeats seen.entities (views.map (·.name)) = [] := by
  induction views generalizing seen with
  | nil => simp [faultsAlong, repeats]
  | cons first rest ih =>
    rw [faultsAlong, viewFaults, List.map_cons, List.forall_mem_cons,
      repeats_cons _ _ (rest.map (·.name))]
    simp only [List.append_eq_nil_iff, List.map_eq_nil_iff, ih, Seen.withView]
    tauto

theorem seenTables_entities (schema : Schema) :
    schema.seenTables.entities = meet [] (schema.tables.map (·.name)) := by
  have hfold : ∀ (tables : List Table) (seen : Seen),
      (tables.foldl Seen.withTable seen).entities = meet seen.entities (tables.map (·.name)) := by
    intro tables
    induction tables with
    | nil => intro seen; rfl
    | cons first rest ih =>
      intro seen
      rw [List.foldl_cons, ih]
      exact (meet_append seen.entities [first.name] (rest.map (·.name))).symm
  exact hfold schema.tables _

/-- A schema has no fault exactly when it keeps the rules. -/
theorem faults_eq_nil_iff (schema : Schema) : schema.faults = [] ↔ schema.Acceptable := by
  have hentities : (repeats [] (schema.tables.map (·.name)) = [] ∧
      repeats schema.seenTables.entities (schema.views.map (·.name)) = []) ↔
      (schema.tables.map (·.name) ++ schema.views.map (·.name)).Nodup := by
    rw [seenTables_entities, ← List.append_eq_nil_iff, ← repeats_append, repeats_nil_eq_nil_iff]
  rw [faults, List.append_eq_nil_iff, tableFaults_eq_nil_iff, viewFaults_eq_nil_iff,
    repeats_nil_eq_nil_iff (schema.tables.flatMap _)]
  simp only [Table.violations_eq_nil_iff, View.violations_eq_nil_iff]
  constructor
  · rintro ⟨⟨ht, hte, hts⟩, hv, hve⟩
    exact
      { tableNames := fun table h => (ht table h).1
        viewNames := fun view h => (hv view h).1
        tableColumns := fun table h => (ht table h).2.2.1
        viewColumns := fun view h => (hv view h).2.1
        sequenceNames := fun table h => (ht table h).2.1
        tableColumnsDiffer := fun table h => (ht table h).2.2.2
        viewColumnsDiffer := fun view h => (hv view h).2.2
        entitiesDiffer := hentities.mp ⟨hte, hve⟩
        sequencesDiffer := hts }
  · intro h
    obtain ⟨hte, hve⟩ := hentities.mpr h.entitiesDiffer
    refine ⟨⟨?_, hte, h.sequencesDiffer⟩, ?_, hve⟩
    · intro table ht
      exact ⟨h.tableNames table ht, h.sequenceNames table ht, h.tableColumns table ht,
        h.tableColumnsDiffer table ht⟩
    · intro view hv
      exact ⟨h.viewNames view hv, h.viewColumns view hv, h.viewColumnsDiffer view hv⟩

/-- Checking is sound and complete for the rules. -/
theorem check_eq_ok_iff (schema : Schema) : schema.check = .ok () ↔ schema.Acceptable := by
  rw [check_eq_ok_iff_faults, faults_eq_nil_iff]

end Schema
end EntityGen
