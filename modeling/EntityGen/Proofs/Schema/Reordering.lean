import EntityGen.Proofs.Schema.Acceptance
import Mathlib.Data.List.Flatten
import Mathlib.Data.List.Forall2
import Mathlib.Data.List.Perm.Basic

/-!
# Violations in another order

Which of two equal names counts as the one that comes up again depends on the order in which they are
met, but how often a name comes up again does not. So a schema whose parts are put in another order
breaks the same rules equally often, and is accepted or refused as before.
-/
namespace EntityGen

/-- A name that was met before comes up again each time, and a new one each time but the first. -/
theorem count_repeats (seen names : List String) (name : String) :
    (repeats seen names).count name =
      if name ∈ seen then names.count name else names.count name - 1 := by
  induction names generalizing seen with
  | nil => simp [repeats]
  | cons first rest ih =>
    rw [repeats, List.count_cons]
    by_cases hfirst : first ∈ seen
    · rw [if_pos (List.contains_iff_mem.mpr hfirst), List.count_cons, ih]
      by_cases hname : name ∈ seen
      · rw [if_pos hname, if_pos hname]
      · have hne : first ≠ name := fun he => hname (he ▸ hfirst)
        simp [hname, hne]
    · rw [if_neg (by rwa [List.contains_iff_mem]), ih]
      by_cases he : first = name
      · subst he
        simp [hfirst]
      · simp [he, Ne.symm he]

/-- What comes up again does not depend on the order of the names, nor on how the names before them
were met. -/
theorem repeats_perm {seen seen' names names' : List String}
    (hseen : ∀ name, name ∈ seen ↔ name ∈ seen') (hnames : names.Perm names') :
    (repeats seen names).Perm (repeats seen' names') := by
  rw [List.perm_iff_count]
  intro name
  rw [count_repeats, count_repeats, hnames.count_eq]
  simp only [hseen]

theorem repeats_nil_perm {names names' : List String} (h : names.Perm names') :
    (repeats [] names).Perm (repeats [] names') :=
  repeats_perm (fun _ => Iff.rfl) h

/-- Lists whose members correspond have corresponding parts up to order. -/
theorem flatMap_perm {α β : Type} {related : α → α → Prop} {f : α → List β}
    (hf : ∀ a b, related a b → (f a).Perm (f b)) {as bs : List α} (h : as.Forall₂ related bs) :
    (as.flatMap f).Perm (bs.flatMap f) := by
  induction h with
  | nil => exact .nil
  | cons hfirst _ ih =>
    rw [List.flatMap_cons, List.flatMap_cons]
    exact (hf _ _ hfirst).append ih

/-- The breach of a column whose name is not usable. -/
def columnFlaw? (owner : String) (column : Column) : Option Fault :=
  (Identifier.flaw? column.name).map fun flaw =>
    .invalidTable owner ("column " ++ flaw.message)

/-- The names of columns that are compared with each other. -/
def comparedNames (columns : List Column) : List String :=
  (columns.filter fun column => (Identifier.flaw? column.name).isNone).map (·.name)

/-- Up to order the breaches of columns are the names that are not usable and, among the other ones,
the names that come up again. -/
theorem columnViolations_perm_parts (owner : String) (seen : List String) (columns : List Column) :
    (columnViolations owner seen columns).Perm
      (columns.filterMap (columnFlaw? owner) ++
        (repeats seen (comparedNames columns)).map (.duplicateColumn owner)) := by
  induction columns generalizing seen with
  | nil => exact .nil
  | cons column rest ih =>
    rw [columnViolations, List.filterMap_cons, columnFlaw?]
    cases hflaw : Identifier.flaw? column.name with
    | some flaw =>
      have hnames : comparedNames (column :: rest) = comparedNames rest := by
        simp [comparedNames, hflaw]
      rw [hnames]
      exact (ih seen).cons _
    | none =>
      have hnames : comparedNames (column :: rest) = column.name :: comparedNames rest := by
        simp [comparedNames, hflaw]
      rw [hnames, repeats]
      dsimp only [Option.map_none]
      split
      · rw [List.map_cons]
        exact ((ih seen).cons _).trans List.perm_middle.symm
      · exact ih _

theorem columnViolations_perm (owner : String) {columns columns' : List Column}
    (h : columns.Perm columns') :
    (columnViolations owner [] columns).Perm (columnViolations owner [] columns') := by
  have hnames : (comparedNames columns).Perm (comparedNames columns') := (h.filter _).map _
  calc (columnViolations owner [] columns).Perm _ := columnViolations_perm_parts owner [] columns
    List.Perm _ _ := (h.filterMap _).append ((repeats_nil_perm hnames).map _)
    List.Perm _ _ := (columnViolations_perm_parts owner [] columns').symm

/-- The columns and the declared sequences of a table in another order. -/
structure Table.Reordered (table other : Table) : Prop where
  name : table.name = other.name
  columns : table.columns.Perm other.columns
  sequences : table.sequences.Perm other.sequences

/-- The columns of a view in another order. -/
structure View.Reordered (view other : View) : Prop where
  name : view.name = other.name
  columns : view.columns.Perm other.columns

namespace Table.Reordered

variable {table other : Table}

theorem sequenceNames (h : table.Reordered other) :
    table.sequenceNames.Perm other.sequenceNames :=
  h.sequences.append (h.columns.filterMap _)

theorem violations (h : table.Reordered other) : table.violations.Perm other.violations := by
  have hsequences : table.sequenceViolations.Perm other.sequenceViolations := by
    rw [sequenceViolations, sequenceViolations, h.name]
    exact (h.sequences.filter _).map _
  rw [Table.violations, Table.violations, h.name]
  exact (hsequences.append_left _).append (columnViolations_perm _ h.columns)

end Table.Reordered

theorem View.Reordered.violations {view other : View} (h : view.Reordered other) :
    view.violations.Perm other.violations := by
  rw [View.violations, View.violations, h.name]
  exact (columnViolations_perm _ h.columns).append_left _

namespace Schema

/-- Up to order the faults along the tables are the breaches of each table, the table names that come
up again and the sequence names that come up again. -/
theorem tableFaults_perm_parts (database : String) (seen : Seen) (tables : List Table) :
    (faultsAlong (tableFaults database) Seen.withTable seen tables).Perm
      (tables.flatMap (·.violations) ++
        ((repeats seen.entities (tables.map (·.name))).map (.duplicateTable · database) ++
          (repeats seen.sequences (tables.flatMap (·.sequenceNames))).map
            (.duplicateSequence · database))) := by
  induction tables generalizing seen with
  | nil => exact .nil
  | cons table rest ih =>
    rw [faultsAlong, tableFaults, List.map_cons, List.flatMap_cons, List.flatMap_cons,
      repeats_cons _ _ (rest.map (·.name)), repeats_append, List.map_append, List.map_append]
    refine ((ih (seen.withTable table)).append_left _).trans ?_
    rw [List.perm_iff_count]
    intro fault
    simp only [List.count_append, Seen.withTable]
    omega

theorem viewFaults_perm_parts (database : String) (seen : Seen) (views : List View) :
    (faultsAlong (viewFaults database) Seen.withView seen views).Perm
      (views.flatMap (·.violations) ++
        (repeats seen.entities (views.map (·.name))).map (.duplicateView · database)) := by
  induction views generalizing seen with
  | nil => exact .nil
  | cons view rest ih =>
    rw [faultsAlong, viewFaults, List.map_cons, List.flatMap_cons,
      repeats_cons _ _ (rest.map (·.name)), List.map_append]
    refine ((ih (seen.withView view)).append_left _).trans ?_
    rw [List.perm_iff_count]
    intro fault
    simp only [List.count_append, Seen.withView]
    omega

/-- The tables and the views of a schema in another order, each with its columns and its declared
sequences in another order. -/
structure Reordered (schema other : Schema) : Prop where
  name : schema.name = other.name
  postScript : schema.postScript = other.postScript
  tables : ∃ tables, schema.tables.Forall₂ Table.Reordered tables ∧ tables.Perm other.tables
  views : ∃ views, schema.views.Forall₂ View.Reordered views ∧ views.Perm other.views

namespace Reordered

variable {schema other : Schema}

theorem flatMapTables {β : Type} {f : Table → List β}
    (hf : ∀ a b : Table, a.Reordered b → (f a).Perm (f b)) (h : schema.Reordered other) :
    (schema.tables.flatMap f).Perm (other.tables.flatMap f) := by
  obtain ⟨tables, hparts, hperm⟩ := h.tables
  exact (flatMap_perm hf hparts).trans (hperm.flatMap_right f)

theorem flatMapViews {β : Type} {f : View → List β}
    (hf : ∀ a b : View, a.Reordered b → (f a).Perm (f b)) (h : schema.Reordered other) :
    (schema.views.flatMap f).Perm (other.views.flatMap f) := by
  obtain ⟨views, hparts, hperm⟩ := h.views
  exact (flatMap_perm hf hparts).trans (hperm.flatMap_right f)

theorem tableNames (h : schema.Reordered other) :
    (schema.tables.map (·.name)).Perm (other.tables.map (·.name)) := by
  rw [List.map_eq_flatMap, List.map_eq_flatMap]
  exact h.flatMapTables fun a b hab => by rw [hab.name]

theorem viewNames (h : schema.Reordered other) :
    (schema.views.map (·.name)).Perm (other.views.map (·.name)) := by
  rw [List.map_eq_flatMap, List.map_eq_flatMap]
  exact h.flatMapViews fun a b hab => by rw [hab.name]

theorem faults (h : schema.Reordered other) : schema.faults.Perm other.faults := by
  have hviolations := h.flatMapTables fun _ _ hab => hab.violations
  have hsequences := h.flatMapTables fun _ _ hab => hab.sequenceNames
  have hviews := h.flatMapViews fun _ _ hab => hab.violations
  have htables : (faultsAlong (tableFaults schema.name) Seen.withTable ⟨[], []⟩ schema.tables).Perm
      (faultsAlong (tableFaults other.name) Seen.withTable ⟨[], []⟩ other.tables) := by
    refine (tableFaults_perm_parts _ _ _).trans (.trans ?_ (tableFaults_perm_parts _ _ _).symm)
    rw [h.name]
    exact hviolations.append (((repeats_nil_perm h.tableNames).map _).append
      ((repeats_nil_perm hsequences).map _))
  -- a view's name is compared with all tables, and which names they have does not depend on the order
  have hseen : ∀ name, name ∈ schema.seenTables.entities ↔ name ∈ other.seenTables.entities := by
    intro name
    rw [seenTables_entities, seenTables_entities, mem_meet, mem_meet, h.tableNames.mem_iff]
  refine htables.append ?_
  refine (viewFaults_perm_parts _ _ _).trans (.trans ?_ (viewFaults_perm_parts _ _ _).symm)
  rw [h.name]
  exact hviews.append ((repeats_perm hseen h.viewNames).map _)

end Reordered

/-- The breaches of a schema do not depend on the order of its parts: another order gives the same
breaches, each equally often, and the schema is accepted in both orders or in none. -/
theorem violations_of_reordered {schema other : Schema} (h : schema.Reordered other) :
    schema.violations.Perm other.violations ∧
      (schema.check = .ok () ↔ other.check = .ok ()) := by
  constructor
  · rw [violations_eq_faults, violations_eq_faults]
    exact h.faults
  · rw [check_eq_ok_iff_faults, check_eq_ok_iff_faults]
    constructor
    · intro hnone
      exact (hnone ▸ h.faults).nil_eq.symm
    · intro hnone
      exact (hnone ▸ h.faults).eq_nil

namespace Ledger

/-- Two tables and two views of one name, with a column twice, a column without a name and a sequence
that three parts claim. -/
def schema : Schema where
  name := "ledger"
  postScript := none
  tables :=
    [⟨"entry", [⟨"id", .integer, false, true, none, some "seq"⟩, ⟨" ", .char, false, false, none, none⟩],
      ["seq", ""]⟩,
     ⟨"account", [⟨"id", .integer, false, true, none, none⟩, ⟨"id", .char, true, false, none, none⟩],
      ["seq"]⟩]
  views := [⟨"entry", []⟩, ⟨"entry", [⟨"id", .integer, false, false, none, none⟩]⟩]

/-- The same parts in another order. -/
def reordered : Schema where
  name := "ledger"
  postScript := none
  tables :=
    [⟨"account", [⟨"id", .char, true, false, none, none⟩, ⟨"id", .integer, false, true, none, none⟩],
      ["seq"]⟩,
     ⟨"entry", [⟨" ", .char, false, false, none, none⟩, ⟨"id", .integer, false, true, none, some "seq"⟩],
      ["", "seq"]⟩]
  views := [⟨"entry", [⟨"id", .integer, false, false, none, none⟩]⟩, ⟨"entry", []⟩]

end Ledger

/-- The ledger breaks seven rules, in either order of its parts. -/
theorem violations_of_reordered_ledger :
    Ledger.schema.Reordered Ledger.reordered ∧
      Ledger.schema.violations.Perm Ledger.reordered.violations ∧
      Ledger.schema.violations.length = 7 ∧
      Ledger.schema.violations ≠ Ledger.reordered.violations ∧
      (Ledger.schema.check = .ok () ↔ Ledger.reordered.check = .ok ()) := by
  have hentry : Table.Reordered (Ledger.schema.tables[0]) (Ledger.reordered.tables[1]) :=
    ⟨rfl, by decide, by decide⟩
  have haccount : Table.Reordered (Ledger.schema.tables[1]) (Ledger.reordered.tables[0]) :=
    ⟨rfl, by decide, by decide⟩
  have h : Ledger.schema.Reordered Ledger.reordered :=
    { name := rfl
      postScript := rfl
      tables := ⟨_, .cons hentry (.cons haccount .nil), by decide⟩
      views := ⟨Ledger.schema.views, .cons ⟨rfl, .refl _⟩ (.cons ⟨rfl, .refl _⟩ .nil), by decide⟩ }
  obtain ⟨hperm, hcheck⟩ := violations_of_reordered h
  exact ⟨h, hperm, by decide +kernel, by decide +kernel, hcheck⟩

end Schema
end EntityGen
