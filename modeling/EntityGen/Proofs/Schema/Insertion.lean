import EntityGen.Proofs.Schema.Walk
import Mathlib.Data.List.Perm.Basic

/-!
# Violations in a larger schema

Tables and views that are put into a schema add names to what a walk has met and faults to what it
finds. The walk over the larger schema meets, at every member of the smaller one, all the names that
the walk over the smaller one met there, so it finds the same faults at that member and perhaps
others.
-/
namespace EntityGen

/-- The more names were met before, the more come up again. -/
theorem repeats_sublist {seen met : List String} (h : seen ⊆ met) (names : List String) :
    (repeats seen names).Sublist (repeats met names) := by
  induction names generalizing seen met with
  | nil => exact .slnil
  | cons first rest ih =>
    rw [repeats, repeats]
    by_cases hfirst : first ∈ seen
    · have hmet : first ∈ met := h hfirst
      rw [if_pos (List.contains_iff_mem.mpr hfirst), if_pos (List.contains_iff_mem.mpr hmet)]
      exact (ih h).cons_cons first
    · rw [if_neg (by rwa [List.contains_iff_mem])]
      by_cases hmet : first ∈ met
      · rw [if_pos (List.contains_iff_mem.mpr hmet)]
        -- the name is new in the one walk and comes up again in the other
        have hsub : first :: seen ⊆ met := List.cons_subset.mpr ⟨hmet, h⟩
        exact (ih hsub).cons first
      · rw [if_neg (by rwa [List.contains_iff_mem])]
        exact ih (List.cons_subset_cons first h)

theorem subset_meet (seen names : List String) : seen ⊆ meet seen names := by
  intro name hname
  exact (mem_meet seen names name).mpr (.inl hname)

theorem meet_subset {seen met : List String} (h : seen ⊆ met) (names : List String) :
    meet seen names ⊆ meet met names := by
  intro name hname
  rw [mem_meet] at hname ⊢
  exact hname.imp_left fun hs => h hs

namespace Schema

/-- The names met in one walk were all met in another. -/
structure Seen.Within (seen met : Seen) : Prop where
  entities : seen.entities ⊆ met.entities
  sequences : seen.sequences ⊆ met.sequences

theorem Seen.Within.trans {a b c : Seen} (hab : a.Within b) (hbc : b.Within c) : a.Within c where
  entities := List.Subset.trans hab.entities hbc.entities
  sequences := List.Subset.trans hab.sequences hbc.sequences

/-- What a walk does at one member is cumulative: after more names it finds more faults and has met
more names, and it forgets no name. -/
structure Cumulative {α : Type} (faults : Seen → α → List Fault) (next : Seen → α → Seen) :
    Prop where
  more : ∀ {seen met : Seen}, seen.Within met →
    ∀ item, (faults seen item).Sublist (faults met item)
  keeps : ∀ {seen met : Seen}, seen.Within met → ∀ item, (next seen item).Within (next met item)
  grows : ∀ (seen : Seen) (item : α), seen.Within (next seen item)

theorem tableFaults_cumulative (database : String) :
    Cumulative (tableFaults database) Seen.withTable where
  more h table := by
    have hname := repeats_sublist h.entities [table.name]
    have hsequences := repeats_sublist h.sequences table.sequenceNames
    exact ((hname.map _).append_left table.violations).append (hsequences.map _)
  keeps h _ := ⟨meet_subset h.entities _, meet_subset h.sequences _⟩
  grows _ _ := ⟨subset_meet _ _, subset_meet _ _⟩

theorem viewFaults_cumulative (database : String) :
    Cumulative (viewFaults database) Seen.withView where
  more h view := by
    have hname := repeats_sublist h.entities [view.name]
    exact (hname.map _).append_left view.violations
  keeps h _ := ⟨meet_subset h.entities _, h.sequences⟩
  grows _ _ := ⟨subset_meet _ _, List.Subset.refl _⟩

section
variable {α : Type} {faults : Seen → α → List Fault} {next : Seen → α → Seen}

/-- A walk along more members, after more names, finds the faults of the shorter walk in their order
and others between them. -/
theorem Cumulative.sublist (h : Cumulative faults next) {items more : List α}
    (hitems : items.Sublist more) {seen met : Seen} (hseen : seen.Within met) :
    (faultsAlong faults next seen items).Sublist (faultsAlong faults next met more) := by
  induction hitems generalizing seen met with
  | slnil => exact .slnil
  | cons item _ ih =>
    rw [faultsAlong]
    have hgrown : seen.Within (next met item) := hseen.trans (h.grows met item)
    exact (ih hgrown).trans (List.sublist_append_right _ _)
  | cons_cons item _ ih =>
    rw [faultsAlong, faultsAlong]
    exact (h.more hseen item).append (ih (h.keeps hseen item))

theorem Cumulative.within (h : Cumulative faults next) {items more : List α}
    (hitems : items.Sublist more) {seen met : Seen} (hseen : seen.Within met) :
    (items.foldl next seen).Within (more.foldl next met) := by
  induction hitems generalizing seen met with
  | slnil => exact hseen
  | cons item _ ih => exact ih (hseen.trans (h.grows met item))
  | cons_cons item _ ih => exact ih (h.keeps hseen item)

end

/-- A schema of one database name whose tables and views stand in another one, with others between
them. -/
structure PartOf (schema larger : Schema) : Prop where
  name : schema.name = larger.name
  tables : schema.tables.Sublist larger.tables
  views : schema.views.Sublist larger.views

theorem PartOf.addTable (schema : Schema) (table : Table) :
    schema.PartOf (schema.addTable table) where
  name := rfl
  tables := List.sublist_append_left _ _
  views := .refl _

theorem PartOf.addView (schema : Schema) (view : View) : schema.PartOf (schema.addView view) where
  name := rfl
  tables := .refl _
  views := List.sublist_append_left _ _

theorem PartOf.faults {schema larger : Schema} (h : schema.PartOf larger) :
    schema.faults.Sublist larger.faults := by
  have hstart : Seen.Within ⟨[], []⟩ ⟨[], []⟩ := ⟨List.Subset.refl _, List.Subset.refl _⟩
  have htables := tableFaults_cumulative larger.name
  have hviews := viewFaults_cumulative larger.name
  -- the views are walked after the names of all tables, more of them in the larger schema
  have hseen : schema.seenTables.Within larger.seenTables := htables.within h.tables hstart
  rw [Schema.faults, Schema.faults, h.name]
  exact (htables.sublist h.tables hstart).append (hviews.sublist h.views hseen)

/-- Putting tables and views into a schema, wherever they go, hides no breach: the breaches of the
schema are found in their order, with others between them. So a part of an accepted schema is
accepted, and a table or a view put behind the others leaves every breach in place. -/
theorem violations_sublist_of_partOf (schema : Schema) :
    (∀ larger, schema.PartOf larger → schema.violations.Sublist larger.violations ∧
      (larger.check = .ok () → schema.check = .ok ())) ∧
    (∀ table, schema.violations.Sublist (schema.addTable table).violations) ∧
    ∀ view, schema.violations.Sublist (schema.addView view).violations := by
  simp only [violations_eq_faults, check_eq_ok_iff_faults]
  refine ⟨?_, ?_, ?_⟩
  · intro larger h
    refine ⟨h.faults, ?_⟩
    intro hnone
    have hsub := h.faults
    rw [hnone] at hsub
    exact List.sublist_nil.mp hsub
  · exact fun table => (PartOf.addTable schema table).faults
  · exact fun view => (PartOf.addView schema view).faults

/-- Two tables claim one sequence and a view has the name of one of them. A table put in front,
which has the name and the sequence of a later one, and a view put in front add three breaches to
these two. And an accepted schema is accepted without one of its tables and its view. -/
theorem violations_sublist_of_partOf_shop :
    let item : Table := ⟨"item", [⟨"id", .integer, false, true, none, some "s"⟩], []⟩
    let order : Table := ⟨"order", [], ["s"]⟩
    let part : Schema := ⟨"shop", none, [item, order], [⟨"order", []⟩]⟩
    let whole : Schema := ⟨"shop", none, [order, item, order], [⟨"item", []⟩, ⟨"order", []⟩]⟩
    let sound : Schema := ⟨"shop", none, [item, ⟨"open", [], []⟩], [⟨"late", []⟩]⟩
    part.PartOf whole ∧ part.violations.Sublist whole.violations ∧
      part.violations.length = 2 ∧ whole.violations.length = 5 ∧
      Schema.PartOf ⟨"shop", none, [item], []⟩ sound ∧ sound.check = .ok () ∧
      Schema.check ⟨"shop", none, [item], []⟩ = .ok () := by
  intro item order part whole sound
  have hpart : part.PartOf whole := ⟨rfl, by decide, by decide⟩
  have hsound : Schema.PartOf ⟨"shop", none, [item], []⟩ sound := ⟨rfl, by decide, by decide⟩
  have hcheck : sound.check = .ok () := by decide +kernel
  exact ⟨hpart, ((violations_sublist_of_partOf part).1 whole hpart).1, by decide +kernel,
    by decide +kernel, hsound, hcheck, ((violations_sublist_of_partOf _).1 sound hsound).2 hcheck⟩

end Schema
end EntityGen
