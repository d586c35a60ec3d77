import EntityGen.Schema.Violation

/-!
# What a walk over a schema finds

A walk carries the names that it has met and either goes on at a breach or ends there. Here it is
read as a list of faults: the names that come up again are the `repeats` of a list, a visit `Finds`
the faults that a whole walk notes, and a walk that ends early notes the first of them. So a check,
which ends early, answers with the first of the breaches that the whole walk collects.
-/
namespace EntityGen

/-- The names of a list that were met before, in `seen` or further to the front. -/
def repeats (seen : List String) : List String → List String
  | [] => []
  | name :: rest =>
    if seen.contains name then name :: repeats seen rest else repeats (name :: seen) rest

/-- The names met once a list has been gone through. -/
def meet (seen : List String) : List String → List String
  | [] => seen
  | name :: rest => if seen.contains name then meet seen rest else meet (name :: seen) rest

theorem repeats_append (seen front back : List String) :
    repeats seen (front ++ back) = repeats seen front ++ repeats (meet seen front) back := by
  induction front generalizing seen with
  | nil => rfl
  | cons first rest ih =>
    rw [List.cons_append, repeats, repeats, meet]
    split
    · rw [ih, List.cons_append]
    · exact ih _

theorem repeats_cons (seen : List String) (first : String) (rest : List String) :
    repeats seen (first :: rest) = repeats seen [first] ++ repeats (meet seen [first]) rest :=
  repeats_append seen [first] rest

theorem meet_append (seen front back : List String) :
    meet seen (front ++ back) = meet (meet seen front) back := by
  induction front generalizing seen with
  | nil => rfl
  | cons first rest ih =>
    rw [List.cons_append, meet, meet]
    split
    · exact ih _
    · exact ih _

theorem mem_meet (seen names : List String) (name : String) :
    name ∈ meet seen names ↔ name ∈ seen ∨ name ∈ names := by
  induction names generalizing seen with
  | nil => simp [meet]
  | cons first rest ih =>
    rw [meet]
    split
    · next h =>
      have hfirst : first ∈ seen := List.contains_iff_mem.mp h
      rw [ih, List.mem_cons]
      constructor
      · rintro (hs | hr)
        · exact .inl hs
        · exact .inr (.inr hr)
      · rintro (hs | rfl | hr)
        · exact .inl hs
        · exact .inl hfirst
        · exact .inr hr
    · rw [ih, List.mem_cons, List.mem_cons, or_assoc, or_left_comm]

/-- Nothing comes up again exactly when the names are new and differ from each other. -/
theorem repeats_eq_nil_iff (seen names : List String) :
    repeats seen names = [] ↔ names.Nodup ∧ ∀ name ∈ names, name ∉ seen := by
  induction names generalizing seen with
  | nil => simp [repeats]
  | cons first rest ih =>
    by_cases h : first ∈ seen
    · rw [repeats, if_pos (List.contains_iff_mem.mpr h)]
      constructor
      · intro hn
        exact absurd hn (List.cons_ne_nil _ _)
      · rintro ⟨-, hnew⟩
        exact absurd h (hnew first List.mem_cons_self)
    · rw [repeats, if_neg (by rwa [List.contains_iff_mem]), ih, List.nodup_cons]
      constructor
      · rintro ⟨hd, hnew⟩
        refine ⟨⟨fun hm => hnew first hm List.mem_cons_self, hd⟩, ?_⟩
        intro name hm
        rcases List.mem_cons.mp hm with rfl | hr
        · exact h
        · exact fun hs => hnew name hr (List.mem_cons_of_mem _ hs)
      · rintro ⟨⟨hfirst, hd⟩, hnew⟩
        refine ⟨hd, ?_⟩
        intro name hr hs
        rcases List.mem_cons.mp hs with rfl | hs
        · exact hfirst hr
        · exact hnew name (List.mem_cons_of_mem _ hr) hs

theorem repeats_nil_eq_nil_iff (names : List String) : repeats [] names = [] ↔ names.Nodup := by
  rw [repeats_eq_nil_iff]
  simp

/-- The answer of a check that refuses with the first of its faults. -/
def answerOf : List Fault → Except Fault Unit
  | [] => .ok ()
  | fault :: _ => .error fault

theorem answerOf_eq_ok_iff (faults : List Fault) : answerOf faults = .ok () ↔ faults = [] := by
  cases faults with
  | nil => exact iff_of_true rfl rfl
  | cons fault rest => exact iff_of_false (fun h => nomatch h) (List.cons_ne_nil _ _)

theorem answerOf_eq_error_iff (faults : List Fault) (fault : Fault) :
    answerOf faults = .error fault ↔ faults.head? = some fault := by
  cases faults with
  | nil => exact iff_of_false (fun h => nomatch h) (fun h => nomatch h)
  | cons first rest => rw [answerOf, List.head?_cons, Except.error.injEq, Option.some.injEq]

theorem answerOf_take_one (faults : List Fault) : answerOf (faults.take 1) = answerOf faults := by
  cases faults with
  | nil => rfl
  | cons fault rest => rfl

namespace Schema

/-- The faults along a list when every member is judged by the names met before it. -/
def faultsAlong {α : Type} (faults : Seen → α → List Fault) (next : Seen → α → Seen) :
    Seen → List α → List Fault
  | _, [] => []
  | seen, first :: rest => faults seen first ++ faultsAlong faults next (next seen first) rest

def tableFaults (database : String) (seen : Seen) (table : Table) : List Fault :=
  table.violations ++ (repeats seen.entities [table.name]).map (.duplicateTable · database)
    ++ (repeats seen.sequences table.sequenceNames).map (.duplicateSequence · database)

def viewFaults (database : String) (seen : Seen) (view : View) : List Fault :=
  view.violations ++ (repeats seen.entities [view.name]).map (.duplicateView · database)

def Seen.withTable (seen : Seen) (table : Table) : Seen :=
  ⟨meet seen.entities [table.name], meet seen.sequences table.sequenceNames⟩

def Seen.withView (seen : Seen) (view : View) : Seen :=
  { seen with entities := meet seen.entities [view.name] }

def seenTables (schema : Schema) : Seen := schema.tables.foldl Seen.withTable ⟨[], []⟩

/-- Every fault of a schema in the order of the walk. -/
def faults (schema : Schema) : List Fault :=
  faultsAlong (tableFaults schema.name) Seen.withTable ⟨[], []⟩ schema.tables
    ++ faultsAlong (viewFaults schema.name) Seen.withView schema.seenTables schema.views

namespace Visit

theorem run_bind (first : Visit) (second : Unit → Visit) (walk : Walk) :
    (first >>= second).run.run walk = match first.run.run walk with
      | (.ok (), after) => (second ()).run.run after
      | (.error (), after) => (.error (), after) := by
  rw [ExceptT.run_bind, StateT.run_bind]
  obtain ⟨_ | _, after⟩ := first.run.run walk
  · rfl
  · rfl

/-- What a visit finds: a whole walk notes all of the faults, and a walk that ends early passes when
there are none and otherwise notes the first and ends. -/
structure Finds (visit : Bool → Visit) (seen after : Seen) (faults : List Fault) : Prop where
  whole : ∀ found, (visit false).run.run ⟨seen, found⟩ = (.ok (), ⟨after, faults.reverse ++ found⟩)
  passes : faults = [] → ∀ found, (visit true).run.run ⟨seen, found⟩ = (.ok (), ⟨after, found⟩)
  ends : ∀ fault rest, faults = fault :: rest →
    ∀ found, ∃ met, (visit true).run.run ⟨seen, found⟩ = (.error (), ⟨met, fault :: found⟩)

theorem finds_nothing {visit : Bool → Visit} {seen after : Seen}
    (hrun : ∀ stop found, (visit stop).run.run ⟨seen, found⟩ = (.ok (), ⟨after, found⟩)) :
    Finds visit seen after [] where
  whole := hrun false
  passes _ := hrun true
  ends _ _ h := nomatch h

theorem Finds.of_run_eq {visit other : Bool → Visit} {seen after : Seen} {faults : List Fault}
    (hrun : ∀ stop found,
      (visit stop).run.run ⟨seen, found⟩ = (other stop).run.run ⟨seen, found⟩)
    (h : Finds other seen after faults) : Finds visit seen after faults where
  whole found := (hrun false found).trans (h.whole found)
  passes hn found := (hrun true found).trans (h.passes hn found)
  ends fault rest he found := by
    obtain ⟨met, ho⟩ := h.ends fault rest he found
    exact ⟨met, (hrun true found).trans ho⟩

theorem finds_note (seen : Seen) (fault : Fault) : Finds (note · fault) seen seen [fault] where
  whole _ := rfl
  passes h := nomatch h
  ends first rest h found := by
    obtain ⟨rfl, -⟩ := List.cons.inj h
    exact ⟨seen, rfl⟩

/-- One visit behind another finds the faults of both in order. -/
theorem Finds.bind {first second : Bool → Visit} {seen middle after : Seen}
    {front back : List Fault} (hf : Finds first seen middle front)
    (hb : Finds second middle after back) :
    Finds (fun stop => do first stop; second stop) seen after (front ++ back) where
  whole found := by
    rw [run_bind, hf.whole]
    change (second false).run.run _ = _
    rw [hb.whole, List.reverse_append, List.append_assoc]
  passes h found := by
    obtain ⟨hfront, hback⟩ := List.append_eq_nil_iff.mp h
    rw [run_bind, hf.passes hfront]
    exact hb.passes hback found
  ends fault rest h found := by
    cases front with
    | nil =>
      rw [run_bind, hf.passes rfl]
      exact hb.ends fault rest h found
    | cons head tail =>
      obtain ⟨rfl, -⟩ := List.cons.inj h
      obtain ⟨met, hrun⟩ := hf.ends head tail rfl found
      exact ⟨met, by rw [run_bind, hrun]⟩

theorem finds_forM {α : Type} {visit : Bool → α → Visit} {faults : Seen → α → List Fault}
    {next : Seen → α → Seen}
    (hvisit : ∀ seen item, Finds (visit · item) seen (next seen item) (faults seen item))
    (seen : Seen) (items : List α) :
    Finds (fun stop => items.forM (visit stop)) seen (items.foldl next seen)
      (faultsAlong faults next seen items) := by
  induction items generalizing seen with
  | nil => exact finds_nothing fun _ _ => rfl
  | cons first rest ih => exact (hvisit seen first).bind (ih (next seen first))

theorem finds_notes (seen : Seen) (faults : List Fault) :
    Finds (fun stop => faults.forM (note stop)) seen seen faults := by
  induction faults with
  | nil => exact finds_nothing fun _ _ => rfl
  | cons first rest ih => exact (finds_note seen first).bind ih

/-- A visit that meets a name finds a fault if the name was among the ones met before. `place` puts
the names met into what the walk carries. -/
theorem finds_meet {visit : Bool → Visit} (place : List String → Seen) (names : List String)
    (name : String) (fault : String → Fault)
    (hrun : ∀ stop found, (visit stop).run.run ⟨place names, found⟩ =
      if names.contains name then (note stop (fault name)).run.run ⟨place names, found⟩
      else (.ok (), ⟨place (name :: names), found⟩)) :
    Finds visit (place names) (place (meet names [name])) ((repeats names [name]).map fault) := by
  by_cases h : names.contains name
  · simp only [h, if_true] at hrun
    simp only [meet, repeats, h, if_true, List.map_cons, List.map_nil]
    exact .of_run_eq hrun (finds_note (place names) (fault name))
  · simp only [h, Bool.false_eq_true, if_false] at hrun
    simp only [meet, repeats, h, Bool.false_eq_true, if_false, List.map_nil]
    exact finds_nothing hrun

theorem finds_meetEntity (seen : Seen) (name : String) (fault : String → Fault) :
    Finds (meetEntity · name (fault name)) seen
      { seen with entities := meet seen.entities [name] }
      ((repeats seen.entities [name]).map fault) := by
  refine finds_meet (fun names => { seen with entities := names }) seen.entities name fault ?_
  intro stop found
  change (if seen.entities.contains name then note stop (fault name) else _ : Visit).run.run _ = _
  split <;> rfl

theorem finds_meetSequence (database : String) (seen : Seen) (name : String) :
    Finds (meetSequence · database name) seen
      { seen with sequences := meet seen.sequences [name] }
      ((repeats seen.sequences [name]).map (.duplicateSequence · database)) := by
  refine finds_meet (fun names => { seen with sequences := names }) seen.sequences name
    (.duplicateSequence · database) ?_
  intro stop found
  change (if seen.sequences.contains name then note stop _ else _ : Visit).run.run _ = _
  split <;> rfl

theorem finds_meetSequences (database : String) (seen : Seen) (names : List String) :
    Finds (fun stop => names.forM (meetSequence stop database)) seen
      { seen with sequences := meet seen.sequences names }
      ((repeats seen.sequences names).map (.duplicateSequence · database)) := by
  induction names generalizing seen with
  | nil => exact finds_nothing fun _ _ => rfl
  | cons first rest ih =>
    have hboth := (finds_meetSequence database seen first).bind (ih _)
    rw [← List.map_append, ← repeats_cons, ← meet_append] at hboth
    exact hboth

theorem finds_table (database : String) (seen : Seen) (item : Table) :
    Finds (table · database item) seen (seen.withTable item) (tableFaults database seen item) := by
  have hname := finds_meetEntity seen item.name (.duplicateTable · database)
  have hboth := hname.bind (finds_meetSequences database _ item.sequenceNames)
  have hall := (finds_notes seen item.violations).bind hboth
  rw [← List.append_assoc] at hall
  exact hall

theorem finds_view (database : String) (seen : Seen) (item : View) :
    Finds (view · database item) seen (seen.withView item) (viewFaults database seen item) :=
  (finds_notes seen item.violations).bind
    (finds_meetEntity seen item.name (.duplicateView · database))

/-- The walk of a schema finds its faults. -/
theorem finds_schema (schema : Schema) :
    Finds (fun stop => do
        schema.tables.forM (table stop schema.name)
        schema.views.forM (view stop schema.name))
      ⟨[], []⟩ (schema.views.foldl Seen.withView schema.seenTables) schema.faults :=
  (finds_forM (finds_table schema.name) _ schema.tables).bind
    (finds_forM (finds_view schema.name) _ schema.views)

end Visit

/-- Without an early end the walk lists every fault. -/
theorem violations_eq_faults (schema : Schema) : schema.violations = schema.faults := by
  have h := (Visit.finds_schema schema).whole []
  rw [violations, walk]
  simp only [h, List.append_nil, List.reverse_reverse]

/-- The walk that ends early lists the first fault alone. -/
theorem walk_stop (schema : Schema) : schema.walk true = schema.faults.take 1 := by
  have h := Visit.finds_schema schema
  unfold walk
  cases hf : schema.faults with
  | nil =>
    have hp := h.passes hf []
    simp only [hp, List.reverse_nil, List.take_nil]
  | cons fault rest =>
    obtain ⟨met, he⟩ := h.ends fault rest hf []
    simp only [he, List.reverse_cons, List.reverse_nil, List.nil_append, List.take_succ_cons,
      List.take_zero]

/-- The walk that ends early lists what the whole walk lists first. -/
theorem walk_stop_eq_take (schema : Schema) : schema.walk true = schema.violations.take 1 := by
  rw [walk_stop, violations_eq_faults]

theorem check_eq (schema : Schema) : schema.check = answerOf schema.violations := by
  have hstop : schema.check = answerOf (schema.walk true) := rfl
  rw [hstop, walk_stop_eq_take, answerOf_take_one]

theorem check_eq_ok_iff_faults (schema : Schema) : schema.check = .ok () ↔ schema.faults = [] := by
  rw [check_eq, answerOf_eq_ok_iff, violations_eq_faults]

theorem mem_faultsAlong {α : Type} {faults : Seen → α → List Fault} {next : Seen → α → Seen}
    {seen : Seen} {items : List α} {fault : Fault} (h : fault ∈ faultsAlong faults next seen items) :
    ∃ met, ∃ item ∈ items, fault ∈ faults met item := by
  induction items generalizing seen with
  | nil => cases h
  | cons first rest ih =>
    rcases List.mem_append.mp h with hfirst | hrest
    · exact ⟨seen, first, List.mem_cons_self, hfirst⟩
    · obtain ⟨met, item, hitem, hfault⟩ := ih hrest
      exact ⟨met, item, List.mem_cons_of_mem _ hitem, hfault⟩

end Schema

/-- Faults that a command answers as a refused schema. -/
theorem Fault.exitCode_of_isViolation {fault : Fault} (h : fault.isViolation = true) :
    fault.exitCode = 2 := by
  cases fault with
  | duplicateTable | duplicateSequence | duplicateView | duplicateColumn | invalidTable => rfl
  | _ => cases h

theorem isViolation_of_mem_columnViolations {owner : String} {seen : List String}
    {columns : List Column} {fault : Fault} (h : fault ∈ columnViolations owner seen columns) :
    fault.isViolation = true := by
  fun_induction columnViolations owner seen columns with
  | case1 => cases h
  | case2 _ _ _ _ _ ih | case3 _ _ _ _ _ ih =>
    rcases List.mem_cons.mp h with rfl | hrest
    · rfl
    · exact ih hrest
  | case4 _ _ _ _ _ ih => exact ih h

theorem isViolation_of_mem_nameViolations {name : String} {fault : Fault}
    (h : fault ∈ nameViolations name) : fault.isViolation = true := by
  unfold nameViolations at h
  split at h
  · rw [List.mem_singleton.mp h]
    rfl
  · cases h

/-- Whatever a walk over a schema finds is a breach of a rule for schemas. -/
theorem Schema.isViolation_of_mem {schema : Schema} {fault : Fault} (h : fault ∈ schema.violations) :
    fault.isViolation = true := by
  rw [violations_eq_faults, faults, List.mem_append] at h
  rcases h with htables | hviews
  · obtain ⟨met, table, -, hfault⟩ := mem_faultsAlong htables
    simp only [tableFaults, Table.violations, Table.sequenceViolations, List.mem_append,
      List.mem_map] at hfault
    rcases hfault with (((hname | ⟨_, -, rfl⟩) | hcolumn) | ⟨_, -, rfl⟩) | ⟨_, -, rfl⟩
    · exact isViolation_of_mem_nameViolations hname
    · rfl
    · exact isViolation_of_mem_columnViolations hcolumn
    · rfl
    · rfl
  · obtain ⟨met, view, -, hfault⟩ := mem_faultsAlong hviews
    simp only [viewFaults, View.violations, List.mem_append, List.mem_map] at hfault
    rcases hfault with (hname | hcolumn) | ⟨_, -, rfl⟩
    · exact isViolation_of_mem_nameViolations hname
    · exact isViolation_of_mem_columnViolations hcolumn
    · rfl

/-- A command that a check ends has one exit code, whatever the breach. -/
theorem Schema.exitCode_of_check {schema : Schema} {fault : Fault}
    (h : schema.check = .error fault) : fault.exitCode = 2 := by
  rw [check_eq, answerOf_eq_error_iff] at h
  exact Fault.exitCode_of_isViolation (isViolation_of_mem (List.mem_of_head? h))

theorem Table.check_eq (table : Table) : table.check = answerOf table.violations := rfl

/-- A check that ends early and the collection of all breaches agree: the early end leaves the first
breach of the collection and nothing else, so a schema passes exactly when nothing is collected and
is refused with the first breach otherwise. A table is checked against its own breaches in the same
way. -/
theorem check_answers_first_violation :
    (∀ schema : Schema, schema.walk true = schema.violations.take 1 ∧
      (schema.check = .ok () ↔ schema.violations = []) ∧
      ∀ fault, schema.check = .error fault ↔ schema.violations.head? = some fault) ∧
    ∀ table : Table, (table.check = .ok () ↔ table.violations = []) ∧
      ∀ fault, table.check = .error fault ↔ table.violations.head? = some fault := by
  constructor
  · intro schema
    rw [schema.check_eq]
    exact ⟨schema.walk_stop_eq_take, answerOf_eq_ok_iff _, answerOf_eq_error_iff _⟩
  · intro table
    rw [table.check_eq]
    exact ⟨answerOf_eq_ok_iff _, answerOf_eq_error_iff _⟩

-- a table's own breach stands before the name that comes up again
example : Schema.check ⟨"shop", none, [⟨"item", [], [" "]⟩, ⟨"item", [], []⟩], []⟩ =
    .error (.invalidTable "item" "sequence name cannot be empty") := rfl

end EntityGen
