import EntityGen.Proofs.Entity.Generators
import EntityGen.Proofs.Plan.Description
import EntityGen.Proofs.Run.Underway
import Mathlib.Data.List.Flatten

/-!
# The sequence generators of a run

A run without failures declares, over all classes that it generates, the sequences that the columns of
these tables and views name. Those of the tables differ from one another, because checking a schema
compares them. It does not look whether a column names a blank sequence, and it does not look at the
sequences of views at all, so the generators are usable exactly when these are in order too.
-/
namespace EntityGen

variable {σ : Type}

/-- What comes of a job whose emitter renders a class source: a failure, or the artifact of its
entity. -/
inductive Answered (options : Options) (job : Job) : Outcome → Prop
  | failed (fault : Fault) : Answered options job (.failed fault)
  | done {entity : Entity} : job.prepare = .ok entity →
    Answered options job (job.conclude entity (.written (entity.artifact options)))

theorem Job.answered_execute (job : Job) (sink : Sink (StateM σ)) (options : Options) (state : σ) :
    let ran := (job.execute (sourceEmitters sink) options).run state
    Answered options job ran.1.1 ∧ ran.1.2 = false := by
  cases hp : job.prepare with
  | error fault =>
    rw [execute_run, hp]
    exact ⟨.failed fault, rfl⟩
  | ok entity =>
    rw [execute_sourceEmitters hp]
    refine ⟨?_, rfl⟩
    dsimp only
    split
    · exact .done hp
    · exact .failed _

theorem Answered.ne_crashed {options : Options} {job : Job} {outcome : Outcome}
    (h : Answered options job outcome) (message : String) : outcome ≠ .crashed message := by
  cases h with
  | failed fault => exact fun he => nomatch he
  | done _ => exact fun he => nomatch he

/-- The jobs that a run executed, with what came of them, and how many it skipped. -/
structure RanOf (schema : Schema) (settings : Settings) (ran : List (Job × Outcome)) (skipped : Nat) :
    Prop where
  planned : (ran.map Prod.fst).Sublist (schema.plan settings)
  whole : skipped = 0 → ran.map Prod.fst = schema.plan settings
  answered : ∀ entry ∈ ran, Answered settings.options entry.1 entry.2

section
variable {schema : Schema} {settings : Settings} {sink : Sink (StateM σ)} {stamp : RunStamp}
  {state after : σ} {report : Report}

/-- A run that completes has skipped no job. -/
theorem RanOf.eq_plan {ran : List (Job × Outcome)} {skipped : Nat}
    (h : RanOf schema settings ran skipped)
    (hstatus : ((Collector.empty.tally ran skipped).report stamp).status = .completed) :
    ran.map Prod.fst = schema.plan settings := by
  obtain ⟨-, hskipped⟩ := (status_tally_eq_completed_iff ran skipped).mp hstatus
  exact h.whole hskipped

theorem ranOf_build (hcheck : schema.check = .ok ())
    (h : (schema.build settings (sourceEmitters sink) stamp).run state = (.ok report, after)) :
    ∃ ran skipped, RanOf schema settings ran skipped ∧
      report = (Collector.empty.tally ran skipped).report stamp := by
  obtain ⟨executed, skipped, hplan, -, hrun⟩ := runInOrder_run settings
    (sourceEmitters_neverCrashes sink) (schema.plan settings) .empty state
  have hanswered := executeEach_forall₂ (P := Answered settings.options)
    (fun job state => (job.answered_execute sink settings.options state).1) executed state
  rw [Schema.build, hcheck, StateT.run_bind, hrun] at h
  have hreport := Except.ok.inj (Prod.mk.inj h).1
  have hexecuted : (executed.zip ((executeEach (sourceEmitters sink) settings.options
      executed).run state).1).map Prod.fst = executed :=
    List.map_fst_zip (Nat.le_of_eq hanswered.length_eq)
  refine ⟨_, skipped.length, ⟨?_, ?_, ?_⟩, hreport.symm⟩
  · rw [hexecuted, ← hplan]
    exact List.sublist_append_left executed skipped
  · intro hnone
    rw [hexecuted, ← hplan, List.eq_nil_of_length_eq_zero hnone, List.append_nil]
  · rintro ⟨job, outcome⟩ hm
    exact List.forall₂_zip hanswered hm

theorem ranOf_generate (hcheck : schema.check = .ok ()) {schedule : List Move}
    (h : (schema.generate settings (sourceEmitters sink) stamp schedule).run state =
      (.ok report, after)) :
    ∃ ran skipped, RanOf schema settings ran skipped ∧
      report = (Collector.empty.tally ran skipped).report stamp := by
  have hanswered : ∀ job ∈ schema.plan settings, ∀ state : σ, True →
      let ran := (job.execute (sourceEmitters sink) settings.options).run state
      Answered settings.options job ran.1.1 ∧ ran.1.2 = false ∧ True := fun job _ state _ =>
    (job.answered_execute sink settings.options state).imp_right fun hstop => ⟨hstop, trivial⟩
  obtain ⟨slots, final, hrun, hsettled, hran⟩ :=
    Pool.run_answers (Answered settings.options) hanswered
      (fun _ message hc => hc.ne_crashed message rfl) schedule trivial
  rw [Schema.generate, hcheck] at h
  dsimp only at h
  split at h
  · cases (Prod.mk.inj h).1
  · rw [StateT.run_bind, hrun] at h
    refine ⟨_, _, ⟨?_, hsettled.finishedOf_eq, hran⟩, (Except.ok.inj (Prod.mk.inj h).1).symm⟩
    rw [← hsettled.plan]
    exact Pool.finishedOf_sublist slots

end

/-- Without failures every job that ran has its entity, under whose name it is reported. -/
theorem exists_entities {options : Options} {ran : List (Job × Outcome)}
    (hanswered : ∀ entry ∈ ran, Answered options entry.1 entry.2) (hclean : errorsOf ran = []) :
    (summariesOf ran).map (·.table) = (ran.map Prod.fst).map Job.name ∧
      ∃ entities, (ran.map Prod.fst).Forall₂ (fun job entity => job.prepare = .ok entity)
        entities := by
  induction ran with
  | nil => exact ⟨rfl, [], .nil⟩
  | cons entry rest ih =>
    obtain ⟨hentry, hrest⟩ := List.forall_mem_cons.mp hanswered
    obtain ⟨job, outcome⟩ := entry
    have hjob : Answered options job outcome := hentry
    cases hjob with
    | failed fault => cases hclean
    | @done entity hp =>
      obtain ⟨hnames, entities, hentities⟩ := ih hrest hclean
      obtain ⟨fields, -, -, rfl⟩ := Job.describe_eq_ok (Job.prepare_eq_ok hp).2
      exact ⟨congrArg (List.cons job.name) hnames, _ :: entities, .cons hp hentities⟩

/-- The sequences that the columns of a table or view name. -/
def Source.columnSequences (source : Source) : List String := source.columns.filterMap (·.sequence)

theorem Field.sequence_ofColumn {column : Column} {field : Field}
    (h : ofColumn column = .ok field) : field.sequence = column.sequence := by
  obtain ⟨-, -, -, hsequence⟩ := exists_descriptor h
  exact hsequence

theorem sequences_of_mapM {columns : List Column} {fields : List Field}
    (h : columns.mapM Field.ofColumn = .ok fields) :
    fields.filterMap (·.sequence) = columns.filterMap (·.sequence) := by
  have hfields := forall₂_of_mapM_eq_ok h
  clear h
  induction hfields with
  | nil => rfl
  | cons hfirst _ ih =>
    rw [List.filterMap_cons, List.filterMap_cons, Field.sequence_ofColumn hfirst, ih]

/-- The source of a job's class declares the sequences of the columns. -/
theorem Job.generatorNames_of_prepare {job : Job} {entity : Entity} (h : job.prepare = .ok entity)
    (options : Options) : entity.generatorNames options = job.source.columnSequences := by
  obtain ⟨fields, hfields, -, rfl⟩ := describe_eq_ok (prepare_eq_ok h).2
  rw [Entity.generatorNames_eq]
  exact sequences_of_mapM hfields

theorem flatMap_generatorNames {jobs : List Job} {entities : List Entity}
    (h : jobs.Forall₂ (fun job entity => job.prepare = .ok entity) entities) (options : Options) :
    entities.flatMap (·.generatorNames options) = jobs.flatMap (·.source.columnSequences) := by
  induction h with
  | nil => rfl
  | cons hfirst _ ih =>
    rw [List.flatMap_cons, List.flatMap_cons, Job.generatorNames_of_prepare hfirst, ih]

section
variable {schema : Schema} {settings : Settings} {generated : List Job}

/-- A part of the plan has its tables first and then its views. -/
theorem split_of_sublist (h : generated.Sublist (schema.plan settings)) :
    generated = generated.filter (·.kind = .table) ++ generated.filter (·.kind = .view) ∧
      ((generated.filter (·.kind = .table)).map (·.source)).Sublist
        (schema.tables.map Source.table) := by
  -- the sources of the plan are split where the views begin, and the part of it with them
  have hsources := h.map (·.source)
  rw [schema.plan_source settings, Schema.sources, List.sublist_append_iff] at hsources
  obtain ⟨front, back, hsplit, hfront, hback⟩ := hsources
  obtain ⟨tables, views, rfl, rfl, rfl⟩ := List.map_eq_append_iff.mp hsplit
  have htables : ∀ job ∈ tables, job.kind = .table := by
    intro job hm
    obtain ⟨table, -, he⟩ := List.mem_map.mp (hfront.subset (List.mem_map_of_mem hm))
    rw [job.kind_eq, ← he]
    rfl
  have hviews : ∀ job ∈ views, job.kind = .view := by
    intro job hm
    obtain ⟨view, -, he⟩ := List.mem_map.mp (hback.subset (List.mem_map_of_mem hm))
    rw [job.kind_eq, ← he]
    rfl
  have htableFilter : (tables ++ views).filter (·.kind = .table) = tables := by
    rw [List.filter_append, List.filter_eq_self.mpr, List.filter_eq_nil_iff.mpr, List.append_nil]
    · intro job hm
      rw [hviews job hm]
      decide
    · intro job hm
      rw [htables job hm]
      decide
  have hviewFilter : (tables ++ views).filter (·.kind = .view) = views := by
    rw [List.filter_append, List.filter_eq_nil_iff.mpr, List.filter_eq_self.mpr, List.nil_append]
    · intro job hm
      rw [hviews job hm]
      decide
    · intro job hm
      rw [htables job hm]
      decide
  rw [htableFilter, hviewFilter]
  exact ⟨rfl, hfront⟩

/-- In an accepted schema the columns of tables name different sequences. -/
theorem nodup_tableSequences (hcheck : schema.check = .ok ())
    (h : generated.Sublist (schema.plan settings)) :
    ((generated.filter (·.kind = .table)).flatMap (·.source.columnSequences)).Nodup := by
  have hall := (schema.check_eq_ok_iff.mp hcheck).sequencesDiffer
  have hcolumns : (schema.tables.flatMap fun table => table.columns.filterMap (·.sequence)).Sublist
      (schema.tables.flatMap fun table =>
        table.sequences ++ table.columns.filterMap (·.sequence)) :=
    List.Sublist.flatMap_right schema.tables fun _ _ => List.sublist_append_right _ _
  have hpart := (split_of_sublist h).2.flatMap Source.columnSequences
  rw [List.flatMap_map, List.flatMap_map] at hpart
  exact hall.sublist (hpart.trans hcolumns)

/-- Of the sequences that jobs name, those of the tables being different, all are usable exactly when
those of the views repeat none and no column names a blank one. -/
theorem usable_iff {names ofTables ofViews : List String}
    (hall : names = generated.flatMap (·.source.columnSequences))
    (hsplit : names = ofTables ++ ofViews) (hdistinct : ofTables.Nodup) :
    (∀ name ∈ names, Text.trim name ≠ "") ∧ names.Nodup ↔
      (∀ job ∈ generated, ∀ column ∈ job.source.columns, ∀ name ∈ column.sequence,
        Text.trim name ≠ "") ∧ ofViews.Nodup ∧ ∀ name ∈ ofViews, name ∉ ofTables := by
  apply and_congr
  · simp only [hall, List.mem_flatMap, Source.columnSequences, List.mem_filterMap, Option.mem_def]
    constructor
    · intro h job hjob column hcolumn name hname
      exact h name ⟨job, hjob, column, hcolumn, hname⟩
    · rintro h name ⟨job, hjob, column, hcolumn, hname⟩
      exact h job hjob column hcolumn name hname
  · rw [hsplit, List.nodup_append]
    constructor
    · rintro ⟨-, hviews, hapart⟩
      exact ⟨hviews, fun name hv ht => hapart name ht name hv rfl⟩
    · rintro ⟨hviews, hapart⟩
      refine ⟨hdistinct, hviews, ?_⟩
      rintro name ht other hv rfl
      exact hapart name hv ht

end

/-- A run of an accepted schema without failures, in order or on a pool under any schedule: the
generators that the generated classes declare are the sequences of the columns of the tables and then
of the views. Those of the tables differ. The names are therefore usable, none blank and no two equal,
exactly when no column names a blank sequence and the sequences of views repeat none. -/
theorem generators_usable_iff (schema : Schema) (settings : Settings)
    (hcheck : schema.check = .ok ()) (sink : Sink (StateM σ)) (stamp : RunStamp) (state after : σ)
    (report : Report)
    (hrun : (schema.build settings (sourceEmitters sink) stamp).run state = (.ok report, after) ∨
      ∃ schedule, (schema.generate settings (sourceEmitters sink) stamp schedule).run state =
        (.ok report, after))
    (hclean : report.errors = []) :
    ∃ generated entities, generated.Sublist (schema.plan settings) ∧
      (report.status = .completed → generated = schema.plan settings) ∧
      (report.artifacts.map (·.table)).Perm (generated.map Job.name) ∧
      generated.Forall₂ (fun job entity => job.prepare = .ok entity) entities ∧
      let names := entities.flatMap (·.generatorNames settings.options)
      let ofTables := (generated.filter (·.kind = .table)).flatMap (·.source.columnSequences)
      let ofViews := (generated.filter (·.kind = .view)).flatMap (·.source.columnSequences)
      names = ofTables ++ ofViews ∧ ofTables.Nodup ∧
        ((∀ name ∈ names, Text.trim name ≠ "") ∧ names.Nodup ↔
          (∀ job ∈ generated, ∀ column ∈ job.source.columns, ∀ name ∈ column.sequence,
            Text.trim name ≠ "") ∧ ofViews.Nodup ∧ ∀ name ∈ ofViews, name ∉ ofTables) := by
  obtain ⟨ran, skipped, hran, rfl⟩ : ∃ ran skipped, RanOf schema settings ran skipped ∧
      report = (Collector.empty.tally ran skipped).report stamp := by
    rcases hrun with hbuild | ⟨schedule, hgenerate⟩
    · exact ranOf_build hcheck hbuild
    · exact ranOf_generate hcheck hgenerate
  -- the report only sorts what the collector was told, so the run had no errors either
  have herrors : errorsOf ran = [] := by
    have hperm := (Collector.empty.tally ran skipped).report_errors_perm stamp
    rw [hclean] at hperm
    exact hperm.nil_eq.symm
  obtain ⟨hnames, entities, hentities⟩ := exists_entities hran.answered herrors
  have hartifacts : (((Collector.empty.tally ran skipped).report stamp).artifacts.map
      (·.table)).Perm ((ran.map Prod.fst).map Job.name) := by
    rw [← hnames]
    exact ((Collector.empty.tally ran skipped).report_artifacts_perm stamp).map _
  refine ⟨ran.map Prod.fst, entities, hran.planned, hran.eq_plan, hartifacts, hentities, ?_⟩
  intro names ofTables ofViews
  have hdistinct : ofTables.Nodup := nodup_tableSequences hcheck hran.planned
  have hall : names = (ran.map Prod.fst).flatMap (·.source.columnSequences) :=
    flatMap_generatorNames hentities settings.options
  have hsplit : names = ofTables ++ ofViews := by
    rw [hall]
    conv_lhs => rw [(split_of_sublist hran.planned).1, List.flatMap_append]
  exact ⟨hsplit, hdistinct, usable_iff hall hsplit hdistinct⟩

/-- A table and a view whose first columns are fed by sequences. -/
theorem generators_usable_iff_orders :
    let id (sequence : String) : Column := ⟨"id", .integer, false, true, none, some sequence⟩
    let schema : Schema :=
      ⟨"d", none, [⟨"order", [id "order_id"], ["order_no"]⟩], [⟨"total", [id "total_id"]⟩]⟩
    let settings : Settings := { packageBase := "p" }
    let stamp : RunStamp := ⟨"r", ⟨0⟩, ⟨0⟩⟩
    schema.check = .ok () ∧ ∃ report stored entities,
      (schema.build settings (sourceEmitters memorySink) stamp).run [] = (.ok report, stored) ∧
      report.errors = [] ∧
      (schema.plan settings).Forall₂ (fun job entity => job.prepare = .ok entity) entities ∧
      entities.flatMap (·.generatorNames settings.options) = ["order_id", "total_id"] := by
  intro id schema settings stamp
  have hcheck : schema.check = .ok () := by decide +kernel
  cases hrun : (schema.build settings (sourceEmitters memorySink) stamp).run [] with
  | mk answer stored =>
    have hanswer : ((schema.build settings (sourceEmitters memorySink) stamp).run []).1.toOption.any
        (fun report => report.errors = [] ∧ report.status = .completed) = true := by
      decide +kernel
    rw [hrun] at hanswer
    cases answer with
    | error halt => cases hanswer
    | ok report =>
      obtain ⟨hclean, hstatus⟩ := of_decide_eq_true hanswer
      obtain ⟨generated, entities, -, hwhole, -, hentities, hnames, -⟩ :=
        generators_usable_iff schema settings hcheck memorySink stamp [] stored report (.inl hrun)
          hclean
      obtain rfl := hwhole hstatus
      refine ⟨hcheck, report, stored, entities, rfl, hclean, hentities, hnames.trans ?_⟩
      decide +kernel

/-- This schema is accepted and generated without failures. The column of its table names a blank
sequence, and its views share one. -/
theorem generators_not_usable :
    let id (sequence : String) : Column := ⟨"id", .integer, false, true, none, some sequence⟩
    let schema : Schema :=
      ⟨"d", none, [⟨"order", [id " "], []⟩], [⟨"total", [id "s"]⟩, ⟨"count", [id "s"]⟩]⟩
    let settings : Settings := { packageBase := "p" }
    let stamp : RunStamp := ⟨"r", ⟨0⟩, ⟨0⟩⟩
    let run := (schema.build settings (sourceEmitters memorySink) stamp).run []
    let names := ((schema.plan settings).filterMap (·.prepare.toOption)).flatMap
      (·.generatorNames settings.options)
    schema.check = .ok () ∧ run.1.toOption.map (·.status) = some .completed ∧
      names = [" ", "s", "s"] ∧ (∃ name ∈ names, Text.trim name = "") ∧ ¬names.Nodup := by
  decide +kernel

end EntityGen
