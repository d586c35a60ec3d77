import EntityGen.Proofs.Emission.Artifacts
import EntityGen.Proofs.Plan.Claims
import EntityGen.Proofs.Report.Sorting
import EntityGen.Proofs.Run.Accounting

/-!
# Entities do not disturb each other

What comes of a job depends on the job and on nothing that other jobs have done to the memory sink. So
a run that failures do not stop reports and stores the same for every other entity when the columns or
the sequences of one entity change.
-/
namespace EntityGen

namespace Job

variable {job : Job} {options : Options}

theorem outcome_regular (job : Job) (options : Options) : (job.outcome options).Regular job := by
  have h := job.execute_regular (sourceEmitters_neverCrashes memorySink) options []
  rwa [execute_memorySink] at h

theorem error?_table {error : TableError}
    (h : (job.outcome options).error? job = some error) : error.table = job.name := by
  cases ho : job.outcome options with
  | done result =>
    rw [ho] at h
    cases h
  | failed fault =>
    rw [ho] at h
    rw [← Option.some.inj h]
  | crashed message =>
    rw [ho] at h
    cases h

theorem summary?_table {summary : ArtifactSummary}
    (h : (job.outcome options).summary? = some summary) : summary.table = job.name := by
  have hregular := job.outcome_regular options
  cases ho : job.outcome options with
  | done result =>
    rw [ho] at h hregular
    cases hregular with
    | done hentity hfiles => rw [← Option.some.inj h, hentity]
  | failed fault =>
    rw [ho] at h
    cases h
  | crashed message =>
    rw [ho] at h
    cases h

theorem Alike.outcome {other : Job} (h : job.Alike other) (options : Options) :
    job.outcome options = other.outcome options := by
  rw [Job.outcome, Job.outcome, h.prepare, h.conclude]

theorem Alike.error? {other : Job} (h : job.Alike other) :
    Outcome.error? job = Outcome.error? other := by
  funext outcome
  cases outcome with
  | failed fault => rw [Outcome.error?, Outcome.error?, h.name]
  | done result => rfl
  | crashed message => rfl

theorem Alike.artifact? {other : Job} (h : job.Alike other) (options : Options) :
    job.artifact? options = other.artifact? options := by
  rw [Job.artifact?, Job.artifact?, h.prepare]

theorem artifact?_entity {artifact : Artifact} (h : job.artifact? options = some artifact) :
    artifact.entity = job.name := by
  obtain ⟨entity, hp, rfl, -⟩ := artifact?_eq_some h
  obtain ⟨fields, -, -, rfl⟩ := describe_eq_ok (prepare_eq_ok hp).2
  rfl

end Job

/-- Jobs with what comes of them on a memory sink. -/
def ranOf (options : Options) (jobs : List Job) : List (Job × Outcome) :=
  jobs.zip (jobs.map (·.outcome options))

theorem ranOf_eq_map (options : Options) (jobs : List Job) :
    ranOf options jobs = jobs.map fun job => (job, job.outcome options) := by
  have h := List.zip_map' (f := id) (g := fun job : Job => job.outcome options) (l := jobs)
  rwa [List.map_id] at h

theorem errorsOf_ranOf (options : Options) (jobs : List Job) :
    errorsOf (ranOf options jobs) =
      jobs.filterMap fun job => (job.outcome options).error? job := by
  rw [ranOf_eq_map, errorsOf, List.filterMap_map]
  rfl

theorem summariesOf_ranOf (options : Options) (jobs : List Job) :
    summariesOf (ranOf options jobs) = jobs.filterMap fun job => (job.outcome options).summary? := by
  rw [ranOf_eq_map, summariesOf, List.filterMap_map]
  rfl

/-- A run that failures do not stop executes the whole plan. -/
theorem Schema.build_whole {schema : Schema} (hcheck : schema.check = .ok ()) {settings : Settings}
    (hwhole : settings.failFast = false) (stamp : RunStamp) (stored : List Artifact) :
    (schema.build settings (sourceEmitters memorySink) stamp).run stored =
      (.ok ((Collector.empty.tally (ranOf settings.options (schema.plan settings)) 0).report stamp),
        stored ++ artifactsOf settings.options (schema.plan settings)) := by
  obtain ⟨executed, skipped, hplan, hends, hrun⟩ :=
    runInOrder_run settings (sourceEmitters_neverCrashes memorySink) (schema.plan settings) .empty
      stored
  rw [hends.whole hwhole, List.append_nil] at hplan
  rw [executeEach_memorySink, hends.whole hwhole, hplan] at hrun
  rw [build, hcheck, StateT.run_bind, hrun]
  rfl

section
variable {α β : Type}

theorem filterMap_congr_forall₂ {f : α → Option β} {R : α → α → Prop}
    (hf : ∀ x y, R x y → f x = f y) {xs ys : List α} (h : xs.Forall₂ R ys) :
    xs.filterMap f = ys.filterMap f := by
  induction h with
  | nil => rfl
  | cons hfirst _ ih => rw [List.filterMap_cons, List.filterMap_cons, hf _ _ hfirst, ih]

/-- Lists that match item by item but for one place give the same results but for the ones of that
place, whatever stands there. -/
theorem filter_filterMap_exchange {f : α → Option β} {R : α → α → Prop}
    (hf : ∀ x y, R x y → f x = f y) {p : β → Bool} {x y : α}
    (hx : ∀ z, f x = some z → p z = false) (hy : ∀ z, f y = some z → p z = false)
    {front front' back back' : List α} (hfront : front.Forall₂ R front')
    (hback : back.Forall₂ R back') :
    ((front ++ x :: back).filterMap f).filter p =
      ((front' ++ y :: back').filterMap f).filter p := by
  have hleft : ∀ w rest, (∀ z, f w = some z → p z = false) →
      ((w :: rest).filterMap f).filter p = (rest.filterMap f).filter p := by
    intro w rest hw
    rw [List.filterMap_cons]
    cases hz : f w with
    | none => rfl
    | some z => exact List.filter_cons_of_neg (by rw [hw z hz]; exact Bool.false_ne_true)
  rw [List.filterMap_append, List.filterMap_append, List.filter_append, List.filter_append,
    hleft x back hx, hleft y back' hy, filterMap_congr_forall₂ hf hfront,
    filterMap_congr_forall₂ hf hback]

/-- Sorted by keys that differ, lists agree in the parts in which they agree before. -/
theorem filter_mergeSort_congr {key : α → String} {p : α → Bool} {xs ys : List α}
    (hkeys : (xs.map key).Nodup) (h : xs.filter p = ys.filter p) :
    (xs.mergeSort fun a b => key a ≤ key b).filter p =
      (ys.mergeSort fun a b => key a ≤ key b).filter p := by
  have hperm : ((xs.mergeSort fun a b => key a ≤ key b).filter p).Perm
      ((ys.mergeSort fun a b => key a ≤ key b).filter p) := by
    refine ((List.mergeSort_perm xs _).filter p).trans ?_
    rw [h]
    exact ((List.mergeSort_perm ys _).filter p).symm
  have hsorted : ∀ zs : List α,
      ((zs.mergeSort fun a b => key a ≤ key b).filter p).Pairwise fun a b => key a ≤ key b :=
    fun zs => (ascending_mergeSort key zs).filter p
  refine hperm.eq_of_pairwise ?_ (hsorted xs) (hsorted ys)
  intro a b ha hb hab hba
  have hmem : ∀ c ∈ (xs.mergeSort fun a b => key a ≤ key b).filter p, c ∈ xs := by
    intro c hc
    exact List.mem_mergeSort.mp (List.mem_filter.mp hc).1
  exact List.inj_on_of_nodup_map hkeys (hmem a ha) (hmem b (hperm.mem_iff.mpr hb))
    (String.le_antisymm hab hba)

end

section
variable {before before' behind behind' : List Job} {job other : Job}
  (hbefore : before.Forall₂ Job.Alike before') (hbehind : behind.Forall₂ Job.Alike behind')
  (hname : job.name = other.name)

include hbefore hbehind hname

/-- Two runs of whole plans that differ in one job of a name report the same for every other name. -/
theorem whole_report_exchange (hnames : ((before ++ job :: behind).map Job.name).Nodup)
    (options : Options) (stamp stamp' : RunStamp) :
    let whole := fun jobs stamp => (Collector.empty.tally (ranOf options jobs) 0).report stamp
    let report := whole (before ++ job :: behind) stamp
    let report' := whole (before' ++ other :: behind') stamp'
    report.errors.filter (·.table ≠ job.name) = report'.errors.filter (·.table ≠ job.name) ∧
      report.artifacts.filter (·.table ≠ job.name) =
        report'.artifacts.filter (·.table ≠ job.name) := by
  have hregular : (before ++ job :: behind).Forall₂ (fun job outcome => outcome.Regular job)
      ((before ++ job :: behind).map (·.outcome options)) := by
    rw [List.forall₂_map_right_iff, List.forall₂_same]
    exact fun job _ => job.outcome_regular options
  have hlines := (lines_perm_names hregular).nodup_iff.mpr hnames
  rw [← ranOf, List.nodup_append] at hlines
  constructor
  · refine filter_mergeSort_congr hlines.1 ?_
    change (errorsOf _).filter _ = (errorsOf _).filter _
    rw [errorsOf_ranOf, errorsOf_ranOf]
    refine filter_filterMap_exchange (fun one two halike => ?_) ?_ ?_ hbefore hbehind
    · rw [halike.outcome, halike.error?]
    · intro error he
      rw [Job.error?_table he]
      exact decide_eq_false (not_not_intro rfl)
    · intro error he
      rw [Job.error?_table he]
      exact decide_eq_false (not_not_intro hname.symm)
  · refine filter_mergeSort_congr hlines.2.1 ?_
    change (summariesOf _).filter _ = (summariesOf _).filter _
    rw [summariesOf_ranOf, summariesOf_ranOf]
    refine filter_filterMap_exchange (fun one two halike => ?_) ?_ ?_ hbefore hbehind
    · rw [halike.outcome]
    · intro summary hs
      rw [Job.summary?_table hs]
      exact decide_eq_false (not_not_intro rfl)
    · intro summary hs
      rw [Job.summary?_table hs]
      exact decide_eq_false (not_not_intro hname.symm)

/-- On a memory sink they store the same for every other name. -/
theorem artifactsOf_exchange (options : Options) :
    (artifactsOf options (before ++ job :: behind)).filter (·.entity ≠ job.name) =
      (artifactsOf options (before' ++ other :: behind')).filter (·.entity ≠ job.name) := by
  refine filter_filterMap_exchange (fun one two halike => halike.artifact? options) ?_ ?_ hbefore
    hbehind
  · intro artifact ha
    rw [Job.artifact?_entity ha]
    exact decide_eq_false (not_not_intro rfl)
  · intro artifact ha
    rw [Job.artifact?_entity ha]
    exact decide_eq_false (not_not_intro hname.symm)

end

/-- Two schemas of one database name under the same settings. Jobs of the same table or view behind the
same names describe the same entity, and on a memory sink they come to the same outcome and store the
same artifact, whatever either sink holds. And where the schemas differ in one entity alone, which
keeps its name, runs that failures do not stop report and store the same for all others. -/
theorem entities_isolated (a b : Schema) (hdatabase : a.name = b.name) (settings : Settings) :
    (∀ place otherPlace job other, (a.plan settings)[place]? = some job →
      (b.plan settings)[otherPlace]? = some other → job.source = other.source →
      ((a.plan settings).take place).map Job.name =
        ((b.plan settings).take otherPlace).map Job.name →
      job.describe = other.describe ∧ ∃ (outcome : Outcome) (made : Option Artifact),
        (∀ stored, (job.execute (sourceEmitters memorySink) settings.options).run stored =
          ((outcome, false), stored ++ made.toList)) ∧
        ∀ stored, (other.execute (sourceEmitters memorySink) settings.options).run stored =
          ((outcome, false), stored ++ made.toList)) ∧
    ∀ front back old new, a.sources = front ++ old :: back → b.sources = front ++ new :: back →
      old.name = new.name → settings.failFast = false → a.check = .ok () → b.check = .ok () →
      ∀ stamp stamp' stored, ∃ report report' built built',
        (a.build settings (sourceEmitters memorySink) stamp).run stored = (.ok report, built) ∧
        (b.build settings (sourceEmitters memorySink) stamp').run stored = (.ok report', built') ∧
        report.errors.filter (·.table ≠ old.name) = report'.errors.filter (·.table ≠ old.name) ∧
        report.artifacts.filter (·.table ≠ old.name) =
          report'.artifacts.filter (·.table ≠ old.name) ∧
        built.filter (·.entity ≠ old.name) = built'.filter (·.entity ≠ old.name) := by
  constructor
  · intro place otherPlace job other hjob hother hsource hbefore
    have halike := Schema.plan_alike hdatabase hjob hother hsource hbefore
    refine ⟨halike.describe, job.outcome settings.options, job.artifact? settings.options,
      job.execute_memorySink settings.options, ?_⟩
    rw [← halike.execute]
    exact job.execute_memorySink settings.options
  · intro front back old new ha hb hname hwhole hcheck hcheck' stamp stamp' stored
    obtain ⟨before, behind, before', behind', job, other, hplan, hplan', hbefore, hbehind, rfl, rfl,
      -⟩ := Schema.plan_exchange hdatabase settings ha hb hname
    have hnames := Schema.plan_names_nodup hcheck settings
    have hrun := Schema.build_whole hcheck hwhole stamp stored
    have hrun' := Schema.build_whole hcheck' hwhole stamp' stored
    rw [hplan] at hnames hrun
    rw [hplan'] at hrun'
    obtain ⟨herrors, hartifacts⟩ :=
      whole_report_exchange hbefore hbehind hname hnames settings.options stamp stamp'
    refine ⟨_, _, _, _, hrun, hrun', herrors, hartifacts, ?_⟩
    rw [List.filter_append, List.filter_append]
    exact congrArg _ (artifactsOf_exchange hbefore hbehind hname settings.options)

/-- A column without a Java type makes the table `person` fail. The table that clashes with it fails as
before, and the view is generated as before. -/
theorem entities_isolated_person :
    let id : Column := ⟨"id", .integer, false, true, none, none⟩
    let odd : Column := ⟨"odd", .unknown, true, false, none, some "s"⟩
    let clashing : Table := ⟨"PERSON", [id], []⟩
    let a : Schema := ⟨"d", none, [⟨"person", [id], []⟩, clashing], [⟨"v", [id]⟩]⟩
    let b : Schema := ⟨"d", none, [⟨"person", [id, odd], ["t"]⟩, clashing], [⟨"v", [id]⟩]⟩
    let settings : Settings := { packageBase := "p" }
    let stamp : RunStamp := ⟨"r", ⟨0⟩, ⟨0⟩⟩
    a.name = b.name ∧ settings.failFast = false ∧ a.check = .ok () ∧ b.check = .ok () ∧
    (∃ job other, (a.plan settings)[2]? = some job ∧ (b.plan settings)[2]? = some other ∧
      job.describe = other.describe) ∧
    ∃ report report' built built',
      (a.build settings (sourceEmitters memorySink) stamp).run [] = (.ok report, built) ∧
      (b.build settings (sourceEmitters memorySink) stamp).run [] = (.ok report', built') ∧
      report.errors.filter (·.table ≠ "person") = report'.errors.filter (·.table ≠ "person") ∧
      report.artifacts.filter (·.table ≠ "person") =
        report'.artifacts.filter (·.table ≠ "person") ∧
      built.filter (·.entity ≠ "person") = built'.filter (·.entity ≠ "person") ∧
      built.map (·.entity) = ["person", "v"] ∧ built'.map (·.entity) = ["v"] := by
  intro id odd clashing a b settings stamp
  have hdatabase : a.name = b.name := rfl
  have hcheck : a.check = .ok () := by decide +kernel
  have hcheck' : b.check = .ok () := by decide +kernel
  obtain ⟨hjobs, hruns⟩ := entities_isolated a b hdatabase settings
  obtain ⟨report, report', built, built', hrun, hrun', herrors, hartifacts, hstored⟩ :=
    hruns [] [.table clashing, .view ⟨"v", [id]⟩] (.table ⟨"person", [id], []⟩)
      (.table ⟨"person", [id, odd], ["t"]⟩) rfl rfl rfl rfl hcheck hcheck' stamp stamp []
  refine ⟨hdatabase, rfl, hcheck, hcheck', ?_, report, report', built, built', hrun, hrun', herrors,
    hartifacts, hstored, ?_, ?_⟩
  · have hnames : ((a.plan settings).take 2).map Job.name =
        ((b.plan settings).take 2).map Job.name := by decide +kernel
    exact ⟨_, _, rfl, rfl, (hjobs 2 2 _ _ rfl rfl rfl hnames).1⟩
  · have hbuilt : ((a.build settings (sourceEmitters memorySink) stamp).run []).2.map (·.entity) =
        ["person", "v"] := by decide +kernel
    rwa [hrun] at hbuilt
  · have hbuilt : ((b.build settings (sourceEmitters memorySink) stamp).run []).2.map (·.entity) =
        ["v"] := by decide +kernel
    rwa [hrun'] at hbuilt

end EntityGen
