import EntityGen.Proofs.Emission.Execution
import EntityGen.Proofs.Plan.Jobs
import EntityGen.Proofs.Report.Calls
import EntityGen.Proofs.Schema.Acceptance
import EntityGen.Run
import Mathlib.Data.List.Nodup
import Mathlib.Data.UInt

/-!
# The account of a run in order

A run executes the front of its plan, up to the first failure when failures stop it, and skips the
rest. The report accounts for both: every entity whose job ran is in it once, no other is, and the
counts and the status say the same as the lists.
-/
namespace EntityGen

def Outcome.error? (job : Job) : Outcome → Option TableError
  | failed fault => some ⟨job.name, fault⟩
  | _ => none

def Outcome.summary? : Outcome → Option ArtifactSummary
  | done result =>
    some ⟨result.entity, result.kind, result.className, result.path, result.files⟩
  | _ => none

def errorsOf (ran : List (Job × Outcome)) : List TableError :=
  ran.filterMap fun entry => entry.2.error? entry.1

def summariesOf (ran : List (Job × Outcome)) : List ArtifactSummary :=
  ran.filterMap fun entry => entry.2.summary?

theorem errorsOf_cons_of_not_failed {outcome : Outcome} (h : outcome.isFailed = false) (job : Job)
    (ran : List (Job × Outcome)) : errorsOf ((job, outcome) :: ran) = errorsOf ran := by
  cases outcome with
  | failed fault => cases h
  | done result => rfl
  | crashed message => rfl

theorem summariesOf_cons_done (job : Job) (result : JobResult) (ran : List (Job × Outcome)) :
    summariesOf ((job, .done result) :: ran) =
      ⟨result.entity, result.kind, result.className, result.path, result.files⟩ ::
        summariesOf ran := rfl

namespace Collector

/-- The collector with the outcomes of jobs that ran and a number of jobs that did not start. -/
def tally (collector : Collector) (ran : List (Job × Outcome)) (skipped : Nat) : Collector where
  processed := collector.processed + ran.length
  files := collector.files + ((summariesOf ran).map (·.files)).sum
  skipped := collector.skipped + skipped
  errors := collector.errors ++ errorsOf ran
  artifacts := collector.artifacts ++ summariesOf ran

theorem tally_nil (collector : Collector) : collector.tally [] 0 = collector := by
  simp [tally, errorsOf, summariesOf]

theorem tally_failed (collector : Collector) (job : Job) (fault : Fault)
    (ran : List (Job × Outcome)) (skipped : Nat) :
    (collector.record job.name (.error fault)).tally ran skipped =
      collector.tally ((job, .failed fault) :: ran) skipped := by
  simp [tally, record, errorsOf, summariesOf, Outcome.error?, Outcome.summary?, Nat.add_assoc,
    Nat.add_comm 1]

theorem tally_done (collector : Collector) (job : Job) (result : JobResult)
    (ran : List (Job × Outcome)) (skipped : Nat) :
    (collector.record job.name (.ok result)).tally ran skipped =
      collector.tally ((job, .done result) :: ran) skipped := by
  simp [tally, record, errorsOf, summariesOf, Outcome.error?, Outcome.summary?, Nat.add_assoc,
    Nat.add_comm 1, UInt64.add_assoc]

theorem tally_skip (collector : Collector) (ran : List (Job × Outcome)) (skipped : Nat) :
    collector.skip.tally ran skipped = collector.tally ran (skipped + 1) := by
  simp [tally, skip, Nat.add_assoc, Nat.add_comm 1]

end Collector

variable {σ : Type}

/-- Once a run is stopped it only counts. -/
theorem runInOrder_stopped (settings : Settings) (factory : EmitterFactory (StateM σ))
    (jobs : List Job) (collector : Collector) (state : σ) :
    (runInOrder settings factory true jobs collector).run state =
      (.ok (collector.tally [] jobs.length), state) := by
  induction jobs generalizing collector with
  | nil =>
    rw [List.length_nil, Collector.tally_nil]
    rfl
  | cons job rest ih => rw [runInOrder, ih, Collector.tally_skip, List.length_cons]

theorem runInOrder_failed {settings : Settings} {factory : EmitterFactory (StateM σ)} {job : Job}
    {state middle : σ} {fault : Fault} {stop : Bool}
    (h : (job.execute factory settings.options).run state = ((.failed fault, stop), middle))
    (rest : List Job) (collector : Collector) :
    (runInOrder settings factory false (job :: rest) collector).run state =
      (runInOrder settings factory settings.failFast rest
        (collector.record job.name (.error fault))).run middle := by
  rw [runInOrder, StateT.run_bind, h]
  rfl

theorem runInOrder_done {settings : Settings} {factory : EmitterFactory (StateM σ)} {job : Job}
    {state middle : σ} {result : JobResult} {stop : Bool}
    (h : (job.execute factory settings.options).run state = ((.done result, stop), middle))
    (rest : List Job) (collector : Collector) :
    (runInOrder settings factory false (job :: rest) collector).run state =
      (runInOrder settings factory false rest
        (collector.record job.name (.ok result))).run middle := by
  rw [runInOrder, StateT.run_bind, h]
  rfl

/-- Where a run ends: with the plan when failures do not stop it, and otherwise with the first job
that fails. -/
structure EndsRight (failFast : Bool) (outcomes : List Outcome) (skipped : List Job) : Prop where
  whole : failFast = false → skipped = []
  early : failFast = true → ∀ outcome ∈ outcomes.dropLast, outcome.isFailed = false
  stopped : skipped ≠ [] → ∃ fault, outcomes.getLast? = some (.failed fault)

theorem endsRight_nil (failFast : Bool) : EndsRight failFast [] [] where
  whole _ := rfl
  early _ _ h := nomatch h
  stopped h := absurd rfl h

theorem endsRight_failed (fault : Fault) (skipped : List Job) :
    EndsRight true [.failed fault] skipped where
  whole h := nomatch h
  early _ _ h := nomatch h
  stopped _ := ⟨fault, rfl⟩

theorem EndsRight.cons {failFast : Bool} {outcome : Outcome} {outcomes : List Outcome}
    {skipped : List Job} (h : EndsRight failFast outcomes skipped)
    (hfirst : failFast = true → outcome.isFailed = false) :
    EndsRight failFast (outcome :: outcomes) skipped where
  whole := h.whole
  early hf other hm := by
    cases outcomes with
    | nil => cases hm
    | cons next more =>
      rcases List.mem_cons.mp hm with rfl | hr
      · exact hfirst hf
      · exact h.early hf other hr
  stopped hs := by
    obtain ⟨fault, hlast⟩ := h.stopped hs
    cases outcomes with
    | nil => cases hlast
    | cons next more => exact ⟨fault, by rw [List.getLast?_cons_cons, hlast]⟩

/-- A run executes the front of the plan and counts the rest, whatever the emitters do. -/
theorem runInOrder_run (settings : Settings) {factory : EmitterFactory (StateM σ)}
    (hcalm : NeverCrashes factory) (jobs : List Job) (collector : Collector) (state : σ) :
    ∃ executed skipped, executed ++ skipped = jobs ∧
      EndsRight settings.failFast
        ((executeEach factory settings.options executed).run state).1 skipped ∧
      (runInOrder settings factory false jobs collector).run state =
        (.ok (collector.tally
            (executed.zip ((executeEach factory settings.options executed).run state).1)
            skipped.length),
          ((executeEach factory settings.options executed).run state).2) := by
  induction jobs generalizing collector state with
  | nil =>
    refine ⟨[], [], rfl, endsRight_nil _, ?_⟩
    rw [executeEach_nil, List.zip_nil_left, List.length_nil, Collector.tally_nil]
    rfl
  | cons job rest ih =>
    have hregular := job.execute_regular hcalm settings.options state
    cases hx : (job.execute factory settings.options).run state with
    | mk answer middle =>
      obtain ⟨outcome, stop⟩ := answer
      rw [hx] at hregular
      cases hregular with
      | @done result hentity hfiles =>
        obtain ⟨executed, skipped, hplan, hends, hrun⟩ :=
          ih (collector.record job.name (.ok result)) middle
        refine ⟨job :: executed, skipped, by rw [← hplan, List.cons_append], ?_, ?_⟩
        · rw [executeEach_cons hx]
          exact hends.cons fun _ => rfl
        · rw [runInOrder_done hx, hrun, executeEach_cons hx, List.zip_cons_cons,
            Collector.tally_done]
      | @failed fault =>
        cases hf : settings.failFast with
        | true =>
          refine ⟨[job], rest, rfl, ?_, ?_⟩
          · rw [executeEach_cons hx, executeEach_nil]
            exact endsRight_failed fault rest
          · rw [runInOrder_failed hx, hf, runInOrder_stopped, executeEach_cons hx,
              executeEach_nil, List.zip_cons_cons, List.zip_nil_left, Collector.tally_failed]
        | false =>
          obtain ⟨executed, skipped, hplan, hends, hrun⟩ :=
            ih (collector.record job.name (.error fault)) middle
          rw [hf] at hends
          refine ⟨job :: executed, skipped, by rw [← hplan, List.cons_append], ?_, ?_⟩
          · rw [executeEach_cons hx]
            exact hends.cons fun h => nomatch h
          · rw [runInOrder_failed hx, hf, hrun, executeEach_cons hx, List.zip_cons_cons,
              Collector.tally_failed]

/-- Every job that ran has one line, an error or a summary, under its own name. -/
theorem lines_perm_names {executed : List Job} {outcomes : List Outcome}
    (h : executed.Forall₂ (fun job outcome => outcome.Regular job) outcomes) :
    ((errorsOf (executed.zip outcomes)).map (·.table) ++
      (summariesOf (executed.zip outcomes)).map (·.table)).Perm (executed.map Job.name) := by
  induction h with
  | nil => exact .nil
  | @cons job outcome jobs rest hfirst _ ih =>
    cases hfirst with
    | @done result hentity hfiles =>
      rw [List.zip_cons_cons, summariesOf_cons_done, errorsOf_cons_of_not_failed rfl, List.map_cons,
        List.map_cons, hentity]
      exact List.perm_middle.trans (ih.cons _)
    | @failed fault => exact ih.cons job.name

theorem summariesOf_files {executed : List Job} {outcomes : List Outcome}
    (h : executed.Forall₂ (fun job outcome => outcome.Regular job) outcomes) :
    ((summariesOf (executed.zip outcomes)).map (·.files)).sum =
      UInt64.ofNat (summariesOf (executed.zip outcomes)).length := by
  induction h with
  | nil => rfl
  | @cons job outcome jobs rest hfirst _ ih =>
    cases hfirst with
    | @done result hentity hfiles =>
      rw [List.zip_cons_cons, summariesOf_cons_done, List.map_cons, List.sum_cons, List.length_cons,
        ih, hfiles, UInt64.ofNat_add, UInt64.add_comm]
      rfl
    | @failed fault => exact ih

theorem errorsOf_eq_nil_iff (ran : List (Job × Outcome)) :
    errorsOf ran = [] ↔ ∀ entry ∈ ran, entry.2.isFailed = false := by
  have hnone : ∀ (job : Job) (outcome : Outcome),
      outcome.error? job = none ↔ outcome.isFailed = false := by
    intro job outcome
    cases outcome <;> simp [Outcome.error?, Outcome.isFailed]
  rw [errorsOf, List.filterMap_eq_nil_iff]
  simp only [hnone]

theorem exists_failed_zip {executed : List Job} {outcomes : List Outcome}
    (h : executed.length = outcomes.length) :
    (∃ entry ∈ executed.zip outcomes, entry.2.isFailed = true) ↔
      ∃ outcome ∈ outcomes, outcome.isFailed = true := by
  constructor
  · rintro ⟨entry, he, hf⟩
    exact ⟨entry.2, (List.of_mem_zip he).2, hf⟩
  · rintro ⟨outcome, ho, hf⟩
    have hsnd : outcome ∈ (executed.zip outcomes).map Prod.snd := by
      rwa [List.map_snd_zip (Nat.le_of_eq h.symm)]
    obtain ⟨entry, he, rfl⟩ := List.mem_map.mp hsnd
    exact ⟨entry, he, hf⟩

theorem errorsOf_length_le_one {executed : List Job} {outcomes : List Outcome}
    (h : ∀ outcome ∈ outcomes.dropLast, outcome.isFailed = false) :
    (errorsOf (executed.zip outcomes)).length ≤ 1 := by
  induction outcomes generalizing executed with
  | nil => simp [errorsOf]
  | cons first rest ih =>
    cases executed with
    | nil => simp [errorsOf]
    | cons job jobs =>
      cases rest with
      | nil =>
        rw [List.zip_cons_cons, List.zip_nil_right]
        exact (List.length_filterMap_le _ _)
      | cons next more =>
        have hfirst : first.isFailed = false := h first List.mem_cons_self
        rw [List.zip_cons_cons, errorsOf_cons_of_not_failed hfirst]
        exact ih fun outcome hm => h outcome (List.mem_cons_of_mem _ hm)

namespace Collector

theorem report_errors_perm (collector : Collector) (stamp : RunStamp) :
    (collector.report stamp).errors.Perm collector.errors :=
  List.mergeSort_perm _ _

theorem report_artifacts_perm (collector : Collector) (stamp : RunStamp) :
    (collector.report stamp).artifacts.Perm collector.artifacts :=
  List.mergeSort_perm _ _

end Collector

/-- What the report of a run says, given the jobs that it executed, what came of them and the jobs
that it skipped. -/
structure Account (schema : Schema) (settings : Settings) (executed skipped : List Job)
    (outcomes : List Outcome) (report : Report) : Prop where
  plan : executed ++ skipped = schema.plan settings
  ends : EndsRight settings.failFast outcomes skipped
  processed : report.tablesProcessed = executed.length
  passed : report.tablesSkipped = skipped.length
  total : report.tablesProcessed + report.tablesSkipped = schema.entityCount
  errors : report.errors.Perm (errorsOf (executed.zip outcomes))
  artifacts : report.artifacts.Perm (summariesOf (executed.zip outcomes))
  once : ∀ job ∈ executed,
    (report.errors.map (·.table) ++ report.artifacts.map (·.table)).count job.name = 1
  never : ∀ job ∈ skipped,
    job.name ∉ report.errors.map (·.table) ++ report.artifacts.map (·.table)
  files : report.filesGenerated = UInt64.ofNat report.artifacts.length
  oneError : settings.failFast = true → report.errors.length ≤ 1
  completed : report.status = .completed ↔ ∀ outcome ∈ outcomes, outcome.isFailed = false
  failed : report.status = .failed ↔ ∃ outcome ∈ outcomes, outcome.isFailed = true
  notCancelled : report.status ≠ .cancelled

section
variable (ran : List (Job × Outcome)) (skipped : Nat)

/-- A failure decides the status of a tally, and behind it a job that did not start. -/
theorem status_tally_eq_failed_iff :
    (Collector.empty.tally ran skipped).status = .failed ↔
      ∃ entry ∈ ran, entry.2.isFailed = true := by
  rw [Collector.status_eq_failed_iff]
  change errorsOf ran ≠ [] ↔ _
  rw [ne_eq, errorsOf_eq_nil_iff]
  simp

theorem status_tally_eq_cancelled_iff :
    (Collector.empty.tally ran skipped).status = .cancelled ↔
      (∀ entry ∈ ran, entry.2.isFailed = false) ∧ 0 < skipped := by
  rw [Collector.status_eq_cancelled_iff]
  change errorsOf ran = [] ∧ 0 < 0 + skipped ↔ _
  rw [errorsOf_eq_nil_iff, Nat.zero_add]

theorem status_tally_eq_completed_iff :
    (Collector.empty.tally ran skipped).status = .completed ↔
      (∀ entry ∈ ran, entry.2.isFailed = false) ∧ skipped = 0 := by
  rw [Collector.status_eq_completed_iff]
  change errorsOf ran = [] ∧ 0 + skipped = 0 ↔ _
  rw [errorsOf_eq_nil_iff, Nat.zero_add]

end

/-- A run in order skips jobs behind a failure only. -/
theorem EndsRight.skipped_eq_nil {failFast : Bool} {outcomes : List Outcome} {skipped : List Job}
    (h : EndsRight failFast outcomes skipped)
    (hnone : ∀ outcome ∈ outcomes, outcome.isFailed = false) : skipped = [] := by
  by_contra hs
  obtain ⟨fault, hlast⟩ := h.stopped hs
  cases hnone _ (List.mem_of_getLast? hlast)

/-- What a report says of the jobs that executed and the jobs that were skipped. -/
structure Tallied (executed skipped : List Job) (outcomes : List Outcome) (report : Report) :
    Prop where
  processed : report.tablesProcessed = executed.length
  passed : report.tablesSkipped = skipped.length
  errors : report.errors.Perm (errorsOf (executed.zip outcomes))
  artifacts : report.artifacts.Perm (summariesOf (executed.zip outcomes))
  once : ∀ job ∈ executed,
    (report.errors.map (·.table) ++ report.artifacts.map (·.table)).count job.name = 1
  never : ∀ job ∈ skipped,
    job.name ∉ report.errors.map (·.table) ++ report.artifacts.map (·.table)
  files : report.filesGenerated = UInt64.ofNat report.artifacts.length

theorem tallied_report {executed skipped : List Job} {outcomes : List Outcome}
    (hnames : ((executed ++ skipped).map Job.name).Nodup)
    (hregular : executed.Forall₂ (fun job outcome => outcome.Regular job) outcomes)
    (stamp : RunStamp) :
    Tallied executed skipped outcomes
      ((Collector.empty.tally (executed.zip outcomes) skipped.length).report stamp) := by
  have hzip : (executed.zip outcomes).length = executed.length := by
    rw [List.length_zip, ← hregular.length_eq, Nat.min_self]
  have herrors := (Collector.empty.tally (executed.zip outcomes) skipped.length).report_errors_perm
    stamp
  have hartifacts :=
    (Collector.empty.tally (executed.zip outcomes) skipped.length).report_artifacts_perm stamp
  have hlines := ((herrors.map (·.table)).append (hartifacts.map (·.table))).trans
    (lines_perm_names hregular)
  rw [List.map_append] at hnames
  exact
    { processed := (Nat.zero_add _).trans hzip
      passed := Nat.zero_add _
      errors := herrors
      artifacts := hartifacts
      once := by
        intro job hj
        rw [hlines.count_eq]
        exact List.count_eq_one_of_mem (List.nodup_append.mp hnames).1 (List.mem_map_of_mem hj)
      never := by
        intro job hj hm
        exact (List.nodup_append.mp hnames).2.2 _ (hlines.mem_iff.mp hm) _ (List.mem_map_of_mem hj)
          rfl
      files := by
        rw [hartifacts.length_eq]
        exact (UInt64.zero_add _).trans (summariesOf_files hregular) }

theorem account_tally {schema : Schema} {settings : Settings} {executed skipped : List Job}
    {outcomes : List Outcome} (hplan : executed ++ skipped = schema.plan settings)
    (hnames : ((schema.plan settings).map Job.name).Nodup)
    (hregular : executed.Forall₂ (fun job outcome => outcome.Regular job) outcomes)
    (hends : EndsRight settings.failFast outcomes skipped) (stamp : RunStamp) :
    Account schema settings executed skipped outcomes
      ((Collector.empty.tally (executed.zip outcomes) skipped.length).report stamp) := by
  have htallied := tallied_report (hplan ▸ hnames) hregular stamp
  have hfailed := exists_failed_zip hregular.length_eq
  have hnone : (∀ entry ∈ executed.zip outcomes, entry.2.isFailed = false) ↔
      ∀ outcome ∈ outcomes, outcome.isFailed = false := by
    simpa only [not_exists, not_and, Bool.not_eq_true] using not_congr hfailed
  exact
    { plan := hplan
      ends := hends
      processed := htallied.processed
      passed := htallied.passed
      total := by
        rw [htallied.processed, htallied.passed, ← schema.plan_length settings, ← hplan,
          List.length_append]
      errors := htallied.errors
      artifacts := htallied.artifacts
      once := htallied.once
      never := htallied.never
      files := htallied.files
      oneError := by
        intro hf
        rw [htallied.errors.length_eq]
        exact errorsOf_length_le_one (hends.early hf)
      completed := by
        refine (status_tally_eq_completed_iff _ _).trans ?_
        rw [hnone, List.length_eq_zero_iff]
        exact and_iff_left_of_imp hends.skipped_eq_nil
      failed := (status_tally_eq_failed_iff _ _).trans hfailed
      notCancelled := by
        intro hcancelled
        obtain ⟨hclean, hskipped⟩ := (status_tally_eq_cancelled_iff _ _).mp hcancelled
        rw [hends.skipped_eq_nil (hnone.mp hclean)] at hskipped
        exact Nat.lt_irrefl 0 hskipped }

/-- The jobs of an accepted schema have different names. -/
theorem Schema.plan_names_nodup {schema : Schema} (h : schema.check = .ok ()) (settings : Settings) :
    ((schema.plan settings).map Job.name).Nodup := by
  rw [schema.plan_names settings]
  exact (schema.check_eq_ok_iff.mp h).entitiesDiffer

/-- A run in order of emitters that do not crash: a refused schema is the answer itself, and nothing
is executed. Otherwise the run leaves the sink as the executed jobs leave it, one after the other, and
its report accounts for the whole plan. -/
theorem build_accounts (schema : Schema) (settings : Settings)
    (factory : EmitterFactory (StateM σ)) (hcalm : NeverCrashes factory) (stamp : RunStamp)
    (state : σ) :
    (∀ fault, schema.check = .error fault →
      schema.build settings factory stamp = pure (.error (.rejected fault))) ∧
    (schema.check = .ok () → ∃ executed skipped report,
      (schema.build settings factory stamp).run state =
        (.ok report, ((executeEach factory settings.options executed).run state).2) ∧
      Account schema settings executed skipped
        ((executeEach factory settings.options executed).run state).1 report) := by
  constructor
  · intro fault hc
    rw [Schema.build, hc]
  · intro hc
    have hnames := Schema.plan_names_nodup hc settings
    obtain ⟨executed, skipped, hplan, hends, hrun⟩ :=
      runInOrder_run settings hcalm (schema.plan settings) .empty state
    refine ⟨executed, skipped, _, ?_, account_tally hplan hnames
      (executeEach_regular hcalm settings.options executed state) hends stamp⟩
    rw [Schema.build, hc, StateT.run_bind, hrun]
    rfl

/-- Emitters that note every name and refuse one of them. -/
def refusing (refused : String) : EmitterFactory (StateM (List String)) :=
  fun name => return fun entity options => do
    modify (· ++ [name])
    return ⟨if name = refused then .refused .cancelled else .written (entity.artifact options), false⟩

theorem refusing_neverCrashes (refused : String) : NeverCrashes (refusing refused) := by
  intro name entity options state message
  change (if name = refused then Emission.refused .cancelled
    else .written (entity.artifact options)) ≠ .crashed message
  split <;> exact fun h => nomatch h

/-- Of three tables the second one is refused, and the run stops there. -/
theorem build_accounts_refused :
    let schema : Schema := ⟨"d", none, [⟨"a", [], []⟩, ⟨"b", [], []⟩, ⟨"c", [], []⟩], []⟩
    let settings : Settings := { failFast := true, packageBase := "p" }
    let stamp : RunStamp := ⟨"r", ⟨0⟩, ⟨0⟩⟩
    NeverCrashes (refusing "b") ∧ schema.check = .ok () ∧
    ∃ executed skipped report,
      (schema.build settings (refusing "b") stamp).run [] = (.ok report, ["a", "b"]) ∧
      Account schema settings executed skipped
        ((executeEach (refusing "b") settings.options executed).run []).1 report ∧
      report.status = .failed := by
  intro schema settings stamp
  have hcheck : schema.check = .ok () := by decide +kernel
  obtain ⟨executed, skipped, report, hrun, haccount⟩ :=
    (build_accounts schema settings (refusing "b") (refusing_neverCrashes "b") stamp []).2 hcheck
  have hnoted : ((schema.build settings (refusing "b") stamp).run []).2 = ["a", "b"] := by
    decide +kernel
  refine ⟨refusing_neverCrashes "b", hcheck, executed, skipped, report, ?_, haccount, ?_⟩
  · rw [hrun] at hnoted ⊢
    rw [hnoted]
  · have hstatus : (((schema.build settings (refusing "b") stamp).run []).1.toOption.map
        (·.status)) = some .failed := by decide +kernel
    rw [hrun] at hstatus
    exact Option.some.inj hstatus

end EntityGen
