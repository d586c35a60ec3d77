import EntityGen.Proofs.Report.Sorting
import EntityGen.Report
import Mathlib.Algebra.BigOperators.Group.List.Basic
import Mathlib.Data.List.Permutation
import Mathlib.Data.UInt

/-!
# What a report says of its calls

A collector is told of jobs one call at a time: a job that ran, with what came of it, or one that
was not started. The report counts the calls, adds up the files and arranges the lists by name, so
calls whose names differ may come in any order.
-/
namespace EntityGen

inductive Call
  | record (table : String) (outcome : Except Fault JobResult)
  | skip (table : String)
  deriving DecidableEq

def JobResult.summary (result : JobResult) : ArtifactSummary :=
  ⟨result.entity, result.kind, result.className, result.path, result.files⟩

namespace Call

def isRecord : Call → Bool
  | record _ _ => true
  | skip _ => false

def isSkip : Call → Bool
  | record _ _ => false
  | skip _ => true

def failure? : Call → Option TableError
  | record table (.error fault) => some ⟨table, fault⟩
  | _ => none

def success? : Call → Option JobResult
  | record _ (.ok result) => some result
  | _ => none

end Call

def failures (calls : List Call) : List TableError := calls.filterMap Call.failure?

def successes (calls : List Call) : List JobResult := calls.filterMap Call.success?

theorem failures_concat (calls : List Call) (call : Call) :
    failures (calls ++ [call]) = failures calls ++ call.failure?.toList := by
  rw [failures, List.filterMap_append, failures, List.filterMap_cons]
  cases call.failure? <;> rfl

theorem successes_concat (calls : List Call) (call : Call) :
    successes (calls ++ [call]) = successes calls ++ call.success?.toList := by
  rw [successes, List.filterMap_append, successes, List.filterMap_cons]
  cases call.success? <;> rfl

theorem mem_failures_iff {calls : List Call} {table : String} {fault : Fault} :
    ⟨table, fault⟩ ∈ failures calls ↔ .record table (.error fault) ∈ calls := by
  rw [failures, List.mem_filterMap]
  constructor
  · rintro ⟨call, hcall, he⟩
    cases call with
    | skip name => cases he
    | record name outcome =>
      cases outcome with
      | ok result => cases he
      | error cause =>
        cases he
        exact hcall
  · intro h
    exact ⟨_, h, rfl⟩

theorem failures_ne_nil_iff {calls : List Call} :
    failures calls ≠ [] ↔ ∃ table fault, Call.record table (.error fault) ∈ calls := by
  constructor
  · intro h
    obtain ⟨⟨table, fault⟩, hm⟩ := List.exists_mem_of_ne_nil _ h
    exact ⟨table, fault, mem_failures_iff.mp hm⟩
  · rintro ⟨table, fault, hm⟩
    exact List.ne_nil_of_mem (mem_failures_iff.mpr hm)

theorem countP_isSkip_pos_iff {calls : List Call} :
    0 < calls.countP Call.isSkip ↔ ∃ table, .skip table ∈ calls := by
  rw [List.countP_pos_iff]
  constructor
  · rintro ⟨call, hcall, hskip⟩
    cases call with
    | record table outcome => cases hskip
    | skip table => exact ⟨table, hcall⟩
  · rintro ⟨table, h⟩
    exact ⟨_, h, rfl⟩

namespace Collector

def take (collector : Collector) : Call → Collector
  | .record table outcome => collector.record table outcome
  | .skip _ => collector.skip

def ofCalls (calls : List Call) : Collector := calls.foldl take .empty

section
variable (collector : Collector) (call : Call)

theorem take_processed :
    (collector.take call).processed = collector.processed + if call.isRecord then 1 else 0 := by
  rcases call with ⟨table, fault | result⟩ | table <;> rfl

theorem take_skipped :
    (collector.take call).skipped = collector.skipped + if call.isSkip then 1 else 0 := by
  rcases call with ⟨table, fault | result⟩ | table <;> rfl

theorem take_files : (collector.take call).files =
    collector.files + (call.success?.toList.map (·.files)).sum := by
  rcases call with ⟨table, fault | result⟩ | table <;> simp [take, record, skip, Call.success?]

theorem take_errors : (collector.take call).errors = collector.errors ++ call.failure?.toList := by
  rcases call with ⟨table, fault | result⟩ | table <;>
    simp [take, record, skip, Call.failure?]

theorem take_artifacts : (collector.take call).artifacts =
    collector.artifacts ++ call.success?.toList.map JobResult.summary := by
  rcases call with ⟨table, fault | result⟩ | table <;>
    simp [take, record, skip, Call.success?, JobResult.summary]

end

/-- A collector that was told of some calls. -/
structure Told (calls : List Call) (collector : Collector) : Prop where
  processed : collector.processed = calls.countP Call.isRecord
  skipped : collector.skipped = calls.countP Call.isSkip
  files : collector.files = ((successes calls).map (·.files)).sum
  errors : collector.errors = failures calls
  artifacts : collector.artifacts = (successes calls).map JobResult.summary

theorem told_empty : Told [] .empty := ⟨rfl, rfl, rfl, rfl, rfl⟩

theorem Told.take {calls : List Call} {collector : Collector} (h : Told calls collector)
    (call : Call) : Told (calls ++ [call]) (collector.take call) where
  processed := by
    rw [take_processed, h.processed, List.countP_append, List.countP_singleton]
  skipped := by
    rw [take_skipped, h.skipped, List.countP_append, List.countP_singleton]
  files := by
    rw [take_files, h.files, successes_concat, List.map_append, List.sum_append]
  errors := by
    rw [take_errors, h.errors, failures_concat]
  artifacts := by
    rw [take_artifacts, h.artifacts, successes_concat, List.map_append]

theorem told_ofCalls (calls : List Call) : Told calls (ofCalls calls) := by
  induction calls using List.reverseRecOn with
  | nil => exact told_empty
  | append_singleton calls call ih =>
    rw [ofCalls, List.foldl_append]
    exact ih.take call

end Collector

/-- A sum of 64 bits is the sum of the numbers up to a multiple of 2 ^ 64. -/
theorem toNat_sum (numbers : List UInt64) :
    numbers.sum.toNat = (numbers.map UInt64.toNat).sum % 2 ^ 64 := by
  induction numbers with
  | nil => rfl
  | cons first rest ih =>
    rw [List.sum_cons, List.map_cons, List.sum_cons, UInt64.toNat_add, ih, Nat.add_mod_mod]

namespace Collector
variable (collector : Collector)

theorem status_eq_failed_iff : collector.status = .failed ↔ collector.errors ≠ [] := by
  unfold status
  cases collector.errors with
  | cons error rest => exact iff_of_true rfl (List.cons_ne_nil error rest)
  | nil =>
    have hnever : (if 0 < collector.skipped then .cancelled else .completed) ≠ RunStatus.failed := by
      split <;> exact fun h => nomatch h
    exact iff_of_false hnever fun h => h rfl

theorem status_eq_cancelled_iff :
    collector.status = .cancelled ↔ collector.errors = [] ∧ 0 < collector.skipped := by
  unfold status
  cases collector.errors with
  | cons error rest => exact iff_of_false (fun h => nomatch h) fun h => nomatch h.1
  | nil =>
    change (if 0 < collector.skipped then RunStatus.cancelled else .completed) = _ ↔ _
    split
    · next hpos => exact iff_of_true rfl ⟨rfl, hpos⟩
    · next hpos => exact iff_of_false (fun h => nomatch h) fun h => hpos h.2

theorem status_eq_completed_iff :
    collector.status = .completed ↔ collector.errors = [] ∧ collector.skipped = 0 := by
  unfold status
  cases collector.errors with
  | cons error rest => exact iff_of_false (fun h => nomatch h) fun h => nomatch h.1
  | nil =>
    change (if 0 < collector.skipped then RunStatus.cancelled else .completed) = _ ↔ _
    split
    · next hpos => exact iff_of_false (fun h => nomatch h) fun h => Nat.ne_of_gt hpos h.2
    · next hpos => exact iff_of_true rfl ⟨rfl, Nat.eq_zero_of_not_pos hpos⟩

end Collector

theorem all_succeed_iff {calls : List Call} :
    failures calls = [] ∧ calls.countP Call.isSkip = 0 ↔
      ∀ call ∈ calls, ∃ table result, call = .record table (.ok result) := by
  rw [failures, List.filterMap_eq_nil_iff, List.countP_eq_zero]
  constructor
  · rintro ⟨hfailures, hskips⟩ call hcall
    match call with
    | .record table (.ok result) => exact ⟨table, result, rfl⟩
    | .record table (.error fault) => exact absurd (hfailures _ hcall) (fun h => nomatch h)
    | .skip table => exact absurd rfl (hskips _ hcall)
  · intro h
    constructor
    · intro call hcall
      obtain ⟨table, result, rfl⟩ := h call hcall
      rfl
    · intro call hcall
      obtain ⟨table, result, rfl⟩ := h call hcall
      exact fun hskip => nomatch hskip

/-- What a report says of the calls that its collector was told of. -/
structure Reports (calls : List Call) (report : Report) : Prop where
  processed : report.tablesProcessed = calls.countP Call.isRecord
  skipped : report.tablesSkipped = calls.countP Call.isSkip
  files : report.filesGenerated.toNat = ((successes calls).map (·.files.toNat)).sum % 2 ^ 64
  errors : StablySorted (·.table) (failures calls) report.errors
  artifacts : StablySorted (·.table) ((successes calls).map JobResult.summary) report.artifacts
  failed : report.status = .failed ↔ ∃ table fault, .record table (.error fault) ∈ calls
  cancelled : report.status = .cancelled ↔
    (¬∃ table fault, .record table (.error fault) ∈ calls) ∧ ∃ table, .skip table ∈ calls
  completed : report.status = .completed ↔
    ∀ call ∈ calls, ∃ table result, call = .record table (.ok result)

theorem Collector.Told.reports {calls : List Call} {collector : Collector}
    (h : Told calls collector) (stamp : RunStamp) : Reports calls (collector.report stamp) where
  processed := h.processed
  skipped := h.skipped
  files := by
    change collector.files.toNat = _
    rw [h.files, toNat_sum, List.map_map]
    rfl
  errors := h.errors ▸ stablySorted_mergeSort _ _
  artifacts := h.artifacts ▸ stablySorted_mergeSort _ _
  failed := by
    change collector.status = _ ↔ _
    rw [status_eq_failed_iff, h.errors, failures_ne_nil_iff]
  cancelled := by
    change collector.status = _ ↔ _
    rw [status_eq_cancelled_iff, h.errors, h.skipped, countP_isSkip_pos_iff,
      ← failures_ne_nil_iff, not_ne_iff]
  completed := by
    change collector.status = _ ↔ _
    rw [status_eq_completed_iff, h.errors, h.skipped, all_succeed_iff]

/-- Calls with different names may be told in any order: the report is the same but for its stamp.
-/
theorem Reports.of_perm {calls other : List Call} {report report' : Report}
    (h : Reports calls report) (h' : Reports other report') (hperm : calls.Perm other)
    (hfailures : ((failures calls).map (·.table)).Nodup)
    (hsuccesses : ((successes calls).map (·.entity)).Nodup) :
    report' = { report with stamp := report'.stamp } := by
  have hfailing := hperm.filterMap Call.failure?
  have hsucceeding := hperm.filterMap Call.success?
  have hstatus : report'.status = report.status := by
    have hfailed := h'.failed
    have hcancelled := h'.cancelled
    have hcompleted := h'.completed
    simp only [← hperm.mem_iff] at hfailed hcancelled hcompleted
    cases hs : report.status with
    | failed => exact hfailed.mpr (h.failed.mp hs)
    | cancelled => exact hcancelled.mpr (h.cancelled.mp hs)
    | completed => exact hcompleted.mpr (h.completed.mp hs)
  have hprocessed : report'.tablesProcessed = report.tablesProcessed := by
    rw [h'.processed, h.processed, hperm.countP_eq]
  have hskipped : report'.tablesSkipped = report.tablesSkipped := by
    rw [h'.skipped, h.skipped, hperm.countP_eq]
  have hfiles : report'.filesGenerated = report.filesGenerated := by
    apply UInt64.toNat_inj.mp
    rw [h'.files, h.files, successes, successes, (hsucceeding.map (·.files.toNat)).sum_eq]
  have herrors : report'.errors = report.errors :=
    h'.errors.unique (h.errors.of_perm hfailing hfailures)
  have hartifacts : report'.artifacts = report.artifacts := by
    have hkeys : (((successes calls).map JobResult.summary).map (·.table)).Nodup := by
      rw [List.map_map]
      exact hsuccesses
    exact h'.artifacts.unique (h.artifacts.of_perm (hsucceeding.map JobResult.summary) hkeys)
  calc report' = ⟨report'.stamp, report'.status, report'.tablesProcessed, report'.filesGenerated,
        report'.tablesSkipped, report'.errors, report'.artifacts⟩ := rfl
    _ = { report with stamp := report'.stamp } := by
        rw [hstatus, hprocessed, hfiles, hskipped, herrors, hartifacts]

/-- The report counts the calls, adds up the files in 64 bits and lists failures and artifacts by
name, those of one name as they came; a failure makes the status, then a job that was not started.
If no two failures are of one table and no two successes of one entity, the calls may come in any
order. -/
theorem report_of_calls (calls : List Call) (stamp : RunStamp) :
    Reports calls ((Collector.ofCalls calls).report stamp) ∧
    ∀ other stamp', calls.Perm other → ((failures calls).map (·.table)).Nodup →
      ((successes calls).map (·.entity)).Nodup →
      (Collector.ofCalls other).report stamp' =
        { (Collector.ofCalls calls).report stamp with stamp := stamp' } := by
  have htold := Collector.told_ofCalls calls
  refine ⟨htold.reports stamp, ?_⟩
  intro other stamp' hperm hfailures hsuccesses
  have hother := (Collector.told_ofCalls other).reports stamp'
  exact (htold.reports stamp).of_perm hother hperm hfailures hsuccesses

/-- Two failures, two successes that together overflow the number of files, and a job that was not
started. A job may be recorded under another name than its entity's. -/
theorem report_of_calls_reversed :
    let made : String → UInt64 → JobResult := fun name files => ⟨name, .table, "C", ⟨"C.java"⟩, files⟩
    let calls : List Call :=
      [.record "z" (.error .cancelled), .record "t" (.ok (made "\uffff" 1)), .skip "a",
        .record "t" (.ok (made "\u00e9" 18446744073709551615)), .record "Z" (.error (.config ""))]
    let stamp : RunStamp := ⟨"r", ⟨0⟩, ⟨0⟩⟩
    let report := (Collector.ofCalls calls).report stamp
    calls.Perm calls.reverse ∧ ((failures calls).map (·.table)).Nodup ∧
      ((successes calls).map (·.entity)).Nodup ∧
      (Collector.ofCalls calls.reverse).report stamp = report ∧
      report.errors.map (·.table) = ["Z", "z"] ∧
      report.artifacts.map (·.table) = ["\u00e9", "\uffff"] ∧ report.filesGenerated = 0 ∧
      report.status = .failed := by
  intro made calls stamp report
  have hperm : calls.Perm calls.reverse := calls.reverse_perm.symm
  have hfailures : ((failures calls).map (·.table)).Nodup := by decide
  have hsuccesses : ((successes calls).map (·.entity)).Nodup := by decide
  exact ⟨hperm, hfailures, hsuccesses,
    (report_of_calls calls stamp).2 calls.reverse stamp hperm hfailures hsuccesses,
    by cbv, by cbv, by decide +kernel, by decide +kernel⟩

end EntityGen
