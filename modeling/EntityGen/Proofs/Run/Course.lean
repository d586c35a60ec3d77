import EntityGen.Proofs.Emission.Artifacts
import EntityGen.Proofs.Run.Accounting
import EntityGen.Run.Pool

/-!
# The course of a run

On a memory sink the outcome of a job does not depend on when the job executes. The course of a plan
is how far every job comes in the end: it is finished with its outcome, or skipped behind a failure
that stops the run. A run in order ends as its course says.
-/
namespace EntityGen

namespace Slot

def isFailed (slot : Slot) : Bool :=
  match slot.progress with
  | .finished outcome => outcome.isFailed
  | _ => false

def artifact? (options : Options) (slot : Slot) : Option Artifact :=
  match slot.progress with
  | .finished _ => slot.job.artifact? options
  | _ => none

end Slot

namespace Job

def finishedSlot (options : Options) (job : Job) : Slot := ⟨job, .finished (job.outcome options)⟩

theorem outcome_cases (job : Job) (options : Options) :
    (∃ fault, job.outcome options = .failed fault) ∨
      ∃ result, job.outcome options = .done result := by
  unfold outcome
  cases job.prepare with
  | error fault => exact .inl ⟨fault, rfl⟩
  | ok entity => exact .inr ⟨_, rfl⟩

end Job

def storedBy (options : Options) (slots : List Slot) : List Artifact :=
  slots.filterMap (Slot.artifact? options)

theorem storedBy_cons (options : Options) (slot : Slot) (rest : List Slot) :
    storedBy options (slot :: rest) = (slot.artifact? options).toList ++ storedBy options rest := by
  rw [storedBy, List.filterMap_cons]
  cases slot.artifact? options <;> rfl

theorem storedBy_append (options : Options) (front back : List Slot) :
    storedBy options (front ++ back) = storedBy options front ++ storedBy options back :=
  List.filterMap_append

theorem Job.finishedSlot_artifact? (options : Options) (job : Job) :
    (job.finishedSlot options).artifact? options = job.artifact? options := rfl

/-- How far jobs come, given whether the run has been stopped before them. -/
def courseFrom (settings : Settings) : (stopped : Bool) → List Job → List Slot
  | _, [] => []
  | true, job :: rest => ⟨job, .skipped⟩ :: courseFrom settings true rest
  | false, job :: rest =>
    job.finishedSlot settings.options ::
      courseFrom settings
        (settings.failFast && (job.outcome settings.options).isFailed) rest

section
variable (settings : Settings)

/-- Once jobs have come their way, a failure among them stops the ones behind. -/
theorem courseFrom_append (stopped : Bool) (front back : List Job) :
    courseFrom settings stopped (front ++ back) =
      courseFrom settings stopped front ++
        courseFrom settings (stopped || (settings.failFast &&
          front.any fun job => (job.outcome settings.options).isFailed)) back := by
  induction front generalizing stopped with
  | nil => cases stopped <;> cases settings.failFast <;> rfl
  | cons job rest ih =>
    rw [List.cons_append, List.any_cons]
    cases stopped with
    | true => rw [courseFrom, courseFrom, ih, List.cons_append, Bool.true_or, Bool.true_or]
    | false =>
      rw [courseFrom, courseFrom, ih, List.cons_append, Bool.false_or, Bool.and_or_distrib_left]

/-- A failure of a job shows in the course unless the run is stopped before it. -/
theorem courseFrom_any_isFailed {jobs : List Job}
    (h : (jobs.any fun job => (job.outcome settings.options).isFailed) = true) :
    (courseFrom settings false jobs).any (·.isFailed) = true := by
  induction jobs with
  | nil => cases h
  | cons job rest ih =>
    rw [courseFrom, List.any_cons, Bool.or_eq_true]
    cases hj : (job.outcome settings.options).isFailed with
    | true => exact .inl hj
    | false =>
      rw [List.any_cons, hj, Bool.false_or] at h
      rw [Bool.and_false]
      exact .inr (ih h)

/-- A run in order collects its course and stores the artifacts of the jobs that it finishes. -/
theorem runInOrder_memorySink (stopped : Bool) (jobs : List Job) (place : Nat)
    (collector : Collector) (stored : List Artifact) :
    (runInOrder settings (sourceEmitters memorySink) stopped jobs collector).run stored =
      (.ok (((courseFrom settings stopped jobs).zipIdx place).foldl
          (fun collector entry => Pool.collectSlot collector entry.1 entry.2) collector),
        stored ++ storedBy settings.options (courseFrom settings stopped jobs)) := by
  induction jobs generalizing stopped place collector stored with
  | nil =>
    have hnothing : stored ++ storedBy settings.options (courseFrom settings stopped []) = stored := by
      cases stopped <;> exact List.append_nil stored
    rw [hnothing]
    cases stopped <;> rfl
  | cons job rest ih =>
    cases stopped with
    | true =>
      rw [runInOrder, ih true (place + 1), courseFrom, List.zipIdx_cons, List.foldl_cons,
        storedBy_cons]
      rfl
    | false =>
      have hx := job.execute_memorySink settings.options stored
      rw [courseFrom, storedBy_cons, Job.finishedSlot_artifact?, ← List.append_assoc,
        List.zipIdx_cons, List.foldl_cons]
      rcases job.outcome_cases settings.options with ⟨fault, ho⟩ | ⟨result, ho⟩
      · rw [ho] at hx ⊢
        rw [runInOrder_failed hx, ih _ (place + 1), Job.finishedSlot, ho, Outcome.isFailed,
          Bool.and_true]
        rfl
      · rw [ho] at hx ⊢
        have hfailed : (Outcome.done result).isFailed = false := rfl
        rw [runInOrder_done hx, ih _ (place + 1), Job.finishedSlot, ho, hfailed, Bool.and_false]
        rfl

end

end EntityGen
