import EntityGen.Emission
import EntityGen.Proofs.Plan.Jobs

/-!
# Executing jobs

`executeEach` executes jobs one after the other and lists their outcomes. What an outcome says of
its job does not depend on the emitter: a job that is done names its own entity and one file.
-/
namespace EntityGen

theorem Job.describe_eq_ok {job : Job} {entity : Entity} (h : job.describe = .ok entity) :
    ∃ fields, job.fields = .ok fields ∧ propertyClash? [] fields = none ∧
      entity = ⟨job.name, job.kind, job.database, job.className, job.packageName, fields,
        job.source.sequenceNames⟩ := by
  unfold describe at h
  cases hf : job.fields with
  | error fault =>
    rw [hf] at h
    cases h
  | ok fields =>
    rw [hf] at h
    cases hc : propertyClash? [] fields with
    | some clash =>
      simp only [bind, Except.bind, hc] at h
      cases h
    | none =>
      simp only [bind, Except.bind, hc] at h
      cases h
      exact ⟨fields, rfl, hc, rfl⟩

theorem Job.prepare_eq_ok {job : Job} {entity : Entity} (h : job.prepare = .ok entity) :
    job.collidesWith = none ∧ job.describe = .ok entity := by
  unfold prepare at h
  cases hc : job.collidesWith with
  | some owner =>
    rw [hc] at h
    cases h
  | none =>
    rw [hc] at h
    exact ⟨rfl, h⟩

namespace Job.Alike

variable {job other : Job}

theorem prepare (h : job.Alike other) : job.prepare = other.prepare := by
  rw [Job.prepare, Job.prepare, h.collidesWith, h.name, h.className, h.describe]

theorem conclude (h : job.Alike other) : job.conclude = other.conclude := by
  funext entity emission
  cases emission with
  | written artifact => rw [Job.conclude, Job.conclude, h.kind]
  | refused fault => rw [Job.conclude, Job.conclude, h.name]
  | crashed message => rfl

/-- Jobs that read the same do the same, with all emitters. -/
theorem execute {m : Type → Type} [Monad m] (h : job.Alike other) (factory : EmitterFactory m)
    (options : Options) : job.execute factory options = other.execute factory options := by
  rw [Job.execute, Job.execute, h.prepare, h.conclude]

end Job.Alike

section
variable {m : Type → Type} [Monad m]

/-- Makes an emitter for a name and has it emit one entity. -/
def EmitterFactory.emit (factory : EmitterFactory m) (name : String) (entity : Entity)
    (options : Options) : m Emitted := do
  let emitter ← factory name
  emitter entity options

/-- Executes jobs one after the other. -/
def executeEach (factory : EmitterFactory m) (options : Options) (jobs : List Job) :
    m (List Outcome) :=
  jobs.mapM fun job => do
    let (outcome, _) ← job.execute factory options
    return outcome

end

variable {σ : Type}

theorem executeEach_nil (factory : EmitterFactory (StateM σ)) (options : Options) (state : σ) :
    (executeEach factory options []).run state = ([], state) := rfl

theorem executeEach_cons {factory : EmitterFactory (StateM σ)} {options : Options} {job : Job}
    {state middle : σ} {outcome : Outcome} {stop : Bool}
    (h : (job.execute factory options).run state = ((outcome, stop), middle)) (rest : List Job) :
    (executeEach factory options (job :: rest)).run state =
      (outcome :: ((executeEach factory options rest).run middle).1,
        ((executeEach factory options rest).run middle).2) := by
  rw [executeEach, List.mapM_cons, StateT.run_bind, StateT.run_bind, h]
  rfl

theorem Job.execute_run (job : Job) (factory : EmitterFactory (StateM σ)) (options : Options)
    (state : σ) :
    (job.execute factory options).run state = match job.prepare with
      | .error fault => ((.failed fault, false), state)
      | .ok entity =>
        let (emitted, after) := (factory.emit entity.sourceName entity options).run state
        ((job.conclude entity emitted.emission, emitted.stop), after) := by
  unfold execute
  cases job.prepare with
  | error fault => rfl
  | ok entity => rfl

/-- An emitter of class sources hands the artifact to its sink and answers for it; making one does
nothing. -/
theorem sourceEmitters_run (sink : Sink (StateM σ)) (name : String) (entity : Entity)
    (options : Options) (state : σ) :
    ((sourceEmitters sink).emit name entity options).run state =
      let ran := (sink (entity.artifact options)).run state
      (⟨match ran.1 with
        | .ok () => .written (entity.artifact options)
        | .error fault => .refused fault, false⟩, ran.2) := by
  change (sourceEmitter sink entity options).run state = _
  rw [sourceEmitter, StateT.run_bind]
  cases (sink (entity.artifact options)).run state with
  | mk answer after => cases answer <;> rfl

/-- Emitters that, made and called, always come to an answer of their own. -/
def NeverCrashes (factory : EmitterFactory (StateM σ)) : Prop :=
  ∀ name entity options state message,
    ((factory.emit name entity options).run state).1.emission ≠ .crashed message

theorem sourceEmitters_neverCrashes (sink : Sink (StateM σ)) :
    NeverCrashes (sourceEmitters sink) := by
  intro name entity options state message
  rw [sourceEmitters_run]
  dsimp only
  split
  · exact fun h => nomatch h
  · exact fun h => nomatch h

/-- What an outcome says when the emitter did not crash: the job failed, or it made one file for its
own entity. -/
inductive Outcome.Regular (job : Job) : Outcome → Prop
  | done {result : JobResult} (entity : result.entity = job.name) (files : result.files = 1) :
    Regular job (.done result)
  | failed {fault : Fault} : Regular job (.failed fault)

/-- A job comes to an outcome of its own unless its emitter crashes. -/
theorem Job.execute_regular_or_crashed (job : Job) (factory : EmitterFactory (StateM σ))
    (options : Options) (state : σ) :
    ((job.execute factory options).run state).1.1.Regular job ∨
      ∃ name entity message,
        ((factory.emit name entity options).run state).1.emission = .crashed message ∧
          ((job.execute factory options).run state).1.1 = .crashed message := by
  rw [execute_run]
  cases hp : job.prepare with
  | error fault => exact .inl .failed
  | ok entity =>
    obtain ⟨fields, -, -, hentity⟩ := describe_eq_ok (prepare_eq_ok hp).2
    have hname : entity.sourceName = job.name := by rw [hentity]
    dsimp only
    cases hran : (factory.emit entity.sourceName entity options).run state with
    | mk emitted after =>
      obtain ⟨emission, stop⟩ := emitted
      cases emission with
      | written artifact => exact .inl (.done hname rfl)
      | refused fault => exact .inl .failed
      | crashed message => exact .inr ⟨_, entity, message, by rw [hran], rfl⟩

theorem Job.execute_regular {factory : EmitterFactory (StateM σ)} (hcalm : NeverCrashes factory)
    (job : Job) (options : Options) (state : σ) :
    ((job.execute factory options).run state).1.1.Regular job := by
  rcases job.execute_regular_or_crashed factory options state with
    hregular | ⟨name, entity, message, hcrashed, -⟩
  · exact hregular
  · exact absurd hcrashed (hcalm name entity options state message)

/-- What holds of the outcome of every job, whatever the state, holds of the outcomes of jobs one after
the other. -/
theorem executeEach_forall₂ {factory : EmitterFactory (StateM σ)} {options : Options}
    {P : Job → Outcome → Prop}
    (h : ∀ (job : Job) (state : σ), P job ((job.execute factory options).run state).1.1)
    (jobs : List Job) (state : σ) :
    jobs.Forall₂ P ((executeEach factory options jobs).run state).1 := by
  induction jobs generalizing state with
  | nil => exact .nil
  | cons job rest ih =>
    have hfirst := h job state
    cases hx : (job.execute factory options).run state with
    | mk answer middle =>
      rw [hx] at hfirst
      rw [executeEach_cons hx]
      exact .cons hfirst (ih middle)

theorem executeEach_regular {factory : EmitterFactory (StateM σ)} (hcalm : NeverCrashes factory)
    (options : Options) (jobs : List Job) (state : σ) :
    jobs.Forall₂ (fun job outcome => outcome.Regular job)
      ((executeEach factory options jobs).run state).1 :=
  executeEach_forall₂ (fun job state => job.execute_regular hcalm options state) jobs state

end EntityGen
