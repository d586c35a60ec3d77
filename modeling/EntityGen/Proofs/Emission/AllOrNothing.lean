import EntityGen.Proofs.Emission.Artifacts
import EntityGen.Proofs.Plan.Collision
import EntityGen.Proofs.Plan.Description

/-!
# Executing a job is all or nothing

A job has one emitter made and calls it once, if its class is free and its columns describe an entity;
otherwise it has none made. Whatever goes wrong becomes a fault of generation, and on a memory sink a
job either stores the artifact of its entity or leaves the sink as it was.

Making an emitter and calling it are counted apart, by `logged`: its emitters answer as before, and both
kinds of event are put down beside their state.
-/
namespace EntityGen

/-- What happens to emitters. -/
inductive EmitterEvent
  /-- An emitter was made for a name. -/
  | created (name : String)
  /-- The emitter that was made for a name was called. -/
  | called (name : String) (entity : Entity) (options : Options)
  deriving DecidableEq, Repr

/-- An emitter that answers as before and puts down every call. -/
def Emitter.logged {σ : Type} (name : String) (emitter : Emitter (StateM σ)) :
    Emitter (StateM (σ × List EmitterEvent)) :=
  fun entity options (state, events) =>
    let (emitted, after) := (emitter entity options).run state
    (emitted, after, events ++ [.called name entity options])

/-- A factory that works as before and puts down every emitter it makes and every call of one. -/
def EmitterFactory.logged {σ : Type} (factory : EmitterFactory (StateM σ)) :
    EmitterFactory (StateM (σ × List EmitterEvent)) :=
  fun name (state, events) =>
    let (emitter, after) := (factory name).run state
    (emitter.logged name, after, events ++ [.created name])

/-- The faults that stop a job. -/
inductive Fault.OfGeneration : Fault → Prop
  | noMapping (kind : Kind) : OfGeneration (.noMapping kind)
  | unsupportedKind (kind : Kind) : OfGeneration (.unsupportedKind kind)
  | emitterFailure (table reason : String) : OfGeneration (.emitterFailure table reason)

/-- What becomes of a fault that an emitter refuses with: a failure of emission is passed on as it is,
and any other fault becomes one with the name of the job and the text of the fault. -/
inductive Fault.PassedOn (job : String) : Fault → Fault → Prop
  | unchanged (table reason : String) :
      PassedOn job (.emitterFailure table reason) (.emitterFailure table reason)
  | wrapped {fault : Fault} (other : ∀ table reason, fault ≠ .emitterFailure table reason) :
      PassedOn job fault (.emitterFailure job fault.message)

theorem Fault.OfGeneration.exitCode {fault : Fault} (h : fault.OfGeneration) :
    fault.exitCode = 3 := by
  cases h <;> rfl

theorem Fault.PassedOn.ofGeneration {job : String} {fault passed : Fault}
    (h : PassedOn job fault passed) : passed.OfGeneration := by
  cases h with
  | unchanged table reason => exact .emitterFailure table reason
  | wrapped _ => exact .emitterFailure job fault.message

theorem Fault.passedOn_ofRefusal (job : String) (fault : Fault) :
    PassedOn job fault (ofRefusal job fault) := by
  unfold ofRefusal
  split
  · exact .unchanged _ _
  · next hother => exact .wrapped hother

theorem Kind.refusal_ofGeneration (kind : Kind) : kind.refusal.OfGeneration := by
  unfold refusal
  split
  · exact .noMapping kind
  · exact .unsupportedKind kind

namespace Job

/-- What executing a job comes to: the outcome and the request to stop, the state of the emitters, and
what happened to them. -/
def attempt {σ : Type} (job : Job) (options : Options) (factory : EmitterFactory (StateM σ))
    (state : σ) : (Outcome × Bool) × σ × List EmitterEvent :=
  (job.execute factory.logged options).run (state, [])

/-- An execution of a job is all or nothing. -/
structure AllOrNothing {σ : Type} (job : Job) (options : Options)
    (factory : EmitterFactory (StateM σ)) (state : σ) : Prop where
  /-- Putting down the events changes nothing else. -/
  unlogged : (job.execute factory options).run state =
    ((job.attempt options factory state).1, (job.attempt options factory state).2.1)
  /-- A class that is taken decides before the columns do. -/
  taken : ∀ owner, job.collidesWith = some owner →
    job.attempt options factory state = ((.failed (job.classTaken owner), false), state, [])
  undescribed : ∀ fault, job.collidesWith = none → job.describe = .error fault →
    job.attempt options factory state = ((.failed fault, false), state, [])
  /-- One emitter is made, and then it is called once. -/
  used : ∀ entity, job.collidesWith = none → job.describe = .ok entity →
    (job.attempt options factory state).2 =
      (((factory.emit job.name entity options).run state).2,
        [.created job.name, .called job.name entity options])
  refused : ∀ entity fault, job.collidesWith = none → job.describe = .ok entity →
    ((factory.emit job.name entity options).run state).1.emission = .refused fault →
    ∃ passed, fault.PassedOn job.name passed ∧
      (job.attempt options factory state).1.1 = .failed passed
  written : ∀ entity artifact, job.collidesWith = none → job.describe = .ok entity →
    ((factory.emit job.name entity options).run state).1.emission = .written artifact →
    (job.attempt options factory state).1.1 =
      .done ⟨job.name, job.kind, job.className, artifact.path, 1⟩
  /-- Either the job is done or it fails with a fault of generation. -/
  settled : (∃ result, (job.attempt options factory state).1.1 = .done result) ∨
    ∃ fault, (job.attempt options factory state).1.1 = .failed fault ∧ fault.OfGeneration ∧
      fault.exitCode = 3

/-- On a memory sink a job that is done has stored the artifact of its entity behind what was there, and
a job that is not done has stored nothing. -/
def StoresAllOrNothing (job : Job) (options : Options) (stored : List Artifact) : Prop :=
  let ran := (job.execute (sourceEmitters memorySink) options).run stored
  (∃ entity, job.collidesWith = none ∧ job.describe = .ok entity ∧
    ran = ((.done ⟨job.name, job.kind, job.className, entity.path, 1⟩, false),
      stored ++ [⟨entity.sourceName, entity.path, entity.source options⟩])) ∨
  ∃ fault, (job.collidesWith ≠ none ∨ job.describe = .error fault) ∧
    ran = ((.failed fault, false), stored)

variable {job : Job}

theorem prepare_of_free (h : job.collidesWith = none) : job.prepare = job.describe := by
  rw [prepare, h]

theorem describe_ofGeneration {fault : Fault} (h : job.describe = .error fault) :
    fault.OfGeneration := by
  have hdescribes := job.describes_describe
  rw [h] at hdescribes
  cases hdescribes with
  | unresolved _ _ _ => exact Kind.refusal_ofGeneration _
  | clash _ _ _ _ => exact .emitterFailure _ _

theorem prepare_ofGeneration {fault : Fault} (h : job.prepare = .error fault) :
    fault.OfGeneration := by
  cases hclass : job.collidesWith with
  | none => exact describe_ofGeneration (prepare_of_free hclass ▸ h)
  | some owner =>
    obtain rfl := Except.error.inj ((prepare_of_collidesWith hclass).symm.trans h)
    exact .emitterFailure _ _

section
variable {σ : Type} (factory : EmitterFactory (StateM σ)) (options : Options) (state : σ)

theorem execute_of_error {fault : Fault} (h : job.prepare = .error fault) :
    (job.execute factory options).run state = ((.failed fault, false), state) := by
  rw [execute_run, h]

theorem execute_of_ok {entity : Entity} (h : job.prepare = .ok entity) :
    (job.execute factory options).run state =
      ((job.conclude entity ((factory.emit job.name entity options).run state).1.emission,
        ((factory.emit job.name entity options).run state).1.stop),
        ((factory.emit job.name entity options).run state).2) := by
  -- the emitter is made for the source of the entity, which has the name of the job
  have hname := (describe_isOf (prepare_eq_ok h).2).sourceName
  rw [execute_run, h, ← hname]
  rfl

theorem attempt_of_error {fault : Fault} (h : job.prepare = .error fault) :
    job.attempt options factory state = ((.failed fault, false), state, []) :=
  execute_of_error factory.logged options (state, []) h

theorem attempt_of_ok {entity : Entity} (h : job.prepare = .ok entity) :
    job.attempt options factory state =
      ((job.conclude entity ((factory.emit job.name entity options).run state).1.emission,
        ((factory.emit job.name entity options).run state).1.stop),
        ((factory.emit job.name entity options).run state).2,
        [.created job.name, .called job.name entity options]) :=
  execute_of_ok factory.logged options (state, []) h

/-- Leaving the events out of an attempt gives the execution without a log. -/
theorem execute_eq_attempt :
    (job.execute factory options).run state =
      ((job.attempt options factory state).1, (job.attempt options factory state).2.1) := by
  cases h : job.prepare with
  | error fault =>
    rw [execute_of_error factory options state h, attempt_of_error factory options state h]
  | ok entity => rw [execute_of_ok factory options state h, attempt_of_ok factory options state h]

theorem conclude_written {entity : Entity} (h : job.describe = .ok entity) (artifact : Artifact) :
    job.conclude entity (.written artifact) =
      .done ⟨job.name, job.kind, job.className, artifact.path, 1⟩ := by
  have hentity := describe_isOf h
  rw [conclude, hentity.sourceName, hentity.className]

/-- An attempt with emitters that do not crash is settled. -/
theorem attempt_settled (hcalm : NeverCrashes factory) :
    (∃ result, (job.attempt options factory state).1.1 = .done result) ∨
      ∃ fault, (job.attempt options factory state).1.1 = .failed fault ∧ fault.OfGeneration := by
  cases hprepare : job.prepare with
  | error fault =>
    rw [attempt_of_error factory options state hprepare]
    exact .inr ⟨fault, rfl, prepare_ofGeneration hprepare⟩
  | ok entity =>
    rw [attempt_of_ok factory options state hprepare]
    cases hemission : ((factory.emit job.name entity options).run state).1.emission with
    | written artifact => exact .inl ⟨_, rfl⟩
    | refused fault => exact .inr ⟨_, rfl, (Fault.passedOn_ofRefusal job.name fault).ofGeneration⟩
    | crashed message => exact absurd hemission (hcalm _ _ _ _ message)

theorem allOrNothing (hcalm : NeverCrashes factory) : job.AllOrNothing options factory state where
  unlogged := execute_eq_attempt factory options state
  taken owner hclass := attempt_of_error factory options state (prepare_of_collidesWith hclass)
  undescribed fault hclass hdescribe :=
    attempt_of_error factory options state ((prepare_of_free hclass).trans hdescribe)
  used entity hclass hdescribe := by
    rw [attempt_of_ok factory options state ((prepare_of_free hclass).trans hdescribe)]
  refused entity fault hclass hdescribe hemission := by
    rw [attempt_of_ok factory options state ((prepare_of_free hclass).trans hdescribe), hemission]
    exact ⟨_, Fault.passedOn_ofRefusal job.name fault, rfl⟩
  written entity artifact hclass hdescribe hemission := by
    rw [attempt_of_ok factory options state ((prepare_of_free hclass).trans hdescribe), hemission]
    exact conclude_written hdescribe artifact
  settled := by
    refine (attempt_settled factory options state hcalm).imp_right ?_
    rintro ⟨fault, hfailed, hgeneration⟩
    exact ⟨fault, hfailed, hgeneration, hgeneration.exitCode⟩

end

theorem storesAllOrNothing (job : Job) (options : Options) (stored : List Artifact) :
    job.StoresAllOrNothing options stored := by
  cases hprepare : job.prepare with
  | error fault =>
    refine .inr ⟨fault, ?_, execute_of_error _ options stored hprepare⟩
    cases hclass : job.collidesWith with
    | none => exact .inr (prepare_of_free hclass ▸ hprepare)
    | some owner => exact .inl (Option.some_ne_none owner)
  | ok entity =>
    obtain ⟨hclass, hdescribe⟩ := prepare_eq_ok hprepare
    refine .inl ⟨entity, hclass, hdescribe, ?_⟩
    rw [execute_memorySink, outcome, hprepare, artifact?_of_ok hprepare]
    dsimp only
    rw [conclude_written hdescribe]
    rfl

/-- Whatever the emitters and their state, executing a job is all or nothing. What a sink refuses
becomes a fault of generation like what an emitter refuses, and a memory sink is left with the artifact
of the job's entity or as it was. -/
theorem execute_all_or_nothing {σ : Type} {factory : EmitterFactory (StateM σ)}
    (hcalm : NeverCrashes factory) (job : Job) (options : Options) (state : σ) :
    job.AllOrNothing options factory state ∧
      (∀ (sink : Sink (StateM σ)) entity fault, job.collidesWith = none →
        job.describe = .ok entity → ((sink (entity.artifact options)).run state).1 = .error fault →
        ∃ passed, fault.PassedOn job.name passed ∧
          ((job.execute (sourceEmitters sink) options).run state).1.1 = .failed passed) ∧
      ∀ stored, job.StoresAllOrNothing options stored := by
  refine ⟨allOrNothing factory options state hcalm, ?_, job.storesAllOrNothing options⟩
  intro sink entity fault hclass hdescribe hrefused
  have hprepare := (prepare_of_free hclass).trans hdescribe
  refine ⟨_, Fault.passedOn_ofRefusal job.name fault, ?_⟩
  rw [execute_sourceEmitters hprepare]
  dsimp only
  rw [hrefused]
  rfl

/-- One emitter is made and called once, and a full disk becomes a failure of the table. -/
theorem execute_all_or_nothing_disk_full :
    let job := alone "d" (.table ⟨"t", [⟨"id", .integer, false, true, none, none⟩], []⟩) "p"
    let factory : EmitterFactory (StateM Nat) :=
      fun _ => return fun _ _ called => (⟨.refused (.io "disk full"), false⟩, called + 1)
    NeverCrashes factory ∧ job.collidesWith = none ∧
      (∃ entity, job.describe = .ok entity ∧
        (job.attempt {} factory 0).2 = (1, [.created "t", .called "t" entity {}])) ∧
      (job.attempt {} factory 0).1.1 = .failed (.emitterFailure "t" "IO error: disk full") := by
  intro job factory
  have hcalm : NeverCrashes factory := fun _ _ _ _ _ h => nomatch h
  have hclass : job.collidesWith = none := rfl
  obtain ⟨entity, hdescribe⟩ : ∃ entity, job.describe = .ok entity := ⟨_, rfl⟩
  have hall := (execute_all_or_nothing hcalm job {} 0).1
  obtain ⟨passed, hpassed, hfailed⟩ := hall.refused entity (.io "disk full") hclass hdescribe rfl
  refine ⟨hcalm, hclass, ⟨entity, hdescribe, hall.used entity hclass hdescribe⟩, ?_⟩
  rw [hfailed]
  cases hpassed with
  | wrapped _ => rfl

end Job

end EntityGen
