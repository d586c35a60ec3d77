import EntityGen.Proofs.Emission.Execution
import EntityGen.Proofs.Entity.ClassFile
import EntityGen.Proofs.Plan.Jobs
import EntityGen.Sink
import Mathlib.Data.List.Perm.Subperm

/-!
# The artifacts of a plan

A job has at most one artifact, and its path is the one that its outcome reports. No two artifacts of
a plan differ only in the case of ASCII letters in their paths.
-/
namespace EntityGen

def Outcome.path? : Outcome → Option Path
  | done result => some result.path
  | _ => none

def Outcome.isDone (outcome : Outcome) : Bool := outcome.path?.isSome

def writtenPaths (outcomes : List Outcome) : List Path := outcomes.filterMap Outcome.path?

/-- Whichever of the artifacts come, and in whatever order, the sink takes each of them. -/
def TakesAll {σ : Type} (sink : Sink (StateM σ)) (artifacts : List Artifact) (state : σ) : Prop :=
  ∀ given ⊆ artifacts, ∀ answer ∈ ((given.mapM sink).run state).1, answer = .ok ()

theorem TakesAll.take {σ : Type} {sink : Sink (StateM σ)} {artifacts : List Artifact} {state : σ}
    (h : TakesAll sink artifacts state) {artifact : Artifact} (hm : artifact ∈ artifacts) :
    ((sink artifact).run state).1 = .ok () ∧
      TakesAll sink artifacts ((sink artifact).run state).2 := by
  have hcons : ∀ given, ((List.mapM sink (artifact :: given)).run state).1 =
      ((sink artifact).run state).1 ::
        ((given.mapM sink).run ((sink artifact).run state).2).1 := by
    intro given
    rw [List.mapM_cons]
    rfl
  constructor
  · exact h [artifact] (by simpa using hm) _ (by rw [hcons]; exact List.mem_cons_self)
  · intro given hgiven answer ha
    refine h (artifact :: given) (List.cons_subset.mpr ⟨hm, hgiven⟩) answer ?_
    rw [hcons]
    exact List.mem_cons_of_mem _ ha

/-- A sink that takes every artifact now and stays that way takes them all. -/
theorem takesAll_of_fine {σ : Type} {sink : Sink (StateM σ)} {artifacts : List Artifact}
    (fine : σ → Prop) (hsink : ∀ artifact ∈ artifacts, ∀ state, fine state →
      ((sink artifact).run state).1 = .ok () ∧ fine ((sink artifact).run state).2)
    {state : σ} (hstate : fine state) : TakesAll sink artifacts state := by
  intro given hgiven
  induction given generalizing state with
  | nil => exact fun _ hm => nomatch hm
  | cons artifact rest ih =>
    obtain ⟨hartifact, hrest⟩ := List.cons_subset.mp hgiven
    obtain ⟨hanswer, hafter⟩ := hsink artifact hartifact state hstate
    intro answer hm
    rw [List.mapM_cons] at hm
    rcases List.mem_cons.mp hm with rfl | hlater
    · exact hanswer
    · exact ih hafter hrest answer hlater

theorem takesAll_memorySink (artifacts stored : List Artifact) :
    TakesAll memorySink artifacts stored :=
  takesAll_of_fine (fun _ => True) (fun _ _ _ _ => ⟨rfl, trivial⟩) trivial

namespace Job

/-- The artifact that the job hands to its sink, if it comes to that. -/
def artifact? (job : Job) (options : Options) : Option Artifact :=
  job.prepare.toOption.map (·.artifact options)

/-- What comes of the job when its artifact is taken. -/
def outcome (job : Job) (options : Options) : Outcome :=
  match job.prepare with
  | .error fault => .failed fault
  | .ok entity => job.conclude entity (.written (entity.artifact options))

variable {job : Job} {options : Options}

theorem artifact?_of_ok {entity : Entity} (h : job.prepare = .ok entity) :
    job.artifact? options = some (entity.artifact options) := by
  rw [artifact?, h]
  rfl

theorem artifact?_of_error {fault : Fault} (h : job.prepare = .error fault) :
    job.artifact? options = none := by
  rw [artifact?, h]
  rfl

/-- An artifact is the one of an entity in the class and the package of the job, which has taken its
file. -/
theorem artifact?_eq_some {artifact : Artifact} (h : job.artifact? options = some artifact) :
    ∃ entity, job.prepare = .ok entity ∧ artifact = entity.artifact options ∧
      job.isOwner = true ∧ entity.packageName = job.packageName ∧
      entity.className = job.className := by
  cases hp : job.prepare with
  | error fault =>
    rw [artifact?_of_error hp] at h
    cases h
  | ok entity =>
    rw [artifact?_of_ok hp] at h
    obtain ⟨howner, hdescribe⟩ := prepare_eq_ok hp
    obtain ⟨fields, -, -, rfl⟩ := describe_eq_ok hdescribe
    refine ⟨_, rfl, (Option.some.inj h).symm, ?_, rfl, rfl⟩
    rw [isOwner, howner]
    rfl

theorem slash_not_mem_className (job : Job) : '/' ∉ job.className.toList :=
  Identifier.slash_not_mem_javaClass _

/-- Artifacts whose paths differ only in the case of ASCII letters come from jobs of one key. -/
theorem key_eq_of_folded {other : Job} {a b : Artifact} (ha : job.artifact? options = some a)
    (hb : other.artifact? options = some b) (hpackage : job.packageName = other.packageName)
    (h : a.path.folded = b.path.folded) : job.key = other.key := by
  obtain ⟨first, -, rfl, -, hfirstPackage, hfirstClass⟩ := artifact?_eq_some ha
  obtain ⟨second, -, rfl, -, hsecondPackage, hsecondClass⟩ := artifact?_eq_some hb
  have hkey := Entity.fileKey_eq_of_folded
    (hfirstPackage.trans (hpackage.trans hsecondPackage.symm))
    (hfirstClass ▸ job.slash_not_mem_className) (hsecondClass ▸ other.slash_not_mem_className) h
  rwa [hfirstPackage, hfirstClass, hsecondPackage, hsecondClass] at hkey

/-- A job whose entity is ready hands the artifact to the sink, and the answer decides. -/
theorem execute_sourceEmitters {σ : Type} {entity : Entity} (h : job.prepare = .ok entity)
    (sink : Sink (StateM σ)) (options : Options) (state : σ) :
    (job.execute (sourceEmitters sink) options).run state =
      let ran := (sink (entity.artifact options)).run state
      ((match ran.1 with
        | .ok () => job.conclude entity (.written (entity.artifact options))
        | .error fault => job.conclude entity (.refused fault), false), ran.2) := by
  rw [execute_run, h]
  dsimp only
  rw [sourceEmitters_run]
  dsimp only
  cases ((sink (entity.artifact options)).run state).1 <;> rfl

theorem artifact?_of_done {σ : Type} {sink : Sink (StateM σ)} {state : σ} {path : Path}
    (h : ((job.execute (sourceEmitters sink) options).run state).1.1.path? = some path) :
    ∃ artifact, job.artifact? options = some artifact ∧ artifact.path = path := by
  cases hp : job.prepare with
  | error fault =>
    rw [execute_run, hp] at h
    cases h
  | ok entity =>
    refine ⟨_, artifact?_of_ok hp, ?_⟩
    rw [execute_sourceEmitters hp] at h
    dsimp only at h
    split at h
    · exact Option.some.inj h
    · cases h

theorem execute_memorySink (job : Job) (options : Options) (stored : List Artifact) :
    (job.execute (sourceEmitters memorySink) options).run stored =
      ((job.outcome options, false), stored ++ (job.artifact? options).toList) := by
  unfold outcome
  cases hp : job.prepare with
  | error fault => rw [execute_run, hp, artifact?_of_error hp, Option.toList_none, List.append_nil]
  | ok entity =>
    rw [execute_sourceEmitters hp, artifact?_of_ok hp]
    rfl

theorem execute_of_takesAll {σ : Type} {sink : Sink (StateM σ)} {artifacts : List Artifact}
    {state : σ} (h : TakesAll sink artifacts state)
    (hm : ∀ artifact, job.artifact? options = some artifact → artifact ∈ artifacts) :
    let ran := (job.execute (sourceEmitters sink) options).run state
    ran.1 = (job.outcome options, false) ∧ TakesAll sink artifacts ran.2 := by
  unfold outcome
  cases hp : job.prepare with
  | error fault =>
    rw [execute_run, hp]
    exact ⟨rfl, h⟩
  | ok entity =>
    obtain ⟨hanswer, hafter⟩ := h.take (hm _ (artifact?_of_ok hp))
    rw [execute_sourceEmitters hp]
    dsimp only
    rw [hanswer]
    exact ⟨rfl, hafter⟩

theorem outcome_path? (job : Job) (options : Options) :
    (job.outcome options).path? = (job.artifact? options).map (·.path) := by
  unfold outcome
  cases hp : job.prepare with
  | error fault =>
    rw [artifact?_of_error hp]
    rfl
  | ok entity =>
    rw [artifact?_of_ok hp]
    rfl

end Job

/-- The artifacts that jobs hand to their sink, in the order of the jobs. -/
def artifactsOf (options : Options) (jobs : List Job) : List Artifact :=
  jobs.filterMap (·.artifact? options)

theorem artifactsOf_cons (options : Options) (job : Job) (rest : List Job) :
    artifactsOf options (job :: rest) =
      (job.artifact? options).toList ++ artifactsOf options rest := by
  rw [artifactsOf, List.filterMap_cons]
  cases job.artifact? options <;> rfl

/-- Whatever the sink does, only artifacts of the jobs are written, each at most once. -/
theorem writtenPaths_sublist {σ : Type} (sink : Sink (StateM σ)) (options : Options)
    (jobs : List Job) (state : σ) :
    (writtenPaths ((executeEach (sourceEmitters sink) options jobs).run state).1).Sublist
      ((artifactsOf options jobs).map (·.path)) := by
  induction jobs generalizing state with
  | nil => exact .refl _
  | cons job rest ih =>
    cases hx : (job.execute (sourceEmitters sink) options).run state with
    | mk answer middle =>
      rw [executeEach_cons hx, artifactsOf_cons, List.map_append, writtenPaths,
        List.filterMap_cons]
      cases hpath : answer.1.path? with
      | none => exact (ih middle).trans (List.sublist_append_right _ _)
      | some path =>
        obtain ⟨artifact, hartifact, rfl⟩ := Job.artifact?_of_done (by rw [hx]; exact hpath)
        rw [hartifact]
        exact (ih middle).cons_cons _

/-- Jobs on a memory sink store their artifacts in the order of the jobs. -/
theorem executeEach_memorySink (options : Options) (jobs : List Job) (stored : List Artifact) :
    (executeEach (sourceEmitters memorySink) options jobs).run stored =
      (jobs.map (·.outcome options), stored ++ artifactsOf options jobs) := by
  induction jobs generalizing stored with
  | nil => rw [executeEach_nil, List.map_nil, artifactsOf, List.filterMap_nil, List.append_nil]
  | cons job rest ih =>
    rw [executeEach_cons (job.execute_memorySink options stored), ih, artifactsOf_cons,
      List.append_assoc, List.map_cons]

theorem writtenPaths_outcomes (options : Options) (jobs : List Job) :
    writtenPaths (jobs.map (·.outcome options)) = (artifactsOf options jobs).map (·.path) := by
  rw [writtenPaths, artifactsOf, List.filterMap_map, List.map_filterMap]
  exact List.filterMap_congr fun job _ => job.outcome_path? options

/-- The jobs of a plan that come to an artifact have paths that differ by more than case. -/
theorem Schema.plan_folded (schema : Schema) (settings : Settings) (options : Options) :
    ((artifactsOf options (schema.plan settings)).map (·.path.folded)).Nodup := by
  have hkeys := schema.plan_keys settings
  rw [List.Nodup, List.pairwise_map, List.pairwise_filter] at hkeys
  rw [List.Nodup, List.pairwise_map, artifactsOf, List.pairwise_filterMap]
  refine hkeys.imp_of_mem ?_
  intro job other hjob hother hne a ha b hb hfolded
  obtain ⟨-, -, -, howner, -, -⟩ := Job.artifact?_eq_some ha
  obtain ⟨-, -, -, hotherOwner, -, -⟩ := Job.artifact?_eq_some hb
  have hpackage : job.packageName = other.packageName :=
    (plan_packageName hjob).trans (plan_packageName hother).symm
  exact hne howner hotherOwner (Job.key_eq_of_folded ha hb hpackage hfolded)

/-- So have the jobs of a plan in any order, each at most once. -/
theorem artifactsOf_folded {schema : Schema} {settings : Settings} {jobs : List Job}
    (h : List.Subperm jobs (schema.plan settings)) (options : Options) :
    ((artifactsOf options jobs).map (·.path.folded)).Nodup := by
  obtain ⟨same, hperm, hsublist⟩ := h
  have hsame : ((artifactsOf options same).map (·.path.folded)).Nodup :=
    (schema.plan_folded settings options).sublist ((hsublist.filterMap _).map _)
  exact ((hperm.filterMap _).map _).nodup_iff.mp hsame

end EntityGen
