import EntityGen.Artifact
import EntityGen.Entity.Source
import EntityGen.Plan

/-!
# Emission

An emitter turns an entity into an artifact and hands it to a sink. A job describes its entity, has an
emitter made for it and calls the emitter. Factories, emitters and sinks act in a monad `m`: a state
monad where runs are reasoned about, the outer world where a command runs.
-/
namespace EntityGen

/-- What came of an entity in the hands of an emitter. -/
inductive Emission
  | written (artifact : Artifact)
  | refused (fault : Fault)
  /-- The emitter broke down without an answer of its own. -/
  | crashed (message : String)
  deriving DecidableEq, Repr

/-- The answer of an emitter, and whether the run was asked to stop while it worked. -/
structure Emitted where
  emission : Emission
  stop : Bool
  deriving DecidableEq, Repr

/-- Turns entities into artifacts. -/
abbrev Emitter (m : Type → Type) := Entity → Options → m Emitted

/-- Makes an emitter for the entity of a name. Making one is an action of its own, before the emitter
is called. -/
abbrev EmitterFactory (m : Type → Type) := String → m (Emitter m)

/-- Takes artifacts. -/
abbrev Sink (m : Type → Type) := Artifact → m (Except Fault Unit)

/-- What a job that succeeded has made. -/
structure JobResult where
  entity : String
  kind : EntityKind
  className : String
  path : Path
  files : UInt64
  deriving DecidableEq, Repr

/-- What came of a job. -/
inductive Outcome
  | done (result : JobResult)
  | failed (fault : Fault)
  | crashed (message : String)
  deriving DecidableEq, Repr

namespace Outcome

/-- The job failed with a fault of its own. -/
def isFailed : Outcome → Bool
  | failed _ => true
  | _ => false

end Outcome

/-- The artifact of an entity. -/
def Entity.artifact (entity : Entity) (options : Options) : Artifact :=
  ⟨entity.sourceName, entity.path, entity.source options⟩

/-- The emitter that renders the class source and hands it to a sink. -/
def sourceEmitter {m : Type → Type} [Monad m] (sink : Sink m) : Emitter m :=
  fun entity options => do
    let artifact := entity.artifact options
    match ← sink artifact with
    | .ok () => return ⟨.written artifact, false⟩
    | .error fault => return ⟨.refused fault, false⟩

/-- Makes emitters of class sources that share a sink. -/
def sourceEmitters {m : Type → Type} [Monad m] (sink : Sink m) : EmitterFactory m :=
  fun _ => return sourceEmitter sink

/-- The fault of a job whose emitter refused: a failure of emission is kept, and any other fault
becomes one. -/
def Fault.ofRefusal (job : String) : Fault → Fault
  | .emitterFailure table reason => .emitterFailure table reason
  | fault => .emitterFailure job fault.message

namespace Job

/-- The entity that a job may emit: none when another job has taken its file. -/
def prepare (job : Job) : Except Fault Entity :=
  match job.collidesWith with
  | some owner =>
    .error (.emitterFailure job.name
      ("class " ++ job.className ++ " is already generated for [" ++ owner ++ "]"))
  | none => job.describe

/-- What comes of a job whose emitter has answered. -/
def conclude (job : Job) (entity : Entity) : Emission → Outcome
  | .written artifact =>
    .done ⟨entity.sourceName, job.kind, entity.className, artifact.path, 1⟩
  | .refused fault => .failed (Fault.ofRefusal job.name fault)
  | .crashed message => .crashed message

/-- Runs a job: its outcome, and whether the run was asked to stop meanwhile. -/
def execute {m : Type → Type} [Monad m] (job : Job) (factory : EmitterFactory m)
    (options : Options) : m (Outcome × Bool) :=
  match job.prepare with
  | .error fault => return (.failed fault, false)
  | .ok entity => do
    let emitter ← factory entity.sourceName
    let emitted ← emitter entity options
    return (job.conclude entity emitted.emission, emitted.stop)

end Job

end EntityGen
