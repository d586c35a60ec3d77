import EntityGen.Plan
import Mathlib.Data.List.FinRange
import Mathlib.Data.List.Forall2

/-!
# What a plan holds

One job for every source in order, all in one package. The jobs share the schema, and each reads the
source at its own place. A job that is not marked has taken the key of its class file, and no other job
holds the same key.
-/
namespace EntityGen

namespace Schema

@[simp] theorem Place.source_kind {schema : Schema} (place : schema.Place) :
    place.source.kind = place.kind := by
  cases place <;> rfl

/-- The sources stand at the places of a schema, in order. -/
theorem places_source (schema : Schema) : schema.places.map Place.source = schema.sources := by
  have htables : schema.tables.map Source.table =
      (List.finRange schema.tables.length).map (Place.source ∘ .table) :=
    (congrArg _ (List.map_getElem_finRange schema.tables).symm).trans List.map_map
  have hviews : schema.views.map Source.view =
      (List.finRange schema.views.length).map (Place.source ∘ .view) :=
    (congrArg _ (List.map_getElem_finRange schema.views).symm).trans List.map_map
  rw [places, sources, List.map_append, List.map_map, List.map_map, htables, hviews]

end Schema

section
variable {schema : Schema} {packageName : String} {claimed : List (String × String)}
  {place : schema.Place} {rest : List schema.Place}

theorem planFrom_of_taken {owner : String}
    (h : claimed.lookup (fileKey packageName (Identifier.javaClass place.source.name)) =
      some owner) :
    planFrom schema packageName claimed (place :: rest) =
      ⟨schema, place, packageName, some owner⟩ :: planFrom schema packageName claimed rest := by
  simp only [planFrom, h, Option.isSome_some, if_true]

theorem planFrom_of_free
    (h : claimed.lookup (fileKey packageName (Identifier.javaClass place.source.name)) = none) :
    planFrom schema packageName claimed (place :: rest) =
      ⟨schema, place, packageName, none⟩ ::
        planFrom schema packageName
          ((fileKey packageName (Identifier.javaClass place.source.name), place.source.name) ::
            claimed) rest := by
  simp only [planFrom, h, Option.isSome_none, Bool.false_eq_true, if_false]

end

theorem planFrom_source (schema : Schema) (packageName : String) (claimed : List (String × String))
    (places : List schema.Place) :
    (planFrom schema packageName claimed places).map (·.source) = places.map (·.source) := by
  induction places generalizing claimed with
  | nil => rfl
  | cons place rest ih =>
    rw [planFrom, List.map_cons, ih, List.map_cons]
    rfl

section
variable {schema : Schema} {packageName : String} {claimed : List (String × String)}
  {places : List schema.Place} {job : Job}

/-- The jobs of a plan share the schema, and each stands for the place where it stands itself. -/
theorem planFrom_reads {index : Nat}
    (h : (planFrom schema packageName claimed places)[index]? = some job) :
    ∃ place, places[index]? = some place ∧
      job = ⟨schema, place, packageName, job.collidesWith⟩ := by
  induction places generalizing claimed index with
  | nil => cases h
  | cons place rest ih =>
    rw [planFrom] at h
    cases index with
    | zero =>
      obtain rfl := Option.some.inj h
      exact ⟨place, rfl, rfl⟩
    | succ index =>
      rw [List.getElem?_cons_succ] at h
      exact ih h

theorem planFrom_mem (h : job ∈ planFrom schema packageName claimed places) :
    job.schema = schema ∧ job.packageName = packageName := by
  obtain ⟨index, hindex⟩ := List.mem_iff_getElem?.mp h
  obtain ⟨place, -, hjob⟩ := planFrom_reads hindex
  rw [hjob]
  exact ⟨rfl, rfl⟩

end

namespace Job

def key (job : Job) : String := fileKey job.packageName job.className

def isOwner (job : Job) : Bool := job.collidesWith.isNone

/-- The job of a source that is alone in its schema. -/
def alone (database : String) (source : Source) (packageName : String) : Job :=
  match source with
  | .table t => ⟨⟨database, none, [t], []⟩, .table ⟨0, Nat.one_pos⟩, packageName, none⟩
  | .view v => ⟨⟨database, none, [], [v]⟩, .view ⟨0, Nat.one_pos⟩, packageName, none⟩

theorem kind_eq (job : Job) : job.kind = job.source.kind := job.place.source_kind.symm

/-- The jobs read the same: the name of their database, the table or view at their place, their package
and their mark. -/
structure Alike (job other : Job) : Prop where
  database : job.database = other.database
  source : job.source = other.source
  packageName : job.packageName = other.packageName
  collidesWith : job.collidesWith = other.collidesWith

namespace Alike

variable {job other : Job}

theorem name (h : job.Alike other) : job.name = other.name := congrArg Source.name h.source

theorem kind (h : job.Alike other) : job.kind = other.kind := by
  rw [job.kind_eq, other.kind_eq, h.source]

theorem className (h : job.Alike other) : job.className = other.className :=
  congrArg Identifier.javaClass h.name

/-- Nothing else of the schema enters into what a job describes. -/
theorem describe (h : job.Alike other) : job.describe = other.describe := by
  rw [Job.describe, Job.describe, Job.fields, Job.fields, h.source, h.name, h.kind, h.database,
    h.className, h.packageName]

end Alike

end Job

/-- The jobs that have taken their files hold different keys, none of which was taken before. -/
theorem planFrom_keys (schema : Schema) (packageName : String) (claimed : List (String × String))
    (places : List schema.Place) :
    (((planFrom schema packageName claimed places).filter (·.isOwner)).map (·.key)).Nodup ∧
      ∀ job ∈ planFrom schema packageName claimed places, job.isOwner = true →
        claimed.lookup job.key = none := by
  induction places generalizing claimed with
  | nil => exact ⟨List.nodup_nil, fun _ h => nomatch h⟩
  | cons place rest ih =>
    let key := fileKey packageName (Identifier.javaClass place.source.name)
    cases howner : claimed.lookup key with
    | some owner =>
      rw [planFrom_of_taken howner]
      obtain ⟨hkeys, hfree⟩ := ih claimed
      refine ⟨hkeys, ?_⟩
      intro job hjob ho
      rcases List.mem_cons.mp hjob with rfl | hr
      · cases ho
      · exact hfree job hr ho
    | none =>
      rw [planFrom_of_free howner]
      obtain ⟨hkeys, hfree⟩ := ih ((key, place.source.name) :: claimed)
      -- the first job holds its key now, so a later owner's key differs from it
      have hother : ∀ job ∈ planFrom schema packageName ((key, place.source.name) :: claimed) rest,
          job.isOwner = true → job.key ≠ key ∧ claimed.lookup job.key = none := by
        intro job hr ho
        have hl := hfree job hr ho
        rw [List.lookup_cons] at hl
        split at hl
        · cases hl
        · next hne => exact ⟨by simpa using hne, hl⟩
      refine ⟨?_, ?_⟩
      · refine List.nodup_cons.mpr ⟨?_, hkeys⟩
        intro hm
        obtain ⟨job, hj, he⟩ := List.mem_map.mp hm
        obtain ⟨hr, ho⟩ := List.mem_filter.mp hj
        exact (hother job hr ho).1 he
      · intro job hjob ho
        rcases List.mem_cons.mp hjob with rfl | hr
        · exact howner
        · exact (hother job hr ho).2

namespace Schema

theorem plan_source (schema : Schema) (settings : Settings) :
    (schema.plan settings).map (·.source) = schema.sources :=
  (planFrom_source _ _ _ _).trans schema.places_source

/-- A job of a plan shares the schema and reads the source that stands in it where the job stands in the
plan. -/
theorem plan_reads {schema : Schema} {settings : Settings} {index : Nat} {job : Job}
    (h : (schema.plan settings)[index]? = some job) :
    ∃ place, schema.places[index]? = some place ∧ schema.sources[index]? = some job.source ∧
      job = ⟨schema, place, settings.packageFor schema.name, job.collidesWith⟩ := by
  obtain ⟨place, hplace, hjob⟩ := planFrom_reads h
  refine ⟨place, hplace, ?_, hjob⟩
  rw [← schema.plan_source settings, List.getElem?_map, h, Option.map_some]

theorem plan_length (schema : Schema) (settings : Settings) :
    (schema.plan settings).length = schema.entityCount := by
  rw [← List.length_map (·.source), plan_source, sources, List.length_append, List.length_map,
    List.length_map, entityCount]

/-- The jobs of a plan carry the names of the tables, then of the views. -/
theorem plan_names (schema : Schema) (settings : Settings) :
    (schema.plan settings).map Job.name =
      schema.tables.map (·.name) ++ schema.views.map (·.name) := by
  have h := congrArg (List.map Source.name) (schema.plan_source settings)
  rw [List.map_map, sources, List.map_append, List.map_map, List.map_map] at h
  exact h

theorem plan_packageName {schema : Schema} {settings : Settings} {job : Job}
    (h : job ∈ schema.plan settings) : job.packageName = settings.packageFor schema.name :=
  (planFrom_mem h).2

theorem plan_keys (schema : Schema) (settings : Settings) :
    (((schema.plan settings).filter (·.isOwner)).map (·.key)).Nodup :=
  (planFrom_keys _ _ _ _).1

end Schema
end EntityGen
