import EntityGen.Proofs.Plan.Jobs
import Mathlib.Data.List.Find

/-!
# What a plan reads

The job of a source depends on the source itself and on the names that are planned before it.
Nothing else of the schema enters into it: columns and sequences of other entities do not. Of the
names before it, the first that has the key of its class file owns the file.
-/
namespace EntityGen

/-- The claims behind an entity of a name: it takes its class file unless that is taken. -/
def claim (packageName : String) (claimed : List (String × String)) (name : String) :
    List (String × String) :=
  let key := fileKey packageName (Identifier.javaClass name)
  if (claimed.lookup key).isSome then claimed else (key, name) :: claimed

/-- The job of a place behind some claims. -/
def jobOf (schema : Schema) (packageName : String) (claimed : List (String × String))
    (place : schema.Place) : Job :=
  ⟨schema, place, packageName,
    claimed.lookup (fileKey packageName (Identifier.javaClass place.source.name))⟩

/-- The claims of some names hold, under each key, the first of the names that has it. -/
theorem lookup_foldl_claim (packageName key : String) (claimed : List (String × String))
    (names : List String) :
    (names.foldl (claim packageName) claimed).lookup key =
      (claimed.lookup key).or
        (names.find? fun name => fileKey packageName (Identifier.javaClass name) == key) := by
  induction names generalizing claimed with
  | nil => exact Option.or_none.symm
  | cons name rest ih =>
    rw [List.foldl_cons, ih, List.find?_cons, claim]
    by_cases hkey : fileKey packageName (Identifier.javaClass name) = key
    · rw [hkey, beq_self_eq_true]
      cases howner : claimed.lookup key with
      | some owner => simp only [Option.isSome_some, if_true, howner, Option.some_or]
      | none => simp
    · have hother : (key == fileKey packageName (Identifier.javaClass name)) = false :=
        beq_false_of_ne (Ne.symm hkey)
      rw [beq_false_of_ne hkey]
      dsimp only
      split
      · rfl
      · rw [List.lookup_cons, hother]

section
variable {schema : Schema} {packageName : String} {claimed : List (String × String)}

theorem planFrom_cons (place : schema.Place) (rest : List schema.Place) :
    planFrom schema packageName claimed (place :: rest) =
      jobOf schema packageName claimed place ::
        planFrom schema packageName (claim packageName claimed place.source.name) rest := rfl

/-- The places in front of a plan pass on nothing but the claims of the names there. -/
theorem planFrom_append (front back : List schema.Place) :
    planFrom schema packageName claimed (front ++ back) =
      planFrom schema packageName claimed front ++
        planFrom schema packageName
          ((front.map (·.source.name)).foldl (claim packageName) claimed) back := by
  induction front generalizing claimed with
  | nil => rfl
  | cons place rest ih =>
    rw [List.cons_append, planFrom_cons, planFrom_cons, ih, List.cons_append, List.map_cons,
      List.foldl_cons]

/-- A planned job is the one of its place behind the claims of the names before it. -/
theorem planFrom_getElem? {places : List schema.Place} {index : Nat} {job : Job}
    (h : (planFrom schema packageName claimed places)[index]? = some job) :
    ∃ place, job = jobOf schema packageName
      ((((planFrom schema packageName claimed places).take index).map Job.name).foldl
        (claim packageName) claimed) place := by
  induction places generalizing claimed index with
  | nil => cases h
  | cons place rest ih =>
    rw [planFrom_cons] at h ⊢
    cases index with
    | zero =>
      obtain rfl := Option.some.inj h
      exact ⟨place, rfl⟩
    | succ index =>
      rw [List.getElem?_cons_succ] at h
      exact ih h

end

section
variable {a b : Schema} (hdatabase : a.name = b.name) (packageName : String)
  (claimed : List (String × String))

include hdatabase

theorem jobOf_alike {place : a.Place} {other : b.Place} (h : place.source = other.source) :
    (jobOf a packageName claimed place).Alike (jobOf b packageName claimed other) where
  database := hdatabase
  source := h
  packageName := rfl
  collidesWith := by rw [jobOf, jobOf, h]

/-- Two schemas of one database name have the same work at places of the same sources. -/
theorem planFrom_alike {places : List a.Place} {others : List b.Place}
    (h : places.map (·.source) = others.map (·.source)) :
    (planFrom a packageName claimed places).Forall₂ Job.Alike
      (planFrom b packageName claimed others) := by
  induction places generalizing claimed others with
  | nil =>
    obtain rfl := List.map_eq_nil_iff.mp h.symm
    exact .nil
  | cons place rest ih =>
    obtain ⟨other, back, rfl, hsource, hrest⟩ := List.map_eq_cons_iff.mp h.symm
    rw [planFrom_cons, planFrom_cons, hsource]
    exact .cons (jobOf_alike hdatabase packageName claimed hsource.symm) (ih _ hrest.symm)

end

/-- A job is marked with the name of the first job before it that has its key. -/
theorem Schema.plan_collidesWith {schema : Schema} {settings : Settings} {earlier later : List Job}
    {job : Job} (hplan : schema.plan settings = earlier ++ job :: later) :
    job.collidesWith = (earlier.find? (·.key == job.key)).map Job.name := by
  have hpackage : ∀ other ∈ earlier ++ job :: later,
      other.packageName = settings.packageFor schema.name := by
    intro other hother
    exact plan_packageName (hplan ▸ hother)
  have hplace : (schema.plan settings)[earlier.length]? = some job := by
    rw [hplan, List.getElem?_append_right (Nat.le_refl _), Nat.sub_self, List.getElem?_cons_zero]
  obtain ⟨place, hof⟩ := planFrom_getElem? hplace
  have hname : job.name = place.source.name := by rw [hof, Job.name, Job.source, jobOf]
  rw [← plan, hplan, List.take_left, jobOf, lookup_foldl_claim, List.lookup_nil, Option.none_or,
    List.find?_map] at hof
  refine (congrArg Job.collidesWith hof).trans (congrArg (Option.map Job.name) ?_)
  -- all jobs of a plan are in one package, so their classes decide whether they have one key
  apply List.find?_congr
  intro other hother
  have hone : other.packageName = settings.packageFor schema.name :=
    hpackage other (List.mem_append_left _ hother)
  have hjob : job.packageName = settings.packageFor schema.name :=
    hpackage job (List.mem_append_right _ List.mem_cons_self)
  rw [Job.key, Job.key, hone, hjob, Job.className, Job.className, hname]
  rfl

/-- In two schemas of one database name, jobs of one source behind the same names are the same work. -/
theorem Schema.plan_alike {a b : Schema} (hdatabase : a.name = b.name) {settings : Settings}
    {place otherPlace : Nat} {job other : Job} (hjob : (a.plan settings)[place]? = some job)
    (hother : (b.plan settings)[otherPlace]? = some other) (hsource : job.source = other.source)
    (hbefore : ((a.plan settings).take place).map Job.name =
      ((b.plan settings).take otherPlace).map Job.name) : job.Alike other := by
  obtain ⟨one, hj⟩ := planFrom_getElem? hjob
  obtain ⟨two, ho⟩ := planFrom_getElem? hother
  rw [← plan] at hj ho
  rw [hj, ho] at hsource
  rw [hj, ho, hbefore, hdatabase]
  exact jobOf_alike hdatabase _ _ hsource

/-- Exchanging a source for another one of its name exchanges its job, which keeps its owner, and
leaves the work of the jobs before and behind it as it is. -/
theorem Schema.plan_exchange {a b : Schema} (hdatabase : a.name = b.name) (settings : Settings)
    {front back : List Source} {old new : Source} (ha : a.sources = front ++ old :: back)
    (hb : b.sources = front ++ new :: back) (hname : old.name = new.name) :
    ∃ before behind before' behind' job other, a.plan settings = before ++ job :: behind ∧
      b.plan settings = before' ++ other :: behind' ∧ before.Forall₂ Job.Alike before' ∧
      behind.Forall₂ Job.Alike behind' ∧ job.source = old ∧ other.source = new ∧
      job.collidesWith = other.collidesWith := by
  rw [← places_source] at ha hb
  obtain ⟨aFront, aRest, haPlaces, haFront, haRest⟩ := List.map_eq_append_iff.mp ha
  obtain ⟨aPlace, aBack, rfl, rfl, haBack⟩ := List.map_eq_cons_iff.mp haRest
  obtain ⟨bFront, bRest, hbPlaces, hbFront, hbRest⟩ := List.map_eq_append_iff.mp hb
  obtain ⟨bPlace, bBack, rfl, rfl, hbBack⟩ := List.map_eq_cons_iff.mp hbRest
  let package := settings.packageFor a.name
  let claimed := (front.map Source.name).foldl (claim package) []
  have hclaimed : ∀ {schema : Schema} {places : List schema.Place}, places.map (·.source) = front →
      (places.map (·.source.name)).foldl (claim package) [] = claimed := by
    intro schema places h
    rw [show claimed = (front.map Source.name).foldl (claim package) [] from rfl, ← h, List.map_map]
    rfl
  refine ⟨planFrom a package [] aFront,
    planFrom a package (claim package claimed aPlace.source.name) aBack,
    planFrom b package [] bFront,
    planFrom b package (claim package claimed aPlace.source.name) bBack,
    jobOf a package claimed aPlace, jobOf b package claimed bPlace, ?_, ?_,
    planFrom_alike hdatabase package _ (haFront.trans hbFront.symm),
    planFrom_alike hdatabase package _ (haBack.trans hbBack.symm), rfl, rfl, ?_⟩
  · rw [plan, haPlaces, planFrom_append, planFrom_cons, hclaimed haFront]
  · rw [plan, hbPlaces, planFrom_append, planFrom_cons, ← hdatabase, hclaimed hbFront, hname]
  · rw [jobOf, jobOf, hname]

end EntityGen
