import EntityGen.Proofs.Plan.Jobs
import Mathlib.Data.List.Forall2
import Mathlib.Data.List.Nodup

/-!
# What describing a job comes to

`Describes` lists the answers that describing a job can give, each with the condition on the columns
under which it is the answer. The first column without a Java type decides, whatever the properties
are; where every column has one, the first property that repeats an earlier one decides. Exactly one
answer fits the columns of a job, and it is the one that `describe` gives.
-/
namespace EntityGen

/-- Kinds that have a generated form. -/
def Kind.IsGenerated (kind : Kind) : Prop := kind ≠ .unknown ∧ kind ≠ .money ∧ kind ≠ .fraction

instance : DecidablePred Kind.IsGenerated := fun kind =>
  inferInstanceAs (Decidable (kind ≠ .unknown ∧ kind ≠ .money ∧ kind ≠ .fraction))

/-- The fault of a column whose kind has no generated form. -/
def Kind.refusal (kind : Kind) : Fault :=
  if kind = .unknown then .noMapping kind else .unsupportedKind kind

/-- The property that a column becomes. -/
def Column.property (column : Column) : String := Identifier.javaProperty column.name

theorem Kind.resolve_of_not_generated {kind : Kind} (h : ¬kind.IsGenerated) :
    kind.resolve = .error kind.refusal := by
  cases kind <;> first | rfl | exact absurd (by decide) h

theorem Kind.exists_resolve {kind : Kind} (h : kind.IsGenerated) :
    ∃ descriptor, kind.resolve = .ok descriptor := by
  cases kind <;> first | exact ⟨_, rfl⟩ | exact absurd h (by decide)

namespace Field

variable {column : Column}

theorem ofColumn_of_not_generated (h : ¬column.kind.IsGenerated) :
    ofColumn column = .error column.kind.refusal := by
  rw [ofColumn, Kind.resolve_of_not_generated h]
  rfl

theorem exists_ofColumn (h : column.kind.IsGenerated) :
    ∃ field, ofColumn column = .ok field ∧ field.name = column.name ∧
      field.property = column.property := by
  obtain ⟨descriptor, hdescriptor⟩ := Kind.exists_resolve h
  rw [ofColumn, hdescriptor]
  exact ⟨_, rfl, rfl, rfl⟩

theorem exists_descriptor {field : Field} (h : ofColumn column = .ok field) :
    ∃ descriptor, column.kind.resolve = .ok descriptor ∧
      field.typeName = descriptor.typeName column.nullable ∧ field.sequence = column.sequence := by
  rw [ofColumn] at h
  cases hresolved : column.kind.resolve with
  | error fault =>
    rw [hresolved] at h
    cases h
  | ok descriptor =>
    rw [hresolved] at h
    obtain rfl := Except.ok.inj h
    exact ⟨descriptor, rfl, rfl, rfl⟩

theorem generated_of_ofColumn {field : Field} (h : ofColumn column = .ok field) :
    column.kind.IsGenerated := by
  by_contra hkind
  rw [ofColumn_of_not_generated hkind] at h
  cases h

theorem names_ofColumn {field : Field} (h : ofColumn column = .ok field) :
    field.name = column.name ∧ field.property = column.property := by
  obtain ⟨other, hother, hnames⟩ := exists_ofColumn (generated_of_ofColumn h)
  obtain rfl := Except.ok.inj (hother.symm.trans h)
  exact hnames

end Field

section
variable {α β ε : Type} {f : α → Except ε β}

theorem forall₂_of_mapM_eq_ok {items : List α} {results : List β}
    (h : items.mapM f = .ok results) :
    items.Forall₂ (fun item result => f item = .ok result) results := by
  induction items generalizing results with
  | nil =>
    obtain rfl := Except.ok.inj h
    exact .nil
  | cons first rest ih =>
    rw [List.mapM_cons] at h
    cases hfirst : f first with
    | error fault =>
      rw [hfirst] at h
      cases h
    | ok result =>
      cases hrest : rest.mapM f with
      | error fault =>
        rw [hfirst, hrest] at h
        cases h
      | ok others =>
        rw [hfirst, hrest] at h
        obtain rfl := Except.ok.inj h
        exact .cons hfirst (ih hrest)

theorem exists_split_of_mapM_eq_error {items : List α} {fault : ε}
    (h : items.mapM f = .error fault) :
    ∃ front item back, items = front ++ item :: back ∧
      (∀ other ∈ front, ∃ result, f other = .ok result) ∧ f item = .error fault := by
  induction items with
  | nil => cases h
  | cons first rest ih =>
    rw [List.mapM_cons] at h
    cases hfirst : f first with
    | error other =>
      rw [hfirst] at h
      obtain rfl := Except.error.inj h
      exact ⟨[], first, rest, rfl, by simp, hfirst⟩
    | ok result =>
      cases hrest : rest.mapM f with
      | ok others =>
        rw [hfirst, hrest] at h
        cases h
      | error other =>
        rw [hfirst, hrest] at h
        obtain rfl := Except.error.inj h
        obtain ⟨front, item, back, rfl, hfront, hitem⟩ := ih hrest
        exact ⟨first :: front, item, back, rfl,
          List.forall_mem_cons.mpr ⟨⟨result, hfirst⟩, hfront⟩, hitem⟩

end

/-- The key at a place stands at an earlier place too. -/
def RepeatsAt (keys : List String) (place : Nat) : Prop :=
  place < keys.length ∧ ∃ earlier < place, keys[earlier]? = keys[place]?

/-- The first place that repeats a key is `later`, and the one place before it that has this key is
`earlier`. -/
structure FirstRepeat (keys : List String) (earlier later : Nat) : Prop where
  lt : earlier < later
  repeats : RepeatsAt keys later
  least : ∀ place < later, ¬RepeatsAt keys place
  only : ∀ place < later, keys[place]? = keys[later]? ↔ place = earlier

theorem not_repeatsAt_of_nodup {keys : List String} (h : keys.Nodup) (place : Nat) :
    ¬RepeatsAt keys place := by
  rintro ⟨hplace, earlier, hlt, heq⟩
  exact List.nodup_iff_getElem?_ne_getElem?.mp h earlier place hlt hplace heq

namespace FirstRepeat

variable {keys : List String} {i j : Nat}

theorem not_nodup (h : FirstRepeat keys i j) : ¬keys.Nodup :=
  fun hnodup => not_repeatsAt_of_nodup hnodup j h.repeats

theorem later_le {i' j' : Nat} (h : FirstRepeat keys i j) (h' : FirstRepeat keys i' j') :
    j ≤ j' := by
  by_contra hlt
  exact h.least j' (by omega) h'.repeats

theorem unique {i' j' : Nat} (h : FirstRepeat keys i j) (h' : FirstRepeat keys i' j') :
    i = i' ∧ j = j' := by
  obtain rfl : j = j' := Nat.le_antisymm (h.later_le h') (h'.later_le h)
  have hshared : keys[i]? = keys[j]? := (h.only i h.lt).mpr rfl
  exact ⟨(h'.only i h.lt).mp hshared, rfl⟩

/-- A key behind different keys, one of which it is, is the first to repeat one. -/
theorem of_split {front back : List String} {key : String} (hfront : front.Nodup)
    (hi : front[i]? = some key) : FirstRepeat (front ++ key :: back) i front.length := by
  have hlt : i < front.length := (List.getElem?_eq_some_iff.mp hi).1
  have hbefore : ∀ {place}, place < front.length →
      (front ++ key :: back)[place]? = front[place]? := List.getElem?_append_left
  have hkey : (front ++ key :: back)[front.length]? = some key := by
    rw [List.getElem?_append_right (Nat.le_refl _), Nat.sub_self, List.getElem?_cons_zero]
  refine ⟨hlt, ⟨by simp, i, hlt, ?_⟩, ?_, ?_⟩
  · rw [hbefore hlt, hkey, hi]
  · -- a repeat before the key would lie inside the front
    rintro place hplace ⟨-, earlier, hearlier, heq⟩
    rw [hbefore hplace, hbefore (Nat.lt_trans hearlier hplace)] at heq
    exact not_repeatsAt_of_nodup hfront place ⟨hplace, earlier, hearlier, heq⟩
  · intro place hplace
    rw [hbefore hplace, hkey]
    constructor
    · intro heq
      obtain ⟨hp, hpkey⟩ := List.getElem?_eq_some_iff.mp heq
      obtain ⟨hlt, hikey⟩ := List.getElem?_eq_some_iff.mp hi
      exact (hfront.getElem_inj_iff).mp (hpkey.trans hikey.symm)
    · rintro rfl
      exact hi

end FirstRepeat

section
variable {earlier later : List Field} (hearlier : (earlier.map (·.property)).Nodup)
include hearlier

/-- A field without a clash joins the ones before it. -/
theorem nodup_cons_of_find?_eq_none {field : Field}
    (hnone : earlier.find? (·.property == field.property) = none) :
    ((field :: earlier).map (·.property)).Nodup := by
  have hnew : field.property ∉ earlier.map (·.property) := by
    simpa using hnone
  exact List.nodup_cons.mpr ⟨hnew, hearlier⟩

theorem nodup_of_propertyClash?_eq_none (h : propertyClash? earlier later = none) :
    ((earlier.reverse ++ later).map (·.property)).Nodup := by
  -- on the fields still to come
  induction later generalizing earlier with
  | nil =>
    rw [List.append_nil, List.map_reverse]
    exact List.nodup_reverse.mpr hearlier
  | cons field rest ih =>
    rw [propertyClash?] at h
    split at h
    · cases h
    · next hnone =>
      have hmore := nodup_cons_of_find?_eq_none hearlier hnone
      have hnodup := ih hmore h
      rwa [List.reverse_cons, List.append_assoc, List.singleton_append] at hnodup

theorem split_of_propertyClash?_eq_some {first second : Field}
    (h : propertyClash? earlier later = some (first, second)) :
    ∃ front back, earlier.reverse ++ later = front ++ second :: back ∧
      (front.map (·.property)).Nodup ∧ first ∈ front ∧ first.property = second.property := by
  induction later generalizing earlier with
  | nil => cases h
  | cons field rest ih =>
    rw [propertyClash?] at h
    split at h
    · next found hfound =>
      obtain ⟨rfl, rfl⟩ := Prod.mk.inj (Option.some.inj h)
      refine ⟨earlier.reverse, rest, rfl, ?_, ?_, ?_⟩
      · rw [List.map_reverse]
        exact List.nodup_reverse.mpr hearlier
      · exact List.mem_reverse.mpr (List.mem_of_find?_eq_some hfound)
      · simpa using List.find?_some hfound
    · next hnone =>
      have hmore := nodup_cons_of_find?_eq_none hearlier hnone
      obtain ⟨front, back, hsplit, hfront⟩ := ih hmore h
      refine ⟨front, back, ?_, hfront⟩
      rwa [List.reverse_cons, List.append_assoc, List.singleton_append] at hsplit

end

theorem firstRepeat_of_propertyClash? {fields : List Field} {first second : Field}
    (h : propertyClash? [] fields = some (first, second)) :
    ∃ i j, fields[i]? = some first ∧ fields[j]? = some second ∧
      FirstRepeat (fields.map (·.property)) i j := by
  have hempty : (([] : List Field).map (·.property)).Nodup := List.nodup_nil
  obtain ⟨front, back, hsplit, hfront, hfirst, hshared⟩ :=
    split_of_propertyClash?_eq_some hempty h
  rw [List.reverse_nil, List.nil_append] at hsplit
  subst hsplit
  obtain ⟨i, hi⟩ := List.getElem?_of_mem hfirst
  have hlt : i < front.length := (List.getElem?_eq_some_iff.mp hi).1
  have hkey : (front.map (·.property))[i]? = some second.property := by
    rw [List.getElem?_map, hi, ← hshared]
    rfl
  refine ⟨i, front.length, ?_, ?_, ?_⟩
  · rw [List.getElem?_append_left hlt, hi]
  · rw [List.getElem?_append_right (Nat.le_refl _), Nat.sub_self, List.getElem?_cons_zero]
  · rw [List.map_append, List.map_cons, ← List.length_map (·.property)]
    exact FirstRepeat.of_split hfront hkey

/-- The entity of a job: a field for every column in order, the sequences of a table, and what the
plan has settled. -/
structure Entity.IsOf (entity : Entity) (job : Job) : Prop where
  fields : job.source.columns.Forall₂ (fun column field => Field.ofColumn column = .ok field)
    entity.fields
  table_sequences : ∀ table, job.source = .table table → entity.sequences = table.sequenceNames
  view_sequences : ∀ view, job.source = .view view → entity.sequences = []
  sourceName : entity.sourceName = job.name
  kind : entity.kind = job.kind
  database : entity.database = job.database
  className : entity.className = job.className
  packageName : entity.packageName = job.packageName

/-- The answers to describing a job. -/
inductive Job.Describes (job : Job) : Except Fault Entity → Prop
  | described {entity : Entity} (generated : ∀ column ∈ job.source.columns, column.kind.IsGenerated)
      (distinct : (job.source.columns.map Column.property).Nodup) (entity_of : entity.IsOf job) :
      Describes job (.ok entity)
  /-- The first column without a generated form decides, also when properties clash. -/
  | unresolved {front back : List Column} {column : Column}
      (split : job.source.columns = front ++ column :: back)
      (generated : ∀ other ∈ front, other.kind.IsGenerated)
      (refused : ¬column.kind.IsGenerated) :
      Describes job (.error column.kind.refusal)
  | clash {i j : Nat} {first second : Column}
      (generated : ∀ column ∈ job.source.columns, column.kind.IsGenerated)
      (shared : FirstRepeat (job.source.columns.map Column.property) i j)
      (first_at : job.source.columns[i]? = some first)
      (second_at : job.source.columns[j]? = some second) :
      Describes job (.error (.emitterFailure job.name
        ("columns [" ++ first.name ++ "] and [" ++ second.name ++ "] both map to property ["
          ++ second.property ++ "]")))

section
variable {columns : List Column} {fields : List Field}
  (h : columns.Forall₂ (fun column field => Field.ofColumn column = .ok field) fields)
include h

theorem properties_of_fields : fields.map (·.property) = columns.map Column.property := by
  induction h with
  | nil => rfl
  | cons hfirst _ ih => rw [List.map_cons, List.map_cons, (Field.names_ofColumn hfirst).2, ih]

theorem generated_of_fields : ∀ column ∈ columns, column.kind.IsGenerated := by
  induction h with
  | nil => simp
  | cons hfirst _ ih =>
    exact List.forall_mem_cons.mpr ⟨Field.generated_of_ofColumn hfirst, ih⟩

theorem exists_column_of_fields :
    ∀ field ∈ fields, ∃ column ∈ columns, Field.ofColumn column = .ok field := by
  induction h with
  | nil => exact fun _ hm => nomatch hm
  | cons hfirst _ ih =>
    refine List.forall_mem_cons.mpr ⟨⟨_, List.mem_cons_self, hfirst⟩, ?_⟩
    intro field hfield
    obtain ⟨column, hcolumn, hof⟩ := ih field hfield
    exact ⟨column, List.mem_cons_of_mem _ hcolumn, hof⟩

/-- A field comes from the column at its place. -/
theorem column_at {place : Nat} {field : Field} (hfield : fields[place]? = some field) :
    ∃ column, columns[place]? = some column ∧ field.name = column.name ∧
      field.property = column.property := by
  induction h generalizing place with
  | nil => cases hfield
  | @cons column first _ _ hfirst _ ih =>
    cases place with
    | zero =>
      obtain rfl := Option.some.inj hfield
      exact ⟨column, rfl, Field.names_ofColumn hfirst⟩
    | succ place => exact ih hfield

end

/-- The first column that is refused does not depend on how the columns are split at it. -/
theorem Column.eq_of_first_refused {front front' back back' : List Column} {column column' : Column}
    (hsplit : front ++ column :: back = front' ++ column' :: back')
    (hfront : ∀ other ∈ front, other.kind.IsGenerated)
    (hfront' : ∀ other ∈ front', other.kind.IsGenerated)
    (hcolumn : ¬column.kind.IsGenerated) (hcolumn' : ¬column'.kind.IsGenerated) :
    column = column' := by
  induction front generalizing front' with
  | nil =>
    cases front' with
    | nil => exact (List.cons.inj hsplit).1
    | cons first rest =>
      obtain ⟨rfl, -⟩ := List.cons.inj hsplit
      exact absurd (hfront' column List.mem_cons_self) hcolumn
  | cons first rest ih =>
    cases front' with
    | nil =>
      obtain ⟨rfl, -⟩ := List.cons.inj hsplit
      exact absurd (hfront first List.mem_cons_self) hcolumn'
    | cons first' rest' =>
      obtain ⟨-, htail⟩ := List.cons.inj hsplit
      exact ih htail (List.forall_mem_cons.mp hfront).2 (List.forall_mem_cons.mp hfront').2

theorem Entity.IsOf.unique {job : Job} {a b : Entity} (ha : a.IsOf job) (hb : b.IsOf job) :
    a = b := by
  have hfields : a.fields = b.fields := by
    have hunique : Relator.RightUnique
        fun (column : Column) (field : Field) => Field.ofColumn column = .ok field := by
      intro column field other hfield hother
      exact Except.ok.inj (hfield.symm.trans hother)
    exact List.right_unique_forall₂' hunique ha.fields hb.fields
  have hsequences : a.sequences = b.sequences := by
    cases hsource : job.source with
    | table table => rw [ha.table_sequences table hsource, hb.table_sequences table hsource]
    | view view => rw [ha.view_sequences view hsource, hb.view_sequences view hsource]
  obtain ⟨-, -, -, hname, hkind, hdatabase, hclass, hpackage⟩ := ha
  obtain ⟨-, -, -, hname', hkind', hdatabase', hclass', hpackage'⟩ := hb
  cases a
  cases b
  simp_all

namespace Job

variable {job : Job}

/-- Only one answer fits the columns of a job. -/
theorem Describes.unique {a b : Except Fault Entity} (ha : job.Describes a)
    (hb : job.Describes b) : a = b := by
  have hmem : ∀ {front back : List Column} {column : Column},
      job.source.columns = front ++ column :: back → column ∈ job.source.columns := by
    intro front back column hsplit
    simp [hsplit]
  cases ha with
  | described hgenerated hdistinct hentity =>
    cases hb with
    | described _ _ hentity' => rw [hentity.unique hentity']
    | unresolved hsplit _ hrefused => exact absurd (hgenerated _ (hmem hsplit)) hrefused
    | clash _ hshared _ _ => exact absurd hdistinct hshared.not_nodup
  | unresolved hsplit hfront hrefused =>
    cases hb with
    | described hgenerated _ _ => exact absurd (hgenerated _ (hmem hsplit)) hrefused
    | unresolved hsplit' hfront' hrefused' =>
      rw [Column.eq_of_first_refused (hsplit.symm.trans hsplit') hfront hfront' hrefused hrefused']
    | clash hgenerated _ _ _ => exact absurd (hgenerated _ (hmem hsplit)) hrefused
  | clash hgenerated hshared hfirst hsecond =>
    cases hb with
    | described _ hdistinct _ => exact absurd hdistinct hshared.not_nodup
    | unresolved hsplit _ hrefused => exact absurd (hgenerated _ (hmem hsplit)) hrefused
    | clash _ hshared' hfirst' hsecond' =>
      obtain ⟨rfl, rfl⟩ := hshared.unique hshared'
      obtain rfl := Option.some.inj (hfirst.symm.trans hfirst')
      obtain rfl := Option.some.inj (hsecond.symm.trans hsecond')
      rfl

theorem describe_of_error {fault : Fault} (h : job.fields = .error fault) :
    job.describe = .error fault := by
  rw [describe, h]
  rfl

theorem describe_of_none {fields : List Field} (h : job.fields = .ok fields)
    (hclash : propertyClash? [] fields = none) :
    job.describe = .ok ⟨job.name, job.kind, job.database, job.className, job.packageName, fields,
      job.source.sequenceNames⟩ := by
  simp only [describe, h, bind, Except.bind, hclash]
  rfl

theorem describe_of_some {fields : List Field} (h : job.fields = .ok fields) {first second : Field}
    (hclash : propertyClash? [] fields = some (first, second)) :
    job.describe = .error (.emitterFailure job.name
      ("columns [" ++ first.name ++ "] and [" ++ second.name ++ "] both map to property ["
        ++ second.property ++ "]")) := by
  simp only [describe, h, bind, Except.bind, hclash]
  rfl

theorem describes_of_fields {fields : List Field} (h : job.fields = .ok fields) :
    job.Describes job.describe := by
  have hfields := forall₂_of_mapM_eq_ok h
  have hgenerated := generated_of_fields hfields
  have hproperties := properties_of_fields hfields
  cases hclash : propertyClash? [] fields with
  | none =>
    rw [describe_of_none h hclash]
    have hempty : (([] : List Field).map (·.property)).Nodup := List.nodup_nil
    have hnodup := nodup_of_propertyClash?_eq_none hempty hclash
    rw [List.reverse_nil, List.nil_append, hproperties] at hnodup
    refine .described hgenerated hnodup ⟨hfields, ?_, ?_, rfl, rfl, rfl, rfl, rfl⟩
    · intro table hsource
      rw [hsource]
      rfl
    · intro view hsource
      rw [hsource]
      rfl
  | some clash =>
    obtain ⟨first, second⟩ := clash
    rw [describe_of_some h hclash]
    obtain ⟨i, j, hi, hj, hrepeat⟩ := firstRepeat_of_propertyClash? hclash
    obtain ⟨column, hcolumn, hname, -⟩ := column_at hfields hi
    obtain ⟨other, hother, hotherName, hotherProperty⟩ := column_at hfields hj
    -- the message is about fields, and their names and properties are those of the columns
    rw [hname, hotherName, hotherProperty]
    rw [hproperties] at hrepeat
    exact .clash hgenerated hrepeat hcolumn hother

theorem describes_describe (job : Job) : job.Describes job.describe := by
  cases h : job.fields with
  | ok fields => exact describes_of_fields h
  | error fault =>
    rw [describe_of_error h]
    obtain ⟨front, column, back, hsplit, hfront, hcolumn⟩ := exists_split_of_mapM_eq_error h
    have hrefused : ¬column.kind.IsGenerated := by
      intro hkind
      obtain ⟨field, hfield, -⟩ := Field.exists_ofColumn hkind
      rw [hfield] at hcolumn
      cases hcolumn
    rw [Field.ofColumn_of_not_generated hrefused] at hcolumn
    obtain rfl := Except.error.inj hcolumn
    refine .unresolved hsplit ?_ hrefused
    intro other hother
    obtain ⟨field, hfield⟩ := hfront other hother
    exact Field.generated_of_ofColumn hfield

theorem describe_isOf {entity : Entity} (h : job.describe = .ok entity) : entity.IsOf job := by
  have hdescribes := job.describes_describe
  rw [h] at hdescribes
  cases hdescribes with
  | described _ _ hentity => exact hentity

/-- What a job of a plan describes is the table or view that stands in the shared schema where the job
stands in the plan. -/
theorem describe_planned {schema : Schema} {settings : Settings} {index : Nat} {entity : Entity}
    (hplanned : (schema.plan settings)[index]? = some job) (hdescribe : job.describe = .ok entity) :
    ∃ source, schema.sources[index]? = some source ∧ entity.sourceName = source.name ∧
      entity.kind = source.kind ∧ entity.database = schema.name ∧
      source.columns.Forall₂ (fun column field => Field.ofColumn column = .ok field)
        entity.fields ∧
      entity.sequences = source.sequenceNames := by
  obtain ⟨place, -, hsource, hjob⟩ := Schema.plan_reads hplanned
  have hentity := describe_isOf hdescribe
  refine ⟨job.source, hsource, hentity.sourceName, hentity.kind.trans job.kind_eq, ?_,
    hentity.fields, ?_⟩
  · rw [hentity.database, hjob, database]
  · cases hread : job.source with
    | table table => exact hentity.table_sequences table hread
    | view view => exact hentity.view_sequences view hread

theorem describe_distinct {entity : Entity} (h : job.describe = .ok entity) :
    (job.source.columns.map Column.property).Nodup := by
  have hdescribes := job.describes_describe
  rw [h] at hdescribes
  cases hdescribes with
  | described _ hdistinct _ => exact hdistinct

/-- Describing a job gives the answer that fits its columns and no other, and it gives an entity
exactly when every column has a generated form and no two have one property. -/
theorem describe_eq_iff_describes (job : Job) :
    (∀ answer, job.describe = answer ↔ job.Describes answer) ∧
      ((∃ entity, job.describe = .ok entity) ↔
        (∀ column ∈ job.source.columns, column.kind.IsGenerated) ∧
          (job.source.columns.map Column.property).Nodup) := by
  have hdescribes := job.describes_describe
  refine ⟨fun answer => ⟨?_, fun h => hdescribes.unique h⟩, ?_, ?_⟩
  · rintro rfl
    exact hdescribes
  · rintro ⟨entity, hentity⟩
    rw [hentity] at hdescribes
    cases hdescribes with
    | described hgenerated hdistinct _ => exact ⟨hgenerated, hdistinct⟩
  · rintro ⟨hgenerated, hdistinct⟩
    cases hanswer : job.describe with
    | ok entity => exact ⟨entity, rfl⟩
    | error fault =>
      rw [hanswer] at hdescribes
      cases hdescribes with
      | unresolved hsplit _ hrefused =>
        exact absurd (hgenerated _ (by rw [hsplit]; simp)) hrefused
      | clash _ hshared _ _ => exact absurd hdistinct hshared.not_nodup

/-- A column without a generated form decides, though two columns in front of it clash. -/
example :
    let columns : List Column := [⟨"a_b", .date, false, false, none, none⟩,
      ⟨"A_B", .date, false, false, none, none⟩, ⟨"c", .money, false, false, none, none⟩]
    (alone "d" (.view ⟨"v", columns⟩) "p").describe = .error (.unsupportedKind .money) := by
  decide +kernel

end Job

end EntityGen
