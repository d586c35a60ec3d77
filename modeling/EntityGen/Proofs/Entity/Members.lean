import EntityGen.Proofs.Entity.Names

/-!
# Members of one name

The properties of an entity differ, and so do the accessors of its fields. The members that the options
add are not compared with them: a column whose property is the name of an added variable has the class
declare that variable twice, and the setter of the bus too.
-/
namespace EntityGen

open Identifier EntityGen.Text

section Counting

variable {text : String}

theorem one_lt_count_append_iff {front back : List String} (hfront : front.count text ≤ 1)
    (hback : back.count text ≤ 1) :
    1 < (front ++ back).count text ↔ text ∈ front ∧ text ∈ back := by
  rw [List.count_append, ← List.count_pos_iff, ← List.count_pos_iff]
  omega

/-- A text that only items of one key hold, once each, is held once where the keys differ. -/
theorem count_flatMap_le_one {α : Type} {items : List α} {held : α → List String}
    {key : α → String} (hkeys : (items.map key).Nodup)
    (honce : ∀ item ∈ items, (held item).count text ≤ 1)
    (hkey : ∀ item ∈ items, ∀ other ∈ items, text ∈ held item → text ∈ held other →
      key item = key other) :
    (items.flatMap held).count text ≤ 1 := by
  induction items with
  | nil => simp
  | cons first rest ih =>
    rw [List.map_cons, List.nodup_cons] at hkeys
    obtain ⟨hfirst, hrest⟩ := List.forall_mem_cons.mp honce
    have hlater := ih hkeys.2 hrest fun item hitem other hother =>
      hkey item (List.mem_cons_of_mem _ hitem) other (List.mem_cons_of_mem _ hother)
    rw [List.flatMap_cons, List.count_append]
    by_cases hheld : text ∈ held first
    · have hnone : text ∉ rest.flatMap held := by
        intro hm
        obtain ⟨other, hother, hin⟩ := List.mem_flatMap.mp hm
        have hsame := hkey first List.mem_cons_self other (List.mem_cons_of_mem _ hother) hheld hin
        exact hkeys.1 (hsame ▸ List.mem_map_of_mem hother)
      rw [List.count_eq_zero_of_not_mem hnone]
      omega
    · rw [List.count_eq_zero_of_not_mem hheld]
      omega

end Counting

namespace Entity

variable {entity : Entity} {options : Options} {field other : Field} {name : String}

theorem mem_accessorNames :
    name ∈ entity.accessorNames options field ↔
      name = field.getterName options ∨ entity.kind = .table ∧ name = field.setterName := by
  rw [accessorNames, List.mem_cons, List.mem_ite_nil_right, List.mem_singleton, beq_iff_eq]

theorem nodup_accessorNames (entity : Entity) (options : Options) (field : Field) :
    (entity.accessorNames options field).Nodup := by
  rw [accessorNames, List.nodup_cons]
  have hne : field.getterName options ≠ field.setterName := by
    unfold Field.getterName Field.setterName
    split
    · exact append_ne_of_clashes (by decide) _ _
    · exact append_ne_of_clashes (by decide) _ _
  constructor
  · split
    · exact fun hm => hne (List.mem_singleton.mp hm)
    · exact List.not_mem_nil
  · split
    · exact List.nodup_singleton _
    · exact List.nodup_nil

/-- A name that only accessors of one property have is the name of one accessor. -/
theorem count_accessorNames_le_one {fields : List Field}
    (hdistinct : (fields.map (·.property)).Nodup)
    (hshared : ∀ field ∈ fields, ∀ other ∈ fields, name ∈ entity.accessorNames options field →
      name ∈ entity.accessorNames options other → field.property = other.property) :
    (fields.flatMap (entity.accessorNames options)).count name ≤ 1 :=
  count_flatMap_le_one hdistinct
    (fun field _ => List.nodup_iff_count_le_one.mp (entity.nodup_accessorNames options field) name)
    hshared

/-- The words in front of the capitalised properties in accessor names. -/
def accessorFronts : List String := ["get", "is", "set"]

theorem exists_front (h : name ∈ entity.accessorNames options field) :
    ∃ front ∈ accessorFronts, name = front ++ capitalised field.property := by
  rcases mem_accessorNames.mp h with rfl | ⟨-, rfl⟩
  · unfold Field.getterName
    split
    · exact ⟨"is", by decide, rfl⟩
    · exact ⟨"get", by decide, rfl⟩
  · exact ⟨"set", by decide, rfl⟩

theorem eq_of_fronts : ∀ front ∈ accessorFronts, ∀ front' ∈ accessorFronts,
    front = front' ∨ clashes front'.toList front.toList = true := by
  decide

/-- What stands behind the front of an accessor name does not depend on how the name is split. -/
theorem capitalised_of_front {front text : String} (hfront : front ∈ accessorFronts)
    (h : front ++ text ∈ entity.accessorNames options field) :
    capitalised field.property = text := by
  obtain ⟨front', hfront', heq⟩ := exists_front h
  rcases eq_of_fronts front hfront front' hfront' with rfl | hclash
  · exact ((String.append_right_inj _).mp heq).symm
  · exact absurd heq (append_ne_of_clashes hclash _ _)

theorem capitalised_of_shared (h : name ∈ entity.accessorNames options field)
    (hother : name ∈ entity.accessorNames options other) :
    capitalised field.property = capitalised other.property := by
  obtain ⟨front, hfront, rfl⟩ := exists_front hother
  exact capitalised_of_front hfront h

theorem setBus_mem_accessorNames (h : field.property = javaProperty name) :
    "setBus" ∈ entity.accessorNames options field ↔
      entity.kind = .table ∧ field.property = "bus" := by
  have hsplit : "setBus" = "set" ++ "Bus" := by decide
  constructor
  · intro hm
    have hset : entity.kind = .table := by
      rcases mem_accessorNames.mp hm with heq | ⟨htable, -⟩
      · unfold Field.getterName at heq
        split at heq
        · exact absurd heq (ne_append_of_clashes (by decide) _)
        · exact absurd heq (ne_append_of_clashes (by decide) _)
      · exact htable
    rw [hsplit] at hm
    have hbus := capitalised_of_front (by decide) hm
    rw [h] at hbus
    exact ⟨hset, h.trans (capitalised_eq_bus_iff.mp hbus)⟩
  · rintro ⟨htable, hbus⟩
    refine mem_accessorNames.mpr (.inr ⟨htable, ?_⟩)
    rw [Field.setterName, hbus]
    decide

theorem setBus_mem_accessors {job : Job} (h : entity.IsOf job) :
    "setBus" ∈ entity.fields.flatMap (entity.accessorNames options) ↔
      job.kind = .table ∧ "bus" ∈ job.source.columns.map Column.property := by
  rw [List.mem_flatMap, ← properties_of_fields h.fields, List.mem_map, ← h.kind]
  constructor
  · rintro ⟨field, hfield, hm⟩
    obtain ⟨column, -, hcolumn⟩ := exists_column_of_fields h.fields field hfield
    obtain ⟨htable, hbus⟩ := (setBus_mem_accessorNames (Field.property_ofColumn hcolumn)).mp hm
    exact ⟨htable, field, hfield, hbus⟩
  · rintro ⟨htable, field, hfield, hbus⟩
    obtain ⟨column, -, hcolumn⟩ := exists_column_of_fields h.fields field hfield
    refine ⟨field, hfield, (setBus_mem_accessorNames (Field.property_ofColumn hcolumn)).mpr ?_⟩
    exact ⟨htable, hbus⟩

theorem setBus_mem_ownMethods : "setBus" ∈ ownMethods options ↔ options.eventBus = true := by
  rw [ownMethods, List.mem_ite_nil_right, List.mem_singleton, and_iff_left rfl]

theorem nodup_ownMethods (options : Options) : (ownMethods options).Nodup := by
  unfold ownMethods
  split <;> decide

theorem nodup_ownVariables (options : Options) : (ownVariables options).Nodup := by
  unfold ownVariables
  split <;> split <;> decide

theorem mem_ownVariables :
    name ∈ ownVariables options ↔
      options.enterpriseContainer = true ∧ name = "serialVersionUID" ∨
        options.eventBus = true ∧ name = "bus" := by
  rw [ownVariables, List.mem_append, List.mem_ite_nil_right, List.mem_ite_nil_right,
    List.mem_singleton, List.mem_singleton]

end Entity

namespace Job

variable {job : Job}

/-- A column of the job has a class name out of some. -/
def Spells (job : Job) (classNames : List String) : Prop :=
  ∃ column ∈ job.source.columns, Identifier.className column.name ∈ classNames

instance (job : Job) (classNames : List String) : Decidable (job.Spells classNames) :=
  inferInstanceAs (Decidable (∃ column ∈ job.source.columns,
    Identifier.className column.name ∈ classNames))

theorem property_mem_iff {property : String} {classNames : List String}
    (h : ∀ name, javaProperty name = property ↔ Identifier.className name ∈ classNames) :
    property ∈ job.source.columns.map Column.property ↔ job.Spells classNames := by
  rw [List.mem_map, Spells]
  exact exists_congr fun column => and_congr_right fun _ => h column.name

theorem bus_mem_properties :
    "bus" ∈ job.source.columns.map Column.property ↔ job.Spells ["Bus", "BUS"] :=
  property_mem_iff fun name => by
    rw [javaProperty_eq_bus_iff, List.mem_pair]

theorem serialVersionUID_mem_properties :
    "serialVersionUID" ∈ job.source.columns.map Column.property ↔
      job.Spells ["SerialVersionUID"] :=
  property_mem_iff fun name => by
    rw [javaProperty_eq_serialVersionUID_iff, List.mem_singleton]

end Job

section
variable {job : Job} {entity : Entity} (h : job.describe = .ok entity) (options : Options)
include h

theorem variable_repeated_iff (name : String) :
    1 < (entity.variableNames options).count name ↔
      name ∈ Entity.ownVariables options ∧ name ∈ job.source.columns.map Column.property := by
  have hentity := job.describe_isOf h
  have hdistinct := job.describe_distinct h
  rw [Entity.variableNames_eq hentity]
  exact one_lt_count_append_iff
    (List.nodup_iff_count_le_one.mp (Entity.nodup_ownVariables options) name)
    (List.nodup_iff_count_le_one.mp hdistinct name)

theorem setBus_repeated_iff :
    1 < (entity.methodNames options).count "setBus" ↔
      options.eventBus = true ∧ job.kind = .table ∧
        "bus" ∈ job.source.columns.map Column.property := by
  have hentity := job.describe_isOf h
  have hproperties := properties_of_fields hentity.fields
  have hown := List.nodup_iff_count_le_one.mp (Entity.nodup_ownMethods options) "setBus"
  have hfields : (entity.fields.flatMap (entity.accessorNames options)).count "setBus" ≤ 1 := by
    refine Entity.count_accessorNames_le_one (hproperties ▸ job.describe_distinct h) ?_
    -- only the property of the bus has an accessor of this name
    intro field hfield other hother hm hm'
    obtain ⟨column, -, hcolumn⟩ := exists_column_of_fields hentity.fields field hfield
    obtain ⟨column', -, hcolumn'⟩ := exists_column_of_fields hentity.fields other hother
    have hbus := (Entity.setBus_mem_accessorNames (Field.property_ofColumn hcolumn)).mp hm
    have hbus' := (Entity.setBus_mem_accessorNames (Field.property_ofColumn hcolumn')).mp hm'
    exact hbus.2.trans hbus'.2.symm
  rw [Entity.methodNames_eq hentity, one_lt_count_append_iff hown hfields,
    Entity.setBus_mem_ownMethods, Entity.setBus_mem_accessors hentity]

/-- A class declares a variable twice exactly when it adds the variable and a column has its name as
property, and the setter of the bus twice exactly when fields have setters besides. -/
theorem members_repeated_iff :
    (∀ name, 1 < (entity.variableNames options).count name ↔
      (options.enterpriseContainer = true ∧ name = "serialVersionUID" ∧
        job.Spells ["SerialVersionUID"]) ∨
      (options.eventBus = true ∧ name = "bus" ∧ job.Spells ["Bus", "BUS"])) ∧
    (1 < (entity.methodNames options).count "setBus" ↔
      options.eventBus = true ∧ job.kind = .table ∧ job.Spells ["Bus", "BUS"]) := by
  constructor
  · intro name
    rw [variable_repeated_iff h, Entity.mem_ownVariables, or_and_right, and_assoc, and_assoc]
    refine or_congr ?_ ?_
    · refine and_congr_right fun _ => and_congr_right ?_
      rintro rfl
      exact Job.serialVersionUID_mem_properties
    · refine and_congr_right fun _ => and_congr_right ?_
      rintro rfl
      exact Job.bus_mem_properties
  · rw [setBus_repeated_iff h, Job.bus_mem_properties]

end

/-- A view with a column for the bus in capital letters declares the variable twice and has one setter
for it. -/
theorem members_repeated_iff_view :
    let columns : List Column :=
      [⟨"BUS", .varchar, true, false, none, none⟩, ⟨"bus_id", .integer, false, false, none, none⟩]
    let job := Job.alone "d" (.view ⟨"v", columns⟩) "p"
    let options : Options := { enterpriseContainer := true, eventBus := true }
    ∃ entity, job.describe = .ok entity ∧ 1 < (entity.variableNames options).count "bus" ∧
      ¬1 < (entity.variableNames options).count "serialVersionUID" ∧
      ¬1 < (entity.methodNames options).count "setBus" := by
  intro columns job options
  obtain ⟨entity, hentity⟩ : ∃ entity, job.describe = .ok entity := ⟨_, rfl⟩
  obtain ⟨hvariables, hmethods⟩ := members_repeated_iff hentity options
  refine ⟨entity, hentity, ?_, ?_, ?_⟩
  · rw [hvariables]
    decide +kernel
  · rw [hvariables]
    decide +kernel
  · rw [hmethods]
    decide +kernel

/-- Both variables that options add are declared twice, and so is the setter of the bus. -/
theorem members_repeated :
    let columns : List Column :=
      [⟨"bus", .varchar, true, false, none, none⟩,
        ⟨"serialVersionUID", .bigInt, false, false, none, none⟩]
    let job := Job.alone "d" (.table ⟨"person", columns, []⟩) "p"
    let options : Options := { enterpriseContainer := true, eventBus := true }
    ∃ entity, job.describe = .ok entity ∧
      entity.variableNames options = ["serialVersionUID", "bus", "bus", "serialVersionUID"] ∧
      ¬(entity.variableNames options).Nodup ∧
      (entity.methodNames options).count "setBus" = 2 := by
  intro columns job options
  obtain ⟨entity, hentity⟩ : ∃ entity, job.describe = .ok entity := ⟨_, rfl⟩
  have hof := job.describe_isOf hentity
  have hvariables : entity.variableNames options =
      ["serialVersionUID", "bus", "bus", "serialVersionUID"] := by
    rw [Entity.variableNames_eq hof]
    decide +kernel
  refine ⟨entity, hentity, hvariables, ?_, ?_⟩
  · rw [hvariables]
    decide
  · rw [Entity.methodNames_eq hof]
    obtain rfl := Except.ok.inj hentity
    decide +kernel

section
variable {job : Job} {entity : Entity} (h : job.describe = .ok entity)
  (hascii : ∀ column ∈ job.source.columns, IsAscii column.name) (options : Options)
include h hascii

/-- The accessors of the fields of ASCII columns have different names, and none is the method that
every object has. -/
theorem accessors_unambiguous :
    let names := entity.fields.flatMap (entity.accessorNames options)
    entity.methodNames options = Entity.ownMethods options ++ names ∧ names.Nodup ∧
      "getClass" ∉ names := by
  intro names
  have hentity := job.describe_isOf h
  have hdistinct := job.describe_distinct h
  have hnamed : ∀ field ∈ entity.fields, ∃ name, IsAscii name ∧
      field.property = javaProperty name := by
    intro field hfield
    obtain ⟨column, hcolumn, hof⟩ := exists_column_of_fields hentity.fields field hfield
    exact ⟨column.name, hascii column hcolumn, Field.property_ofColumn hof⟩
  refine ⟨Entity.methodNames_eq hentity options, ?_, ?_⟩
  · rw [List.nodup_iff_count_le_one]
    intro text
    refine Entity.count_accessorNames_le_one (properties_of_fields hentity.fields ▸ hdistinct) ?_
    -- one name for two fields would come from one capitalised property
    intro field hfield other hother hm hm'
    obtain ⟨name, hname, hproperty⟩ := hnamed field hfield
    obtain ⟨name', hname', hproperty'⟩ := hnamed other hother
    have hcapitalised := Entity.capitalised_of_shared hm hm'
    rw [hproperty, hproperty'] at hcapitalised ⊢
    exact capitalised_inj (head_ne_sharp_of_ascii hname) (head_ne_sharp_of_ascii hname')
      hcapitalised
  · intro hm
    obtain ⟨field, hfield, hin⟩ := List.mem_flatMap.mp hm
    obtain ⟨name, hname, hproperty⟩ := hnamed field hfield
    have hsplit : "getClass" = "get" ++ "Class" := by decide
    rw [hsplit] at hin
    have hclass := Entity.capitalised_of_front (by decide) hin
    rw [hproperty] at hclass
    exact capitalised_ne_class hname hclass

end

/-- A reserved word, a digit in front, and a flag next to a text that has its getter's name. -/
theorem accessors_unambiguous_class :
    let columns : List Column :=
      [⟨"class", .varchar, true, false, none, none⟩, ⟨"2nd", .integer, false, false, none, none⟩,
        ⟨"open", .bit, false, false, none, none⟩, ⟨"is_open", .varchar, false, false, none, none⟩]
    let job := Job.alone "d" (.view ⟨"v", columns⟩) "p"
    ∃ entity, job.describe = .ok entity ∧ (∀ column ∈ columns, IsAscii column.name) ∧
      entity.methodNames {} = ["getClass_", "get_2nd", "isOpen", "getIsOpen"] ∧
      (entity.methodNames {}).Nodup ∧ "getClass" ∉ entity.methodNames {} := by
  intro columns job
  obtain ⟨entity, hentity⟩ : ∃ entity, job.describe = .ok entity := ⟨_, rfl⟩
  have hascii : ∀ column ∈ columns, IsAscii column.name := by decide
  obtain ⟨hnames, hnodup, hclass⟩ := accessors_unambiguous hentity hascii {}
  have hown : Entity.ownMethods {} = [] := by decide
  rw [hown, List.nil_append] at hnames
  rw [← hnames] at hnodup hclass
  refine ⟨entity, hentity, hascii, ?_, hnodup, hclass⟩
  rw [hnames]
  obtain rfl := Except.ok.inj hentity
  decide +kernel

end EntityGen
