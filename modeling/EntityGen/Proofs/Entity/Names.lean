import EntityGen.Proofs.Entity.Imports
import EntityGen.Proofs.Identifier.Characters
import EntityGen.Proofs.Identifier.Property
import EntityGen.Proofs.Plan.Description

/-!
# Names of members

The names of the member variables and of the methods of a class, read back from its lines. The
variables are the ones that the options add and then the properties of the fields; the methods are the
setter of the bus and then the accessors of the fields.
-/
namespace EntityGen

open Identifier

/-- The last word of a text. -/
def lastWord (text : List Char) : List Char :=
  ((text.splitOn ' ').filter (!·.isEmpty)).getLastD []

/-- The name that a line declares if it begins in a certain way: the last word in front of the first
of some characters. -/
def declared? (front : String) (stops : List Char) (line : String) : Option String :=
  if front.toList.isPrefixOf line.toList then
    some (String.ofList (lastWord (line.toList.takeWhile (· ∉ stops))))
  else none

/-- The member variable that a line declares. -/
def declaredVariable? : String → Option String := declared? "    private " [';', '=']

/-- The method that a line declares. -/
def declaredMethod? : String → Option String := declared? "    public " ['(']

/-- The member variables that the source of a class declares. -/
def Entity.variableNames (entity : Entity) (options : Options) : List String :=
  (entity.lines options).filterMap declaredVariable?

/-- The methods that the source of a class declares. -/
def Entity.methodNames (entity : Entity) (options : Options) : List String :=
  (entity.lines options).filterMap declaredMethod?

theorem lastWord_append (before : List Char) {word : List Char} (hword : ' ' ∉ word)
    (hne : word ≠ []) : lastWord (before ++ ' ' :: word) = word := by
  rw [lastWord, List.splitOn_append_cons_self, List.splitOn_eq_singleton hword, List.filter_append,
    List.filter_cons_of_pos (by simp [hne]), List.filter_nil, List.getLastD_concat]

section Reading

variable {front : String} {stops : List Char}

theorem declared?_eq_none {line : String} (h : clashes front.toList line.toList = true) :
    declared? front stops line = none := by
  rw [declared?, isPrefixOf_of_clashes h, if_neg Bool.false_ne_true]

/-- A line with a type and a name in front of a character at which reading stops. -/
theorem declared?_line {typeName name behind : String} {stop : Char} {rest : List Char}
    (hbehind : behind.toList = stop :: rest) (hstop : stop ∈ stops)
    (hblank : ∀ c ∈ ' ' :: stops, ¬IsNameChar c) (hfront : ∀ c ∈ stops, c ∉ (front ++ " ").toList)
    (htype : ∀ c ∈ stops, c ∉ typeName.toList) (hname : ∀ c ∈ name.toList, IsNameChar c)
    (hne : name ≠ "") :
    declared? front stops (front ++ (typeName ++ (" " ++ (name ++ behind)))) = some name := by
  obtain ⟨hspace, hstops⟩ := List.forall_mem_cons.mp hblank
  have hbegins : front.toList.isPrefixOf
      (front ++ (typeName ++ (" " ++ (name ++ behind)))).toList = true :=
    List.isPrefixOf_iff_prefix.mpr (toList_prefix_append _ _)
  have hspaced : (" " : String).toList = [' '] := by decide
  have hline : (front ++ (typeName ++ (" " ++ (name ++ behind)))).toList =
      (front.toList ++ typeName.toList ++ ' ' :: name.toList) ++ stop :: rest := by
    simp only [String.toList_append, hbehind, hspaced, List.append_assoc, List.cons_append,
      List.nil_append]
  have hkept : ∀ c ∈ front.toList ++ typeName.toList ++ ' ' :: name.toList,
      decide (c ∉ stops) = true := by
    intro c hc
    refine decide_eq_true fun hm => ?_
    have hout := hfront c hm
    rw [String.toList_append, hspaced, List.mem_append, not_or] at hout
    rw [List.mem_append, List.mem_append, List.mem_cons] at hc
    rcases hc with (hc | hc) | rfl | hc
    · exact hout.1 hc
    · exact htype c hm hc
    · exact hout.2 List.mem_cons_self
    · exact hstops c hm (hname c hc)
  rw [declared?, if_pos hbegins, hline, List.takeWhile_append_of_pos hkept,
    List.takeWhile_cons_of_neg (by simp [hstop]), List.append_nil,
    lastWord_append _ (not_mem_of_nameChars hname hspace)
      fun hnil => hne (String.toList_eq_nil_iff.mp hnil),
    String.ofList_toList]

end Reading

theorem Kind.typeName_stops {kind : Kind} {descriptor : TypeDescriptor}
    (h : kind.resolve = .ok descriptor) (nullable : Bool) :
    ∀ c ∈ [';', '=', '('], c ∉ (descriptor.typeName nullable).toList := by
  cases kind
  case unknown | money | fraction => cases h
  all_goals
    obtain rfl := Except.ok.inj h
    cases nullable <;> decide

theorem nameChars_append {a b : String} (ha : ∀ c ∈ a.toList, IsNameChar c)
    (hb : ∀ c ∈ b.toList, IsNameChar c) : ∀ c ∈ (a ++ b).toList, IsNameChar c := by
  rw [String.toList_append]
  exact List.forall_mem_append.mpr ⟨ha, hb⟩

/-- The names of a field's accessors; a field of a view has no setter. -/
def Entity.accessorNames (entity : Entity) (options : Options) (field : Field) : List String :=
  field.getterName options :: if entity.kind == .table then [field.setterName] else []

namespace Field

/-- What stands in front of the line that declares a field are annotations. -/
theorem exists_declaration (field : Field) (options : Options) :
    ∃ marks, field.declaration options =
        marks ++ ["    private " ++ field.javaType options ++ " " ++ field.property ++ ";", ""] ∧
      ∀ line ∈ marks, Begins ["    @"] line := by
  refine ⟨_, rfl, ?_⟩
  intro line hline
  simp only [List.mem_append, List.mem_ite_nil_right, List.mem_singleton] at hline
  rcases hline with ((⟨-, rfl⟩ | hsequence) | rfl) | ⟨-, rfl⟩
  · decide
  · cases hname : field.sequence with
    | none =>
      rw [hname] at hsequence
      cases hsequence
    | some sequence =>
      rw [hname] at hsequence
      obtain ⟨front, hfront, hbegins⟩ := begins_sequenceLines hsequence
      have hmarks : ∀ front ∈ ["    @SequenceGenerator(", "    @GeneratedValue("],
          "    @".toList <+: front.toList := by
        decide
      exact ⟨_, List.mem_singleton_self _, (hmarks front hfront).trans hbegins⟩
  · simp (disch := decide) only [begins_append, String.append_assoc]
  · decide

variable {column : Column} {field : Field} (h : ofColumn column = .ok field) (options : Options)
include h

theorem property_ofColumn : field.property = javaProperty column.name :=
  (names_ofColumn h).2

theorem javaType_stops {stops : List Char} (hstops : stops ⊆ [';', '=', '(']) :
    ∀ c ∈ stops, c ∉ (field.javaType options).toList := by
  obtain ⟨descriptor, hresolved, htype, -⟩ := exists_descriptor h
  have hrich : ∀ c ∈ [';', '=', '('], c ∉ "DateTime".toList := by decide
  intro c hc
  unfold javaType
  split
  · exact hrich c (hstops hc)
  · rw [htype]
    exact Kind.typeName_stops hresolved column.nullable c (hstops hc)

theorem property_nameChars : ∀ c ∈ field.property.toList, IsNameChar c := by
  rw [property_ofColumn h]
  exact nameChars_javaProperty column.name

theorem property_ne_empty : field.property ≠ "" := by
  rw [property_ofColumn h]
  obtain ⟨head, rest, hproperty, -⟩ := javaProperty_head column.name
  intro hempty
  rw [hempty] at hproperty
  cases hproperty

theorem declaration_variableNames :
    (field.declaration options).filterMap declaredVariable? = [field.property] := by
  obtain ⟨marks, hdeclaration, hmarks⟩ := exists_declaration field options
  have hnone : marks.filterMap declaredVariable? = [] :=
    Region.filterMap_eq_nil_of_begins rfl (fun _ => declared?_eq_none)
      (by decide) fun line hline => .inr (hmarks line hline)
  have hend : ";".toList = [';'] := by decide
  have hline : declaredVariable? ("    private " ++ field.javaType options ++ " " ++ field.property
      ++ ";") = some field.property := by
    simp only [String.append_assoc]
    exact declared?_line hend (by decide) (by decide) (by decide)
      (javaType_stops h options (by decide)) (property_nameChars h) (property_ne_empty h)
  have hblank : declaredVariable? "" = none := rfl
  rw [hdeclaration, List.filterMap_append, hnone, List.nil_append, List.filterMap_cons, hline,
    List.filterMap_cons, hblank, List.filterMap_nil]

theorem getter_methodNames :
    (field.getter options).filterMap declaredMethod? = [field.getterName options] := by
  have hprefix : ∀ c ∈ (if field.javaType options == "boolean" then "is" else "get").toList,
      IsNameChar c := by
    split <;> decide
  have hname : ∀ c ∈ (field.getterName options).toList, IsNameChar c :=
    nameChars_append hprefix (nameChars_capitalised (property_nameChars h))
  have hne : field.getterName options ≠ "" := by
    unfold getterName
    split <;> simp
  have hend : "() \x7b".toList = '(' :: ") \x7b".toList := by decide
  have hline : declaredMethod? ("    public " ++ field.javaType options ++ " " ++
      field.getterName options ++ "() \x7b") = some (field.getterName options) := by
    simp only [String.append_assoc]
    exact declared?_line hend (by decide) (by decide) (by decide)
      (javaType_stops h options (by decide)) hname hne
  have hfronts : ∀ front ∈ ["    @", "        return ", "    \x7d"],
      clashes "    public ".toList front.toList = true := by
    decide
  have hmarks : ((field.nullAnnotation? options).toList.map ("    " ++ ·)).filterMap
      declaredMethod? = [] := by
    refine Region.filterMap_eq_nil_of_begins rfl (fun _ => declared?_eq_none) hfronts ?_
    intro line hline
    obtain ⟨mark, hmark, rfl⟩ := List.mem_map.mp hline
    obtain ⟨-, rfl⟩ := nullAnnotation?_eq_some.mp (Option.mem_toList.mp hmark)
    split <;> decide
  have hbody : ["        return " ++ field.copied options field.property ++ ";", "    \x7d",
      ""].filterMap declaredMethod? = [] := by
    refine Region.filterMap_eq_nil_of_begins rfl (fun _ => declared?_eq_none) hfronts ?_
    intro line hline
    simp only [List.mem_cons, List.not_mem_nil, or_false, String.append_assoc] at hline
    rcases hline with rfl | rfl | rfl
    · exact .inr (begins_append (by decide) _)
    · exact .inr (by decide)
    · exact .inl rfl
  rw [getter, List.filterMap_append, hmarks, List.nil_append, List.filterMap_cons, hline, hbody]

theorem setter_methodNames :
    (field.setter options).filterMap declaredMethod? = [field.setterName] := by
  have hname : ∀ c ∈ field.setterName.toList, IsNameChar c :=
    nameChars_append (by decide) (nameChars_capitalised (property_nameChars h))
  have hne : field.setterName ≠ "" := by simp [setterName]
  have hline : declaredMethod? ("    public void " ++ field.setterName ++ "(" ++
      field.parameter options ++ ") \x7b") = some field.setterName := by
    have hvoid : "    public void " = "    public " ++ ("void" ++ " ") := by decide
    have hbehind : ("(" ++ (field.parameter options ++ ") \x7b")).toList =
        '(' :: (field.parameter options ++ ") \x7b").toList := String.toList_append
    simp only [hvoid, String.append_assoc]
    exact declared?_line hbehind (by decide) (by decide) (by decide) (by decide) hname hne
  have hfronts : ∀ front ∈ ["        this.", "        if ", "            bus.", "        \x7d",
      "    \x7d"], clashes "    public ".toList front.toList = true := by
    decide
  rw [setter, List.cons_append, List.cons_append, List.filterMap_cons, hline]
  refine congrArg _ (Region.filterMap_eq_nil_of_begins rfl (fun _ => declared?_eq_none) hfronts ?_)
  intro line hline
  simp only [List.mem_append, List.mem_ite_nil_right, List.mem_cons, List.not_mem_nil, or_false,
    String.append_assoc] at hline
  rcases hline with (rfl | ⟨-, rfl | rfl | rfl⟩) | rfl | rfl
  · exact .inr (begins_append (by decide) _)
  all_goals decide

theorem accessors_methodNames (entity : Entity) :
    (entity.accessors options field).filterMap declaredMethod? =
      entity.accessorNames options field := by
  rw [Entity.accessors, List.filterMap_append, getter_methodNames h, Entity.accessorNames]
  split
  · rw [setter_methodNames h]
    rfl
  · rfl

end Field

namespace Entity

/-- The member variables that a class has whatever its fields are. -/
def ownVariables (options : Options) : List String :=
  (if options.enterpriseContainer then ["serialVersionUID"] else []) ++
    if options.eventBus then ["bus"] else []

/-- The methods that a class has whatever its fields are. -/
def ownMethods (options : Options) : List String := if options.eventBus then ["setBus"] else []

variable {job : Job} {entity : Entity}

theorem leadingMembers_variableNames (options : Options) :
    (leadingMembers options).filterMap declaredVariable? = ownVariables options := by
  rw [leadingMembers, ownVariables, List.filterMap_append]
  congr 1
  · split <;> decide
  · split <;> decide

/-- The variables are those that the text behind the comment declares. -/
theorem variableNames_eq_text (h : entity.IsOf job) (options : Options) :
    entity.variableNames options =
      (entity.classLines options).filterMap declaredVariable? :=
  (filterMap_classLines h.plain rfl (fun _ => declared?_eq_none) (by decide)).symm

/-- The methods are those that the text behind the comment declares. -/
theorem methodNames_eq_text (h : entity.IsOf job) (options : Options) :
    entity.methodNames options = (entity.classLines options).filterMap declaredMethod? :=
  (filterMap_classLines h.plain rfl (fun _ => declared?_eq_none) (by decide)).symm

/-- A class declares its own variables and then the properties of the columns. -/
theorem variableNames_eq (h : entity.IsOf job) (options : Options) :
    entity.variableNames options =
      ownVariables options ++ job.source.columns.map Column.property := by
  have hregions : entity.variableNames options =
      (Region.all.filter (· ∈ [Region.leading, Region.declarations])).flatMap fun region =>
        (region.lines entity options).filterMap declaredVariable? :=
    Region.filterMap_lines_of_homes rfl (fun _ => declared?_eq_none) _ (by decide +kernel)
  have hhomes : Region.all.filter (· ∈ [Region.leading, Region.declarations]) =
      [.leading, .declarations] := by
    decide
  have hfields : (entity.fields.flatMap (·.declaration options)).filterMap declaredVariable? =
      entity.fields.map (·.property) := by
    rw [List.filterMap_flatMap, List.map_eq_flatMap]
    refine List.flatMap_congr fun field hfield => ?_
    obtain ⟨column, -, hcolumn⟩ := exists_column_of_fields h.fields field hfield
    exact Field.declaration_variableNames hcolumn options
  rw [hregions, hhomes, List.flatMap_cons, List.flatMap_singleton, ← properties_of_fields h.fields,
    ← hfields, ← leadingMembers_variableNames]
  rfl

/-- A class declares its own methods and then the accessors of the fields. -/
theorem methodNames_eq (h : entity.IsOf job) (options : Options) :
    entity.methodNames options =
      ownMethods options ++ entity.fields.flatMap (entity.accessorNames options) := by
  have hregions : entity.methodNames options =
      (Region.all.filter (· ∈ [Region.busSetter, Region.accessors])).flatMap fun region =>
        (region.lines entity options).filterMap declaredMethod? :=
    Region.filterMap_lines_of_homes rfl (fun _ => declared?_eq_none) _ (by decide +kernel)
  have hhomes : Region.all.filter (· ∈ [Region.busSetter, Region.accessors]) =
      [.busSetter, .accessors] := by
    decide
  have hbus : (busSetter options).filterMap declaredMethod? = ownMethods options := by
    unfold busSetter ownMethods
    split <;> decide
  have hfields : (entity.fields.flatMap (entity.accessors options)).filterMap declaredMethod? =
      entity.fields.flatMap (entity.accessorNames options) := by
    rw [List.filterMap_flatMap]
    refine List.flatMap_congr fun field hfield => ?_
    obtain ⟨column, -, hcolumn⟩ := exists_column_of_fields h.fields field hfield
    exact Field.accessors_methodNames hcolumn options entity
  rw [hregions, hhomes, List.flatMap_cons, List.flatMap_singleton, ← hfields, ← hbus]
  rfl

end Entity

end EntityGen
