import EntityGen.Proofs.Entity.Lines
import EntityGen.Proofs.Entity.Literal
import EntityGen.Proofs.Entity.Regions
import EntityGen.Proofs.Identifier.Characters
import EntityGen.Proofs.Plan.Description
import Mathlib.Data.List.Infix

/-!
# Lines of a class

No name puts a line feed into the text behind the comment of a class source: names of classes and
properties are made of other characters, and all other names stand in literals. So the lines of that
text are the ones that the class is put together from.
-/
namespace EntityGen

open Identifier

/-- A type that is one word and none of the names that the class has for something else. -/
structure PlainType (typeName : String) : Prop where
  noBlank : ' ' ∉ typeName.toList
  noFeed : '\n' ∉ typeName.toList
  noMark : '@' ∉ typeName.toList
  ne_void : typeName ≠ "void"
  ne_bus : typeName ≠ "Bus"
  ne_dateTime : typeName ≠ "DateTime"

theorem Kind.plainType_typeName {kind : Kind} {descriptor : TypeDescriptor}
    (h : kind.resolve = .ok descriptor) (nullable : Bool) :
    PlainType (descriptor.typeName nullable) := by
  cases kind
  case unknown | money | fraction => cases h
  all_goals
    obtain rfl := Except.ok.inj h
    cases nullable <;> exact ⟨by decide, by decide, by decide, by decide, by decide, by decide⟩

theorem Field.plainType_ofColumn {column : Column} {field : Field} (h : ofColumn column = .ok field) :
    PlainType field.typeName := by
  obtain ⟨descriptor, hresolved, htype, -⟩ := exists_descriptor h
  rw [htype]
  exact Kind.plainType_typeName hresolved column.nullable

/-- The names of the class and of its properties and the types of its fields are fit for code, whatever
the table or view and its columns are called. -/
structure Entity.Plain (entity : Entity) : Prop where
  className : ∀ c ∈ entity.className.toList, IsNameChar c
  property : ∀ field ∈ entity.fields, ∀ c ∈ field.property.toList, IsNameChar c
  typeName : ∀ field ∈ entity.fields, PlainType field.typeName

theorem Entity.IsOf.plain {job : Job} {entity : Entity} (h : entity.IsOf job) : entity.Plain where
  className := by
    rw [h.className]
    exact nameChars_javaClass job.name
  property := by
    intro field hfield
    obtain ⟨column, -, hcolumn⟩ := exists_column_of_fields h.fields field hfield
    rw [(Field.names_ofColumn hcolumn).2]
    exact nameChars_javaProperty column.name
  typeName := by
    intro field hfield
    obtain ⟨column, -, hcolumn⟩ := exists_column_of_fields h.fields field hfield
    exact Field.plainType_ofColumn hcolumn

section Feeds

theorem feed_not_mem_of_nameChars {text : String} (h : ∀ c ∈ text.toList, IsNameChar c) :
    '\n' ∉ text.toList :=
  not_mem_of_nameChars h (by decide)

theorem feed_not_mem_literal (raw : String) : '\n' ∉ (literal raw).toList := by
  rw [literal, String.toList_ofList]
  exact (lineEnd_not_mem_literalChars raw.toList).1

theorem feed_not_mem_toDigits (n : Nat) : '\n' ∉ Nat.toDigits 10 n := by
  intro hfeed
  have hdigit := Nat.isDigit_of_mem_toDigits (by decide) (by decide) hfeed
  exact absurd hdigit (by decide)

namespace Field

variable {field : Field} {options : Options} {line : String}

theorem feed_not_mem_columnAttributes (field : Field) : '\n' ∉ field.columnAttributes.toList := by
  have hname := feed_not_mem_literal field.name
  unfold columnAttributes
  cases field.nullable <;> cases field.length <;> simp [hname, feed_not_mem_toDigits]

theorem feed_not_mem_sequenceLines {sequence : String} (h : line ∈ sequenceLines sequence) :
    '\n' ∉ line.toList := by
  have hname := feed_not_mem_literal sequence
  simp only [sequenceLines, List.mem_cons, List.not_mem_nil, or_false] at h
  rcases h with rfl | rfl <;> simp [hname]

/-- What holds of the type of a field and of the rich date type holds of the declared type. -/
theorem javaType_of {p : String → Prop} (hrich : p "DateTime") (htype : p field.typeName) :
    p (field.javaType options) := by
  unfold javaType
  split
  · exact hrich
  · exact htype

variable (hproperty : ∀ c ∈ field.property.toList, IsNameChar c) (htype : PlainType field.typeName)

include htype in
theorem feed_not_mem_javaType (options : Options) : '\n' ∉ (field.javaType options).toList :=
  javaType_of (p := ('\n' ∉ ·.toList)) (by decide) htype.noFeed

include hproperty in
theorem feed_not_mem_copied (options : Options) :
    '\n' ∉ (field.copied options field.property).toList := by
  have hname := feed_not_mem_of_nameChars hproperty
  unfold copied
  split
  · exact hname
  · split <;> simp [hname]

include hproperty htype

theorem feed_not_mem_declaration (h : line ∈ field.declaration options) : '\n' ∉ line.toList := by
  have hname := feed_not_mem_of_nameChars hproperty
  have hjava := feed_not_mem_javaType htype options
  rcases mem_declaration.mp h with
    ⟨-, rfl⟩ | ⟨sequence, -, hsequence⟩ | rfl | ⟨-, rfl⟩ | rfl | rfl
  · decide
  · exact feed_not_mem_sequenceLines hsequence
  · simp [feed_not_mem_columnAttributes field]
  · decide
  · simp [hname, hjava]
  · decide

theorem feed_not_mem_getter (h : line ∈ field.getter options) : '\n' ∉ line.toList := by
  have hname := feed_not_mem_of_nameChars (nameChars_capitalised hproperty)
  have hjava := feed_not_mem_javaType htype options
  have hcopied := feed_not_mem_copied hproperty options
  rcases mem_getter.mp h with ⟨mark, hmark, rfl⟩ | rfl | rfl | rfl | rfl
  · obtain ⟨-, rfl⟩ := nullAnnotation?_eq_some.mp hmark
    split <;> decide
  · unfold getterName
    split <;> simp [hname, hjava]
  · simp [hcopied]
  · decide
  · decide

theorem feed_not_mem_setter (h : line ∈ field.setter options) : '\n' ∉ line.toList := by
  have hname := feed_not_mem_of_nameChars hproperty
  have hcapital := feed_not_mem_of_nameChars (nameChars_capitalised hproperty)
  have hjava := feed_not_mem_javaType htype options
  have hcopied := feed_not_mem_copied hproperty options
  have hparameter : '\n' ∉ (field.parameter options).toList := by
    unfold parameter
    cases hmark : field.nullAnnotation? options with
    | none => simp [hname, hjava]
    | some mark =>
      obtain ⟨-, rfl⟩ := nullAnnotation?_eq_some.mp hmark
      cases field.nullable <;> simp [hname, hjava]
  rcases mem_setter.mp h with rfl | rfl | ⟨-, rfl | rfl | rfl⟩ | rfl | rfl
  · simp [setterName, hcapital, hparameter]
  · simp [hname, hcopied]
  all_goals decide

end Field
end Feeds

namespace Entity

variable {entity : Entity} {options : Options} {line : String}

/-- The lines that the class is put together from, behind its comment. -/
def body (entity : Entity) (options : Options) : List String :=
  entity.opening options ++ (entity.members options).dropLast ++ ["\x7d"]

/-- The lines of the text behind the comment. -/
def classLines (entity : Entity) (options : Options) : List String :=
  textLines (entity.behindComment options)

theorem lines_eq (entity : Entity) (options : Options) :
    entity.lines options = entity.header options ++ entity.body options := by
  rw [lines, body, List.append_assoc, List.append_assoc, List.append_assoc]

theorem mem_members :
    line ∈ entity.members options ↔ line ∈ leadingMembers options ∨
      line ∈ entity.fields.flatMap (·.declaration options) ∨ line ∈ busSetter options ∨
      line ∈ entity.fields.flatMap (entity.accessors options) := by
  simp only [members, List.mem_append, or_assoc]

theorem feed_not_mem_opening (hplain : entity.Plain) (h : line ∈ entity.opening options) :
    '\n' ∉ line.toList := by
  have hclass := feed_not_mem_of_nameChars hplain.className
  rcases mem_opening.mp h with ⟨-, rfl⟩ | rfl | ⟨-, rfl⟩ | rfl | rfl
  · decide
  · decide
  · decide
  · simp [feed_not_mem_literal]
  · split <;> simp [hclass]

theorem feed_not_mem_members (hplain : entity.Plain) (h : line ∈ entity.members options) :
    '\n' ∉ line.toList := by
  rcases mem_members.mp h with hleading | hdeclared | hbus | haccessor
  · rcases mem_leadingMembers.mp hleading with ⟨-, rfl | rfl⟩ | ⟨-, rfl | rfl | rfl⟩ <;> decide
  · obtain ⟨field, hfield, hline⟩ := List.mem_flatMap.mp hdeclared
    exact Field.feed_not_mem_declaration (hplain.property field hfield)
      (hplain.typeName field hfield) hline
  · simp only [busSetter, List.mem_ite_nil_right, List.mem_cons, List.not_mem_nil, or_false] at hbus
    rcases hbus with ⟨-, rfl | rfl | rfl | rfl⟩ <;> decide
  · obtain ⟨field, hfield, hline⟩ := List.mem_flatMap.mp haccessor
    rw [accessors, List.mem_append, List.mem_ite_nil_right] at hline
    rcases hline with hgetter | ⟨-, hsetter⟩
    · exact Field.feed_not_mem_getter (hplain.property field hfield)
        (hplain.typeName field hfield) hgetter
    · exact Field.feed_not_mem_setter (hplain.property field hfield)
        (hplain.typeName field hfield) hsetter

theorem feed_not_mem_body (hplain : entity.Plain) (h : line ∈ entity.body options) :
    '\n' ∉ line.toList := by
  rw [body, List.mem_append, List.mem_append, List.mem_singleton] at h
  rcases h with (hopening | hmembers) | rfl
  · exact feed_not_mem_opening hplain hopening
  · exact feed_not_mem_members hplain ((List.dropLast_sublist _).subset hmembers)
  · decide

theorem flatMap_textLines_body (hplain : entity.Plain) (options : Options) :
    (entity.body options).flatMap textLines = entity.body options :=
  flatMap_textLines fun _ => feed_not_mem_body hplain

/-- The text behind the comment has the lines of the class and no others. The blank one in front is
what is left of the line of the comment, and the one behind stands for the end of the last line. -/
theorem classLines_eq (hplain : entity.Plain) (options : Options) :
    entity.classLines options = "" :: (entity.body options ++ [""]) := by
  have htext : entity.behindComment options = textOf ("" :: entity.body options) := by
    rw [textOf_cons, String.empty_append]
    rfl
  have hblank : textLines "" = [""] := by decide
  rw [classLines, htext, textLines_textOf, List.flatMap_cons, hblank,
    flatMap_textLines_body hplain, List.singleton_append, List.cons_append]

/-- What is not read from lines that begin like those in front of the class is read from the text behind
the comment. -/
theorem filterMap_classLines (hplain : entity.Plain) {α : Type} {read : String → Option α}
    (hblank : read "" = none) {start : List Char}
    (hread : ∀ line, clashes start line.toList = true → read line = none)
    (hheader : ∀ front ∈ Region.header.fronts, clashes start front.toList = true) :
    (entity.classLines options).filterMap read = (entity.lines options).filterMap read := by
  have hnone : (entity.header options).filterMap read = [] :=
    Region.filterMap_eq_nil_of_begins hblank hread hheader fun _ => Region.begins_header
  rw [classLines_eq hplain, lines_eq, List.filterMap_append, hnone, List.nil_append,
    List.filterMap_cons_none hblank, List.filterMap_append, List.filterMap_cons_none hblank,
    List.filterMap_nil, List.append_nil]

end Entity

namespace Region

variable {entity : Entity} {options : Options} {line : String} (hplain : entity.Plain)
include hplain

end Region
end EntityGen
