import EntityGen.Proofs.Entity.ClassLines

/-!
# Sequence generators of a class

The names of sequence generators read back from the lines of a class source. They are the sequences of
the fields, in the order of the fields and as they were declared.
-/
namespace EntityGen

open Identifier

/-- How a line begins that declares a sequence generator. -/
def generatorFront : List Char := "    @SequenceGenerator(name = \"".toList

/-- The name of the sequence generator that a line declares. -/
def generatorName? (line : String) : Option String :=
  if generatorFront.isPrefixOf line.toList then
    (readLiteral (line.toList.drop generatorFront.length)).map fun read => String.ofList read.1
  else none

/-- The names of the sequence generators that the source of a class declares. -/
def Entity.generatorNames (entity : Entity) (options : Options) : List String :=
  (entity.lines options).filterMap generatorName?

theorem generatorName?_eq_none {line : String} (h : clashes generatorFront line.toList = true) :
    generatorName? line = none := by
  rw [generatorName?, isPrefixOf_of_clashes h, if_neg Bool.false_ne_true]

theorem generatorName?_append {front : String} (h : clashes generatorFront front.toList = true)
    (rest : String) : generatorName? (front ++ rest) = none :=
  generatorName?_eq_none (clashes_mono h (toList_prefix_append front rest))

theorem generatorName?_empty : generatorName? "" = none := rfl

/-- Lines that declare no generator. -/
def Quiet (lines : List String) : Prop := ∀ line ∈ lines, generatorName? line = none

theorem filterMap_of_quiet {lines : List String} (h : Quiet lines) :
    lines.filterMap generatorName? = [] :=
  List.filterMap_eq_nil_iff.mpr h

namespace Field

theorem generatorName?_sequence (sequence behind : String) :
    generatorName? ("    @SequenceGenerator(name = \"" ++ (literal sequence ++ ("\"" ++ behind))) =
      some sequence := by
  have hquote : "\"".toList = ['"'] := by decide
  have hname : (literal sequence).toList = literalChars sequence.toList := String.toList_ofList
  have hline : ("    @SequenceGenerator(name = \"" ++
      (literal sequence ++ ("\"" ++ behind))).toList =
        generatorFront ++ (literalChars sequence.toList ++ '"' :: behind.toList) := by
    rw [String.toList_append, String.toList_append, String.toList_append, hquote, hname]
    rfl
  have hfront : generatorFront.isPrefixOf
      (generatorFront ++ (literalChars sequence.toList ++ '"' :: behind.toList)) = true :=
    List.isPrefixOf_iff_prefix.mpr (List.prefix_append _ _)
  rw [generatorName?, hline, if_pos hfront, List.drop_left, readLiteral_literalChars,
    Option.map_some, String.ofList_toList]

/-- The first line of a sequence's annotations names it, and the second line declares nothing. -/
theorem sequenceLines_generatorNames (sequence : String) :
    (sequenceLines sequence).filterMap generatorName? = [sequence] := by
  have hquote : "\", sequenceName = \"" = "\"" ++ ", sequenceName = \"" := by decide
  have hvalue : Quiet ["    @GeneratedValue(strategy = GenerationType.SEQUENCE, generator = \"" ++
      literal sequence ++ "\")"] := by
    simp (disch := decide) [Quiet, generatorName?_append, String.append_assoc]
  rw [sequenceLines, hquote]
  simp only [String.append_assoc] at hvalue ⊢
  rw [List.filterMap_cons, generatorName?_sequence, filterMap_of_quiet hvalue]

/-- The lines of a field declare its sequence. -/
theorem declaration_generatorNames (field : Field) (options : Options) :
    (field.declaration options).filterMap generatorName? = field.sequence.toList := by
  have hid : Quiet (if field.primaryKey then ["    @Id"] else []) := by
    split <;> simp (disch := decide) [Quiet, generatorName?_eq_none]
  have hcolumn : Quiet ["    @Column(" ++ field.columnAttributes ++ ")"] := by
    simp (disch := decide) [Quiet, generatorName?_append, String.append_assoc]
  have hencrypted : Quiet (if options.fieldEncryption && field.isText then ["    @Encrypted"] else []) := by
    split <;> simp (disch := decide) [Quiet, generatorName?_eq_none]
  have hprivate : Quiet
      ["    private " ++ field.javaType options ++ " " ++ field.property ++ ";", ""] := by
    simp (disch := decide) [Quiet, generatorName?_append, String.append_assoc, generatorName?_empty]
  rw [declaration]
  simp only [List.filterMap_append, filterMap_of_quiet hid, filterMap_of_quiet hcolumn,
    filterMap_of_quiet hencrypted, filterMap_of_quiet hprivate, List.append_nil, List.nil_append]
  cases field.sequence with
  | none => rfl
  | some sequence => exact sequenceLines_generatorNames sequence

end Field

namespace Entity

/-- The source of a class declares the sequences of its fields. -/
theorem generatorNames_eq (entity : Entity) (options : Options) :
    entity.generatorNames options = entity.fields.filterMap (·.sequence) := by
  have hdeclared : entity.generatorNames options =
      (entity.fields.flatMap (·.declaration options)).filterMap generatorName? :=
    Region.filterMap_lines_eq rfl (fun _ => generatorName?_eq_none) .declarations (by decide +kernel)
  rw [hdeclared, List.filterMap_flatMap, List.filterMap_eq_flatMap_toList]
  exact List.flatMap_congr fun field _ => field.declaration_generatorNames options

/-- The generators are those that the text behind the comment declares. -/
theorem generatorNames_eq_text {entity : Entity} (hplain : entity.Plain) (options : Options) :
    entity.generatorNames options = (entity.classLines options).filterMap generatorName? :=
  (filterMap_classLines hplain rfl (fun _ => generatorName?_eq_none) (by decide)).symm

end Entity
end EntityGen
