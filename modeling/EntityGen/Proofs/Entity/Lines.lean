import EntityGen.Entity.Source
import Mathlib.Data.List.Basic

/-!
# Lines of the text of a class source

The lines of a text are what its line feeds separate, so a name of the schema that holds a line feed
makes two lines. The text of a class source has the package and the imports in front, then the comment,
and behind the comment the class.
-/
namespace EntityGen

/-- The text of lines. -/
def textOf (lines : List String) : String := String.join (lines.map (· ++ "\n"))

theorem textOf_nil : textOf [] = "" := rfl

theorem textOf_append (front back : List String) :
    textOf (front ++ back) = textOf front ++ textOf back := by
  rw [textOf, List.map_append, String.join_append, textOf, textOf]

theorem textOf_cons (line : String) (rest : List String) :
    textOf (line :: rest) = line ++ ("\n" ++ textOf rest) := by
  rw [textOf, List.map_cons, String.join_cons, String.append_assoc, textOf]

/-- The lines of a text. -/
def textLines (text : String) : List String := (text.toList.splitOn '\n').map String.ofList

theorem textLines_of_not_mem {line : String} (h : '\n' ∉ line.toList) : textLines line = [line] := by
  rw [textLines, List.splitOn_eq_singleton h, List.map_singleton, String.ofList_toList]

theorem textLines_textOf (lines : List String) :
    textLines (textOf lines) = lines.flatMap textLines ++ [""] := by
  induction lines with
  | nil => rfl
  | cons line rest ih =>
    have htext : (textOf (line :: rest)).toList =
        line.toList ++ '\n' :: (textOf rest).toList := by
      rw [textOf_cons, String.toList_append, String.toList_append]
      rfl
    rw [textLines, htext, List.splitOn_append_cons_self, List.map_append, List.flatMap_cons,
      List.append_assoc, ← ih, textLines, textLines]

theorem flatMap_textLines {lines : List String} (h : ∀ line ∈ lines, '\n' ∉ line.toList) :
    lines.flatMap textLines = lines := by
  induction lines with
  | nil => rfl
  | cons line rest ih =>
    obtain ⟨hline, hrest⟩ := List.forall_mem_cons.mp h
    rw [List.flatMap_cons, textLines_of_not_mem hline, ih hrest, List.singleton_append]

section Beginnings

variable {feed c : Char} {front text back : List Char}

end Beginnings

namespace Entity

/-- The line of the comment that says what the class is for. -/
def commentLine (entity : Entity) : String :=
  " * Entity for " ++ entity.kind.name ++ " [" ++ entity.sourceName ++ "] in database ["
    ++ entity.database ++ "]."

/-- The text between the opening of the comment and the terminator that is written behind it. -/
def commentText (entity : Entity) : String := "\n" ++ entity.commentLine ++ "\n "

/-- What stands in front of the comment: the package and the imports. -/
def beforeComment (entity : Entity) (options : Options) : String :=
  textOf (["package " ++ entity.packageName ++ ";", ""]
    ++ (entity.imports options).map (fun name => "import " ++ name ++ ";") ++ [""])

/-- What stands behind the comment: the annotations of the class and the class. -/
def behindComment (entity : Entity) (options : Options) : String :=
  "\n" ++ textOf (entity.opening options ++ (entity.members options).dropLast ++ ["\x7d"])

theorem header_eq (entity : Entity) (options : Options) :
    entity.header options =
      ["package " ++ entity.packageName ++ ";", ""]
        ++ (entity.imports options).map (fun name => "import " ++ name ++ ";")
        ++ ([""] ++ ["/**", entity.commentLine, " */"]) := rfl

theorem source_eq (entity : Entity) (options : Options) :
    entity.source options = entity.beforeComment options ++ "/**" ++
      (entity.commentText ++ ("*/" ++ entity.behindComment options)) := by
  have hclosing : " */" = " " ++ "*/" := by decide
  have hmargin : "\n " = "\n" ++ " " := by decide
  have hsource : entity.source options = textOf (entity.lines options) := rfl
  rw [hsource, lines, header_eq, beforeComment, behindComment, commentText, hmargin]
  simp only [List.append_assoc, textOf_append, textOf_cons, textOf_nil, hclosing,
    String.append_assoc, String.empty_append]

end Entity
end EntityGen
