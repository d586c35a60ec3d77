import EntityGen.Proofs.Emission.Execution
import EntityGen.Proofs.Entity.Lines
import EntityGen.Schema.Violation
import Mathlib.Data.List.Infix

/-!
# The comment above a class

The comment of a class source read as Java reads it, up to the first terminator. It names the table or
view and the database as they are declared. So the terminator that is written behind it closes it
exactly when neither name holds one.
-/
namespace EntityGen

/-- What closes a comment. -/
def terminator : List Char := ['*', '/']

/-- The text of a comment up to the first terminator, and what stands behind the terminator. -/
def readComment : List Char → Option (List Char × List Char)
  | [] => none
  | c :: rest =>
    if terminator.isPrefixOf (c :: rest) then some ([], rest.tail)
    else (readComment rest).map fun (text, behind) => (c :: text, behind)

/-- A comment is read up to the terminator behind it exactly when it holds none itself. -/
theorem readComment_eq_iff (text behind : List Char) :
    readComment (text ++ (terminator ++ behind)) = some (text, behind) ↔ ¬terminator <:+: text := by
  induction text with
  | nil => exact iff_of_true rfl (by decide)
  | cons c rest ih =>
    rw [List.cons_append, readComment, List.infix_cons_iff, not_or]
    by_cases hfirst : terminator <+: c :: (rest ++ (terminator ++ behind))
    · -- a terminator that begins here lies in the text: the one behind begins with no slash
      have hin : terminator <+: c :: rest := by
        cases rest with
        | nil => simp [terminator] at hfirst
        | cons d more =>
          rw [terminator, List.cons_append, List.cons_prefix_cons, List.cons_prefix_cons] at hfirst
          rw [terminator, List.cons_prefix_cons, List.cons_prefix_cons]
          exact ⟨hfirst.1, hfirst.2.1, List.nil_prefix⟩
      rw [if_pos (List.isPrefixOf_iff_prefix.mpr hfirst)]
      simp [hin]
    · have hout : ¬terminator <+: c :: rest := fun hin =>
        hfirst (hin.trans (List.prefix_append (c :: rest) (terminator ++ behind)))
      rw [if_neg (List.isPrefixOf_iff_prefix.not.mpr hfirst)]
      simp [hout, ← ih]

/-- A terminator does not come together where two texts meet if the first does not end in a star or
the second does not begin with a slash. -/
theorem terminator_infix_append_iff {text back : List Char}
    (h : text.getLast? ≠ some '*' ∨ back.head? ≠ some '/') :
    terminator <:+: text ++ back ↔ terminator <:+: text ∨ terminator <:+: back := by
  rw [List.infix_append_iff]
  refine ⟨?_, fun hin => hin.imp_right .inl⟩
  rintro (htext | hback | ⟨front, rest, hsplit, hfront, hrest⟩)
  · exact .inl htext
  · exact .inr hback
  · cases front with
    | nil =>
      rw [List.nil_append] at hsplit
      exact .inr (hsplit ▸ hrest).isInfix
    | cons star more =>
      obtain ⟨rfl, htail⟩ := List.cons.inj hsplit
      cases more with
      | nil =>
        -- one character of it on either side
        obtain rfl : ['/'] = rest := htail
        obtain ⟨before, rfl⟩ := hfront
        obtain ⟨behind, rfl⟩ := hrest
        simp at h
      | cons slash others =>
        obtain ⟨rfl, hnone⟩ := List.cons.inj htail
        obtain ⟨rfl, -⟩ := List.append_eq_nil_iff.mp hnone.symm
        exact .inl hfront.isInfix

namespace Entity

/-- The words of the comment hold no terminator and make none with the names that stand between
them. -/
theorem terminator_infix_commentText_iff (entity : Entity) :
    terminator <:+: entity.commentText.toList ↔
      terminator <:+: entity.sourceName.toList ∨ terminator <:+: entity.database.toList := by
  have hwords : entity.commentText.toList =
      ("\n" ++ (" * Entity for " ++ (entity.kind.name ++ " ["))).toList ++
        (entity.sourceName.toList ++ ("] in database [".toList ++
          (entity.database.toList ++ ("]." ++ "\n ").toList))) := by
    unfold commentText commentLine
    simp only [String.toList_append, List.append_assoc]
  have hfront : ¬terminator <:+:
      ("\n" ++ (" * Entity for " ++ (entity.kind.name ++ " ["))).toList := by
    cases entity.kind <;> decide
  have hfrontLast : ("\n" ++ (" * Entity for " ++ (entity.kind.name ++ " ["))).toList.getLast? ≠
      some '*' := by
    cases entity.kind <;> decide
  have hmiddle : ¬terminator <:+: "] in database [".toList := by decide
  have hmiddleLast : "] in database [".toList.getLast? ≠ some '*' := by decide
  have hmiddleHead : ∀ back : List Char, ("] in database [".toList ++ back).head? ≠ some '/' := by
    intro back
    simp
  have hlast : ¬terminator <:+: ("]." ++ "\n ").toList := by decide
  have hlastHead : ("]." ++ "\n ").toList.head? ≠ some '/' := by decide
  rw [hwords, terminator_infix_append_iff (.inl hfrontLast),
    terminator_infix_append_iff (.inr (hmiddleHead _)),
    terminator_infix_append_iff (.inl hmiddleLast), terminator_infix_append_iff (.inr hlastHead),
    or_iff_right hfront, or_iff_right hmiddle, or_iff_left hlast]

end Entity

/-- The source of a class has its comment in front of the annotations, and the comment is read up to
the terminator that is written behind it exactly when it holds no other, which is when neither the
name of the table or view nor the name of the database holds one. -/
theorem comment_closed_iff {schema : Schema} {settings : Settings} {job : Job} {entity : Entity}
    (hjob : job ∈ schema.plan settings) (h : job.describe = .ok entity) (options : Options) :
    entity.source options = entity.beforeComment options ++ "/**" ++
        (entity.commentText ++ ("*/" ++ entity.behindComment options)) ∧
      (readComment (entity.commentText ++ ("*/" ++ entity.behindComment options)).toList =
          some (entity.commentText.toList, (entity.behindComment options).toList) ↔
        ¬terminator <:+: entity.commentText.toList) ∧
      (¬terminator <:+: entity.commentText.toList ↔
        ¬terminator <:+: job.name.toList ∧ ¬terminator <:+: schema.name.toList) := by
  obtain ⟨fields, -, -, rfl⟩ := job.describe_eq_ok h
  have hdatabase : job.database = schema.name := congrArg Schema.name (planFrom_mem hjob).1
  refine ⟨Entity.source_eq _ options, ?_, ?_⟩
  · rw [String.toList_append, String.toList_append]
    exact readComment_eq_iff _ _
  · rw [Entity.terminator_infix_commentText_iff, not_or, hdatabase]

/-- Stars and slashes that stand apart leave the comment open. -/
theorem comment_closed_iff_apart :
    let schema : Schema := ⟨"/d*", none, [], [⟨"a* /b", [⟨"id", .date, true, false, none, none⟩]⟩]⟩
    let settings : Settings := { packageBase := "p" }
    let job := Job.alone "/d*" (.view ⟨"a* /b", [⟨"id", .date, true, false, none, none⟩]⟩) "p"
    let options : Options := { eventBus := true }
    job ∈ schema.plan settings ∧ ∃ entity, job.describe = .ok entity ∧
      readComment (entity.commentText ++ ("*/" ++ entity.behindComment options)).toList =
        some (entity.commentText.toList, (entity.behindComment options).toList) := by
  intro schema settings job options
  have hjob : job ∈ schema.plan settings := by decide +kernel
  obtain ⟨entity, hentity⟩ : ∃ entity, job.describe = .ok entity := ⟨_, rfl⟩
  obtain ⟨-, hread, hnames⟩ := comment_closed_iff hjob hentity options
  refine ⟨hjob, entity, hentity, ?_⟩
  rw [hread, hnames]
  decide +kernel

/-- An accepted schema may have a table whose name closes the comment: what stands behind it in the
name is read as code. -/
theorem comment_closed_early :
    let table : Table := ⟨"a*/b", [⟨"id", .integer, false, false, none, none⟩], []⟩
    let schema : Schema := ⟨"d", none, [table], []⟩
    let settings : Settings := { packageBase := "com.a" }
    let job := Job.alone "d" (.table table) "com.a"
    schema.check = .ok () ∧ job ∈ schema.plan settings ∧ ∃ entity, job.describe = .ok entity ∧
      terminator <:+: entity.commentText.toList ∧
      readComment (entity.commentText ++ ("*/" ++ entity.behindComment {})).toList =
        some ("\n * Entity for table [a".toList,
          ("b] in database [d].\n " ++ ("*/" ++ entity.behindComment {})).toList) := by
  intro table schema settings job
  have haccepted : schema.check = .ok () := by decide +kernel
  have hjob : job ∈ schema.plan settings := by decide +kernel
  obtain ⟨entity, hentity⟩ : ∃ entity, job.describe = .ok entity := ⟨_, rfl⟩
  have htext : entity.commentText =
      "\n * Entity for table [a" ++ ("*/" ++ "b] in database [d].\n ") := by
    have hwords : "\n" ++ (" * Entity for " ++ "table" ++ " [" ++ "a*/b" ++ "] in database [" ++ "d"
        ++ "].") ++ "\n " = "\n * Entity for table [a" ++ ("*/" ++ "b] in database [d].\n ") := by
      decide +kernel
    obtain ⟨fields, -, -, rfl⟩ := job.describe_eq_ok hentity
    exact hwords
  refine ⟨haccepted, hjob, entity, hentity, ?_, ?_⟩
  · rw [htext]
    decide +kernel
  · rw [htext, String.append_assoc, String.append_assoc, String.toList_append,
      String.toList_append (s := "*/")]
    exact (readComment_eq_iff _ _).mpr (by decide +kernel)

end EntityGen
