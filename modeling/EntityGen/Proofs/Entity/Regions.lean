import EntityGen.Entity.Source
import Mathlib.Data.List.Basic

/-!
# Regions of a class source

The lines of a class source stand in regions: the header, the opening of the class, the members in
front of the fields, the declarations of the fields, the setter of the bus, the accessors and the
closing brace. The lines of a region begin in a few ways, so how a line begins tells where it stands.
-/
namespace EntityGen

/-- Two texts have different characters at some place. -/
def clashes : List Char → List Char → Bool
  | a :: as, b :: bs => a != b || clashes as bs
  | _, _ => false

theorem clashes_append {front text : List Char} (h : clashes front text = true) (rest : List Char) :
    clashes front (text ++ rest) = true := by
  induction front generalizing text with
  | nil => cases h
  | cons a as ih =>
    cases text with
    | nil => cases h
    | cons b bs =>
      rw [clashes, Bool.or_eq_true] at h
      rw [List.cons_append, clashes, Bool.or_eq_true]
      exact h.imp_right ih

theorem isPrefixOf_of_clashes {front text : List Char} (h : clashes front text = true) :
    front.isPrefixOf text = false := by
  induction front generalizing text with
  | nil => cases h
  | cons a as ih =>
    cases text with
    | nil => cases h
    | cons b bs =>
      rw [List.isPrefixOf]
      rw [clashes, Bool.or_eq_true, bne_iff_ne] at h
      rcases h with hne | hrest
      · rw [beq_false_of_ne hne, Bool.false_and]
      · rw [ih hrest, Bool.and_false]

theorem toList_prefix_append (front rest : String) : front.toList <+: (front ++ rest).toList := by
  rw [String.toList_append]
  exact List.prefix_append _ _

theorem clashes_mono {start : List Char} {text line : String} (h : clashes start text.toList = true)
    (hline : text.toList <+: line.toList) : clashes start line.toList = true := by
  obtain ⟨rest, hrest⟩ := hline
  rw [← hrest]
  exact clashes_append h rest

theorem ne_append_of_clashes {front line : String} (h : clashes front.toList line.toList = true)
    (rest : String) : line ≠ front ++ rest := by
  rintro rfl
  have hprefix := isPrefixOf_of_clashes h
  rw [List.isPrefixOf_iff_prefix.mpr (toList_prefix_append front rest)] at hprefix
  cases hprefix

theorem append_ne_of_clashes {front start : String} (h : clashes front.toList start.toList = true)
    (rest back : String) : start ++ back ≠ front ++ rest :=
  ne_append_of_clashes (clashes_mono h (toList_prefix_append start back)) rest

/-- A line begins with one of some texts. -/
def Begins (fronts : List String) (line : String) : Prop :=
  ∃ front ∈ fronts, front.toList <+: line.toList

instance (fronts : List String) (line : String) : Decidable (Begins fronts line) :=
  inferInstanceAs (Decidable (∃ front ∈ fronts, front.toList <+: line.toList))

theorem begins_append {fronts : List String} {front : String} (h : Begins fronts front)
    (rest : String) : Begins fronts (front ++ rest) := by
  obtain ⟨first, hm, hfirst⟩ := h
  exact ⟨first, hm, hfirst.trans (toList_prefix_append front rest)⟩

namespace Field

variable {field : Field} {options : Options} {line : String}

theorem mem_declaration :
    line ∈ field.declaration options ↔
      (field.primaryKey = true ∧ line = "    @Id") ∨
      (∃ sequence, field.sequence = some sequence ∧ line ∈ sequenceLines sequence) ∨
      line = "    @Column(" ++ field.columnAttributes ++ ")" ∨
      ((options.fieldEncryption && field.isText) = true ∧ line = "    @Encrypted") ∨
      line = "    private " ++ field.javaType options ++ " " ++ field.property ++ ";" ∨
      line = "" := by
  unfold declaration
  cases field.sequence <;>
    simp only [List.mem_append, List.mem_ite_nil_right, List.mem_cons, List.not_mem_nil, or_false,
      false_or, or_assoc, reduceCtorEq, false_and, exists_false, Option.some.injEq, exists_eq_left']

theorem begins_sequenceLines {sequence : String} (h : line ∈ sequenceLines sequence) :
    Begins ["    @SequenceGenerator(", "    @GeneratedValue("] line := by
  unfold sequenceLines at h
  simp only [List.mem_cons, List.not_mem_nil, or_false] at h
  rcases h with rfl | rfl
  all_goals simp (disch := decide) only [begins_append, String.append_assoc]

theorem mem_getter :
    line ∈ field.getter options ↔
      (∃ mark, field.nullAnnotation? options = some mark ∧ line = "    " ++ mark) ∨
      line = "    public " ++ field.javaType options ++ " " ++ field.getterName options ++ "() \x7b" ∨
      line = "        return " ++ field.copied options field.property ++ ";" ∨
      line = "    \x7d" ∨ line = "" := by
  unfold getter
  simp only [List.mem_append, List.mem_map, Option.mem_toList, List.mem_cons, List.not_mem_nil,
    or_false, eq_comm (a := line)]

theorem nullAnnotation?_eq_some {mark : String} :
    field.nullAnnotation? options = some mark ↔
      (options.nullability = true ∧ field.primitive = false) ∧
        mark = if field.nullable then "@Nullable" else "@Nonnull" := by
  unfold nullAnnotation?
  by_cases hwritten : options.nullability = true ∧ field.primitive = false
  · have hsome : (!options.nullability || field.primitive) = false := by simp [hwritten]
    rw [hsome, if_neg Bool.false_ne_true, Option.some.injEq, eq_comm, and_iff_right hwritten]
  · have hnone : (!options.nullability || field.primitive) = true := by
      revert hwritten
      cases options.nullability <;> cases field.primitive <;> decide
    rw [hnone, if_pos rfl]
    exact iff_of_false nofun fun h => hwritten h.1

theorem mem_setter :
    line ∈ field.setter options ↔
      line = "    public void " ++ field.setterName ++ "(" ++ field.parameter options ++ ") \x7b" ∨
      line = "        this." ++ field.property ++ " = " ++ field.copied options field.property
        ++ ";" ∨
      (options.eventBus = true ∧ (line = "        if (bus != null) \x7b" ∨
        line = "            bus.post(this);" ∨ line = "        \x7d")) ∨
      line = "    \x7d" ∨ line = "" := by
  unfold setter
  simp only [List.mem_append, List.mem_ite_nil_right, List.mem_cons, List.not_mem_nil, or_false,
    or_assoc]

end Field

namespace Entity

variable {entity : Entity} {options : Options} {line : String}

theorem mem_opening :
    line ∈ entity.opening options ↔
      (options.dependencyInjection = true ∧ line = "@Named") ∨ line = "@Entity" ∨
      (entity.kind = .view ∧ line = "@Immutable") ∨
      line = "@Table(name = \"" ++ Identifier.literal entity.sourceName ++ "\")" ∨
      line = "public class " ++ entity.className
        ++ (if options.enterpriseContainer then " implements Serializable" else "") ++ " \x7b" := by
  unfold opening
  simp only [List.mem_append, List.mem_ite_nil_right, List.mem_cons, List.not_mem_nil, or_false,
    or_assoc, beq_iff_eq]

theorem mem_leadingMembers :
    line ∈ leadingMembers options ↔
      (options.enterpriseContainer = true ∧
        (line = "    private static final long serialVersionUID = 1L;" ∨ line = "")) ∨
      (options.eventBus = true ∧
        (line = "    @Transient" ∨ line = "    private Bus bus;" ∨ line = "")) := by
  unfold leadingMembers
  simp only [List.mem_append, List.mem_ite_nil_right, List.mem_cons, List.not_mem_nil, or_false]

end Entity

/-- The last line, if there is one, is blank. -/
def EndsBlank (lines : List String) : Prop := ∀ last ∈ lines.getLast?, last = ""

theorem endsBlank_append {front back : List String} (hfront : EndsBlank front)
    (hback : EndsBlank back) : EndsBlank (front ++ back) := by
  intro last hlast
  rw [List.getLast?_append, Option.mem_def, Option.or_eq_some_iff] at hlast
  exact hlast.elim (hback last) fun h => hfront last h.2

theorem endsBlank_of_getLast? (front : List String) {back : List String}
    (h : back.getLast? = some "") : EndsBlank (front ++ back) := by
  intro last hlast
  rw [List.getLast?_append, h, Option.some_or] at hlast
  exact (Option.some.inj hlast).symm

theorem endsBlank_flatMap {α : Type} {f : α → List String} (items : List α)
    (h : ∀ item, EndsBlank (f item)) : EndsBlank (items.flatMap f) := by
  induction items with
  | nil => exact fun _ hm => nomatch hm
  | cons item rest ih =>
    rw [List.flatMap_cons]
    exact endsBlank_append (h item) ih

theorem Field.endsBlank_declaration (field : Field) (options : Options) :
    EndsBlank (field.declaration options) :=
  endsBlank_of_getLast? _ rfl

theorem Entity.endsBlank_accessors (entity : Entity) (options : Options) (field : Field) :
    EndsBlank (entity.accessors options field) := by
  refine endsBlank_append (endsBlank_of_getLast? _ rfl) ?_
  split
  · exact endsBlank_of_getLast? _ rfl
  · exact fun _ hm => nomatch hm

theorem Entity.endsBlank_members (entity : Entity) (options : Options) :
    EndsBlank (entity.members options) := by
  have hleading : EndsBlank (leadingMembers options) := by
    refine endsBlank_append ?_ ?_ <;> split <;> simp [EndsBlank]
  have hbus : EndsBlank (busSetter options) := by
    unfold busSetter
    split <;> simp [EndsBlank]
  refine endsBlank_append (endsBlank_append (endsBlank_append hleading ?_) hbus) ?_
  · exact endsBlank_flatMap _ fun field => field.endsBlank_declaration options
  · exact endsBlank_flatMap _ fun field => entity.endsBlank_accessors options field

theorem filterMap_dropLast_of_endsBlank {α : Type} {read : String → Option α}
    (hblank : read "" = none) {lines : List String} (h : EndsBlank lines) :
    lines.dropLast.filterMap read = lines.filterMap read := by
  cases hlines : lines.getLast? with
  | none => rw [List.getLast?_eq_none_iff.mp hlines, List.dropLast_nil]
  | some last =>
    obtain rfl := h last hlines
    conv_rhs => rw [← List.dropLast_append_getLast? "" hlines]
    simp [hblank]

/-- Where the lines of a class source stand. -/
inductive Region
  | header | opening | leading | declarations | busSetter | accessors | closing
  deriving DecidableEq

namespace Region

def all : List Region :=
  [header, opening, leading, declarations, busSetter, accessors, closing]

theorem mem_all (region : Region) : region ∈ all := by cases region <;> decide

/-- The lines of a region, the blank line behind the last member included. -/
def lines (entity : Entity) (options : Options) : Region → List String
  | header => entity.header options
  | opening => entity.opening options
  | leading => Entity.leadingMembers options
  | declarations => entity.fields.flatMap (·.declaration options)
  | busSetter => Entity.busSetter options
  | accessors => entity.fields.flatMap (entity.accessors options)
  | closing => ["\x7d"]

/-- The ways in which the lines of a region begin, blank lines apart. -/
def fronts : Region → List String
  | header => ["package ", "import ", "/**", " * Entity for ", " */"]
  | opening => ["@Named", "@Entity", "@Immutable", "@Table(", "public class "]
  | leading => ["    private static ", "    @Transient", "    private Bus "]
  | declarations => ["    @Id", "    @SequenceGenerator(", "    @GeneratedValue(", "    @Column(",
      "    @Encrypted", "    private "]
  | busSetter => ["    public void setBus(", "        this.bus ", "    \x7d"]
  | accessors => ["    @N", "    public ", "        return ", "        this.", "        if ",
      "            bus.", "        \x7d", "    \x7d"]
  | closing => ["\x7d"]

variable {entity : Entity} {options : Options} {line : String}

theorem begins_header (h : line ∈ entity.header options) : line = "" ∨ Begins header.fronts line := by
  unfold Entity.header at h
  simp only [List.mem_append, List.mem_map, List.mem_cons, List.not_mem_nil, or_false] at h
  rcases h with ((rfl | rfl) | ⟨name, -, rfl⟩) | rfl | rfl | rfl | rfl
  all_goals simp (disch := decide) [begins_append, String.append_assoc]
  all_goals decide

theorem begins_opening (h : line ∈ entity.opening options) : Begins opening.fronts line := by
  rcases Entity.mem_opening.mp h with ⟨-, rfl⟩ | rfl | ⟨-, rfl⟩ | rfl | rfl
  · decide
  · decide
  · decide
  · simp (disch := decide) only [begins_append, String.append_assoc]
  · simp (disch := decide) only [begins_append, String.append_assoc]

theorem begins_leading (h : line ∈ Entity.leadingMembers options) :
    line = "" ∨ Begins leading.fronts line := by
  rcases Entity.mem_leadingMembers.mp h with ⟨-, rfl | rfl⟩ | ⟨-, rfl | rfl | rfl⟩
  all_goals decide

theorem begins_declaration {field : Field} (h : line ∈ field.declaration options) :
    line = "" ∨ Begins declarations.fronts line := by
  rcases Field.mem_declaration.mp h with
    ⟨-, rfl⟩ | ⟨sequence, -, hline⟩ | rfl | ⟨-, rfl⟩ | rfl | rfl
  · exact .inr (by decide)
  · obtain ⟨front, hfront, hbegins⟩ := Field.begins_sequenceLines hline
    have hfronts : ∀ front ∈ ["    @SequenceGenerator(", "    @GeneratedValue("],
        front ∈ declarations.fronts := by
      decide
    exact .inr ⟨front, hfronts front hfront, hbegins⟩
  · simp (disch := decide) only [begins_append, String.append_assoc, or_true]
  · exact .inr (by decide)
  · simp (disch := decide) only [begins_append, String.append_assoc, or_true]
  · exact .inl rfl

theorem begins_busSetter (h : line ∈ Entity.busSetter options) :
    line = "" ∨ Begins busSetter.fronts line := by
  unfold Entity.busSetter at h
  simp only [List.mem_ite_nil_right, List.mem_cons, List.not_mem_nil, or_false] at h
  rcases h with ⟨-, rfl | rfl | rfl | rfl⟩
  all_goals decide

theorem begins_getter {field : Field} (h : line ∈ field.getter options) :
    line = "" ∨ Begins accessors.fronts line := by
  rcases Field.mem_getter.mp h with ⟨mark, hmark, rfl⟩ | rfl | rfl | rfl | rfl
  · obtain ⟨-, rfl⟩ := Field.nullAnnotation?_eq_some.mp hmark
    split <;> decide
  · simp (disch := decide) only [begins_append, String.append_assoc, or_true]
  · simp (disch := decide) only [begins_append, String.append_assoc, or_true]
  · exact .inr (by decide)
  · exact .inl rfl

theorem begins_setter {field : Field} (h : line ∈ field.setter options) :
    line = "" ∨ Begins accessors.fronts line := by
  rcases Field.mem_setter.mp h with rfl | rfl | ⟨-, rfl | rfl | rfl⟩ | rfl | rfl
  · simp (disch := decide) only [begins_append, String.append_assoc, or_true]
  · simp (disch := decide) only [begins_append, String.append_assoc, or_true]
  all_goals decide

theorem begins_lines {region : Region} (h : line ∈ region.lines entity options) :
    line = "" ∨ Begins region.fronts line := by
  cases region with
  | header => exact begins_header h
  | opening => exact .inr (begins_opening h)
  | leading => exact begins_leading h
  | declarations =>
    obtain ⟨field, -, hline⟩ := List.mem_flatMap.mp h
    exact begins_declaration hline
  | busSetter => exact begins_busSetter h
  | accessors =>
    obtain ⟨field, -, hline⟩ := List.mem_flatMap.mp h
    rw [Entity.accessors, List.mem_append, List.mem_ite_nil_right] at hline
    exact hline.elim begins_getter fun hsetter => begins_setter hsetter.2
  | closing =>
    obtain rfl := List.mem_singleton.mp h
    decide

/-- What is read from the lines of a source is read from its regions. -/
theorem filterMap_lines {α : Type} {read : String → Option α} (hblank : read "" = none) :
    (entity.lines options).filterMap read =
      all.flatMap fun region => (region.lines entity options).filterMap read := by
  rw [Entity.lines, List.filterMap_append, List.filterMap_append, List.filterMap_append,
    filterMap_dropLast_of_endsBlank hblank (entity.endsBlank_members options), Entity.members]
  simp [all, lines]

theorem flatMap_filter_of_nil {α β : Type} {f : α → List β} {keep : α → Bool} {items : List α}
    (h : ∀ item ∈ items, keep item = false → f item = []) :
    (items.filter keep).flatMap f = items.flatMap f := by
  induction items with
  | nil => rfl
  | cons item rest ih =>
    obtain ⟨hitem, hrest⟩ := List.forall_mem_cons.mp h
    cases hkeep : keep item with
    | true => rw [List.filter_cons_of_pos hkeep, List.flatMap_cons, List.flatMap_cons, ih hrest]
    | false =>
      rw [List.filter_cons_of_neg (by simp [hkeep]), List.flatMap_cons, hitem hkeep, List.nil_append,
        ih hrest]

/-- Nothing is read from lines that all begin in other ways. -/
theorem filterMap_eq_nil_of_begins {α : Type} {read : String → Option α} (hblank : read "" = none)
    {start : List Char} (hread : ∀ line, clashes start line.toList = true → read line = none)
    {fronts lines : List String} (hfronts : ∀ front ∈ fronts, clashes start front.toList = true)
    (hlines : ∀ line ∈ lines, line = "" ∨ Begins fronts line) : lines.filterMap read = [] := by
  refine List.filterMap_eq_nil_iff.mpr fun line hline => ?_
  rcases hlines line hline with rfl | ⟨front, hfront, hbegins⟩
  · exact hblank
  · exact hread line (clashes_mono (hfronts front hfront) hbegins)

/-- What is read only from lines with a certain beginning is read from the regions where lines begin
in this way. -/
theorem filterMap_lines_of_homes {α : Type} {read : String → Option α} (hblank : read "" = none)
    {start : List Char} (hread : ∀ line, clashes start line.toList = true → read line = none)
    (homes : List Region)
    (hother : ∀ region ∈ all, region ∉ homes →
      ∀ front ∈ region.fronts, clashes start front.toList = true) :
    (entity.lines options).filterMap read =
      (all.filter (· ∈ homes)).flatMap fun region =>
        (region.lines entity options).filterMap read := by
  rw [filterMap_lines hblank]
  refine (flatMap_filter_of_nil fun region _ hout => ?_).symm
  have hhome : region ∉ homes := of_decide_eq_false hout
  exact filterMap_eq_nil_of_begins hblank hread (hother region region.mem_all hhome)
    fun _ hline => begins_lines hline

/-- Where lines of one region only begin in this way, this is where it is read. -/
theorem filterMap_lines_eq {α : Type} {read : String → Option α} (hblank : read "" = none)
    {start : List Char} (hread : ∀ line, clashes start line.toList = true → read line = none)
    (home : Region)
    (hother : ∀ region ∈ all, region ≠ home →
      ∀ front ∈ region.fronts, clashes start front.toList = true) :
    (entity.lines options).filterMap read = (home.lines entity options).filterMap read := by
  have hhome : all.filter (· ∈ [home]) = [home] := by cases home <;> decide
  rw [filterMap_lines_of_homes hblank hread [home] fun region hall hout =>
    hother region hall fun heq => hout (List.mem_singleton.mpr heq), hhome]
  exact List.flatMap_singleton _ _

end Region
end EntityGen
