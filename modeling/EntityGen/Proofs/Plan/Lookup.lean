import EntityGen.Proofs.Plan.Collision

/-!
# Lookup and the plan

Lookup takes the first table or view whose name is the one asked for up to the case of ASCII
letters, so a later one of the same letters is hidden. What is left of a name without separators and
case does not see the case of its letters either: the class of a hidden entity is taken, and its job
fails. An entity whose job is not marked is therefore the one that lookup finds.
-/
namespace EntityGen

open EntityGen.Text

namespace Identifier

/-- What is left of a name can be taken after its letters are small. -/
theorem folded_eq_filter (name : String) :
    folded name = (name.toList.map asciiLower).filter isAlphanumeric := by
  have hword : isAlphanumeric ∘ asciiLower = isAlphanumeric :=
    funext fun c => isAlphanumeric_asciiLower c
  rw [List.filter_map, hword, folded]

theorem folded_eq_of_eqIgnoringAsciiCase {a b : String} (h : eqIgnoringAsciiCase a b = true) :
    folded a = folded b := by
  have hletters : a.toList.map asciiLower = b.toList.map asciiLower := eq_of_beq h
  rw [folded_eq_filter, folded_eq_filter, hletters]

end Identifier

section
variable {α : Type}

/-- An earlier item of a list has the name of the one at a place, up to the case of ASCII letters. -/
def Hidden (name : α → String) (items : List α) (place : Nat) : Prop :=
  ∃ item, items[place]? = some item ∧ ∃ earlier < place, ∃ other, items[earlier]? = some other ∧
    eqIgnoringAsciiCase (name other) (name item) = true

variable {name : α → String} {items : List α} {place : Nat} {item : α}

/-- The first match of a name that means an item is the item itself unless it is hidden. -/
theorem find_of_not_hidden (hitem : items[place]? = some item) (h : ¬Hidden name items place)
    {asked : String} (hasked : eqIgnoringAsciiCase (name item) asked = true) :
    items.findIdx? (fun other => eqIgnoringAsciiCase (name other) asked) = some place ∧
      items.find? (fun other => eqIgnoringAsciiCase (name other) asked) = some item := by
  obtain ⟨hplace, rfl⟩ := List.getElem?_eq_some_iff.mp hitem
  have hletters : (name items[place]).toList.map asciiLower = asked.toList.map asciiLower :=
    eq_of_beq hasked
  have hbefore : ∀ earlier (he : earlier < place),
      ¬eqIgnoringAsciiCase (name items[earlier]) asked = true := by
    intro earlier he hmatch
    have hsame : eqIgnoringAsciiCase (name items[earlier]) (name items[place]) = true := by
      rw [eqIgnoringAsciiCase, beq_iff_eq, hletters]
      exact eq_of_beq hmatch
    exact h ⟨_, hitem, earlier, he, _, List.getElem?_eq_getElem _, hsame⟩
  constructor
  · exact List.findIdx?_eq_some_iff_getElem.mpr ⟨hplace, hasked, hbefore⟩
  · rw [List.find?_eq_some_iff_getElem]
    refine ⟨hasked, place, hplace, rfl, ?_⟩
    intro earlier he
    simpa using hbefore earlier he

end

namespace Schema

section
variable {schema : Schema} {settings : Settings}

/-- The job of a source stands in the plan where the source stands. -/
theorem exists_job (settings : Settings) {place : Nat} {source : Source}
    (h : schema.sources[place]? = some source) :
    ∃ job, (schema.plan settings)[place]? = some job ∧ job.source = source := by
  rw [← schema.plan_source settings, List.getElem?_map, Option.map_eq_some_iff] at h
  exact h

/-- A job is marked when an earlier source has its name up to the case of ASCII letters. -/
theorem marked_of_hidden (hnames : ∀ source ∈ schema.sources, IsAscii source.name)
    (hpackage : IsAscii settings.packageBase) {place : Nat} {job : Job}
    (hjob : (schema.plan settings)[place]? = some job)
    (hhidden : Hidden Source.name schema.sources place) :
    ∃ owner, job.collidesWith = some owner := by
  obtain ⟨source, hsource, earlier, hearlier, other, hother, hname⟩ := hhidden
  obtain ⟨same, hsame, rfl⟩ := exists_job settings hsource
  obtain rfl : same = job := Option.some.inj (hsame.symm.trans hjob)
  obtain ⟨first, hfirst, rfl⟩ := exists_job settings hother
  obtain ⟨hplace, hget⟩ := List.getElem?_eq_some_iff.mp hjob
  have hplan : schema.plan settings =
      (schema.plan settings).take place ++ same :: (schema.plan settings).drop (place + 1) := by
    rw [← hget, List.getElem_cons_drop, List.take_append_drop]
  have hbefore : first ∈ (schema.plan settings).take place :=
    List.mem_of_getElem? ((List.getElem?_take_of_lt hearlier).trans hfirst)
  have hleft : Identifier.folded first.name = Identifier.folded same.name :=
    Identifier.folded_eq_of_eqIgnoringAsciiCase hname
  rw [plan_collidesWith_of_ascii hnames hpackage hplan, ← Option.isSome_iff_exists,
    Option.isSome_map, List.find?_isSome]
  exact ⟨first, hbefore, beq_iff_eq.mpr hleft⟩

/-- One kind of entities, which stand in the sources behind `offset` others: the job of an item that
is hidden fails, and an item whose job is not marked is found. -/
theorem found_unless_marked (hnames : ∀ source ∈ schema.sources, IsAscii source.name)
    (hpackage : IsAscii settings.packageBase) {α : Type} {name : α → String} {wrap : α → Source}
    {items : List α} {offset : Nat} (hwrap : ∀ item, (wrap item).name = name item)
    (hin : ∀ place item, items[place]? = some item →
      schema.sources[offset + place]? = some (wrap item)) {place : Nat} {item : α}
    (hitem : items[place]? = some item) :
    ∃ job, (schema.plan settings)[offset + place]? = some job ∧ job.source = wrap item ∧
      (job.collidesWith = none → ∀ asked, eqIgnoringAsciiCase (name item) asked = true →
        items.findIdx? (fun other => eqIgnoringAsciiCase (name other) asked) = some place ∧
          items.find? (fun other => eqIgnoringAsciiCase (name other) asked) = some item) ∧
      (Hidden name items place → ∃ owner, ∀ {m : Type → Type} [Monad m]
        (factory : EmitterFactory m) (options : Options),
          job.execute factory options = pure (.failed (job.classTaken owner), false)) := by
  obtain ⟨job, hjob, hsource⟩ := exists_job settings (hin place item hitem)
  have hmarked : Hidden name items place → ∃ owner, job.collidesWith = some owner := by
    rintro ⟨one, hone, earlier, hearlier, other, hother, hsame⟩
    refine marked_of_hidden hnames hpackage hjob
      ⟨wrap one, hin place one hone, offset + earlier, by omega, wrap other,
        hin earlier other hother, ?_⟩
    rw [hwrap, hwrap]
    exact hsame
  refine ⟨job, hjob, hsource, ?_, ?_⟩
  · intro hfree asked hasked
    refine find_of_not_hidden hitem ?_ hasked
    intro hhidden
    obtain ⟨owner, howner⟩ := hmarked hhidden
    exact absurd (hfree.symm.trans howner) (fun h => nomatch h)
  · intro hhidden
    obtain ⟨owner, howner⟩ := hmarked hhidden
    exact ⟨owner, fun factory options => Job.execute_of_collidesWith howner factory options⟩

end

/-- When the names of tables and views are ASCII and so is the package, a table whose job is not
marked is the one that lookup answers for its name, however the letters are written, and a table
that an earlier one hides has a job that fails with every emitter. The same holds of views. Nothing
of this needs the schema to be accepted. -/
theorem lookup_finds_unmarked (schema : Schema) (settings : Settings)
    (hnames : ∀ source ∈ schema.sources, IsAscii source.name)
    (hpackage : IsAscii settings.packageBase) :
    (∀ place table, schema.tables[place]? = some table →
      ∃ job, (schema.plan settings)[place]? = some job ∧ job.source = .table table ∧
        (job.collidesWith = none → ∀ asked, eqIgnoringAsciiCase table.name asked = true →
          schema.tableIndex? asked = some place ∧ schema.findTable? asked = some table) ∧
        (Hidden Table.name schema.tables place → ∃ owner, ∀ {m : Type → Type} [Monad m]
          (factory : EmitterFactory m) (options : Options),
            job.execute factory options = pure (.failed (job.classTaken owner), false))) ∧
    (∀ place view, schema.views[place]? = some view →
      ∃ job, (schema.plan settings)[schema.tables.length + place]? = some job ∧
        job.source = .view view ∧
        (job.collidesWith = none → ∀ asked, eqIgnoringAsciiCase view.name asked = true →
          schema.viewIndex? asked = some place ∧ schema.findView? asked = some view) ∧
        (Hidden View.name schema.views place → ∃ owner, ∀ {m : Type → Type} [Monad m]
          (factory : EmitterFactory m) (options : Options),
            job.execute factory options = pure (.failed (job.classTaken owner), false))) := by
  have htable : ∀ place table, schema.tables[place]? = some table →
      schema.sources[0 + place]? = some (.table table) := by
    intro place table h
    have hlt : place < (schema.tables.map Source.table).length := by
      rw [List.length_map]
      exact (List.getElem?_eq_some_iff.mp h).1
    rw [sources, Nat.zero_add, List.getElem?_append_left hlt, List.getElem?_map, h]
    rfl
  have hview : ∀ place view, schema.views[place]? = some view →
      schema.sources[schema.tables.length + place]? = some (.view view) := by
    intro place view h
    have hle : (schema.tables.map Source.table).length ≤ schema.tables.length + place := by
      rw [List.length_map]
      exact Nat.le_add_right _ _
    rw [sources, List.getElem?_append_right hle, List.length_map, Nat.add_sub_cancel_left,
      List.getElem?_map, h]
    rfl
  constructor
  · intro place table h
    have hfound := found_unless_marked hnames hpackage (fun _ => rfl) htable h
    rwa [Nat.zero_add] at hfound
  · intro place view h
    exact found_unless_marked hnames hpackage (fun _ => rfl) hview h

namespace Letters

/-- Two tables that differ in the case of letters only, and a view of another name. -/
def schema : Schema where
  name := "letters"
  postScript := none
  tables := [⟨"stock_item", [], []⟩, ⟨"STOCK_ITEM", [], []⟩]
  views := [⟨"stock", []⟩]

def settings : Settings where
  packageBase := "org.letters"

end Letters

/-- The first table is found by either spelling, and the second one is not generated. -/
theorem lookup_finds_unmarked_letters :
    (∀ source ∈ Letters.schema.sources, IsAscii source.name) ∧
      IsAscii Letters.settings.packageBase ∧
      Letters.schema.findTable? "Stock_Item" = some ⟨"stock_item", [], []⟩ ∧
      ∃ job owner, (Letters.schema.plan Letters.settings)[1]? = some job ∧
        job.name = "STOCK_ITEM" ∧ ((job.execute (sourceEmitters memorySink) {}).run []).1.1 =
          .failed (job.classTaken owner) := by
  have hnames : ∀ source ∈ Letters.schema.sources, IsAscii source.name := by decide
  have hpackage : IsAscii Letters.settings.packageBase := by decide
  obtain ⟨htables, -⟩ := lookup_finds_unmarked Letters.schema Letters.settings hnames hpackage
  obtain ⟨first, hfirst, -, hfound, -⟩ := htables 0 _ rfl
  obtain ⟨second, hsecond, hsource, -, hfails⟩ := htables 1 _ rfl
  -- nothing is planned before the first job, so no owner is there to mark it
  have hfree : first.collidesWith = none := by
    obtain rfl := Option.some.inj hfirst
    rfl
  have hhidden : Hidden Table.name Letters.schema.tables 1 :=
    ⟨_, rfl, 0, by decide, _, rfl, by decide⟩
  obtain ⟨owner, howner⟩ := hfails hhidden
  refine ⟨hnames, hpackage, (hfound hfree "Stock_Item" (by decide)).2, second, owner, hsecond, ?_,
    ?_⟩
  · rw [Job.name, hsource]
    rfl
  · rw [howner]
    rfl

end Schema
end EntityGen
