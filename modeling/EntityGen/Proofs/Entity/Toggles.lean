import EntityGen.Proofs.Entity.Imports

/-!
# Toggles

Three options only add lines to a class source. Switching any of them on leaves every line in its
place and in its order, and each line that comes in between is one of the lines of a toggle that was
switched on. The lines are those of the text: a name of the schema that holds a line feed makes two.
-/
namespace EntityGen

/-- Options that only add lines. -/
inductive Toggle
  | dependencyInjection | fieldEncryption | eventBus
  deriving DecidableEq

namespace Toggle

def isOn (options : Options) : Toggle → Bool
  | dependencyInjection => options.dependencyInjection
  | fieldEncryption => options.fieldEncryption
  | eventBus => options.eventBus

/-- The lines that belong to a toggle. Only the members of the bus bring blank lines with them. -/
def lines : Toggle → List String
  | dependencyInjection => ["import javax.inject.Named;", "@Named"]
  | fieldEncryption => ["import org.schemagen.annotations.Encrypted;", "    @Encrypted"]
  | eventBus =>
    ["import com.squareup.otto.Bus;", "    @Transient", "    private Bus bus;",
      "    public void setBus(Bus bus) \x7b", "        this.bus = bus;", "    \x7d",
      "        if (bus != null) \x7b", "            bus.post(this);", "        \x7d", ""]

theorem newline_not_mem_lines : ∀ toggle : Toggle, ∀ line ∈ toggle.lines, '\n' ∉ line.toList := by
  intro toggle
  cases toggle <;> decide +kernel

end Toggle

/-- The options with some toggles on, or off, and everything else as it is. -/
def Options.switch (options : Options) (toggles : List Toggle) (on : Bool) : Options :=
  { options with
    dependencyInjection :=
      if .dependencyInjection ∈ toggles then on else options.dependencyInjection
    fieldEncryption := if .fieldEncryption ∈ toggles then on else options.fieldEncryption
    eventBus := if .eventBus ∈ toggles then on else options.eventBus }

theorem Toggle.isOn_switch (toggle : Toggle) (options : Options) (toggles : List Toggle) (on : Bool) :
    toggle.isOn (options.switch toggles on) =
      if toggle ∈ toggles then on else toggle.isOn options := by
  cases toggle <;> rfl

/-- A list of lines comes from another one by putting lines of a certain kind in. -/
inductive Inserts (own : String → Prop) : List String → List String → Prop
  | nil : Inserts own [] []
  | keep (line : String) {before after : List String} (h : Inserts own before after) :
      Inserts own (line :: before) (line :: after)
  | insert {line : String} {before after : List String} (hline : own line)
      (h : Inserts own before after) : Inserts own before (line :: after)

namespace Inserts

variable {own : String → Prop} {before after : List String}

theorem refl (lines : List String) : Inserts own lines lines := by
  induction lines with
  | nil => exact .nil
  | cons line rest ih => exact .keep line ih

theorem sublist (h : Inserts own before after) : before.Sublist after := by
  induction h with
  | nil => exact .slnil
  | keep line _ ih => exact ih.cons_cons line
  | insert _ _ ih => exact ih.cons _

theorem of_forall (h : ∀ line ∈ after, own line) : Inserts own [] after := by
  induction after with
  | nil => exact .nil
  | cons line rest ih =>
    obtain ⟨hline, hrest⟩ := List.forall_mem_cons.mp h
    exact .insert hline (ih hrest)

theorem append {before' after' : List String} (h : Inserts own before after)
    (h' : Inserts own before' after') : Inserts own (before ++ before') (after ++ after') := by
  induction h with
  | nil => exact h'
  | keep line _ ih => exact .keep line ih
  | insert hline _ ih => exact .insert hline ih

theorem behind (front : List String) (h : Inserts own before after) :
    Inserts own (front ++ before) (front ++ after) :=
  (refl front).append h

theorem ahead (h : Inserts own before after) (back : List String) :
    Inserts own (before ++ back) (after ++ back) :=
  h.append (refl back)

theorem flatMap {α : Type} {f g : α → List String} (h : ∀ item, Inserts own (f item) (g item))
    (items : List α) : Inserts own (items.flatMap f) (items.flatMap g) := by
  induction items with
  | nil => exact .nil
  | cons item rest ih =>
    rw [List.flatMap_cons, List.flatMap_cons]
    exact (h item).append ih

/-- A line that is kept may as well have been put in, if it is of the kind. -/
theorem of_cons {line : String} (hline : own line) (h : Inserts own (line :: before) after) :
    Inserts own before after := by
  generalize hfirst : line :: before = first at h
  induction h with
  | nil => cases hfirst
  | keep other h _ =>
    obtain ⟨rfl, rfl⟩ := List.cons.inj hfirst
    exact .insert hline h
  | insert hother _ ih => exact .insert hother (ih hfirst)

theorem of_cons_cons {line : String} (h : Inserts own (line :: before) (line :: after)) :
    Inserts own before after := by
  cases h with
  | keep _ h => exact h
  | insert hline h => exact h.of_cons hline

theorem reverse (h : Inserts own before after) : Inserts own before.reverse after.reverse := by
  induction h with
  | nil => exact .nil
  | keep line _ ih =>
    rw [List.reverse_cons, List.reverse_cons]
    exact ih.ahead [line]
  | @insert line _ _ hline _ ih =>
    rw [List.reverse_cons, ← List.append_nil (List.reverse _)]
    exact ih.append (of_forall (List.forall_mem_singleton.mpr hline))

theorem own_of_nil (h : Inserts own [] after) : ∀ line ∈ after, own line := by
  generalize hnone : [] = before at h
  induction h with
  | nil => exact List.forall_mem_nil _
  | keep => cases hnone
  | insert hline _ ih => exact List.forall_mem_cons.mpr ⟨hline, ih hnone⟩

/-- The blank line behind the last member is left out on both sides. Without members there is none
before, and the one after was put in. -/
theorem dropLast (h : Inserts own before after) (hbefore : EndsBlank before)
    (hafter : EndsBlank after) : Inserts own before.dropLast after.dropLast := by
  rcases List.eq_nil_or_concat before with rfl | ⟨front, last, rfl⟩
  · exact of_forall fun line hline => h.own_of_nil line (List.mem_of_mem_dropLast hline)
  · rcases List.eq_nil_or_concat after with rfl | ⟨front', last', rfl⟩
    · simpa using h.sublist
    · have hlast : last = "" := hbefore last (by simp)
      have hlast' : last' = "" := hafter last' (by simp)
      have hreversed := h.reverse
      rw [List.concat_eq_append, List.concat_eq_append, List.reverse_concat, List.reverse_concat,
        hlast, hlast'] at hreversed
      have hfronts := hreversed.of_cons_cons.reverse
      rw [List.reverse_reverse, List.reverse_reverse] at hfronts
      simpa using hfronts

theorem map {kind : String → Prop} (h : Inserts kind before after) (f : String → String)
    (hf : ∀ line, kind line → own (f line)) : Inserts own (before.map f) (after.map f) := by
  induction h with
  | nil => exact .nil
  | keep line _ ih => exact .keep (f line) ih
  | insert hline _ ih => exact .insert (hf _ hline) ih

/-- An ascending list comes from an ascending part of it by putting in the rest. -/
theorem of_ascending (hbefore : before.Pairwise (· < ·)) (hafter : after.Pairwise (· < ·))
    (hkept : before ⊆ after) (hnew : ∀ text ∈ after, text ∉ before → own text) :
    Inserts own before after := by
  induction after generalizing before with
  | nil =>
    rw [List.subset_nil.mp hkept]
    exact .nil
  | cons first rest ih =>
    obtain ⟨hfirst, hrest⟩ := List.pairwise_cons.mp hafter
    by_cases hm : first ∈ before
    · -- nothing in the part comes before `first`, so the part begins with it
      cases before with
      | nil => cases hm
      | cons head others =>
        obtain ⟨hhead, hothers⟩ := List.pairwise_cons.mp hbefore
        obtain rfl : first = head := by
          rcases List.mem_cons.mp hm with rfl | hlater
          · rfl
          · rcases List.mem_cons.mp (hkept List.mem_cons_self) with rfl | habove
            · rfl
            · exact absurd (String.lt_trans (hhead first hlater) (hfirst head habove))
                (String.lt_irrefl head)
        refine .keep first (ih hothers hrest ?_ ?_)
        · intro text htext
          refine (List.mem_cons.mp (hkept (List.mem_cons_of_mem first htext))).resolve_left ?_
          rintro rfl
          exact String.lt_irrefl text (hhead text htext)
        · intro text htext hout
          refine hnew text (List.mem_cons_of_mem first htext) ?_
          rw [List.mem_cons, not_or]
          refine ⟨?_, hout⟩
          rintro rfl
          exact String.lt_irrefl text (hfirst text htext)
    · refine .insert (hnew first List.mem_cons_self hm) (ih hbefore hrest ?_ ?_)
      · intro text htext
        refine (List.mem_cons.mp (hkept htext)).resolve_left ?_
        rintro rfl
        exact hm htext
      · exact fun text htext => hnew text (List.mem_cons_of_mem first htext)

end Inserts

theorem Inserts.textLines {own : String → Prop} {before after : List String}
    (h : Inserts own before after) (hown : ∀ line, own line → '\n' ∉ line.toList) :
    Inserts own (textLines (textOf before)) (EntityGen.textLines (textOf after)) := by
  rw [textLines_textOf, textLines_textOf]
  refine Inserts.ahead ?_ [""]
  induction h with
  | nil => exact .nil
  | keep line _ ih =>
    rw [List.flatMap_cons, List.flatMap_cons]
    exact ih.behind (EntityGen.textLines line)
  | @insert line _ _ hline _ ih =>
    rw [List.flatMap_cons, textLines_of_not_mem (hown line hline)]
    exact .insert hline ih

section
variable {toggles : List Toggle} {options : Options}

/-- A line of a toggle that is switched. -/
def Toggle.Added (toggles : List Toggle) (line : String) : Prop :=
  ∃ toggle ∈ toggles, line ∈ toggle.lines

/-- Lines that a toggle decides on. -/
theorem inserts_decided (toggle : Toggle) {block : List String} (hblock : block ⊆ toggle.lines) :
    Inserts (Toggle.Added toggles)
      (if toggle.isOn (options.switch toggles false) = true then block else [])
      (if toggle.isOn (options.switch toggles true) = true then block else []) := by
  rw [toggle.isOn_switch, toggle.isOn_switch]
  by_cases hm : toggle ∈ toggles
  · rw [if_pos hm, if_pos hm, if_neg Bool.false_ne_true, if_pos rfl]
    exact .of_forall fun line hline => ⟨toggle, hm, hblock hline⟩
  · rw [if_neg hm, if_neg hm]
    exact .refl _

theorem inserts_declaration (field : Field) :
    Inserts (Toggle.Added toggles) (field.declaration (options.switch toggles false))
      (field.declaration (options.switch toggles true)) := by
  have hencrypted : ∀ on, (if ((options.switch toggles on).fieldEncryption && field.isText) = true
      then ["    @Encrypted"] else []) =
        if Toggle.isOn (options.switch toggles on) .fieldEncryption = true then
          if field.isText = true then ["    @Encrypted"] else [] else [] := by
    intro on
    cases h : (options.switch toggles on).fieldEncryption <;> simp [Toggle.isOn, h]
  unfold Field.declaration
  rw [hencrypted, hencrypted]
  refine .append (.behind _ (inserts_decided .fieldEncryption ?_)) (.refl _)
  split <;> decide

theorem inserts_accessors (entity : Entity) (field : Field) :
    Inserts (Toggle.Added toggles) (entity.accessors (options.switch toggles false) field)
      (entity.accessors (options.switch toggles true) field) := by
  have hsetter : Inserts (Toggle.Added toggles) (field.setter (options.switch toggles false))
      (field.setter (options.switch toggles true)) :=
    .ahead (.behind _ (inserts_decided .eventBus (by decide))) _
  unfold Entity.accessors
  refine .behind _ ?_
  split
  · exact hsetter
  · exact .nil

theorem inserts_members (entity : Entity) :
    Inserts (Toggle.Added toggles) (entity.members (options.switch toggles false))
      (entity.members (options.switch toggles true)) := by
  have hleading : Inserts (Toggle.Added toggles)
      (Entity.leadingMembers (options.switch toggles false))
      (Entity.leadingMembers (options.switch toggles true)) :=
    .behind _ (inserts_decided .eventBus (by decide))
  have hbus : Inserts (Toggle.Added toggles) (Entity.busSetter (options.switch toggles false))
      (Entity.busSetter (options.switch toggles true)) :=
    inserts_decided .eventBus (by decide)
  exact .append (.append (.append hleading (.flatMap inserts_declaration _)) hbus)
    (.flatMap (inserts_accessors entity) _)

theorem inserts_opening (entity : Entity) :
    Inserts (Toggle.Added toggles) (entity.opening (options.switch toggles false))
      (entity.opening (options.switch toggles true)) :=
  .ahead (.ahead (.ahead (inserts_decided .dependencyInjection (by decide)) _) _) _

/-- What is on although the toggles are off is on with them; what is on with them only is theirs. -/
theorem Toggle.isOn_switch_iff (toggle : Toggle) :
    toggle.isOn (options.switch toggles true) = true ↔
      toggle ∈ toggles ∨ toggle.isOn (options.switch toggles false) = true := by
  rw [toggle.isOn_switch, toggle.isOn_switch]
  split <;> simp_all

theorem mem_ownImports_switch {entity : Entity} {name : String} :
    name ∈ entity.ownImports (options.switch toggles true) ↔
      name ∈ entity.ownImports (options.switch toggles false) ∨
        (.dependencyInjection ∈ toggles ∧ name = "javax.inject.Named") ∨
        (.eventBus ∈ toggles ∧ name = "com.squareup.otto.Bus") := by
  have hinjection : (options.switch toggles true).dependencyInjection = true ↔
      .dependencyInjection ∈ toggles ∨ (options.switch toggles false).dependencyInjection = true :=
    Toggle.isOn_switch_iff .dependencyInjection
  have hbus : (options.switch toggles true).eventBus = true ↔
      .eventBus ∈ toggles ∨ (options.switch toggles false).eventBus = true :=
    Toggle.isOn_switch_iff .eventBus
  have hcontainer : (options.switch toggles true).enterpriseContainer =
      (options.switch toggles false).enterpriseContainer := rfl
  rw [Entity.mem_ownImports, Entity.mem_ownImports, hinjection, hbus, hcontainer]
  grind

theorem Field.mem_imports_switch {field : Field} {name : String} :
    name ∈ field.imports (options.switch toggles true) ↔
      name ∈ field.imports (options.switch toggles false) ∨
        (.fieldEncryption ∈ toggles ∧ field.isText = true ∧
          name = "org.schemagen.annotations.Encrypted") := by
  have hencryption : (options.switch toggles true).fieldEncryption = true ↔
      .fieldEncryption ∈ toggles ∨ (options.switch toggles false).fieldEncryption = true :=
    Toggle.isOn_switch_iff .fieldEncryption
  have hnullability : (options.switch toggles true).nullability =
      (options.switch toggles false).nullability := rfl
  have hdate : field.usesRichDate (options.switch toggles true) =
      field.usesRichDate (options.switch toggles false) := rfl
  rw [mem_imports, mem_imports, Bool.and_eq_true, Bool.and_eq_true, hencryption, hnullability,
    hdate]
  grind

/-- The names that are imported with toggles on. -/
theorem mem_imports_switch {entity : Entity} {name : String} :
    name ∈ entity.imports (options.switch toggles true) ↔
      name ∈ entity.imports (options.switch toggles false) ∨
        (.dependencyInjection ∈ toggles ∧ name = "javax.inject.Named") ∨
        (.eventBus ∈ toggles ∧ name = "com.squareup.otto.Bus") ∨
        ∃ field ∈ entity.fields, .fieldEncryption ∈ toggles ∧ field.isText = true ∧
          name = "org.schemagen.annotations.Encrypted" := by
  simp only [Entity.mem_imports, mem_ownImports_switch, Field.mem_imports_switch, and_or_left,
    exists_or]
  grind

theorem inserts_header (entity : Entity) :
    Inserts (Toggle.Added toggles) (entity.header (options.switch toggles false))
      (entity.header (options.switch toggles true)) := by
  have hnames : Inserts (fun name => Toggle.Added toggles ("import " ++ name ++ ";"))
      (entity.imports (options.switch toggles false))
      (entity.imports (options.switch toggles true)) := by
    refine .of_ascending (pairwise_sortedOnce _) (pairwise_sortedOnce _) ?_ ?_
    · exact fun name hname => mem_imports_switch.mpr (.inl hname)
    · intro name hname hout
      rcases (mem_imports_switch.mp hname).resolve_left hout with
        ⟨hm, rfl⟩ | ⟨hm, rfl⟩ | ⟨field, -, hm, -, rfl⟩
      · exact ⟨_, hm, by decide⟩
      · exact ⟨_, hm, by decide⟩
      · exact ⟨_, hm, by decide⟩
  exact .ahead (.behind _ (hnames.map _ fun _ hadded => hadded)) _

/-- Switching toggles on only inserts lines into a class source, and the lines are those of the
toggles. -/
theorem toggles_insert_lines (entity : Entity) (options : Options) (toggles : List Toggle) :
    let off := textLines (entity.source (options.switch toggles false))
    let on := textLines (entity.source (options.switch toggles true))
    off.Sublist on ∧ Inserts (Toggle.Added toggles) off on := by
  intro off on
  have hlines : Inserts (Toggle.Added toggles) (entity.lines (options.switch toggles false))
      (entity.lines (options.switch toggles true)) :=
    .ahead (.append (.append (inserts_header entity) (inserts_opening entity))
      ((inserts_members entity).dropLast (entity.endsBlank_members _)
        (entity.endsBlank_members _))) _
  have htext : Inserts (Toggle.Added toggles) off on := by
    refine hlines.textLines ?_
    rintro line ⟨toggle, -, hline⟩
    exact toggle.newline_not_mem_lines line hline
  exact ⟨htext.sublist, htext⟩

end

end EntityGen
