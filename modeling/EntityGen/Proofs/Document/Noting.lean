import EntityGen.Document.Json

/-!
# What readings note

A reading ensures a condition when every value it comes to meets it, together with the warnings noted
on the way. A reading that fails ensures any condition, so the rules below say only how a reading goes
on. All that a JSON document has to offer is read without a note, except for the types of columns.
-/
namespace EntityGen.Document

namespace Reading

variable {α β : Type} {reading : Reading α} {post : α → List Warning → Prop}

/-- Every value that the reading comes to meets `post`, with the warnings it has noted. -/
def Ensures (reading : Reading α) (post : α → List Warning → Prop) : Prop :=
  ∀ ⦃notes value after⦄, reading notes = (.ok value, after) →
    ∃ noted, after.warnings = notes.warnings ++ noted ∧ post value noted

/-- The reading notes nothing. -/
def Quiet (reading : Reading α) : Prop := reading.Ensures fun _ noted => noted = []

theorem ensures_pure {value : α} (h : post value []) : (pure value : Reading α).Ensures post := by
  intro notes found after hrun
  cases hrun
  exact ⟨[], (List.append_nil _).symm, h⟩

theorem ensures_fail (failure : Failure) : (fail failure : Reading α).Ensures post := by
  intro notes found after hrun
  cases hrun

theorem ensures_refuse (problem : Problem) : (refuse problem : Reading α).Ensures post := by
  intro notes found after hrun
  cases hrun

theorem ensures_warn (warning : Warning) :
    (warn warning).Ensures fun _ noted => noted = [warning] := by
  intro notes value after hrun
  cases hrun
  exact ⟨[warning], rfl, rfl⟩

theorem Ensures.mono {wider : α → List Warning → Prop} (h : reading.Ensures post)
    (hwider : ∀ value noted, post value noted → wider value noted) : reading.Ensures wider := by
  intro notes value after hrun
  obtain ⟨noted, hnoted, hpost⟩ := h hrun
  exact ⟨noted, hnoted, hwider value noted hpost⟩

theorem Ensures.and {other : α → List Warning → Prop} (h : reading.Ensures post)
    (hother : reading.Ensures other) :
    reading.Ensures fun value noted => post value noted ∧ other value noted := by
  intro notes value after hrun
  obtain ⟨noted, hnoted, hpost⟩ := h hrun
  obtain ⟨same, hsame, hmet⟩ := hother hrun
  obtain rfl : noted = same := List.append_cancel_left (hnoted.symm.trans hsame)
  exact ⟨noted, hnoted, hpost, hmet⟩

/-- A chain comes to a value through one that its first part comes to. -/
theorem exists_of_bind {next : α → Reading β} {notes after : Notes} {result : β}
    (h : (reading >>= next) notes = (.ok result, after)) :
    ∃ value middle, reading notes = (.ok value, middle) ∧ next value middle = (.ok result, after) := by
  change ExceptT.bindCont next (reading notes).1 (reading notes).2 = _ at h
  rcases hread : reading notes with ⟨failure | value, middle⟩
  · rw [hread] at h
    cases h
  · rw [hread] at h
    exact ⟨value, middle, rfl, h⟩

/-- What follows goes on from the warnings noted before. -/
theorem Ensures.bind {next : α → Reading β} {wanted : β → List Warning → Prop}
    (h : reading.Ensures post)
    (hnext : ∀ value noted, post value noted →
      (next value).Ensures fun result more => wanted result (noted ++ more)) :
    (reading >>= next).Ensures wanted := by
  intro notes result after hrun
  obtain ⟨value, middle, hread, hrest⟩ := exists_of_bind hrun
  obtain ⟨noted, hnoted, hpost⟩ := h hread
  obtain ⟨more, hmore, hwanted⟩ := hnext value noted hpost hrest
  refine ⟨noted ++ more, ?_, hwanted⟩
  rw [hmore, hnoted, List.append_assoc]

theorem Ensures.within (h : reading.Ensures post) (step : Step) :
    (reading.within step).Ensures post := by
  intro notes value after hrun
  unfold Reading.within at hrun
  split at hrun
  · cases hrun
  · next found middle hread =>
    cases hrun
    exact h hread

theorem Ensures.settle (h : reading.Ensures post) (untold : Bool) :
    (reading.settle untold).Ensures post := by
  intro notes value after hrun
  unfold Reading.settle at hrun
  split at hrun
  · cases hrun
  · next found middle hread =>
    cases hrun
    exact h hread

theorem Ensures.outcome (h : reading.Ensures post) {value : α} {warnings : List Warning}
    (houtcome : reading.outcome = (.ok value, warnings)) : post value warnings := by
  rcases hrun : reading .empty with ⟨result, after⟩
  have hsame : reading.outcome = (result, after.warnings) := by
    change ((reading .empty).1, (reading .empty).2.warnings) = _
    rw [hrun]
  rw [hsame] at houtcome
  cases houtcome
  obtain ⟨noted, hnoted, hpost⟩ := h hrun
  rw [hnoted]
  exact hpost

theorem quiet_pure (value : α) : (pure value : Reading α).Quiet := ensures_pure rfl

theorem Quiet.bind {next : α → Reading β} {wanted : β → List Warning → Prop} (h : reading.Quiet)
    (hnext : ∀ value, (next value).Ensures wanted) : (reading >>= next).Ensures wanted := by
  refine Ensures.bind h fun value noted hnoted => ?_
  rw [hnoted]
  exact hnext value

theorem Quiet.discard (h : reading.Quiet) : (discard reading).Quiet :=
  h.bind fun _ => quiet_pure ()

theorem quiet_forM {read : α → Reading PUnit} (h : ∀ item, (read item).Quiet) (items : List α) :
    (items.forM read).Quiet := by
  induction items with
  | nil => exact quiet_pure _
  | cons item rest ih => exact (h item).bind fun _ => ih

theorem quiet_unbroken (ending : Option Break) : (unbroken ending).Quiet := by
  cases ending with
  | none => exact quiet_pure ()
  | some cause => exact ensures_fail _

end Reading

namespace Json

open Reading

theorem ensures_unexpected {α : Type} {post : α → List Warning → Prop} (expected : String)
    (node : Json) : (node.unexpected expected : Reading α).Ensures post := by
  unfold unexpected
  split
  all_goals exact ensures_fail _

theorem ensures_layout (expected : String) (node : Json) :
    (layout expected node).Ensures fun found noted => noted = [] ∧
      match found with
      | .members entries ending => node = object entries ending
      | .positional items ending => node = array items ending := by
  unfold layout
  split
  · exact ensures_pure ⟨rfl, rfl⟩
  · exact ensures_pure ⟨rfl, rfl⟩
  · exact ensures_unexpected expected _

theorem ensures_listing (node : Json) :
    (listing node).Ensures fun found noted => noted = [] ∧ node = array found.items found.ending := by
  unfold listing
  split
  · exact ensures_pure ⟨rfl, rfl⟩
  · exact ensures_unexpected _ _

theorem ensures_readText (expected : String) (node : Json) :
    (readText expected node).Ensures fun value noted => noted = [] ∧ node = ofString value := by
  unfold readText
  split
  · exact ensures_pure ⟨rfl, rfl⟩
  · exact ensures_unexpected expected _

theorem quiet_readText (expected : String) (node : Json) : (readText expected node).Quiet :=
  (ensures_readText expected node).mono fun _ _ h => h.1

theorem quiet_readFlag (node : Json) : (readFlag node).Quiet := by
  unfold readFlag
  split
  · exact quiet_pure _
  · exact ensures_unexpected _ _

theorem quiet_readCount (expected : String) (limit : Nat) (node : Json) :
    (readCount expected limit node).Quiet := by
  unfold readCount
  split
  · split
    · exact quiet_pure _
    · exact ensures_refuse _
  · exact ensures_refuse _
  · exact ensures_unexpected expected _

theorem quiet_present? (node : Json) : node.present?.Quiet := by
  unfold present?
  split
  · exact quiet_pure _
  · exact quiet_pure _

/-- A value that is passed over is not looked into. -/
theorem quiet_skip (node : Json) : node.skip.Quiet := by
  unfold skip
  split
  · exact quiet_unbroken _
  · exact quiet_unbroken _
  · exact ensures_fail _
  · exact quiet_pure ()

theorem quiet_readAny (levels : Nat) (node : Json) : (readAny levels node).Quiet := by
  induction levels generalizing node with
  | zero =>
    unfold readAny
    split
    all_goals first | exact ensures_fail _ | exact quiet_pure () | contradiction
  | succ levels ih =>
    unfold readAny
    split
    · next h =>
      obtain rfl := Nat.succ.inj h
      exact (quiet_forM ih _).bind fun _ => quiet_unbroken _
    · next h =>
      obtain rfl := Nat.succ.inj h
      refine (quiet_forM (fun member => ?_) _).bind fun _ => quiet_unbroken _
      exact (quiet_readText "a string" member.1).discard.bind fun _ => ih member.2
    all_goals first | exact ensures_fail _ | exact quiet_pure ()

end Json

end EntityGen.Document
