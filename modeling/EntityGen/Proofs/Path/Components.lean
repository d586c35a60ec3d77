import EntityGen.Path

/-!
# Components of joined paths

A path that is put below another one adds its components to the ones of the other. `front` is the text
that stands before it.
-/
namespace EntityGen.Path

theorem pieces_eq_splitOn (text : List Char) : pieces text = text.splitOn '/' := by
  induction text with
  | nil => rfl
  | cons c rest ih =>
    rw [pieces, ih, List.splitOn_cons_eq_if_modifyHead]
    split
    · rfl
    · obtain ⟨first, more, hrest⟩ := List.exists_cons_of_ne_nil (List.splitOn_ne_nil '/' rest)
      rw [hrest]
      rfl

theorem pieces_ne_nil (text : List Char) : pieces text ≠ [] := by
  rw [pieces_eq_splitOn]
  exact List.splitOn_ne_nil _ _

theorem pieces_slash (text : List Char) : pieces ('/' :: text) = [] :: pieces text := rfl

theorem pieces_cons {c : Char} {text first : List Char} {rest : List (List Char)} (hc : c ≠ '/')
    (h : pieces text = first :: rest) : pieces (c :: text) = (c :: first) :: rest := by
  rw [pieces, if_neg (by simpa using hc), h]

/-- A separator divides the pieces of a text. -/
theorem pieces_append (front back : List Char) :
    pieces (front ++ '/' :: back) = pieces front ++ pieces back := by
  simp only [pieces_eq_splitOn, List.splitOn_append_cons_self]

theorem pieces_of_not_mem {text : List Char} (h : '/' ∉ text) : pieces text = [text] := by
  rw [pieces_eq_splitOn, List.splitOn_eq_singleton h]

theorem mem_of_mem_pieces {text piece : List Char} {c : Char} (hp : piece ∈ pieces text)
    (hc : c ∈ piece) : c ∈ text := by
  induction text generalizing piece with
  | nil =>
    rw [pieces, List.mem_singleton] at hp
    rw [hp] at hc
    cases hc
  | cons d rest ih =>
    by_cases hd : d = '/'
    · rw [hd, pieces_slash, List.mem_cons] at hp
      rcases hp with rfl | hr
      · cases hc
      · exact List.mem_cons_of_mem d (ih hr hc)
    · obtain ⟨first, more, hrest⟩ := List.exists_cons_of_ne_nil (pieces_ne_nil rest)
      rw [pieces_cons hd hrest, List.mem_cons] at hp
      rw [hrest] at ih
      rcases hp with rfl | hr
      · rcases List.mem_cons.mp hc with rfl | hfirst
        · exact List.mem_cons_self
        · exact List.mem_cons_of_mem d (ih List.mem_cons_self hfirst)
      · exact List.mem_cons_of_mem d (ih (List.mem_cons_of_mem first hr) hc)

theorem component?_nil (front : Bool) : component? front [] = none := rfl

/-- Only a dot is read differently at the front. -/
theorem component?_of_ne_dot {piece : List Char} (h : piece ≠ ['.']) (front : Bool) :
    component? front piece = component? false piece := by
  have hdot : (piece == ['.']) = false := beq_eq_false_iff_ne.mpr h
  rw [component?, component?, hdot, if_neg Bool.false_ne_true, if_neg Bool.false_ne_true]

/-- A piece of more than two characters is a name. -/
theorem component?_of_length {piece : List Char} (h : 2 < piece.length) (front : Bool) :
    component? front piece = some (.name (String.ofList piece)) := by
  have hdot : piece ≠ ['.'] := by rintro rfl; exact absurd h (by decide)
  have hdots : piece ≠ ['.', '.'] := by rintro rfl; exact absurd h (by decide)
  have hempty : piece.isEmpty = false := by
    rw [List.isEmpty_eq_false_iff]
    rintro rfl
    exact absurd h (by decide)
  rw [component?, hempty, if_neg Bool.false_ne_true, if_neg (by simpa using hdot),
    if_neg (by simpa using hdots)]

/-- A piece without a dot is empty or a name. -/
theorem component?_of_no_dot {piece : List Char} (h : '.' ∉ piece) {front : Bool}
    {component : Component} (hc : component? front piece = some component) :
    component = .name (String.ofList piece) := by
  have hdot : piece ≠ ['.'] := by rintro rfl; exact h (by decide)
  have hdots : piece ≠ ['.', '.'] := by rintro rfl; exact h (by decide)
  rw [component?] at hc
  split at hc
  · cases hc
  · rw [if_neg (by simpa using hdot), if_neg (by simpa using hdots)] at hc
    exact (Option.some.inj hc).symm

theorem isAbsolute_of_slash_not_mem {text : String} (h : '/' ∉ text.toList) :
    (Path.mk text).isAbsolute = false := by
  rw [isAbsolute, beq_eq_false_iff_ne]
  exact fun hm => h (List.mem_of_mem_head? hm)

/-- The components of an absolute path are read like the ones of a relative path, behind the root. -/
theorem components_of_pieces {path : Path} {first : List Char} {rest : List (List Char)}
    (h : pieces path.text.toList = first :: rest) :
    path.components = (if path.isAbsolute then [.root] else []) ++ (component? true first).toList ++
      rest.filterMap (component? false) := by
  unfold components
  split
  · next habsolute =>
    have hfirst : first = [] := by
      rw [isAbsolute, beq_iff_eq] at habsolute
      obtain ⟨back, hback⟩ := List.head?_eq_some_iff.mp habsolute
      rw [hback, pieces_slash] at h
      exact (List.cons.inj h).1.symm
    rw [h, hfirst]
    rfl
  · rw [h, List.nil_append]

/-- The text that a path below another one comes behind: empty, or with a separator at its end. -/
def front (base : Path) : String :=
  match base.text.toList.getLast? with
  | none => ""
  | some last => if last == '/' then base.text else base.text ++ "/"

theorem join_of_isAbsolute {path : Path} (h : path.isAbsolute = true) (base : Path) :
    base.join path = path := by
  rw [join, if_pos h]

theorem join_text {path : Path} (h : path.isAbsolute = false) (base : Path) :
    base.join path = ⟨base.front ++ path.text⟩ := by
  rw [join, h, if_neg Bool.false_ne_true, front]
  cases base.text.toList.getLast? with
  | none => rw [String.empty_append]
  | some last =>
    dsimp only
    split
    · rfl
    · rfl

/-- A text that a path can come behind. -/
def IsFront (text : String) : Prop := text = "" ∨ ∃ front, text.toList = front ++ ['/']

theorem isFront_front (base : Path) : IsFront base.front := by
  unfold front
  cases hl : base.text.toList.getLast? with
  | none => exact .inl rfl
  | some last =>
    dsimp only
    split
    · next hslash =>
      obtain ⟨front, hfront⟩ := List.getLast?_eq_some_iff.mp hl
      rw [beq_iff_eq.mp hslash] at hfront
      exact .inr ⟨front, hfront⟩
    · exact .inr ⟨base.text.toList, String.toList_append⟩

theorem isFront_append {a b : String} (ha : IsFront a) (hb : IsFront b) : IsFront (a ++ b) := by
  rcases hb with rfl | ⟨front, hfront⟩
  · rwa [String.append_empty]
  · refine .inr ⟨a.toList ++ front, ?_⟩
    rw [String.toList_append, hfront, List.append_assoc]

theorem isAbsolute_append_of_ne_nil {front : String} (h : front.toList ≠ []) (text : String) :
    (Path.mk (front ++ text)).isAbsolute = (Path.mk front).isAbsolute := by
  obtain ⟨c, rest, hfront⟩ := List.exists_cons_of_ne_nil h
  rw [isAbsolute, isAbsolute, String.toList_append, hfront]
  rfl

/-- A relative path is absolute exactly when what it comes behind is. -/
theorem isAbsolute_append {front text : String} (hfront : IsFront front)
    (h : (Path.mk text).isAbsolute = false) :
    (Path.mk (front ++ text)).isAbsolute = (Path.mk front).isAbsolute := by
  rcases hfront with rfl | ⟨chars, hchars⟩
  · rw [String.empty_append, h]
    rfl
  · refine isAbsolute_append_of_ne_nil ?_ text
    rw [hchars]
    exact List.concat_ne_nil _ _

theorem isAbsolute_front (base : Path) : (Path.mk base.front).isAbsolute = base.isAbsolute := by
  unfold front
  cases hl : base.text.toList.getLast? with
  | none =>
    rw [isAbsolute, isAbsolute, List.getLast?_eq_none_iff.mp hl]
    rfl
  | some last =>
    dsimp only
    split
    · rfl
    · refine isAbsolute_append_of_ne_nil ?_ "/"
      intro hnil
      rw [hnil] at hl
      cases hl

/-- A relative path that does not begin with a dot adds its components to what it comes behind. -/
theorem components_append {front text : String} (hfront : IsFront front)
    (hrelative : (Path.mk text).isAbsolute = false)
    (hdot : ['.'] ∉ (pieces text.toList).head?) :
    (Path.mk (front ++ text)).components =
      (Path.mk front).components ++ (Path.mk text).components := by
  rcases hfront with rfl | ⟨chars, hchars⟩
  · rw [String.empty_append]
    rfl
  · obtain ⟨first, rest, hpieces⟩ := List.exists_cons_of_ne_nil (pieces_ne_nil text.toList)
    obtain ⟨head, more, hfrontPieces⟩ := List.exists_cons_of_ne_nil (pieces_ne_nil chars)
    have hwhole : pieces (Path.mk (front ++ text)).text.toList =
        head :: (more ++ first :: rest) := by
      rw [String.toList_append, hchars, List.append_assoc, List.singleton_append, pieces_append,
        hpieces, hfrontPieces, List.cons_append]
    have halone : pieces (Path.mk front).text.toList = head :: (more ++ [[]]) := by
      rw [hchars, pieces_append, hfrontPieces, List.cons_append, pieces]
    have habsolute := isAbsolute_append (.inr ⟨chars, hchars⟩) hrelative
    have hfirst : component? true first = component? false first := by
      refine component?_of_ne_dot ?_ true
      rintro rfl
      exact hdot (by rw [hpieces]; rfl)
    rw [components_of_pieces hwhole, components_of_pieces halone, components_of_pieces hpieces,
      habsolute, hrelative, if_neg Bool.false_ne_true, List.nil_append, hfirst,
      List.filterMap_append, List.filterMap_append, List.filterMap_cons]
    cases component? false first <;> simp [component?_nil]

theorem components_front (base : Path) : (Path.mk base.front).components = base.components := by
  have habsolute := base.isAbsolute_front
  rw [front] at habsolute ⊢
  cases hl : base.text.toList.getLast? with
  | none =>
    have hempty : base = ⟨""⟩ := by
      rw [List.getLast?_eq_none_iff, String.toList_eq_nil_iff] at hl
      rw [← hl]
    rw [hempty]
  | some last =>
    rw [hl] at habsolute
    dsimp only at habsolute ⊢
    split
    · rfl
    · next hlast =>
      rw [if_neg hlast] at habsolute
      obtain ⟨first, rest, hpieces⟩ := List.exists_cons_of_ne_nil (pieces_ne_nil base.text.toList)
      have hslash : pieces (Path.mk (base.text ++ "/")).text.toList = first :: (rest ++ [[]]) := by
        change pieces (base.text ++ "/").toList = _
        rw [String.toList_append]
        change pieces (base.text.toList ++ '/' :: []) = _
        rw [pieces_append, hpieces, List.cons_append, pieces]
      rw [components_of_pieces hslash, components_of_pieces hpieces, habsolute,
        List.filterMap_append]
      simp [component?_nil]

theorem mem_front {base : Path} {c : Char} (h : c ∈ base.front.toList) :
    c ∈ base.text.toList ∨ c = '/' := by
  unfold front at h
  split at h
  · cases h
  · split at h
    · exact .inl h
    · rw [String.toList_append, List.mem_append] at h
      exact h.imp_right List.mem_singleton.mp

theorem components_of_name {name : String} (hslash : '/' ∉ name.toList)
    (hlength : 2 < name.toList.length) : (Path.mk name).components = [.name name] := by
  rw [components_of_pieces (pieces_of_not_mem hslash), isAbsolute_of_slash_not_mem hslash,
    component?_of_length hlength, String.ofList_toList]
  rfl

/-- A relative path without a dot consists of names. -/
theorem exists_name_of_mem_components {path : Path} (hrelative : path.isAbsolute = false)
    (hdot : '.' ∉ path.text.toList) {component : Component} (h : component ∈ path.components) :
    ∃ text, component = .name text := by
  obtain ⟨first, rest, hpieces⟩ := List.exists_cons_of_ne_nil (pieces_ne_nil path.text.toList)
  have hpiece : ∀ piece ∈ first :: rest, '.' ∉ piece := fun piece hp hc =>
    hdot (mem_of_mem_pieces (hpieces ▸ hp) hc)
  rw [components_of_pieces hpieces, hrelative, if_neg Bool.false_ne_true, List.nil_append,
    List.mem_append, Option.mem_toList, List.mem_filterMap] at h
  rcases h with hfirst | ⟨piece, hp, hc⟩
  · exact ⟨_, component?_of_no_dot (hpiece first List.mem_cons_self) hfirst⟩
  · exact ⟨_, component?_of_no_dot (hpiece piece (List.mem_cons_of_mem _ hp)) hc⟩

def Component.text? : Component → Option String
  | name text => some text
  | _ => none

def names (path : Path) : List String := path.components.filterMap Component.text?

end EntityGen.Path
