import EntityGen.Proofs.Emission.Execution
import EntityGen.Proofs.Identifier.Folded
import EntityGen.Proofs.Plan.Claims
import EntityGen.Proofs.Plan.Description
import EntityGen.Sink

/-!
# Which jobs find their class taken

A job finds its class taken when an earlier job of the plan has the key of its file. For ASCII names
in an ASCII package two jobs have one key exactly when the same is left of their names without
separators and case, however they are cut into words. No job fails in the same words for another
reason: the other texts begin differently.
-/
namespace EntityGen

open EntityGen.Text

theorem Config.isSegmentChar_lt {c : Char} (h : isSegmentChar c = true) : c.toNat < 128 := by
  have hz : c ≤ 'z' → c.toNat < 128 := fun hle => Nat.lt_of_le_of_lt hle (by decide)
  simp only [isSegmentChar, isAsciiAlphanumeric, isAsciiLetter, isAsciiLower, isAsciiUpper,
    isAsciiDigit, Bool.or_eq_true, Bool.and_eq_true, decide_eq_true_eq, beq_iff_eq] at h
  rcases h with ((⟨-, h⟩ | ⟨-, h⟩) | ⟨-, h⟩) | rfl
  · exact hz h
  · exact hz (Char.le_trans h (by decide))
  · exact hz (Char.le_trans h (by decide))
  · decide

theorem ascii_dot : IsAscii "." := by decide

/-- A database adds segment characters to the package, and these are ASCII. -/
theorem Settings.ascii_packageFor {settings : Settings} (h : IsAscii settings.packageBase)
    (database : String) : IsAscii (settings.packageFor database) := by
  have hsegment : ∀ c ∈ databaseSegment database, c.toNat < 128 := by
    intro c hc
    obtain ⟨d, hd, rfl⟩ := List.mem_map.mp hc
    exact asciiLower_lt (Config.isSegmentChar_lt (List.mem_filter.mp hd).2)
  rw [packageFor]
  split
  · exact h
  · split
    · exact h
    · next c rest hchars =>
      rw [hchars] at hsegment
      refine isAscii_append (isAscii_append h ascii_dot) ?_
      rw [IsAscii, String.toList_ofList]
      split
      · exact List.forall_mem_cons.mpr ⟨by decide, hsegment⟩
      · exact hsegment

theorem fileKey_eq_iff {package a b : String} (hpackage : IsAscii package) (ha : IsAscii a)
    (hb : IsAscii b) :
    fileKey package a = fileKey package b ↔ a.toList.map asciiLower = b.toList.map asciiLower := by
  have hfront : IsAscii (package ++ ".") := isAscii_append hpackage ascii_dot
  rw [fileKey, fileKey, ← String.toList_inj, lowercase_of_ascii (isAscii_append hfront ha),
    lowercase_of_ascii (isAscii_append hfront hb)]
  simp only [String.toList_append, List.map_append, List.append_cancel_left_eq]

theorem head?_toList_append {front : String} {c : Char} (h : front.toList.head? = some c)
    (back : String) : (front ++ back).toList.head? = some c := by
  rw [String.toList_append, List.head?_append, h, Option.some_or]

/-- The text of a fault begins with a capital letter. -/
theorem Fault.head?_message (fault : Fault) :
    ∃ c, fault.message.toList.head? = some c ∧ isAsciiUpper c = true := by
  cases fault with
  | noMapping _ | unsupportedKind _ | config _ | schema _ | io _ | yaml _ | json _ =>
    exact ⟨_, head?_toList_append rfl _, by decide⟩
  | duplicateTable _ _ | duplicateSequence _ _ | duplicateView _ _ | duplicateColumn _ _ =>
    exact ⟨_, head?_toList_append (head?_toList_append (head?_toList_append
      (head?_toList_append rfl _) _) _) _, by decide⟩
  | invalidTable _ _ | emitterFailure _ _ =>
    exact ⟨_, head?_toList_append (head?_toList_append (head?_toList_append rfl _) _) _, by decide⟩
  | cancelled => exact ⟨'G', rfl, by decide⟩

namespace Job

/-- In an ASCII package jobs of ASCII names have one key exactly when the same is left of the names.
-/
theorem key_eq_iff {job other : Job} (hpackage : other.packageName = job.packageName)
    (hascii : IsAscii job.packageName) (hjob : IsAscii job.name) (hother : IsAscii other.name) :
    other.key = job.key ↔ Identifier.folded other.name = Identifier.folded job.name := by
  rw [key, key, hpackage, className, className,
    fileKey_eq_iff hascii (Identifier.ascii_javaClass hother) (Identifier.ascii_javaClass hjob)]
  exact Identifier.map_asciiLower_javaClass_eq_iff hother hjob

/-- The fault of a job that finds its class taken by an owner. -/
def classTaken (job : Job) (owner : String) : Fault :=
  .emitterFailure job.name
    ("class " ++ job.className ++ " is already generated for [" ++ owner ++ "]")

variable {job : Job} {owner : String}

theorem classTaken_inj {other : String} :
    job.classTaken owner = job.classTaken other ↔ owner = other := by
  rw [classTaken, classTaken, Fault.emitterFailure.injEq, String.append_left_inj,
    String.append_right_inj]
  exact and_iff_right rfl

theorem prepare_of_collidesWith (h : job.collidesWith = some owner) :
    job.prepare = .error (job.classTaken owner) := by
  rw [prepare, h]
  rfl

/-- A job that finds its class taken fails without its emitter. -/
theorem execute_of_collidesWith {m : Type → Type} [Monad m] (h : job.collidesWith = some owner)
    (factory : EmitterFactory m) (options : Options) :
    job.execute factory options = pure (.failed (job.classTaken owner), false) := by
  rw [execute, prepare_of_collidesWith h]

/-- Columns fail for their kinds or for a clash, whose text is another one. -/
theorem describe_ne_classTaken : job.describe ≠ .error (job.classTaken owner) := by
  intro h
  have hdescribes := job.describes_describe
  rw [h, classTaken] at hdescribes
  generalize hfault : Fault.emitterFailure job.name
    ("class " ++ job.className ++ " is already generated for [" ++ owner ++ "]") = fault at hdescribes
  cases hdescribes with
  | unresolved _ _ _ =>
    unfold Kind.refusal at hfault
    split at hfault <;> cases hfault
  | clash _ _ _ _ =>
    have hstart := congrArg (fun text => text.toList.take 2) (Fault.emitterFailure.inj hfault).2
    simp [String.toList_append] at hstart

/-- What an emitter refuses in other words does not become this fault. -/
theorem conclude_ne_classTaken {entity : Entity} {emission : Emission}
    (h : emission ≠ .refused (job.classTaken owner)) :
    job.conclude entity emission ≠ .failed (job.classTaken owner) := by
  cases emission with
  | written artifact => exact fun he => nomatch he
  | crashed message => exact fun he => nomatch he
  | refused fault =>
    rw [conclude]
    intro he
    have hfault : Fault.ofRefusal job.name fault = job.classTaken owner := Outcome.failed.inj he
    unfold Fault.ofRefusal at hfault
    split at hfault
    · exact h (congrArg Emission.refused hfault)
    · obtain ⟨c, hc, hupper⟩ := fault.head?_message
      have htext := (Fault.emitterFailure.inj hfault).2
      have hsmall : fault.message.toList.head? = some 'c' := by
        rw [htext]
        exact head?_toList_append (head?_toList_append (head?_toList_append
          (head?_toList_append rfl _) _) _) _
      rw [hc] at hsmall
      obtain rfl := Option.some.inj hsmall
      exact absurd hupper (by decide)

end Job

variable {σ : Type}

/-- Emitters that leave it to the plan to say that a class is taken. -/
def LeavesClasses (factory : EmitterFactory (StateM σ)) : Prop :=
  ∀ name entity options state (job : Job) (owner : String),
    ((factory.emit name entity options).run state).1.emission ≠ .refused (job.classTaken owner)

/-- The emitters of class sources leave it to the plan if their sink does. -/
theorem leavesClasses_sourceEmitters {sink : Sink (StateM σ)}
    (h : ∀ artifact state table reason,
      ((sink artifact).run state).1 ≠ .error (.emitterFailure table reason)) :
    LeavesClasses (sourceEmitters sink) := by
  intro name entity options state job owner
  rw [sourceEmitters_run]
  dsimp only
  split
  · exact fun he => nomatch he
  · next fault hanswer =>
    intro he
    obtain rfl := Emission.refused.inj he
    exact h _ _ _ _ hanswer

theorem leavesClasses_memory : LeavesClasses (sourceEmitters memorySink) :=
  leavesClasses_sourceEmitters fun _ _ _ _ h => nomatch h

theorem answer_bind_ne {α β : Type} {first : StateM σ α} {second : α → StateM σ β} {answer : β}
    (h : ∀ value middle, ((second value).run middle).1 ≠ answer) (state : σ) :
    ((first >>= second).run state).1 ≠ answer := by
  rw [StateT.run_bind]
  exact h _ _

theorem leavesClasses_directory (files : FileAccess (StateM σ)) (root : Path) :
    LeavesClasses (sourceEmitters (directorySink files root)) := by
  refine leavesClasses_sourceEmitters ?_
  intro artifact state table reason
  unfold directorySink
  dsimp only
  split
  -- with and without a directory to make, the answer is that of writing the file
  all_goals
    refine answer_bind_ne ?_ state
    rintro (cause | made) middle
    · intro h
      cases h
    · refine answer_bind_ne ?_ middle
      rintro (cause | wrote) after
      · intro h
        cases h
      · intro h
        cases h

/-- With such emitters a job fails for a taken class exactly when it is marked. -/
theorem Job.execute_eq_classTaken_iff {factory : EmitterFactory (StateM σ)}
    (hleaves : LeavesClasses factory) (job : Job) (options : Options) (state : σ)
    (owner : String) :
    ((job.execute factory options).run state).1.1 = .failed (job.classTaken owner) ↔
      job.collidesWith = some owner := by
  cases hmark : job.collidesWith with
  | some other =>
    rw [execute_of_collidesWith hmark, Option.some.injEq]
    constructor
    · intro h
      exact classTaken_inj.mp (Outcome.failed.inj h)
    · rintro rfl
      rfl
  | none =>
    refine iff_of_false ?_ (fun h => nomatch h)
    rw [execute_run, prepare, hmark]
    dsimp only
    cases hdescribe : job.describe with
    | error fault =>
      intro h
      exact describe_ne_classTaken (hdescribe.trans (congrArg Except.error (Outcome.failed.inj h)))
    | ok entity => exact conclude_ne_classTaken (hleaves _ entity options state job owner)

/-- A job of the plan is marked with the name of the first job before it of which the same is left.
-/
theorem Schema.plan_collidesWith_of_ascii {schema : Schema} {settings : Settings}
    (hnames : ∀ source ∈ schema.sources, IsAscii source.name)
    (hpackage : IsAscii settings.packageBase) {earlier later : List Job} {job : Job}
    (hplan : schema.plan settings = earlier ++ job :: later) :
    job.collidesWith = (earlier.find? fun other =>
      Identifier.folded other.name == Identifier.folded job.name).map Job.name := by
  refine (plan_collidesWith hplan).trans (congrArg (Option.map Job.name) ?_)
  have hplanned : ∀ other ∈ earlier ++ job :: later,
      IsAscii other.name ∧ other.packageName = settings.packageFor schema.name := by
    intro other hother
    rw [← hplan] at hother
    refine ⟨hnames other.source ?_, plan_packageName hother⟩
    rw [← schema.plan_source settings]
    exact List.mem_map_of_mem hother
  obtain ⟨hjob, hat⟩ := hplanned job (List.mem_append_right _ List.mem_cons_self)
  apply List.find?_congr
  intro other hother
  obtain ⟨hname, hin⟩ := hplanned other (List.mem_append_left _ hother)
  have hascii : IsAscii job.packageName := hat ▸ Settings.ascii_packageFor hpackage schema.name
  rw [Bool.eq_iff_iff, beq_iff_eq, beq_iff_eq]
  exact Job.key_eq_iff (hin.trans hat.symm) hascii hjob hname

/-- When the names of tables and views are ASCII and so is the package, the plan has one job for
each table and then one for each view, and a job fails because its class is generated already
exactly when the same is left of an earlier name without separators and case. The owner that it
names is the first of these entities, whose own job is not marked. -/
theorem Schema.class_taken_iff_folded (schema : Schema) (settings : Settings)
    (hnames : ∀ source ∈ schema.sources, IsAscii source.name)
    (hpackage : IsAscii settings.packageBase) :
    (schema.plan settings).map (·.source) =
      schema.tables.map .table ++ schema.views.map .view ∧
    ∀ earlier job later, schema.plan settings = earlier ++ job :: later →
      let first := earlier.find? fun other =>
        Identifier.folded other.name == Identifier.folded job.name
      (∀ {σ : Type} (factory : EmitterFactory (StateM σ)), LeavesClasses factory →
        ∀ options state,
          let outcome := ((job.execute factory options).run state).1.1
          ((∃ owner, outcome = .failed (job.classTaken owner)) ↔
            ∃ other ∈ earlier, Identifier.folded other.name = Identifier.folded job.name) ∧
          ∀ owner, outcome = .failed (job.classTaken owner) ↔
            first.map Job.name = some owner) ∧
      ∀ other, first = some other → other.collidesWith = none := by
  refine ⟨schema.plan_source settings, ?_⟩
  intro earlier job later hplan first
  have hmark : job.collidesWith = first.map Job.name :=
    plan_collidesWith_of_ascii hnames hpackage hplan
  refine ⟨?_, ?_⟩
  · intro σ factory hleaves options state outcome
    have houtcome : ∀ owner, outcome = .failed (job.classTaken owner) ↔
        first.map Job.name = some owner := by
      intro owner
      rw [← hmark]
      exact job.execute_eq_classTaken_iff hleaves options state owner
    refine ⟨?_, houtcome⟩
    simp only [houtcome]
    rw [← Option.isSome_iff_exists, Option.isSome_map, List.find?_isSome]
    simp only [beq_iff_eq]
  · intro other hfirst
    obtain ⟨hsame, front, back, rfl, hbefore⟩ := List.find?_eq_some_iff_append.mp hfirst
    rw [beq_iff_eq] at hsame
    have howner := plan_collidesWith_of_ascii hnames hpackage
      (hplan.trans (List.append_assoc front (other :: back) (job :: later)))
    rw [howner, Option.map_eq_none_iff, List.find?_eq_none]
    intro one hone
    rw [hsame]
    exact fun h => absurd (hbefore one hone) (by rw [h]; decide)

namespace Spellings

/-- Four spellings of which the same is left, and two names of which nothing is left. -/
def schema : Schema where
  name := "spellings"
  postScript := none
  tables := [⟨"--", [], []⟩, ⟨"ab_c", [], []⟩, ⟨"A-BC", [], []⟩]
  views := [⟨"?!", []⟩, ⟨"a.b.c", []⟩, ⟨"Abc", []⟩]

def settings : Settings where
  packageBase := "org.names"

end Spellings

/-- The view `a.b.c` stands behind two tables of which the same is left, and the first of them owns
the class. -/
theorem Schema.class_taken_iff_folded_spellings :
    (∀ source ∈ Spellings.schema.sources, IsAscii source.name) ∧
      IsAscii Spellings.settings.packageBase ∧ LeavesClasses (sourceEmitters memorySink) ∧
      ∃ job ∈ Spellings.schema.plan Spellings.settings, job.name = "a.b.c" ∧
        ((job.execute (sourceEmitters memorySink) {}).run []).1.1 =
          .failed (job.classTaken "ab_c") := by
  have hnames : ∀ source ∈ Spellings.schema.sources, IsAscii source.name := by decide
  have hpackage : IsAscii Spellings.settings.packageBase := by decide
  have hplanned : (Spellings.schema.plan Spellings.settings).map Job.name =
      ["--", "ab_c", "A-BC", "?!"] ++ "a.b.c" :: ["Abc"] := plan_names _ _
  obtain ⟨earlier, rest, hplan, hearlier, hrest⟩ := List.map_eq_append_iff.mp hplanned
  obtain ⟨job, later, rfl, hjob, -⟩ := List.map_eq_cons_iff.mp hrest
  have htaken := (class_taken_iff_folded Spellings.schema Spellings.settings hnames hpackage).2
    earlier job later hplan
  obtain ⟨-, howner⟩ := htaken.1 (sourceEmitters memorySink) leavesClasses_memory {} []
  have hjobIn : job ∈ Spellings.schema.plan Spellings.settings := by
    rw [hplan]
    exact List.mem_append_right _ List.mem_cons_self
  refine ⟨hnames, hpackage, leavesClasses_memory, job, hjobIn, hjob, (howner "ab_c").mpr ?_⟩
  -- the names decide, so no class name has to be computed
  refine Eq.trans (List.find?_map (p := fun name =>
    Identifier.folded name == Identifier.folded job.name)).symm ?_
  rw [hearlier, hjob]
  decide

end EntityGen
