import EntityGen.Proofs.Run.Steps

/-!
# A pool under any schedule

Whatever the number of workers and the schedule, the jobs that a pool has dealt with stand in front of
the waiting ones, and in the end every job is finished or skipped. A job is skipped only behind a
cancellation from outside or, where failures stop the run, a failure. What the execution of each job
keeps therefore holds of the whole run.
-/
namespace EntityGen.Pool

variable {σ : Type}

/-- Among the jobs dealt with one has failed, and failures stop the run. -/
def stoppedBy (settings : Settings) (front : List Slot) : Bool :=
  settings.failFast && front.any (·.isFailed)

/-- Something that is said of the jobs dealt with and of the state stays true when the next job is
assigned or skipped and when an assigned job executes. No job asks to stop the run. -/
structure Keeps (settings : Settings) (factory : EmitterFactory (StateM σ)) (jobs : List Job)
    (outside : Prop) (kept : List Slot → σ → Prop) : Prop where
  assigned : ∀ {front state} (job), stoppedBy settings front = false →
    front.countP (·.progress == .assigned) < workers settings →
    kept front state → kept (front ++ [⟨job, .assigned⟩]) state
  skipped : ∀ {front state} (job), outside ∨ stoppedBy settings front = true →
    kept front state → kept (front ++ [⟨job, .skipped⟩]) state
  finished : ∀ {before behind state job outcome stop after}, job ∈ jobs →
    kept (before ++ ⟨job, .assigned⟩ :: behind) state →
    (job.execute factory settings.options).run state = ((outcome, stop), after) →
    stop = false ∧ kept (before ++ ⟨job, .finished outcome⟩ :: behind) after

/-- The jobs in `front` are dealt with and the ones in `rest` wait. -/
structure Underway (settings : Settings) (jobs : List Job) (outside : Prop)
    (kept : List Slot → σ → Prop) (front : List Slot) (rest : List Job) (pool : Pool) (state : σ) :
    Prop where
  plan : front.map (·.job) ++ rest = jobs
  slots : pool.slots = front ++ rest.map fun job => ⟨job, .waiting⟩
  dealt : ∀ slot ∈ front, slot.progress ≠ .waiting
  kept : kept front state
  skipped : ∀ slot ∈ front, slot.progress = .skipped → pool.cancelled = true
  cancelled : pool.cancelled = true → outside ∨ stoppedBy settings front = true
  stopped : stoppedBy settings front = true → pool.cancelled = true

/-- What an assigned slot becomes when its job executes. -/
def finishSlot (outcome : Outcome) (slot : Slot) : Slot :=
  match slot.progress with
  | .assigned => ⟨slot.job, .finished outcome⟩
  | _ => slot

theorem finishSlot_ne_assigned (outcome : Outcome) (slot : Slot) :
    (finishSlot outcome slot).progress ≠ .assigned := by
  unfold finishSlot
  split
  · exact fun h => nomatch h
  · assumption

theorem finishSlot_of_ne_assigned {outcome : Outcome} {slot : Slot} (h : slot.progress ≠ .assigned) :
    finishSlot outcome slot = slot := by
  unfold finishSlot
  split
  · next ha => exact absurd ha h
  · rfl

theorem modify_eq_self_of_fixed {α : Type} {f : α → α} {items : List α} {place : Nat}
    (h : ∀ item, items[place]? = some item → f item = item) : items.modify place f = items := by
  apply List.ext_getElem?
  intro i
  rw [List.getElem?_modify]
  split
  · next hi =>
    subst hi
    cases hitem : items[place]? with
    | none => rfl
    | some item => exact congrArg some (h item hitem)
  · exact Option.map_id'

variable {settings : Settings} {factory : EmitterFactory (StateM σ)} {jobs : List Job}
  {kept : List Slot → σ → Prop} {outside : Prop} {front : List Slot} {rest : List Job} {pool : Pool}
  {state : σ}

theorem underway_start (h : kept [] state) : Underway settings jobs outside kept [] jobs
    (start jobs) state where
  plan := rfl
  slots := rfl
  dealt _ hm := nomatch hm
  kept := h
  skipped _ hm := nomatch hm
  cancelled hc := nomatch hc
  stopped hs := absurd hs (by rw [stoppedBy, List.any_nil, Bool.and_false]; exact Bool.false_ne_true)

namespace Underway

/-- When an assigned job executes, its slot is finished with its outcome, and a failure may cancel the
run. -/
theorem finish {before behind : List Slot} {job : Job} {outcome : Outcome} {stop : Bool} {after : σ}
    (h : Underway settings jobs outside kept (before ++ ⟨job, .assigned⟩ :: behind) rest pool state)
    (hkeeps : Keeps settings factory jobs outside kept)
    (hx : (job.execute factory settings.options).run state = ((outcome, stop), after)) :
    Underway settings jobs outside kept (before ++ ⟨job, .finished outcome⟩ :: behind) rest
      ⟨pool.slots.modify before.length fun slot => { slot with progress := .finished outcome },
        pool.cancelled || endsRun settings.failFast (outcome, stop)⟩ after := by
  have hjob : job ∈ jobs := by
    rw [← h.plan, List.map_append, List.map_cons]
    simp
  obtain ⟨rfl, hkept⟩ := hkeeps.finished hjob h.kept hx
  have hmem : ∀ slot ∈ before ++ (⟨job, .finished outcome⟩ : Slot) :: behind,
      slot = ⟨job, .finished outcome⟩ ∨ slot ∈ before ++ (⟨job, .assigned⟩ : Slot) :: behind := by
    intro slot hm
    simp only [List.mem_append, List.mem_cons] at hm ⊢
    tauto
  have hstopped : stoppedBy settings (before ++ (⟨job, .finished outcome⟩ : Slot) :: behind) =
      (stoppedBy settings (before ++ (⟨job, .assigned⟩ : Slot) :: behind) ||
        endsRun settings.failFast (outcome, false)) := by
    have hfailed : (⟨job, .finished outcome⟩ : Slot).isFailed = outcome.isFailed := rfl
    have hassigned : (⟨job, .assigned⟩ : Slot).isFailed = false := rfl
    simp only [stoppedBy, endsRun, List.any_append, List.any_cons, hfailed, hassigned]
    cases settings.failFast <;> cases outcome.isFailed <;> simp
  constructor
  · rw [← h.plan, List.map_append, List.map_append]
    rfl
  · rw [h.slots, List.append_assoc, List.append_assoc, List.cons_append, modify_length_append]
    rfl
  · intro slot hm
    rcases hmem slot hm with rfl | hold
    · intro hw
      cases hw
    · exact h.dealt slot hold
  · exact hkept
  · intro slot hm hs
    rcases hmem slot hm with rfl | hold
    · cases hs
    · rw [h.skipped slot hold hs, Bool.true_or]
  · rw [hstopped, Bool.or_eq_true, Bool.or_eq_true, ← or_assoc]
    exact Or.imp_left h.cancelled
  · rw [hstopped, Bool.or_eq_true, Bool.or_eq_true]
    exact Or.imp_left h.stopped

theorem execute (h : Underway settings jobs outside kept front rest pool state)
    (hkeeps : Keeps settings factory jobs outside kept) (place : Nat) :
    ∃ after state' outcome, (pool.execute settings factory place).run state = (after, state') ∧
      Underway settings jobs outside kept (front.modify place (finishSlot outcome)) rest after
        state' := by
  by_cases hassigned : ∃ job, pool.slots[place]? = some ⟨job, .assigned⟩
  · obtain ⟨job, hslot⟩ := hassigned
    have hplace : front[place]? = some ⟨job, .assigned⟩ := by
      by_cases hlt : place < front.length
      · rwa [h.slots, List.getElem?_append_left hlt] at hslot
      · rw [h.slots, List.getElem?_append_right (Nat.le_of_not_lt hlt), List.getElem?_map] at hslot
        obtain ⟨_, -, hwaiting⟩ := Option.map_eq_some_iff.mp hslot
        cases hwaiting
    obtain ⟨hlt, hget⟩ := List.getElem?_eq_some_iff.mp hplace
    cases hx : (job.execute factory settings.options).run state with
    | mk answer state' =>
      obtain ⟨outcome, stop⟩ := answer
      obtain ⟨before, slot, behind, hfront, rfl, hmodify⟩ :=
        List.exists_of_modify (finishSlot outcome) hlt
      subst hfront
      obtain rfl : slot = ⟨job, .assigned⟩ := by simpa using hget
      refine ⟨_, state', outcome, execute_run_of_answer hslot hx, ?_⟩
      rw [hmodify]
      exact h.finish hkeeps hx
  · -- a move that names no assigned job changes nothing, so any outcome will do
    rw [not_exists] at hassigned
    refine ⟨pool, state, .crashed "", execute_run_of_not_assigned hassigned settings factory state, ?_⟩
    rw [modify_eq_self_of_fixed]
    · exact h
    · intro slot hslot
      refine finishSlot_of_ne_assigned fun ha => hassigned slot.job ?_
      have hlt := (List.getElem?_eq_some_iff.mp hslot).1
      rw [h.slots, List.getElem?_append_left hlt, hslot, ← ha]

theorem stoppedBy_append {slot : Slot} (h : slot.isFailed = false) :
    stoppedBy settings (front ++ [slot]) = stoppedBy settings front := by
  rw [stoppedBy, stoppedBy, List.any_append, List.any_cons, h, List.any_nil, Bool.or_false,
    Bool.or_false]

/-- The next waiting job is marked, as skipped if the run is cancelled. -/
theorem mark {job : Job} {progress : Progress}
    (h : Underway settings jobs outside kept front (job :: rest) pool state)
    (hkept : kept (front ++ [⟨job, progress⟩]) state) (hwaiting : progress ≠ .waiting)
    (hskipped : progress = .skipped → pool.cancelled = true)
    (hfailed : (Slot.mk job progress).isFailed = false) :
    Underway settings jobs outside kept (front ++ [⟨job, progress⟩]) rest
      (pool.mark front.length progress) state where
  plan := by
    rw [List.map_append, List.append_assoc, ← h.plan]
    rfl
  slots := by
    rw [Pool.mark, h.slots, List.map_cons, modify_length_append, List.append_assoc]
    rfl
  dealt slot hm := by
    rcases List.mem_append.mp hm with hold | hnew
    · exact h.dealt slot hold
    · rwa [List.mem_singleton.mp hnew]
  kept := hkept
  skipped slot hm hs := by
    rcases List.mem_append.mp hm with hold | hnew
    · exact h.skipped slot hold hs
    · rw [List.mem_singleton.mp hnew] at hs
      exact hskipped hs
  cancelled hc := by
    rw [stoppedBy_append hfailed]
    exact h.cancelled hc
  stopped hs := by
    rw [stoppedBy_append hfailed] at hs
    exact h.stopped hs

theorem findIdx?_waiting (h : Underway settings jobs outside kept front rest pool state) :
    pool.slots.findIdx? (·.progress == .waiting) = if rest = [] then none else some front.length := by
  rw [h.slots]
  exact findIdx?_waiting_append h.dealt

theorem busy (h : Underway settings jobs outside kept front rest pool state) :
    pool.busy = front.countP (·.progress == .assigned) := by
  rw [Pool.busy, h.slots]
  exact countP_assigned_append front rest

/-- The next waiting job is dealt with once the run is cancelled or a worker is free. -/
theorem assign {job : Job} (h : Underway settings jobs outside kept front (job :: rest) pool state)
    (hkeeps : Keeps settings factory jobs outside kept)
    (hfree : pool.cancelled = true ∨ pool.busy < workers settings) :
    ∃ slot, Underway settings jobs outside kept (front ++ [slot]) rest
      (pool.assign (workers settings)) state := by
  rw [Pool.assign, h.findIdx?_waiting, if_neg (List.cons_ne_nil _ _)]
  dsimp only
  by_cases hc : pool.cancelled = true
  · have hkept := hkeeps.skipped job (h.cancelled hc) h.kept
    rw [if_pos hc]
    exact ⟨_, h.mark hkept (fun hw => nomatch hw) (fun _ => hc) rfl⟩
  · have hbusy := hfree.resolve_left hc
    have hgoing : stoppedBy settings front = false :=
      Bool.eq_false_iff.mpr fun hs => hc (h.stopped hs)
    have hkept := hkeeps.assigned job hgoing (h.busy ▸ hbusy) h.kept
    rw [if_neg hc, if_pos hbusy]
    exact ⟨_, h.mark hkept (fun hw => nomatch hw) (fun hs => nomatch hs) rfl⟩

theorem tryAssign (h : Underway settings jobs outside kept front rest pool state)
    (hkeeps : Keeps settings factory jobs outside kept) :
    ∃ front' rest', Underway settings jobs outside kept front' rest'
      (pool.assign (workers settings)) state := by
  cases rest with
  | nil =>
    refine ⟨front, [], ?_⟩
    rw [Pool.assign, h.findIdx?_waiting, if_pos rfl]
    exact h
  | cons job more =>
    by_cases hfree : pool.cancelled = true ∨ pool.busy < workers settings
    · obtain ⟨slot, hslot⟩ := h.assign hkeeps hfree
      exact ⟨front ++ [slot], more, hslot⟩
    · rw [not_or] at hfree
      refine ⟨front, job :: more, ?_⟩
      rw [Pool.assign, h.findIdx?_waiting, if_neg (List.cons_ne_nil _ _)]
      dsimp only
      rw [if_neg hfree.1, if_neg hfree.2]
      exact h

theorem cancel (h : Underway settings jobs outside kept front rest pool state) (ho : outside) :
    Underway settings jobs outside kept front rest { pool with cancelled := true } state :=
  { h with
    skipped := fun _ _ _ => rfl
    cancelled := fun _ => .inl ho
    stopped := fun _ => rfl }

theorem step (h : Underway settings jobs outside kept front rest pool state)
    (hkeeps : Keeps settings factory jobs outside kept) {move : Move} (hmove : move = .cancel → outside) :
    ∃ after state' front' rest',
      (pool.step settings factory move).run state = (after, state') ∧
        Underway settings jobs outside kept front' rest' after state' := by
  cases move with
  | assign =>
    obtain ⟨front', rest', hassign⟩ := h.tryAssign hkeeps
    exact ⟨_, state, front', rest', rfl, hassign⟩
  | execute place =>
    obtain ⟨after, state', outcome, hrun, hafter⟩ := h.execute hkeeps place
    exact ⟨after, state', _, rest, hrun, hafter⟩
  | cancel => exact ⟨_, state, front, rest, rfl, h.cancel (hmove rfl)⟩

theorem schedule (h : Underway settings jobs outside kept front rest pool state)
    (hkeeps : Keeps settings factory jobs outside kept) {moves : List Move}
    (hmoves : Move.cancel ∈ moves → outside) :
    ∃ after state' front' rest',
      (moves.foldlM (Pool.step settings factory) pool).run state = (after, state') ∧
        Underway settings jobs outside kept front' rest' after state' := by
  induction moves generalizing front rest pool state with
  | nil => exact ⟨pool, state, front, rest, rfl, h⟩
  | cons move more ih =>
    obtain ⟨middle, between, front', rest', hrun, hmiddle⟩ :=
      h.step hkeeps fun hcancel => hmoves (hcancel ▸ List.mem_cons_self)
    obtain ⟨after, state', front'', rest'', hmore, hafter⟩ :=
      ih hmiddle fun hcancel => hmoves (List.mem_cons_of_mem _ hcancel)
    refine ⟨after, state', front'', rest'', ?_, hafter⟩
    rw [List.foldlM_cons, StateT.run_bind, hrun]
    exact hmore

theorem length (h : Underway settings jobs outside kept front rest pool state) :
    front.length + rest.length = jobs.length := by
  rw [← h.plan, List.length_append, List.length_map]

/-- With the jobs before a place settled, an assignment at a waiting place deals with its job: it is
the first that waits, and no worker is busy. -/
theorem assignAt (h : Underway settings jobs outside kept front rest pool state)
    (hkeeps : Keeps settings factory jobs outside kept) {place : Nat} (hsettled : SettledUpTo place front)
    (hplace : place < jobs.length) :
    ∃ front' rest',
      Underway settings jobs outside kept front' rest'
        (if (pool.slots[place]?.any (·.progress == .waiting)) then
          pool.assign (workers settings) else pool) state ∧
        SettledUpTo place front' ∧ place < front'.length := by
  -- either this place is dealt with already, or the jobs dealt with end right before it
  rcases Nat.lt_or_eq_of_le hsettled.1 with hlt | heq
  · have hslot : pool.slots[place]?.any (·.progress == .waiting) = false := by
      rw [h.slots, List.getElem?_append_left hlt, List.getElem?_eq_getElem hlt, Option.any_some]
      exact beq_eq_false_iff_ne.mpr (h.dealt _ (List.getElem_mem hlt))
    rw [hslot, if_neg Bool.false_ne_true]
    exact ⟨front, rest, h, hsettled, hlt⟩
  · cases rest with
    | nil =>
      have hlength := h.length
      rw [List.length_nil] at hlength
      omega
    | cons job more =>
      have hwaiting : pool.slots[place]?.any (·.progress == .waiting) = true := by
        rw [h.slots, heq, List.getElem?_append_right (Nat.le_refl _), Nat.sub_self]
        rfl
      have hbusy : pool.busy = 0 := by
        rw [h.busy, List.countP_eq_zero]
        intro slot hm ha
        refine hsettled.2 slot ?_ (beq_iff_eq.mp ha)
        rwa [heq, List.take_length]
      obtain ⟨slot, hslot⟩ := h.assign hkeeps (.inr (by rw [hbusy, workers]; omega))
      rw [hwaiting, if_pos rfl]
      refine ⟨front ++ [slot], more, hslot, ⟨?_, ?_⟩, ?_⟩
      · rw [List.length_append]
        omega
      · intro other hm
        rw [List.take_append_of_le_length (Nat.le_of_eq heq)] at hm
        exact hsettled.2 other hm
      · rw [List.length_append, List.length_singleton]
        omega

end Underway

/-- The pool is under way, and the jobs before a place are settled. -/
def UnderwayTo (settings : Settings) (jobs : List Job) (outside : Prop) (kept : List Slot → σ → Prop)
    (place : Nat) (pool : Pool) (state : σ) : Prop :=
  ∃ front rest, Underway settings jobs outside kept front rest pool state ∧ SettledUpTo place front

theorem UnderwayTo.settlePlace {place : Nat} (h : UnderwayTo settings jobs outside kept place pool state)
    (hkeeps : Keeps settings factory jobs outside kept) (hplace : place < jobs.length) :
    ∃ after state', (pool.settlePlace settings factory place).run state = (after, state') ∧
      UnderwayTo settings jobs outside kept (place + 1) after state' := by
  obtain ⟨front, rest, h, hsettled⟩ := h
  obtain ⟨first, between, outcome, hfirstRun, hfirst⟩ := h.execute hkeeps place
  obtain ⟨front', rest', hnext, hsettled', hplace'⟩ :=
    hfirst.assignAt hkeeps (settledUpTo_modify hsettled (finishSlot_ne_assigned outcome) place) hplace
  obtain ⟨after, state', last, hrun, hafter⟩ := hnext.execute hkeeps place
  refine ⟨after, state', ?_, _, rest', hafter,
    settledUpTo_succ hsettled' hplace' (finishSlot_ne_assigned last)⟩
  rw [Pool.settlePlace, StateT.run_bind, hfirstRun]
  exact hrun

/-- Once all places are settled, every job is dealt with and none is assigned. -/
theorem Underway.settleAll (h : Underway settings jobs outside kept front rest pool state)
    (hkeeps : Keeps settings factory jobs outside kept) :
    ∃ after state' front', (pool.settle settings factory).run state = (after, state') ∧
      Underway settings jobs outside kept front' [] after state' ∧
      ∀ slot ∈ front', slot.progress ≠ .assigned := by
  have hlength : pool.slots.length = jobs.length := by
    rw [h.slots, List.length_append, List.length_map, h.length]
  have hstart : UnderwayTo settings jobs outside kept 0 pool state :=
    ⟨front, rest, h, settledUpTo_zero front⟩
  obtain ⟨after, state', hrun, front', rest', hafter, hreached, hsettled⟩ :=
    settle_induction hstart fun _ hplace _ _ hmiddle => hmiddle.settlePlace hkeeps (hlength ▸ hplace)
  rw [hlength] at hreached hsettled
  have hboth := hafter.length
  have hrest : rest' = [] := List.eq_nil_of_length_eq_zero (by omega)
  subst hrest
  rw [List.take_of_length_le (Nat.le_of_eq hboth)] at hsettled
  exact ⟨after, state', front', hrun, hafter, hsettled⟩

/-- How the jobs of a run end. -/
structure Settled (settings : Settings) (jobs : List Job) (outside : Prop) (slots : List Slot) :
    Prop where
  plan : slots.map (·.job) = jobs
  ended : ∀ slot ∈ slots, slot.progress = .skipped ∨ ∃ outcome, slot.progress = .finished outcome
  skipped : ∀ slot ∈ slots, slot.progress = .skipped → outside ∨ stoppedBy settings slots = true

/-- In the end every job is finished or skipped, and what every execution keeps holds. -/
theorem Underway.settle (h : Underway settings jobs outside kept front rest pool state)
    (hkeeps : Keeps settings factory jobs outside kept) :
    ∃ after state', (pool.settle settings factory).run state = (after, state') ∧
      Settled settings jobs outside after.slots ∧ kept after.slots state' := by
  obtain ⟨after, state', front', hrun, hafter, hsettled⟩ := h.settleAll hkeeps
  have hslots : after.slots = front' := by
    rw [hafter.slots, List.map_nil, List.append_nil]
  refine ⟨after, state', hrun, ?_, hslots ▸ hafter.kept⟩
  rw [hslots]
  refine ⟨?_, ?_, ?_⟩
  · rw [← hafter.plan, List.append_nil]
  · intro slot hm
    have hdealt := hafter.dealt slot hm
    have hdone := hsettled slot hm
    cases hp : slot.progress with
    | waiting => exact absurd hp hdealt
    | assigned => exact absurd hp hdone
    | skipped => exact .inl rfl
    | finished outcome => exact .inr ⟨outcome, rfl⟩
  · intro slot hm hs
    exact hafter.cancelled (hafter.skipped slot hm hs)

/-- A whole run: it collects slots that are finished or skipped. -/
theorem run_settled {schedule : List Move}
    (hkeeps : Keeps settings factory jobs (Move.cancel ∈ schedule) kept) (hstart : kept [] state) :
    ∃ (pool : Pool) (after : σ),
      (Pool.run settings factory schedule jobs).run state = (pool.collect, after) ∧
      Settled settings jobs (Move.cancel ∈ schedule) pool.slots ∧ kept pool.slots after := by
  have hbegin : Underway settings jobs (Move.cancel ∈ schedule) kept [] jobs (start jobs) state :=
    underway_start hstart
  obtain ⟨middle, between, front, rest, hrun, hmiddle⟩ :=
    hbegin.schedule hkeeps (id : Move.cancel ∈ schedule → _)
  obtain ⟨pool, after, hsettle, hsettled, hkept⟩ := hmiddle.settle hkeeps
  refine ⟨pool, after, ?_, hsettled, hkept⟩
  rw [Pool.run, StateT.run_bind, hrun]
  change StateT.run (middle.settle settings factory >>= _) between = _
  rw [StateT.run_bind, hsettle]
  rfl

/-- The state is fine, and every outcome so far is an answer to its job. -/
structure Knows (answers : Job → Outcome → Prop) (fine : σ → Prop) (front : List Slot) (state : σ) :
    Prop where
  fine : fine state
  answers : ∀ slot ∈ front, ∀ outcome, slot.progress = .finished outcome →
    answers slot.job outcome

theorem Knows.append {answers : Job → Outcome → Prop} {fine : σ → Prop} {slot : Slot}
    (h : Knows answers fine front state) (hslot : ∀ outcome, slot.progress ≠ .finished outcome) :
    Knows answers fine (front ++ [slot]) state := by
  refine ⟨h.fine, fun other hm outcome ho => ?_⟩
  rcases List.mem_append.mp hm with hold | hnew
  · exact h.answers other hold outcome ho
  · rw [List.mem_singleton.mp hnew] at ho
    exact absurd ho (hslot outcome)

/-- What is known of the outcome of every job and of the state behind it is kept. -/
theorem keeps_knows {answers : Job → Outcome → Prop} {fine : σ → Prop}
    (h : ∀ job ∈ jobs, ∀ state, fine state →
      let ran := (job.execute factory settings.options).run state
      answers job ran.1.1 ∧ ran.1.2 = false ∧ fine ran.2) :
    Keeps settings factory jobs outside (Knows answers fine) where
  assigned job _ _ hkept := hkept.append fun _ ho => nomatch ho
  skipped job _ hkept := hkept.append fun _ ho => nomatch ho
  finished := by
    intro before behind state job outcome stop after hjob hkept hx
    obtain ⟨hanswer, hstop, hfine⟩ := h job hjob state hkept.fine
    rw [hx] at hanswer hstop hfine
    refine ⟨hstop, hfine, fun slot hm other ho => ?_⟩
    rcases List.mem_append.mp hm with hbefore | hbehind
    · exact hkept.answers slot (List.mem_append_left _ hbefore) other ho
    · rcases List.mem_cons.mp hbehind with rfl | hlater
      · cases ho
        exact hanswer
      · exact hkept.answers slot (List.mem_append_right _ (List.mem_cons_of_mem _ hlater)) other ho

/-- The jobs that have run, with their outcomes. -/
def finishedOf (slots : List Slot) : List (Job × Outcome) :=
  slots.filterMap fun slot => match slot.progress with
    | .finished outcome => some (slot.job, outcome)
    | _ => none

/-- When no job crashes, a pool collects the tally of what has run and of what was skipped. -/
theorem collectFrom_settled {slots : List Slot}
    (hended : ∀ slot ∈ slots, slot.progress = .skipped ∨
      ∃ outcome, slot.progress = .finished outcome)
    (hcalm : ∀ entry ∈ finishedOf slots, ∀ message, entry.2 ≠ .crashed message) (place : Nat)
    (collector : Collector) :
    collectFrom place collector slots =
      collector.tally (finishedOf slots) (slots.countP (·.progress == .skipped)) := by
  induction slots generalizing place collector with
  | nil => exact collector.tally_nil.symm
  | cons slot rest ih =>
    obtain ⟨hslot, hrest⟩ := List.forall_mem_cons.mp hended
    obtain ⟨job, progress⟩ := slot
    rw [collectFrom_cons]
    rcases hslot with rfl | ⟨outcome, rfl⟩
    · have hcount : (⟨job, .skipped⟩ :: rest : List Slot).countP (·.progress == .skipped) =
          rest.countP (·.progress == .skipped) + 1 := List.countP_cons_of_pos rfl
      rw [ih hrest hcalm, hcount]
      exact collector.tally_skip (finishedOf rest) _
    · have hran : finishedOf (⟨job, .finished outcome⟩ :: rest) =
          (job, outcome) :: finishedOf rest := rfl
      rw [hran] at hcalm ⊢
      obtain ⟨hfirst, hlater⟩ := List.forall_mem_cons.mp hcalm
      have hreported : reported job place outcome = outcome := by
        cases outcome with
        | done result => rfl
        | failed fault => rfl
        | crashed message => exact absurd rfl (hfirst message)
      rw [ih hrest hlater, collectSlot_finished, hreported]
      rfl

theorem Settled.collect {pool : Pool} (h : Settled settings jobs outside pool.slots)
    (hcalm : ∀ entry ∈ finishedOf pool.slots, ∀ message, entry.2 ≠ .crashed message) :
    pool.collect = Collector.empty.tally (finishedOf pool.slots)
      (pool.slots.countP (·.progress == .skipped)) :=
  collectFrom_settled h.ended hcalm 0 .empty

theorem mem_finishedOf {slots : List Slot} {job : Job} {outcome : Outcome} :
    (job, outcome) ∈ finishedOf slots ↔ ⟨job, .finished outcome⟩ ∈ slots := by
  rw [finishedOf, List.mem_filterMap]
  constructor
  · rintro ⟨⟨other, progress⟩, hm, he⟩
    cases progress with
    | finished result =>
      cases he
      exact hm
    | waiting => cases he
    | assigned => cases he
    | skipped => cases he
  · intro hm
    exact ⟨_, hm, rfl⟩

theorem finishedOf_sublist (slots : List Slot) :
    ((finishedOf slots).map Prod.fst).Sublist (slots.map (·.job)) := by
  induction slots with
  | nil => exact .slnil
  | cons slot rest ih =>
    obtain ⟨job, progress⟩ := slot
    cases progress with
    | finished outcome => exact ih.cons_cons job
    | waiting => exact ih.cons job
    | assigned => exact ih.cons job
    | skipped => exact ih.cons job

/-- When none is skipped, all jobs have run. -/
theorem Settled.finishedOf_eq {slots : List Slot} (h : Settled settings jobs outside slots)
    (hnone : slots.countP (·.progress == .skipped) = 0) :
    (finishedOf slots).map Prod.fst = jobs := by
  rw [← h.plan]
  have hended := h.ended
  clear h
  induction slots with
  | nil => rfl
  | cons slot rest ih =>
    obtain ⟨hslot, hrest⟩ := List.forall_mem_cons.mp hended
    rw [List.countP_eq_zero] at hnone
    obtain ⟨hfirst, hlater⟩ := List.forall_mem_cons.mp hnone
    obtain ⟨job, progress⟩ := slot
    rcases hslot with rfl | ⟨outcome, rfl⟩
    · exact absurd rfl hfirst
    · exact congrArg (List.cons job) (ih (List.countP_eq_zero.mpr hlater) hrest)

/-- Jobs are skipped behind a cancellation from outside or a failure only. -/
theorem Settled.none_skipped {slots : List Slot} (h : Settled settings jobs outside slots)
    (hquiet : ¬outside) (hclean : ¬∃ entry ∈ finishedOf slots, entry.2.isFailed = true) :
    slots.countP (·.progress == .skipped) = 0 := by
  rw [List.countP_eq_zero]
  intro slot hm hs
  have hstopped : stoppedBy settings slots = true :=
    (h.skipped slot hm (beq_iff_eq.mp hs)).resolve_left hquiet
  obtain ⟨⟨job, progress⟩, hfailed, hf⟩ :=
    List.any_eq_true.mp (Bool.and_eq_true_iff.mp hstopped).2
  cases progress with
  | finished outcome => exact hclean ⟨(job, outcome), mem_finishedOf.mpr hfailed, hf⟩
  | waiting | assigned | skipped => cases hf

/-- A whole run of jobs that do not crash: it collects the tally of the jobs that have run, each with an
answer of its own, and of the jobs that were skipped. -/
theorem run_answers (answers : Job → Outcome → Prop) {fine : σ → Prop}
    (h : ∀ job ∈ jobs, ∀ state, fine state →
      let ran := (job.execute factory settings.options).run state
      answers job ran.1.1 ∧ ran.1.2 = false ∧ fine ran.2)
    (hcalm : ∀ job message, ¬answers job (.crashed message)) (schedule : List Move)
    (hfine : fine state) :
    ∃ slots after, (Pool.run settings factory schedule jobs).run state =
        (Collector.empty.tally (finishedOf slots) (slots.countP (·.progress == .skipped)), after) ∧
      Settled settings jobs (Move.cancel ∈ schedule) slots ∧
      ∀ entry ∈ finishedOf slots, answers entry.1 entry.2 := by
  have hstart : Knows answers fine [] state := ⟨hfine, fun _ hm => nomatch hm⟩
  obtain ⟨pool, after, hrun, hsettled, hknows⟩ :=
    run_settled (keeps_knows h : Keeps settings factory jobs (Move.cancel ∈ schedule) _) hstart
  have hanswers : ∀ entry ∈ finishedOf pool.slots, answers entry.1 entry.2 := by
    rintro ⟨job, outcome⟩ hm
    exact hknows.answers _ (mem_finishedOf.mp hm) outcome rfl
  refine ⟨pool.slots, after, ?_, hsettled, hanswers⟩
  rw [hrun, hsettled.collect]
  rintro ⟨job, outcome⟩ hm message rfl
  exact hcalm job message (hanswers _ hm)

end EntityGen.Pool
