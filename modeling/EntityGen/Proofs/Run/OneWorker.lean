import EntityGen.Proofs.Run.Turn

/-!
# A pool with one worker

Every move of a pool with one worker keeps its turn. A cancelled run lets the worker finish and starts
no other job, so in the end the front of the plan has executed and the rest is skipped.
-/
namespace EntityGen.Pool

variable {σ : Type} {factory : EmitterFactory (StateM σ)} {settings : Settings} {jobs : List Job}
  {first : σ} {outside : Option Nat} {turn : Turn} {pool : Pool} {state : σ}

namespace InTurn

theorem execute_other (h : InTurn settings factory jobs first outside turn pool state) {place : Nat}
    (hplace : turn.current.isSome = true → place ≠ turn.executed.length) :
    (pool.execute settings factory place).run state = (pool, state) := by
  refine execute_run_of_not_assigned ?_ settings factory state
  intro job hslot
  obtain ⟨hcurrent, he⟩ := h.getElem?_eq_assigned_iff.mp hslot
  exact hplace (by rw [hcurrent]; rfl) he

theorem execute_idle (h : InTurn settings factory jobs first outside turn pool state)
    (hcurrent : turn.current = none) (place : Nat) :
    (pool.execute settings factory place).run state = (pool, state) := by
  refine h.execute_other ?_
  rw [hcurrent]
  exact fun hc => nomatch hc

/-- The worker finishes its job, and the run ends with it if its answer says so. -/
theorem finish {job : Job} (h : InTurn settings factory jobs first outside turn pool state)
    (hcurrent : turn.current = some job) :
    ∃ answer after kept,
      (pool.execute settings factory turn.executed.length).run state = (after, kept) ∧
        InTurn settings factory jobs first outside (turn.finish job answer) after kept := by
  have hworking : turn.answers.any (endsRun settings.failFast) = false :=
    h.working (by rw [hcurrent]; rfl)
  have hslot := h.getElem?_eq_assigned_iff.mpr ⟨hcurrent, rfl⟩
  cases hx : (job.execute factory settings.options).run state with
  | mk answer kept =>
    refine ⟨answer, _, kept, execute_run_of_answer hslot hx, ?_⟩
    have hslots : pool.slots.modify turn.executed.length
        (fun slot => { slot with progress := .finished answer.1 }) =
          (turn.finish job answer).slots := by
      have hfinished : (turn.finish job answer).finishedSlots =
          turn.finishedSlots ++ [⟨job, .finished answer.1⟩] := by
        rw [Turn.finishedSlots, Turn.finish, List.zip_append h.length_answers.symm, List.map_append]
        rfl
      rw [h.slots, Turn.slots, Turn.dealt, hcurrent, Turn.slots, Turn.dealt, hfinished,
        ← h.length_finishedSlots, List.append_assoc, List.append_assoc]
      refine (modify_length_append _ _ _ _).trans ?_
      simp [Turn.finish]
    have hany : (turn.finish job answer).answers.any (endsRun settings.failFast) =
        endsRun settings.failFast answer := by
      rw [Turn.finish, List.any_append, hworking, Bool.false_or, List.any_cons, List.any_nil,
        Bool.or_false]
    exact
      { plan := by
          rw [← h.plan, Turn.jobs, Turn.jobs, hcurrent]
          simp [Turn.finish]
        slots := hslots
        answers := answerEach_append_singleton h.answers hx
        cancelled := by rw [hany, h.cancelled, hworking, Bool.or_false]
        early := by
          rw [Turn.finish, List.dropLast_concat]
          exact hworking
        working := fun hc => absurd hc Bool.false_ne_true
        skipped := by
          intro hs
          rw [h.skipped hs, Bool.true_or]
        limit := by
          intro count hc
          rw [← h.limit count hc, Turn.started, Turn.started, hcurrent]
          simp [Turn.finish] }

/-- Cancelling from outside leaves the worker its job and fixes the number of jobs to start. -/
theorem cancel (h : InTurn settings factory jobs first outside turn pool state) :
    InTurn settings factory jobs first (some turn.started) turn { pool with cancelled := true }
      state where
  plan := h.plan
  slots := h.slots
  answers := h.answers
  cancelled := rfl
  early := h.early
  working := h.working
  skipped _ := rfl
  limit _ hc := Option.some.inj hc

/-- A cancelled run skips the next job. -/
theorem skip {job : Job} {more : List Job}
    (h : InTurn settings factory jobs first outside turn pool state)
    (hwaiting : turn.waiting = job :: more) (hc : pool.cancelled = true) (workers : Nat) :
    InTurn settings factory jobs first outside
      { turn with skipped := turn.skipped ++ [job], waiting := more } (pool.assign workers) state := by
  have hassign : pool.assign workers = pool.mark turn.dealt.length .skipped := by
    rw [Pool.assign, h.findIdx?_waiting, if_neg (by rw [hwaiting]; exact List.cons_ne_nil _ _)]
    dsimp only
    rw [if_pos hc]
  rw [hassign]
  exact
    { plan := by
        rw [← h.plan, Turn.jobs, Turn.jobs, hwaiting]
        simp
      slots := by
        rw [Pool.mark, h.slots, Turn.slots, hwaiting, List.map_cons, modify_length_append]
        simp [Turn.slots, Turn.dealt, Turn.finishedSlots]
      answers := h.answers
      cancelled := h.cancelled
      early := h.early
      working := h.working
      skipped := fun _ => hc
      limit := h.limit }

theorem skipped_eq_nil (h : InTurn settings factory jobs first outside turn pool state)
    (hc : pool.cancelled = false) : turn.skipped = [] := by
  by_contra hs
  rw [h.skipped hs] at hc
  cases hc

/-- A worker without a job takes the next one. -/
theorem take {job : Job} {more : List Job}
    (h : InTurn settings factory jobs first outside turn pool state)
    (hwaiting : turn.waiting = job :: more) (hc : pool.cancelled = false)
    (hcurrent : turn.current = none) :
    InTurn settings factory jobs first outside
      { turn with current := some job, waiting := more } (pool.assign 1) state := by
  have hassign : pool.assign 1 = pool.mark turn.dealt.length .assigned := by
    rw [Pool.assign, h.findIdx?_waiting, if_neg (by rw [hwaiting]; exact List.cons_ne_nil _ _)]
    dsimp only
    rw [hc, if_neg Bool.false_ne_true, if_pos (by rw [h.busy_eq, hcurrent]; exact Nat.zero_lt_one)]
  have hskipped := h.skipped_eq_nil hc
  have hends := h.cancelled
  rw [hc] at hends
  obtain ⟨houtside, hany⟩ := Bool.or_eq_false_iff.mp hends.symm
  rw [hassign]
  exact
    { plan := by
        rw [← h.plan, Turn.jobs, Turn.jobs, hwaiting, hcurrent, hskipped]
        simp
      slots := by
        rw [Pool.mark, h.slots, Turn.slots, hwaiting, List.map_cons, modify_length_append]
        simp [Turn.slots, Turn.dealt, Turn.finishedSlots, hcurrent, hskipped]
      answers := h.answers
      cancelled := h.cancelled
      early := h.early
      working := fun _ => hany
      skipped := h.skipped
      limit := by
        intro count hcount
        rw [hcount] at houtside
        cases houtside }

theorem assign_of_waiting_nil (h : InTurn settings factory jobs first outside turn pool state)
    (hwaiting : turn.waiting = []) (workers : Nat) : pool.assign workers = pool := by
  rw [Pool.assign, h.findIdx?_waiting, if_pos hwaiting]

theorem assign_of_busy {job : Job} (h : InTurn settings factory jobs first outside turn pool state)
    (hcurrent : turn.current = some job) (hc : pool.cancelled = false) : pool.assign 1 = pool := by
  rw [Pool.assign]
  split
  · rfl
  · rw [hc, if_neg Bool.false_ne_true, if_neg (by rw [h.busy_eq, hcurrent]; exact Nat.lt_irrefl 1)]

theorem assign (h : InTurn settings factory jobs first outside turn pool state) :
    ∃ turn', InTurn settings factory jobs first outside turn' (pool.assign 1) state := by
  cases hwaiting : turn.waiting with
  | nil => exact ⟨turn, by rw [h.assign_of_waiting_nil hwaiting]; exact h⟩
  | cons job more =>
    cases hc : pool.cancelled with
    | true => exact ⟨_, h.skip hwaiting hc 1⟩
    | false =>
      cases hcurrent : turn.current with
      | none => exact ⟨_, h.take hwaiting hc hcurrent⟩
      | some current => exact ⟨turn, by rw [h.assign_of_busy hcurrent hc]; exact h⟩

theorem execute (h : InTurn settings factory jobs first outside turn pool state) (place : Nat) :
    ∃ turn' after kept, (pool.execute settings factory place).run state = (after, kept) ∧
      InTurn settings factory jobs first outside turn' after kept := by
  cases hcurrent : turn.current with
  | none => exact ⟨turn, pool, state, h.execute_idle hcurrent place, h⟩
  | some job =>
    by_cases hplace : place = turn.executed.length
    · obtain ⟨answer, after, kept, hrun, hafter⟩ := h.finish hcurrent
      exact ⟨_, after, kept, hplace ▸ hrun, hafter⟩
    · exact ⟨turn, pool, state, h.execute_other fun _ => hplace, h⟩

end InTurn

theorem workers_eq_one (h : settings.workers ≤ 1) : workers settings = 1 := by
  rw [workers]
  omega

/-- How many jobs had been started at the last time that a schedule cancelled the run. -/
def limitAfter (outside : Option Nat) (pool : Pool) : Move → Option Nat
  | .cancel => some pool.started
  | _ => outside

namespace InTurn

/-- Every move keeps the order of the parts. -/
theorem step (h : InTurn settings factory jobs first outside turn pool state)
    (hone : settings.workers ≤ 1) (move : Move) :
    ∃ turn' after kept, (pool.step settings factory move).run state = (after, kept) ∧
      InTurn settings factory jobs first (limitAfter outside pool move) turn' after kept := by
  cases move with
  | assign =>
    obtain ⟨turn', hassign⟩ := h.assign
    refine ⟨turn', pool.assign 1, state, ?_, hassign⟩
    rw [Pool.step, workers_eq_one hone]
    rfl
  | execute place => exact h.execute place
  | cancel =>
    refine ⟨turn, { pool with cancelled := true }, state, rfl, ?_⟩
    rw [limitAfter, h.started_eq]
    exact h.cancel

/-- Once the run is cancelled from outside, cancelling it again fixes the same number of jobs. -/
theorem limitAfter_some {count : Nat}
    (h : InTurn settings factory jobs first (some count) turn pool state) (move : Move) :
    limitAfter (some count) pool move = some count := by
  cases move with
  | assign => rfl
  | execute place => rfl
  | cancel => rw [limitAfter, h.started_eq, h.limit count rfl]

theorem schedule (h : InTurn settings factory jobs first outside turn pool state)
    (hone : settings.workers ≤ 1) (moves : List Move) :
    ∃ outside' turn' after kept,
      (moves.foldlM (Pool.step settings factory) pool).run state = (after, kept) ∧
        InTurn settings factory jobs first outside' turn' after kept ∧
        (Move.cancel ∉ moves → outside' = outside) ∧
        ∀ count, outside = some count → outside' = some count := by
  induction moves generalizing outside turn pool state with
  | nil => exact ⟨outside, turn, pool, state, rfl, h, fun _ => rfl, fun _ hc => hc⟩
  | cons move more ih =>
    obtain ⟨turn', middle, between, hrun, hmiddle⟩ := h.step hone move
    obtain ⟨outside', turn'', after, kept, hmore, hafter, hnever, hstays⟩ := ih hmiddle
    refine ⟨outside', turn'', after, kept, ?_, hafter, ?_, ?_⟩
    · rw [List.foldlM_cons, StateT.run_bind, hrun]
      exact hmore
    · intro hmoves
      rw [List.mem_cons, not_or] at hmoves
      rw [hnever hmoves.2]
      cases move with
      | assign => rfl
      | execute place => rfl
      | cancel => exact absurd rfl hmoves.1
    · rintro count rfl
      exact hstays count (h.limitAfter_some move)

theorem length_jobs (h : InTurn settings factory jobs first outside turn pool state) :
    turn.started + turn.skipped.length + turn.waiting.length = jobs.length := by
  rw [← h.plan, Turn.jobs, Turn.started]
  simp only [List.length_append]

/-- Executing at a place that the worker's job has not passed settles the job if it stands there. -/
theorem executeAt (h : InTurn settings factory jobs first outside turn pool state) {place : Nat}
    (hplace : turn.current.isSome = true → place ≤ turn.executed.length) :
    ∃ turn' after kept, (pool.execute settings factory place).run state = (after, kept) ∧
      InTurn settings factory jobs first outside turn' after kept ∧
      turn'.started + turn'.skipped.length = turn.started + turn.skipped.length ∧
      (turn'.current.isSome = true → place < turn'.executed.length) := by
  cases hcurrent : turn.current with
  | none =>
    refine ⟨turn, pool, state, h.execute_idle hcurrent place, h, rfl, ?_⟩
    rw [hcurrent]
    exact fun hc => nomatch hc
  | some job =>
    have hle := hplace (by rw [hcurrent]; rfl)
    rcases Nat.lt_or_eq_of_le hle with hlt | rfl
    · exact ⟨turn, pool, state, h.execute_other fun _ => Nat.ne_of_lt hlt, h, rfl, fun _ => hlt⟩
    · obtain ⟨answer, after, kept, hrun, hafter⟩ := h.finish hcurrent
      refine ⟨_, after, kept, hrun, hafter, ?_, fun hc => nomatch hc⟩
      rw [Turn.started, Turn.started, hcurrent]
      simp [Turn.finish]

/-- A waiting job is dealt with when its place comes: the worker is free by then. -/
theorem assignAt (h : InTurn settings factory jobs first outside turn pool state)
    {place : Nat} (hreach : place ≤ turn.started + turn.skipped.length)
    (hpassed : turn.current.isSome = true → place < turn.executed.length)
    (hplace : place < jobs.length) :
    ∃ turn', InTurn settings factory jobs first outside turn'
        (if (pool.slots[place]?.any (·.progress == .waiting)) then pool.assign 1 else pool) state ∧
      place < turn'.started + turn'.skipped.length ∧
      (turn'.current.isSome = true → place ≤ turn'.executed.length) := by
  rcases Nat.lt_or_eq_of_le hreach with hlt | heq
  · have hdealt : place < turn.dealt.length := by rw [h.length_dealt]; exact hlt
    have hslot : pool.slots[place]?.any (·.progress == .waiting) = false := by
      rw [h.slots, Turn.slots, List.getElem?_append_left hdealt, List.getElem?_eq_getElem hdealt,
        Option.any_some]
      exact beq_eq_false_iff_ne.mpr (ne_waiting_of_mem_dealt (List.getElem_mem hdealt))
    rw [hslot, if_neg Bool.false_ne_true]
    exact ⟨turn, h, hlt, fun hc => Nat.le_of_lt (hpassed hc)⟩
  · have hlength := h.length_jobs
    cases hwaiting : turn.waiting with
    | nil =>
      rw [hwaiting, List.length_nil] at hlength
      omega
    | cons job more =>
      have hslot : pool.slots[place]?.any (·.progress == .waiting) = true := by
        rw [h.slots, Turn.slots, List.getElem?_append_right (by rw [h.length_dealt]; omega),
          h.length_dealt, heq, Nat.sub_self, hwaiting]
        rfl
      have hcurrent : turn.current = none := by
        by_contra hsome
        have hlt := hpassed (Option.isSome_iff_ne_none.mpr hsome)
        rw [Turn.started] at heq
        omega
      rw [hslot, if_pos rfl]
      cases hc : pool.cancelled with
      | true =>
        refine ⟨_, h.skip hwaiting hc 1, ?_, ?_⟩
        · change place < turn.started + (turn.skipped ++ [job]).length
          rw [List.length_append, List.length_singleton]
          omega
        · change turn.current.isSome = true → _
          rw [hcurrent]
          exact fun hs => absurd hs Bool.false_ne_true
      | false =>
        -- nothing was skipped yet, so the job stands right behind the executed ones
        have hskipped := h.skipped_eq_nil hc
        rw [Turn.started, hcurrent, hskipped, Option.toList_none, List.length_nil, Nat.add_zero] at heq
        refine ⟨_, h.take hwaiting hc hcurrent, ?_, fun _ => Nat.le_of_eq heq⟩
        change place < turn.executed.length + 1 + turn.skipped.length
        omega

end InTurn

/-- The pool keeps its turn, the jobs before a place are dealt with, and the worker is past them. -/
def InTurnTo (settings : Settings) (factory : EmitterFactory (StateM σ)) (jobs : List Job) (first : σ)
    (outside : Option Nat) (place : Nat) (pool : Pool) (state : σ) : Prop :=
  ∃ turn, InTurn settings factory jobs first outside turn pool state ∧
    place ≤ turn.started + turn.skipped.length ∧
    (turn.current.isSome = true → place ≤ turn.executed.length)

theorem InTurnTo.settlePlace {place : Nat}
    (h : InTurnTo settings factory jobs first outside place pool state) (hone : settings.workers ≤ 1)
    (hplace : place < jobs.length) :
    ∃ after kept, (pool.settlePlace settings factory place).run state = (after, kept) ∧
      InTurnTo settings factory jobs first outside (place + 1) after kept := by
  obtain ⟨turn, h, hreach, hpassed⟩ := h
  obtain ⟨turn₁, pool₁, state₁, hrun₁, h₁, hreach₁, hpassed₁⟩ := h.executeAt hpassed
  obtain ⟨turn₂, h₂, hreach₂, hpassed₂⟩ :=
    h₁.assignAt (by rw [hreach₁]; exact hreach) hpassed₁ hplace
  obtain ⟨turn₃, pool₃, state₃, hrun₃, h₃, hreach₃, hpassed₃⟩ := h₂.executeAt hpassed₂
  refine ⟨pool₃, state₃, ?_, turn₃, h₃, by rw [hreach₃]; exact hreach₂, hpassed₃⟩
  rw [Pool.settlePlace, StateT.run_bind, hrun₁, workers_eq_one hone]
  exact hrun₃

/-- In the end every job has executed or is skipped. -/
theorem InTurn.settle (h : InTurn settings factory jobs first outside turn pool state)
    (hone : settings.workers ≤ 1) :
    ∃ turn' after kept, (pool.settle settings factory).run state = (after, kept) ∧
      InTurn settings factory jobs first outside turn' after kept ∧
      turn'.current = none ∧ turn'.waiting = [] := by
  have hlength : pool.slots.length = jobs.length := by
    rw [h.slots, Turn.slots, List.length_append, h.length_dealt, List.length_map, h.length_jobs]
  have hstart : InTurnTo settings factory jobs first outside 0 pool state :=
    ⟨turn, h, Nat.zero_le _, fun _ => Nat.zero_le _⟩
  obtain ⟨after, kept, hrun, turn', hafter, hreach, hpassed⟩ :=
    settle_induction hstart fun _ hplace _ _ hmiddle => hmiddle.settlePlace hone (hlength ▸ hplace)
  rw [hlength] at hreach hpassed
  have hjobs := hafter.length_jobs
  refine ⟨turn', after, kept, hrun, hafter, ?_, List.eq_nil_of_length_eq_zero (by omega)⟩
  by_contra hsome
  obtain ⟨job, hcurrent⟩ := Option.ne_none_iff_exists'.mp hsome
  have hle := hpassed (by rw [hcurrent]; rfl)
  rw [Turn.started, hcurrent, Option.toList_some, List.length_singleton] at hjobs
  omega

end EntityGen.Pool
