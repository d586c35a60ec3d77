import EntityGen.Proofs.Run.OneWorker

/-!
# Cancelling a run with one worker

However a run with one worker is scheduled and cancelled, it executes the front of its plan and skips
the rest, and its report accounts for both. It stops behind the job during which it was cancelled, from
outside or by the job itself, or behind the first failure where failures stop it. A crash is reported
as a failure too, but it never stops the run.
-/
namespace EntityGen

namespace Pool

variable {σ : Type} {factory : EmitterFactory (StateM σ)} {settings : Settings} {jobs : List Job}
  {schedule : List Move} {state : σ}

/-- What a pool reports of jobs from a place of the plan on. -/
def reportedFrom : (place : Nat) → List Job → List (Outcome × Bool) → List Outcome
  | place, job :: jobs, answer :: answers =>
    reported job place answer.1 :: reportedFrom (place + 1) jobs answers
  | _, _, _ => []

theorem reported_of_regular {job : Job} {outcome : Outcome} (h : outcome.Regular job)
    (place : Nat) : (reported job place outcome).Regular job := by
  cases h with
  | done hentity hfiles => exact .done hentity hfiles
  | failed => exact .failed

theorem reported_regular (job : Job) (factory : EmitterFactory (StateM σ)) (options : Options)
    (state : σ) (place : Nat) :
    (reported job place ((job.execute factory options).run state).1.1).Regular job := by
  rcases job.execute_regular_or_crashed factory options state with
    hregular | ⟨-, -, message, -, hcrashed⟩
  · exact reported_of_regular hregular place
  · rw [hcrashed]
    exact .failed

theorem reportedFrom_regular (factory : EmitterFactory (StateM σ)) (options : Options)
    (jobs : List Job) (place : Nat) (state : σ) :
    jobs.Forall₂ (fun job outcome => outcome.Regular job)
      (reportedFrom place jobs ((answerEach factory options jobs).run state).1) := by
  induction jobs generalizing place state with
  | nil => exact .nil
  | cons job rest ih =>
    have hregular := reported_regular job factory options state place
    cases hx : (job.execute factory options).run state with
    | mk answer middle =>
      rw [hx] at hregular
      rw [answerEach_cons hx]
      exact .cons hregular (ih (place + 1) middle)

/-- A reported failure is an answer that is not done. -/
theorem reportedFrom_failed {jobs : List Job} {answers : List (Outcome × Bool)}
    (hlength : answers.length = jobs.length) (place : Nat) :
    (∃ outcome ∈ reportedFrom place jobs answers, outcome.isFailed = true) ↔
      ∃ answer ∈ answers, answer.1.isDone = false := by
  induction jobs generalizing answers place with
  | nil =>
    obtain rfl := List.eq_nil_of_length_eq_zero hlength
    simp [reportedFrom]
  | cons job rest ih =>
    cases answers with
    | nil => cases hlength
    | cons answer more =>
      have hfirst : (reported job place answer.1).isFailed = true ↔ answer.1.isDone = false := by
        obtain ⟨outcome, stop⟩ := answer
        cases outcome <;> simp [reported, Outcome.isFailed, Outcome.isDone, Outcome.path?]
      rw [reportedFrom, List.exists_mem_cons_iff, List.exists_mem_cons_iff, hfirst,
        ih (Nat.succ.inj hlength) (place + 1)]

theorem collectFrom_skipped (jobs : List Job) (place : Nat) (collector : Collector) :
    collectFrom place collector (jobs.map (⟨·, .skipped⟩)) = collector.tally [] jobs.length := by
  induction jobs generalizing place collector with
  | nil => exact collector.tally_nil.symm
  | cons job rest ih =>
    rw [List.map_cons, collectFrom_cons, ih, List.length_cons]
    exact collector.tally_skip [] rest.length

/-- Slots of jobs that have executed or were skipped give the tally of what is reported of them. -/
theorem collectFrom_dealt (executed skipped : List Job) {answers : List (Outcome × Bool)}
    (hlength : answers.length = executed.length) (place : Nat) (collector : Collector) :
    collectFrom place collector
        ((executed.zip answers).map (fun entry => ⟨entry.1, .finished entry.2.1⟩) ++
          skipped.map (⟨·, .skipped⟩)) =
      collector.tally (executed.zip (reportedFrom place executed answers)) skipped.length := by
  induction executed generalizing answers place collector with
  | nil =>
    obtain rfl := List.eq_nil_of_length_eq_zero hlength
    exact collectFrom_skipped skipped place collector
  | cons job rest ih =>
    cases answers with
    | nil => cases hlength
    | cons answer more =>
      rw [List.zip_cons_cons, List.map_cons, List.cons_append, collectFrom_cons,
        ih (Nat.succ.inj hlength), reportedFrom, List.zip_cons_cons]
      exact collectSlot_finished collector job answer.1 place _ _

theorem collect_eq_tally {turn : Turn} {outside : Option Nat} {first : σ} {pool : Pool}
    (h : InTurn settings factory jobs first outside turn pool state)
    (hcurrent : turn.current = none) (hwaiting : turn.waiting = []) :
    pool.collect = Collector.empty.tally
      (turn.executed.zip (reportedFrom 0 turn.executed turn.answers)) turn.skipped.length := by
  have hslots : pool.slots = (turn.executed.zip turn.answers).map
      (fun entry => (⟨entry.1, .finished entry.2.1⟩ : Slot)) ++ turn.skipped.map (⟨·, .skipped⟩) := by
    rw [h.slots, Turn.slots, Turn.dealt, hcurrent, hwaiting, Turn.finishedSlots]
    simp
  rw [Pool.collect, hslots]
  exact collectFrom_dealt turn.executed turn.skipped h.length_answers 0 .empty

/-- The pool after the first moves of a schedule. -/
def afterMoves (settings : Settings) (factory : EmitterFactory (StateM σ)) (jobs : List Job)
    (moves : List Move) (state : σ) : Pool :=
  ((moves.foldlM (step settings factory) (start jobs)).run state).1

/-- Where a run stops. Only the last job that executes may end it. Cancelled from outside, the run
executes the jobs that had been started by then, so up to the one that the worker had. -/
structure Stops (settings : Settings) (factory : EmitterFactory (StateM σ)) (jobs : List Job)
    (schedule : List Move) (state : σ) (executed skipped : List Job)
    (answers : List (Outcome × Bool)) : Prop where
  early : ∀ answer ∈ answers.dropLast, endsRun settings.failFast answer = false
  ended : Move.cancel ∉ schedule → skipped ≠ [] →
    ∃ answer, answers.getLast? = some answer ∧ endsRun settings.failFast answer = true
  atOnce : schedule.head? = some .cancel → executed = []
  during : ∀ before rest place job, schedule = before ++ .cancel :: rest →
    (afterMoves settings factory jobs before state).slots[place]? = some ⟨job, .assigned⟩ →
    executed = jobs.take (place + 1)
  outside : ∀ before rest, schedule = before ++ .cancel :: rest →
    executed.length = (afterMoves settings factory jobs before state).started

/-- A run from some point of its turn on: the moves that are left, then what they leave open. -/
theorem InTurn.complete {turn : Turn} {outside : Option Nat} {first : σ} {pool : Pool}
    (h : InTurn settings factory jobs first outside turn pool state)
    (hone : settings.workers ≤ 1) (moves : List Move) :
    ∃ outside' turn' after kept,
      (moves.foldlM (Pool.step settings factory) pool >>= (·.settle settings factory)).run state =
          (after, kept) ∧
        InTurn settings factory jobs first outside' turn' after kept ∧
        turn'.current = none ∧ turn'.waiting = [] ∧
        (Move.cancel ∉ moves → outside' = outside) ∧
        ∀ count, outside = some count → outside' = some count := by
  obtain ⟨outside', turn', middle, between, hrun, hmiddle, hnever, hstays⟩ := h.schedule hone moves
  obtain ⟨turn'', after, kept, hsettle, hafter, hcurrent, hwaiting⟩ := hmiddle.settle hone
  refine ⟨outside', turn'', after, kept, ?_, hafter, hcurrent, hwaiting, hnever, hstays⟩
  rw [StateT.run_bind, hrun]
  exact hsettle

theorem InTurn.executed_append_skipped {turn : Turn} {outside : Option Nat} {first : σ} {pool : Pool}
    (h : InTurn settings factory jobs first outside turn pool state) (hcurrent : turn.current = none)
    (hwaiting : turn.waiting = []) : turn.executed ++ turn.skipped = jobs := by
  rw [← h.plan, Turn.jobs, hcurrent, hwaiting, Option.toList_none, List.append_nil,
    List.append_nil]

theorem started_start (jobs : List Job) : (start jobs).started = 0 := by
  rw [started, start, List.countP_map, List.countP_eq_zero]
  exact fun _ _ => Bool.false_ne_true

/-- The pool where a schedule cancels the run from outside, and what has started in the end: just what
had started by then. -/
theorem started_of_cancel (hone : settings.workers ≤ 1) {before rest : List Move} {first kept : σ}
    {after : Pool}
    (hrun : ((before ++ .cancel :: rest).foldlM (step settings factory) (start jobs) >>=
      (·.settle settings factory)).run first = (after, kept)) :
    ∃ outside turn state,
      InTurn settings factory jobs first outside turn
        (afterMoves settings factory jobs before first) state ∧ after.started = turn.started := by
  obtain ⟨outside, turn, pool, state, hbefore, hturn, -, -⟩ :=
    (inTurn_start settings factory jobs first).schedule hone before
  have hpool : afterMoves settings factory jobs before first = pool := by rw [afterMoves, hbefore]
  obtain ⟨outside', turn', after', kept', hrest, hafter, -, -, -, hstays⟩ :=
    hturn.cancel.complete hone rest
  have hsame : (after', kept') = (after, kept) := by
    rw [← hrest, ← hrun, List.foldlM_append, StateT.run_bind, StateT.run_bind, StateT.run_bind,
      hbefore]
    rfl
  obtain ⟨rfl, rfl⟩ := Prod.mk.inj hsame
  refine ⟨outside, turn, state, hpool ▸ hturn, ?_⟩
  rw [hafter.started_eq, hafter.limit _ (hstays _ rfl)]

/-- Without a cancellation from outside jobs are skipped behind an answer that ends the run, and no
other job has answered since. -/
theorem InTurn.last_ends {turn : Turn} {first : σ} {pool : Pool}
    (h : InTurn settings factory jobs first none turn pool state) (hskipped : turn.skipped ≠ []) :
    ∃ answer, turn.answers.getLast? = some answer ∧ endsRun settings.failFast answer = true := by
  have hany := h.cancelled
  rw [h.skipped hskipped, Option.isSome_none, Bool.false_or] at hany
  obtain ⟨answer, hm, hends⟩ := List.any_eq_true.mp hany.symm
  have hsome : turn.answers ≠ [] := List.ne_nil_of_mem hm
  refine ⟨turn.answers.getLast hsome, List.getLast?_eq_getLast_of_ne_nil hsome, ?_⟩
  rw [← List.dropLast_append_getLast hsome, List.mem_append, List.mem_singleton] at hm
  rcases hm with hfront | rfl
  · have hearly := List.any_eq_false.mp h.early answer hfront
    exact absurd hends hearly
  · exact hends

theorem stops_of_inTurn (hone : settings.workers ≤ 1) {first kept : σ} {after : Pool} {turn : Turn}
    {outside : Option Nat}
    (hrun : (schedule.foldlM (step settings factory) (start jobs) >>=
      (·.settle settings factory)).run first = (after, kept))
    (h : InTurn settings factory jobs first outside turn after kept)
    (hcurrent : turn.current = none) (hwaiting : turn.waiting = [])
    (hnever : Move.cancel ∉ schedule → outside = none) :
    Stops settings factory jobs schedule first turn.executed turn.skipped turn.answers := by
  have hplan := h.executed_append_skipped hcurrent hwaiting
  have hstarted : after.started = turn.executed.length := by
    rw [h.started_eq, Turn.started, hcurrent]
    rfl
  have houtside : ∀ before rest, schedule = before ++ .cancel :: rest →
      ∃ outside' turn' state', InTurn settings factory jobs first outside' turn'
        (afterMoves settings factory jobs before first) state' ∧
        turn.executed.length = turn'.started := by
    rintro before rest rfl
    obtain ⟨outside', turn', state', hturn', hcount⟩ := started_of_cancel hone hrun
    exact ⟨outside', turn', state', hturn', hstarted ▸ hcount⟩
  exact
    { early := by simpa using h.early
      ended := by
        intro hc
        obtain rfl := hnever hc
        exact h.last_ends
      atOnce := by
        intro hhead
        obtain ⟨rest, rfl⟩ := List.head?_eq_some_iff.mp hhead
        obtain ⟨outside', turn', state', hturn', hcount⟩ := houtside [] rest rfl
        refine List.eq_nil_of_length_eq_zero ?_
        rw [hcount, ← hturn'.started_eq]
        exact started_start jobs
      during := by
        intro before rest place job hschedule hslot
        obtain ⟨outside', turn', state', hturn', hcount⟩ := houtside before rest hschedule
        obtain ⟨hjob, rfl⟩ := hturn'.getElem?_eq_assigned_iff.mp hslot
        have hlength : turn.executed.length = turn'.executed.length + 1 := by
          rw [hcount, Turn.started, hjob]
          rfl
        rw [← hlength, ← hplan, List.take_left]
      outside := by
        intro before rest hschedule
        obtain ⟨outside', turn', state', hturn', hcount⟩ := houtside before rest hschedule
        rw [hcount, hturn'.started_eq] }

/-- A run with one worker executes the front of the plan, one job after the other, and skips the
rest. -/
theorem run_one_worker (hone : settings.workers ≤ 1) (factory : EmitterFactory (StateM σ))
    (schedule : List Move) (jobs : List Job) (state : σ) :
    ∃ executed skipped answers after, executed ++ skipped = jobs ∧
      (answerEach factory settings.options executed).run state = (answers, after) ∧
      (Pool.run settings factory schedule jobs).run state =
        (Collector.empty.tally (executed.zip (reportedFrom 0 executed answers)) skipped.length,
          after) ∧
      Stops settings factory jobs schedule state executed skipped answers := by
  obtain ⟨outside, turn, pool, after, hrun, hturn, hcurrent, hwaiting, hnever, -⟩ :=
    (inTurn_start settings factory jobs state).complete hone schedule
  have hplan := hturn.executed_append_skipped hcurrent hwaiting
  refine ⟨turn.executed, turn.skipped, turn.answers, after, hplan, hturn.answers, ?_,
    stops_of_inTurn hone hrun hturn hcurrent hwaiting hnever⟩
  rw [← collect_eq_tally hturn hcurrent hwaiting]
  have hcollect : (Pool.run settings factory schedule jobs).run state =
      ((schedule.foldlM (step settings factory) (start jobs) >>= (·.settle settings factory)) >>=
        fun pool => pure pool.collect).run state := by
    rw [bind_assoc]
    rfl
  rw [hcollect, StateT.run_bind, hrun]
  rfl

end Pool

variable {σ : Type}

/-- The report of a run on one worker, given the jobs that it executed with their answers and the jobs
that it skipped. -/
structure TurnAccount (schema : Schema) (executed skipped : List Job)
    (answers : List (Outcome × Bool)) (report : Report) : Prop
    extends Tallied executed skipped (Pool.reportedFrom 0 executed answers) report where
  total : report.tablesProcessed + report.tablesSkipped = schema.entityCount
  failed : report.status = .failed ↔ ∃ answer ∈ answers, answer.1.isDone = false
  cancelled : report.status = .cancelled ↔
    (∀ answer ∈ answers, answer.1.isDone = true) ∧ skipped ≠ []
  completed : report.status = .completed ↔
    (∀ answer ∈ answers, answer.1.isDone = true) ∧ skipped = []

theorem turnAccount_tally {schema : Schema} {settings : Settings} {executed skipped : List Job}
    {answers : List (Outcome × Bool)} (hplan : executed ++ skipped = schema.plan settings)
    (hnames : ((schema.plan settings).map Job.name).Nodup)
    (hlength : answers.length = executed.length)
    (hregular : executed.Forall₂ (fun job outcome => outcome.Regular job)
      (Pool.reportedFrom 0 executed answers)) (stamp : RunStamp) :
    TurnAccount schema executed skipped answers
      ((Collector.empty.tally (executed.zip (Pool.reportedFrom 0 executed answers))
        skipped.length).report stamp) := by
  have htallied := tallied_report (hplan ▸ hnames) hregular stamp
  have hfailed := (exists_failed_zip hregular.length_eq).trans (Pool.reportedFrom_failed hlength 0)
  have hdone : (∀ entry ∈ executed.zip (Pool.reportedFrom 0 executed answers),
      entry.2.isFailed = false) ↔ ∀ answer ∈ answers, answer.1.isDone = true := by
    simpa only [not_exists, not_and, Bool.not_eq_true, Bool.not_eq_false] using not_congr hfailed
  exact
    { htallied with
      total := by
        rw [htallied.processed, htallied.passed, ← schema.plan_length settings, ← hplan,
          List.length_append]
      failed := (status_tally_eq_failed_iff _ _).trans hfailed
      cancelled :=
        (status_tally_eq_cancelled_iff _ _).trans (and_congr hdone List.length_pos_iff)
      completed :=
        (status_tally_eq_completed_iff _ _).trans (and_congr hdone List.length_eq_zero_iff) }

/-- A run on one worker, however it is scheduled, cancelled from outside or asked to stop by its jobs:
a refused schema is the answer itself, cancelled or not. Otherwise the run executes the front of the
plan and skips the rest, it leaves the sink as the executed jobs leave it, and its report accounts for
both. A crash is a failure in the report, but it does not end the run. -/
theorem generate_stops_in_turn (schema : Schema) (settings : Settings)
    (hone : settings.workers ≤ 1) (factory : EmitterFactory (StateM σ)) (stamp : RunStamp)
    (schedule : List Move) (state : σ) :
    (∀ fault, schema.check = .error fault →
      schema.generate settings factory stamp schedule = pure (.error (.rejected fault))) ∧
    (schema.check = .ok () → ∃ executed skipped answers report after,
      executed ++ skipped = schema.plan settings ∧
      (answerEach factory settings.options executed).run state = (answers, after) ∧
      (schema.generate settings factory stamp schedule).run state = (.ok report, after) ∧
      Pool.Stops settings factory (schema.plan settings) schedule state executed skipped answers ∧
      TurnAccount schema executed skipped answers report) := by
  constructor
  · intro fault hc
    rw [Schema.generate, hc]
  · intro hc
    have hnames := Schema.plan_names_nodup hc settings
    obtain ⟨executed, skipped, answers, after, hplan, hanswers, hrun, hstops⟩ :=
      Pool.run_one_worker hone factory schedule (schema.plan settings) state
    have hlength := length_answerEach factory settings.options executed state
    have hregular := Pool.reportedFrom_regular factory settings.options executed 0 state
    rw [hanswers] at hlength hregular
    refine ⟨executed, skipped, answers, _, after, hplan, hanswers, ?_, hstops,
      turnAccount_tally hplan hnames hlength hregular stamp⟩
    have hfits : ¬Pool.maxWorkers < Pool.workers settings := by
      rw [Pool.workers_eq_one hone]
      decide
    rw [Schema.generate, hc]
    dsimp only
    rw [if_neg hfits, StateT.run_bind, hrun]
    rfl

/-- Of three tables the second one is in work when the run is cancelled: it is finished, and the third
one is not touched. -/
theorem generate_stops_in_turn_during_second :
    let schema : Schema := ⟨"d", none, [⟨"a", [], []⟩, ⟨"b", [], []⟩, ⟨"c", [], []⟩], []⟩
    let settings : Settings := { workers := 1, packageBase := "p" }
    let schedule : List Move := [.assign, .execute 0, .assign, .cancel]
    let stamp : RunStamp := ⟨"r", ⟨0⟩, ⟨0⟩⟩
    settings.workers ≤ 1 ∧ schema.check = .ok () ∧
    ∃ executed skipped answers report,
      executed.map Job.name = ["a", "b"] ∧ skipped.map Job.name = ["c"] ∧
      (schema.generate settings (refusing "") stamp schedule).run [] = (.ok report, ["a", "b"]) ∧
      TurnAccount schema executed skipped answers report ∧ report.status = .cancelled := by
  intro schema settings schedule stamp
  have hcheck : schema.check = .ok () := by decide +kernel
  have hone : settings.workers ≤ 1 := by decide
  obtain ⟨executed, skipped, answers, report, after, hplan, hanswers, hrun, hstops, haccount⟩ :=
    (generate_stops_in_turn schema settings hone (refusing "") stamp schedule []).2 hcheck
  have hlength : executed.length = 2 := by
    rw [hstops.outside [.assign, .execute 0, .assign] [] rfl]
    decide +kernel
  have hexecuted : executed = (schema.plan settings).take 2 := by
    rw [← hplan, ← hlength, List.take_left]
  have hskipped : skipped = (schema.plan settings).drop 2 := by
    rw [← hplan, ← hlength, List.drop_left]
  have hafter : after = ["a", "b"] := by
    have hnoted : ((answerEach (refusing "") settings.options
        ((schema.plan settings).take 2)).run []).2 = ["a", "b"] := by decide +kernel
    rw [← hexecuted, hanswers] at hnoted
    exact hnoted
  have hdone : ∀ answer ∈ answers, answer.1.isDone = true := by
    have hall : ∀ answer ∈ ((answerEach (refusing "") settings.options
        ((schema.plan settings).take 2)).run []).1, answer.1.isDone = true := by decide +kernel
    rw [← hexecuted, hanswers] at hall
    exact hall
  refine ⟨hone, hcheck, executed, skipped, answers, report, ?_, ?_, hafter ▸ hrun, haccount, ?_⟩
  · rw [hexecuted]
    decide +kernel
  · rw [hskipped]
    decide +kernel
  · rw [haccount.cancelled, hskipped]
    exact ⟨hdone, by decide +kernel⟩

/-- Emitters that note every name and crash over one of them. -/
def crashing (crashed : String) : EmitterFactory (StateM (List String)) :=
  fun name => return fun entity options => do
    modify (· ++ [name])
    return ⟨if name = crashed then .crashed "x" else .written (entity.artifact options), false⟩

/-- Failures stop this run and its first job is reported as failed, and yet the second one
executes. -/
theorem generate_goes_on_behind_crash :
    let schema : Schema := ⟨"d", none, [⟨"a", [], []⟩, ⟨"b", [], []⟩], []⟩
    let settings : Settings := { workers := 1, failFast := true, packageBase := "p" }
    let stamp : RunStamp := ⟨"r", ⟨0⟩, ⟨0⟩⟩
    ∃ report, (schema.generate settings (crashing "a") stamp []).run [] =
        (.ok report, ["a", "b"]) ∧
      report.status = .failed ∧ report.errors.map (·.table) = ["a"] ∧
      report.artifacts.map (·.table) = ["b"] ∧ report.tablesSkipped = 0 := by
  intro schema settings stamp
  cases hrun : (schema.generate settings (crashing "a") stamp []).run [] with
  | mk answer after =>
    have hafter : ((schema.generate settings (crashing "a") stamp []).run []).2 = ["a", "b"] := by
      decide +kernel
    have hreport : ((schema.generate settings (crashing "a") stamp []).run []).1.toOption.any
        (fun report => report.status = .failed ∧ report.errors.map (·.table) = ["a"] ∧
          report.artifacts.map (·.table) = ["b"] ∧ report.tablesSkipped = 0) = true := by
      decide +kernel
    rw [hrun] at hafter hreport
    cases answer with
    | error halt => cases hreport
    | ok report => exact ⟨report, by rw [← hafter], of_decide_eq_true hreport⟩

end EntityGen
