import EntityGen.Proofs.Run.Steps

/-!
# The turn of a pool with one worker

One worker executes one job after the other. At any time the plan falls into the jobs that have
executed, the job that the worker has, the jobs that were skipped and the jobs that wait, in this order.
`InTurn` says so of a pool, and ties to it why the run is cancelled if it is.
-/
namespace EntityGen

section
variable {m : Type → Type} [Monad m]

/-- Executes jobs one after the other and lists what came of each and whether the run was asked to stop
meanwhile. -/
def answerEach (factory : EmitterFactory m) (options : Options) (jobs : List Job) :
    m (List (Outcome × Bool)) :=
  jobs.mapM (·.execute factory options)

end

variable {σ : Type} {factory : EmitterFactory (StateM σ)}

theorem answerEach_cons {options : Options} {job : Job} {state middle : σ} {answer : Outcome × Bool}
    (h : (job.execute factory options).run state = (answer, middle)) (rest : List Job) :
    (answerEach factory options (job :: rest)).run state =
      (answer :: ((answerEach factory options rest).run middle).1,
        ((answerEach factory options rest).run middle).2) := by
  rw [answerEach, List.mapM_cons, StateT.run_bind, h]
  rfl

theorem answerEach_append_singleton {options : Options} {jobs : List Job} {job : Job}
    {first middle after : σ} {answers : List (Outcome × Bool)} {answer : Outcome × Bool}
    (h : (answerEach factory options jobs).run first = (answers, middle))
    (hx : (job.execute factory options).run middle = (answer, after)) :
    (answerEach factory options (jobs ++ [job])).run first = (answers ++ [answer], after) := by
  have hjob : (answerEach factory options [job]).run middle = ([answer], after) :=
    answerEach_cons hx []
  rw [answerEach, List.mapM_append, StateT.run_bind, ← answerEach, h]
  change StateT.run (answerEach factory options [job] >>= _) middle = _
  rw [StateT.run_bind, hjob]
  rfl

theorem length_answerEach (factory : EmitterFactory (StateM σ)) (options : Options)
    (jobs : List Job) (state : σ) :
    ((answerEach factory options jobs).run state).1.length = jobs.length := by
  induction jobs generalizing state with
  | nil => rfl
  | cons job rest ih =>
    cases hx : (job.execute factory options).run state with
    | mk answer middle => rw [answerEach_cons hx, List.length_cons, List.length_cons, ih]

/-- A worker has taken the job. -/
def Progress.isStarted : Progress → Bool
  | .assigned | .finished _ => true
  | .waiting | .skipped => false

namespace Pool

/-- The number of jobs that the worker has taken so far. -/
def started (pool : Pool) : Nat := pool.slots.countP (·.progress.isStarted)

/-- The parts into which a plan falls while one worker runs it. -/
structure Turn where
  executed : List Job
  answers : List (Outcome × Bool)
  /-- The job that the worker has. -/
  current : Option Job
  skipped : List Job
  waiting : List Job

namespace Turn

def jobs (turn : Turn) : List Job :=
  turn.executed ++ turn.current.toList ++ turn.skipped ++ turn.waiting

def finishedSlots (turn : Turn) : List Slot :=
  (turn.executed.zip turn.answers).map fun entry => ⟨entry.1, .finished entry.2.1⟩

/-- The slots of the jobs that do not wait. -/
def dealt (turn : Turn) : List Slot :=
  turn.finishedSlots ++ turn.current.toList.map (⟨·, .assigned⟩) ++
    turn.skipped.map (⟨·, .skipped⟩)

def slots (turn : Turn) : List Slot := turn.dealt ++ turn.waiting.map (⟨·, .waiting⟩)

def started (turn : Turn) : Nat := turn.executed.length + turn.current.toList.length

/-- The turn when the worker is done with its job. -/
def finish (turn : Turn) (job : Job) (answer : Outcome × Bool) : Turn where
  executed := turn.executed ++ [job]
  answers := turn.answers ++ [answer]
  current := none
  skipped := turn.skipped
  waiting := turn.waiting

end Turn

/-- A pool with one worker that started with the sink in state `first`. `outside` tells how many jobs
had been started when the run was cancelled from outside, if it was. -/
structure InTurn (settings : Settings) (factory : EmitterFactory (StateM σ)) (jobs : List Job)
    (first : σ) (outside : Option Nat) (turn : Turn) (pool : Pool) (state : σ) : Prop where
  plan : turn.jobs = jobs
  slots : pool.slots = turn.slots
  answers : (answerEach factory settings.options turn.executed).run first = (turn.answers, state)
  cancelled : pool.cancelled = (outside.isSome || turn.answers.any (endsRun settings.failFast))
  early : turn.answers.dropLast.any (endsRun settings.failFast) = false
  working : turn.current.isSome = true → turn.answers.any (endsRun settings.failFast) = false
  skipped : turn.skipped ≠ [] → pool.cancelled = true
  limit : ∀ count, outside = some count → turn.started = count

variable {settings : Settings} {jobs : List Job} {first : σ} {outside : Option Nat} {turn : Turn}
  {pool : Pool} {state : σ}

theorem inTurn_start (settings : Settings) (factory : EmitterFactory (StateM σ)) (jobs : List Job)
    (first : σ) : InTurn settings factory jobs first none ⟨[], [], none, [], jobs⟩ (start jobs)
      first where
  plan := rfl
  slots := rfl
  answers := rfl
  cancelled := rfl
  early := rfl
  working _ := rfl
  skipped h := absurd rfl h
  limit _ h := nomatch h

namespace InTurn

theorem length_answers (h : InTurn settings factory jobs first outside turn pool state) :
    turn.answers.length = turn.executed.length := by
  have hlength := length_answerEach factory settings.options turn.executed first
  rwa [h.answers] at hlength

theorem length_finishedSlots (h : InTurn settings factory jobs first outside turn pool state) :
    turn.finishedSlots.length = turn.executed.length := by
  rw [Turn.finishedSlots, List.length_map, List.length_zip, h.length_answers, Nat.min_self]

theorem length_dealt (h : InTurn settings factory jobs first outside turn pool state) :
    turn.dealt.length = turn.started + turn.skipped.length := by
  rw [Turn.dealt, List.length_append, List.length_append, List.length_map, List.length_map,
    h.length_finishedSlots, Turn.started]

/-- A property of progress is counted part by part. -/
theorem countP (h : InTurn settings factory jobs first outside turn pool state)
    (p : Progress → Bool) (done : Bool) (hdone : ∀ outcome, p (.finished outcome) = done) :
    pool.slots.countP (fun slot => p slot.progress) =
      (if done then turn.executed.length else 0) +
        (if p .assigned then turn.current.toList.length else 0) +
        (if p .skipped then turn.skipped.length else 0) +
        (if p .waiting then turn.waiting.length else 0) := by
  have hfinished : turn.finishedSlots.countP (fun slot => p slot.progress) =
      if done then turn.executed.length else 0 := by
    have hall : ∀ slot ∈ turn.finishedSlots, p slot.progress = done := by
      intro slot hm
      obtain ⟨entry, -, rfl⟩ := List.mem_map.mp hm
      exact hdone entry.2.1
    rw [List.countP_congr (q := fun _ => done) fun slot hm => by rw [hall slot hm]]
    cases done with
    | true => rw [if_pos rfl, List.countP_true, h.length_finishedSlots]
    | false => rw [if_neg Bool.false_ne_true, List.countP_false]; rfl
  have hsame : ∀ (progress : Progress) (part : List Job),
      (part.map fun job => (⟨job, progress⟩ : Slot)).countP (fun slot => p slot.progress) =
        if p progress then part.length else 0 := by
    intro progress part
    rw [List.countP_map]
    change part.countP (fun _ => p progress) = _
    cases p progress with
    | true => rw [if_pos rfl, List.countP_true]
    | false => rw [if_neg Bool.false_ne_true, List.countP_false]; rfl
  rw [h.slots, Turn.slots, Turn.dealt, List.countP_append, List.countP_append, List.countP_append,
    hfinished, hsame, hsame, hsame]

/-- The pool counts as started what the turn has executed or works on. -/
theorem started_eq (h : InTurn settings factory jobs first outside turn pool state) :
    pool.started = turn.started := by
  rw [Pool.started, h.countP Progress.isStarted true fun _ => rfl]
  rfl

/-- The worker is busy exactly when it has a job. -/
theorem busy_eq (h : InTurn settings factory jobs first outside turn pool state) :
    pool.busy = turn.current.toList.length := by
  rw [Pool.busy, h.countP (· == .assigned) false fun _ => rfl]
  exact Nat.zero_add _

theorem ne_waiting_of_mem_dealt {slot : Slot} (h : slot ∈ turn.dealt) :
    slot.progress ≠ .waiting := by
  rw [Turn.dealt, List.mem_append, List.mem_append] at h
  rcases h with (hf | hc) | hs
  · obtain ⟨entry, -, rfl⟩ := List.mem_map.mp hf
    exact fun hw => nomatch hw
  · obtain ⟨job, -, rfl⟩ := List.mem_map.mp hc
    exact fun hw => nomatch hw
  · obtain ⟨job, -, rfl⟩ := List.mem_map.mp hs
    exact fun hw => nomatch hw

theorem findIdx?_waiting (h : InTurn settings factory jobs first outside turn pool state) :
    pool.slots.findIdx? (·.progress == .waiting) =
      if turn.waiting = [] then none else some turn.dealt.length := by
  rw [h.slots, Turn.slots]
  exact findIdx?_waiting_append fun _ hm => ne_waiting_of_mem_dealt hm

/-- The worker's job is the only one that is assigned. -/
theorem getElem?_eq_assigned_iff (h : InTurn settings factory jobs first outside turn pool state)
    {place : Nat} {job : Job} :
    pool.slots[place]? = some ⟨job, .assigned⟩ ↔
      turn.current = some job ∧ place = turn.executed.length := by
  have hfinished : (⟨job, .assigned⟩ : Slot) ∉ turn.finishedSlots := by
    intro hm
    obtain ⟨entry, -, he⟩ := List.mem_map.mp hm
    cases he
  have hbehind : (⟨job, .assigned⟩ : Slot) ∉
      turn.skipped.map (⟨·, .skipped⟩) ++ turn.waiting.map (⟨·, .waiting⟩) := by
    intro hm
    rcases List.mem_append.mp hm with hs | hw
    · obtain ⟨other, -, he⟩ := List.mem_map.mp hs
      cases he
    · obtain ⟨other, -, he⟩ := List.mem_map.mp hw
      cases he
  rw [h.slots, Turn.slots, Turn.dealt, List.append_assoc, List.append_assoc]
  constructor
  · intro hslot
    have hplace : turn.executed.length ≤ place := by
      by_contra hlt
      rw [List.getElem?_append_left (by rw [h.length_finishedSlots]; omega)] at hslot
      exact hfinished (List.mem_of_getElem? hslot)
    rw [List.getElem?_append_right (by rw [h.length_finishedSlots]; omega),
      h.length_finishedSlots] at hslot
    cases hcurrent : turn.current with
    | none =>
      rw [hcurrent] at hslot
      exact absurd (List.mem_of_getElem? hslot) hbehind
    | some current =>
      rw [hcurrent] at hslot
      cases hoffset : place - turn.executed.length with
      | zero =>
        rw [hoffset] at hslot
        obtain rfl : current = job := congrArg Slot.job (Option.some.inj hslot)
        exact ⟨rfl, by omega⟩
      | succ offset =>
        rw [hoffset, Option.toList_some, List.map_singleton, List.singleton_append,
          List.getElem?_cons_succ] at hslot
        exact absurd (List.mem_of_getElem? hslot) hbehind
  · rintro ⟨hcurrent, rfl⟩
    rw [List.getElem?_append_right (by rw [h.length_finishedSlots]), h.length_finishedSlots,
      Nat.sub_self, hcurrent]
    rfl

end InTurn

end Pool
end EntityGen
