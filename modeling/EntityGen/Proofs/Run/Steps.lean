import EntityGen.Proofs.Run.Course

/-!
# Steps of a pool

The waiting jobs of a pool stand behind the ones that it has dealt with, and the next of them is found
there. An assigned job that executes changes its own slot. What a schedule leaves open is settled place
by place, and what came of the jobs is collected in the same order.
-/
namespace EntityGen

/-- A run ends with a job that asks it to stop, or that fails where failures stop the run. -/
def endsRun (failFast : Bool) (answer : Outcome × Bool) : Bool :=
  answer.2 || (failFast && answer.1.isFailed)

namespace Pool

theorem modify_length_append {α : Type} (front back : List α) (a : α) (f : α → α) :
    (front ++ a :: back).modify front.length f = front ++ f a :: back := by
  induction front with
  | nil => rfl
  | cons b rest ih => rw [List.cons_append, List.length_cons, List.modify_succ_cons, ih]; rfl

/-- The first waiting job stands behind the jobs that are dealt with. -/
theorem findIdx?_waiting_append {front : List Slot} {rest : List Job}
    (h : ∀ slot ∈ front, slot.progress ≠ .waiting) :
    (front ++ rest.map fun job => (⟨job, .waiting⟩ : Slot)).findIdx? (·.progress == .waiting) =
      if rest = [] then none else some front.length := by
  have hfront : front.findIdx? (·.progress == .waiting) = none := by
    rw [List.findIdx?_eq_none_iff]
    intro slot hm
    exact beq_eq_false_iff_ne.mpr (h slot hm)
  rw [List.findIdx?_append, hfront, Option.none_or]
  cases rest with
  | nil => rfl
  | cons job more => simp [List.findIdx?_cons]

/-- Waiting jobs keep no worker busy. -/
theorem countP_assigned_append (front : List Slot) (rest : List Job) :
    (front ++ rest.map fun job => (⟨job, .waiting⟩ : Slot)).countP (·.progress == .assigned) =
      front.countP (·.progress == .assigned) := by
  have hrest : (rest.map fun job => (⟨job, .waiting⟩ : Slot)).countP (·.progress == .assigned) = 0 := by
    rw [List.countP_eq_zero]
    intro slot hm
    obtain ⟨job, -, rfl⟩ := List.mem_map.mp hm
    exact Bool.false_ne_true
  rw [List.countP_append, hrest, Nat.add_zero]

section
variable {σ : Type} {settings : Settings} {factory : EmitterFactory (StateM σ)} {pool : Pool}
  {state : σ}

theorem execute_run_of_answer {place : Nat} {job : Job} {answer : Outcome × Bool} {after : σ}
    (h : pool.slots[place]? = some ⟨job, .assigned⟩)
    (hx : (job.execute factory settings.options).run state = (answer, after)) :
    (pool.execute settings factory place).run state =
      (⟨pool.slots.modify place fun slot => { slot with progress := .finished answer.1 },
        pool.cancelled || endsRun settings.failFast answer⟩, after) := by
  rw [Pool.execute, h]
  dsimp only
  rw [StateT.run_bind, hx, endsRun, ← Bool.or_assoc]
  rfl

theorem execute_run_of_not_assigned {place : Nat}
    (h : ∀ job, pool.slots[place]? ≠ some ⟨job, .assigned⟩) (settings : Settings)
    (factory : EmitterFactory (StateM σ)) (state : σ) :
    (pool.execute settings factory place).run state = (pool, state) := by
  unfold Pool.execute
  split
  · next job hj => exact absurd hj (h job)
  · rfl

end

/-- The first jobs of the plan have come their way. -/
def SettledUpTo (place : Nat) (front : List Slot) : Prop :=
  place ≤ front.length ∧ ∀ slot ∈ front.take place, slot.progress ≠ .assigned

theorem settledUpTo_zero (front : List Slot) : SettledUpTo 0 front := by
  refine ⟨Nat.zero_le _, fun slot hm => ?_⟩
  rw [List.take_zero] at hm
  cases hm

theorem settledUpTo_modify {front : List Slot} {place : Nat} (h : SettledUpTo place front)
    {f : Slot → Slot} (hf : ∀ slot, (f slot).progress ≠ .assigned) (other : Nat) :
    SettledUpTo place (front.modify other f) := by
  refine ⟨by rw [List.length_modify]; exact h.1, ?_⟩
  intro slot hm
  rw [List.take_modify] at hm
  obtain ⟨i, hi⟩ := List.mem_iff_getElem?.mp hm
  rw [List.getElem?_modify] at hi
  obtain ⟨old, hold, rfl⟩ := Option.map_eq_some_iff.mp hi
  split
  · exact hf old
  · exact h.2 old (List.mem_of_getElem? hold)

theorem settledUpTo_succ {front : List Slot} {place : Nat} (h : SettledUpTo place front)
    (hplace : place < front.length) {f : Slot → Slot} (hf : ∀ slot, (f slot).progress ≠ .assigned) :
    SettledUpTo (place + 1) (front.modify place f) := by
  obtain ⟨before, slot, behind, hfront, hlength, hmodify⟩ := List.exists_of_modify f hplace
  refine ⟨by rw [List.length_modify]; exact hplace, ?_⟩
  intro other hm
  have htake : (before ++ f slot :: behind).take (place + 1) = before ++ [f slot] := by
    rw [← hlength, List.take_append, List.take_of_length_le (Nat.le_succ _),
      Nat.add_sub_cancel_left, List.take_succ_cons, List.take_zero]
  rw [hmodify, htake, List.mem_append] at hm
  rcases hm with hbefore | hself
  · refine h.2 other ?_
    rw [hfront, ← hlength, List.take_left]
    exact hbefore
  · rw [List.mem_singleton.mp hself]
    exact hf slot

def settlePlace {m : Type → Type} [Monad m] (settings : Settings) (factory : EmitterFactory m)
    (pool : Pool) (place : Nat) : m Pool := do
  let pool ← pool.execute settings factory place
  let pool := if (pool.slots[place]?.any (·.progress == .waiting)) then
    pool.assign (workers settings) else pool
  pool.execute settings factory place

theorem settle_eq {m : Type → Type} [Monad m] (settings : Settings) (factory : EmitterFactory m)
    (pool : Pool) :
    pool.settle settings factory =
      (List.range pool.slots.length).foldlM (Pool.settlePlace settings factory) pool := rfl

/-- What settling a place carries over to the next one holds once all places are settled. -/
theorem settle_induction {σ : Type} {settings : Settings} {factory : EmitterFactory (StateM σ)}
    {pool : Pool} {state : σ} {reached : Nat → Pool → σ → Prop} (h : reached 0 pool state)
    (hplace : ∀ place < pool.slots.length, ∀ middle between, reached place middle between →
      ∃ after state', (middle.settlePlace settings factory place).run between = (after, state') ∧
        reached (place + 1) after state') :
    ∃ after state', (pool.settle settings factory).run state = (after, state') ∧
      reached pool.slots.length after state' := by
  rw [settle_eq]
  generalize pool.slots.length = count at hplace
  -- the places are settled from the front, so the induction adds the last one
  induction count with
  | zero => exact ⟨pool, state, rfl, h⟩
  | succ count ih =>
    obtain ⟨middle, between, hrun, hmiddle⟩ := ih fun place hlt => hplace place (Nat.lt_succ_of_lt hlt)
    obtain ⟨after, state', hlast, hafter⟩ := hplace count (Nat.lt_succ_self count) middle between hmiddle
    refine ⟨after, state', ?_, hafter⟩
    rw [List.range_succ, List.foldlM_append, StateT.run_bind, hrun]
    exact hlast

/-- What a pool reports of a job: a crash counts as a failure. -/
def reported (job : Job) (place : Nat) : Outcome → Outcome
  | .crashed message => .failed (crashFault job place message)
  | outcome => outcome

theorem collectSlot_finished (collector : Collector) (job : Job) (outcome : Outcome) (place : Nat)
    (ran : List (Job × Outcome)) (skipped : Nat) :
    (collectSlot collector ⟨job, .finished outcome⟩ place).tally ran skipped =
      collector.tally ((job, reported job place outcome) :: ran) skipped := by
  cases outcome with
  | done result => exact Collector.tally_done collector job result ran skipped
  | failed fault => exact Collector.tally_failed collector job fault ran skipped
  | crashed message => exact Collector.tally_failed collector job _ ran skipped

/-- Takes what came of the jobs in slots, the first of which has a place in the plan. -/
def collectFrom (place : Nat) (collector : Collector) (slots : List Slot) : Collector :=
  (slots.zipIdx place).foldl (fun collector entry => collectSlot collector entry.1 entry.2) collector

theorem collectFrom_cons (place : Nat) (collector : Collector) (slot : Slot) (rest : List Slot) :
    collectFrom place collector (slot :: rest) =
      collectFrom (place + 1) (collectSlot collector slot place) rest := rfl

end Pool

end EntityGen
