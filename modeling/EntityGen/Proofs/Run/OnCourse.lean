import EntityGen.Proofs.Run.Underway
import Mathlib.Data.List.Forall2

/-!
# A pool keeps to the course of its plan

On a memory sink each job that a pool has dealt with is on its course: skipped or finished as the course
says, or assigned where the course finishes it. Every step keeps this as long as the run is not
cancelled from outside and, where failures stop the run, has one worker. So in the end the pool holds
the course of its plan.
-/
namespace EntityGen.Pool

/-- A slot on its way to the slot that the course gives its job. -/
inductive Near (options : Options) : Slot → Slot → Prop
  | skipped (job : Job) : Near options ⟨job, .skipped⟩ ⟨job, .skipped⟩
  | assigned (job : Job) : Near options ⟨job, .assigned⟩ (job.finishedSlot options)
  | finished (job : Job) : Near options (job.finishedSlot options) (job.finishedSlot options)

/-- The jobs that are dealt with are on their course, and the sink holds what the finished ones
stored. -/
structure OnCourse (settings : Settings) (front : List Slot) (stored : List Artifact) : Prop where
  near : front.Forall₂ (Near settings.options) (courseFrom settings false (front.map (·.job)))
  stored : stored.Perm (storedBy settings.options front)

section
variable {options : Options}

theorem eq_of_near {slot target : Slot} (h : Near options slot target)
    (ha : slot.progress ≠ .assigned) : slot = target := by
  cases h with
  | skipped job => rfl
  | assigned job => exact absurd rfl ha
  | finished job => rfl

theorem near_of_assigned {slot target : Slot} (h : Near options slot target)
    (ha : slot.progress = .assigned) : Near options (slot.job.finishedSlot options) target := by
  cases h with
  | skipped job => cases ha
  | assigned job => exact .finished job
  | finished job => cases ha

/-- A slot that shows a failure belongs to a job that fails. -/
theorem isFailed_of_near {slot target : Slot} (h : Near options slot target)
    (hf : slot.isFailed = true) : (slot.job.outcome options).isFailed = true := by
  cases h with
  | skipped job => cases hf
  | assigned job => cases hf
  | finished job => exact hf

theorem near_of_mem {front targets : List Slot} (h : front.Forall₂ (Near options) targets)
    {slot : Slot} (hm : slot ∈ front) : ∃ target, Near options slot target := by
  induction h with
  | nil => cases hm
  | cons hfirst _ ih =>
    rcases List.mem_cons.mp hm with rfl | hr
    · exact ⟨_, hfirst⟩
    · exact ih hr

theorem eq_of_forall_near {front targets : List Slot} (h : front.Forall₂ (Near options) targets)
    (hsettled : ∀ slot ∈ front, slot.progress ≠ .assigned) : front = targets := by
  induction h with
  | nil => rfl
  | cons hfirst _ ih =>
    rw [eq_of_near hfirst (hsettled _ List.mem_cons_self),
      ih fun slot hm => hsettled slot (List.mem_cons_of_mem _ hm)]

theorem forall_near_finished {before behind targets : List Slot} {job : Job}
    (h : (before ++ ⟨job, .assigned⟩ :: behind).Forall₂ (Near options) targets) :
    (before ++ job.finishedSlot options :: behind).Forall₂ (Near options) targets := by
  induction before generalizing targets with
  | nil =>
    obtain ⟨target, rest, hfirst, hrest, rfl⟩ := List.forall₂_cons_left_iff.mp h
    exact .cons (near_of_assigned hfirst rfl) hrest
  | cons slot more ih =>
    obtain ⟨target, rest, hfirst, hrest, rfl⟩ := List.forall₂_cons_left_iff.mp h
    exact .cons hfirst (ih hrest)

end

variable {settings : Settings} {front : List Slot} {stored : List Artifact}

/-- A job among the ones dealt with stops the run when it fails. -/
def courseStops (settings : Settings) (front : List Slot) : Bool :=
  settings.failFast && (front.map (·.job)).any fun job => (job.outcome settings.options).isFailed

namespace OnCourse

theorem courseStops_of_stopped (h : OnCourse settings front stored)
    (hs : stoppedBy settings front = true) : courseStops settings front = true := by
  rw [stoppedBy, Bool.and_eq_true, List.any_eq_true] at hs
  obtain ⟨hff, slot, hm, hf⟩ := hs
  obtain ⟨target, hnear⟩ := near_of_mem h.near hm
  rw [courseStops, Bool.and_eq_true, List.any_eq_true]
  exact ⟨hff, slot.job, List.mem_map_of_mem hm, isFailed_of_near hnear hf⟩

/-- While the run goes on and a worker is free, no job that is dealt with stops the run. -/
theorem not_courseStops (h : OnCourse settings front stored)
    (hmode : settings.failFast = false ∨ settings.workers ≤ 1)
    (hs : stoppedBy settings front = false)
    (hbusy : front.countP (·.progress == .assigned) < workers settings) :
    courseStops settings front = false := by
  rcases hmode with hff | hone
  · rw [courseStops, hff, Bool.false_and]
  · -- the only worker is free, so every job that is dealt with has come its way
    have hfree : front.countP (·.progress == .assigned) = 0 := by
      rw [workers] at hbusy
      omega
    rw [List.countP_eq_zero] at hfree
    have hfront := eq_of_forall_near h.near fun slot hm ha => hfree slot hm (by rw [ha]; rfl)
    by_contra hstops
    rw [courseStops, Bool.not_eq_false, Bool.and_eq_true] at hstops
    have hany := courseFrom_any_isFailed settings hstops.2
    rw [← hfront] at hany
    rw [stoppedBy, hstops.1, hany] at hs
    cases hs

/-- The next job may be marked with what is near its course. -/
theorem mark {job : Job} {progress : Progress} {target : Slot} (h : OnCourse settings front stored)
    (htarget : courseFrom settings (courseStops settings front) [job] = [target])
    (hnear : Near settings.options ⟨job, progress⟩ target)
    (hartifact : (Slot.mk job progress).artifact? settings.options = none) :
    OnCourse settings (front ++ [⟨job, progress⟩]) stored where
  near := by
    rw [List.map_append, List.map_singleton, courseFrom_append, Bool.false_or]
    change (front ++ _).Forall₂ _ (_ ++ courseFrom settings (courseStops settings front) [job])
    rw [htarget]
    exact List.rel_append h.near (.cons hnear .nil)
  stored := by
    rw [storedBy_append, storedBy_cons, hartifact]
    exact h.stored.trans (.of_eq (List.append_nil _).symm)

/-- When an assigned job executes, its slot comes to the one of the course. -/
theorem finish {before behind : List Slot} {job : Job}
    (h : OnCourse settings (before ++ ⟨job, .assigned⟩ :: behind) stored) :
    OnCourse settings (before ++ job.finishedSlot settings.options :: behind)
      (stored ++ (job.artifact? settings.options).toList) where
  near := by
    have hjobs : (before ++ job.finishedSlot settings.options :: behind).map (·.job) =
        (before ++ (⟨job, .assigned⟩ : Slot) :: behind).map (·.job) := by
      rw [List.map_append, List.map_append]
      rfl
    rw [hjobs]
    exact forall_near_finished h.near
  stored := by
    refine (h.stored.append_right _).trans ?_
    rw [storedBy_append, storedBy_append, storedBy_cons, storedBy_cons, Job.finishedSlot_artifact?,
      List.append_assoc]
    exact (List.perm_append_comm).append_left _

end OnCourse

/-- Every step keeps the pool on its course. -/
theorem keeps_onCourse (jobs : List Job) (hmode : settings.failFast = false ∨ settings.workers ≤ 1)
    {outside : Prop} (hquiet : ¬outside) :
    Keeps settings (sourceEmitters memorySink) jobs outside (OnCourse settings) where
  assigned job hs hbusy h := by
    have hgoing := h.not_courseStops hmode hs hbusy
    exact h.mark (by rw [hgoing]; rfl) (.assigned job) rfl
  skipped job hstopped h := by
    have hstops := h.courseStops_of_stopped (hstopped.resolve_left hquiet)
    exact h.mark (by rw [hstops]; rfl) (.skipped job) rfl
  finished := by
    intro before behind stored job outcome stop after _ h hx
    rw [job.execute_memorySink] at hx
    obtain ⟨hanswer, rfl⟩ := Prod.mk.inj hx
    obtain ⟨rfl, rfl⟩ := Prod.mk.inj hanswer
    exact ⟨rfl, h.finish⟩

/-- A pool collects the course of its plan and stores its artifacts, in whatever order. -/
theorem run_memorySink {schedule : List Move} (hschedule : Move.cancel ∉ schedule)
    (hmode : settings.failFast = false ∨ settings.workers ≤ 1) (jobs : List Job) :
    ∃ stored, (Pool.run settings (sourceEmitters memorySink) schedule jobs).run [] =
        (Pool.collect ⟨courseFrom settings false jobs, false⟩, stored) ∧
      stored.Perm (storedBy settings.options (courseFrom settings false jobs)) := by
  have hstart : OnCourse settings [] [] := ⟨.nil, .refl _⟩
  obtain ⟨pool, stored, hrun, hsettled, hcourse⟩ :=
    run_settled (keeps_onCourse jobs hmode hschedule) hstart
  have hslots : pool.slots = courseFrom settings false jobs := by
    rw [← hsettled.plan]
    refine eq_of_forall_near hcourse.near fun slot hm ha => ?_
    rcases hsettled.ended slot hm with hs | ⟨outcome, hf⟩
    · exact nomatch ha.symm.trans hs
    · exact nomatch ha.symm.trans hf
  refine ⟨stored, ?_, hslots ▸ hcourse.stored⟩
  rw [hrun, Pool.collect, hslots]
  rfl

end EntityGen.Pool
