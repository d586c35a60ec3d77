import EntityGen.Proofs.Path.Order
import EntityGen.Proofs.Run.OnCourse

/-!
# A run on a pool and a run in order

On a memory sink a pool gives the report of the run in order and the same artifacts, however its jobs
are scheduled, unless it breaks down over the number of its workers.
-/
namespace EntityGen

/-- A course stores no other artifacts than the ones of its jobs. -/
theorem storedBy_courseFrom_sublist (settings : Settings) (stopped : Bool) (jobs : List Job) :
    (storedBy settings.options (courseFrom settings stopped jobs)).Sublist
      (artifactsOf settings.options jobs) := by
  induction jobs generalizing stopped with
  | nil => cases stopped <;> exact .refl _
  | cons job rest ih =>
    rw [artifactsOf_cons]
    cases stopped with
    | true =>
      rw [courseFrom, storedBy_cons]
      exact (ih true).trans (List.sublist_append_right _ _)
    | false =>
      rw [courseFrom, storedBy_cons, Job.finishedSlot_artifact?]
      exact (ih _).append_left _

namespace Schema

/-- The artifacts that the course of the plan stores. -/
def courseArtifacts (schema : Schema) (settings : Settings) : List Artifact :=
  storedBy settings.options (courseFrom settings false (schema.plan settings))

/-- The report of the course of the plan. -/
def courseReport (schema : Schema) (settings : Settings) (stamp : RunStamp) : Report :=
  (Pool.collect ⟨courseFrom settings false (schema.plan settings), false⟩).report stamp

theorem courseArtifacts_components (schema : Schema) (settings : Settings) :
    ((schema.courseArtifacts settings).map (·.path.components)).Nodup := by
  have hfolded := (schema.plan_folded settings settings.options).sublist
    ((storedBy_courseFrom_sublist settings false (schema.plan settings)).map _)
  refine List.Nodup.of_map (List.map Path.Component.folded) ?_
  rw [List.map_map]
  exact hfolded

/-- The run in order of an accepted schema reports the course of its plan. -/
theorem build_memorySink {schema : Schema} (h : schema.check = .ok ()) (settings : Settings)
    (stamp : RunStamp) :
    (schema.build settings (sourceEmitters memorySink) stamp).run [] =
      (.ok (schema.courseReport settings stamp), schema.courseArtifacts settings) := by
  rw [build, h, StateT.run_bind,
    runInOrder_memorySink settings false (schema.plan settings) 0 .empty []]
  rfl

end Schema

/-- A pool that no one cancels does what the run in order does, when failures do not stop the run or
there is one worker: it refuses the same schemas, and otherwise gives the same report but for the stamp
and the same artifacts. The exception is a pool of more workers than it can hold, which breaks down
where the run in order gives its report. -/
theorem generate_refines_build (schema : Schema) (settings : Settings) (stamp stamp' : RunStamp)
    (schedule : List Move) (hschedule : Move.cancel ∉ schedule)
    (hmode : settings.failFast = false ∨ settings.workers ≤ 1) :
    (∀ fault, schema.check = .error fault →
      (schema.build settings (sourceEmitters memorySink) stamp).run [] =
        (.error (.rejected fault), []) ∧
      (schema.generate settings (sourceEmitters memorySink) stamp' schedule).run [] =
        (.error (.rejected fault), [])) ∧
    (schema.check = .ok () → ∃ report built,
      (schema.build settings (sourceEmitters memorySink) stamp).run [] = (.ok report, built) ∧
      if Pool.maxWorkers < Pool.workers settings then
        (schema.generate settings (sourceEmitters memorySink) stamp' schedule).run [] =
          (.error (.crashed Pool.breakdown), [])
      else ∃ generated,
        (schema.generate settings (sourceEmitters memorySink) stamp' schedule).run [] =
          (.ok { report with stamp := stamp' }, generated) ∧
        Artifact.sorted generated = Artifact.sorted built) := by
  constructor
  · intro fault hc
    rw [Schema.build, Schema.generate, hc]
    exact ⟨rfl, rfl⟩
  · intro hc
    obtain ⟨generated, hpool, hgenerated⟩ :=
      Pool.run_memorySink hschedule hmode (schema.plan settings)
    refine ⟨schema.courseReport settings stamp, schema.courseArtifacts settings,
      Schema.build_memorySink hc settings stamp, ?_⟩
    rw [Schema.generate, hc]
    dsimp only
    split
    · rfl
    · refine ⟨generated, ?_, ?_⟩
      · rw [StateT.run_bind, hpool]
        rfl
      · exact (Artifact.sorted_eq_of_perm hgenerated.symm
          (schema.courseArtifacts_components settings)).symm

/-- Three tables on two workers, where the last job is the first one to execute. -/
theorem generate_refines_build_two_workers :
    let schema : Schema := ⟨"d", none, [⟨"a", [], []⟩, ⟨"A", [], []⟩, ⟨"b", [], []⟩], []⟩
    let settings : Settings := { workers := 2, packageBase := "p" }
    let schedule : List Move :=
      [.assign, .assign, .execute 1, .assign, .execute 2, .assign, .execute 0]
    let stamp : RunStamp := ⟨"r", ⟨0⟩, ⟨0⟩⟩
    let other : RunStamp := ⟨"s", ⟨1⟩, ⟨2⟩⟩
    Move.cancel ∉ schedule ∧ (settings.failFast = false ∨ settings.workers ≤ 1) ∧
    ∃ report built generated,
      (schema.build settings (sourceEmitters memorySink) stamp).run [] = (.ok report, built) ∧
      (schema.generate settings (sourceEmitters memorySink) other schedule).run [] =
        (.ok { report with stamp := other }, generated) ∧
      Artifact.sorted generated = Artifact.sorted built ∧
      built.map (·.entity) = ["a", "b"] ∧ generated.map (·.entity) = ["b", "a"] := by
  intro schema settings schedule stamp other
  have hschedule : Move.cancel ∉ schedule := by decide
  have hcheck : schema.check = .ok () := by decide +kernel
  obtain ⟨report, built, hbuild, hgenerate⟩ :=
    (generate_refines_build schema settings stamp other schedule hschedule (.inl rfl)).2 hcheck
  rw [if_neg (by decide)] at hgenerate
  obtain ⟨generated, hrun, hsorted⟩ := hgenerate
  have hbuilt : (((schema.build settings (sourceEmitters memorySink) stamp).run []).2).map
      (·.entity) = ["a", "b"] := by decide +kernel
  have hstored : (((schema.generate settings (sourceEmitters memorySink) other schedule).run
      []).2).map (·.entity) = ["b", "a"] := by decide +kernel
  rw [hbuild] at hbuilt
  rw [hrun] at hstored
  exact ⟨hschedule, .inl rfl, report, built, generated, hbuild, hrun, hsorted, hbuilt, hstored⟩

/-- With the greatest number of workers that a machine word holds, the pool breaks down over a schema
that the run in order generates. -/
theorem generate_breaks_down :
    let schema : Schema := ⟨"d", none, [⟨"a", [], []⟩], []⟩
    let settings : Settings := { workers := 18446744073709551615, packageBase := "p" }
    let stamp : RunStamp := ⟨"r", ⟨0⟩, ⟨0⟩⟩
    (∃ report built,
      (schema.build settings (sourceEmitters memorySink) stamp).run [] = (.ok report, built)) ∧
    (schema.generate settings (sourceEmitters memorySink) stamp []).run [] =
      (.error (.crashed Pool.breakdown), []) := by
  intro schema settings stamp
  have hcheck : schema.check = .ok () := by decide +kernel
  refine ⟨⟨_, _, Schema.build_memorySink hcheck settings stamp⟩, ?_⟩
  have hworkers : Pool.maxWorkers < Pool.workers settings := by decide
  rw [Schema.generate, hcheck]
  dsimp only
  rw [if_pos hworkers]
  rfl

end EntityGen
