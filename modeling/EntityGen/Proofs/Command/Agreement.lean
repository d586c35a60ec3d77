import EntityGen.Command.Session
import EntityGen.Proofs.Run.Underway
import EntityGen.Proofs.Schema.Walk

/-!
# Commands agree on a schema

Two checks and the generation look at the same schema and come to their exit codes in different ways:
one by the first breach that a walk meets, one by the first of all breaches, one by the run, which
checks on its own. What a run answers is decided by its plan, whatever its schedule, when no signal
comes and every write succeeds.
-/
namespace EntityGen

variable {σ : Type}

section
variable {schema : Schema} {settings : Settings} {sink : Sink (StateM σ)} {state : σ}

/-- A pool that comes to an end without signals has failed exactly when a job of its plan fails. -/
theorem Pool.Settled.status {jobs : List Job} {slots : List Slot}
    (h : Settled settings jobs False slots)
    (hanswers : ∀ entry ∈ finishedOf slots, entry.2 = entry.1.outcome settings.options) :
    (Collector.empty.tally (finishedOf slots) (slots.countP (·.progress == .skipped))).status =
      if ∃ job ∈ jobs, (job.outcome settings.options).isFailed = true then .failed
      else .completed := by
  by_cases hfailed : ∃ entry ∈ finishedOf slots, entry.2.isFailed = true
  · obtain ⟨entry, hm, hf⟩ := hfailed
    have hjob : entry.1 ∈ jobs := by
      rw [← h.plan]
      exact (finishedOf_sublist slots).subset (List.mem_map_of_mem hm)
    rw [if_pos ⟨entry.1, hjob, hanswers entry hm ▸ hf⟩]
    exact (status_tally_eq_failed_iff _ _).mpr ⟨entry, hm, hf⟩
  · -- nothing was skipped then, so the jobs that ran are the whole plan
    have hskipped := h.none_skipped id hfailed
    have hnone : ¬∃ job ∈ jobs, (job.outcome settings.options).isFailed = true := by
      rintro ⟨job, hm, hf⟩
      rw [← h.finishedOf_eq hskipped] at hm
      obtain ⟨entry, hentry, rfl⟩ := List.mem_map.mp hm
      exact hfailed ⟨entry, hentry, (hanswers entry hentry).symm ▸ hf⟩
    rw [if_neg hnone]
    refine (status_tally_eq_completed_iff _ _).mpr ⟨?_, hskipped⟩
    simpa only [not_exists, not_and, Bool.not_eq_true] using hfailed

/-- The status of a run without signals: whether some job of the plan fails. -/
theorem Schema.generate_status (hcheck : schema.check = .ok ())
    (hworkers : ¬Pool.maxWorkers < Pool.workers settings) {schedule : List Move}
    (hquiet : Move.cancel ∉ schedule) (stamp : RunStamp)
    (htakes : TakesAll sink (artifactsOf settings.options (schema.plan settings)) state) :
    ∃ report after,
      (schema.generate settings (sourceEmitters sink) stamp schedule).run state =
        (.ok report, after) ∧
      report.status =
        if ∃ job ∈ schema.plan settings, (job.outcome settings.options).isFailed = true then .failed
        else .completed := by
  have hanswers : ∀ job ∈ schema.plan settings, ∀ state,
      TakesAll sink (artifactsOf settings.options (schema.plan settings)) state →
      let ran := (job.execute (sourceEmitters sink) settings.options).run state
      ran.1.1 = job.outcome settings.options ∧ ran.1.2 = false ∧
        TakesAll sink (artifactsOf settings.options (schema.plan settings)) ran.2 := by
    intro job hjob state hstate
    obtain ⟨hran, hafter⟩ := Job.execute_of_takesAll hstate fun artifact hartifact =>
      List.mem_filterMap.mpr ⟨job, hjob, hartifact⟩
    exact ⟨congrArg Prod.fst hran, congrArg Prod.snd hran, hafter⟩
  have hcalm : ∀ (job : Job) message, Outcome.crashed message ≠ job.outcome settings.options := by
    intro job message hcrashed
    rcases job.outcome_cases settings.options with ⟨fault, ho⟩ | ⟨result, ho⟩
    · exact nomatch hcrashed.trans ho
    · exact nomatch hcrashed.trans ho
  obtain ⟨slots, after, hrun, hsettled, hran⟩ :=
    Pool.run_answers (fun job outcome => outcome = job.outcome settings.options) hanswers hcalm
      schedule htakes
  have hquiet' : Pool.Settled settings (schema.plan settings) False slots := by
    rwa [← eq_false hquiet]
  refine ⟨(Collector.empty.tally (Pool.finishedOf slots) _).report stamp, after, ?_,
    hquiet'.status hran⟩
  rw [generate, hcheck]
  dsimp only
  rw [if_neg hworkers, StateT.run_bind, hrun]
  rfl

end

namespace Command

/-- The words ask for an action with a configuration file, and the log can be set up. -/
def Asks (words : List String) (path : Path) (action : Action) : Prop :=
  ∃ invocation, Request.ofWords words = .run invocation ∧ invocation.config = path ∧
    invocation.action = action ∧ checkLogging invocation.verbosity invocation.logFormat = .ok ()

/-- The state in which a run begins: it has its name and has looked at the clock. -/
def Host.begun (host : Host (StateM σ)) (state : σ) : σ :=
  (host.now.run (host.runId.run state).2).2

/-- The stamp with which a run begins. -/
def Host.stamp (host : Host (StateM σ)) (state : σ) : RunStamp :=
  let begun := host.now.run (host.runId.run state).2
  ⟨(host.runId.run state).1, begun.1, begun.1⟩

theorem checkResult_exitCode (schema : Schema) :
    (Result.ofExcept (checkResult schema)).exitCode = if schema.check = .ok () then 0 else 2 := by
  unfold checkResult
  cases hc : schema.check with
  | ok _ => rfl
  | error fault =>
    rw [if_neg (fun h => nomatch h)]
    exact Schema.exitCode_of_check hc

theorem violationsResult_exitCode (schema : Schema) (outputJson : Bool) :
    (violationsResult schema outputJson).exitCode = if schema.check = .ok () then 0 else 2 := by
  rw [schema.check_eq]
  change (schema.violations.head?.map Fault.exitCode).getD 0 = _
  cases hv : schema.violations with
  | nil => rfl
  | cons fault rest =>
    have hm : fault ∈ schema.violations := hv ▸ List.mem_cons_self
    rw [if_neg (fun h => nomatch h)]
    exact Fault.exitCode_of_isViolation (schema.isViolation_of_mem hm)

section
variable {host : Host (StateM σ)} {schema : Schema} {config : Config} {dryRun : Bool}
  {state : σ}

theorem emit_of_halt {stamp : RunStamp} {halt : Halt}
    (h : ∀ {m : Type → Type} [Monad m] (factory : EmitterFactory m),
      schema.generate (.ofConfig config) factory stamp host.schedule = pure (.error halt)) :
    (emit host schema config dryRun stamp).run state = (.error halt, state) := by
  unfold emit
  cases dryRun with
  | true =>
    rw [if_pos rfl, h]
    rfl
  | false =>
    rw [if_neg Bool.false_ne_true, h]
    rfl

/-- A run without signals whose writes succeed reports whether some job of the plan fails; a dry run
writes nothing. -/
theorem emit_status (hcheck : schema.check = .ok ())
    (hworkers : ¬Pool.maxWorkers < Pool.workers (.ofConfig config))
    (hquiet : Move.cancel ∉ host.schedule)
    (htakes : dryRun = false → TakesAll (directorySink host.files config.output.directory)
      (artifactsOf config.generation (schema.plan (.ofConfig config))) state)
    (stamp : RunStamp) :
    ∃ report after, (emit host schema config dryRun stamp).run state = (.ok report, after) ∧
      report.status =
        if ∃ job ∈ schema.plan (.ofConfig config), (job.outcome config.generation).isFailed = true
        then .failed else .completed := by
  unfold emit
  cases dryRun with
  | true =>
    obtain ⟨report, stored, hrun, hstatus⟩ := Schema.generate_status hcheck hworkers hquiet stamp
      (takesAll_memorySink (artifactsOf config.generation (schema.plan (.ofConfig config))) [])
    refine ⟨report, state, ?_, hstatus⟩
    rw [if_pos rfl]
    dsimp only
    rw [hrun]
    rfl
  | false =>
    rw [if_neg Bool.false_ne_true]
    exact Schema.generate_status hcheck hworkers hquiet stamp (htakes rfl)

theorem generate_run (invocation : Invocation) (options : GenerateOptions) :
    (generate host invocation options config schema).run state =
      match (emit host schema config options.dryRun (host.stamp state)).run (host.begun state) with
      | (.error (.rejected fault), after) => (.error fault, after)
      | (.error (.crashed message), after) => (.ok (.ofBreakdown message), after)
      | (.ok report, after) =>
        let ended := host.now.run after
        (.ok (.ofReport { report with stamp := { host.stamp state with completedAt := ended.1 } }
          invocation.outputJson options.dryRun config.output.directory), ended.2) := by
  unfold generate
  rw [StateT.run_bind]
  change StateT.run (host.now >>= _) (host.runId.run state).2 = _
  rw [StateT.run_bind]
  change StateT.run (emit host schema config options.dryRun (host.stamp state) >>= _)
    (host.begun state) = _
  rw [StateT.run_bind]
  cases (emit host schema config options.dryRun (host.stamp state)).run (host.begun state) with
  | mk answer after =>
    cases answer with
    | ok report => rfl
    | error halt => cases halt <;> rfl

/-- The exit code of the generation: a breach in the schema is answered before anything is written,
and after that the number of workers and the jobs of the plan decide. -/
theorem generate_exitCode (hquiet : Move.cancel ∉ host.schedule) (invocation : Invocation)
    (options : GenerateOptions)
    (htakes : options.dryRun = false → TakesAll (directorySink host.files config.output.directory)
      (artifactsOf config.generation (schema.plan (.ofConfig config))) (host.begun state)) :
    let ran := (generate host invocation options config schema).run state
    (schema.check ≠ .ok () → (Result.ofExcept ran.1).exitCode = 2 ∧ ran.2 = host.begun state) ∧
    (schema.check = .ok () → (Result.ofExcept ran.1).exitCode =
      if Pool.maxWorkers < Pool.workers (.ofConfig config) then Result.breakdownCode
      else if ∃ job ∈ schema.plan (.ofConfig config), (job.outcome config.generation).isFailed = true
      then 3 else 0) := by
  intro ran
  have hran : ran = _ := generate_run invocation options
  cases hcheck : schema.check with
  | error fault =>
    refine ⟨fun _ => ?_, fun hok => nomatch hok⟩
    have hemit : (emit host schema config options.dryRun (host.stamp state)).run
        (host.begun state) = (.error (.rejected fault), host.begun state) :=
      emit_of_halt fun factory => by rw [Schema.generate, hcheck]
    rw [hran, hemit]
    exact ⟨Schema.exitCode_of_check hcheck, rfl⟩
  | ok _ =>
    refine ⟨fun hne => absurd rfl hne, fun _ => ?_⟩
    by_cases hworkers : Pool.maxWorkers < Pool.workers (.ofConfig config)
    · have hemit : (emit host schema config options.dryRun (host.stamp state)).run
          (host.begun state) = (.error (.crashed Pool.breakdown), host.begun state) :=
        emit_of_halt fun factory => by rw [Schema.generate, hcheck, if_pos hworkers]
      rw [hran, hemit, if_pos hworkers]
      rfl
    · obtain ⟨report, after, hemit, hstatus⟩ :=
        emit_status hcheck hworkers hquiet htakes (host.stamp state)
      rw [hran, hemit, if_neg hworkers]
      change statusCode report.status = _
      rw [hstatus]
      split
      · rfl
      · rfl

theorem withSchema_run {invocation : Invocation} {warnings : List Warning} {read : σ}
    (h : (Schema.load host.files (schemaPath invocation.config config.schema)).run state =
      ((.ok schema, warnings), read))
    (next : Schema → StateM σ (Except Fault Result)) :
    (withSchema host invocation config next).run state =
      let ran := (next schema).run read
      ({ Result.ofExcept ran.1 with warnings := shownWarnings invocation.verbosity warnings },
        ran.2) := by
  rw [withSchema, StateT.run_bind, h]
  rfl

theorem withConfig_run {invocation : Invocation} {cores : Nat} {loaded counted : σ}
    (hlogging : checkLogging invocation.verbosity invocation.logFormat = .ok ())
    (hload : (Config.load host.files invocation.config).run state = (.ok config, loaded))
    (hcores : host.cores.run loaded = (cores, counted)) (next : Config → StateM σ Result) :
    (withConfig host invocation next).run state = (next (config.tuned cores)).run counted := by
  rw [withConfig, hlogging]
  dsimp only
  rw [StateT.run_bind, hload]
  change StateT.run (host.cores >>= _) loaded = _
  rw [StateT.run_bind, hcores]
  rfl

end

/-- A command finds its configuration, with the number of workers filled in, and its schema. -/
def Finds (host : Host (StateM σ)) (path : Path) (start : σ) (config : Config) (schema : Schema)
    (read : σ) : Prop :=
  ∃ file loaded cores counted warnings,
    (Config.load host.files path).run start = (.ok file, loaded) ∧
    host.cores.run loaded = (cores, counted) ∧ file.tuned cores = config ∧
    (Schema.load host.files (schemaPath path config.schema)).run counted =
      ((.ok schema, warnings), read)

section
variable {host : Host (StateM σ)} {path : Path} {start read : σ} {config : Config} {schema : Schema}
  {words : List String}

theorem validate_exitCode (hfinds : Finds host path start config schema read) {all : Bool}
    (hasks : Asks words path (.validate all)) :
    ((run host words).run start).1.exitCode = if schema.check = .ok () then 0 else 2 := by
  obtain ⟨file, loaded, cores, counted, warnings, hfile, hcores, rfl, hschema⟩ := hfinds
  obtain ⟨invocation, hwords, rfl, haction, hlogging⟩ := hasks
  rw [run, hwords]
  dsimp only
  rw [runInvocation, haction]
  dsimp only
  rw [withConfig_run hlogging hfile hcores, withSchema_run hschema]
  cases all with
  | true => exact violationsResult_exitCode schema invocation.outputJson
  | false => exact checkResult_exitCode schema

theorem run_generate (hfinds : Finds host path start config schema read)
    {options : GenerateOptions} (hasks : Asks words path (.generate options))
    (hvalid : (options.apply config).check = .ok ())
    (hkept : (options.apply config).schema = config.schema) :
    ∃ invocation,
      let ran := (generate host invocation options (options.apply config) schema).run read
      ((run host words).run start).1.exitCode = (Result.ofExcept ran.1).exitCode ∧
        ((run host words).run start).2 = ran.2 := by
  obtain ⟨file, loaded, cores, counted, warnings, hfile, hcores, rfl, hschema⟩ := hfinds
  obtain ⟨invocation, hwords, rfl, haction, hlogging⟩ := hasks
  refine ⟨invocation, ?_⟩
  rw [run, hwords]
  dsimp only
  rw [runInvocation, haction]
  dsimp only
  rw [withConfig_run hlogging hfile hcores, hvalid]
  dsimp only
  rw [withSchema_run (hkept ▸ hschema)]
  exact ⟨rfl, rfl⟩

end

/-- Commands that find the same configuration and the same schema, on a host where no signal comes and
every write succeeds. Checking the schema up to the first breach and for all of them end with one exit
code, 0 if the schema is accepted and 2 otherwise. The generation ends with 2 exactly when they do, and
then it has written nothing. Otherwise it breaks down if there are more workers than a pool holds; if
not, it ends with 3 when the job of some table or view fails and with 0 when none does. It never ends
as if it was interrupted. -/
theorem commands_agree (host : Host (StateM σ)) (hquiet : Move.cancel ∉ host.schedule) {path : Path}
    {start read : σ} {config : Config} {schema : Schema}
    (hfinds : Finds host path start config schema read) {options : GenerateOptions}
    (hvalid : (options.apply config).check = .ok ())
    (hkept : (options.apply config).schema = config.schema) {first all generation : List String}
    (hfirst : Asks first path (.validate false)) (hall : Asks all path (.validate true))
    (hgeneration : Asks generation path (.generate options))
    (hwrites : options.dryRun = false →
      TakesAll (directorySink host.files (options.apply config).output.directory)
        (artifactsOf (options.apply config).generation
          (schema.plan (.ofConfig (options.apply config)))) (host.begun read)) :
    let settings := Settings.ofConfig (options.apply config)
    let checked := ((run host first).run start).1.exitCode
    let listed := ((run host all).run start).1.exitCode
    let generated := (run host generation).run start
    listed = checked ∧ (checked = if schema.check = .ok () then 0 else 2) ∧
      (generated.1.exitCode = 2 ↔ checked = 2) ∧
      (generated.1.exitCode = 2 → generated.2 = host.begun read) ∧
      (checked ≠ 2 → generated.1.exitCode =
        if Pool.maxWorkers < Pool.workers settings then Result.breakdownCode
        else if ∃ job ∈ schema.plan settings, (job.outcome settings.options).isFailed = true then 3
        else 0) ∧
      generated.1.exitCode ≠ statusCode .cancelled := by
  intro settings checked listed generated
  have hchecked : checked = if schema.check = .ok () then 0 else 2 := validate_exitCode hfinds hfirst
  have hlisted : listed = if schema.check = .ok () then 0 else 2 := validate_exitCode hfinds hall
  obtain ⟨invocation, hcode, hstate⟩ := run_generate hfinds hgeneration hvalid hkept
  obtain ⟨hrefused, haccepted⟩ := generate_exitCode hquiet invocation options hwrites
  refine ⟨hlisted.trans hchecked.symm, hchecked, ?_⟩
  by_cases hcheck : schema.check = .ok ()
  · have hzero : checked = 0 := by rw [hchecked, if_pos hcheck]
    have hgenerated := hcode.trans (haccepted hcheck)
    have hcodes : generated.1.exitCode = 101 ∨ generated.1.exitCode = 3 ∨
        generated.1.exitCode = 0 := by
      rw [hgenerated]
      split
      · exact .inl rfl
      · split
        · exact .inr (.inl rfl)
        · exact .inr (.inr rfl)
    have hcancelled : statusCode .cancelled = 130 := rfl
    exact ⟨by omega, fun _ => by omega, fun _ => hgenerated, by omega⟩
  · obtain ⟨htwo, hbegun⟩ := hrefused hcheck
    have hgenerated : generated.1.exitCode = 2 := hcode.trans htwo
    have htwo' : checked = 2 := by rw [hchecked, if_neg hcheck]
    have hcancelled : statusCode .cancelled = 130 := rfl
    exact ⟨by omega, fun _ => hstate.trans hbegun, fun hne => absurd htwo' hne, by omega⟩

/-- A host whose files lie in a list, where every write succeeds. -/
def listHost (schedule : List Move) : Host (StateM (List (Path × String))) where
  files :=
    { read := fun path => return ((← get).lookup path).elim (.error "no such file") .ok
      makeDirectories := fun _ => return .ok ()
      write := fun path text => do
        modify ((path, text) :: ·)
        return .ok () }
  now := return ⟨0⟩
  runId := return "run"
  cores := return 2
  schedule

theorem takesAll_listHost (schedule : List Move) (root : Path) (artifacts : List Artifact)
    (stored : List (Path × String)) :
    TakesAll (directorySink (listHost schedule).files root) artifacts stored := by
  refine takesAll_of_fine (fun _ => True) (fun artifact _ state _ => ?_) trivial
  have hrun : (directorySink (listHost schedule).files root artifact).run state =
      (.ok (), (root.join artifact.path, artifact.contents) :: state) := by
    rw [directorySink]
    cases (root.join artifact.path).parent? with
    | none => rfl
    | some directory => rfl
  rw [hrun]
  exact ⟨rfl, trivial⟩

theorem eq_ok_of_toOption {ε α : Type} {answer : Except ε α} {value : α}
    (h : answer.toOption = some value) : answer = .ok value := by
  cases answer with
  | error fault => cases h
  | ok other => exact congrArg _ (Option.some.inj h)

/-- Two tables that want one class, on two workers: the schema is accepted, and the second table
fails although its job executes first. -/
theorem commands_agree_collision :
    let start : List (Path × String) :=
      [(⟨"config.yaml"⟩, "schema: s.yaml\noutput:\n  package_base: p\n"),
        (⟨"s.yaml"⟩, "name: d\ntables:\n- name: a\n- name: A\n")]
    let host := listHost [.assign, .assign, .execute 1, .execute 0]
    let exitCode (words : List String) := ((run host words).run start).1.exitCode
    Move.cancel ∉ host.schedule ∧ exitCode ["validate"] = 0 ∧ exitCode ["validate", "--all"] = 0 ∧
      exitCode ["--output-json", "generate", "--workers", "2"] = 3 := by
  intro start host exitCode
  have hquiet : Move.cancel ∉ host.schedule := by decide
  have hfinds : Finds host ⟨"config.yaml"⟩ start
      ⟨⟨"s.yaml"⟩, ⟨OutputConfig.defaultDirectory, "p"⟩, {}, ⟨some 2, false⟩⟩
      ⟨"d", none, [⟨"a", [], []⟩, ⟨"A", [], []⟩], []⟩ start := by
    refine ⟨⟨⟨"s.yaml"⟩, ⟨OutputConfig.defaultDirectory, "p"⟩, {}, {}⟩, start, 2, start, [], ?_, rfl,
      rfl, ?_⟩
    · exact Prod.ext (eq_ok_of_toOption (by decide +kernel)) (by decide +kernel)
    · exact Prod.ext (Prod.ext (eq_ok_of_toOption (by decide +kernel)) (by decide +kernel))
        (by decide +kernel)
  have hfirst : Asks ["validate"] ⟨"config.yaml"⟩ (.validate false) :=
    ⟨⟨⟨"config.yaml"⟩, false, "text", "info", .validate false⟩, by decide +kernel, rfl, rfl,
      by decide +kernel⟩
  have hall : Asks ["validate", "--all"] ⟨"config.yaml"⟩ (.validate true) :=
    ⟨⟨⟨"config.yaml"⟩, false, "text", "info", .validate true⟩, by decide +kernel, rfl, rfl,
      by decide +kernel⟩
  have hgeneration : Asks ["--output-json", "generate", "--workers", "2"] ⟨"config.yaml"⟩
      (.generate { workers := some 2 }) :=
    ⟨⟨⟨"config.yaml"⟩, true, "text", "info", .generate { workers := some 2 }⟩, by decide +kernel,
      rfl, rfl, by decide +kernel⟩
  obtain ⟨hlisted, hchecked, -, -, hgenerated, -⟩ :=
    commands_agree host hquiet hfinds (by decide +kernel) rfl hfirst hall hgeneration
      fun _ => takesAll_listHost _ _ _ _
  rw [if_pos (by decide +kernel)] at hchecked
  have hcode := hgenerated (by rw [hchecked]; decide)
  rw [if_neg (by decide), if_pos (by decide +kernel)] at hcode
  exact ⟨hquiet, hchecked, hlisted.trans hchecked, hcode⟩

/-- With one worker more than a pool holds, the generation of an accepted schema breaks down, where one
worker generates it. -/
theorem commands_disagree :
    let start : List (Path × String) :=
      [(⟨"config.yaml"⟩, "schema: s.yaml\noutput:\n  package_base: p\n"),
        (⟨"s.yaml"⟩, "name: d\ntables:\n- name: t\n")]
    let exitCode (words : List String) := ((run (listHost []) words).run start).1.exitCode
    exitCode ["validate"] = 0 ∧ exitCode ["validate", "--all"] = 0 ∧
      exitCode ["generate", "--dry-run", "--workers", "1"] = 0 ∧
      exitCode ["generate", "--dry-run", "--workers", "2305843009213693952"] = 101 := by
  decide +kernel

end Command

end EntityGen
