import Boilerplate.Proofs.CommandLine.Footprint

/-! What a run leaves behind. A command writes its file as the last thing that can fail, so a run that
fails leaves all files but the log as they were, and one that succeeds has changed no other file than
the one it was asked to write. -/
namespace Boilerplate.CommandLine
open Log Merge

theorem Script.run_andThen {α β : Type} (script : Script α) (next : α → Script β) (world : World) :
    (script >>= next).run world = (next (script.run world).2).run (script.run world).1 :=
  script.run_bind next world

namespace Attempt
variable {α β : Type} {world after : World}

/-- An attempt that goes on gives up in its first part, or does what its second part does. -/
theorem runIn_bind_cases {attempt : Attempt α} {next : α → Attempt β} {result : Except Failure β}
    (ran : (attempt >>= next).runIn world = (after, result)) :
    (∃ failure, attempt.runIn world = (after, .error failure) ∧ result = .error failure) ∨
      ∃ value between, attempt.runIn world = (between, .ok value) ∧
        (next value).runIn between = (after, result) := by
  rw [runIn, ExceptT.run_bind, Script.run_andThen, ← runIn] at ran
  rcases answered : attempt.runIn world with ⟨between, outcome⟩
  rw [answered] at ran
  cases outcome with
  | ok value => exact .inr ⟨value, between, rfl, ran⟩
  | error failure =>
    cases ran
    exact .inl ⟨failure, rfl, rfl⟩

theorem ok_of_runIn_bind {attempt : Attempt α} {next : α → Attempt β} {value : β}
    (ran : (attempt >>= next).runIn world = (after, .ok value)) :
    ∃ found between, attempt.runIn world = (between, .ok found) ∧
      (next found).runIn between = (after, .ok value) := by
  rcases runIn_bind_cases ran with ⟨failure, _, impossible⟩ | going
  · cases impossible
  · exact going

/-- A write that fails changes nothing. -/
theorem eq_of_writeFile_error {cause : FileFault → Failure} {path text : String} {failure : Failure}
    (failed : (writeFile cause path text).runIn world = (after, .error failure)) : after = world := by
  change (ofOutcome cause (world.change (world.files.write path text)).2).runIn
    (world.change (world.files.write path text)).1 = _ at failed
  cases outcome : world.files.write path text with
  | error fault =>
    rw [outcome] at failed
    cases failed
    rfl
  | ok files =>
    rw [outcome] at failed
    cases failed

theorem eq_of_runIn_ofOutcome {ε : Type} {failure : ε → Failure} {outcome : Except ε α} {value : α}
    (ran : (ofOutcome failure outcome).runIn world = (after, .ok value)) :
    after = world ∧ outcome = .ok value := by
  cases outcome with
  | error cause => cases ran
  | ok found =>
    cases ran
    exact ⟨rfl, rfl⟩

end Attempt

section Commands
variable {s : Setup} {path : String} {world after : World}

/-- The file that a command is asked to write. -/
def Command.target? : Command → Option String
  | .generate _ _ _ output => output
  | .plan _ _ _ _ writeSnapshot => writeSnapshot
  | _ => none

/-- Writes a text and says so in the log. -/
def deliver (s : Setup) (span : Span) (content : Content) (path text : String)
    (events : List Event) : Attempt Unit := do
  Attempt.writeFile (.unwritable content path) path text
  s.record (some span) events

/-- What `generate` does before it shows or writes anything. -/
def generated (s : Setup) (classPath : String) (kind : ArtifactKind) :
    Attempt (DataClass × ArtifactSet) := do
  let c ← readClass s classPath
  s.record (some ⟨"generate", c.name⟩) (s.toolchain.generator.generateEvents c kind)
  let set ← Attempt.ofOutcome (.notGenerated c) (s.toolchain.generator.generate c kind)
  return (c, set)

/-- What `plan` does before it writes a file. -/
def planned (s : Setup) (classPath : String) (snapshotPath : Option String) (kind : ArtifactKind)
    (format : OutputFormat) : Attempt (DataClass × PlanOutcome) := do
  let c ← readClass s classPath
  let snapshot ← readSnapshot s ⟨"plan", c.name⟩ snapshotPath
  s.record (some ⟨"plan", c.name⟩) (s.toolchain.planEvents c snapshot kind)
  let outcome ← Attempt.ofOutcome (.notGenerated c) (s.toolchain.plan c snapshot kind)
  s.record (some ⟨"plan", c.name⟩) (conflictEvents outcome.plan)
  Attempt.print (planText c outcome.plan format)
  return (c, outcome)

theorem runGenerate_print (s : Setup) (classPath : String) (kind : ArtifactKind)
    (format : OutputFormat) :
    runGenerate s classPath kind format none = (do
      let (_, set) ← generated s classPath kind
      Attempt.print (artifactText set format)) := by
  simp only [runGenerate, generated, bind_assoc, pure_bind]

theorem runGenerate_deliver (s : Setup) (classPath : String) (kind : ArtifactKind)
    (format : OutputFormat) (path : String) :
    runGenerate s classPath kind format (some path) = (do
      let (c, set) ← generated s classPath kind
      deliver s ⟨"generate", c.name⟩ .output path (artifactText set format)
        [⟨.info, .command, "wrote artifacts", [("path", .plain path)]⟩]) := by
  simp only [runGenerate, generated, deliver, bind_assoc, pure_bind]

theorem runPlan_print (s : Setup) (classPath : String) (snapshotPath : Option String)
    (kind : ArtifactKind) (format : OutputFormat) :
    runPlan s classPath snapshotPath kind format none = (do
      let _ ← planned s classPath snapshotPath kind format
      return ()) := by
  simp only [runPlan, planned, bind_assoc, pure_bind]

theorem runPlan_deliver (s : Setup) (classPath : String) (snapshotPath : Option String)
    (kind : ArtifactKind) (format : OutputFormat) (path : String) :
    runPlan s classPath snapshotPath kind format (some path) = (do
      let (c, outcome) ← planned s classPath snapshotPath kind format
      deliver s ⟨"plan", c.name⟩ .classSnapshot path outcome.merged.save
        [⟨.info, .command, "wrote merged snapshot", [("path", .plain path)]⟩]) := by
  simp only [runPlan, planned, deliver, bind_assoc, pure_bind]

end Commands

section Spared
variable {place : Place} {s : Setup} {names : List String}

theorem spares_generated (spares : s.logger.Spares place) (classPath : String)
    (kind : ArtifactKind) : (generated s classPath kind).Spares place := by
  refine (spares_readClass spares classPath).bind fun c => ?_
  refine (Setup.spares_record spares _ _).bind fun _ => ?_
  exact (Attempt.spares_ofOutcome _ _).bind fun set => Attempt.spares_pure (c, set)

theorem spares_planned (spares : s.logger.Spares (.file names)) (classPath : String)
    (snapshotPath : Option String) (kind : ArtifactKind) (format : OutputFormat) :
    (planned s classPath snapshotPath kind format).Spares (.file names) := by
  refine (spares_readClass spares classPath).bind fun c => ?_
  refine (spares_readSnapshot spares _ snapshotPath).bind fun snapshot => ?_
  refine (Setup.spares_record spares _ _).bind fun _ => ?_
  refine (Attempt.spares_ofOutcome _ _).bind fun outcome => ?_
  refine (Setup.spares_record spares _ _).bind fun _ => ?_
  exact (Attempt.spares_print _).bind fun _ => Attempt.spares_pure (c, outcome)

theorem spares_deliver {span : Span} {content : Content} {path text : String} {events : List Event}
    (apart : place ≠ .file (pathNames path)) (spares : s.logger.Spares place) :
    (deliver s span content path text events).Spares place := by
  have asked : (Script.writeFile path text pure).Spares place := ⟨apart, fun _ => trivial⟩
  have written : (Attempt.writeFile (.unwritable content path) path text).Spares place :=
    (Attempt.spares_ofScript asked).bind fun _ => Attempt.spares_ofOutcome _ _
  exact written.bind fun _ => Setup.spares_record spares _ _

/-- A command writes to the log and to its own file only. -/
theorem spares_runCommand {command : Command} (spares : s.logger.Spares (.file names))
    (apart : command.target?.map pathNames ≠ some names) :
    (runCommand s command).Spares (.file names) := by
  have away {path : String} (target : command.target? = some path) :
      Place.file names ≠ .file (pathNames path) := by
    rw [target] at apart
    exact fun same => apart (congrArg some (Place.file.inj same).symm)
  cases command with
  | generate classPath kind format output =>
    refine Attempt.Spares.bind ?_ fun _ => Attempt.spares_pure true
    cases output with
    | none =>
      rw [runGenerate_print]
      exact (spares_generated spares classPath kind).bind fun _ => Attempt.spares_print _
    | some path =>
      rw [runGenerate_deliver]
      exact (spares_generated spares classPath kind).bind fun _ => spares_deliver (away rfl) spares
  | plan classPath snapshotPath kind format writeSnapshot =>
    refine Attempt.Spares.bind ?_ fun _ => Attempt.spares_pure true
    have ready := spares_planned spares classPath snapshotPath kind format
    cases writeSnapshot with
    | none =>
      rw [runPlan_print]
      exact ready.bind fun _ => Attempt.spares_pure ()
    | some path =>
      rw [runPlan_deliver]
      exact ready.bind fun _ => spares_deliver (away rfl) spares
  | strategies => exact (Attempt.spares_print _).bind fun _ => Attempt.spares_pure true
  | resolve types classPath => exact spares_runResolve spares types classPath

end Spared

section Delivery
variable {α : Type} {world after : World} {path : String}

theorem deliver_cases {s : Setup} {span : Span} {content : Content} {text : String}
    {events : List Event} {result : Except Failure Unit}
    (spares : s.logger.Spares (.file (pathNames path)))
    (ran : (deliver s span content path text events).runIn world = (after, result)) :
    (∃ failure, result = .error failure ∧ after = world) ∨
      result = .ok () ∧ after.files.find? (pathNames path) = some text := by
  rcases Attempt.runIn_bind_cases ran with ⟨failure, failed, rfl⟩ | ⟨_, between, written, recorded⟩
  · exact .inl ⟨failure, rfl, Attempt.eq_of_writeFile_error failed⟩
  · right
    have found := Files.find?_of_write (Attempt.files_of_writeFile written)
    have kept := (Setup.spares_record spares (some span) events).look_runIn between
    rw [recorded] at kept
    rw [Setup.record, Attempt.runIn_ofScript] at recorded
    exact ⟨(congrArg Prod.snd recorded).symm, kept.trans found⟩

/-- When a file is written after all that is to be prepared, it is there with the text that was
prepared, or it is as it was. -/
theorem prepare_deliver_cases {prepare : Attempt α} {s : α → Setup} {span : α → Span}
    {content : Content} {text : α → String} {events : List Event} {result : Except Failure Bool}
    (prepares : prepare.Spares (.file (pathNames path)))
    (logs : ∀ value, (s value).logger.Spares (.file (pathNames path)))
    (ran : (do
        let value ← prepare
        deliver (s value) (span value) content path (text value) events
        return true : Attempt Bool).runIn world = (after, result)) :
    (∃ failure, result = .error failure ∧
        after.files.find? (pathNames path) = world.files.find? (pathNames path)) ∨
      result = .ok true ∧ ∃ value between, prepare.runIn world = (between, .ok value) ∧
        after.files.find? (pathNames path) = some (text value) := by
  have kept := prepares.look_runIn world
  rcases Attempt.runIn_bind_cases ran with ⟨failure, failed, rfl⟩ | ⟨value, between, prepared, ran⟩
  · rw [failed] at kept
    exact .inl ⟨failure, rfl, kept⟩
  · rw [prepared] at kept
    rcases Attempt.runIn_bind_cases ran with ⟨failure, failed, rfl⟩ | ⟨_, last, delivered, returned⟩
    · rcases deliver_cases (logs value) failed with ⟨_, _, rfl⟩ | ⟨impossible, _⟩
      · exact .inl ⟨failure, rfl, kept⟩
      · cases impossible
    · cases returned
      rcases deliver_cases (logs value) delivered with ⟨_, impossible, _⟩ | ⟨_, found⟩
      · cases impossible
      · exact .inr ⟨rfl, value, between, prepared, found⟩

end Delivery

section Run
variable {α : Type} {settings : Settings} {environment : Environment} {command : Command}
  {world started after : World} {exit : Exit} {names : List String} {text : String}

/-- What a command works with under a configuration. -/
def setup (settings : Settings) (environment : Environment) (config : Config) : Setup :=
  ⟨.ofConfig config, .ofSettings settings environment⟩

/-- What a run does once its log is there. -/
def work (settings : Settings) (environment : Environment) (command : Command) : Attempt Bool := do
  let config ← loadConfig (.ofSettings settings environment) settings environment
  runCommand (setup settings environment config) command

/-- Loads the configuration and goes on with it. -/
def configured (settings : Settings) (environment : Environment) (next : Setup → Attempt α) :
    Attempt (Config × α) := do
  let config ← loadConfig (.ofSettings settings environment) settings environment
  let value ← next (setup settings environment config)
  return (config, value)

/-- The text that a command which succeeds is to leave in its file: that which `generate` shows
when it is given no file, and for `plan` the class after the plan. -/
inductive Delivers (settings : Settings) (environment : Environment) (world : World) :
    Command → String → Prop where
  | artifacts {classPath : String} {kind : ArtifactKind} {format : OutputFormat} {path text : String}
      {shown : World}
      (shows :
        (runWith settings environment (.generate classPath kind format none)).run world =
          (shown, .success))
      (printed : shown.output = world.output ++ text) :
      Delivers settings environment world (.generate classPath kind format (some path)) text
  | snapshot {classPath : String} {snapshotPath : Option String} {kind : ArtifactKind}
      {format : OutputFormat} {path : String} {started loaded described ready : World}
      {config : Config} {c : DataClass} {snapshot : Snapshot} {outcome : PlanOutcome}
      (starts : (Logger.ofSettings settings environment).start.run world = (started, .ok ()))
      (loads : (loadConfig (.ofSettings settings environment) settings environment).runIn started =
        (loaded, .ok config))
      (describes : (readClass (setup settings environment config) classPath).runIn loaded =
        (described, .ok c))
      (finds : (readSnapshot (setup settings environment config) ⟨"plan", c.name⟩ snapshotPath).runIn
        described = (ready, .ok snapshot))
      (plans : (Toolchain.ofConfig config).plan c snapshot kind = .ok outcome) :
      Delivers settings environment world (.plan classPath snapshotPath kind format (some path))
        (Json.pretty 0 outcome.merged.toDocument ++ "\n")

theorem Logger.spares_output (logger : Logger) : logger.Spares .output := nofun

theorem Logger.spares_ofSettings (environment : Environment)
    (unlogged : settings.logFile.map pathNames ≠ some names) :
    (Logger.ofSettings settings environment).Spares (.file names) := by
  intro path logged same
  change settings.logFile = some path at logged
  rw [logged] at unlogged
  exact unlogged (congrArg some (Place.file.inj same).symm)

theorem spares_configured {place : Place} {next : Setup → Attempt α}
    (spares : (Logger.ofSettings settings environment).Spares place)
    (rest : ∀ s, s.logger.Spares place → (next s).Spares place) :
    (configured settings environment next).Spares place :=
  (spares_loadConfig spares settings environment).bind fun _ =>
    (rest _ spares).bind fun _ => Attempt.spares_pure _

theorem spares_work (spares : (Logger.ofSettings settings environment).Spares (.file names))
    (apart : command.target?.map pathNames ≠ some names) :
    (work settings environment command).Spares (.file names) :=
  (spares_loadConfig spares settings environment).bind fun _ => spares_runCommand spares apart

theorem work_generate_print (classPath : String) (kind : ArtifactKind) (format : OutputFormat) :
    work settings environment (.generate classPath kind format none) = (do
      let made ← configured settings environment fun s => generated s classPath kind
      Attempt.print (artifactText made.2.2 format)
      return true) := by
  simp only [work, runCommand, configured, runGenerate_print, bind_assoc, pure_bind]

theorem work_generate_deliver (classPath : String) (kind : ArtifactKind) (format : OutputFormat)
    (path : String) :
    work settings environment (.generate classPath kind format (some path)) = (do
      let made ← configured settings environment fun s => generated s classPath kind
      deliver (setup settings environment made.1) ⟨"generate", made.2.1.name⟩ .output path
        (artifactText made.2.2 format)
        [⟨.info, .command, "wrote artifacts", [("path", .plain path)]⟩]
      return true) := by
  simp only [work, runCommand, configured, runGenerate_deliver, bind_assoc, pure_bind]

theorem work_plan_deliver (classPath : String) (snapshotPath : Option String) (kind : ArtifactKind)
    (format : OutputFormat) (path : String) :
    work settings environment (.plan classPath snapshotPath kind format (some path)) = (do
      let made ← configured settings environment fun s =>
        planned s classPath snapshotPath kind format
      deliver (setup settings environment made.1) ⟨"plan", made.2.1.name⟩ .classSnapshot path
        made.2.2.merged.save
        [⟨.info, .command, "wrote merged snapshot", [("path", .plain path)]⟩]
      return true) := by
  simp only [work, runCommand, configured, runPlan_deliver, bind_assoc, pure_bind]

/-- A run ends in success when its work does, and else has only reported what was wrong. -/
theorem runAttempt_cases {attempt : Attempt Bool}
    (ran : (runAttempt attempt).run world = (after, exit)) :
    exit = .success ∧ attempt.runIn world = (after, .ok true) ∨
      exit = .failure ∧ (attempt.runIn world).2 ≠ .ok true ∧
        ∀ place, after.look place = (attempt.runIn world).1.look place := by
  rw [runAttempt, Script.run_andThen, ← Attempt.runIn] at ran
  rcases worked : attempt.runIn world with ⟨between, result⟩
  rw [worked] at ran
  rcases result with failure | _ | _
  · cases ran
    refine .inr ⟨rfl, nofun, fun place => ?_⟩
    cases place <;> rfl
  · cases ran
    exact .inr ⟨rfl, nofun, fun _ => rfl⟩
  · cases ran
    exact .inl ⟨rfl, rfl⟩

theorem runAttempt_success {attempt : Attempt Bool}
    (worked : attempt.runIn world = (after, .ok true)) :
    (runAttempt attempt).run world = (after, .success) := by
  rw [runAttempt, Script.run_andThen, ← Attempt.runIn, worked]
  rfl

theorem runWith_of_start
    (starts : (Logger.ofSettings settings environment).start.run world = (started, .ok ())) :
    (runWith settings environment command).run world =
      (runAttempt (work settings environment command)).run started := by
  rw [runWith, Script.run_andThen, starts]
  rfl

/-- A run whose log cannot be started only reports that, and any other does its work. -/
theorem runWith_cases (ran : (runWith settings environment command).run world = (after, exit)) :
    (exit = .failure ∧ ∀ place, after.look place =
        ((Logger.ofSettings settings environment).start.run world).1.look place) ∨
      ∃ started, (Logger.ofSettings settings environment).start.run world = (started, .ok ()) ∧
        (runAttempt (work settings environment command)).run started = (after, exit) := by
  rcases starts : (Logger.ofSettings settings environment).start.run world with ⟨started, result⟩
  cases result with
  | ok => exact .inr ⟨started, rfl, (runWith_of_start starts).symm.trans ran⟩
  | error fault =>
    rw [runWith, Script.run_andThen, starts] at ran
    cases ran
    refine .inl ⟨rfl, fun place => ?_⟩
    cases place <;> rfl

/-- What `generate` has made is what it shows when it is given no file. -/
theorem delivers_artifacts {classPath : String} {kind : ArtifactKind} {format : OutputFormat}
    {path : String} {between : World} {made : Config × DataClass × ArtifactSet}
    (starts : (Logger.ofSettings settings environment).start.run world = (started, .ok ()))
    (prepared : (configured settings environment fun s => generated s classPath kind).runIn started =
      (between, .ok made)) :
    Delivers settings environment world (.generate classPath kind format (some path))
      (artifactText made.2.2 format) := by
  have spares := Logger.spares_output (Logger.ofSettings settings environment)
  have unprinted : between.output = world.output := by
    have first := (Logger.spares_start spares).look_run world
    have second := (spares_configured spares fun s _ =>
      spares_generated s.logger.spares_output classPath kind).look_runIn started
    rw [starts] at first
    rw [prepared] at second
    exact Option.some.inj (second.trans first)
  let shown : World := { between with output := between.output ++ artifactText made.2.2 format }
  have printed : shown.output = world.output ++ artifactText made.2.2 format := by
    rw [← unprinted]
  refine .artifacts ?_ printed
  rw [runWith_of_start starts]
  refine runAttempt_success ?_
  rw [work_generate_print, Attempt.runIn_bind prepared]
  rfl

theorem delivers_snapshot {classPath : String} {snapshotPath : Option String} {kind : ArtifactKind}
    {format : OutputFormat} {path : String} {between : World}
    {made : Config × DataClass × PlanOutcome}
    (starts : (Logger.ofSettings settings environment).start.run world = (started, .ok ()))
    (prepared : (configured settings environment fun s =>
      planned s classPath snapshotPath kind format).runIn started = (between, .ok made)) :
    Delivers settings environment world (.plan classPath snapshotPath kind format (some path))
      made.2.2.merged.save := by
  obtain ⟨config, _, loads, configured⟩ := Attempt.ok_of_runIn_bind prepared
  obtain ⟨value, _, planned, returned⟩ := Attempt.ok_of_runIn_bind configured
  cases returned
  obtain ⟨c, _, describes, described⟩ := Attempt.ok_of_runIn_bind planned
  obtain ⟨snapshot, _, finds, found⟩ := Attempt.ok_of_runIn_bind described
  obtain ⟨_, _, _, recorded⟩ := Attempt.ok_of_runIn_bind found
  obtain ⟨outcome, _, plans, warned⟩ := Attempt.ok_of_runIn_bind recorded
  obtain ⟨_, _, _, printed⟩ := Attempt.ok_of_runIn_bind warned
  obtain ⟨_, _, _, returned⟩ := Attempt.ok_of_runIn_bind printed
  cases returned
  exact .snapshot starts loads describes finds (Attempt.eq_of_runIn_ofOutcome plans).2

/-- A command's own file is as it was, or it holds what the command delivers. -/
theorem work_target_cases {path : String} {result : Except Failure Bool}
    (target : command.target? = some path)
    (unlogged : settings.logFile.map pathNames ≠ some (pathNames path))
    (starts : (Logger.ofSettings settings environment).start.run world = (started, .ok ()))
    (ran : (work settings environment command).runIn started = (after, result)) :
    (∃ failure, result = .error failure ∧
        after.files.find? (pathNames path) = started.files.find? (pathNames path)) ∨
      result = .ok true ∧ ∃ text, Delivers settings environment world command text ∧
        after.files.find? (pathNames path) = some text := by
  have spares : (Logger.ofSettings settings environment).Spares (.file (pathNames path)) :=
    Logger.spares_ofSettings environment unlogged
  cases command with
  | generate classPath kind format output =>
    cases target
    rw [work_generate_deliver] at ran
    have prepares := spares_configured spares fun s logs => spares_generated logs classPath kind
    rcases prepare_deliver_cases prepares (fun _ => spares) ran with
      failed | ⟨rfl, _, _, prepared, found⟩
    · exact .inl failed
    · exact .inr ⟨rfl, _, delivers_artifacts starts prepared, found⟩
  | plan classPath snapshotPath kind format writeSnapshot =>
    cases target
    rw [work_plan_deliver] at ran
    have prepares := spares_configured spares fun s logs =>
      spares_planned logs classPath snapshotPath kind format
    rcases prepare_deliver_cases prepares (fun _ => spares) ran with
      failed | ⟨rfl, _, _, prepared, found⟩
    · exact .inl failed
    · exact .inr ⟨rfl, _, delivers_snapshot starts prepared, found⟩
  | strategies => cases target
  | resolve types classPath => cases target

theorem runWith_target_cases {path : String} (target : command.target? = some path)
    (unlogged : settings.logFile.map pathNames ≠ some (pathNames path))
    (ran : (runWith settings environment command).run world = (after, exit)) :
    (exit = .failure ∧
        after.files.find? (pathNames path) = world.files.find? (pathNames path)) ∨
      exit = .success ∧ ∃ text, Delivers settings environment world command text ∧
        after.files.find? (pathNames path) = some text := by
  have spares : (Logger.ofSettings settings environment).Spares (.file (pathNames path)) :=
    Logger.spares_ofSettings environment unlogged
  have kept := (Logger.spares_start spares).look_run world
  rcases runWith_cases ran with ⟨failed, same⟩ | ⟨started, starts, ran⟩
  · exact .inl ⟨failed, (same (.file _)).trans kept⟩
  · rw [starts] at kept
    rcases runAttempt_cases ran with ⟨succeeded, worked⟩ | ⟨failed, wrong, same⟩
    · rcases work_target_cases target unlogged starts worked with
        ⟨_, impossible, _⟩ | ⟨_, delivered⟩
      · cases impossible
      · exact .inr ⟨succeeded, delivered⟩
    · rcases work_target_cases target unlogged starts rfl with ⟨_, _, unchanged⟩ | ⟨right, _⟩
      · exact .inl ⟨failed, (same (.file _)).trans (unchanged.trans kept)⟩
      · exact absurd right wrong

theorem spares_runWith (spares : (Logger.ofSettings settings environment).Spares (.file names))
    (apart : command.target?.map pathNames ≠ some names) :
    (runWith settings environment command).Spares (.file names) := by
  refine Script.Spares.bind (Logger.spares_start spares) fun result => ?_
  cases result with
  | error fault => trivial
  | ok =>
    refine Script.Spares.bind (spares_work spares apart).run fun result => ?_
    rcases result with _ | _ | _ <;> trivial

theorem exit_runWith (settings : Settings) (environment : Environment) (command : Command)
    (world : World) : ((runWith settings environment command).run world).2 ≠ .misuse := by
  rcases ran : (runWith settings environment command).run world with ⟨after, exit⟩
  rcases runWith_cases ran with ⟨rfl, _⟩ | ⟨_, _, ran⟩
  · nofun
  · rcases runAttempt_cases ran with ⟨rfl, _⟩ | ⟨rfl, _⟩ <;> nofun

/-- A run that fails leaves every file but the log as it was, at whatever stage it fails. One that
succeeds changes, besides the log, at most the file that the command is asked to write, and that file
then holds what the command delivers. -/
theorem run_leaves_files {arguments : List String}
    (accepted : Invocation.parse arguments = .run settings command) (environment : Environment)
    (world : World) :
    let (after, exit) := (program environment arguments).run world
    exit ≠ .misuse ∧
      (exit = .failure → ∀ names, settings.logFile.map pathNames ≠ some names →
        after.files.find? names = world.files.find? names) ∧
      (exit = .success → ∀ names, settings.logFile.map pathNames ≠ some names →
        (command.target?.map pathNames ≠ some names →
          after.files.find? names = world.files.find? names) ∧
        (command.target?.map pathNames = some names →
          ∃ text, Delivers settings environment world command text ∧
            after.files.find? names = some text)) := by
  have runs : program environment arguments = runWith settings environment command := by
    rw [program, accepted]
  rw [runs]
  have used := exit_runWith settings environment command world
  rcases ran : (runWith settings environment command).run world with ⟨after, exit⟩
  rw [ran] at used
  have untouched {names : List String} (unlogged : settings.logFile.map pathNames ≠ some names)
      (apart : command.target?.map pathNames ≠ some names) :
      after.files.find? names = world.files.find? names := by
    have spares := Logger.spares_ofSettings environment unlogged
    have kept := (spares_runWith spares apart).look_run world
    rw [ran] at kept
    exact kept
  refine ⟨used, fun failed names unlogged => ?_, fun succeeded names unlogged =>
    ⟨untouched unlogged, fun target => ?_⟩⟩
  · by_cases target : command.target?.map pathNames = some names
    · obtain ⟨path, asked, rfl⟩ := Option.map_eq_some_iff.mp target
      rcases runWith_target_cases asked unlogged ran with ⟨_, same⟩ | ⟨succeeded, _⟩
      · exact same
      · exact absurd (failed.symm.trans succeeded) nofun
    · exact untouched unlogged target
  · obtain ⟨path, asked, rfl⟩ := Option.map_eq_some_iff.mp target
    rcases runWith_target_cases asked unlogged ran with ⟨failed, _⟩ | ⟨_, delivered⟩
    · exact absurd (failed.symm.trans succeeded) nofun
    · exact delivered

end Run

/-- A class to generate from, and a file that is in the way. -/
def draft : World :=
  ⟨⟨[(["p.json"], "\x7b\"name\": \"P\", \"fields\": []\x7d"), (["out.java"], "old")]⟩, "", ""⟩

def generateDraft : List String := ["generate", "p.json", "--output", "out.java"]

theorem run_leaves_files_draft :
    Invocation.parse generateDraft =
      .run ⟨none, none, .pretty, none⟩ (.generate "p.json" .all .text (some "out.java")) ∧
    let (after, exit) := (program ⟨none, none, "/work"⟩ generateDraft).run draft
    exit = .success ∧ after.files.find? ["p.json"] = draft.files.find? ["p.json"] ∧
      ∃ text, Delivers ⟨none, none, .pretty, none⟩ ⟨none, none, "/work"⟩ draft
          (.generate "p.json" .all .text (some "out.java")) text ∧
        after.files.find? ["out.java"] = some text := by
  have accepted : Invocation.parse generateDraft =
      .run ⟨none, none, .pretty, none⟩ (.generate "p.json" .all .text (some "out.java")) := rfl
  have left := run_leaves_files accepted ⟨none, none, "/work"⟩ draft
  have succeeded : ((program ⟨none, none, "/work"⟩ generateDraft).run draft).2 = .success := by
    decide +kernel
  rcases ran : (program ⟨none, none, "/work"⟩ generateDraft).run draft with ⟨after, exit⟩
  rw [ran] at left succeeded
  exact ⟨accepted, succeeded, (left.2.2 succeeded ["p.json"] nofun).1 (by decide),
    (left.2.2 succeeded ["out.java"] nofun).2 (by decide)⟩

end Boilerplate.CommandLine
