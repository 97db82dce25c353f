import Boilerplate.CommandLine.Attempt
import Boilerplate.CommandLine.Logger
import Boilerplate.CommandLine.Summary
import Boilerplate.Document.ArtifactDocument
import Boilerplate.Document.Storage
import Boilerplate.Document.PlanDocument
import Boilerplate.Document.SettingsDocument
import Boilerplate.Document.TomlReader

/-! The program as a script, from its arguments to its exit code. -/
namespace Boilerplate.CommandLine
open Log Merge

/-- What every command works with. -/
structure Setup where
  toolchain : Toolchain
  logger : Logger

def Setup.record (s : Setup) (span : Option Span) (events : List Event) : Attempt Unit :=
  .ofScript (s.logger.record span events)

/-- The configuration file: the one asked for, the one in the environment, or the one in the working
directory. -/
def configPath (settings : Settings) (environment : Environment) : Script (Option String) :=
  let named := settings.config <|> environment.configPath.filter fun path => path != ""
  match named with
  | some path => pure (some path)
  | none =>
    let directory := environment.workingDirectory
    let path :=
      if directory == "" || directory.endsWith "/" then directory ++ "dbm.toml"
      else directory ++ "/dbm.toml"
    .isFile path fun isThere => pure (if isThere then some path else none)

def loadConfig (logger : Logger) (settings : Settings) (environment : Environment) :
    Attempt Config := do
  match ← Attempt.ofScript (configPath settings environment) with
  | none =>
    Attempt.ofScript (logger.record none
      [⟨.debug, .configuration, "no config file; using defaults", []⟩])
    return .standard
  | some path =>
    Attempt.ofScript (logger.record none
      [⟨.debug, .configuration, "loading config", [("path", .plain path)]⟩])
    let text ← Attempt.readFile (.unreadableConfig path) path
    match (Toml.read? text).bind (Config.ofDocument? true) with
    | none => Attempt.fail (.malformedConfig path)
    | some config =>
      Attempt.ofOutcome .invalidConfig config.validate
      return config

def readClass (s : Setup) (path : String) : Attempt DataClass := do
  let text ← Attempt.readFile (.unreadable .classDescriptor path) path
  match DataClass.load? text with
  | none => Attempt.fail (.malformed .classDescriptor path)
  | some c =>
    s.record none [⟨.debug, .pipeline, "loaded class descriptor",
      [("class", .plain c.name), ("fields", .count c.fields.length)]⟩]
    return c

/-- The snapshot in a file, or that of an empty class. -/
def readSnapshot (s : Setup) (span : Span) : Option String → Attempt Snapshot
  | none => pure .empty
  | some path => do
    let text ← Attempt.readFile (.unreadable .classSnapshot path) path
    match Snapshot.load? text with
    | none => Attempt.fail (.malformed .classSnapshot path)
    | some snapshot =>
      s.record (some span) [⟨.debug, .pipeline, "loaded class snapshot",
        [("members", .count snapshot.members.length)]⟩]
      return snapshot

def artifactText (set : ArtifactSet) : OutputFormat → String
  | .text => set.text
  | .json => Json.pretty 0 set.toDocument ++ "\n"

def runGenerate (s : Setup) (classPath : String) (kind : ArtifactKind) (format : OutputFormat)
    (output : Option String) : Attempt Unit := do
  let c ← readClass s classPath
  let span : Span := ⟨"generate", c.name⟩
  let generator := s.toolchain.generator
  s.record (some span) (generator.generateEvents c kind)
  let set ← Attempt.ofOutcome (.notGenerated c) (generator.generate c kind)
  match output with
  | none => Attempt.print (artifactText set format)
  | some path =>
    Attempt.writeFile (.unwritable .output path) path (artifactText set format)
    s.record (some span) [⟨.info, .command, "wrote artifacts", [("path", .plain path)]⟩]

/-- A warning about the conflicts of a plan, if there are any. -/
def conflictEvents (plan : EditPlan) : List Event :=
  if plan.conflicts = 0 then []
  else [⟨.warn, .command, "plan contains conflict-annotated insertions",
    [("conflicts", .count plan.conflicts)]⟩]

def planText (c : DataClass) (plan : EditPlan) : OutputFormat → String
  | .text => planSummary c.name plan
  | .json => Json.pretty 0 plan.toDocument ++ "\n"

def runPlan (s : Setup) (classPath : String) (snapshotPath : Option String)
    (kind : ArtifactKind) (format : OutputFormat) (writeSnapshot : Option String) :
    Attempt Unit := do
  let c ← readClass s classPath
  let span : Span := ⟨"plan", c.name⟩
  let snapshot ← readSnapshot s span snapshotPath
  s.record (some span) (s.toolchain.planEvents c snapshot kind)
  let outcome ← Attempt.ofOutcome (.notGenerated c) (s.toolchain.plan c snapshot kind)
  s.record (some span) (conflictEvents outcome.plan)
  Attempt.print (planText c outcome.plan format)
  match writeSnapshot with
  | none => return ()
  | some path =>
    Attempt.writeFile (.unwritable .classSnapshot path) path outcome.merged.save
    s.record (some span) [⟨.info, .command, "wrote merged snapshot", [("path", .plain path)]⟩]

/-- The rows for types alone. -/
def typeRows (resolver : Resolver) (types : List String) : List ResolutionRow :=
  types.map fun type => ⟨"-", type, (resolver.resolve type).toOption⟩

def classRows (generator : Generator) (c : DataClass) : List ResolutionRow :=
  (generator.report c).map fun entry => ⟨entry.field, entry.declaredType, entry.strategy⟩

/-- Answers whether every type has a strategy. -/
def runResolve (s : Setup) (types : List String) (classPath : Option String) : Attempt Bool := do
  let generator := s.toolchain.generator
  if types.isEmpty && classPath.isNone then Attempt.fail .nothingToResolve
  s.record none (types.flatMap generator.resolver.resolveEvents)
  let ofClass ← match classPath with
    | none => pure []
    | some path => do
      let c ← readClass s path
      s.record none (generator.reportEvents c)
      pure (classRows generator c)
  let rows := typeRows generator.resolver types ++ ofClass
  Attempt.print (resolutionTable rows).text
  return rows.all fun row => row.strategy.isSome

/-- Answers whether the command succeeds. -/
def runCommand (s : Setup) : Command → Attempt Bool
  | .generate classPath kind format output => do
    runGenerate s classPath kind format output
    return true
  | .plan classPath snapshotPath kind format writeSnapshot => do
    runPlan s classPath snapshotPath kind format writeSnapshot
    return true
  | .strategies => do
    Attempt.print (strategyTable s.toolchain.generator.resolver.order).text
    return true
  | .resolve types classPath => runResolve s types classPath

/-- How a run ends, as its exit code tells. -/
inductive Exit where
  | success
  | failure
  | misuse
deriving DecidableEq, Repr

def Exit.code : Exit → UInt32
  | success => 0
  | failure => 1
  | misuse => 2

def runAttempt (attempt : Attempt Bool) : Script Exit := do
  match ← attempt.run with
  | .ok true => return .success
  | .ok false => return .failure
  | .error failure => .report ("error: " ++ failure.message ++ "\n") fun _ => pure .failure

def runWith (settings : Settings) (environment : Environment) (command : Command) :
    Script Exit := do
  let logger := Logger.ofSettings settings environment
  match ← logger.start with
  | .error fault =>
    .report ("error: failed to initialize logging: " ++ fault.message ++ "\n") fun _ =>
      pure .failure
  | .ok () =>
    runAttempt do
      let config ← loadConfig logger settings environment
      runCommand ⟨.ofConfig config, logger⟩ command

def usage : String := "Usage: dbm [OPTIONS] <COMMAND>\n"

def helpText : String :=
  "Generate Parcelable serialization and SQLite schema members for a data class.\n\n" ++ usage ++
    "\nCommands:\n" ++
    "  generate    Generate artifacts for a class descriptor\n" ++
    "  plan        Plan the merge of generated artifacts into an existing class\n" ++
    "  strategies  List serializer strategies in priority order\n" ++
    "  resolve     Show which strategy claims each type\n" ++
    "  help        Print this message\n"

def program (environment : Environment) (arguments : List String) : Script Exit :=
  match Invocation.parse arguments with
  | .version => .print "dbm 0.1.0\n" fun _ => pure .success
  | .help => .print helpText fun _ => pure .success
  | .misuse => .report usage fun _ => pure .misuse
  | .run settings command => runWith settings environment command

end Boilerplate.CommandLine
