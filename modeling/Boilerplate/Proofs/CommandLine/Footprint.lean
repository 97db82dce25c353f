import Boilerplate.Proofs.CommandLine.Stored

/-! Where a script may write, whatever it is answered. What it spares stays as it was. Commands write
to the log, to the file they are asked to write, and to no other file. -/
namespace Boilerplate.CommandLine

/-- What can be looked at in a world: a file, or what was printed. -/
inductive Place where
  | file (names : List String)
  | output
deriving DecidableEq, Repr

def World.look (world : World) : Place → Option String
  | .file names => world.files.find? names
  | .output => some world.output

namespace Files
variable {files after : Files} {path text : String} {names other : List String}

theorem find?_put_of_ne (different : names ≠ other) :
    (files.put names text).find? other = files.find? other := by
  unfold put find?
  split
  · induction files.entries with
    | nil => rfl
    | cons entry more ih =>
      rw [List.map_cons, List.lookup_cons, List.lookup_cons, ih]
      by_cases same : entry.1 = names
      · have apart : (other == names) = false := beq_eq_false_iff_ne.mpr (Ne.symm different)
        rw [if_pos (beq_iff_eq.mpr same), same, apart]
      · rw [if_neg (by simpa using same)]
  · have apart : (other == names) = false := beq_eq_false_iff_ne.mpr (Ne.symm different)
    rw [List.lookup_append, List.lookup_cons, apart]
    simp

/-- A change that succeeds puts a text at the path and nowhere else. -/
theorem exists_put_of_update {change : String → String}
    (updated : files.update path change = .ok after) :
    ∃ old, after = files.put (pathNames path) (change old) := by
  unfold update at updated
  dsimp only at updated
  split at updated
  · cases updated
  · split at updated
    · cases updated
    · split at updated
      · cases updated
        exact ⟨_, rfl⟩
      · split at updated
        · cases updated
        · split at updated
          · cases updated
          · cases updated
            exact ⟨_, rfl⟩

theorem find?_of_write (written : files.write path text = .ok after) :
    after.find? (pathNames path) = some text := by
  obtain ⟨_, rfl⟩ := exists_put_of_update written
  exact find?_put files _ text

end Files

theorem World.look_change {world : World} {path : String} {change : String → String} {place : Place}
    (apart : place ≠ .file (pathNames path)) :
    (world.change (world.files.update path change)).1.look place = world.look place := by
  cases outcome : world.files.update path change with
  | error fault => rfl
  | ok files =>
    obtain ⟨_, rfl⟩ := Files.exists_put_of_update outcome
    cases place with
    | output => rfl
    | file names =>
      exact Files.find?_put_of_ne fun same => apart (congrArg Place.file same.symm)

namespace Script
variable {α β : Type} {place : Place} {script : Script α}

theorem bind_bind {γ : Type} (script : Script α) (first : α → Script β) (second : β → Script γ) :
    (script.bind first).bind second = script.bind fun value => (first value).bind second := by
  induction script with
  | done value => rfl
  | readFile path next ih => exact congrArg (readFile path) (funext ih)
  | isFile path next ih => exact congrArg (isFile path) (funext ih)
  | writeFile path text next ih => exact congrArg (writeFile path text) (funext ih)
  | appendFile path text next ih => exact congrArg (appendFile path text) (funext ih)
  | print text next ih => exact congrArg (print text) (funext ih)
  | report text next ih => exact congrArg (report text) (funext ih)

theorem bind_done (script : Script α) : script.bind done = script := by
  induction script with
  | done value => rfl
  | readFile path next ih => exact congrArg (readFile path) (funext ih)
  | isFile path next ih => exact congrArg (isFile path) (funext ih)
  | writeFile path text next ih => exact congrArg (writeFile path text) (funext ih)
  | appendFile path text next ih => exact congrArg (appendFile path text) (funext ih)
  | print text next ih => exact congrArg (print text) (funext ih)
  | report text next ih => exact congrArg (report text) (funext ih)

instance : LawfulMonad Script := LawfulMonad.mk' Script bind_done (fun _ _ => rfl) bind_bind

/-- Whatever is answered, nothing is written there. -/
def Spares (place : Place) : Script α → Prop
  | done _ => True
  | readFile _ next => ∀ answer, (next answer).Spares place
  | isFile _ next => ∀ answer, (next answer).Spares place
  | writeFile path _ next => place ≠ .file (pathNames path) ∧ ∀ answer, (next answer).Spares place
  | appendFile path _ next => place ≠ .file (pathNames path) ∧ ∀ answer, (next answer).Spares place
  | print _ next => place ≠ .output ∧ (next ()).Spares place
  | report _ next => (next ()).Spares place

theorem Spares.bind {next : α → Script β} (first : script.Spares place)
    (rest : ∀ value, (next value).Spares place) : (script.bind next).Spares place := by
  induction script with
  | done value => exact rest value
  | readFile path answer ih => exact fun text => ih text (first text)
  | isFile path answer ih => exact fun found => ih found (first found)
  | writeFile path text answer ih => exact ⟨first.1, fun result => ih result (first.2 result)⟩
  | appendFile path text answer ih => exact ⟨first.1, fun result => ih result (first.2 result)⟩
  | print text answer ih => exact ⟨first.1, ih () first.2⟩
  | report text answer ih => exact ih () first

/-- What a script spares stays as it was. -/
theorem Spares.look_run (spares : script.Spares place) (world : World) :
    (script.run world).1.look place = world.look place := by
  induction script generalizing world with
  | done value => rfl
  | readFile path next ih => exact ih _ (spares _) world
  | isFile path next ih => exact ih _ (spares _) world
  | writeFile path text next ih =>
    exact (ih _ (spares.2 _) _).trans (World.look_change spares.1)
  | appendFile path text next ih =>
    exact (ih _ (spares.2 _) _).trans (World.look_change spares.1)
  | print text next ih =>
    refine (ih _ spares.2 _).trans ?_
    cases place with
    | file names => rfl
    | output => exact absurd rfl spares.1
  | report text next ih =>
    refine (ih _ spares _).trans ?_
    cases place <;> rfl

end Script

namespace Attempt
variable {α β : Type} {place : Place} {attempt : Attempt α}

/-- Whatever is answered, nothing is written there. -/
structure Spares (place : Place) (attempt : Attempt α) : Prop where
  run : attempt.run.Spares place

theorem spares_pure (value : α) : Spares place (pure value : Attempt α) := ⟨trivial⟩

theorem spares_fail (failure : Failure) : Spares place (fail failure : Attempt α) := ⟨trivial⟩

theorem Spares.bind {next : α → Attempt β} (first : attempt.Spares place)
    (rest : ∀ value, (next value).Spares place) : (attempt >>= next).Spares place := by
  refine ⟨Script.Spares.bind first.run fun result => ?_⟩
  cases result with
  | ok value => exact (rest value).run
  | error failure => trivial

theorem spares_ofScript {script : Script α} (spares : script.Spares place) :
    (ofScript script).Spares place :=
  ⟨spares.bind fun _ => trivial⟩

theorem spares_ofOutcome {ε : Type} (failure : ε → Failure) (outcome : Except ε α) :
    (ofOutcome failure outcome).Spares place := by
  cases outcome with
  | error cause => exact spares_fail _
  | ok value => exact spares_pure value

theorem spares_readFile (failure : FileFault → Failure) (path : String) :
    (readFile failure path).Spares place := by
  have asked : (Script.readFile path pure).Spares place := fun _ => trivial
  exact (spares_ofScript asked).bind fun _ => spares_ofOutcome _ _

theorem spares_print {names : List String} (text : String) : (print text).Spares (.file names) :=
  spares_ofScript ⟨nofun, trivial⟩

/-- What an attempt spares stays as it was. -/
theorem Spares.look_runIn (spares : attempt.Spares place) (world : World) :
    (attempt.runIn world).1.look place = world.look place :=
  spares.run.look_run world

end Attempt

section Steps
variable {place : Place} {logger : Logger} {s : Setup}

/-- The log does not go there. -/
def Logger.Spares (place : Place) (logger : Logger) : Prop :=
  ∀ path, logger.file = some path → place ≠ .file (pathNames path)

theorem Logger.spares_writeLine (spares : logger.Spares place) (line : String) :
    (logger.writeLine line).Spares place := by
  unfold writeLine
  cases target : logger.file with
  | none => trivial
  | some path => exact ⟨spares path target, fun _ => trivial⟩

theorem Logger.spares_writeLines (spares : logger.Spares place) (lines : List String) :
    (logger.writeLines lines).Spares place := by
  induction lines with
  | nil => trivial
  | cons line more ih => exact (spares_writeLine spares line).bind fun _ => ih

theorem Logger.spares_record (spares : logger.Spares place) (span : Option Log.Span)
    (events : List Log.Event) : (logger.record span events).Spares place :=
  spares_writeLines spares _

theorem Logger.spares_start (spares : logger.Spares place) : logger.start.Spares place := by
  unfold start
  cases target : logger.file with
  | none => trivial
  | some path => exact ⟨spares path target, fun _ => trivial⟩

theorem Setup.spares_record (spares : s.logger.Spares place) (span : Option Log.Span)
    (events : List Log.Event) : (s.record span events).Spares place :=
  Attempt.spares_ofScript (Logger.spares_record spares span events)

theorem spares_configPath (settings : Settings) (environment : Environment) :
    (configPath settings environment).Spares place := by
  unfold configPath
  dsimp only
  split
  · trivial
  · exact fun _ => trivial

theorem spares_loadConfig (spares : logger.Spares place) (settings : Settings)
    (environment : Environment) : (loadConfig logger settings environment).Spares place := by
  unfold loadConfig
  refine (Attempt.spares_ofScript (spares_configPath settings environment)).bind fun path => ?_
  have recorded (events : List Log.Event) :
      (Attempt.ofScript (logger.record none events)).Spares place :=
    Attempt.spares_ofScript (Logger.spares_record spares none events)
  cases path with
  | none => exact (recorded _).bind fun _ => Attempt.spares_pure _
  | some path =>
    refine (recorded _).bind fun _ => (Attempt.spares_readFile _ path).bind fun text => ?_
    split
    · exact Attempt.spares_fail _
    · exact (Attempt.spares_ofOutcome _ _).bind fun _ => Attempt.spares_pure _

theorem spares_readClass (spares : s.logger.Spares place) (path : String) :
    (readClass s path).Spares place := by
  unfold readClass
  refine (Attempt.spares_readFile _ path).bind fun text => ?_
  split
  · exact Attempt.spares_fail _
  · exact (Setup.spares_record spares none _).bind fun _ => Attempt.spares_pure _

theorem spares_readSnapshot (spares : s.logger.Spares place) (span : Log.Span)
    (path : Option String) : (readSnapshot s span path).Spares place := by
  unfold readSnapshot
  split
  · exact Attempt.spares_pure _
  · rename_i path
    refine (Attempt.spares_readFile _ path).bind fun text => ?_
    split
    · exact Attempt.spares_fail _
    · exact (Setup.spares_record spares (some span) _).bind fun _ => Attempt.spares_pure _

theorem spares_runResolve {names : List String} (spares : s.logger.Spares (.file names))
    (types : List String) (classPath : Option String) :
    (runResolve s types classPath).Spares (.file names) := by
  unfold runResolve
  extract_lets generator report resolveAll
  have reported (rows : List ResolutionRow) : (report rows).Spares (.file names) :=
    (Attempt.spares_print _).bind fun _ => Attempt.spares_pure _
  have resolved (start : Unit) : (resolveAll start).Spares (.file names) := by
    refine (Setup.spares_record spares none _).bind fun _ => ?_
    split
    · exact (Attempt.spares_pure _).bind reported
    · rename_i path
      refine (spares_readClass spares path).bind fun c => ?_
      exact (Setup.spares_record spares none _).bind fun _ => (Attempt.spares_pure _).bind reported
  split
  · exact (Attempt.spares_fail _).bind resolved
  · exact resolved ()

end Steps
end Boilerplate.CommandLine
