import Boilerplate.CommandLine.Program
import Boilerplate.Proofs.Document.Restore

/-! Files that a command has written. What was written to a path is there to be read, and a snapshot
that was written is read as the same snapshot. -/
namespace Boilerplate.CommandLine

namespace Files
variable {files after : Files} {path text : String} {names : List String}

theorem lookup_replaced {entries : List (List String × String)} (present : (entries.lookup names).isSome) :
    (entries.map fun entry => if entry.1 == names then (names, text) else entry).lookup names =
      some text := by
  induction entries with
  | nil => cases present
  | cons entry more ih =>
    rw [List.map_cons]
    by_cases same : entry.1 = names
    · rw [if_pos (beq_iff_eq.mpr same), List.lookup_cons_self]
    · have other : (names == entry.1) = false := beq_eq_false_iff_ne.mpr (Ne.symm same)
      rw [List.lookup_cons, other] at present
      rw [if_neg (by simpa using same), List.lookup_cons, other]
      exact ih present

theorem find?_put (files : Files) (names : List String) (text : String) :
    (files.put names text).find? names = some text := by
  unfold put
  split
  · rename_i present
    exact lookup_replaced present
  · rename_i absent
    have none : files.entries.lookup names = none := by
      rwa [Bool.not_eq_true, Option.isSome_eq_false_iff, Option.isNone_iff_eq_none] at absent
    rw [find?, List.lookup_append, none, List.lookup_cons_self]
    rfl

theorem mem_put (member : entry ∈ (files.put names text).entries) :
    entry.1 = names ∨ entry ∈ files.entries := by
  unfold put at member
  split at member
  · obtain ⟨old, among, rfl⟩ := List.mem_map.mp member
    split
    · exact .inl rfl
    · exact .inr among
  · rcases List.mem_append.mp member with old | new
    · exact .inr old
    · rw [List.mem_singleton.mp new]
      exact .inl rfl

/-- Writing to a path makes no directory of it. -/
theorem isDirectory_put (file : files.isDirectory names = false) :
    (files.put names text).isDirectory names = false := by
  simp only [isDirectory, Bool.or_eq_false_iff, List.any_eq_false] at file ⊢
  refine ⟨file.1, fun entry member => ?_⟩
  rcases mem_put member with new | old
  · simp [new]
  · exact file.2 entry old

theorem isBlocked_put (free : files.isBlocked path = false) (file : endsInDirectory path = false) :
    (files.put (pathNames path) text).isBlocked path = false := by
  simp only [isBlocked, List.any_eq_false] at free ⊢
  intro entry member
  rcases mem_put member with new | old
  · simp [new, file]
  · exact free entry old

/-- Where a file is, no path ends that can only be a directory's. -/
theorem endsInDirectory_of_find? (free : files.isBlocked path = false)
    (found : files.find? (pathNames path) = some old) : endsInDirectory path = false := by
  obtain ⟨before, later, entries, _⟩ := List.lookup_eq_some_iff.mp found
  have member : (pathNames path, old) ∈ files.entries := by simp [entries]
  simp only [isBlocked, List.any_eq_false] at free
  simpa using free _ member

theorem read_put (directory : files.isDirectory (pathNames path) = false)
    (free : files.isBlocked path = false) (file : endsInDirectory path = false) :
    (files.put (pathNames path) text).read path = .ok text := by
  simp [read, isDirectory_put directory, isBlocked_put free file, find?_put]

/-- Reading comes after the same checks as writing, and what was written passes them. -/
theorem read_write (written : files.write path text = .ok after) : after.read path = .ok text := by
  unfold write update at written
  dsimp only at written
  split at written
  · cases written
  · rename_i directory
    split at written
    · cases written
    · rename_i free
      have directory := Bool.eq_false_iff.mpr directory
      have free := Bool.eq_false_iff.mpr free
      split at written
      · rename_i found
        cases written
        exact read_put directory free (endsInDirectory_of_find? free found)
      · split at written
        · cases written
        · split at written
          · cases written
          · rename_i file
            cases written
            exact read_put directory free (Bool.eq_false_iff.mpr file)

end Files

theorem Script.run_bind {α β : Type} (script : Script α) (next : α → Script β) (world : World) :
    (script.bind next).run world = (next (script.run world).2).run (script.run world).1 := by
  induction script generalizing world with
  | done value => rfl
  | readFile path answer ih => exact ih _ world
  | isFile path answer ih => exact ih _ world
  | writeFile path text answer ih => exact ih _ _
  | appendFile path text answer ih => exact ih _ _
  | print text answer ih => exact ih _ _
  | report text answer ih => exact ih _ _

namespace Attempt
variable {α β : Type}

/-- Carries an attempt out. -/
def runIn (attempt : Attempt α) (world : World) : World × Except Failure α := attempt.run.run world

theorem runIn_bind {attempt : Attempt α} {next : α → Attempt β} {value : α} {world after : World}
    (success : attempt.runIn world = (after, .ok value)) :
    (attempt >>= next).runIn world = (next value).runIn after := by
  change (Script.bind attempt.run _).run world = _
  rw [Script.run_bind]
  change attempt.run.run world = _ at success
  rw [success]
  rfl

theorem runIn_ofScript (script : Script α) (world : World) :
    (ofScript script).runIn world = ((script.run world).1, .ok (script.run world).2) := by
  change (Script.bind script _).run world = _
  rw [Script.run_bind]
  rfl

theorem files_of_writeFile {failure : FileFault → Failure} {path text : String} {world after : World}
    (written : (writeFile failure path text).runIn world = (after, .ok ())) :
    world.files.write path text = .ok after.files := by
  change (ofOutcome failure (world.change (world.files.write path text)).2).runIn
    (world.change (world.files.write path text)).1 = _ at written
  cases outcome : world.files.write path text with
  | error fault =>
    rw [outcome] at written
    cases written
  | ok files =>
    rw [outcome] at written
    cases written
    rfl

theorem runIn_readFile {failure : FileFault → Failure} {path text : String} {world : World}
    (found : world.files.read path = .ok text) :
    (readFile failure path).runIn world = (world, .ok text) := by
  change (ofOutcome failure (world.files.read path)).runIn world = _
  rw [found]
  rfl

end Attempt

/-- A snapshot that was written is read again, by whatever command. -/
theorem readSnapshot_writeFile (s : Setup) (span : Log.Span) {path : String} {snapshot : Snapshot}
    {failure : FileFault → Failure} {world after : World}
    (written : (Attempt.writeFile failure path snapshot.save).runIn world = (after, .ok ())) :
    ((readSnapshot s span (some path)).runIn after).2 = .ok snapshot := by
  have found := Files.read_write (Attempt.files_of_writeFile written)
  unfold readSnapshot
  rw [Attempt.runIn_bind (Attempt.runIn_readFile found), snapshot.load?_save]
  -- The log may still change the world, but not what was read.
  dsimp only [Setup.record]
  rw [Attempt.runIn_bind (Attempt.runIn_ofScript _ _)]
  rfl

end Boilerplate.CommandLine
