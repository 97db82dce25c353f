import Boilerplate.Proofs.DataClass.Faults
import Boilerplate.Proofs.Merge.History
import Boilerplate.Session

/-! Runs of operations in a session. A run is the run of those of its operations that succeed, since one
that fails leaves the session as it was. As long as only merges change the members, the merges of a run
are a run of plans, so what holds of such runs holds of sessions. -/
namespace Boilerplate

/-- A plan fails just when generation does. -/
theorem Toolchain.plan_eq_error_iff {t : Toolchain} {c : DataClass} {snapshot : Snapshot}
    {kind : ArtifactKind} {cause : GenerateError} : t.plan c snapshot kind = .error cause ↔
      t.generator.generate c kind = .error cause := by
  rw [plan, bind_eq_error_iff]
  simp [pure, Except.pure]

namespace Session
open Merge

/-- Operations one after another, each of which succeeds. -/
inductive Succeeds : Session → List Operation → Session → Prop where
  | done {s : Session} : Succeeds s [] s
  | next {s next last : Session} {operation : Operation} {more : List Operation} :
      s.operate operation = .ok next → Succeeds next more last → Succeeds s (operation :: more) last

section Failure
variable {s : Session} {operation : Operation} {cause : GenerateError}

/-- Only plans and merges fail, and they do when the artifacts of the class cannot be generated. -/
theorem operate_eq_error_iff : s.operate operation = .error cause ↔
    ∃ kind, (operation = .plan kind ∨ operation = .merge kind) ∧
      s.toolchain.generator.generate s.dataClass kind = .error cause := by
  cases operation with
  | plan kind =>
    rw [operate, Session.plan, bind_eq_error_iff, Toolchain.plan_eq_error_iff]
    simp [pure, Except.pure]
  | merge kind =>
    rw [operate, Session.merge, bind_eq_error_iff, Toolchain.plan_eq_error_iff]
    simp [pure, Except.pure]
  | _ => simp [operate]

theorem after_of_ok {next : Session} (succeeded : s.operate operation = .ok next) :
    s.after operation = next := by
  rw [after, succeeded]

theorem after_of_error (failed : s.operate operation = .error cause) : s.after operation = s := by
  rw [after, failed]

theorem run_cons (s : Session) (operation : Operation) (more : List Operation) :
    s.run (operation :: more) = (s.after operation).run more := rfl

/-- The operations of a run that fail might as well be left out. -/
theorem exists_succeeds (s : Session) (operations : List Operation) :
    ∃ kept, kept.Sublist operations ∧ s.Succeeds kept (s.run operations) := by
  induction operations generalizing s with
  | nil => exact ⟨[], .slnil, .done⟩
  | cons operation more ih =>
    obtain ⟨kept, part, later⟩ := ih (s.after operation)
    rw [run_cons]
    cases outcome : s.operate operation with
    | ok next =>
      rw [after_of_ok outcome] at later ⊢
      exact ⟨operation :: kept, part.cons_cons operation, .next outcome later⟩
    | error cause =>
      rw [after_of_error outcome] at later ⊢
      exact ⟨kept, part.cons operation, later⟩

end Failure

section Merges
variable {s : Session} {operation : Operation} {operations : List Operation}

/-- The host has no part in the members: it may change all else, but they change by merges only. -/
def Operation.leavesMembers : Operation → Bool
  | setToolchain _ | setClass _ | addField _ | setExistingConstructor _ | plan _ | merge _ => true
  | _ => false

/-- The step that a merge takes, if it succeeds. -/
def mergeStep? (s : Session) : Operation → Option Step
  | .merge kind => (s.toolchain.plan s.dataClass s.snapshot kind).toOption.map fun outcome =>
      ⟨s.toolchain, s.dataClass, kind, outcome⟩
  | _ => none

/-- The steps of all merges of a run. -/
def mergeSteps (s : Session) : List Operation → List Step
  | [] => []
  | operation :: more => (s.mergeStep? operation).toList ++ (s.after operation).mergeSteps more

/-- A merge starts from the members of the session and leaves those that were planned. -/
theorem mergeStep?_spec {step : Step} (taken : s.mergeStep? operation = some step) :
    step.StartsFrom s.snapshot ∧ (s.after operation).snapshot = step.outcome.merged := by
  cases operation with
  | merge kind =>
    rw [mergeStep?] at taken
    cases planned : s.toolchain.plan s.dataClass s.snapshot kind with
    | error cause => simp [planned, Except.toOption] at taken
    | ok outcome =>
      rw [planned] at taken
      obtain rfl := Option.some.inj taken
      refine ⟨planned, ?_⟩
      rw [after, operate, Session.merge, planned]
      rfl
  | _ => cases taken

theorem after_snapshot (leaves : operation.leavesMembers = true)
    (still : s.mergeStep? operation = none) : (s.after operation).snapshot = s.snapshot := by
  cases operation with
  | plan kind =>
    rw [after, operate, Session.plan]
    cases s.toolchain.plan s.dataClass s.snapshot kind <;> rfl
  | merge kind =>
    rw [mergeStep?] at still
    rw [after, operate, Session.merge]
    cases planned : s.toolchain.plan s.dataClass s.snapshot kind with
    | error cause => rfl
    | ok outcome => simp [planned, Except.toOption] at still
  | setToolchain | setClass | addField | setExistingConstructor => rfl
  | _ => cases leaves

/-- The merges of a session are a run of plans, whatever fails or is changed in between. -/
theorem run_mergeSteps (leaves : ∀ operation ∈ operations, operation.leavesMembers = true) :
    Run s.snapshot (s.mergeSteps operations) := by
  induction operations generalizing s with
  | nil => exact .done
  | cons operation more ih =>
    have later := ih (s := s.after operation) fun other member =>
      leaves other (List.mem_cons_of_mem _ member)
    rw [mergeSteps]
    cases taken : s.mergeStep? operation with
    | none => rwa [after_snapshot (leaves operation List.mem_cons_self) taken] at later
    | some step =>
      obtain ⟨start, reached⟩ := mergeStep?_spec taken
      rw [reached] at later
      exact .next start later

/-- However often a host merges, a constant is inserted with a value at most once. -/
theorem countP_declares_le_one (leaves : ∀ operation ∈ operations, operation.leavesMembers = true)
    (identifier value : String) :
    (insertionsOf (s.mergeSteps operations)).countP (Insertion.declares identifier value) ≤ 1 := by
  have bound := (constant_latch identifier value).countP_le_one (run_mergeSteps (s := s) leaves)
  rwa [List.filter_true] at bound

end Merges
end Session
end Boilerplate
