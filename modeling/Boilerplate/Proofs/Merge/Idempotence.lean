import Boilerplate.Proofs.Merge.Outcome

/-! Merging schema members once more changes nothing. Whatever the class was before, the first plan
leaves every constant and every member where the next one recognises it. -/
namespace Boilerplate

namespace Merge

/-- A class is settled for what was just merged into it. -/
theorem schemaMerged_settled (note : String) (artifacts : Schema.Artifacts) (snapshot : Snapshot) :
    Settled note artifacts (schemaMerged note artifacts snapshot) := by
  refine settled_of_merged snapshot fun member known _ => ?_
  exact mem_schemaMerged_iff.mpr known

theorem Settled.decisions {snapshot : Snapshot} (settled : Settled note artifacts snapshot) :
    artifacts.constants.map (constantDecision snapshot.declarations) =
      artifacts.constants.map fun constant => ⟨constant.identifier, .unchanged⟩ :=
  congrArg ConstantPlan.decisions (planConstants_of_held note settled.constants)

end Merge

namespace Toolchain
open Merge

/-- After a schema merge the next plan is empty and finds every constant unchanged. -/
theorem schema_merge_idempotent (t : Toolchain) (c : DataClass) (snapshot : Snapshot)
    (valid : c.validate = .ok ()) :
    ∃ first second, t.plan c snapshot .schema = .ok first ∧
      t.plan c first.merged .schema = .ok second ∧ second.plan.instructions = [] ∧
      second.plan.decisions = (Schema.constants c).map (fun constant =>
        ⟨constant.identifier, .unchanged⟩) ∧
      second.merged = first.merged := by
  obtain ⟨artifacts, made, generated⟩ := Generator.generate_schema (g := t.generator) valid
  have settled := schemaMerged_settled t.note artifacts snapshot
  refine ⟨_, _, plan_eq_ok_iff.mpr ⟨_, generated, rfl⟩, plan_eq_ok_iff.mpr ⟨_, generated, rfl⟩,
    ?_, ?_, settled.schemaMerged⟩
  · rw [planClass_instructions, List.append_nil, List.map_eq_nil_iff]
    exact settled.insertions
  · rw [← Generator.schemaArtifacts_constants made]
    exact settled.decisions

/-- A class that declares the table twice, never with its name, and has content values of its own. -/
theorem schema_merge_idempotent_point :
    DataClass.point.validate = .ok () ∧
    ∃ first second, standard.plan .point ⟨[.field ⟨"TABLE", some "\"points\"", none⟩,
        .field ⟨"TABLE", none, none⟩, .method ⟨"getDbContentValues", [], some "return null;"⟩],
        []⟩ .schema = .ok first ∧
      standard.plan .point first.merged .schema = .ok second ∧ second.plan.instructions = [] ∧
      second.plan.decisions = (Schema.constants .point).map (fun constant =>
        ⟨constant.identifier, .unchanged⟩) ∧
      second.merged = first.merged :=
  ⟨DataClass.point_valid, schema_merge_idempotent standard .point _ DataClass.point_valid⟩

end Toolchain
end Boilerplate
