import Boilerplate.Proofs.Merge.Renewal

/-! Merging everything in one plan or in two, the schema first. The one plan looks for constructors and
interfaces in the class as it was, the second of the two in the class with its schema members. Both see
the same, since schema members are no constructors and bring no interfaces. -/
namespace Boilerplate
namespace Merge

variable {note : String} {artifacts : Schema.Artifacts} {parcel : Parcel.Artifacts}
  {snapshot : Snapshot}

/-- New Parcelable members are the same on the class with its schema members. -/
theorem parcelMerged_schemaMerged (notCursor : parcel.className ≠ "createFromCursor")
    (notValues : parcel.className ≠ "getDbContentValues") (reached : Snapshot) :
    parcelMerged (schemaMerged note artifacts snapshot) parcel reached =
      parcelMerged snapshot parcel reached := by
  have keeps : keepsConstructor (schemaMerged note artifacts snapshot) parcel =
      keepsConstructor snapshot parcel := by
    rw [keepsConstructor_eq]
    exact any_constructs_of_named notCursor notValues
  rw [parcelMerged, parcelMerged, parcelInsertions_members, parcelInsertions_members, keeps]

end Merge

namespace Toolchain
open Merge

/-- One plan for everything leaves the class that the schema's plan and then the Parcelable members'
plan leave. -/
theorem plan_all_in_stages (t : Toolchain) (c : DataClass) (snapshot : Snapshot)
    (valid : c.validate = .ok ()) (notCursor : c.name ≠ "createFromCursor")
    (notValues : c.name ≠ "getDbContentValues")
    (resolves : ∀ field ∈ c.fields,
      ∃ resolved, t.generator.resolver.resolveField field = .ok resolved) :
    ∃ all schema parcelable, t.plan c snapshot .all = .ok all ∧
      t.plan c snapshot .schema = .ok schema ∧
      t.plan c schema.merged .parcelable = .ok parcelable ∧
      all.merged = parcelable.merged := by
  obtain ⟨artifacts, made, generated⟩ := Generator.generate_schema (g := t.generator) valid
  have parcelable := Generator.parcelableArtifacts_ok valid resolves
  have both := Generator.generate_all made parcelable
  have last := Generator.generate_parcelable parcelable
  refine ⟨_, _, _, plan_eq_ok_iff.mpr ⟨_, both, rfl⟩, plan_eq_ok_iff.mpr ⟨_, generated, rfl⟩,
    plan_eq_ok_iff.mpr ⟨_, last, rfl⟩, ?_⟩
  exact (parcelMerged_schemaMerged notCursor notValues _).symm

/-- A class with a constructor of its own and an old `CREATOR`. -/
theorem plan_all_in_stages_point : DataClass.point.validate = .ok () ∧
    DataClass.point.name ≠ "createFromCursor" ∧ DataClass.point.name ≠ "getDbContentValues" ∧
    (∀ field ∈ DataClass.point.fields,
      ∃ resolved, standard.generator.resolver.resolveField field = .ok resolved) ∧
    ∃ all schema parcelable,
      standard.plan .point ⟨[.method ⟨"Point", ["int"], none⟩, .field ⟨"CREATOR", none, none⟩],
        []⟩ .all = .ok all ∧
      standard.plan .point ⟨[.method ⟨"Point", ["int"], none⟩, .field ⟨"CREATOR", none, none⟩],
        []⟩ .schema = .ok schema ∧
      standard.plan .point schema.merged .parcelable = .ok parcelable ∧
      all.merged = parcelable.merged := by
  have notCursor : DataClass.point.name ≠ "createFromCursor" := by decide
  have notValues : DataClass.point.name ≠ "getDbContentValues" := by decide
  exact ⟨DataClass.point_valid, notCursor, notValues, standard_resolves_point,
    plan_all_in_stages standard .point _ DataClass.point_valid notCursor notValues
      standard_resolves_point⟩

end Toolchain
end Boilerplate
