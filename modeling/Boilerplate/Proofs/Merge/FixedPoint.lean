import Boilerplate.Proofs.Merge.Idempotence
import Boilerplate.Proofs.Merge.Renewal

/-! Merging everything over and over. Each round takes the Parcelable members away and puts new ones
at the end, all but a default constructor, which stays where the first round has put it. So the
second round may move it once, and from then on nothing moves. -/
namespace Boilerplate
namespace Merge

section Rounds
variable {note : String} {artifacts : Schema.Artifacts} {parcel : Parcel.Artifacts}

theorem parcelableInterfaces_idempotent (interfaces : List String) :
    parcelableInterfaces (parcelableInterfaces interfaces) = parcelableInterfaces interfaces := by
  have implements : (parcelableInterfaces interfaces).contains JavaType.parcelableName = true := by
    unfold parcelableInterfaces
    split
    · assumption
    · simp
  rw [parcelableInterfaces, if_pos implements]

theorem parcelMerged_settled (apart : ∀ key ∈ artifacts.keys, key ∉ parcel.replacedMembers)
    (snapshot planned : Snapshot) :
    Settled note artifacts (parcelMerged planned parcel (schemaMerged note artifacts snapshot)) := by
  refine settled_of_merged snapshot fun member known key => List.mem_append_left _ ?_
  refine List.mem_filter.mpr ⟨?_, by simpa using apart _ key⟩
  exact mem_schemaMerged_iff.mpr known

/-- The class after the first round. Schema members may be constructors too, but never of a class
named like the method that describes contents. -/
theorem schemaMerged_rebuilt (note : String) (artifacts : Schema.Artifacts)
    (parcel : Parcel.Artifacts) (snapshot : Snapshot) :
    Rebuilt parcel (unreplaced parcel (schemaMerged note artifacts snapshot).members)
      (keepsConstructor snapshot parcel) := by
  refine ⟨unreplaced_unreplaced _ _, ?_, ?_⟩
  · intro skips
    rw [any_constructs_schemaMerged, skips, Bool.true_or]
  · intro named
    exact any_constructs_of_named (by simp [named]) (by simp [named])

/-- The plan inserts the default constructor of the class. -/
def InsertsConstructor (plan : EditPlan) (parcel : Parcel.Artifacts) : Prop :=
  ∃ insertion ∈ plan.insertions, insertion.member = Parcel.defaultConstructorKey parcel.className ∧
    parcel.defaultConstructor = some insertion.text

theorem insertsConstructor_of_unreplaced
    (stays : unreplaced parcel (renewed parcel (keepsConstructor snapshot parcel)) ≠ []) :
    InsertsConstructor (planClass note ⟨some artifacts, some parcel⟩ snapshot) parcel := by
  obtain ⟨member, present⟩ := List.exists_mem_of_ne_nil _ stays
  obtain ⟨new, notReplaced⟩ := List.mem_filter.mp present
  rw [← parcelInsertions_members] at new
  obtain ⟨insertion, inserted, rfl⟩ := List.mem_map.mp new
  rw [Insertion.toMember_key] at notReplaced
  have planned : insertion ∈ (planClass note ⟨some artifacts, some parcel⟩ snapshot).insertions := by
    rw [planClass_insertions]
    exact List.mem_append_right _ inserted
  obtain ⟨generated, among, rfl⟩ := List.mem_map.mp inserted
  have replaced : generated.key ∉ parcel.replacedMembers := by simpa using notReplaced
  have default := (Parcel.Artifacts.members_cases (List.mem_filter.mp among).1).resolve_left replaced
  exact ⟨_, planned, default⟩

end Rounds
end Merge

namespace Toolchain
open Merge

/-- The third round of a full merge changes nothing, the second one at most the order of members,
and not even that when the first one gave the class no default constructor. -/
theorem full_merge_settles (t : Toolchain) (c : DataClass) (snapshot : Snapshot)
    {artifacts : Schema.Artifacts} {parcel : Parcel.Artifacts}
    (schema : t.generator.schemaArtifacts c = .ok artifacts)
    (parcelable : t.generator.parcelableArtifacts c = .ok parcel) :
    ∃ first second third, t.plan c snapshot .all = .ok first ∧
      t.plan c first.merged .all = .ok second ∧ t.plan c second.merged .all = .ok third ∧
      third.merged = second.merged ∧ second.merged.members.Perm first.merged.members ∧
      second.merged.interfaces = first.merged.interfaces ∧
      (¬ InsertsConstructor first.plan parcel → second.merged = first.merged) := by
  have generated := Generator.generate_all schema parcelable
  have apart := Generator.schemaArtifacts_keys_not_replaced schema parcel
  obtain ⟨later, round, last, perm, interfaces, same⟩ :=
    (schemaMerged_rebuilt t.note artifacts parcel snapshot).settles
      (parcelableInterfaces_idempotent (schemaMerged t.note artifacts snapshot).interfaces)
  have first : classMerged t.note ⟨some artifacts, some parcel⟩ snapshot =
      ⟨unreplaced parcel (schemaMerged t.note artifacts snapshot).members ++
        renewed parcel (keepsConstructor snapshot parcel),
        parcelableInterfaces (schemaMerged t.note artifacts snapshot).interfaces⟩ := by
    rw [← parcelInsertions_members]
    rfl
  -- The schema half does nothing on a settled class, so a round is the Parcelable half alone.
  have settledRound {reached : Snapshot} (settled : Settled t.note artifacts reached) :
      classMerged t.note ⟨some artifacts, some parcel⟩ reached = parcelMerged reached parcel reached :=
    congrArg (parcelMerged reached parcel) settled.schemaMerged
  have settledFirst : Settled t.note artifacts
      (classMerged t.note ⟨some artifacts, some parcel⟩ snapshot) :=
    parcelMerged_settled apart snapshot snapshot
  have second : classMerged t.note ⟨some artifacts, some parcel⟩
      (classMerged t.note ⟨some artifacts, some parcel⟩ snapshot) = later := by
    rw [settledRound settledFirst, first]
    exact round
  have settledSecond : Settled t.note artifacts later := by
    rw [← second]
    exact parcelMerged_settled apart _ _
  have third : classMerged t.note ⟨some artifacts, some parcel⟩ later = later := by
    rw [settledRound settledSecond]
    exact last
  refine ⟨_, _, _, plan_eq_ok_iff.mpr ⟨_, generated, rfl⟩, plan_eq_ok_iff.mpr ⟨_, generated, rfl⟩,
    plan_eq_ok_iff.mpr ⟨_, generated, rfl⟩, ?_⟩
  simp only [second, third, true_and]
  rw [first]
  refine ⟨perm, interfaces, fun none => same ?_⟩
  exact Classical.byContradiction fun stays => none (insertsConstructor_of_unreplaced stays)

/-- A class without a constructor, whose second round moves the one that the first round adds. -/
theorem full_merge_settles_point :
    ∃ artifacts parcel, standard.generator.schemaArtifacts .point = .ok artifacts ∧
      standard.generator.parcelableArtifacts .point = .ok parcel ∧
      ∃ first second third, standard.plan .point .empty .all = .ok first ∧
        standard.plan .point first.merged .all = .ok second ∧
        standard.plan .point second.merged .all = .ok third ∧
        third.merged = second.merged ∧ second.merged.members.Perm first.merged.members ∧
        second.merged.interfaces = first.merged.interfaces ∧
        (¬ InsertsConstructor first.plan parcel → second.merged = first.merged) :=
  ⟨_, _, rfl, rfl, full_merge_settles standard .point .empty rfl rfl⟩

end Toolchain
end Boilerplate
