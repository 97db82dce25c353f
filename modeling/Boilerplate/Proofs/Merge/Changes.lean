import Boilerplate.Proofs.Merge.History
import Boilerplate.Proofs.Schema.Legibility
import Mathlib.Data.List.Nodup

/-! Merging another description of a class. Members are compared up to blanks, and still no change of
a schema member goes unseen: the class keeps the old text and gets one annotated copy of the new one
just when the two texts differ. -/
namespace Boilerplate
open Schema (MemberText)

/-- Members of two classes under one key are the same when they agree up to blanks. -/
theorem Generator.text_eq_of_squeeze_eq {g : Generator} {c d : DataClass}
    {artifacts others : Schema.Artifacts} {one other : MemberText}
    (made : g.schemaArtifacts c = .ok artifacts) (madeToo : g.schemaArtifacts d = .ok others)
    (member : one ∈ artifacts.members) (memberToo : other ∈ others.members)
    (key : one.key = other.key) (same : Text.squeeze one.text = Text.squeeze other.text) :
    one.text = other.text := by
  obtain ⟨valid, fields, typed, rfl⟩ := schemaArtifacts_eq_ok_iff.mp made
  obtain ⟨validToo, fieldsToo, typedToo, rfl⟩ := schemaArtifacts_eq_ok_iff.mp madeToo
  exact Schema.text_eq_of_squeeze_eq valid typed validToo typedToo member memberToo key same

namespace Merge

variable {g : Generator} {c d : DataClass} {artifacts others : Schema.Artifacts}
  {old new : MemberText}

/-- What is inserted under the key of a schema member. -/
theorem schemaInsertions_under (note : String) (snapshot : Snapshot)
    (made : g.schemaArtifacts c = .ok artifacts) (member : old ∈ artifacts.members) :
    (schemaInsertions note snapshot artifacts).filter (fun insertion => insertion.member == old.key) =
      (memberInsertion? note snapshot old).toList := by
  have constants : (constantInsertions note snapshot.declarations none 0 artifacts.constants).filter
      (fun insertion => insertion.member == old.key) = [] := by
    refine List.filter_eq_nil_iff.mpr fun insertion inserted => ?_
    obtain ⟨constant, among, _, same⟩ := mem_constantInsertions inserted
    rw [Generator.schemaArtifacts_constants made] at among
    have apart := Schema.constantKey_not_mem_memberKeys (Schema.identifier_of_mem_constants among)
    rw [(constantInsertion?_spec same).1, beq_iff_eq]
    intro key
    refine apart ?_
    rw [← artifacts.members_keys]
    exact List.mem_map.mpr ⟨old, member, key.symm⟩
  have apart (members : List MemberText) (differ : ∀ other ∈ members, other.key ≠ old.key) :
      (members.filterMap (memberInsertion? note snapshot)).filter
        (fun insertion => insertion.member == old.key) = [] := by
    refine List.filter_eq_nil_iff.mpr fun insertion inserted => ?_
    obtain ⟨other, among, same⟩ := List.mem_filterMap.mp inserted
    rw [(memberInsertion?_spec same).1, beq_iff_eq]
    exact differ other among
  -- The keys of generated members differ, so no member beside `old` is planned under its key.
  obtain ⟨before, after, split⟩ := List.append_of_mem member
  have keys := Schema.memberKeys_nodup
  rw [← artifacts.members_keys, split, List.map_append, List.map_cons, List.nodup_middle,
    List.nodup_cons, List.mem_append] at keys
  have early := apart before fun other among same =>
    keys.1 (.inl (same ▸ List.mem_map_of_mem among))
  have late := apart after fun other among same =>
    keys.1 (.inr (same ▸ List.mem_map_of_mem among))
  rw [schemaInsertions, List.filter_append, constants, split, List.filterMap_append,
    List.filter_append, early, List.nil_append, List.nil_append]
  cases found : memberInsertion? note snapshot old with
  | none => rw [List.filterMap_cons_none found, late, Option.toList_none]
  | some insertion =>
    have key : (insertion.member == old.key) = true := beq_iff_eq.mpr (memberInsertion?_spec found).1
    rw [List.filterMap_cons_some found, Option.toList_some,
      List.filter_cons_of_pos (p := fun insertion : Insertion => insertion.member == old.key) key, late]

/-- An empty class gets each schema member as it was generated. -/
theorem schemaMerged_empty_under (note : String) (made : g.schemaArtifacts c = .ok artifacts)
    (member : old ∈ artifacts.members) :
    (schemaMerged note artifacts .empty).members.filter (fun member => member.key == old.key) =
      [(Insertion.mk .endOfClass old.key old.text none false).toMember] := by
  have under := schemaInsertions_under note .empty made member
  have missing : memberInsertion? note .empty old =
      some ⟨.endOfClass, old.key, old.text, none, false⟩ := rfl
  rw [missing, Option.toList_some] at under
  have all := (schemaMerged_members note artifacts .empty).filter fun member => member.key == old.key
  have keys : (fun member : Member => member.key == old.key) ∘ Insertion.toMember =
      fun insertion => insertion.member == old.key := by
    funext insertion
    rw [Function.comp_apply, Insertion.toMember_key]
  rw [List.filter_append, List.filter_map, keys, under] at all
  exact List.perm_singleton.mp all

/-- Generated texts are taken for one another only when they are equal. -/
theorem isGeneratedText_iff (note : String) (made : g.schemaArtifacts c = .ok artifacts)
    (madeToo : g.schemaArtifacts d = .ok others) (member : old ∈ artifacts.members)
    (memberToo : new ∈ others.members) (key : new.key = old.key) :
    isGeneratedText note new.text old.text = true ↔ new.text = old.text := by
  constructor
  · intro taken
    rw [isGeneratedText, Bool.or_eq_true, Text.sameButBlanks_iff, Text.sameButBlanks_iff] at taken
    have start := Generator.schemaArtifacts_text made member
    have plain := taken.resolve_right (squeeze_ne_annotated start)
    exact (Generator.text_eq_of_squeeze_eq made madeToo member memberToo key.symm plain).symm
  · intro same
    rw [same]
    exact isGeneratedText_self note old.text

/-- The insertion for a schema member into the class that another description has made. -/
theorem memberInsertion?_schemaMerged_empty (note : String)
    (made : g.schemaArtifacts c = .ok artifacts) (madeToo : g.schemaArtifacts d = .ok others)
    (member : old ∈ artifacts.members) (memberToo : new ∈ others.members) (key : new.key = old.key) :
    memberInsertion? note (schemaMerged note artifacts .empty) new =
      if new.text = old.text then none
      else some ⟨.afterExisting old.key 0, old.key, annotated note new.text, none, true⟩ := by
  have verdict : MemberVerdict.of note (schemaMerged note artifacts .empty) new =
      if new.text = old.text then .present else .differing := by
    have taken := isGeneratedText_iff note made madeToo member memberToo key
    simp only [MemberVerdict.of, key, schemaMerged_empty_under note made member, List.isEmpty_cons,
      List.any_cons, List.any_nil, Insertion.toMember_text?, Option.any_some, Bool.or_false, taken]
    rfl
  rw [memberInsertion?, verdict, key]
  by_cases same : new.text = old.text <;> simp only [same, if_true, if_false]

end Merge

/-- The class of two columns with a longer number in the first. -/
def DataClass.longPoint : DataClass :=
  ⟨"Point", [⟨"xPos", "long", true⟩, ⟨"label", "java.lang.String", false⟩], false⟩

namespace Toolchain
open Merge

/-- Planning another class against the merged members of a first one: nothing is inserted under the
key of a schema member if and only if its text is the same, and otherwise one copy in conflict. -/
theorem schema_changes_seen (t : Toolchain) (c d : DataClass) (valid : c.validate = .ok ())
    (validToo : d.validate = .ok ()) :
    ∃ artifacts others first second, t.generator.schemaArtifacts c = .ok artifacts ∧
      t.generator.schemaArtifacts d = .ok others ∧ t.plan c .empty .schema = .ok first ∧
      t.plan d first.merged .schema = .ok second ∧
      ∀ key ∈ Schema.memberKeys, ∃ old new, ⟨key, old⟩ ∈ artifacts.members ∧
        ⟨key, new⟩ ∈ others.members ∧
        ((second.plan.insertions.filter fun insertion => insertion.member == key) = [] ↔ new = old) ∧
        (new ≠ old → (second.plan.insertions.filter fun insertion => insertion.member == key) =
          [⟨.afterExisting key 0, key, annotated t.note new, none, true⟩]) := by
  obtain ⟨artifacts, made, generated⟩ := Generator.generate_schema (g := t.generator) valid
  obtain ⟨others, madeToo, generatedToo⟩ := Generator.generate_schema (g := t.generator) validToo
  refine ⟨artifacts, others, _, _, made, madeToo, plan_eq_ok_iff.mpr ⟨_, generated, rfl⟩,
    plan_eq_ok_iff.mpr ⟨_, generatedToo, rfl⟩, fun key member => ?_⟩
  have among := member
  rw [← artifacts.members_keys] at member
  rw [← others.members_keys] at among
  obtain ⟨⟨_, old⟩, present, rfl⟩ := List.mem_map.mp member
  obtain ⟨⟨key, new⟩, presentToo, same⟩ := List.mem_map.mp among
  obtain rfl : key = _ := same
  have inserted := schemaInsertions_under t.note (schemaMerged t.note artifacts .empty) madeToo presentToo
  rw [memberInsertion?_schemaMerged_empty t.note made madeToo present presentToo rfl] at inserted
  refine ⟨old, new, present, presentToo, ?_⟩
  have planned : (planClass t.note ⟨some others, none⟩
      (classMerged t.note ⟨some artifacts, none⟩ .empty)).insertions =
        schemaInsertions t.note (schemaMerged t.note artifacts .empty) others := by
    rw [planClass_insertions]
    exact List.append_nil _
  rw [planned, inserted]
  by_cases equal : new = old <;> simp [equal]

theorem schema_changes_seen_point :
    DataClass.point.validate = .ok () ∧ DataClass.longPoint.validate = .ok () ∧
    ∃ artifacts others first second, standard.generator.schemaArtifacts .point = .ok artifacts ∧
      standard.generator.schemaArtifacts .longPoint = .ok others ∧
      standard.plan .point .empty .schema = .ok first ∧
      standard.plan .longPoint first.merged .schema = .ok second ∧
      ∀ key ∈ Schema.memberKeys, ∃ old new, ⟨key, old⟩ ∈ artifacts.members ∧
        ⟨key, new⟩ ∈ others.members ∧
        ((second.plan.insertions.filter fun insertion => insertion.member == key) = [] ↔ new = old) ∧
        (new ≠ old → (second.plan.insertions.filter fun insertion => insertion.member == key) =
          [⟨.afterExisting key 0, key, annotated standard.note new, none, true⟩]) := by
  have longer : DataClass.longPoint.validate = .ok () := by rfl
  exact ⟨DataClass.point_valid, longer,
    schema_changes_seen standard .point .longPoint DataClass.point_valid longer⟩

end Toolchain
end Boilerplate
