import Boilerplate.Proofs.Merge.Anchoring
import Boilerplate.Proofs.Merge.Neighbours
import Boilerplate.Proofs.Merge.Outcome
import Mathlib.Data.List.Nodup

/-! Where merged declarations end up. An inserted constant stands right behind the declaration
processed before it, a copy right behind the first declaration it differs from. Nothing comes between
later on: other insertions have other anchors, and replaced members are never schema members. -/
namespace Boilerplate
namespace Merge

section Schema
variable {note : String} {snapshot : Snapshot} {artifacts : Schema.Artifacts}
  {previous constant : Constant} {insertion : Insertion}

theorem insertion_of_key (nodup : artifacts.keys.Nodup) (among : constant ∈ artifacts.constants)
    (member : insertion ∈ schemaInsertions note snapshot artifacts)
    (key : insertion.member = constant.key) : ∃ processed,
      constantInsertion? note snapshot.declarations processed constant = some insertion := by
  obtain ⟨constants, _, apart⟩ := List.nodup_append.mp nodup
  rcases List.mem_append.mp member with declared | other
  · obtain ⟨found, present, processed, made⟩ := mem_constantInsertions declared
    obtain rfl : found = constant := List.inj_on_of_nodup_map constants present among
      ((constantInsertion?_spec made).1.symm.trans key)
    exact ⟨processed, made⟩
  · obtain ⟨generated, present, made⟩ := List.mem_filterMap.mp other
    exact absurd (key.symm.trans (memberInsertion?_spec made).1)
      (apart _ (List.mem_map_of_mem among) _ (List.mem_map_of_mem present))

/-- The insertion of a missing constant, next after whatever was done for the one before. -/
theorem schemaInsertions_chain (note : String)
    (split : artifacts.constants = earlier ++ previous :: constant :: later)
    (missing : Verdict.of snapshot.declarations constant = .missing) :
    ∃ front processed back, schemaInsertions note snapshot artifacts = front ++
      ((constantInsertion? note snapshot.declarations processed previous).toList ++
        plainInsertion (processedAnchor snapshot.declarations front.length previous) constant :: back) := by
  obtain ⟨processed, made⟩ := constantInsertions_append note snapshot.declarations none 0 earlier
    (previous :: constant :: later)
  refine ⟨constantInsertions note snapshot.declarations none 0 earlier, processed, ?_⟩
  rw [schemaInsertions, split, made, constantInsertions_cons, constantInsertions_cons,
    constantInsertion?_of_missing missing, Nat.zero_add]
  simp only [Option.toList_some, Option.getD_some, List.append_assoc, List.cons_append,
    List.nil_append]
  exact ⟨_, rfl⟩

theorem schemaMerged_chain (nodup : artifacts.keys.Nodup)
    (split : artifacts.constants = earlier ++ previous :: constant :: later)
    (missing : Verdict.of snapshot.declarations constant = .missing) :
    ∃ first inserted, Processed snapshot (schemaInsertions note snapshot artifacts) previous first ∧
      Inserted (schemaInsertions note snapshot artifacts) constant inserted ∧
      RightBehind previous.heldBy first inserted (schemaMerged note artifacts snapshot).members := by
  have fits := schemaInsertions_fits note snapshot nodup
  have keys := (schemaInsertions_keys note snapshot artifacts).nodup nodup
  have among : previous ∈ artifacts.constants := by simp [split]
  obtain ⟨front, processed, back, chain⟩ := schemaInsertions_chain note split missing
  have inserted : Inserted (schemaInsertions note snapshot artifacts) constant
      (plainInsertion (processedAnchor snapshot.declarations front.length previous) constant).toMember :=
    ⟨List.mem_map_of_mem (by simp [chain]), plainInsertion_held _ constant⟩
  cases made : constantInsertion? note snapshot.declarations processed previous with
  | none =>
    obtain ⟨n, held⟩ := Verdict.exists_held_iff.mpr (constantInsertion?_eq_none_iff.mp made)
    have entry : (schemaInsertions note snapshot artifacts)[front.length]? = some (plainInsertion
        (processedAnchor snapshot.declarations front.length previous) constant) := by
      simp [chain, made]
    have others : ∀ other ∈ schemaInsertions note snapshot artifacts,
        other.member ≠ previous.key := by
      intro other member key
      obtain ⟨_, own⟩ := insertion_of_key nodup among member key
      simp [constantInsertion?, held] at own
    have anchor : processedAnchor snapshot.declarations front.length previous =
        .afterExisting previous.key n := by rw [processedAnchor, held]
    obtain ⟨first, found, behind⟩ := rightBehind_held fits entry held anchor others
    exact ⟨first, _, processed_of_find found, inserted, behind⟩
  -- The constant before was inserted too, and its insertion is the one the anchor is behind.
  | some before =>
    have lacking := not_held_of_insertion made
    have earlier : (schemaInsertions note snapshot artifacts)[front.length]? = some before := by
      simp [chain, made]
    have entry : (schemaInsertions note snapshot artifacts)[front.length + 1]? = some (plainInsertion
        (processedAnchor snapshot.declarations front.length previous) constant) := by
      simp [chain, made]
    have anchor := (constantInsertion?_anchor made front.length).2
    have holds := (constantInsertion?_spec made).2.2
    have first : Inserted (schemaInsertions note snapshot artifacts) previous before.toMember :=
      ⟨List.mem_map_of_mem (List.mem_of_getElem? earlier), holds⟩
    refine ⟨_, _, processed_of_inserted lacking first, inserted, ?_⟩
    refine rightBehind_inserted fits keys entry anchor earlier holds fun member present => ?_
    exact Bool.eq_false_iff.mpr fun held => lacking ⟨member, present, held⟩

theorem schemaMerged_head (note : String) (split : artifacts.constants = constant :: later)
    (missing : Verdict.of snapshot.declarations constant = .missing) :
    ∃ before inserted after, Inserted (schemaInsertions note snapshot artifacts) constant inserted ∧
      (schemaMerged note artifacts snapshot).members = before ++ inserted :: after ∧
      snapshot.members.Sublist before := by
  obtain ⟨rest, chain⟩ : ∃ rest, schemaInsertions note snapshot artifacts =
      plainInsertion .endOfClass constant :: rest := by
    rw [schemaInsertions, split, constantInsertions_cons, constantInsertion?_of_missing missing]
    exact ⟨_, rfl⟩
  obtain ⟨before, after, cut, survives⟩ := Layout.insertAll_head snapshot rest
    (show (plainInsertion .endOfClass constant).anchor = .endOfClass from rfl)
  refine ⟨before.map Slot.member, (plainInsertion .endOfClass constant).toMember,
    after.map Slot.member, ⟨?_, plainInsertion_held _ constant⟩, ?_, survives⟩
  · rw [chain]
    exact List.mem_map_of_mem List.mem_cons_self
  · rw [schemaMerged, chain, Layout.members_toSnapshot, cut, List.map_append, List.map_cons]

theorem schemaInsertions_conflict (member : insertion ∈ schemaInsertions note snapshot artifacts)
    (conflict : insertion.conflict = true) : insertion.anchor = .afterExisting insertion.member 0 := by
  rcases List.mem_append.mp member with declared | other
  · obtain ⟨constant, _, processed, made⟩ := mem_constantInsertions declared
    rcases constantInsertion?_cases made with ⟨_, rfl⟩ | ⟨_, _, rfl⟩
    · cases conflict
    · rfl
  · obtain ⟨generated, _, made⟩ := List.mem_filterMap.mp other
    rcases memberInsertion?_cases made with ⟨_, rfl⟩ | ⟨_, rfl⟩
    · cases conflict
    · rfl

theorem schemaMerged_copy (nodup : artifacts.keys.Nodup)
    (member : insertion ∈ schemaInsertions note snapshot artifacts)
    (conflict : insertion.conflict = true) :
    ∃ first, (snapshot.members.find? fun member => member.key == insertion.member) = some first ∧
      RightBehind (fun member => member.key == insertion.member) first insertion.toMember
        (schemaMerged note artifacts snapshot).members :=
  rightBehind_first (schemaInsertions_fits note snapshot nodup)
    ((schemaInsertions_keys note snapshot artifacts).nodup nodup) member
    (schemaInsertions_conflict member conflict)

theorem exists_copy (note : String) (among : constant ∈ artifacts.constants)
    (differing : Verdict.of snapshot.declarations constant = .differing first) :
    ∃ insertion ∈ schemaInsertions note snapshot artifacts, insertion.conflict = true ∧
      insertion.member = constant.key ∧ constant.heldBy insertion.toMember = true := by
  have lacking : ¬ ∃ declaration ∈ snapshot.declarations, constant.holds declaration = true := by
    rintro ⟨declaration, declared, holds⟩
    rw [(Verdict.of_eq_differing_iff.mp differing).2 declaration declared] at holds
    cases holds
  obtain ⟨_, insertion, member, made⟩ := exists_constantInsertion among lacking
  obtain ⟨key, _, held⟩ := constantInsertion?_spec made
  refine ⟨insertion, List.mem_append_left _ member, ?_, key, held⟩
  rcases constantInsertion?_cases made with ⟨missing, _⟩ | ⟨_, _, rfl⟩
  · rw [missing] at differing
    cases differing
  · rfl

end Schema
section Class
variable {note : String} {set : ArtifactSet} {snapshot : Snapshot} {artifacts : Schema.Artifacts}
  {test : Member → Bool} {first second : Member}

theorem schemaInsertions_subset (note : String) (snapshot : Snapshot)
    (present : set.schema = some artifacts) :
    schemaInsertions note snapshot artifacts ⊆ (planClass note set snapshot).insertions := by
  intro insertion member
  rw [planClass_insertions, baseInsertions, present]
  exact List.mem_append_left _ member

theorem Inserted.mono {more : List Insertion} (inserted : Inserted insertions constant member)
    (among : insertions ⊆ more) : Inserted more constant member :=
  ⟨List.map_subset _ among inserted.1, inserted.2⟩

theorem Processed.mono {more : List Insertion} (processed : Processed snapshot insertions constant member)
    (among : insertions ⊆ more) : Processed snapshot more constant member := by
  revert processed
  unfold Processed
  cases (constantDecision snapshot.declarations constant).decision with
  | unchanged => exact id
  | insert => exact fun inserted => Inserted.mono inserted among
  | conflicting => exact fun inserted => Inserted.mono inserted among

theorem Processed.heldBy (processed : Processed snapshot insertions constant member) :
    constant.heldBy member = true := by
  unfold Processed at processed
  split at processed
  · exact List.find?_some processed
  · exact processed.2

/-- Replacing the Parcelable members does not come between schema members. -/
theorem RightBehind.classMerged (present : set.schema = some artifacts)
    (apart : ∀ parcel : Parcel.Artifacts, ∀ key ∈ artifacts.keys, key ∉ parcel.replacedMembers)
    (behind : RightBehind test first second (schemaMerged note artifacts snapshot).members)
    (firstKey : first.key ∈ artifacts.keys) (secondKey : second.key ∈ artifacts.keys) :
    RightBehind test first second (classMerged note set snapshot).members := by
  have base : baseMerged note set snapshot = schemaMerged note artifacts snapshot := by
    rw [baseMerged, present]
  rw [Merge.classMerged, base]
  cases set.parcelable with
  | none => exact behind
  | some parcel =>
    refine (behind.filter ?_ ?_).append _
    · simpa using apart parcel _ firstKey
    · simpa using apart parcel _ secondKey

def survivors (plan : EditPlan) (members : List Member) : List Member :=
  members.filter fun member => !plan.removals.contains member.key

theorem survivors_planClass (note : String) (set : ArtifactSet) (snapshot : Snapshot) :
    survivors (planClass note set snapshot) snapshot.members =
      match set.parcelable with
      | some parcel => unreplaced parcel snapshot.members
      | none => snapshot.members := by
  rw [survivors, planClass_removals]
  cases set.parcelable with
  | none => exact List.filter_eq_self.mpr fun _ _ => rfl
  | some parcel =>
    refine List.filter_congr fun member present => congrArg (!·) (Bool.eq_iff_iff.mpr ?_)
    simp only [List.contains_iff_mem, List.mem_filter]
    exact ⟨And.left, fun replaced => ⟨replaced, List.any_eq_true.mpr ⟨member, present, by simp⟩⟩⟩

theorem classMerged_head (present : set.schema = some artifacts)
    (apart : ∀ parcel : Parcel.Artifacts, ∀ key ∈ artifacts.keys, key ∉ parcel.replacedMembers)
    (key : second.key ∈ artifacts.keys)
    (split : (schemaMerged note artifacts snapshot).members = before ++ second :: after)
    (sublist : snapshot.members.Sublist before) :
    ∃ front back, (classMerged note set snapshot).members = front ++ second :: back ∧
      (survivors (planClass note set snapshot) snapshot.members).Sublist front := by
  have base : baseMerged note set snapshot = schemaMerged note artifacts snapshot := by
    rw [baseMerged, present]
  rw [survivors_planClass, Merge.classMerged, base]
  cases set.parcelable with
  | none => exact ⟨before, after, split, sublist⟩
  | some parcel =>
    have stays : (!parcel.replacedMembers.contains second.key) = true := by
      simpa using apart parcel _ key
    refine ⟨unreplaced parcel before, unreplaced parcel after ++
      (parcelInsertions snapshot parcel).map Insertion.toMember, ?_, sublist.filter _⟩
    simp only [parcelMerged, split, unreplaced, List.filter_append, List.filter_cons, stays, if_true,
      List.append_assoc, List.cons_append]

end Class

/-- Where the declarations of constants and the copies of members stand after a plan. -/
structure Placed (constants : List Constant) (snapshot : Snapshot) (outcome : PlanOutcome) : Prop where
  decisions : outcome.plan.decisions = constants.map (constantDecision snapshot.declarations)
  /-- An inserted constant is right behind the declaration processed before it. -/
  chained : ∀ (index : Nat) (previous constant : Constant), constants[index]? = some previous →
    constants[index + 1]? = some constant →
    outcome.plan.decisions[index + 1]? = some ⟨constant.identifier, .insert⟩ →
    ∃ first inserted, Processed snapshot outcome.plan.insertions previous first ∧
      Inserted outcome.plan.insertions constant inserted ∧
      RightBehind previous.heldBy first inserted outcome.merged.members
  /-- The copy of a conflicting constant is right behind the first declaration under its name. -/
  copied : ∀ (index : Nat) (constant : Constant), constants[index]? = some constant →
    outcome.plan.decisions[index]? = some ⟨constant.identifier, .conflicting⟩ →
    ∃ first inserted, (snapshot.members.find? fun member => member.key == constant.key) = some first ∧
      Inserted outcome.plan.insertions constant inserted ∧
      RightBehind (fun member => member.key == constant.key) first inserted outcome.merged.members
  /-- The first constant, when it is inserted, is behind all that stays of the class. -/
  headed : ∀ constant : Constant, constants[0]? = some constant →
    outcome.plan.decisions[0]? = some ⟨constant.identifier, .insert⟩ →
    ∃ before inserted after, Inserted outcome.plan.insertions constant inserted ∧
      outcome.merged.members = before ++ inserted :: after ∧
      (survivors outcome.plan snapshot.members).Sublist before
  /-- The annotated copy of another member is right behind the first one under its key. -/
  annotated : ∀ insertion ∈ outcome.plan.insertions, insertion.conflict = true →
    insertion.member ∈ Schema.memberKeys →
    ∃ first, (snapshot.members.find? fun member => member.key == insertion.member) = some first ∧
      RightBehind (fun member => member.key == insertion.member) first insertion.toMember
        outcome.merged.members

theorem verdict_decision {constants : List Constant} {existing : List Declaration}
    {constant : Constant} {decision : Decision} {i : Nat} (entry : constants[i]? = some constant)
    (decided : (constants.map (constantDecision existing))[i]? = some ⟨constant.identifier, decision⟩) :
    (Verdict.of existing constant).decision = decision := by
  rw [List.getElem?_map, entry] at decided
  simpa [constantDecision] using decided

theorem Verdict.eq_missing {verdict : Verdict} (decided : verdict.decision = .insert) :
    verdict = .missing := by
  cases verdict with
  | missing => rfl
  | held n => cases decided
  | differing first => cases decided

theorem Verdict.exists_differing {verdict : Verdict} (decided : verdict.decision = .conflicting) :
    ∃ first, verdict = .differing first := by
  cases verdict with
  | missing => cases decided
  | held n => cases decided
  | differing first => exact ⟨first, rfl⟩

theorem placed_of_artifacts {set : ArtifactSet} {artifacts : Schema.Artifacts} (note : String)
    (snapshot : Snapshot) (present : set.schema = some artifacts) (nodup : artifacts.keys.Nodup)
    (apart : ∀ parcel : Parcel.Artifacts, ∀ key ∈ artifacts.keys, key ∉ parcel.replacedMembers) :
    Placed artifacts.constants snapshot
      ⟨planClass note set snapshot, classMerged note set snapshot⟩ := by
  have decisions : (planClass note set snapshot).decisions =
      artifacts.constants.map (constantDecision snapshot.declarations) := by
    rw [planClass, present]
    rfl
  have among := schemaInsertions_subset note snapshot present
  have ownKey {constant : Constant} {member : Member} (declared : constant ∈ artifacts.constants)
      (held : constant.heldBy member = true) : member.key ∈ artifacts.keys := by
    rw [Constant.heldBy_key held]
    exact List.mem_append_left _ (List.mem_map_of_mem declared)
  have copies {insertion : Insertion} (member : insertion ∈ schemaInsertions note snapshot artifacts)
      (conflict : insertion.conflict = true) :
      ∃ first, (snapshot.members.find? fun member => member.key == insertion.member) = some first ∧
        RightBehind (fun member => member.key == insertion.member) first insertion.toMember
          (classMerged note set snapshot).members := by
    obtain ⟨first, found, behind⟩ := schemaMerged_copy nodup member conflict
    have key := schemaInsertions_key member
    have same : first.key = insertion.member := by simpa using List.find?_some found
    exact ⟨first, found, behind.classMerged present apart (same ▸ key) (insertion.toMember_key ▸ key)⟩
  constructor
  · exact decisions
  · intro index previous constant entry next decided
    have missing := Verdict.eq_missing (verdict_decision next (decisions ▸ decided))
    obtain ⟨earlier, later, split⟩ := exists_split_of_consecutive entry next
    obtain ⟨first, inserted, processed, new, behind⟩ := schemaMerged_chain nodup split missing
    refine ⟨first, inserted, processed.mono among, new.mono among, ?_⟩
    exact behind.classMerged present apart (ownKey (List.mem_of_getElem? entry) processed.heldBy)
      (ownKey (List.mem_of_getElem? next) new.2)
  · intro index constant entry decided
    obtain ⟨_, differing⟩ := Verdict.exists_differing (verdict_decision entry (decisions ▸ decided))
    have declared := List.mem_of_getElem? entry
    obtain ⟨insertion, member, conflict, key, held⟩ := exists_copy note declared differing
    obtain ⟨first, found, behind⟩ := copies member conflict
    rw [key] at found behind
    exact ⟨first, insertion.toMember, found, ⟨List.mem_map_of_mem (among member), held⟩, behind⟩
  · intro constant entry decided
    have missing := Verdict.eq_missing (verdict_decision entry (decisions ▸ decided))
    obtain ⟨later, split⟩ : ∃ later, artifacts.constants = constant :: later := by
      cases constants : artifacts.constants with
      | nil => simp [constants] at entry
      | cons head later =>
        obtain rfl : head = constant := by simpa [constants] using entry
        exact ⟨later, rfl⟩
    obtain ⟨before, inserted, after, new, members, sublist⟩ := schemaMerged_head note split missing
    obtain ⟨front, back, placed, stays⟩ := classMerged_head present apart
      (ownKey (List.mem_of_getElem? entry) new.2) members sublist
    exact ⟨front, inserted, back, new.mono among, placed, stays⟩
  · intro insertion member conflict _
    rw [planClass_insertions, baseInsertions, present] at member
    rcases List.mem_append.mp member with schema | other
    · exact copies schema conflict
    · obtain ⟨_, _, _, _, rfl⟩ := mem_parcelableInsertions other
      cases conflict

end Merge

namespace Toolchain
open Merge

/-- A plan that gives a class its schema puts every declaration where it belongs. -/
theorem plan_placed (t : Toolchain) (c : DataClass) (snapshot : Snapshot) {kind : ArtifactKind}
    {set : ArtifactSet} (wanted : kind.wantsSchema = true)
    (generated : t.generator.generate c kind = .ok set) :
    ∃ outcome, t.plan c snapshot kind = .ok outcome ∧ Placed (Schema.constants c) snapshot outcome := by
  obtain ⟨artifacts, present, made⟩ := Generator.generate_wanted wanted generated
  refine ⟨_, plan_eq_ok_iff.mpr ⟨set, generated, rfl⟩, ?_⟩
  rw [← Generator.schemaArtifacts_constants made]
  exact placed_of_artifacts t.note snapshot present (Generator.schemaArtifacts_keys_nodup made)
    (Generator.schemaArtifacts_keys_not_replaced made)

/-- A class that has its table under another name and one of the two columns. -/
theorem plan_placed_point : ArtifactKind.all.wantsSchema = true ∧
    ∃ set, standard.generator.generate .point .all = .ok set ∧
    ∃ outcome, standard.plan .point ⟨[.field ⟨"TABLE", some "points", none⟩,
        .field ⟨"FIELD_X_POS", some "xPos", none⟩], []⟩ .all = .ok outcome ∧
      Placed (Schema.constants .point) ⟨[.field ⟨"TABLE", some "points", none⟩,
        .field ⟨"FIELD_X_POS", some "xPos", none⟩], []⟩ outcome := by
  have generated := Generator.generate_all (g := standard.generator) (c := .point) rfl rfl
  exact ⟨rfl, _, generated, plan_placed standard .point _ rfl generated⟩

end Toolchain
end Boilerplate
