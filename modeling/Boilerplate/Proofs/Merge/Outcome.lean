import Boilerplate.Proofs.Generator
import Boilerplate.Proofs.Merge.Planner
import Boilerplate.Toolchain

/-! The class after a plan. The schema half only inserts. The Parcelable half takes the old members
away, whatever the class had under their keys, and puts the new ones at the end. -/
namespace Boilerplate
namespace Merge

namespace Layout

theorem foldl_step_remove (layout : Layout) (keys : List MemberKey) :
    (keys.map Instruction.remove).foldl step layout =
      { layout with slots := layout.slots.filter fun slot => !keys.contains slot.member.key } := by
  induction keys generalizing layout with
  | nil =>
    exact congrArg (fun slots => { layout with slots })
      (List.filter_eq_self.mpr fun _ _ => rfl).symm
  | cons key more ih =>
    rw [List.map_cons, List.foldl_cons, ih, step, remove]
    simp only [List.filter_filter, mk.injEq, and_true]
    refine List.filter_congr fun slot _ => ?_
    rw [List.contains_cons, Bool.not_or, Bool.and_comm]
    rfl

theorem insertAll_slots_of_end {layout : Layout}
    (ends : ∀ insertion ∈ insertions, insertion.anchor = .endOfClass) :
    (layout.insertAll insertions).slots = layout.slots ++ plannedSlots layout.planned insertions := by
  induction insertions generalizing layout with
  | nil => simp [insertAll, plannedSlots]
  | cons insertion more ih =>
    have lost : ¬ layout.Resolves insertion.anchor := by
      rintro ⟨_, _, _, _, found⟩
      exact found.ne_endOfClass (ends insertion List.mem_cons_self)
    change ((layout.insert insertion).insertAll more).slots = _
    rw [ih fun later member => ends later (List.mem_cons_of_mem _ member),
      insert_of_not_resolves lost, plannedSlots_cons, List.append_assoc]
    rfl

theorem members_toSnapshot (layout : Layout) :
    layout.toSnapshot.members = layout.slots.map Slot.member := rfl

end Layout

def schemaMerged (note : String) (artifacts : Schema.Artifacts) (snapshot : Snapshot) : Snapshot :=
  ((Layout.ofSnapshot snapshot).insertAll (schemaInsertions note snapshot artifacts)).toSnapshot

theorem schemaMerged_members (note : String) (artifacts : Schema.Artifacts) (snapshot : Snapshot) :
    (schemaMerged note artifacts snapshot).members.Perm
      (snapshot.members ++ (schemaInsertions note snapshot artifacts).map Insertion.toMember) :=
  Layout.members_insertAll snapshot _

theorem mem_schemaMerged_iff {snapshot : Snapshot} :
    member ∈ (schemaMerged note artifacts snapshot).members ↔ member ∈ snapshot.members ∨
      member ∈ (schemaInsertions note snapshot artifacts).map Insertion.toMember := by
  rw [(schemaMerged_members note artifacts snapshot).mem_iff, List.mem_append]

theorem Settled.schemaMerged {snapshot : Snapshot} (settled : Settled note artifacts snapshot) :
    schemaMerged note artifacts snapshot = snapshot := by
  simp [Merge.schemaMerged, settled.insertions, Layout.insertAll, Layout.ofSnapshot,
    Layout.toSnapshot, Function.comp_def]

/-- The members that stay when the Parcelable members are replaced. -/
def unreplaced (artifacts : Parcel.Artifacts) (members : List Member) : List Member :=
  members.filter fun member => !artifacts.replacedMembers.contains member.key

def parcelInsertions (snapshot : Snapshot) (artifacts : Parcel.Artifacts) : List Insertion :=
  (artifacts.members.filter fun member => !isSkipped snapshot artifacts member).map
    fun member => ⟨.endOfClass, member.key, member.text, none, false⟩

def parcelableInterfaces (interfaces : List String) : List String :=
  if interfaces.contains JavaType.parcelableName then interfaces
  else interfaces ++ [JavaType.parcelableName]

/-- The class with new Parcelable members, as planned on another state of it. -/
def parcelMerged (planned : Snapshot) (artifacts : Parcel.Artifacts) (snapshot : Snapshot) :
    Snapshot where
  members := unreplaced artifacts snapshot.members ++
    (parcelInsertions planned artifacts).map Insertion.toMember
  interfaces := parcelableInterfaces snapshot.interfaces

theorem parcelInstructions_merged {snapshot : Snapshot} {artifacts : Parcel.Artifacts}
    {layout : Layout} (interfaces : layout.interfaces = snapshot.interfaces)
    (known : ∀ slot ∈ layout.slots, slot.member.key ∈ artifacts.replacedMembers →
      snapshot.contains slot.member.key = true) :
    ((parcelInstructions snapshot artifacts).foldl Layout.step layout).toSnapshot =
      parcelMerged snapshot artifacts layout.toSnapshot := by
  have ends : ∀ insertion ∈ parcelInsertions snapshot artifacts,
      insertion.anchor = .endOfClass := by
    intro insertion member
    obtain ⟨_, _, rfl⟩ := List.mem_map.mp member
    rfl
  have inserted : ((artifacts.members.filter fun member => !isSkipped snapshot artifacts member).map
      fun member => Instruction.insert ⟨.endOfClass, member.key, member.text, none, false⟩) =
        (parcelInsertions snapshot artifacts).map Instruction.insert := by
    simp [parcelInsertions, Function.comp_def]
  have kept : (layout.slots.filter fun slot =>
      !(artifacts.replacedMembers.filter snapshot.contains).contains slot.member.key) =
        layout.slots.filter fun slot => !artifacts.replacedMembers.contains slot.member.key := by
    refine List.filter_congr fun slot member => ?_
    refine congrArg (!·) (Bool.eq_iff_iff.mpr ?_)
    simp only [List.contains_iff_mem, List.mem_filter]
    exact ⟨And.left, fun among => ⟨among, known slot member among⟩⟩
  have last (reached : Layout) (same : reached.interfaces = snapshot.interfaces) :
      (if snapshot.implements JavaType.parcelableName then []
        else [Instruction.implementInterface JavaType.parcelableName]).foldl Layout.step reached =
        { reached with interfaces := parcelableInterfaces snapshot.interfaces } := by
    unfold parcelableInterfaces Snapshot.implements
    cases there : snapshot.interfaces.contains JavaType.parcelableName with
    | true => simp [← same]
    | false =>
      simp only [Bool.false_eq_true, if_false, List.foldl_cons, List.foldl_nil, Layout.step,
        Layout.implement, same, there]
  rw [parcelInstructions, inserted, List.foldl_append, List.foldl_append, Layout.foldl_step_remove,
    Layout.foldl_step_insert, kept, last _ (by rw [Layout.insertAll_interfaces]; exact interfaces)]
  simp only [Layout.toSnapshot, Layout.insertAll_slots_of_end ends, parcelMerged, List.map_append,
    plannedSlots_members, interfaces, unreplaced, List.filter_map]
  rfl

section Plan
variable {note : String} {set : ArtifactSet} {snapshot : Snapshot}

def baseMerged (note : String) (set : ArtifactSet) (snapshot : Snapshot) : Snapshot :=
  match set.schema with
  | some artifacts => schemaMerged note artifacts snapshot
  | none => snapshot

def baseInsertions (note : String) (set : ArtifactSet) (snapshot : Snapshot) : List Insertion :=
  match set.schema with
  | some artifacts => schemaInsertions note snapshot artifacts
  | none => []

theorem baseMerged_eq (note : String) (set : ArtifactSet) (snapshot : Snapshot) :
    baseMerged note set snapshot =
      ((Layout.ofSnapshot snapshot).insertAll (baseInsertions note set snapshot)).toSnapshot := by
  unfold baseMerged baseInsertions
  cases set.schema with
  | some artifacts => rfl
  | none => simp [Layout.insertAll, Layout.ofSnapshot, Layout.toSnapshot, Function.comp_def]

theorem planClass_instructions (note : String) (set : ArtifactSet) (snapshot : Snapshot) :
    (planClass note set snapshot).instructions =
      (baseInsertions note set snapshot).map .insert ++
        match set.parcelable with
        | some artifacts => parcelInstructions snapshot artifacts
        | none => [] := by
  unfold planClass baseInsertions
  cases set.schema with
  | some artifacts => exact congrArg (· ++ _) (schemaInstructions_eq note snapshot artifacts)
  | none => rfl

theorem filterMap_implementInterface {α : Type} {f : Instruction → Option α}
    (name : String) (skips : f (.implementInterface name) = none) (there : Bool) :
    (if there then [] else [Instruction.implementInterface name]).filterMap f = [] := by
  cases there with
  | true => rfl
  | false => exact List.filterMap_eq_nil_iff.mpr (by simpa using skips)

theorem parcelInstructions_insertions (snapshot : Snapshot) (artifacts : Parcel.Artifacts) :
    (parcelInstructions snapshot artifacts).filterMap Instruction.insertion? =
      parcelInsertions snapshot artifacts := by
  have removals (keys : List MemberKey) :
      (keys.map Instruction.remove).filterMap Instruction.insertion? = [] := by
    simp [Instruction.insertion?]
  rw [parcelInstructions, List.filterMap_append, List.filterMap_append, removals,
    filterMap_implementInterface _ rfl]
  simp [parcelInsertions, Instruction.insertion?, Function.comp_def]

def parcelableInsertions (set : ArtifactSet) (snapshot : Snapshot) : List Insertion :=
  match set.parcelable with
  | some artifacts => parcelInsertions snapshot artifacts
  | none => []

theorem mem_parcelableInsertions (member : insertion ∈ parcelableInsertions set snapshot) :
    ∃ parcel, set.parcelable = some parcel ∧ ∃ new ∈ parcel.members,
      insertion = ⟨.endOfClass, new.key, new.text, none, false⟩ := by
  unfold parcelableInsertions at member
  split at member
  · rename_i parcel present
    obtain ⟨new, among, rfl⟩ := List.mem_map.mp member
    exact ⟨parcel, present, new, (List.mem_filter.mp among).1, rfl⟩
  · cases member

/-- What a plan inserts: the schema members, then the Parcelable members. -/
theorem planClass_insertions (note : String) (set : ArtifactSet) (snapshot : Snapshot) :
    (planClass note set snapshot).insertions =
      baseInsertions note set snapshot ++ parcelableInsertions set snapshot := by
  have schema : ((baseInsertions note set snapshot).map Instruction.insert).filterMap
      Instruction.insertion? = baseInsertions note set snapshot := by
    simp [Instruction.insertion?, Function.comp_def]
  rw [EditPlan.insertions, planClass_instructions, List.filterMap_append, schema,
    parcelableInsertions]
  cases set.parcelable with
  | none => rfl
  | some artifacts => exact congrArg (_ ++ ·) (parcelInstructions_insertions snapshot artifacts)

theorem planClass_removals (note : String) (set : ArtifactSet) (snapshot : Snapshot) :
    (planClass note set snapshot).removals =
      match set.parcelable with
      | some artifacts => artifacts.replacedMembers.filter snapshot.contains
      | none => [] := by
  have schema : ((baseInsertions note set snapshot).map Instruction.insert).filterMap
      Instruction.removal? = [] := by
    simp [Instruction.removal?]
  rw [EditPlan.removals, planClass_instructions, List.filterMap_append, schema, List.nil_append]
  cases set.parcelable with
  | none => rfl
  | some artifacts =>
    have interface := filterMap_implementInterface (f := Instruction.removal?)
      JavaType.parcelableName rfl
    simp [parcelInstructions, List.filterMap_append, interface, Instruction.removal?,
      Function.comp_def]

theorem planClass_decisions {artifacts : Schema.Artifacts} (present : set.schema = some artifacts) :
    (planClass note set snapshot).decisions =
      artifacts.constants.map (constantDecision snapshot.declarations) := by
  simp only [planClass, present, planConstants]

theorem baseInsertions_key (member : insertion ∈ baseInsertions note set snapshot) :
    ∃ artifacts, set.schema = some artifacts ∧ insertion.member ∈ artifacts.keys := by
  unfold baseInsertions at member
  split at member
  · rename_i artifacts present
    exact ⟨artifacts, present, schemaInsertions_key member⟩
  · cases member

/-- The class after a plan for a set of artifacts. -/
def classMerged (note : String) (set : ArtifactSet) (snapshot : Snapshot) : Snapshot :=
  match set.parcelable with
  | some artifacts => parcelMerged snapshot artifacts (baseMerged note set snapshot)
  | none => baseMerged note set snapshot

theorem apply_planClass
    (apart : ∀ artifacts, set.schema = some artifacts → ∀ parcel : Parcel.Artifacts,
      ∀ key ∈ artifacts.keys, key ∉ parcel.replacedMembers) :
    apply snapshot (planClass note set snapshot) = classMerged note set snapshot := by
  rw [apply, planClass_instructions, List.foldl_append, Layout.foldl_step_insert, classMerged,
    baseMerged_eq]
  cases set.parcelable with
  | none => rfl
  | some artifacts =>
    refine parcelInstructions_merged (Layout.insertAll_interfaces _ _) fun slot member replaced => ?_
    rcases Layout.slot_cases member with ⟨_, declared⟩ | ⟨index, insertion, entry, rfl⟩
    · exact List.any_eq_true.mpr ⟨slot.member, declared, by simp⟩
    · obtain ⟨schema, present, key⟩ := baseInsertions_key (List.mem_of_getElem? entry)
      rw [Insertion.toMember_key] at replaced
      exact absurd replaced (apart schema present artifacts _ key)

end Plan
end Merge

open Merge

/-- A plan succeeds just when generation does. -/
theorem Toolchain.plan_eq_ok_iff {t : Toolchain} {c : DataClass} {snapshot : Snapshot}
    {kind : ArtifactKind} {outcome : PlanOutcome} : t.plan c snapshot kind = .ok outcome ↔
      ∃ set, t.generator.generate c kind = .ok set ∧
        outcome = ⟨planClass t.note set snapshot, classMerged t.note set snapshot⟩ := by
  rw [plan, bind_eq_ok_iff]
  refine exists_congr fun set => and_congr_right fun generated => ?_
  have merged : apply snapshot (planClass t.note set snapshot) = classMerged t.note set snapshot :=
    apply_planClass fun artifacts present => Generator.schemaArtifacts_keys_not_replaced
      ((Generator.generate_sound generated).1 artifacts present)
  simp only [merged, pure, Except.pure, Except.ok.injEq, eq_comm]

theorem Toolchain.standard_resolves_point : ∀ field ∈ DataClass.point.fields,
    ∃ resolved, standard.generator.resolver.resolveField field = .ok resolved := by
  intro field member
  simp only [DataClass.point, List.mem_cons, List.not_mem_nil, or_false] at member
  rcases member with rfl | rfl
  · exact ⟨_, rfl⟩
  · exact ⟨_, rfl⟩

end Boilerplate
