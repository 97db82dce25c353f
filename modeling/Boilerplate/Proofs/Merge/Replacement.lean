import Boilerplate.Proofs.Merge.History
import Boilerplate.Proofs.Merge.Renewal

/-! Parcelable members are replaced as a whole. However many the class had under their keys, it has one
of each afterwards, the new one, and these are its last members. Everything else stays, and a default
constructor comes with them only where the class would be without a constructor. -/
namespace Boilerplate

namespace DataClass

/-- The keys of the members that are always replaced. -/
def parcelKeys (c : DataClass) : List MemberKey :=
  [Parcel.creatorKey, Parcel.parcelConstructorKey c.name, Parcel.describeContentsKey,
    Parcel.writeToParcelKey]

/-- No constructor is announced, and the class has none that stays. -/
def LacksConstructor (c : DataClass) (snapshot : Snapshot) : Prop :=
  c.hasExistingConstructor = false ∧ ∀ m : Method, .method m ∈ snapshot.members → m.name = c.name →
    (Member.method m).key ∈ c.parcelKeys

def defaultConstructor (c : DataClass) : Member :=
  .method ⟨c.name, [], some (Parcel.defaultConstructor c.name)⟩

end DataClass

namespace Merge
open Schema (MemberText)

/-- A class whose Parcelable members were replaced. -/
structure Replaced (c : DataClass) (parcel : Parcel.Artifacts) (snapshot : Snapshot)
    (outcome : PlanOutcome) : Prop where
  /-- The new members come last, in order, behind all that the class had under other keys. -/
  last : ∃ others,
    (c.LacksConstructor snapshot →
      outcome.merged.members = others ++ freshMembers parcel [c.defaultConstructor]) ∧
    (¬ c.LacksConstructor snapshot → outcome.merged.members = others ++ freshMembers parcel []) ∧
    (∀ member ∈ others, member.key ∉ c.parcelKeys) ∧
    (snapshot.members.filter fun member => !c.parcelKeys.contains member.key).Sublist others
  /-- One member under each key, with the new text. -/
  single : ∀ key ∈ c.parcelKeys, ∃ text member, ⟨key, text⟩ ∈ parcel.members ∧
    (outcome.merged.members.filter fun other => other.key == key) = [member] ∧
    member.text? = some text
  constructor : (∃ insertion ∈ outcome.plan.insertions,
      insertion.member = Parcel.defaultConstructorKey c.name ∧
      insertion.text = Parcel.defaultConstructor c.name) ↔ c.LacksConstructor snapshot
  interfaces : outcome.merged.interfaces =
    if snapshot.interfaces.contains JavaType.parcelableName then snapshot.interfaces
    else snapshot.interfaces ++ [JavaType.parcelableName]

section Fresh
variable {parcel : Parcel.Artifacts} {constructors : List Member} {key : MemberKey}

/-- The default constructors that come with the new members. -/
def freshConstructors (parcel : Parcel.Artifacts) (skips : Bool) : List Member :=
  if skips then [] else defaultConstructors parcel

theorem renewed_eq (named : parcel.className ≠ "describeContents") (skips : Bool) :
    renewed parcel skips = freshMembers parcel (freshConstructors parcel skips) := by
  cases skips with
  | false => exact renewed_false_eq parcel
  | true => exact renewed_true_eq named

theorem freshConstructors_not_replaced (named : parcel.className ≠ "describeContents") (skips : Bool) :
    ∀ member ∈ freshConstructors parcel skips, member.key ∉ parcel.replacedMembers := by
  intro member present
  cases skips with
  | true => cases present
  | false =>
    obtain ⟨text, _, rfl⟩ := List.mem_map.mp present
    exact mt Parcel.Artifacts.defaultConstructorKey_replaced_iff.mp named

theorem mem_freshMembers {member : Member} (present : member ∈ freshMembers parcel constructors) :
    member.key ∈ parcel.replacedMembers ∨ member ∈ constructors := by
  rcases List.mem_append.mp present with front | back
  · rcases List.mem_append.mp front with first | constructs
    · refine .inl ?_
      simp only [List.mem_cons, List.not_mem_nil, or_false] at first
      rcases first with rfl | rfl
      · simp [Member.key, Parcel.Artifacts.replacedMembers, Parcel.describeContentsKey]
      · simp [Member.key, Parcel.Artifacts.replacedMembers, Parcel.writeToParcelKey]
    · exact .inr constructs
  · refine .inl ?_
    simp only [List.mem_cons, List.not_mem_nil, or_false] at back
    rcases back with rfl | rfl
    · simp [Member.key, Parcel.Artifacts.replacedMembers, Parcel.parcelConstructorKey]
    · simp [Member.key, Parcel.Artifacts.replacedMembers, Parcel.creatorKey]

theorem freshMembers_under (apart : ∀ member ∈ constructors, member.key ∉ parcel.replacedMembers)
    (replaced : key ∈ parcel.replacedMembers) :
    ∃ text member, ⟨key, text⟩ ∈ parcel.members ∧
      ((freshMembers parcel constructors).filter fun other => other.key == key) = [member] ∧
      member.text? = some text := by
  have absent : constructors.filter (fun other => other.key == key) = [] := by
    refine List.filter_eq_nil_iff.mpr fun member present same => apart member present ?_
    rwa [beq_iff_eq.mp same]
  rw [freshMembers, List.filter_append, List.filter_append, absent]
  simp only [Parcel.Artifacts.replacedMembers, List.mem_cons, List.not_mem_nil, or_false] at replaced
  rcases replaced with rfl | rfl | rfl | rfl
  · exact ⟨parcel.creator, .field ⟨Identifier.creator, none, some parcel.creator⟩,
      by simp [Parcel.Artifacts.members], by simp [Member.key, Parcel.creatorKey], rfl⟩
  · exact ⟨parcel.parcelConstructor,
      .method ⟨parcel.className, [JavaType.parcelName], some parcel.parcelConstructor⟩,
      by simp [Parcel.Artifacts.members], by simp [Member.key, Parcel.parcelConstructorKey], rfl⟩
  · exact ⟨parcel.describeContents, .method ⟨"describeContents", [], some parcel.describeContents⟩,
      by simp [Parcel.Artifacts.members], by simp [Member.key, Parcel.describeContentsKey], rfl⟩
  · exact ⟨parcel.writeToParcel,
      .method ⟨"writeToParcel", [JavaType.parcelName, "int"], some parcel.writeToParcel⟩,
      by simp [Parcel.Artifacts.members], by simp [Member.key, Parcel.writeToParcelKey], rfl⟩

end Fresh

section Constructors
variable {g : Generator} {c d : DataClass} {kind : ArtifactKind} {note : String} {set : ArtifactSet}
  {snapshot : Snapshot} {parcel : Parcel.Artifacts} {insertion : Insertion}

theorem keepsConstructor_eq_false_iff : keepsConstructor snapshot parcel = false ↔
    ∀ m : Method, .method m ∈ snapshot.members → m.name = parcel.className →
      (Member.method m).key ∈ parcel.replacedMembers := by
  rw [keepsConstructor, List.any_eq_false]
  constructor
  · intro none m present named
    simpa [named, Member.key] using none (.method m) present
  · intro replaced member present
    cases member with
    | field declaration => simp
    | method m => simpa [Member.key] using replaced m present

/-- Of a class that has its strategies, the new constructor is there when the old ones are not. -/
theorem freshConstructors_cases {fields : List Parcel.ResolvedField} (snapshot : Snapshot)
    (made : parcel = Parcel.artifacts c fields) :
    c.LacksConstructor snapshot ∧
        freshConstructors parcel (keepsConstructor snapshot parcel) = [c.defaultConstructor] ∨
      ¬ c.LacksConstructor snapshot ∧
        freshConstructors parcel (keepsConstructor snapshot parcel) = [] := by
  subst made
  have lacks : c.LacksConstructor snapshot ↔ c.hasExistingConstructor = false ∧
      keepsConstructor snapshot (Parcel.artifacts c fields) = false := by
    rw [keepsConstructor_eq_false_iff]
    rfl
  rw [lacks, freshConstructors, defaultConstructors]
  cases keepsConstructor snapshot (Parcel.artifacts c fields) with
  | true => simp
  | false =>
    cases announced : c.hasExistingConstructor with
    | true => simp [Parcel.artifacts, announced]
    | false => simp [Parcel.artifacts, announced, DataClass.defaultConstructor]

/-- A schema member under the key of a default constructor is another one. -/
theorem text_ne_of_baseInsertion (generated : g.generate c kind = .ok set)
    (member : insertion ∈ baseInsertions note set snapshot)
    (key : insertion.member = Parcel.defaultConstructorKey name) :
    insertion.text ≠ Parcel.defaultConstructor name := by
  obtain ⟨artifacts, made, ⟨constant, _, _, inserted⟩ | ⟨member, among, inserted⟩⟩ :=
    mem_baseInsertions generated member
  · rw [(constantInsertion?_spec inserted).1] at key
    cases key
  · obtain ⟨ownKey, _, text⟩ := memberInsertion?_spec inserted
    have constructs : member.key = Parcel.defaultConstructorKey name := ownKey.symm.trans key
    have listed : member.key ∈ Schema.memberKeys := by
      rw [← artifacts.members_keys]
      exact List.mem_map_of_mem among
    obtain rfl : name = "getDbContentValues" := by
      rw [constructs] at listed
      simpa [Parcel.defaultConstructorKey, Schema.memberKeys, Schema.fullProjectionKey,
        Schema.createTableKey, Schema.cursorDeserializerKey, Schema.contentValuesKey] using listed
    rcases text with plain | noted
    · rw [plain]
      exact Generator.schemaArtifacts_text_ne_defaultConstructor made among constructs
    · rw [noted]
      exact (ne_annotated (by decide)).symm

/-- Under that key the new Parcelable members have the default constructor or nothing. -/
theorem parcelInsertion_constructs_iff {fields : List Parcel.ResolvedField}
    (named : c.name ≠ "describeContents") (made : parcel = Parcel.artifacts c fields) :
    (∃ insertion ∈ parcelInsertions snapshot parcel,
      insertion.member = Parcel.defaultConstructorKey c.name ∧
      insertion.text = Parcel.defaultConstructor c.name) ↔ c.LacksConstructor snapshot := by
  have className : parcel.className = c.name := by rw [made]; rfl
  have members := parcelInsertions_members snapshot parcel
  rw [renewed_eq (className ▸ named)] at members
  constructor
  · rintro ⟨insertion, inserted, key, _⟩
    have listed := List.mem_map_of_mem (f := Insertion.toMember) inserted
    rw [members] at listed
    have notReplaced : insertion.toMember.key ∉ parcel.replacedMembers := by
      rw [Insertion.toMember_key, key, ← className]
      exact mt Parcel.Artifacts.defaultConstructorKey_replaced_iff.mp (className ▸ named)
    have constructs := (mem_freshMembers listed).resolve_left notReplaced
    rcases freshConstructors_cases snapshot made with ⟨lacks, _⟩ | ⟨_, none⟩
    · exact lacks
    · rw [none] at constructs
      cases constructs
  · intro lacks
    rcases freshConstructors_cases snapshot made with ⟨_, new⟩ | ⟨other, _⟩
    · have listed : c.defaultConstructor ∈ (parcelInsertions snapshot parcel).map Insertion.toMember := by
        rw [members, new]
        simp [freshMembers]
      obtain ⟨insertion, inserted, same⟩ := List.mem_map.mp listed
      refine ⟨insertion, inserted, ?_, ?_⟩
      · rw [← Insertion.toMember_key, same]
        rfl
      · have text := Insertion.toMember_text? insertion
        rw [same] at text
        exact (Option.some.inj text).symm
    · exact absurd lacks other

theorem members_sublist_baseMerged (note : String) (set : ArtifactSet) (snapshot : Snapshot) :
    snapshot.members.Sublist (baseMerged note set snapshot).members := by
  have old := Layout.oldMembers_insertAll snapshot (baseInsertions note set snapshot)
  rw [Layout.oldMembers] at old
  rw [baseMerged_eq, ← old]
  exact List.filter_sublist.map Slot.member

theorem interfaces_baseMerged (note : String) (set : ArtifactSet) (snapshot : Snapshot) :
    (baseMerged note set snapshot).interfaces = snapshot.interfaces := by
  rw [baseMerged_eq]
  exact Layout.insertAll_interfaces _ _

theorem replaced_of_artifacts {fields : List Parcel.ResolvedField}
    (named : c.name ≠ "describeContents") (generated : g.generate d kind = .ok set)
    (present : set.parcelable = some (Parcel.artifacts c fields)) :
    Replaced c (Parcel.artifacts c fields) snapshot
      ⟨planClass note set snapshot, classMerged note set snapshot⟩ := by
  let parcel := Parcel.artifacts c fields
  have ownName : parcel.className ≠ "describeContents" := named
  have merged : classMerged note set snapshot =
      parcelMerged snapshot parcel (baseMerged note set snapshot) := by
    rw [classMerged, present]
  have members : (classMerged note set snapshot).members =
      unreplaced parcel (baseMerged note set snapshot).members ++
        freshMembers parcel (freshConstructors parcel (keepsConstructor snapshot parcel)) := by
    rw [merged, parcelMerged, parcelInsertions_members, renewed_eq ownName]
  have others : ∀ member ∈ unreplaced parcel (baseMerged note set snapshot).members,
      member.key ∉ parcel.replacedMembers := by
    intro member kept
    simpa using (List.mem_filter.mp kept).2
  constructor
  · refine ⟨_, ?_, ?_, others, (members_sublist_baseMerged note set snapshot).filter _⟩
    · intro lacks
      rcases freshConstructors_cases snapshot rfl with ⟨_, new⟩ | ⟨other, _⟩
      · rw [members, new]
      · exact absurd lacks other
    · intro other
      rcases freshConstructors_cases snapshot rfl with ⟨lacks, _⟩ | ⟨_, none⟩
      · exact absurd lacks other
      · rw [members, none]
  · intro key replaced
    obtain ⟨text, member, listed, found, same⟩ :=
      freshMembers_under (freshConstructors_not_replaced ownName _) replaced
    refine ⟨text, member, listed, ?_, same⟩
    have absent : (unreplaced parcel (baseMerged note set snapshot).members).filter
        (fun other => other.key == key) = [] := by
      refine List.filter_eq_nil_iff.mpr fun other kept same => others other kept ?_
      rwa [beq_iff_eq.mp same]
    rw [members, List.filter_append, absent, List.nil_append]
    exact found
  · rw [← parcelInsertion_constructs_iff named rfl, planClass_insertions, parcelableInsertions, present]
    constructor
    · rintro ⟨insertion, planned, key, text⟩
      rcases List.mem_append.mp planned with base | new
      · exact absurd text (text_ne_of_baseInsertion generated base key)
      · exact ⟨insertion, new, key, text⟩
    · rintro ⟨insertion, new, key, text⟩
      exact ⟨insertion, List.mem_append_right _ new, key, text⟩
  · rw [merged, parcelMerged, interfaces_baseMerged]
    rfl

end Constructors
end Merge

namespace Toolchain
open Merge

/-- A plan for the Parcelable members replaces them as a whole, whatever the class has of them. -/
theorem parcelable_members_replaced (t : Toolchain) (c : DataClass) (snapshot : Snapshot)
    {kind : ArtifactKind} (wanted : kind.wantsParcelable = true) (valid : c.validate = .ok ())
    (named : c.name ≠ "describeContents")
    (resolves : ∀ field ∈ c.fields,
      ∃ resolved, t.generator.resolver.resolveField field = .ok resolved) :
    ∃ parcel outcome, t.generator.parcelableArtifacts c = .ok parcel ∧
      t.plan c snapshot kind = .ok outcome ∧ Replaced c parcel snapshot outcome := by
  obtain ⟨set, generated⟩ := Generator.generate_ok valid resolves kind
  obtain ⟨parcel, present, made⟩ := Generator.generate_wanted_parcelable wanted generated
  obtain ⟨_, rfl⟩ := Generator.parcelableArtifacts_sound made
  exact ⟨_, _, made, plan_eq_ok_iff.mpr ⟨set, generated, rfl⟩,
    replaced_of_artifacts named generated present⟩

/-- A class with two old creators, a parcel constructor, a method of its own and no interface. -/
theorem parcelable_members_replaced_point :
    ArtifactKind.all.wantsParcelable = true ∧ DataClass.point.validate = .ok () ∧
    DataClass.point.name ≠ "describeContents" ∧
    (∀ field ∈ DataClass.point.fields,
      ∃ resolved, standard.generator.resolver.resolveField field = .ok resolved) ∧
    ∃ parcel outcome, standard.generator.parcelableArtifacts .point = .ok parcel ∧
      standard.plan .point ⟨[.field ⟨"CREATOR", none, none⟩,
        .method ⟨"Point", [JavaType.parcelName], none⟩, .method ⟨"norm", [], none⟩,
        .field ⟨"CREATOR", none, some "old"⟩], []⟩ .all = .ok outcome ∧
      Replaced .point parcel ⟨[.field ⟨"CREATOR", none, none⟩,
        .method ⟨"Point", [JavaType.parcelName], none⟩, .method ⟨"norm", [], none⟩,
        .field ⟨"CREATOR", none, some "old"⟩], []⟩ outcome := by
  have named : DataClass.point.name ≠ "describeContents" := by decide
  exact ⟨rfl, DataClass.point_valid, named, standard_resolves_point,
    parcelable_members_replaced standard .point _ rfl DataClass.point_valid named
      standard_resolves_point⟩

end Toolchain
end Boilerplate
