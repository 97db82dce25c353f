import Boilerplate.Proofs.Merge.Outcome

/-! New Parcelable members in place of old ones. All of them are replaced in the next round, except a
default constructor: that one stays, and the class then needs no other. -/
namespace Boilerplate

namespace Parcel.Artifacts

variable {artifacts : Artifacts}

def constructs (artifacts : Artifacts) : Member → Bool
  | .method m => m.name == artifacts.className
  | .field _ => false

/-- A default constructor is replaced only when it looks like another member. -/
theorem defaultConstructorKey_replaced_iff :
    defaultConstructorKey artifacts.className ∈ artifacts.replacedMembers ↔
      artifacts.className = "describeContents" := by
  simp [defaultConstructorKey, replacedMembers, creatorKey, parcelConstructorKey,
    describeContentsKey, writeToParcelKey]

end Parcel.Artifacts

namespace Merge

section Renewed
variable {artifacts : Parcel.Artifacts} {skips : Bool}

/-- The new Parcelable members, with or without the default constructor. -/
def renewed (artifacts : Parcel.Artifacts) (skips : Bool) : List Member :=
  (artifacts.members.filter fun generated =>
    !(skips && generated.key == Parcel.defaultConstructorKey artifacts.className)).map
      fun generated => (Insertion.mk .endOfClass generated.key generated.text none false).toMember

def defaultConstructors (artifacts : Parcel.Artifacts) : List Member :=
  artifacts.defaultConstructor.toList.map fun text => .method ⟨artifacts.className, [], some text⟩

theorem parcelInsertions_members (snapshot : Snapshot) (artifacts : Parcel.Artifacts) :
    (parcelInsertions snapshot artifacts).map Insertion.toMember =
      renewed artifacts (keepsConstructor snapshot artifacts) := by
  simp [parcelInsertions, renewed, isSkipped, Function.comp_def]

theorem keepsConstructor_eq (snapshot : Snapshot) (artifacts : Parcel.Artifacts) :
    keepsConstructor snapshot artifacts =
      (unreplaced artifacts snapshot.members).any artifacts.constructs := by
  rw [keepsConstructor, unreplaced, List.any_filter]
  congr
  funext member
  cases member with
  | field declaration => simp [Parcel.Artifacts.constructs]
  | method m => simp [Parcel.Artifacts.constructs, Member.key, Bool.and_comm]

theorem unreplaced_append (artifacts : Parcel.Artifacts) (front back : List Member) :
    unreplaced artifacts (front ++ back) = unreplaced artifacts front ++ unreplaced artifacts back :=
  List.filter_append ..

theorem unreplaced_unreplaced (artifacts : Parcel.Artifacts) (members : List Member) :
    unreplaced artifacts (unreplaced artifacts members) = unreplaced artifacts members := by
  simp [unreplaced, List.filter_filter]

theorem unreplaced_eq_nil
    (replaced : ∀ member ∈ members, member.key ∈ artifacts.replacedMembers) :
    unreplaced artifacts members = [] := by
  refine List.filter_eq_nil_iff.mpr fun member present => ?_
  simpa using replaced member present

theorem renewed_false (artifacts : Parcel.Artifacts) :
    renewed artifacts false = artifacts.members.map fun generated =>
      (Insertion.mk .endOfClass generated.key generated.text none false).toMember :=
  congrArg (List.map _) (List.filter_eq_self.mpr fun _ _ => rfl)

theorem mem_renewed (member : m ∈ renewed artifacts skips) :
    ∃ generated ∈ artifacts.members, m.key = generated.key ∧
      (skips = true → generated.key ≠ Parcel.defaultConstructorKey artifacts.className) := by
  obtain ⟨generated, among, rfl⟩ := List.mem_map.mp member
  obtain ⟨present, allowed⟩ := List.mem_filter.mp among
  refine ⟨generated, present, Insertion.toMember_key _, ?_⟩
  rintro rfl
  simpa using allowed

theorem unreplaced_renewed_true (artifacts : Parcel.Artifacts) :
    unreplaced artifacts (renewed artifacts true) = [] := by
  refine unreplaced_eq_nil fun member new => ?_
  obtain ⟨generated, among, key, other⟩ := mem_renewed new
  rw [key]
  exact (Parcel.Artifacts.members_cases among).resolve_right fun default => other rfl default.1

theorem unreplaced_renewed_of_describeContents (named : artifacts.className = "describeContents") :
    unreplaced artifacts (renewed artifacts skips) = [] := by
  refine unreplaced_eq_nil fun member new => ?_
  obtain ⟨generated, among, key, _⟩ := mem_renewed new
  rw [key]
  rcases Parcel.Artifacts.members_cases among with replaced | ⟨default, _⟩
  · exact replaced
  · rw [default]
    exact Parcel.Artifacts.defaultConstructorKey_replaced_iff.mpr named

/-- The new members in their order, with these constructors among them. -/
def freshMembers (artifacts : Parcel.Artifacts) (constructors : List Member) : List Member :=
  [.method ⟨"describeContents", [], some artifacts.describeContents⟩,
    .method ⟨"writeToParcel", [JavaType.parcelName, "int"], some artifacts.writeToParcel⟩] ++
    constructors ++
    [.method ⟨artifacts.className, [JavaType.parcelName], some artifacts.parcelConstructor⟩,
      .field ⟨Identifier.creator, none, some artifacts.creator⟩]

theorem renewed_false_eq (artifacts : Parcel.Artifacts) :
    renewed artifacts false = freshMembers artifacts (defaultConstructors artifacts) := by
  simp [renewed_false, freshMembers, Parcel.Artifacts.members, defaultConstructors,
    Insertion.toMember, Parcel.describeContentsKey, Parcel.writeToParcelKey,
    Parcel.parcelConstructorKey, Parcel.creatorKey, Parcel.defaultConstructorKey, Function.comp_def]

theorem renewed_true_eq (named : artifacts.className ≠ "describeContents") :
    renewed artifacts true = freshMembers artifacts [] := by
  simp [renewed, freshMembers, Parcel.Artifacts.members, Insertion.toMember,
    Parcel.describeContentsKey, Parcel.writeToParcelKey, Parcel.parcelConstructorKey,
    Parcel.creatorKey, Parcel.defaultConstructorKey, Ne.symm named]

/-- Where the default constructor stands among the new members. -/
theorem exists_renewed_split (named : artifacts.className ≠ "describeContents") :
    ∃ front back, renewed artifacts false = front ++ (defaultConstructors artifacts ++ back) ∧
      renewed artifacts true = front ++ back := by
  rw [renewed_false_eq, renewed_true_eq named]
  exact ⟨_, _, List.append_assoc .., rfl⟩

/-- A class after a round: members that stay and new Parcelable members behind them. -/
structure Rebuilt (artifacts : Parcel.Artifacts) (kept : List Member) (skips : Bool) : Prop where
  stays : unreplaced artifacts kept = kept
  skipped : skips = true → kept.any artifacts.constructs = true
  /-- Then no new member is a constructor that could stay. -/
  described : artifacts.className = "describeContents" → kept.any artifacts.constructs = skips

theorem unreplaced_defaultConstructors (named : artifacts.className ≠ "describeContents") :
    unreplaced artifacts (defaultConstructors artifacts) = defaultConstructors artifacts := by
  refine List.filter_eq_self.mpr fun member present => ?_
  obtain ⟨text, _, rfl⟩ := List.mem_map.mp present
  have stays := mt Parcel.Artifacts.defaultConstructorKey_replaced_iff.mp named
  simpa [Member.key, Parcel.defaultConstructorKey] using stays

theorem unreplaced_renewed_false (named : artifacts.className ≠ "describeContents") :
    unreplaced artifacts (renewed artifacts false) = defaultConstructors artifacts := by
  obtain ⟨front, back, all, skipped⟩ := exists_renewed_split named
  have none := unreplaced_renewed_true artifacts
  rw [skipped, unreplaced_append, List.append_eq_nil_iff] at none
  rw [all, unreplaced_append, unreplaced_append, none.1, none.2,
    unreplaced_defaultConstructors named, List.nil_append, List.append_nil]

theorem Rebuilt.next (rebuilt : Rebuilt artifacts kept skips) (interfaces : List String) :
    parcelMerged ⟨kept ++ renewed artifacts skips, interfaces⟩ artifacts
        ⟨kept ++ renewed artifacts skips, interfaces⟩ =
      ⟨kept ++ unreplaced artifacts (renewed artifacts skips) ++
        renewed artifacts ((kept ++ unreplaced artifacts (renewed artifacts skips)).any
          artifacts.constructs), parcelableInterfaces interfaces⟩ := by
  rw [parcelMerged, parcelInsertions_members, keepsConstructor_eq, unreplaced_append, rebuilt.stays]

/-- When none of the new members stays, the next round makes the same ones. -/
theorem Rebuilt.renewed_eq (rebuilt : Rebuilt artifacts kept skips)
    (none : unreplaced artifacts (renewed artifacts skips) = []) :
    renewed artifacts (kept.any artifacts.constructs) = renewed artifacts skips := by
  by_cases named : artifacts.className = "describeContents"
  · rw [rebuilt.described named]
  · cases skips with
    | true => rw [rebuilt.skipped rfl]
    | false =>
      cases kept.any artifacts.constructs with
      | false => rfl
      | true =>
        obtain ⟨front, back, all, skipped⟩ := exists_renewed_split named
        rw [unreplaced_renewed_false named] at none
        rw [all, skipped, none, List.nil_append]

theorem Rebuilt.stable (rebuilt : Rebuilt artifacts kept skips)
    (none : unreplaced artifacts (renewed artifacts skips) = [])
    (implements : parcelableInterfaces interfaces = interfaces) :
    parcelMerged ⟨kept ++ renewed artifacts skips, interfaces⟩ artifacts
        ⟨kept ++ renewed artifacts skips, interfaces⟩ =
      ⟨kept ++ renewed artifacts skips, interfaces⟩ := by
  rw [rebuilt.next, none, List.append_nil, rebuilt.renewed_eq none, implements]

/-- A new default constructor stays, and the next one gives way to it. -/
theorem Rebuilt.with_constructor (rebuilt : Rebuilt artifacts kept false)
    (named : artifacts.className ≠ "describeContents") (given : defaultConstructors artifacts ≠ []) :
    Rebuilt artifacts (kept ++ defaultConstructors artifacts) true := by
  have constructor : (kept ++ defaultConstructors artifacts).any artifacts.constructs = true := by
    obtain ⟨member, present⟩ := List.exists_mem_of_ne_nil _ given
    refine List.any_eq_true.mpr ⟨member, List.mem_append_right _ present, ?_⟩
    obtain ⟨text, _, rfl⟩ := List.mem_map.mp present
    exact beq_self_eq_true _
  refine ⟨?_, fun _ => constructor, fun other => absurd other named⟩
  rw [unreplaced_append, rebuilt.stays, unreplaced_defaultConstructors named]

theorem renewed_perm (named : artifacts.className ≠ "describeContents") :
    (defaultConstructors artifacts ++ renewed artifacts true).Perm (renewed artifacts false) := by
  obtain ⟨front, back, all, skipped⟩ := exists_renewed_split named
  rw [all, skipped, ← List.append_assoc, ← List.append_assoc]
  exact List.perm_append_comm.append_right back

/-- The second round is the last that changes anything, and it only moves members. -/
theorem Rebuilt.settles (rebuilt : Rebuilt artifacts kept skips)
    (implements : parcelableInterfaces interfaces = interfaces) :
    ∃ later : Snapshot, parcelMerged ⟨kept ++ renewed artifacts skips, interfaces⟩ artifacts
        ⟨kept ++ renewed artifacts skips, interfaces⟩ = later ∧
      parcelMerged later artifacts later = later ∧
      later.members.Perm (kept ++ renewed artifacts skips) ∧ later.interfaces = interfaces ∧
      (unreplaced artifacts (renewed artifacts skips) = [] →
        later = ⟨kept ++ renewed artifacts skips, interfaces⟩) := by
  by_cases none : unreplaced artifacts (renewed artifacts skips) = []
  · have stable := rebuilt.stable none implements
    exact ⟨_, stable, stable, .refl _, rfl, fun _ => rfl⟩
  · have named : artifacts.className ≠ "describeContents" :=
      fun named => none (unreplaced_renewed_of_describeContents named)
    cases skips with
    | true => exact absurd (unreplaced_renewed_true artifacts) none
    | false =>
      rw [unreplaced_renewed_false named] at none
      have next := rebuilt.with_constructor named none
      have round := rebuilt.next interfaces
      rw [unreplaced_renewed_false named, next.skipped rfl, implements] at round
      -- From here on the default constructor is among the members that stay.
      refine ⟨_, round, next.stable (unreplaced_renewed_true artifacts) implements, ?_, rfl, ?_⟩
      · rw [List.append_assoc]
        exact (renewed_perm named).append_left kept
      · intro same
        exact absurd (unreplaced_renewed_false named ▸ same) none

end Renewed

section Constructors
variable {note : String} {snapshot : Snapshot} {artifacts : Schema.Artifacts}
  {parcel : Parcel.Artifacts}

/-- Merging schema members keeps every constructor that stays, and may add some. -/
theorem any_constructs_schemaMerged (note : String) (artifacts : Schema.Artifacts)
    (parcel : Parcel.Artifacts) (snapshot : Snapshot) :
    (unreplaced parcel (schemaMerged note artifacts snapshot).members).any parcel.constructs =
      (keepsConstructor snapshot parcel || (unreplaced parcel
        ((schemaInsertions note snapshot artifacts).map Insertion.toMember)).any parcel.constructs) := by
  have same := ((schemaMerged_members note artifacts snapshot).filter fun member =>
    !parcel.replacedMembers.contains member.key).any_eq (f := parcel.constructs)
  rw [List.filter_append, List.any_append] at same
  rw [keepsConstructor_eq]
  exact same

/-- No schema member is a constructor, unless the class is named like one of the two methods. -/
theorem not_constructs_of_inserted (notCursor : parcel.className ≠ "createFromCursor")
    (notValues : parcel.className ≠ "getDbContentValues")
    (inserted : insertion ∈ schemaInsertions note snapshot artifacts) :
    parcel.constructs insertion.toMember = false := by
  have key := schemaInsertions_key inserted
  rw [← Insertion.toMember_key] at key
  cases member : insertion.toMember with
  | field declaration => rfl
  | method m =>
    have among := Schema.Artifacts.method_mem_memberKeys (member ▸ key)
    simp only [Parcel.Artifacts.constructs, beq_eq_false_iff_ne]
    intro named
    simp [named, Schema.memberKeys, Schema.fullProjectionKey, Schema.createTableKey,
      Schema.cursorDeserializerKey, Schema.contentValuesKey, notCursor, notValues] at among

theorem any_constructs_of_named (notCursor : parcel.className ≠ "createFromCursor")
    (notValues : parcel.className ≠ "getDbContentValues") :
    (unreplaced parcel (schemaMerged note artifacts snapshot).members).any parcel.constructs =
      keepsConstructor snapshot parcel := by
  rw [any_constructs_schemaMerged, Bool.or_eq_left_iff_imp]
  intro found
  obtain ⟨member, present, constructs⟩ := List.any_eq_true.mp found
  obtain ⟨insertion, inserted, rfl⟩ := List.mem_map.mp (List.mem_filter.mp present).1
  rw [not_constructs_of_inserted notCursor notValues inserted] at constructs
  cases constructs

end Constructors

end Merge
end Boilerplate
