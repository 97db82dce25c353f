import Boilerplate.Parcel.Artifacts
import Boilerplate.Proofs.DataClass.Validation

/-! The keys of generated schema members. Those of one accepted class all differ, and none of them
is ever replaced, whatever the name of the class whose Parcelable members are. -/
namespace Boilerplate

/-- The identifiers that generated constants may have. -/
inductive Identifier.OfConstant : String → Prop where
  | table : OfConstant Identifier.table
  | column (name : String) : OfConstant (Identifier.ofField name)

theorem Identifier.ne_ofField {word : String}
    (other : "FIELD_".toList.isPrefixOf word.toList = false) (name : String) :
    word ≠ Identifier.ofField name := by
  rintro rfl
  have front : "FIELD_".toList <+: (ofField name).toList :=
    ⟨(upperSnake name).toList, by rw [ofField, String.toList_append]⟩
  rw [List.isPrefixOf_iff_prefix.mpr front] at other
  cases other

theorem Identifier.OfConstant.ne {identifier : String} (constant : OfConstant identifier)
    (word : String) (notTable : word ≠ Identifier.table)
    (notColumn : "FIELD_".toList.isPrefixOf word.toList = false) : identifier ≠ word := by
  cases constant with
  | table => exact notTable.symm
  | column name => exact (ne_ofField notColumn name).symm

theorem Identifier.OfConstant.ne_creator {identifier : String} (constant : OfConstant identifier) :
    identifier ≠ Identifier.creator :=
  constant.ne _ (by decide) (by decide)

def Constant.key (constant : Constant) : MemberKey := .field constant.identifier

namespace Schema

def memberKeys : List MemberKey :=
  [fullProjectionKey, createTableKey, cursorDeserializerKey, contentValuesKey]

def Artifacts.keys (artifacts : Artifacts) : List MemberKey :=
  artifacts.constants.map Constant.key ++ artifacts.members.map MemberText.key

theorem Artifacts.members_keys (artifacts : Artifacts) :
    artifacts.members.map MemberText.key = memberKeys := rfl

theorem Artifacts.method_mem_memberKeys {artifacts : Artifacts}
    (member : MemberKey.method name parameters ∈ artifacts.keys) :
    MemberKey.method name parameters ∈ memberKeys := by
  rcases List.mem_append.mp member with constant | other
  · obtain ⟨_, _, field⟩ := List.mem_map.mp constant
    cases field
  · exact other

theorem identifier_of_mem_constants {c : DataClass} (member : constant ∈ constants c) :
    Identifier.OfConstant constant.identifier := by
  rcases List.mem_cons.mp member with rfl | column
  · exact .table
  · obtain ⟨field, _, rfl⟩ := List.mem_map.mp column
    exact .column field.name

theorem constants_identifiers (c : DataClass) :
    (constants c).map Constant.identifier = Identifier.table :: c.identifiers := by
  simp [constants, DataClass.identifiers, tableConstant, fieldConstant, Function.comp_def]

theorem constants_identifiers_nodup {c : DataClass} (valid : c.validate = .ok ()) :
    ((constants c).map Constant.identifier).Nodup := by
  rw [constants_identifiers]
  refine List.nodup_cons.mpr ⟨?_, DataClass.identifiers_nodup valid⟩
  intro repeated
  obtain ⟨field, _, same⟩ := List.mem_map.mp repeated
  exact Identifier.ne_ofField (by decide) field.name same.symm

theorem memberKeys_nodup : memberKeys.Nodup := by decide

/-- No constant is declared under the key of another generated member. -/
theorem constantKey_not_mem_memberKeys {identifier : String}
    (constant : Identifier.OfConstant identifier) : MemberKey.field identifier ∉ memberKeys := by
  have projection := constant.ne Identifier.fullProjection (by decide) (by decide)
  have create := constant.ne Identifier.createTable (by decide) (by decide)
  simp [memberKeys, fullProjectionKey, createTableKey, cursorDeserializerKey, contentValuesKey,
    projection, create]

theorem keys_nodup {c : DataClass} (valid : c.validate = .ok ()) :
    ((constants c).map Constant.key ++ memberKeys).Nodup := by
  refine List.nodup_append.mpr ⟨?_, memberKeys_nodup, ?_⟩
  · have keys : (constants c).map Constant.key =
        ((constants c).map Constant.identifier).map MemberKey.field := by
      simp [Constant.key, Function.comp_def]
    rw [keys]
    exact List.pairwise_map.mpr ((constants_identifiers_nodup valid).imp fun differ same =>
      differ (MemberKey.field.inj same))
  · intro key constant _ member same
    obtain ⟨declared, present, rfl⟩ := List.mem_map.mp constant
    subst same
    exact constantKey_not_mem_memberKeys (identifier_of_mem_constants present) member

end Schema

theorem Parcel.defaultConstructor_of_artifacts {c : DataClass} {fields : List ResolvedField}
    (given : (artifacts c fields).defaultConstructor = some text) : text = defaultConstructor c.name := by
  simp only [artifacts] at given
  split at given
  · cases given
  · exact (Option.some.inj given).symm

namespace Parcel.Artifacts

theorem fieldKey_not_replaced (artifacts : Artifacts) (other : identifier ≠ Identifier.creator) :
    MemberKey.field identifier ∉ artifacts.replacedMembers := by
  simp [replacedMembers, creatorKey, parcelConstructorKey, describeContentsKey, writeToParcelKey,
    other]

theorem memberKey_not_replaced (artifacts : Artifacts) (member : key ∈ Schema.memberKeys) :
    key ∉ artifacts.replacedMembers := by
  simp only [Schema.memberKeys, List.mem_cons, List.not_mem_nil, or_false] at member
  rcases member with rfl | rfl | rfl | rfl <;>
    simp [replacedMembers, creatorKey, parcelConstructorKey, describeContentsKey,
      writeToParcelKey, Schema.fullProjectionKey, Schema.createTableKey,
      Schema.cursorDeserializerKey, Schema.contentValuesKey, Identifier.creator,
      Identifier.fullProjection, Identifier.createTable, JavaType.parcelName, JavaType.cursorName]

/-- Each new member replaces an old one, except the default constructor. -/
theorem members_cases {artifacts : Artifacts} (member : generated ∈ artifacts.members) :
    generated.key ∈ artifacts.replacedMembers ∨
      generated.key = defaultConstructorKey artifacts.className ∧
        artifacts.defaultConstructor = some generated.text := by
  simp only [members, List.mem_append, List.mem_cons, List.not_mem_nil, or_false, List.mem_map,
    Option.mem_toList] at member
  rcases member with ((rfl | rfl) | ⟨text, given, rfl⟩) | rfl | rfl
  · exact .inl (by simp [replacedMembers])
  · exact .inl (by simp [replacedMembers])
  · exact .inr ⟨rfl, given⟩
  · exact .inl (by simp [replacedMembers])
  · exact .inl (by simp [replacedMembers])

/-- The one new member that may be under the key of a schema member. -/
theorem member_of_memberKeys {artifacts : Artifacts} (member : generated ∈ artifacts.members)
    (key : generated.key ∈ Schema.memberKeys) : artifacts.className = "getDbContentValues" ∧
      generated.key = Schema.contentValuesKey ∧ artifacts.defaultConstructor = some generated.text := by
  obtain ⟨default, given⟩ :=
    (members_cases member).resolve_left (artifacts.memberKey_not_replaced key)
  rw [default] at key
  have named : artifacts.className = "getDbContentValues" := by
    simpa [defaultConstructorKey, Schema.memberKeys, Schema.fullProjectionKey, Schema.createTableKey,
      Schema.cursorDeserializerKey, Schema.contentValuesKey] using key
  exact ⟨named, by rw [default, named]; rfl, given⟩

end Parcel.Artifacts
end Boilerplate
