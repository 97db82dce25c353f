import Boilerplate.Generator
import Boilerplate.Proofs.DataClass.Validation
import Boilerplate.Proofs.Schema.Keys

/-! What generation gives when it succeeds: the wanted halves, both for an accepted class. The schema
half never fails on one. -/
namespace Boilerplate.Generator

variable {g : Generator} {c : DataClass}

theorem schemaArtifacts_eq_ok_iff {artifacts : Schema.Artifacts} :
    g.schemaArtifacts c = .ok artifacts ↔ c.validate = .ok () ∧
      ∃ fields, c.typedFields = .ok fields ∧ Schema.artifacts g.options c fields = artifacts := by
  rw [schemaArtifacts, mapError_eq_ok_iff, bind_eq_ok_iff]
  constructor
  · rintro ⟨_, valid, made⟩
    obtain ⟨fields, typed, same⟩ := bind_eq_ok_iff.mp made
    exact ⟨valid, fields, typed, Except.ok.inj same⟩
  · rintro ⟨valid, fields, typed, rfl⟩
    exact ⟨(), valid, bind_eq_ok_iff.mpr ⟨fields, typed, rfl⟩⟩

theorem schemaArtifacts_ok (valid : c.validate = .ok ()) :
    ∃ artifacts, g.schemaArtifacts c = .ok artifacts := by
  obtain ⟨fields, typed⟩ := DataClass.typedFields_ok valid
  exact ⟨_, schemaArtifacts_eq_ok_iff.mpr ⟨valid, fields, typed, rfl⟩⟩

theorem schemaArtifacts_constants {artifacts : Schema.Artifacts}
    (made : g.schemaArtifacts c = .ok artifacts) : artifacts.constants = Schema.constants c := by
  obtain ⟨_, _, _, rfl⟩ := schemaArtifacts_eq_ok_iff.mp made
  rfl

theorem schemaArtifacts_keys {artifacts : Schema.Artifacts}
    (made : g.schemaArtifacts c = .ok artifacts) :
    artifacts.keys = (Schema.constants c).map Constant.key ++ Schema.memberKeys := by
  rw [Schema.Artifacts.keys, schemaArtifacts_constants made, Schema.Artifacts.members_keys]

theorem schemaArtifacts_keys_nodup {artifacts : Schema.Artifacts}
    (made : g.schemaArtifacts c = .ok artifacts) : artifacts.keys.Nodup := by
  rw [schemaArtifacts_keys made]
  exact Schema.keys_nodup (schemaArtifacts_eq_ok_iff.mp made).1

/-- No Parcelable members, of whatever class, replace a schema member. -/
theorem schemaArtifacts_keys_not_replaced {artifacts : Schema.Artifacts}
    (made : g.schemaArtifacts c = .ok artifacts) (parcel : Parcel.Artifacts) :
    ∀ key ∈ artifacts.keys, key ∉ parcel.replacedMembers := by
  intro key member
  rw [schemaArtifacts_keys made] at member
  rcases List.mem_append.mp member with constant | other
  · obtain ⟨declared, among, rfl⟩ := List.mem_map.mp constant
    exact parcel.fieldKey_not_replaced (Schema.identifier_of_mem_constants among).ne_creator
  · exact parcel.memberKey_not_replaced other

theorem prefix_append {word : List Char} (front rest : String) (start : word <+: front.toList) :
    word <+: (front ++ rest).toList := by
  rw [String.toList_append]
  exact start.trans (List.prefix_append _ _)

/-- No generated text begins like a comment. -/
theorem schemaArtifacts_text {artifacts : Schema.Artifacts}
    (made : g.schemaArtifacts c = .ok artifacts) (member : generated ∈ artifacts.members) :
    ['p'] <+: generated.text.toList := by
  obtain ⟨_, fields, _, rfl⟩ := schemaArtifacts_eq_ok_iff.mp made
  simp only [Schema.Artifacts.members, List.mem_cons, List.not_mem_nil, or_false] at member
  rcases member with rfl | rfl | rfl | rfl
  · exact prefix_append _ _ (prefix_append _ _ (by decide))
  · exact prefix_append _ _ (prefix_append _ _ (by decide))
  · refine prefix_append _ _ (prefix_append _ _ (prefix_append _ _ (prefix_append _ _ ?_)))
    exact prefix_append _ _ (by decide)
  · exact prefix_append _ _ (prefix_append _ _ (prefix_append _ _ (by decide)))

/-- The method for the content values is no constructor, even of a class with its name. -/
theorem schemaArtifacts_text_ne_defaultConstructor {artifacts : Schema.Artifacts}
    (made : g.schemaArtifacts c = .ok artifacts) (member : generated ∈ artifacts.members)
    (key : generated.key = Schema.contentValuesKey) :
    generated.text ≠ Parcel.defaultConstructor "getDbContentValues" := by
  obtain ⟨_, fields, _, rfl⟩ := schemaArtifacts_eq_ok_iff.mp made
  simp only [Schema.Artifacts.members, List.mem_cons, List.not_mem_nil, or_false] at member
  have start (entries : List Schema.ContentEntry) :
      "public a".toList <+: (Schema.contentValues entries).toList :=
    prefix_append _ _ (prefix_append _ _ (prefix_append _ _ (by decide)))
  rcases member with rfl | rfl | rfl | rfl
  · cases key
  · cases key
  · simp [Schema.cursorDeserializerKey, Schema.contentValuesKey] at key
  · intro same
    have both := start (fields.map Schema.ContentEntry.ofField)
    rw [show Schema.contentValues _ = _ from same] at both
    exact absurd both (by decide)

theorem parcelableArtifacts_sound {artifacts : Parcel.Artifacts}
    (made : g.parcelableArtifacts c = .ok artifacts) :
    c.validate = .ok () ∧ artifacts = Parcel.artifacts c (g.resolvedFields c) := by
  unfold parcelableArtifacts at made
  split at made
  · cases made
  · rename_i valid
    split at made
    · exact ⟨valid, (Except.ok.inj made).symm⟩
    · cases made

theorem failures_eq_nil
    (resolves : ∀ field ∈ c.fields, ∃ resolved, g.resolver.resolveField field = .ok resolved) :
    g.failures c = [] := by
  refine List.filterMap_eq_nil_iff.mpr fun outcome member => ?_
  obtain ⟨field, declared, rfl⟩ := List.mem_map.mp member
  obtain ⟨resolved, success⟩ := resolves field declared
  rw [success]
  rfl

theorem failures_of_parcelableArtifacts {artifacts : Parcel.Artifacts}
    (made : g.parcelableArtifacts c = .ok artifacts) : g.failures c = [] := by
  unfold parcelableArtifacts at made
  split at made
  · cases made
  · split at made
    · assumption
    · cases made

theorem resolveField_of_mem {f : Parcel.ResolvedField} (member : f ∈ g.resolvedFields c) :
    f.field ∈ c.fields ∧ g.resolver.resolveField f.field = .ok f.resolved := by
  obtain ⟨outcome, among, success⟩ := List.mem_filterMap.mp member
  obtain ⟨field, declared, rfl⟩ := List.mem_map.mp among
  cases found : g.resolver.resolveField field with
  | error failure =>
    rw [found] at success
    cases success
  | ok resolved =>
    rw [found] at success
    cases success
    exact ⟨declared, found⟩

/-- Without failures every field is resolved, in its place. -/
theorem resolvedFields_fields (none : g.failures c = []) :
    (g.resolvedFields c).map Parcel.ResolvedField.field = c.fields := by
  unfold failures fieldOutcomes at none
  unfold resolvedFields fieldOutcomes
  generalize c.fields = fields at none
  induction fields with
  | nil => rfl
  | cons field more ih =>
    rw [List.map_cons] at none ⊢
    cases found : g.resolver.resolveField field with
    | error failure =>
      rw [found] at none
      cases none
    | ok resolved =>
      rw [found] at none
      exact congrArg (field :: ·) (ih none)

/-- A class whose fields all have a strategy gets its Parcelable members. -/
theorem parcelableArtifacts_ok (valid : c.validate = .ok ())
    (resolves : ∀ field ∈ c.fields, ∃ resolved, g.resolver.resolveField field = .ok resolved) :
    g.parcelableArtifacts c = .ok (Parcel.artifacts c (g.resolvedFields c)) := by
  simp only [parcelableArtifacts, valid, failures_eq_nil resolves]

def half {α : Type} (wanted : Bool) (made : Except GenerateError α) :
    Except GenerateError (Option α) :=
  if wanted then some <$> made else pure none

theorem half_eq_ok_iff {α : Type} {wanted : Bool} {made : Except GenerateError α} {result : Option α} :
    half wanted made = .ok result ↔
      (wanted = true ∧ ∃ artifacts, made = .ok artifacts ∧ result = some artifacts) ∨
        (wanted = false ∧ result = none) := by
  cases wanted with
  | false => simp [half, pure, Except.pure, eq_comm]
  | true => cases made <;> simp [half, Functor.map, Except.map, eq_comm]

theorem eq_ok_of_half {α : Type} {wanted : Bool} {made : Except GenerateError α} {artifacts : α}
    (present : half wanted made = .ok (some artifacts)) : made = .ok artifacts := by
  rcases half_eq_ok_iff.mp present with ⟨_, _, success, same⟩ | ⟨_, none⟩
  · cases same
    exact success
  · cases none

theorem generate_eq (g : Generator) (c : DataClass) (kind : ArtifactKind) :
    g.generate c kind = (do
      let schema ← half kind.wantsSchema (g.schemaArtifacts c)
      let parcelable ← half kind.wantsParcelable (g.parcelableArtifacts c)
      return ⟨schema, parcelable⟩) := by
  unfold generate half
  cases kind.wantsSchema <;> cases kind.wantsParcelable <;> rfl

theorem generate_eq_ok_iff {kind : ArtifactKind} {set : ArtifactSet} :
    g.generate c kind = .ok set ↔ half kind.wantsSchema (g.schemaArtifacts c) = .ok set.schema ∧
      half kind.wantsParcelable (g.parcelableArtifacts c) = .ok set.parcelable := by
  rw [generate_eq, bind_eq_ok_iff]
  constructor
  · rintro ⟨schema, first, rest⟩
    obtain ⟨parcelable, second, same⟩ := bind_eq_ok_iff.mp rest
    cases Except.ok.inj same
    exact ⟨first, second⟩
  · rintro ⟨first, second⟩
    exact ⟨set.schema, first, bind_eq_ok_iff.mpr ⟨set.parcelable, second, rfl⟩⟩

theorem generate_sound {kind : ArtifactKind} {set : ArtifactSet}
    (generated : g.generate c kind = .ok set) :
    (∀ artifacts, set.schema = some artifacts → g.schemaArtifacts c = .ok artifacts) ∧
      ∀ artifacts, set.parcelable = some artifacts → g.parcelableArtifacts c = .ok artifacts := by
  obtain ⟨first, second⟩ := generate_eq_ok_iff.mp generated
  exact ⟨fun _ present => eq_ok_of_half (present ▸ first),
    fun _ present => eq_ok_of_half (present ▸ second)⟩

theorem exists_of_half {α : Type} {wanted : Bool} {made : Except GenerateError α} {result : Option α}
    (asked : wanted = true) (halved : half wanted made = .ok result) :
    ∃ artifacts, result = some artifacts ∧ made = .ok artifacts := by
  rcases half_eq_ok_iff.mp halved with ⟨_, artifacts, success, same⟩ | ⟨none, _⟩
  · exact ⟨artifacts, same, success⟩
  · rw [asked] at none
    cases none

theorem generate_wanted {kind : ArtifactKind} {set : ArtifactSet} (wanted : kind.wantsSchema = true)
    (generated : g.generate c kind = .ok set) :
    ∃ artifacts, set.schema = some artifacts ∧ g.schemaArtifacts c = .ok artifacts :=
  exists_of_half wanted (generate_eq_ok_iff.mp generated).1

theorem generate_wanted_parcelable {kind : ArtifactKind} {set : ArtifactSet}
    (wanted : kind.wantsParcelable = true) (generated : g.generate c kind = .ok set) :
    ∃ parcel, set.parcelable = some parcel ∧ g.parcelableArtifacts c = .ok parcel :=
  exists_of_half wanted (generate_eq_ok_iff.mp generated).2

theorem generate_schema (valid : c.validate = .ok ()) :
    ∃ artifacts, g.schemaArtifacts c = .ok artifacts ∧
      g.generate c .schema = .ok ⟨some artifacts, none⟩ := by
  obtain ⟨artifacts, made⟩ := schemaArtifacts_ok (g := g) valid
  refine ⟨artifacts, made, generate_eq_ok_iff.mpr ⟨?_, ?_⟩⟩
  · exact half_eq_ok_iff.mpr (.inl ⟨rfl, artifacts, made, rfl⟩)
  · exact half_eq_ok_iff.mpr (.inr ⟨rfl, rfl⟩)

theorem generate_parcelable {parcel : Parcel.Artifacts}
    (made : g.parcelableArtifacts c = .ok parcel) :
    g.generate c .parcelable = .ok ⟨none, some parcel⟩ := by
  refine generate_eq_ok_iff.mpr ⟨?_, ?_⟩
  · exact half_eq_ok_iff.mpr (.inr ⟨rfl, rfl⟩)
  · exact half_eq_ok_iff.mpr (.inl ⟨rfl, parcel, made, rfl⟩)

theorem generate_all {artifacts : Schema.Artifacts} {parcel : Parcel.Artifacts}
    (schema : g.schemaArtifacts c = .ok artifacts) (parcelable : g.parcelableArtifacts c = .ok parcel) :
    g.generate c .all = .ok ⟨some artifacts, some parcel⟩ := by
  refine generate_eq_ok_iff.mpr ⟨?_, ?_⟩
  · exact half_eq_ok_iff.mpr (.inl ⟨rfl, artifacts, schema, rfl⟩)
  · exact half_eq_ok_iff.mpr (.inl ⟨rfl, parcel, parcelable, rfl⟩)

/-- Whatever is wanted of a class whose fields all have a strategy is generated. -/
theorem generate_ok (valid : c.validate = .ok ())
    (resolves : ∀ field ∈ c.fields, ∃ resolved, g.resolver.resolveField field = .ok resolved)
    (kind : ArtifactKind) : ∃ set, g.generate c kind = .ok set := by
  obtain ⟨artifacts, schema⟩ := schemaArtifacts_ok (g := g) valid
  have parcelable := parcelableArtifacts_ok valid resolves
  cases kind with
  | schema =>
    obtain ⟨_, _, generated⟩ := generate_schema (g := g) valid
    exact ⟨_, generated⟩
  | parcelable => exact ⟨_, generate_parcelable parcelable⟩
  | all => exact ⟨_, generate_all schema parcelable⟩

end Boilerplate.Generator
