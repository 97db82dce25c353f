import Boilerplate.Proofs.Generator
import Boilerplate.Proofs.Strategy.Resolution

/-! When generation fails, and with what. The schema half fails on the faults of the class alone. The
parcel half fails on them as well, and else on all fields that no strategy claims, together. -/
namespace Boilerplate

/-- The failure of a field that no strategy claims. -/
def Field.unsupported (field : Field) : UnsupportedType := ⟨field.declaredType, some field.name⟩

namespace Resolver
variable {r : Resolver} {field : Field}

/-- The field's type reads, and a strategy in the order claims it. -/
def supports (r : Resolver) (field : Field) : Bool :=
  match JavaType.parse field.declaredType with
  | .ok type => r.order.any fun strategy => strategy.claims r.registry type
  | .error _ => false

theorem isSome_strategy? (r : Resolver) (type : JavaType) :
    (r.strategy? type).isSome = r.order.any fun strategy => strategy.claims r.registry type := by
  exact List.isSome_find?

theorem resolveField_eq (r : Resolver) (field : Field) : r.resolveField field =
    match JavaType.parse field.declaredType with
    | .ok type => match r.strategy? type with
      | some strategy => .ok ⟨strategy, type⟩
      | none => .error field.unsupported
    | .error _ => .error field.unsupported := by
  unfold resolveField resolution Field.type
  cases JavaType.parse field.declaredType with
  | error cause => rfl
  | ok type =>
    rw [mapError_eq_ok_iff.mpr rfl]
    dsimp only
    cases r.strategy? type <;> rfl

theorem exists_resolveField_iff :
    (∃ resolved, r.resolveField field = .ok resolved) ↔ r.supports field = true := by
  rw [resolveField_eq, supports]
  cases JavaType.parse field.declaredType with
  | error cause => simp
  | ok type =>
    dsimp only
    rw [← isSome_strategy?]
    cases r.strategy? type <;> simp

theorem resolveField_eq_error_iff {failure : UnsupportedType} :
    r.resolveField field = .error failure ↔
      r.supports field = false ∧ failure = field.unsupported := by
  rw [resolveField_eq, supports]
  cases JavaType.parse field.declaredType with
  | error cause => simp [eq_comm]
  | ok type =>
    dsimp only
    rw [← isSome_strategy?]
    cases r.strategy? type <;> simp [eq_comm]

/-- Asking for a declared type is asking for a field of that type. -/
theorem resolve_toOption (r : Resolver) (field : Field) :
    (r.resolve field.declaredType).toOption =
      (r.resolveField field).toOption.map Resolved.strategy := by
  rw [resolveField_eq]
  unfold resolve resolution
  cases JavaType.parse field.declaredType with
  | error cause => rfl
  | ok type =>
    dsimp only
    cases r.strategy? type <;> rfl

end Resolver

namespace Generator
variable {g : Generator} {c : DataClass}

theorem schemaArtifacts_eq_error_iff {error : GenerateError} :
    g.schemaArtifacts c = .error error ↔
      ∃ cause, c.validate = .error cause ∧ error = .invalidClass cause := by
  cases valid : c.validate with
  | error cause =>
    have failed : g.schemaArtifacts c = .error (.invalidClass cause) := by
      rw [schemaArtifacts, valid]
      rfl
    simp [failed, eq_comm]
  | ok _ =>
    obtain ⟨artifacts, made⟩ := schemaArtifacts_ok (g := g) valid
    simp [made]

/-- The fields that no strategy claims, in declaration order. -/
def unclaimed (g : Generator) (c : DataClass) : List Field :=
  c.fields.filter fun field => !g.resolver.supports field

theorem failures_eq (g : Generator) (c : DataClass) :
    g.failures c = (g.unclaimed c).map Field.unsupported := by
  unfold failures fieldOutcomes unclaimed
  induction c.fields with
  | nil => rfl
  | cons field more ih =>
    rw [List.map_cons, List.filter_cons]
    cases supported : g.resolver.supports field with
    | false =>
      have failed := Resolver.resolveField_eq_error_iff.mpr ⟨supported, rfl⟩
      rw [failed]
      exact congrArg (field.unsupported :: ·) ih
    | true =>
      obtain ⟨resolved, success⟩ := Resolver.exists_resolveField_iff.mpr supported
      rw [success]
      exact ih

theorem unclaimed_eq_nil_iff : g.unclaimed c = [] ↔
    ∀ field ∈ c.fields, ∃ resolved, g.resolver.resolveField field = .ok resolved := by
  simp [unclaimed, List.filter_eq_nil_iff, Resolver.exists_resolveField_iff]

theorem parcelableArtifacts_eq_error_iff {error : GenerateError} :
    g.parcelableArtifacts c = .error error ↔
      (∃ cause, c.validate = .error cause ∧ error = .invalidClass cause) ∨
        c.validate = .ok () ∧ g.unclaimed c ≠ [] ∧
          error = .unsupportedTypes ((g.unclaimed c).map Field.unsupported) := by
  unfold parcelableArtifacts
  rw [failures_eq]
  cases c.validate with
  | error cause =>
    constructor
    · intro failed
      cases failed
      exact .inl ⟨cause, rfl, rfl⟩
    · rintro (⟨_, same, rfl⟩ | ⟨none, _⟩)
      · cases same
        rfl
      · cases none
  | ok _ =>
    cases g.unclaimed c with
    | nil => simp
    | cons field more =>
      dsimp only [List.map_cons]
      constructor
      · intro failed
        cases failed
        exact .inr ⟨rfl, List.cons_ne_nil _ _, rfl⟩
      · rintro (⟨_, none, _⟩ | ⟨_, _, rfl⟩)
        · cases none
        · rfl

theorem exists_parcelableArtifacts_iff : (∃ artifacts, g.parcelableArtifacts c = .ok artifacts) ↔
    c.validate = .ok () ∧
      ∀ field ∈ c.fields, ∃ resolved, g.resolver.resolveField field = .ok resolved := by
  constructor
  · rintro ⟨artifacts, made⟩
    refine ⟨(parcelableArtifacts_sound made).1, unclaimed_eq_nil_iff.mp ?_⟩
    have none := failures_of_parcelableArtifacts made
    rwa [failures_eq, List.map_eq_nil_iff] at none
  · rintro ⟨valid, resolves⟩
    exact ⟨_, parcelableArtifacts_ok valid resolves⟩

/-- What stops the schema half stops the parcel half too, so the parcel half alone decides. -/
theorem generate_all_eq_error_iff {error : GenerateError} :
    g.generate c .all = .error error ↔ g.parcelableArtifacts c = .error error := by
  cases valid : c.validate with
  | error cause =>
    have schema : g.schemaArtifacts c = .error (.invalidClass cause) :=
      schemaArtifacts_eq_error_iff.mpr ⟨cause, valid, rfl⟩
    have parcelable : g.parcelableArtifacts c = .error (.invalidClass cause) :=
      parcelableArtifacts_eq_error_iff.mpr (.inl ⟨cause, valid, rfl⟩)
    have generated : g.generate c .all = .error (.invalidClass cause) := by
      rw [generate_eq, schema]
      rfl
    simp only [generated, parcelable, Except.error.injEq]
  | ok _ =>
    obtain ⟨artifacts, schema⟩ := schemaArtifacts_ok (g := g) valid
    cases parcelable : g.parcelableArtifacts c with
    | error cause =>
      have generated : g.generate c .all = .error cause := by
        rw [generate_eq, schema, parcelable]
        rfl
      simp only [generated, Except.error.injEq]
    | ok parcel => simp [generate_all schema parcelable]

theorem report_eq (g : Generator) (c : DataClass) :
    g.report c = c.fields.map fun field =>
      ⟨field.name, field.declaredType, (g.resolver.resolve field.declaredType).toOption⟩ := by
  unfold report
  simp only [Resolver.resolve_toOption]

/-- Generation fails when it should and with the fault there is, for accepted classes and others. -/
theorem generation_outcome (g : Generator) (c : DataClass) :
    ((∃ artifacts, g.schemaArtifacts c = .ok artifacts) ↔ c.validate = .ok ()) ∧
    (∀ error, g.schemaArtifacts c = .error error ↔
      ∃ cause, c.validate = .error cause ∧ error = .invalidClass cause) ∧
    (∀ resolver : Resolver,
      schemaArtifacts ⟨resolver, g.options⟩ c = g.schemaArtifacts c) ∧
    ((∃ artifacts, g.parcelableArtifacts c = .ok artifacts) ↔ c.validate = .ok () ∧
      ∀ field ∈ c.fields, ∃ resolved, g.resolver.resolveField field = .ok resolved) ∧
    (∀ error, g.parcelableArtifacts c = .error error ↔
      (∃ cause, c.validate = .error cause ∧ error = .invalidClass cause) ∨
        c.validate = .ok () ∧ g.unclaimed c ≠ [] ∧
          error = .unsupportedTypes ((g.unclaimed c).map Field.unsupported)) ∧
    (g.report c = c.fields.map fun field =>
      ⟨field.name, field.declaredType, (g.resolver.resolve field.declaredType).toOption⟩) ∧
    (∀ field, (g.resolver.resolve field.declaredType).toOption.isSome = true ↔
      ∃ resolved, g.resolver.resolveField field = .ok resolved) ∧
    ∀ error, g.generate c .all = .error error ↔ g.parcelableArtifacts c = .error error := by
  refine ⟨?_, fun _ => schemaArtifacts_eq_error_iff, fun _ => rfl, exists_parcelableArtifacts_iff,
    fun _ => parcelableArtifacts_eq_error_iff, report_eq g c, ?_, fun _ => generate_all_eq_error_iff⟩
  · constructor
    · rintro ⟨artifacts, made⟩
      exact (schemaArtifacts_eq_ok_iff.mp made).1
    · exact schemaArtifacts_ok
  · intro field
    rw [Resolver.resolve_toOption, Option.isSome_map]
    cases g.resolver.resolveField field <;> simp [Except.toOption]

end Generator
end Boilerplate
