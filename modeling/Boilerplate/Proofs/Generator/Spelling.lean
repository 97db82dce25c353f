import Boilerplate.Proofs.Generator.Failure
import Boilerplate.Proofs.JavaType.RoundTrip
import Mathlib.Data.List.Basic

/-! The spelling of types does not matter. A class whose types are written in their canonical form
gets the same artifacts as the class as it was written: simple names, wildcards and blanks leave no
trace, at whatever depth of a type they stand. -/
namespace Boilerplate

namespace Field

/-- The field with its type in canonical form. A type that does not read stays as it is. -/
def respelled (field : Field) : Field :=
  match field.type with
  | .ok type => { field with declaredType := type.text }
  | .error _ => field

variable {field : Field}

@[simp] theorem respelled_name : field.respelled.name = field.name := by
  unfold respelled
  split <;> rfl

@[simp] theorem respelled_isPrimitive : field.respelled.isPrimitive = field.isPrimitive := by
  unfold respelled
  split <;> rfl

@[simp] theorem respelled_identifier : field.respelled.identifier = field.identifier := by
  rw [identifier, respelled_name, identifier]

theorem respelled_type : field.respelled.type = field.type := by
  unfold respelled
  split
  · rename_i type read
    have again := JavaType.parse_text_of_parse (mapError_eq_ok_iff.mp read)
    rw [read, Field.type]
    exact mapError_eq_ok_iff.mpr again
  · rfl

example : (respelled ⟨"covers", "List< ? extends Integer[] >", false⟩).declaredType =
    "java.util.List<java.lang.Integer[]>" := by decide +kernel

theorem respelled_accepted {earlier : List Field} (accepted : field.Accepted earlier) :
    field.respelled.Accepted (earlier.map respelled) := by
  refine ⟨?_, ?_, ?_, ?_⟩
  · rw [respelled_name]
    exact accepted.legal
  · intro other member
    obtain ⟨source, old, rfl⟩ := List.mem_map.mp member
    rw [respelled_name, respelled_name]
    exact accepted.new_name source old
  · intro other member
    obtain ⟨source, old, rfl⟩ := List.mem_map.mp member
    rw [respelled_identifier, respelled_identifier]
    exact accepted.new_identifier source old
  · rw [respelled_type]
    exact accepted.readable

end Field

/-- The same field and type, the field in canonical form. -/
def TypedField.respelled (typed : TypedField) : TypedField := ⟨typed.field.respelled, typed.type⟩

theorem Field.respelled_typed (field : Field) :
    field.respelled.typed = field.typed.map TypedField.respelled := by
  unfold typed
  rw [respelled_type]
  cases field.type <;> rfl

namespace DataClass

/-- The class with every type in canonical form. -/
def respelled (c : DataClass) : DataClass := { c with fields := c.fields.map Field.respelled }

theorem respelled_identifiers (c : DataClass) : c.respelled.identifiers = c.identifiers := by
  simp [identifiers, respelled]

theorem respelled_checkFields {earlier fields : List Field}
    (checked : checkFields earlier fields = .ok ()) :
    checkFields (earlier.map Field.respelled) (fields.map Field.respelled) = .ok () := by
  induction fields generalizing earlier with
  | nil => rfl
  | cons field rest ih =>
    obtain ⟨accepted, others⟩ := checkFields_cons_eq_ok_iff.mp checked
    have later := ih others
    rw [List.map_append] at later
    exact checkFields_cons_eq_ok_iff.mpr ⟨Field.respelled_accepted accepted, later⟩

theorem respelled_validate {c : DataClass} (valid : c.validate = .ok ()) :
    c.respelled.validate = .ok () := by
  have fields := respelled_checkFields (checkFields_of_validate valid)
  unfold validate at valid ⊢
  change (if (Text.trim c.name).isEmpty then _ else if !Identifier.isLegal c.name then _ else
    checkFields [] (c.fields.map Field.respelled)) = _
  split at valid
  · cases valid
  · split at valid
    · cases valid
    · simp_all

theorem respelled_typedFields (c : DataClass) :
    c.respelled.typedFields = c.typedFields.map (List.map TypedField.respelled) := by
  unfold typedFields respelled
  dsimp only
  induction c.fields with
  | nil => rfl
  | cons field more ih =>
    rw [List.map_cons, List.mapM_cons, List.mapM_cons, Field.respelled_typed, ih]
    cases field.typed with
    | error cause => rfl
    | ok typed => cases more.mapM Field.typed <;> rfl

end DataClass

namespace TypedField
variable (typed : TypedField)

theorem respelled_column :
    Schema.Column.ofField typed.respelled = Schema.Column.ofField typed := by
  simp only [Schema.Column.ofField, respelled, Field.respelled_identifier]

theorem respelled_branch :
    Schema.CursorBranch.ofField typed.respelled = Schema.CursorBranch.ofField typed := by
  simp only [Schema.CursorBranch.ofField, respelled, Field.respelled_identifier,
    Field.respelled_name]

theorem respelled_entry :
    Schema.ContentEntry.ofField typed.respelled = Schema.ContentEntry.ofField typed := by
  simp only [Schema.ContentEntry.ofField, respelled, Field.respelled_identifier,
    Field.respelled_name, Field.respelled_isPrimitive]

end TypedField

/-- No schema artifact looks at how a type is written. -/
theorem Schema.artifacts_respelled (options : Options) (c : DataClass) (fields : List TypedField) :
    Schema.artifacts options c.respelled (fields.map TypedField.respelled) =
      Schema.artifacts options c fields := by
  have constants : Schema.constants c.respelled = Schema.constants c := by
    simp [Schema.constants, DataClass.respelled, Schema.tableConstant, Schema.fieldConstant]
  have columns := List.map_congr_left fun typed (_ : typed ∈ fields) => typed.respelled_column
  have branches := List.map_congr_left fun typed (_ : typed ∈ fields) => typed.respelled_branch
  have entries := List.map_congr_left fun typed (_ : typed ∈ fields) => typed.respelled_entry
  simp only [Schema.artifacts, constants, DataClass.respelled_identifiers, List.map_map,
    Function.comp_def, columns, branches, entries]

namespace Parcel

def ResolvedField.respelled (f : ResolvedField) : ResolvedField := ⟨f.field.respelled, f.resolved⟩

theorem ResolvedField.respelled_write (f : ResolvedField) : f.respelled.write = f.write := by
  simp only [respelled, ResolvedField.write, Resolved.write, Transfer.write, Field.respelled_name]

theorem ResolvedField.respelled_read (f : ResolvedField) : f.respelled.read = f.read := by
  simp only [respelled, ResolvedField.read, Resolved.read, Transfer.read, Field.respelled_name]

/-- Nor does a Parcelable member. -/
theorem artifacts_respelled (c : DataClass) (fields : List ResolvedField) :
    Parcel.artifacts c.respelled (fields.map ResolvedField.respelled) =
      Parcel.artifacts c fields := by
  have writes : writeStatements (fields.map ResolvedField.respelled) = writeStatements fields := by
    rw [writeStatements, List.map_map]
    exact List.map_congr_left fun f _ => f.respelled_write
  have reads : readStatements (fields.map ResolvedField.respelled) = readStatements fields := by
    rw [readStatements, List.flatMap_map]
    exact List.flatMap_congr fun f _ => f.respelled_read
  unfold Parcel.artifacts writeToParcel parcelConstructor
  rw [writes, reads]
  rfl

end Parcel

namespace Resolver

/-- A field's type is claimed in either spelling, or in neither. -/
theorem resolveField_respelled (r : Resolver) (field : Field) :
    (r.resolveField field.respelled).toOption = (r.resolveField field).toOption := by
  unfold resolveField
  rw [Field.respelled_type]
  cases (r.resolution field.type).resolved? <;> rfl

theorem supports_respelled (r : Resolver) (field : Field) :
    r.supports field.respelled = r.supports field := by
  have accepts {field : Field} :
      r.supports field = true ↔ (r.resolveField field).toOption.isSome = true := by
    rw [← exists_resolveField_iff]
    cases r.resolveField field <;> simp [Except.toOption]
  rw [Bool.eq_iff_iff, accepts, accepts, resolveField_respelled]

end Resolver

/-- A class with loosely written types. -/
def DataClass.album : DataClass :=
  ⟨"Album", [⟨"released", " Date ", false⟩,
    ⟨"covers", "List< ? extends Integer[] >", false⟩, ⟨"prices", "Map<String , ?>", false⟩], false⟩

theorem DataClass.album_valid : album.validate = .ok () := by rfl

namespace Generator
variable {g : Generator} {c : DataClass}

theorem unclaimed_respelled (g : Generator) (c : DataClass) :
    g.unclaimed c.respelled = (g.unclaimed c).map Field.respelled := by
  simp [unclaimed, DataClass.respelled, List.filter_map, Function.comp_def,
    Resolver.supports_respelled]

theorem resolvedFields_respelled (g : Generator) (c : DataClass) :
    g.resolvedFields c.respelled = (g.resolvedFields c).map Parcel.ResolvedField.respelled := by
  unfold resolvedFields fieldOutcomes DataClass.respelled
  dsimp only
  induction c.fields with
  | nil => rfl
  | cons field more ih =>
    have same := g.resolver.resolveField_respelled field
    rw [List.map_cons, List.map_cons, List.map_cons, List.filterMap_cons, List.filterMap_cons, ih]
    cases mine : g.resolver.resolveField field <;>
      cases theirs : g.resolver.resolveField field.respelled <;>
        rw [mine, theirs] at same <;> cases same <;> rfl

theorem schemaArtifacts_respelled (valid : c.validate = .ok ()) :
    g.schemaArtifacts c.respelled = g.schemaArtifacts c := by
  obtain ⟨fields, typed⟩ := DataClass.typedFields_ok valid
  have again : c.respelled.typedFields = .ok (fields.map TypedField.respelled) := by
    rw [DataClass.respelled_typedFields, typed]
    rfl
  have mine := schemaArtifacts_eq_ok_iff (g := g).mpr ⟨valid, fields, typed, rfl⟩
  have theirs := schemaArtifacts_eq_ok_iff (g := g).mpr
    ⟨DataClass.respelled_validate valid, _, again, rfl⟩
  rw [mine, theirs, Schema.artifacts_respelled]

/-- Writing the types of an accepted class in canonical form changes nothing: it stays accepted, its
artifacts stay the same, and where it has no Parcelable members the same fields are to blame. -/
theorem spelling_irrelevant (g : Generator) {c : DataClass} (valid : c.validate = .ok ()) :
    c.respelled.validate = .ok () ∧
    (∃ artifacts, g.schemaArtifacts c = .ok artifacts ∧
      g.schemaArtifacts c.respelled = .ok artifacts) ∧
    ((∃ artifacts, g.parcelableArtifacts c = .ok artifacts ∧
        g.parcelableArtifacts c.respelled = .ok artifacts) ∨
      ∃ failures failuresToo, g.parcelableArtifacts c = .error (.unsupportedTypes failures) ∧
        g.parcelableArtifacts c.respelled = .error (.unsupportedTypes failuresToo) ∧
        failuresToo.map UnsupportedType.field = failures.map UnsupportedType.field) := by
  have validToo := DataClass.respelled_validate valid
  refine ⟨validToo, ?_, ?_⟩
  · obtain ⟨artifacts, made⟩ := schemaArtifacts_ok (g := g) valid
    exact ⟨artifacts, made, by rw [schemaArtifacts_respelled valid, made]⟩
  · by_cases claimed : g.unclaimed c = []
    · have resolves := unclaimed_eq_nil_iff.mp claimed
      have resolvesToo := unclaimed_eq_nil_iff.mp
        (by rw [unclaimed_respelled, claimed, List.map_nil] : g.unclaimed c.respelled = [])
      refine .inl ⟨_, parcelableArtifacts_ok valid resolves, ?_⟩
      rw [parcelableArtifacts_ok validToo resolvesToo, resolvedFields_respelled,
        Parcel.artifacts_respelled]
    · have failed := parcelableArtifacts_eq_error_iff.mpr (.inr ⟨valid, claimed, rfl⟩)
      have failedToo := parcelableArtifacts_eq_error_iff.mpr
        (.inr ⟨validToo, by simpa [unclaimed_respelled] using claimed, rfl⟩)
      refine .inr ⟨_, _, failed, failedToo, ?_⟩
      simp [unclaimed_respelled, Field.unsupported, Function.comp_def]

theorem spelling_irrelevant_album : DataClass.album.validate = .ok () ∧
    DataClass.album.respelled.validate = .ok () ∧
    (∃ artifacts, Generator.schemaArtifacts ⟨.ofRegistry .empty, .standard⟩ .album = .ok artifacts ∧
      Generator.schemaArtifacts ⟨.ofRegistry .empty, .standard⟩ DataClass.album.respelled =
        .ok artifacts) ∧
    ((∃ artifacts,
        Generator.parcelableArtifacts ⟨.ofRegistry .empty, .standard⟩ .album = .ok artifacts ∧
        Generator.parcelableArtifacts ⟨.ofRegistry .empty, .standard⟩ DataClass.album.respelled =
          .ok artifacts) ∨
      ∃ failures failuresToo,
        Generator.parcelableArtifacts ⟨.ofRegistry .empty, .standard⟩ .album =
          .error (.unsupportedTypes failures) ∧
        Generator.parcelableArtifacts ⟨.ofRegistry .empty, .standard⟩ DataClass.album.respelled =
          .error (.unsupportedTypes failuresToo) ∧
        failuresToo.map UnsupportedType.field = failures.map UnsupportedType.field) :=
  ⟨DataClass.album_valid, spelling_irrelevant _ DataClass.album_valid⟩

end Generator
end Boilerplate
