import Boilerplate.Parcel.Artifacts

/-! Generating the artifacts of a class. The schema half needs the class only; the parcel half needs
a strategy for every field as well, and reports all fields that have none. -/
namespace Boilerplate
open Log

structure Generator where
  resolver : Resolver
  options : Options
deriving Inhabited

inductive GenerateError where
  | invalidClass (cause : ClassError)
  | unsupportedTypes (failures : List UnsupportedType)
deriving DecidableEq, Repr

namespace GenerateError

def describeFailure (failure : UnsupportedType) : String :=
  match failure.field with
  | some field => field ++ ": " ++ failure.declaredType
  | none => failure.declaredType

def message : GenerateError → String
  | invalidClass cause => cause.message
  | unsupportedTypes failures =>
    "unsupported field types: " ++ String.intercalate ", " (failures.map describeFailure)

def unsupportedFields : GenerateError → List String
  | invalidClass _ => []
  | unsupportedTypes failures => failures.filterMap UnsupportedType.field

end GenerateError

/-- Which artifacts are wanted. -/
inductive ArtifactKind where
  | schema
  | parcelable
  | all
deriving DecidableEq, Repr, Inhabited

namespace ArtifactKind

def wantsSchema (kind : ArtifactKind) : Bool := kind != parcelable

def wantsParcelable (kind : ArtifactKind) : Bool := kind != schema

end ArtifactKind

/-- The artifacts that were wanted. -/
structure ArtifactSet where
  schema : Option Schema.Artifacts
  parcelable : Option Parcel.Artifacts
deriving DecidableEq, Repr

/-- The outcome for one field in a report on a class. -/
structure FieldReport where
  field : String
  declaredType : String
  strategy : Option Strategy
deriving DecidableEq, Repr

namespace Generator

def schemaArtifacts (g : Generator) (c : DataClass) : Except GenerateError Schema.Artifacts :=
  (do
    c.validate
    let fields ← c.typedFields
    return Schema.artifacts g.options c fields).mapError .invalidClass

/-- The outcome of each field, in order. -/
def fieldOutcomes (g : Generator) (c : DataClass) :
    List (Except UnsupportedType Parcel.ResolvedField) :=
  c.fields.map fun field => (g.resolver.resolveField field).map fun resolved => ⟨field, resolved⟩

/-- The fields that no strategy claims. -/
def failures (g : Generator) (c : DataClass) : List UnsupportedType :=
  (g.fieldOutcomes c).filterMap fun
    | .ok _ => none
    | .error failure => some failure

/-- The fields that a strategy claims. -/
def resolvedFields (g : Generator) (c : DataClass) : List Parcel.ResolvedField :=
  (g.fieldOutcomes c).filterMap Except.toOption

def parcelableArtifacts (g : Generator) (c : DataClass) : Except GenerateError Parcel.Artifacts :=
  match c.validate with
  | .error cause => .error (.invalidClass cause)
  | .ok () =>
    match g.failures c with
    | [] => .ok (Parcel.artifacts c (g.resolvedFields c))
    | failures => .error (.unsupportedTypes failures)

def report (g : Generator) (c : DataClass) : List FieldReport :=
  c.fields.map fun field =>
    ⟨field.name, field.declaredType,
      (g.resolver.resolveField field).toOption.map Resolved.strategy⟩

/-- The wanted artifacts, the schema first. -/
def generate (g : Generator) (c : DataClass) (kind : ArtifactKind) :
    Except GenerateError ArtifactSet := do
  let schema ← if kind.wantsSchema then some <$> g.schemaArtifacts c else pure none
  let parcelable ← if kind.wantsParcelable then some <$> g.parcelableArtifacts c else pure none
  return ⟨schema, parcelable⟩

def schemaEvents (g : Generator) (c : DataClass) : List Event :=
  match g.schemaArtifacts c with
  | .ok artifacts =>
    [⟨.debug, .generator, "generated schema artifacts",
      [("class", .plain c.name), ("constants", .count artifacts.constants.length)]⟩]
  | .error _ => []

def reportEvents (g : Generator) (c : DataClass) : List Event :=
  c.fields.flatMap g.resolver.resolveFieldEvents

def parcelableEvents (g : Generator) (c : DataClass) : List Event :=
  match g.parcelableArtifacts c with
  | .ok _ =>
    g.reportEvents c ++
      [⟨.debug, .generator, "generated parcelable artifacts",
        [("class", .plain c.name), ("fields", .count (g.resolvedFields c).length)]⟩]
  | .error (.unsupportedTypes failures) =>
    g.reportEvents c ++
      [⟨.warn, .generator, "parcelable generation aborted",
        [("class", .plain c.name), ("unsupported", .count failures.length)]⟩]
  | .error (.invalidClass _) => []

/-- The events up to the first failure. -/
def generateEvents (g : Generator) (c : DataClass) (kind : ArtifactKind) : List Event :=
  (if kind.wantsSchema then g.schemaEvents c else []) ++
    (if kind.wantsParcelable then g.parcelableEvents c else [])

/-- Said when both halves are made together. -/
def completionEvents (g : Generator) (c : DataClass) : List Event :=
  match g.generate c .all with
  | .ok _ =>
    [⟨.info, .generator, "generated artifacts",
      [("class", .plain c.name), ("fields", .count c.fields.length)]⟩]
  | .error _ => []

end Generator

namespace ArtifactSet

/-- Constants together, then every member, with a blank line between. -/
def text (set : ArtifactSet) : String :=
  let schema := match set.schema with
    | some artifacts =>
      String.join (artifacts.constants.map Constant.declaration) ::
        artifacts.members.map Schema.MemberText.text
    | none => []
  let parcelable := match set.parcelable with
    | some artifacts => artifacts.members.map Schema.MemberText.text
    | none => []
  String.intercalate "\n" (schema ++ parcelable)

end ArtifactSet
end Boilerplate
