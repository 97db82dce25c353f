import Boilerplate.JavaType.Parser
import Boilerplate.Identifier

/-! Data classes as the host describes them: a name and fields in declaration order. Types are kept
as they were written. -/
namespace Boilerplate

structure Field where
  name : String
  declaredType : String
  isPrimitive : Bool
deriving DecidableEq, Repr, Inhabited

structure DataClass where
  name : String
  fields : List Field
  hasExistingConstructor : Bool
deriving DecidableEq, Repr, Inhabited

/-- A field with its type read. -/
structure TypedField where
  field : Field
  type : JavaType
deriving Repr, Inhabited

/-- What is wrong with a class description. -/
inductive ClassError where
  | emptyClassName
  | illegalIdentifier (name : String)
  | duplicateField (name : String)
  | identifierCollision (identifier first second : String)
  | malformedFieldType (field : String) (cause : JavaType.Malformed)
deriving DecidableEq, Repr

def ClassError.message : ClassError → String
  | emptyClassName => "class name must not be empty"
  | illegalIdentifier name => "'" ++ name ++ "' is not a valid Java identifier"
  | duplicateField name => "field '" ++ name ++ "' is declared more than once"
  | identifierCollision identifier first second =>
    "fields '" ++ first ++ "' and '" ++ second ++ "' both map to identifier " ++ identifier
  | malformedFieldType field cause =>
    "field '" ++ field ++ "' has an invalid type '" ++ cause.text ++ "': " ++ cause.reason

namespace Field

/-- Primitive when the declared type names a primitive. -/
def inferred (name declaredType : String) : Field :=
  ⟨name, declaredType, JavaType.isPrimitive (Text.trim declaredType)⟩

def type (field : Field) : Except ClassError JavaType :=
  (JavaType.parse field.declaredType).mapError (.malformedFieldType field.name)

def identifier (field : Field) : String := Identifier.ofField field.name

def typed (field : Field) : Except ClassError TypedField :=
  field.type.map fun type => ⟨field, type⟩

end Field

namespace DataClass

/-- The generated identifiers, in field order. -/
def identifiers (c : DataClass) : List String := c.fields.map Field.identifier

def typedFields (c : DataClass) : Except ClassError (List TypedField) := c.fields.mapM Field.typed

end DataClass
end Boilerplate
