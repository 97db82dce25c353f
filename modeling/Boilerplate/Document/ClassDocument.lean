import Boilerplate.DataClass.Basic
import Boilerplate.Document.Basic

/-! Classes and fields as documents. A field that does not say whether it is primitive goes by its
type. -/
namespace Boilerplate
open Document

namespace Field

def toDocument (field : Field) : Document :=
  record [("name", text field.name), ("type", text field.declaredType),
    ("is_primitive", bool field.isPrimitive)]

def ofDocument? (document : Document) : Option Field := do
  let [name, type, isPrimitive] ← document.columns? ["name", "type", "is_primitive"] | none
  let name ← required asText? name
  let type ← required asText? type
  let isPrimitive ← optional none (asOption? asBool?) isPrimitive
  return match isPrimitive with
    | some isPrimitive => ⟨name, type, isPrimitive⟩
    | none => inferred name type

end Field

namespace DataClass

def toDocument (c : DataClass) : Document :=
  record [("name", text c.name), ("fields", list (c.fields.map Field.toDocument)),
    ("has_existing_constructor", bool c.hasExistingConstructor)]

def ofDocument? (document : Document) : Option DataClass := do
  let [name, fields, hasConstructor] ←
    document.columns? ["name", "fields", "has_existing_constructor"] | none
  return {
    name := ← required asText? name
    fields := ← optional [] (asList? Field.ofDocument?) fields
    hasExistingConstructor := ← optional false asBool? hasConstructor }

end DataClass
end Boilerplate
