import Boilerplate.DataClass.Basic

/-! Which classes can be generated for. Names must be legal, field names and the identifiers made
from them must differ, and every type must read. Fields are checked in order and the first fault is
the one reported. -/
namespace Boilerplate

/-- Checks a field against those declared before it. -/
def Field.check (earlier : List Field) (field : Field) : Except ClassError Unit :=
  if !Identifier.isLegal field.name then .error (.illegalIdentifier field.name)
  else if earlier.any fun other => other.name == field.name then
    .error (.duplicateField field.name)
  else match earlier.find? fun other => other.identifier == field.identifier with
    | some first => .error (.identifierCollision field.identifier first.name field.name)
    | none => field.type.map fun _ => ()

namespace DataClass

def checkFields : List Field → List Field → Except ClassError Unit
  | _, [] => .ok ()
  | earlier, field :: rest => do
    field.check earlier
    checkFields (earlier ++ [field]) rest

def validate (c : DataClass) : Except ClassError Unit :=
  if (Text.trim c.name).isEmpty then .error .emptyClassName
  else if !Identifier.isLegal c.name then .error (.illegalIdentifier c.name)
  else checkFields [] c.fields

end DataClass
end Boilerplate
