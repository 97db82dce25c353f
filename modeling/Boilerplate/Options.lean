/-! What a user may choose about generated text. -/
namespace Boilerplate

structure Options where
  /-- The tag of the warning on unknown columns. -/
  logTag : String
  /-- The comment on declarations that conflict with existing ones. -/
  conflictNote : String
deriving DecidableEq, Repr

def Options.standard : Options := ⟨"THIS_FILE", "TODO: verify"⟩

instance : Inhabited Options := ⟨Options.standard⟩

end Boilerplate
