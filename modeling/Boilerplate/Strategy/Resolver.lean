import Boilerplate.Strategy.Basic
import Boilerplate.Log.Event

/-! Finding the strategy of a type: the first in an order that claims it. -/
namespace Boilerplate
open Log

structure Resolver where
  order : List Strategy
  registry : Registry
deriving Inhabited

/-- No strategy is found for a declared type, possibly that of a field. -/
structure UnsupportedType where
  declaredType : String
  field : Option String
deriving DecidableEq, Repr

def UnsupportedType.message (error : UnsupportedType) : String :=
  "no serializer strategy claims type '" ++ error.declaredType ++ "'" ++
    (match error.field with
      | some field => " (field '" ++ field ++ "')"
      | none => "")

/-- What becomes of a declared type. -/
inductive Resolution (error : Type) where
  | malformed (cause : error)
  | unclaimed (type : JavaType)
  | claimed (strategy : Strategy) (type : JavaType)

/-- A type with the strategy that claims it. -/
structure Resolved where
  strategy : Strategy
  type : JavaType
deriving Repr, Inhabited

namespace Resolved

def transfer (r : Resolved) : Parcel.Transfer := r.strategy.transfer r.type

def write (r : Resolved) (field : Field) : Parcel.Statement := r.transfer.write field

def read (r : Resolved) (field : Field) : List Parcel.Statement := r.transfer.read field

end Resolved

def Resolution.resolved? {error : Type} : Resolution error → Option Resolved
  | claimed strategy type => some ⟨strategy, type⟩
  | _ => none

namespace Resolver

/-- The default order over a registry. -/
def ofRegistry (registry : Registry) : Resolver := ⟨Strategy.defaultOrder, registry⟩

def strategy? (r : Resolver) (type : JavaType) : Option Strategy :=
  r.order.find? fun strategy => strategy.claims r.registry type

def resolution {error : Type} (r : Resolver) (read : Except error JavaType) : Resolution error :=
  match read with
  | .error cause => .malformed cause
  | .ok type =>
    match r.strategy? type with
    | some strategy => .claimed strategy type
    | none => .unclaimed type

def resolve (r : Resolver) (text : String) : Except UnsupportedType Strategy :=
  match (r.resolution (JavaType.parse text)).resolved? with
  | some resolved => .ok resolved.strategy
  | none => .error ⟨text, none⟩

def resolveField (r : Resolver) (field : Field) : Except UnsupportedType Resolved :=
  match (r.resolution field.type).resolved? with
  | some resolved => .ok resolved
  | none => .error ⟨field.declaredType, some field.name⟩

def resolveEvents (r : Resolver) (text : String) : List Event :=
  match r.resolution (JavaType.parse text) with
  | .malformed cause =>
    [⟨.debug, .resolver, "type name does not parse",
      [("type_name", .quoted text), ("error", .plain cause.message)]⟩]
  | .unclaimed type =>
    [⟨.warn, .resolver, "no serializer strategy claims type", [("type_name", .plain type.text)]⟩]
  | .claimed strategy type =>
    [⟨.debug, .resolver, "resolved type",
      [("type_name", .plain type.text), ("strategy", .quoted strategy.title)]⟩]

def resolveFieldEvents (r : Resolver) (field : Field) : List Event :=
  match r.resolution field.type with
  | .malformed cause =>
    [⟨.debug, .resolver, "field type does not parse",
      [("field", .plain field.name), ("error", .plain cause.message)]⟩]
  | .unclaimed type =>
    [⟨.warn, .resolver, "no serializer strategy claims field type",
      [("field", .plain field.name), ("type_name", .plain type.text)]⟩]
  | .claimed strategy type =>
    [⟨.debug, .resolver, "resolved field",
      [("field", .plain field.name), ("type_name", .plain type.text),
       ("strategy", .quoted strategy.title)]⟩]

end Resolver
end Boilerplate
