import Boilerplate.Registry
import Boilerplate.Parcel.Transfer

/-! Serializer strategies. Each claims a family of types and chooses how values of a type cross a
parcel. -/
namespace Boilerplate
open Parcel

inductive Strategy where
  | mapContainer
  | date
  | sparseBooleanArray
  | enumeration
  | typedListOfStructured
  | primitive
  | primitiveArray
  | genericList
  | structuredObject
  | genericFallback
deriving DecidableEq, Repr, Inhabited

namespace Strategy

/-- Containers and specific families first, the serializable fallback last. -/
def defaultOrder : List Strategy :=
  [mapContainer, date, sparseBooleanArray, enumeration, typedListOfStructured, primitive,
   primitiveArray, genericList, structuredObject, genericFallback]

/-- The name in documents. -/
def id : Strategy → String
  | mapContainer => "map_container"
  | date => "date"
  | sparseBooleanArray => "sparse_boolean_array"
  | enumeration => "enumeration"
  | typedListOfStructured => "typed_list_of_structured"
  | primitive => "primitive"
  | primitiveArray => "primitive_array"
  | genericList => "generic_list"
  | structuredObject => "structured_object"
  | genericFallback => "generic_fallback"

/-- The name shown to people. -/
def title : Strategy → String
  | mapContainer => "Map container"
  | date => "Date"
  | sparseBooleanArray => "Sparse boolean array"
  | enumeration => "Enumeration"
  | typedListOfStructured => "Typed Parcelable list"
  | primitive => "Primitive"
  | primitiveArray => "Primitive array"
  | genericList => "Generic list"
  | structuredObject => "Parcelable object"
  | genericFallback => "Serializable fallback"

/-- The claimed types in short. -/
def claimedTypes : Strategy → String
  | mapContainer => "android.os.Bundle, java.util.Map<K,V>, java.util.HashMap<K,V>"
  | date => "java.util.Date"
  | sparseBooleanArray => "android.util.SparseBooleanArray"
  | enumeration => "registered enums"
  | typedListOfStructured => "List/ArrayList of registered Parcelable types"
  | primitive => "primitives, java.lang.String, boxed java.lang wrappers"
  | primitiveArray => "boolean[] byte[] char[] double[] float[] int[] long[] String[]"
  | genericList => "any other List/ArrayList"
  | structuredObject => "android.os.Parcelable and registered Parcelable types"
  | genericFallback =>
    "registered Serializable types, Serializable, BigDecimal, BigInteger, UUID, Locale"

/-- Suffixes of the parcel methods for values of one type. -/
def directSuffixes : List (String × String) :=
  [("byte", "Byte"), ("double", "Double"), ("float", "Float"), ("int", "Int"), ("long", "Long"),
   (JavaType.stringName, "String")]

/-- Suffixes of the parcel methods for arrays of one type. -/
def arraySuffixes : List (String × String) :=
  [("boolean", "Boolean"), ("byte", "Byte"), ("char", "Char"), ("double", "Double"),
   ("float", "Float"), ("int", "Int"), ("long", "Long"), (JavaType.stringName, "String")]

/-- How a primitive, a string or a boxed value crosses. -/
def primitiveTransfer? (type : JavaType) : Option Transfer :=
  if type.isArray || !type.arguments.isEmpty then none
  else match directSuffixes.lookup type.base with
    | some suffix => some (.direct suffix)
    | none =>
      if type.base == "boolean" then some .flag
      else if type.base == "char" || type.base == "short" then some (.widened type.base)
      else if JavaType.isBoxed type.base then some (.boxed type)
      else none

def arraySuffix? (type : JavaType) : Option String :=
  if type.arrayDepth != 1 || !type.arguments.isEmpty then none
  else arraySuffixes.lookup type.base

def claims (strategy : Strategy) (registry : Registry) (type : JavaType) : Bool :=
  match strategy with
  | mapContainer => type.isExactly JavaType.bundleName || type.isOneOf JavaType.mapNames
  | date => type.isExactly JavaType.dateName
  | sparseBooleanArray => type.isExactly JavaType.sparseBooleanArrayName
  | enumeration => registry.isEnum type
  | typedListOfStructured =>
    type.isOneOf JavaType.listNames && (type.argument? 0).any registry.isStructured
  | primitive => (primitiveTransfer? type).isSome
  | primitiveArray => (arraySuffix? type).isSome
  | genericList => type.isOneOf JavaType.listNames
  | structuredObject => registry.isStructured type
  | genericFallback =>
    registry.isSerializable type || type.isOneOf JavaType.serializableNames

/-- How the strategy moves values of a type. A type it does not claim gets the nearest form. -/
def transfer (strategy : Strategy) (type : JavaType) : Transfer :=
  match strategy with
  | mapContainer =>
    if type.isExactly JavaType.bundleName then .bundle
    else .map (type.argumentOrObject 0) (type.argumentOrObject 1)
  | date => .epoch
  | sparseBooleanArray => .sparseBooleanArray
  | enumeration => .ordinal type.base
  | typedListOfStructured => .typedList (type.argumentOrObject 0).base
  | primitive => (primitiveTransfer? type).getD (.boxed type)
  | primitiveArray => .array ((arraySuffix? type).getD "Value")
  | genericList => .list (type.argumentOrObject 0)
  | structuredObject => .parcelable type
  | genericFallback => .serializable type

end Strategy
end Boilerplate
