/-! Qualified names of the classes that generated code treats specially, and the simple names that
stand for them in a type. -/
namespace Boilerplate.JavaType

def objectName : String := "java.lang.Object"
def stringName : String := "java.lang.String"
/-- Stored as milliseconds since the epoch. -/
def dateName : String := "java.util.Date"
def bundleName : String := "android.os.Bundle"
def parcelableName : String := "android.os.Parcelable"
def parcelName : String := "android.os.Parcel"
def cursorName : String := "android.database.Cursor"
def sparseBooleanArrayName : String := "android.util.SparseBooleanArray"

def listNames : List String := ["java.util.List", "java.util.ArrayList"]
def mapNames : List String := ["java.util.Map", "java.util.HashMap"]

def primitiveNames : List String :=
  ["boolean", "byte", "char", "double", "float", "int", "long", "short"]

def boxedNames : List String :=
  ["java.lang.Boolean", "java.lang.Byte", "java.lang.Character", "java.lang.Double",
   "java.lang.Float", "java.lang.Integer", "java.lang.Long", "java.lang.Short"]

/-- Library classes that are serializable without being registered. -/
def serializableNames : List String :=
  ["java.io.Serializable", "java.math.BigDecimal", "java.math.BigInteger", "java.util.UUID",
   "java.util.Locale"]

def isPrimitive (text : String) : Bool := primitiveNames.contains text
def isBoxed (text : String) : Bool := boxedNames.contains text

def simpleNames : List (String × String) :=
  [("String", stringName), ("Object", objectName), ("CharSequence", "java.lang.CharSequence"),
   ("Boolean", "java.lang.Boolean"), ("Byte", "java.lang.Byte"),
   ("Character", "java.lang.Character"), ("Double", "java.lang.Double"),
   ("Float", "java.lang.Float"), ("Integer", "java.lang.Integer"), ("Long", "java.lang.Long"),
   ("Short", "java.lang.Short"), ("Date", dateName), ("List", "java.util.List"),
   ("ArrayList", "java.util.ArrayList"), ("Map", "java.util.Map"),
   ("HashMap", "java.util.HashMap"), ("UUID", "java.util.UUID"), ("Locale", "java.util.Locale"),
   ("BigDecimal", "java.math.BigDecimal"), ("BigInteger", "java.math.BigInteger"),
   ("Serializable", "java.io.Serializable"), ("Bundle", bundleName),
   ("Parcelable", parcelableName), ("SparseBooleanArray", sparseBooleanArrayName)]

/-- The qualified name that a well-known simple name stands for. -/
def qualified? (name : String) : Option String := simpleNames.lookup name

def qualify (name : String) : String := (qualified? name).getD name

end Boilerplate.JavaType
