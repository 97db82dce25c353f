import Boilerplate.JavaType.Basic

/-! How a type is kept in a column: its declaration in SQL, the expression that reads it from a
cursor, and the form in which a value is stored. All three go by the canonical text of the type. -/
namespace Boilerplate.Schema

inductive SqlType where
  | blob
  | integer
  | text
deriving DecidableEq, Repr

namespace SqlType

def clause : SqlType → String
  | blob => "BLOB"
  | integer => "INTEGER DEFAULT 0"
  | text => "TEXT"

def integerNames : List String :=
  ["byte", "double", "float", "int", "long", "short", "boolean", "java.lang.Byte",
   "java.lang.Double", "java.lang.Float", "java.lang.Integer", "java.lang.Long",
   "java.lang.Boolean"]

def ofType (type : JavaType) : SqlType :=
  if type.text == "byte[]" then blob
  else if integerNames.contains type.text || type.text == JavaType.dateName then integer
  else text

end SqlType

/-- The declaration of the primary key. -/
def primaryKeyClause : String := "INTEGER PRIMARY KEY AUTOINCREMENT"

inductive ColumnReader where
  | byte
  | boxedByte
  | short
  | int
  | long
  | double
  | float
  | blob
  | boolean
  | boxedBoolean
  | timestamp
  | string
deriving DecidableEq, Repr

namespace ColumnReader

def readers : List (String × ColumnReader) :=
  [("byte", byte), ("java.lang.Byte", boxedByte), ("short", short), ("int", int),
   ("java.lang.Integer", int), ("long", long), ("java.lang.Long", long), ("double", double),
   ("java.lang.Double", double), ("float", float), ("java.lang.Float", float), ("byte[]", blob),
   ("boolean", boolean), ("java.lang.Boolean", boxedBoolean), (JavaType.dateName, timestamp)]

/-- Every type without a reader of its own is read as a string. -/
def ofType (type : JavaType) : ColumnReader := (readers.lookup type.text).getD string

/-- Reads column `i` of the cursor `c`. -/
def expression : ColumnReader → String
  | byte => "(byte) c.getInt(i)"
  | boxedByte => "(Byte) c.getInt(i)"
  | short => "c.getShort(i)"
  | int => "c.getInt(i)"
  | long => "c.getLong(i)"
  | double => "c.getDouble(i)"
  | float => "c.getFloat(i)"
  | blob => "c.getBlob(i)"
  | boolean => "c.getInt(i) == 1"
  | boxedBoolean => "(Boolean) (c.getInt(i) == 1)"
  | timestamp => "new java.util.Date(c.getLong(i))"
  | string => "c.getString(i)"

end ColumnReader

inductive ValueConversion where
  | verbatim
  | booleanAsInt
  | epochMillis
deriving DecidableEq, Repr

namespace ValueConversion

def ofType (type : JavaType) : ValueConversion :=
  if type.text == JavaType.dateName then epochMillis
  else if type.text == "boolean" || type.text == "java.lang.Boolean" then booleanAsInt
  else verbatim

/-- The stored form of the value that goes by that name. -/
def apply (conversion : ValueConversion) (name : String) : String :=
  match conversion with
  | verbatim => name
  | booleanAsInt => name ++ " ? 1 : 0"
  | epochMillis => name ++ ".getTime()"

end ValueConversion
end Boilerplate.Schema
