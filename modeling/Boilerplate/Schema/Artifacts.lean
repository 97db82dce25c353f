import Boilerplate.DataClass.Validation
import Boilerplate.Member.Basic
import Boilerplate.Member.Constant
import Boilerplate.Options
import Boilerplate.Schema.Column

/-! The members that tie a class to its table: constants for the table and the columns, the list of
columns, the statement that creates the table, and the two methods between rows and objects. Columns
stand in field order everywhere. -/
namespace Boilerplate.Schema

/-- A generated member and the key it is declared under. -/
structure MemberText where
  key : MemberKey
  text : String
deriving DecidableEq, Repr

structure Artifacts where
  constants : List Constant
  fullProjection : String
  createTable : String
  cursorDeserializer : String
  contentValues : String
deriving DecidableEq, Repr

/-- The comment on the table's constant. -/
def tableComment : String := "TODO: verify"

def tableConstant (c : DataClass) : Constant := ⟨Identifier.table, c.name, some tableComment⟩

/-- The value is the column's name, which is the field's name as it stands. -/
def fieldConstant (field : Field) : Constant := ⟨field.identifier, field.name, none⟩

def constants (c : DataClass) : List Constant := tableConstant c :: c.fields.map fieldConstant

def fullProjection (identifiers : List String) : String :=
  "public static final String[] FULL_PROJECTION = new String[] \x7b\n" ++
    String.intercalate "," identifiers ++ "\n\x7d;\n"

/-- A column of the statement that creates the table. -/
structure Column where
  identifier : String
  clause : String
deriving DecidableEq, Repr

def Column.ofField (typed : TypedField) : Column :=
  ⟨typed.field.identifier,
    if Identifier.isPrimaryKey typed.field.identifier then primaryKeyClause
    else (SqlType.ofType typed.type).clause⟩

def blanks (n : Nat) : String := String.ofList (List.replicate n ' ')

/-- Fills up to a number of characters. -/
def padRight (width : Nat) (s : String) : String := s ++ blanks (width - s.length)

/-- Three more than the bytes of the longest identifier. -/
def identifierWidth (columns : List Column) : Nat :=
  (columns.map fun column => column.identifier.utf8ByteSize).foldl max 0 + 3

/-- One line of the concatenation. A comma follows all columns but the last. -/
def columnLine (width : Nat) (comma : String) (column : Column) : String :=
  "+ " ++ padRight width column.identifier ++ " + \" " ++ column.clause ++ comma ++ " \"\n"

def columnLines (width : Nat) : List Column → String
  | [] => ""
  | [last] => columnLine width "" last
  | column :: more => columnLine width "," column ++ columnLines width more

def createTable (columns : List Column) : String :=
  "public static final String CREATE_TABLE = " ++
    "\"CREATE TABLE IF NOT EXISTS \"\n+ TABLE\n+ \" (\"\n" ++
    (columnLines (identifierWidth columns) columns ++ "+ \");\";\n")

/-- A branch of the chain that finds the field of a column by name. -/
structure CursorBranch where
  identifier : String
  field : String
  reader : ColumnReader
deriving DecidableEq, Repr

def CursorBranch.ofField (typed : TypedField) : CursorBranch :=
  ⟨typed.field.identifier, typed.field.name, ColumnReader.ofType typed.type⟩

def CursorBranch.text (branch : CursorBranch) : String :=
  "if (" ++ branch.identifier ++ ".equals(colname))\x7b\n            this." ++ branch.field ++
    " = " ++ branch.reader.expression ++ ";\n        \x7d"

/-- The chain of branches, ended by the warning on columns that no field has. -/
def cursorChain (logTag : String) : List CursorBranch → String
  | [] => ""
  | first :: more =>
    "        " ++ first.text ++ String.join (more.map fun branch => " else " ++ branch.text) ++
      " else \x7b\n            android.util.Log.w(" ++ logTag ++
      ", \"Unknown column name: \" + colname);\n        \x7d\n"

def cursorDeserializer (logTag : String) (branches : List CursorBranch) : String :=
  "private final void createFromCursor(android.database.Cursor c)\x7b\n" ++
    "    int colCount = c.getColumnCount();\n" ++
    "    for(int i=0; i<colCount; i++)\x7b\n" ++
    "        final String colname = c.getColumnName(i);\n" ++
    cursorChain logTag branches ++ "    \x7d\n\x7d\n"

/-- An entry of the content values. A value that may be missing is put only when it is there. -/
structure ContentEntry where
  identifier : String
  field : String
  conversion : ValueConversion
  guarded : Bool
deriving DecidableEq, Repr

def ContentEntry.ofField (typed : TypedField) : ContentEntry :=
  ⟨typed.field.identifier, typed.field.name, ValueConversion.ofType typed.type,
    !typed.field.isPrimitive⟩

def ContentEntry.text (entry : ContentEntry) : String :=
  let put := "args.put(" ++ entry.identifier ++ ", " ++ entry.conversion.apply entry.field ++ ");\n"
  if entry.guarded then
    "    if (this." ++ entry.field ++ " != null)\n        " ++ put
  else "    " ++ put

def contentValues (entries : List ContentEntry) : String :=
  "public android.content.ContentValues getDbContentValues() \x7b\n" ++
    "    android.content.ContentValues args = new android.content.ContentValues();\n" ++
    String.join (entries.map ContentEntry.text) ++ "    return args;\n\x7d\n"

/-- The artifacts of a class whose types are read. -/
def artifacts (options : Options) (c : DataClass) (fields : List TypedField) : Artifacts where
  constants := constants c
  fullProjection := fullProjection c.identifiers
  createTable := createTable (fields.map Column.ofField)
  cursorDeserializer := cursorDeserializer options.logTag (fields.map CursorBranch.ofField)
  contentValues := contentValues (fields.map ContentEntry.ofField)

def fullProjectionKey : MemberKey := .field Identifier.fullProjection
def createTableKey : MemberKey := .field Identifier.createTable
def cursorDeserializerKey : MemberKey := .method "createFromCursor" [JavaType.cursorName]
def contentValuesKey : MemberKey := .method "getDbContentValues" []

/-- The members that are no constants, in the order of their insertion. -/
def Artifacts.members (a : Artifacts) : List MemberText :=
  [⟨fullProjectionKey, a.fullProjection⟩, ⟨createTableKey, a.createTable⟩,
   ⟨cursorDeserializerKey, a.cursorDeserializer⟩, ⟨contentValuesKey, a.contentValues⟩]

end Boilerplate.Schema
