import Boilerplate.Text.Letter

/-! Java identifiers, and the names that generated members and locals get from field names. -/
namespace Boilerplate.Identifier
open Text

def reservedWords : List String :=
  ["abstract", "assert", "boolean", "break", "byte", "case", "catch", "char", "class", "const",
   "continue", "default", "do", "double", "else", "enum", "extends", "false", "final", "finally",
   "float", "for", "goto", "if", "implements", "import", "instanceof", "int", "interface", "long",
   "native", "new", "null", "package", "private", "protected", "public", "return", "short",
   "static", "strictfp", "super", "switch", "synchronized", "this", "throw", "throws",
   "transient", "true", "try", "void", "volatile", "while"]

def isStart (c : Char) : Bool := isLetter c || c == '_' || c == '$'

def isPart (c : Char) : Bool := isAlphanumeric c || c == '_' || c == '$'

/-- An identifier that is not a reserved word. -/
def isLegal (name : String) : Bool :=
  match name.toList with
  | [] => false
  | first :: rest => isStart first && rest.all isPart && !reservedWords.contains name

/-- A capital after the first character starts a word. -/
def snakePart (c : Char) : List Char := if c.isUpper then ['_', c] else [c.toUpper]

def upperSnakeChars : List Char → List Char
  | [] => []
  | first :: rest => first.toUpper :: rest.flatMap snakePart

/-- Camel case in capitals, with every ASCII capital after the first character a word of its own:
`userID` becomes `USER_I_D`. -/
def upperSnake (name : String) : String := String.ofList (upperSnakeChars name.toList)

/-- The constant that holds a field's column name. -/
def ofField (name : String) : String := "FIELD_" ++ upperSnake name

def table : String := "TABLE"
def fullProjection : String := "FULL_PROJECTION"
def createTable : String := "CREATE_TABLE"
def creator : String := "CREATOR"

/-- Equal up to the case of ASCII letters. -/
def sameButCase (s t : String) : Bool := s.toList.map Char.toLower == t.toList.map Char.toLower

/-- The column under this constant is the primary key. -/
def isPrimaryKey (identifier : String) : Bool := sameButCase identifier "FIELD_ID"

def temporaryChars : List Char → List Char
  | [] => []
  | first :: rest => first.toUpper :: rest

/-- The local that holds a nullable value on its way into a field: `tmpBirthday`. -/
def temporary (name : String) : String := "tmp" ++ String.ofList (temporaryChars name.toList)

end Boilerplate.Identifier
