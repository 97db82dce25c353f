import Boilerplate.DataClass.Basic
import Boilerplate.Parcel.Statement

/-! How one value crosses a parcel: the method of `Parcel` that carries it, the statement that
writes a field with it, and the statements that read the field back. -/
namespace Boilerplate.Parcel
open Boilerplate.Parcel.Expr

inductive Transfer where
  | bundle
  | map (key value : JavaType)
  /-- A date as milliseconds, and -1 for none. -/
  | epoch
  | sparseBooleanArray
  /-- An enumeration as its ordinal, and -1 for none. -/
  | ordinal (enumeration : String)
  | typedList (element : String)
  /-- By the pair of methods with this suffix. -/
  | direct (suffix : String)
  /-- A boolean as a byte. -/
  | flag
  /-- A narrow value as an `int`, cast back when it is read. -/
  | widened (type : String)
  | boxed (type : JavaType)
  /-- An array of the elements that this suffix names. -/
  | array (suffix : String)
  | list (element : JavaType)
  | parcelable (type : JavaType)
  | serializable (type : JavaType)
deriving Repr, Inhabited

namespace Transfer

/-- The variable of the parcel that is written. -/
def destination : String := "dest"

/-- The variable of the parcel that is read. -/
def source : String := "in"

def carrier : Transfer → String
  | bundle => "Bundle"
  | map _ _ => "Map"
  | epoch => "Long"
  | sparseBooleanArray => "SparseBooleanArray"
  | ordinal _ => "Int"
  | typedList _ => "TypedList"
  | direct suffix => suffix
  | flag => "Byte"
  | widened _ => "Int"
  | boxed _ => "Value"
  | array suffix => suffix ++ "Array"
  | list _ => "List"
  | parcelable _ => "Parcelable"
  | serializable _ => "Serializable"

/-- What is handed to the parcel for a field. -/
def written (field : String) : Transfer → List Expr
  | epoch =>
    [choose (unequal (this field) (word "null")) (call (this field) "getTime" []) (word "-1")]
  | ordinal _ =>
    [choose (equal (this field) (word "null")) (word "-1") (call (this field) "ordinal" [])]
  | flag => [choose (this field) (cast "byte" (word "1")) (cast "byte" (word "0"))]
  | parcelable _ => [this field, word "flags"]
  | _ => [this field]

def write (transfer : Transfer) (field : Field) : Statement :=
  .run (call (word destination) ("write" ++ transfer.carrier) (transfer.written field.name))

/-- A call on the parcel that is read. -/
def take (method : String) (arguments : List Expr) : Expr := call (word source) method arguments

/-- Reads a number into a temporary, and the field from it unless it is -1. -/
def readThrough (field number method : String) (value : Expr → Expr) : List Statement :=
  let temporary := Identifier.temporary field
  [.declare number temporary (take method []),
   .assign field (choose (equal (word temporary) (word "-1")) (word "null")
     (value (word temporary)))]

/-- Makes a new collection and fills it. -/
def readInto (field collection method filler : String) : List Statement :=
  [.assign field (new collection []), .run (take method [this field, classLoader filler])]

def read (transfer : Transfer) (field : Field) : List Statement :=
  let name := field.name
  match transfer with
  | bundle => [.assign name (take "readBundle" [])]
  | map key value =>
    readInto name ("java.util.HashMap<" ++ key.text ++ "," ++ value.text ++ ">") "readMap"
      value.erasure
  | epoch => readThrough name "long" "readLong" fun t => new JavaType.dateName [t]
  | sparseBooleanArray => [.assign name (take "readSparseBooleanArray" [])]
  | ordinal enumeration =>
    readThrough name "int" "readInt" fun t => item (call (word enumeration) "values" []) t
  | typedList element =>
    [.assign name (take "createTypedArrayList" [word (element ++ ".CREATOR")])]
  | direct suffix => [.assign name (take ("read" ++ suffix) [])]
  | flag => [.assign name (unequal (take "readByte" []) (word "0"))]
  | widened type => [.assign name (cast type (take "readInt" []))]
  | boxed type => [.assign name (cast type.text (take "readValue" [classLoader type.erasure]))]
  | array suffix => [.assign name (take ("create" ++ suffix ++ "Array") [])]
  | list element =>
    readInto name ("java.util.ArrayList<" ++ element.text ++ ">") "readList" element.erasure
  | parcelable type => [.assign name (take "readParcelable" [classLoader type.erasure])]
  | serializable type => [.assign name (cast type.text (take "readSerializable" []))]

end Transfer

/-- Statements one a line. -/
def joinLines (statements : List Statement) : String :=
  String.intercalate "\n" (statements.map Statement.text)

end Boilerplate.Parcel
