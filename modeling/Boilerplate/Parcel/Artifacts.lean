import Boilerplate.Schema.Artifacts
import Boilerplate.Strategy.Resolver

/-! The members that make a class Parcelable. They are always replaced as a whole. -/
namespace Boilerplate.Parcel
open Schema (MemberText)

structure Artifacts where
  className : String
  describeContents : String
  writeToParcel : String
  /-- Absent when the class has a constructor of its own. -/
  defaultConstructor : Option String
  parcelConstructor : String
  creator : String
deriving DecidableEq, Repr

/-- A field with the strategy of its type. -/
structure ResolvedField where
  field : Field
  resolved : Resolved
deriving Repr

namespace ResolvedField

def write (f : ResolvedField) : Statement := f.resolved.write f.field

def read (f : ResolvedField) : List Statement := f.resolved.read f.field

end ResolvedField

def describeContents : String :=
  "@Override\npublic int describeContents() \x7b\n    return 0;\n\x7d\n"

/-- Statements one a line, inside a body. -/
def body (statements : List Statement) : String :=
  String.join (statements.map fun statement => "    " ++ statement.text ++ "\n")

def writeStatements (fields : List ResolvedField) : List Statement :=
  fields.map ResolvedField.write

def readStatements (fields : List ResolvedField) : List Statement :=
  fields.flatMap ResolvedField.read

def writeToParcel (fields : List ResolvedField) : String :=
  "@Override\npublic void writeToParcel(android.os.Parcel dest, int flags) \x7b\n" ++
    body (writeStatements fields) ++ "\x7d\n"

def parcelConstructor (className : String) (fields : List ResolvedField) : String :=
  "private " ++ className ++ "(android.os.Parcel in) \x7b\n" ++ body (readStatements fields) ++
    "\x7d\n"

def defaultConstructor (className : String) : String :=
  "public " ++ className ++ "() \x7b\n\x7d\n"

def creator (className : String) : String :=
  "public static final android.os.Parcelable.Creator<" ++ className ++
    "> CREATOR = new android.os.Parcelable.Creator<" ++ className ++ ">() \x7b\n" ++
    "    @Override\n" ++
    "    public " ++ className ++ " createFromParcel(android.os.Parcel source) \x7b\n" ++
    "        return new " ++ className ++ "(source);\n" ++
    "    \x7d\n\n" ++
    "    @Override\n" ++
    "    public " ++ className ++ "[] newArray(int size) \x7b\n" ++
    "        return new " ++ className ++ "[size];\n" ++
    "    \x7d\n\x7d;\n"

def artifacts (c : DataClass) (fields : List ResolvedField) : Artifacts where
  className := c.name
  describeContents := describeContents
  writeToParcel := writeToParcel fields
  defaultConstructor := if c.hasExistingConstructor then none else some (defaultConstructor c.name)
  parcelConstructor := parcelConstructor c.name fields
  creator := creator c.name

def describeContentsKey : MemberKey := .method "describeContents" []
def writeToParcelKey : MemberKey := .method "writeToParcel" [JavaType.parcelName, "int"]
def creatorKey : MemberKey := .field Identifier.creator
def parcelConstructorKey (className : String) : MemberKey := .method className [JavaType.parcelName]
def defaultConstructorKey (className : String) : MemberKey := .method className []

namespace Artifacts

/-- The members in the order in which they are appended. -/
def members (a : Artifacts) : List MemberText :=
  [⟨describeContentsKey, a.describeContents⟩, ⟨writeToParcelKey, a.writeToParcel⟩] ++
    (a.defaultConstructor.toList.map fun text => ⟨defaultConstructorKey a.className, text⟩) ++
    [⟨parcelConstructorKey a.className, a.parcelConstructor⟩, ⟨creatorKey, a.creator⟩]

/-- What is removed before the members are appended. -/
def replacedMembers (a : Artifacts) : List MemberKey :=
  [creatorKey, parcelConstructorKey a.className, describeContentsKey, writeToParcelKey]

end Artifacts
end Boilerplate.Parcel
