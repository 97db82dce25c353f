import Boilerplate.Document.MemberDocument
import Boilerplate.Generator

/-! Generated artifacts as documents. -/
namespace Boilerplate
open Document

def Schema.Artifacts.toDocument (a : Schema.Artifacts) : Document :=
  record [("constants", list (a.constants.map Constant.toDocument)),
    ("full_projection", text a.fullProjection), ("create_table", text a.createTable),
    ("cursor_deserializer", text a.cursorDeserializer),
    ("content_values", text a.contentValues)]

def Parcel.Artifacts.toDocument (a : Parcel.Artifacts) : Document :=
  record [("class_name", text a.className), ("describe_contents", text a.describeContents),
    ("write_to_parcel", text a.writeToParcel),
    ("default_constructor", match a.defaultConstructor with
      | some constructor => text constructor
      | none => null),
    ("parcel_constructor", text a.parcelConstructor), ("creator", text a.creator)]

def ArtifactSet.toDocument (set : ArtifactSet) : Document :=
  record (entryOf "schema" Schema.Artifacts.toDocument set.schema ++
    entryOf "parcelable" Parcel.Artifacts.toDocument set.parcelable)

end Boilerplate
