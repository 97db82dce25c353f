import Boilerplate.Document.ClassDocument
import Boilerplate.Document.JsonPrinter
import Boilerplate.Document.JsonReader
import Boilerplate.Document.MemberDocument

/-! The files that hold classes and snapshots. -/
namespace Boilerplate

def DataClass.load? (text : String) : Option DataClass :=
  (Json.read? text).bind DataClass.ofDocument?

def Snapshot.load? (text : String) : Option Snapshot :=
  (Json.read? text).bind Snapshot.ofDocument?

def Snapshot.save (snapshot : Snapshot) : String := Json.pretty 0 snapshot.toDocument ++ "\n"

end Boilerplate
