import Boilerplate.Document.Basic
import Boilerplate.Member.Basic
import Boilerplate.Member.Constant

/-! Members, snapshots and constants as documents. What may be missing is left out when it is. -/
namespace Boilerplate
open Document

namespace Constant

def toDocument (constant : Constant) : Document :=
  record ([("identifier", text constant.identifier), ("value", text constant.value)] ++
    entryOf "comment" text constant.comment)

def ofDocument? (document : Document) : Option Constant := do
  let [identifier, value, comment] ← document.columns? ["identifier", "value", "comment"] | none
  return {
    identifier := ← required asText? identifier
    value := ← required asText? value
    comment := ← optional none (asOption? asText?) comment }

end Constant

namespace Declaration

def entries (declaration : Declaration) : List (String × Document) :=
  [("identifier", .text declaration.identifier)] ++ entryOf "literal" .text declaration.literal ++
    entryOf "text" .text declaration.text

def toDocument (declaration : Declaration) : Document := record declaration.entries

def ofDocument? (document : Document) : Option Declaration := do
  let [identifier, literal, text] ← document.columns? ["identifier", "literal", "text"] | none
  return {
    identifier := ← required asText? identifier
    literal := ← optional none (asOption? asText?) literal
    text := ← optional none (asOption? asText?) text }

end Declaration

namespace Method

def entries (m : Method) : List (String × Document) :=
  [("name", .text m.name), ("parameters", ofTexts m.parameters)] ++ entryOf "text" .text m.text

def ofDocument? (document : Document) : Option Method := do
  let [name, parameters, text] ← document.columns? ["name", "parameters", "text"] | none
  return {
    name := ← required asText? name
    parameters := ← optional [] asTexts? parameters
    text := ← optional none (asOption? asText?) text }

end Method

/-- The kinds of members. -/
def Member.kinds : List String := ["field", "method"]

namespace Member

def toDocument : Member → Document
  | field d => record (("kind", .text "field") :: d.entries)
  | method m => record (("kind", .text "method") :: m.entries)

def ofDocument? (document : Document) : Option Member := do
  let (kind, content) ← document.variant? "kind" kinds false
  if kind == "field" then field <$> Declaration.ofDocument? content
  else method <$> Method.ofDocument? content

end Member

namespace MemberKey

def toDocument : MemberKey → Document
  | field name => record [("kind", text "field"), ("name", text name)]
  | method name parameters =>
    record [("kind", text "method"), ("name", text name), ("parameters", ofTexts parameters)]

def ofDocument? (isInner : Bool) (document : Document) : Option MemberKey := do
  let (kind, content) ← document.variant? "kind" Member.kinds isInner
  if kind == "field" then
    let [name] ← content.columns? ["name"] | none
    return field (← required asText? name)
  else
    let [name, parameters] ← content.columns? ["name", "parameters"] | none
    return method (← required asText? name) (← optional [] asTexts? parameters)

end MemberKey

namespace Snapshot

def toDocument (snapshot : Snapshot) : Document :=
  record [("members", list (snapshot.members.map Member.toDocument)),
    ("interfaces", ofTexts snapshot.interfaces)]

def ofDocument? (document : Document) : Option Snapshot := do
  let [members, interfaces] ← document.columns? ["members", "interfaces"] | none
  return {
    members := ← optional [] (asList? Member.ofDocument?) members
    interfaces := ← optional [] asTexts? interfaces }

end Snapshot
end Boilerplate
