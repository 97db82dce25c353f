import Boilerplate.Document.MemberDocument
import Boilerplate.Merge.Plan

/-! Plans as documents. -/
namespace Boilerplate.Merge
open Document

namespace Anchor

def kinds : List String := ["end_of_class", "after_existing", "after_planned"]

def toDocument : Anchor → Document
  | endOfClass => record [("kind", text "end_of_class")]
  | afterExisting member occurrence =>
    record [("kind", text "after_existing"), ("member", member.toDocument),
      ("occurrence", natural occurrence)]
  | afterPlanned index => record [("kind", text "after_planned"), ("index", natural index)]

def ofDocument? (isInner : Bool) (document : Document) : Option Anchor := do
  let (kind, content) ← document.variant? "kind" kinds isInner
  if kind == "end_of_class" then
    let [] ← content.columns? [] | none
    return endOfClass
  else if kind == "after_existing" then
    let [member, occurrence] ← content.columns? ["member", "occurrence"] | none
    return afterExisting (← required (MemberKey.ofDocument? true) member)
      (← required asIndex? occurrence)
  else
    let [index] ← content.columns? ["index"] | none
    return afterPlanned (← required asIndex? index)

end Anchor

namespace Insertion

def entries (insertion : Insertion) : List (String × Document) :=
  [("anchor", insertion.anchor.toDocument), ("member", insertion.member.toDocument),
   ("text", .text insertion.text)] ++ entryOf "literal" .text insertion.literal ++
    [("conflict", .bool insertion.conflict)]

def toDocument (insertion : Insertion) : Document := record insertion.entries

def ofDocument? (isInner : Bool) (document : Document) : Option Insertion := do
  let [anchor, member, text, literal, conflict] ←
    document.columns? ["anchor", "member", "text", "literal", "conflict"] | none
  return {
    anchor := ← required (Anchor.ofDocument? isInner) anchor
    member := ← required (MemberKey.ofDocument? isInner) member
    text := ← required asText? text
    literal := ← optional none (asOption? asText?) literal
    conflict := ← required asBool? conflict }

end Insertion

def Decision.ofDocument? (document : Document) : Option Decision := do
  let name ← document.asName?
  [insert, unchanged, conflicting].find? fun decision => decision.id == name

namespace ConstantDecision

def toDocument (entry : ConstantDecision) : Document :=
  record [("identifier", text entry.identifier), ("decision", text entry.decision.id)]

def ofDocument? (document : Document) : Option ConstantDecision := do
  let [identifier, decision] ← document.columns? ["identifier", "decision"] | none
  return ⟨← required asText? identifier, ← required Decision.ofDocument? decision⟩

end ConstantDecision

namespace ConstantPlan

def toDocument (plan : ConstantPlan) : Document :=
  record [("insertions", list (plan.insertions.map Insertion.toDocument)),
    ("decisions", list (plan.decisions.map ConstantDecision.toDocument))]

def ofDocument? (document : Document) : Option ConstantPlan := do
  let [insertions, decisions] ← document.columns? ["insertions", "decisions"] | none
  return {
    insertions := ← required (asList? (Insertion.ofDocument? false)) insertions
    decisions := ← required (asList? ConstantDecision.ofDocument?) decisions }

end ConstantPlan

namespace Instruction

def kinds : List String := ["remove", "insert", "implement_interface"]

def toDocument : Instruction → Document
  | remove member => record [("op", text "remove"), ("member", member.toDocument)]
  | insert insertion => record (("op", text "insert") :: insertion.entries)
  | implementInterface interface =>
    record [("op", text "implement_interface"), ("interface", text interface)]

def ofDocument? (document : Document) : Option Instruction := do
  let (kind, content) ← document.variant? "op" kinds false
  if kind == "remove" then
    let [member] ← content.columns? ["member"] | none
    return remove (← required (MemberKey.ofDocument? true) member)
  else if kind == "insert" then insert <$> Insertion.ofDocument? true content
  else
    let [interface] ← content.columns? ["interface"] | none
    return implementInterface (← required asText? interface)

end Instruction

namespace EditPlan

def toDocument (plan : EditPlan) : Document :=
  record [("instructions", list (plan.instructions.map Instruction.toDocument)),
    ("decisions", list (plan.decisions.map ConstantDecision.toDocument))]

def ofDocument? (document : Document) : Option EditPlan := do
  let [instructions, decisions] ← document.columns? ["instructions", "decisions"] | none
  return {
    instructions := ← required (asList? Instruction.ofDocument?) instructions
    decisions := ← optional [] (asList? ConstantDecision.ofDocument?) decisions }

end EditPlan
end Boilerplate.Merge
